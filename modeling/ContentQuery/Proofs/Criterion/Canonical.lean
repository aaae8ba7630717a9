import ContentQuery.Proofs.Criterion.Atoms

/-!
# Canonical predicates

What remains of a criterion has a canonical form: no negation negates another one, every junction
has two parts or more, and no path is that of the root. A canonical predicate can be read as a
criterion again, and exactly such predicates are what remains of the criterion that they are read
as.
-/

namespace ContentQuery

/-- The mode whose patterns are open where a pattern is. -/
def Pattern.mode (pattern : Pattern) : MatchMode :=
  match pattern.openStart, pattern.openEnd with
  | false, false => .exact
  | false, true => .start
  | true, false => .finish
  | true, true => .anywhere

/-- A pattern is the one that its mode makes of its literal. -/
@[simp] theorem Pattern.pattern_mode (pattern : Pattern) :
    pattern.mode.pattern pattern.literal = pattern := by
  obtain ⟨literal, openStart, openEnd⟩ := pattern
  cases openStart <;> cases openEnd <;> rfl

namespace Predicate

/-- A predicate in which, at every place, a negation negates no negation, a junction has two parts
or more, and a path is not that of the root. -/
inductive Canonical : Predicate → Prop
  | compare (p : Property) (op : Comparator) (v : Value) : Canonical (.compare p op v)
  | like (p : Property) (pattern : Pattern) : Canonical (.like p pattern)
  | contains (p : Property) (s : String) : Canonical (.contains p s)
  | presence (p : Property) (present : Bool) : Canonical (.presence p present)
  | descendantOf {path : String} (hpath : path ≠ "/") : Canonical (.descendantOf path)
  | not {inner : Predicate} (hinner : ∀ p, inner ≠ .not p) (h : Canonical inner) :
    Canonical (.not inner)
  | junction (k : Connective) {parts : List Predicate} (hlength : 2 ≤ parts.length)
    (h : ∀ p ∈ parts, Canonical p) : Canonical (.junction k parts)

mutual

/-- The criterion that a predicate is read as. -/
def toCriterion : Predicate → Criterion
  | compare p op v => .comparison p op v
  | like p pattern => .patternMatch p pattern.literal pattern.mode
  | contains p s => .containment p s
  | presence p present => .presence p present
  | descendantOf path => .descendantOf path
  | not inner => .not (toCriterion inner)
  | junction k parts => .junction k (toCriteria parts)

/-- The criteria that parts are read as. -/
def toCriteria : List Predicate → List Criterion
  | [] => []
  | p :: rest => toCriterion p :: toCriteria rest

end

/-- Parts are read one by one. -/
@[simp] theorem toCriteria_eq (parts : List Predicate) : toCriteria parts = parts.map toCriterion := by
  induction parts with
  | nil => rfl
  | cons p rest ih => simp [toCriteria, ih]

end Predicate

namespace Criterion

/-- What remains of a criterion is canonical, unless it is a constant. -/
theorem canonical_of_reduce {c : Criterion} {p : Predicate} (h : c.reduce = .predicate p) :
    p.Canonical := by
  induction c generalizing p with
  | comparison q op v =>
    cases h
    exact .compare q op v
  | range q l u =>
    cases h
    refine .junction .and (by simp) fun part hpart => ?_
    rcases List.mem_cons.mp hpart with rfl | hpart
    · exact .compare q .ge l
    · obtain rfl := List.mem_singleton.mp hpart
      exact .compare q .le u
  | patternMatch q s mode =>
    cases h
    exact .like q _
  | presence q present =>
    cases h
    exact .presence q present
  | anyOf q texts =>
    have heach : ∀ part ∈ texts.map (Predicate.contains q), part.Canonical := by
      intro part hpart
      obtain ⟨s, -, rfl⟩ := List.mem_map.mp hpart
      exact .contains q s
    rcases Reduced.ofParts_eq_predicate h with hsingle | ⟨hlength, rfl⟩
    · exact heach p (hsingle ▸ List.mem_singleton_self p)
    · exact .junction .or hlength heach
  | containment q s =>
    cases h
    exact .contains q s
  | descendantOf path =>
    rw [reduce] at h
    split at h
    · cases h
    · next hroot =>
      cases h
      exact .descendantOf fun heq => hroot (decide_eq_true heq)
  | not inner ih =>
    rcases Reduced.negate_eq_predicate h with hinner | ⟨q, hinner, rfl, hq⟩
    · obtain _ | _ | _ | _ | _ | ⟨-, hp⟩ | _ := ih hinner
      exact hp
    · exact .not hq (ih hinner)
  | junction k clauses ih =>
    have heach (q : Predicate) (hq : .predicate q ∈ clauses.map reduce) : q.Canonical := by
      obtain ⟨c, hc, hreduce⟩ := List.mem_map.mp hq
      exact ih c hc hreduce
    rw [reduce, reduceAll_eq] at h
    rcases Reduced.join_eq_predicate h with hsingle | ⟨kept, rfl, hlength, hkept⟩
    · exact heach p hsingle
    · exact .junction k hlength fun q hq => heach q (hkept.mem (List.mem_map_of_mem hq))

/-- A canonical predicate is what remains of the criterion that it is read as. -/
theorem reduce_toCriterion {p : Predicate} (h : p.Canonical) :
    p.toCriterion.reduce = .predicate p := by
  induction h with
  | compare | contains | presence => rfl
  | like q pattern => rw [Predicate.toCriterion, reduce, Pattern.pattern_mode]
  | @descendantOf path hpath =>
    have hroot : Path.isRoot path = false := decide_eq_false hpath
    rw [Predicate.toCriterion, reduce, hroot]
    rfl
  | not hinner _ ih => rw [Predicate.toCriterion, reduce, ih, Reduced.negate_predicate hinner]
  | @junction k parts hlength _ ih =>
    have heach : (parts.map Predicate.toCriterion).map reduce = parts.map .predicate := by
      rw [List.map_map]
      exact List.map_congr_left ih
    rw [Predicate.toCriterion, Predicate.toCriteria_eq, reduce, reduceAll_eq, heach, Reduced.join,
      Reduced.keep_map_predicate]
    exact Reduced.ofParts_eq_junction k hlength

/-- The canonical predicates are those that are reduced to themselves when they are read as
criteria. -/
theorem reduce_toCriterion_iff (p : Predicate) :
    p.toCriterion.reduce = .predicate p ↔ p.Canonical :=
  ⟨canonical_of_reduce, reduce_toCriterion⟩

/-- What a criterion is reduced to, if it is no constant. The predicate is canonical at every place;
its atoms from left to right are some of those that the criterion is read with, in the same order;
and read as a criterion it is reduced to itself. -/
theorem reduces_to_canonical {c : Criterion} {p : Predicate} (h : c.reduce = .predicate p) :
    p.Canonical ∧ p.atoms.Sublist c.atoms ∧ p.toCriterion.reduce = .predicate p := by
  have hcanonical := canonical_of_reduce h
  have hatoms := c.atoms_reduce_sublist
  rw [h] at hatoms
  exact ⟨hcanonical, hatoms, (reduce_toCriterion_iff p).mpr hcanonical⟩

/-- A criterion where a conjunction of one conjunction of one range is left under a negation, in a
disjunction with a constant, that is negated itself, beside clauses that say nothing. -/
def tangled : Criterion :=
  .junction .and [
    .not (.junction .or [
      .not (.junction .and [.junction .and [.range ⟨"size"⟩ (.long 1) (.long 5)]]),
      .junction .or []]),
    .not (.junction .or [.descendantOf "/x", .not (.not (.anyOf ⟨"tags"⟩ ["new", "hot"]))]),
    .descendantOf "/",
    .not (.junction .and [.presence ⟨"hidden"⟩ true, .anyOf ⟨"tags"⟩ []])]

/-- The criterion is reduced to a conjunction of the range and of the other negation. -/
theorem reduces_tangled : ∃ p, tangled.reduce = .predicate p ∧ p.Canonical ∧
    p.atoms = [.compare ⟨"size"⟩ .ge (.long 1), .compare ⟨"size"⟩ .le (.long 5),
      .descendantOf "/x", .contains ⟨"tags"⟩ "new", .contains ⟨"tags"⟩ "hot"] ∧
    p.atoms.Sublist tangled.atoms ∧ tangled.atoms.length = 7 ∧
    p.toCriterion.reduce = .predicate p := by
  obtain ⟨p, hp⟩ : ∃ p, tangled.reduce = .predicate p := ⟨_, rfl⟩
  obtain ⟨hcanonical, hatoms, hagain⟩ := reduces_to_canonical hp
  refine ⟨p, hp, hcanonical, ?_, hatoms, rfl, hagain⟩
  cases hp
  rfl

end Criterion

end ContentQuery
