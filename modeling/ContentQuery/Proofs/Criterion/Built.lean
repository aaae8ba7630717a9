import ContentQuery.Criterion.Restriction
import ContentQuery.Order
import ContentQuery.Proofs.Criterion.Parts
import ContentQuery.Proofs.Criterion.Trees
import ContentQuery.Proofs.Error
import ContentQuery.Proofs.Time.Instant

/-!
# Criteria that callers can make

Callers make criteria with the checked constructors only, from properties that were made from a
name and from values that their types can hold. What remains of such a criterion has accepted
properties at its leaves, and no junction of fewer than two parts.
-/

namespace ContentQuery

/-- A property that was made from a name. -/
def Property.Accepted (p : Property) : Prop := ∃ name, Property.ofName name = .ok p

/-- The name of an accepted property is not empty and has no reserved character. -/
theorem Property.Accepted.plain {p : Property} (h : p.Accepted) :
    p.name.toList ≠ [] ∧ ∀ c ∈ p.name.toList, isIllegal c = false := by
  obtain ⟨name, hname⟩ := h
  simp only [ofName] at hname
  split at hname
  · cases hname
  · next hempty =>
    split at hname
    · cases hname
      refine ⟨by decide, fun c hc => ?_⟩
      obtain rfl : c = '.' := List.mem_singleton.mp hc
      rfl
    · split at hname
      · cases hname
      · next hfind =>
        cases hname
        rw [String.toList_ofList]
        refine ⟨by simpa using hempty, fun c hc => ?_⟩
        simpa using List.find?_eq_none.mp hfind c hc

/-- A sort key whose property, if it has one, was made from a name. -/
def SortKey.Accepted : SortKey → Prop
  | .property p => p.Accepted
  | .score => True

/-- A value that its type can hold. -/
def Value.InRange : Value → Prop
  | .date t => t.InRange
  | _ => True

namespace Predicate

/-- A predicate with accepted properties at its leaves, values that their types can hold, and no
junction of fewer than two parts. -/
inductive WellFormed : Predicate → Prop
  | compare {p : Property} {v : Value} (op : Comparator) (hp : p.Accepted) (hv : v.InRange) :
    WellFormed (.compare p op v)
  | like {p : Property} (pattern : Pattern) (hp : p.Accepted) : WellFormed (.like p pattern)
  | contains {p : Property} (s : String) (hp : p.Accepted) : WellFormed (.contains p s)
  | presence {p : Property} (present : Bool) (hp : p.Accepted) : WellFormed (.presence p present)
  | descendantOf (path : String) : WellFormed (.descendantOf path)
  | not {inner : Predicate} (h : WellFormed inner) : WellFormed (.not inner)
  | junction (k : Connective) {parts : List Predicate} (hlen : 2 ≤ parts.length)
    (h : ∀ p ∈ parts, WellFormed p) : WellFormed (.junction k parts)

end Predicate

namespace Reduced

/-- A constant, or a well-formed predicate. -/
def WellFormed : Reduced → Prop
  | predicate p => p.WellFormed
  | _ => True

/-- The negation is well formed. -/
theorem wellFormed_negate {r : Reduced} (h : r.WellFormed) : r.negate.WellFormed := by
  cases r with
  | always => trivial
  | never => trivial
  | predicate p =>
    cases p with
    | not inner =>
      obtain _ | _ | _ | _ | _ | hinner | _ := h
      exact hinner
    | compare | like | contains | presence | descendantOf | junction =>
      exact Predicate.WellFormed.not h

/-- The junction of well-formed predicates is well formed. -/
theorem wellFormed_ofParts (k : Connective) {parts : List Predicate}
    (h : ∀ p ∈ parts, p.WellFormed) : (ofParts k parts).WellFormed := by
  match parts with
  | [] => cases k <;> trivial
  | [p] => exact h p (by simp)
  | p :: q :: rest => exact .junction k (by simp) h

/-- The joined parts are well formed if each is. -/
theorem wellFormed_join (k : Connective) {parts : List Reduced} (h : ∀ r ∈ parts, r.WellFormed) :
    (join k parts).WellFormed := by
  rw [join]
  split
  · cases k <;> trivial
  · next kept hkeep =>
    exact wellFormed_ofParts k fun p hp => h (predicate p) (mem_of_keep hkeep hp)

end Reduced

namespace Criterion

/-- A criterion that is made with the checked constructors. -/
inductive Built : Criterion → Prop
  | comparison {p : Property} {op : Comparator} {v : Value} {c : Criterion} (hp : p.Accepted)
    (hv : v.InRange) (h : ofComparison p op v = .ok c) : Built c
  | range {p : Property} {l u : Value} {c : Criterion} (hp : p.Accepted) (hl : l.InRange)
    (hu : u.InRange) (h : ofRange p l u = .ok c) : Built c
  | patternMatch {p : Property} {s : String} {mode : MatchMode} {c : Criterion} (hp : p.Accepted)
    (h : ofPattern p s mode = .ok c) : Built c
  | presence {p : Property} {present : Bool} {c : Criterion} (hp : p.Accepted)
    (h : ofPresence p present = .ok c) : Built c
  | falsy {p : Property} {c : Criterion} (hp : p.Accepted) (h : ofFalsy p = .ok c) : Built c
  | anyOf {p : Property} {texts : List String} {c : Criterion} (hp : p.Accepted)
    (h : ofTexts p texts = .ok c) : Built c
  | containment {p : Property} (s : String) (hp : p.Accepted) : Built (.containment p s)
  | descendantOf {path : String} {c : Criterion} (h : ofPath path = .ok c) : Built c
  | not {c : Criterion} (h : Built c) : Built (.not c)
  | junction (k : Connective) {clauses : List Criterion} (h : ∀ c ∈ clauses, Built c) :
    Built (.junction k clauses)

/-- A property that is asked to be a real one is not changed. -/
theorem eq_of_named {p q : Property} (h : named p = .ok q) : q = p := by
  rw [named] at h
  split at h
  · cases h
  · exact (Except.ok.inj h).symm

/-- A constructor that asks for a real property only applies to that property. -/
theorem eq_of_map_named {p : Property} {make : Property → Criterion} {c : Criterion}
    (h : (named p).map make = .ok c) : c = make p := by
  obtain ⟨q, hq, rfl⟩ := Result.map_eq_ok.mp h
  rw [eq_of_named hq]

/-- A range that passes its checks is the range that was asked for. -/
theorem eq_of_ofRange {p : Property} {l u : Value} {c : Criterion} (h : ofRange p l u = .ok c) :
    c = range p l u := by
  obtain ⟨q, hq, h⟩ := Result.bind_eq_ok.mp h
  obtain ⟨-, -, h⟩ := Result.bind_eq_ok.mp h
  rw [← eq_of_named hq]
  exact (Except.ok.inj h).symm

/-- What remains of a criterion that was made by a caller is well formed. -/
theorem Built.wellFormed_reduce {c : Criterion} (h : c.Built) : c.reduce.WellFormed := by
  induction h with
  | @comparison p op v c hp hv h =>
    obtain rfl := eq_of_map_named h
    exact .compare op hp hv
  | @range p l u c hp hl hu h =>
    obtain rfl := eq_of_ofRange h
    refine .junction .and (by simp) ?_
    intro q hq
    rcases List.mem_cons.mp hq with rfl | hq
    · exact .compare .ge hp hl
    · obtain rfl := List.mem_singleton.mp hq
      exact .compare .le hp hu
  | @patternMatch p s mode c hp h =>
    obtain rfl := eq_of_map_named h
    exact .like _ hp
  | @presence p present c hp h =>
    obtain rfl := eq_of_map_named h
    exact .presence present hp
  | @falsy p c hp h =>
    obtain rfl := eq_of_map_named h
    refine .junction .or (by simp) ?_
    intro q hq
    rcases List.mem_cons.mp hq with rfl | hq
    · exact .presence false hp
    · obtain rfl := List.mem_singleton.mp hq
      exact .compare .eq hp trivial
  | @anyOf p texts c hp h =>
    obtain rfl := eq_of_map_named h
    apply Reduced.wellFormed_ofParts .or
    intro q hq
    obtain ⟨s, -, rfl⟩ := List.mem_map.mp hq
    exact .contains s hp
  | containment s hp => exact .contains s hp
  | @descendantOf path c h =>
    obtain ⟨normal, -, rfl⟩ := Result.map_eq_ok.mp h
    rw [reduce]
    split
    · trivial
    · exact .descendantOf normal
  | not _ ih => exact Reduced.wellFormed_negate ih
  | junction k _ ih =>
    rw [reduce, reduceAll_eq]
    apply Reduced.wellFormed_join k
    intro r hr
    obtain ⟨c, hc, rfl⟩ := List.mem_map.mp hr
    exact ih c hc

end Criterion

end ContentQuery
