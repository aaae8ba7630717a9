import ContentQuery.Proofs.Criterion.Reduction
import ContentQuery.Proofs.Pattern.Wildcard

/-!
# What a criterion means

A criterion is read directly off its tree: a leaf asks for a stored value, for words or for a place,
and junctions ask for all clauses, or for one. Reducing a criterion folds constants, cancels
negations and takes junctions apart at every level, and keeps this meaning.
-/

namespace ContentQuery

namespace Node

/-- The words of a node that are searched under a property reference: those of one value, or of all
values for the node itself. -/
def HasWord (n : Node) (p : Property) (word : List Char) : Prop :=
  if p.isNode then ∃ entry ∈ n.entry.properties, word ∈ wordsOf entry.2
  else ∃ v, n.property? p.name = some v ∧ word ∈ wordsOf v

/-- A text has words, and all of them are among those of the property. -/
def HasWords (n : Node) (p : Property) (text : String) : Prop :=
  Text.words text.toList ≠ [] ∧ ∀ word ∈ Text.words text.toList, n.HasWord p word

/-- The searchable words are those of the stored values. -/
theorem mem_searchable (n : Node) (p : Property) (word : List Char) :
    word ∈ n.searchable p ↔ n.HasWord p word := by
  rw [searchable, HasWord]
  split
  · simp [List.mem_flatMap]
  · split
    · next v hv => simp [hv]
    · next hv => simp [hv]

/-- Containment is inclusion of words. -/
theorem contains_iff (n : Node) (p : Property) (text : String) :
    n.contains p text = true ↔ n.HasWords p text := by
  simp [contains, HasWords, mem_searchable]

/-- A property has a value with a trait if there is such a value. -/
theorem hasValue_iff (n : Node) (p : Property) (trait : Value → Bool) :
    n.hasValue p trait = true ↔ ∃ v, n.property? p.name = some v ∧ trait v = true := by
  rw [hasValue]
  split
  · next v hv => simp [hv]
  · next hv => simp [hv]

end Node

/-- The place of a literal in a text that a mode asks for. -/
def MatchMode.Finds (mode : MatchMode) (literal text : List Char) : Prop :=
  match mode with
  | .exact => text = literal
  | .start => literal <+: text
  | .finish => literal <:+ text
  | .anywhere => literal <:+: text

/-- The pattern of a literal finds it at the place that the mode asks for. -/
theorem MatchMode.accepts_pattern (mode : MatchMode) (literal : String) (text : List Char) :
    (mode.pattern literal).accepts text = true ↔ mode.Finds literal.toList text := by
  cases mode with
  | exact => exact decide_eq_true_iff
  | start => simp [pattern, Pattern.accepts, Finds]
  | finish => simp [pattern, Pattern.accepts, Finds]
  | anywhere => simp [pattern, Pattern.accepts, Finds, Text.occurs_iff]

namespace Criterion

/-- Whether a node meets a criterion, read off the tree without reducing it. -/
def Meets (n : Node) : Criterion → Prop
  | comparison p op v => ∃ stored, n.property? p.name = some stored ∧ op.holds stored v = true
  | range p l u => ∃ stored, n.property? p.name = some stored ∧
      Comparator.ge.holds stored l = true ∧ Comparator.le.holds stored u = true
  | patternMatch p s mode => ∃ stored, n.property? p.name = some stored ∧
      mode.Finds s.toList stored.lexical.toList
  | presence p present => (n.property? p.name).isSome = present
  | anyOf p texts => ∃ text ∈ texts, n.HasWords p text
  | containment p s => n.HasWords p s
  | descendantOf path => path = "/" ∨ (path ++ "/").toList <+: n.path.toList
  | not inner => ¬ Meets n inner
  | junction .and clauses => ∀ c, (_ : c ∈ clauses) → Meets n c
  | junction .or clauses => ∃ c, ∃ _ : c ∈ clauses, Meets n c

/-- A node meets what remains of a criterion if it meets the criterion. -/
theorem holds_reduce_iff (n : Node) (c : Criterion) : c.reduce.holds n = true ↔ c.Meets n := by
  induction c with
  | comparison p op v => simp [reduce, Reduced.holds, Predicate.holds, Meets, Node.hasValue_iff]
  | range p l u =>
    rw [reduce, Reduced.holds, Predicate.holds_junction]
    simp only [Connective.combines, List.all_cons, List.all_nil, Bool.and_true, Bool.and_eq_true,
      Predicate.holds, Node.hasValue_iff, Meets]
    constructor
    · intro h
      obtain ⟨⟨v, hv, hlower⟩, w, hw, hupper⟩ := h
      obtain rfl : v = w := Option.some.inj (hv.symm.trans hw)
      exact ⟨v, hv, hlower, hupper⟩
    · intro h
      obtain ⟨v, hv, hlower, hupper⟩ := h
      exact ⟨⟨v, hv, hlower⟩, v, hv, hupper⟩
  | patternMatch p s mode =>
    simp [reduce, Reduced.holds, Predicate.holds, Meets, Node.hasValue_iff,
      MatchMode.accepts_pattern]
  | presence p present => simp [reduce, Reduced.holds, Predicate.holds, Meets]
  | anyOf p texts =>
    rw [reduce, Reduced.holds_ofParts, Connective.combines_map]
    simp [Connective.combines, Predicate.holds, Meets, Node.contains_iff]
  | containment p s => simp [reduce, Reduced.holds, Predicate.holds, Meets, Node.contains_iff]
  | descendantOf path =>
    by_cases hroot : path = "/"
    · simp [reduce, Path.isRoot, Path.root, hroot, Reduced.holds, Meets]
    · simp [reduce, Path.isRoot, Path.root, hroot, Reduced.holds, Meets, Predicate.holds,
        Path.isBelow]
  | not inner ih => simp [reduce, Meets, ← ih]
  | junction k clauses ih =>
    rw [reduce, Reduced.holds_join, reduceAll_eq, Connective.combines_map]
    cases k with
    | and =>
      simp only [Connective.combines, List.all_eq_true, Meets, Function.comp_apply]
      exact forall₂_congr ih
    | or =>
      simp only [Connective.combines, List.any_eq_true, Meets, Function.comp_apply]
      exact exists_congr fun c => by
        constructor
        · intro h
          obtain ⟨hc, h⟩ := h
          exact ⟨hc, (ih c hc).mp h⟩
        · intro h
          obtain ⟨hc, h⟩ := h
          exact ⟨hc, (ih c hc).mpr h⟩

end Criterion

end ContentQuery
