import ContentQuery.Criterion.Reduction
import ContentQuery.Proofs.Repository.Matching

/-!
# Trees with lists of subtrees

Criteria and predicates are trees whose junctions hold lists. Functions on them come with a second
function on such lists, which is always the first one on each member; and what holds of a junction
whenever it holds of its members, and of the other forms, holds of every tree.
-/

namespace ContentQuery

namespace Predicate

/-- Induction over predicates: at a junction, the hypothesis holds of each part. -/
@[induction_eliminator]
theorem recOnParts {motive : Predicate → Prop}
    (compare : ∀ p op v, motive (.compare p op v))
    (like : ∀ p pattern, motive (.like p pattern))
    (contains : ∀ p s, motive (.contains p s))
    (presence : ∀ p present, motive (.presence p present))
    (descendantOf : ∀ path, motive (.descendantOf path))
    (not : ∀ inner, motive inner → motive (.not inner))
    (junction : ∀ k parts, (∀ p ∈ parts, motive p) → motive (.junction k parts))
    (p : Predicate) : motive p :=
  @Predicate.rec motive (fun parts => ∀ p ∈ parts, motive p) compare like contains presence
    descendantOf not junction (by simp)
    (fun _ _ hp hrest => by simpa using ⟨hp, hrest⟩) p

/-- A node meets all predicates of a list if it meets each. -/
@[simp] theorem holdsAll_eq (n : Node) (parts : List Predicate) :
    holdsAll n parts = parts.all (holds n) := by
  induction parts with
  | nil => rfl
  | cons p rest ih => simp [holdsAll, ih]

/-- A node meets some predicate of a list if it meets one of them. -/
@[simp] theorem holdsAny_eq (n : Node) (parts : List Predicate) :
    holdsAny n parts = parts.any (holds n) := by
  induction parts with
  | nil => rfl
  | cons p rest ih => simp [holdsAny, ih]

end Predicate

namespace Criterion

/-- Induction over criteria: at a junction, the hypothesis holds of each clause. -/
@[induction_eliminator]
theorem recOnClauses {motive : Criterion → Prop}
    (comparison : ∀ p op v, motive (.comparison p op v))
    (range : ∀ p l u, motive (.range p l u))
    (patternMatch : ∀ p s mode, motive (.patternMatch p s mode))
    (presence : ∀ p present, motive (.presence p present))
    (anyOf : ∀ p texts, motive (.anyOf p texts))
    (containment : ∀ p s, motive (.containment p s))
    (descendantOf : ∀ path, motive (.descendantOf path))
    (not : ∀ inner, motive inner → motive (.not inner))
    (junction : ∀ k clauses, (∀ c ∈ clauses, motive c) → motive (.junction k clauses))
    (c : Criterion) : motive c :=
  @Criterion.rec motive (fun clauses => ∀ c ∈ clauses, motive c) comparison range patternMatch
    presence anyOf containment descendantOf not junction (by simp)
    (fun _ _ hc hrest => by simpa using ⟨hc, hrest⟩) c

/-- Clauses are reduced one by one. -/
@[simp] theorem reduceAll_eq (clauses : List Criterion) :
    reduceAll clauses = clauses.map reduce := by
  induction clauses with
  | nil => rfl
  | cons c rest ih => simp [reduceAll, ih]

end Criterion

end ContentQuery
