import ContentQuery.Proofs.Criterion.Parts
import ContentQuery.Proofs.Criterion.Trees
import Mathlib.Data.List.Flatten

/-!
# Atoms

The leaves of a predicate, in the order in which they are read. Who writes a predicate meets them
one by one, so the first of them with a fault is the one that is reported. Reduction adds no atom
and moves none: what remains of a criterion has some of the atoms that the criterion is read with.
-/

namespace ContentQuery

namespace Predicate

mutual

/-- The atoms of a predicate from left to right. -/
def atoms : Predicate → List Predicate
  | compare p op v => [compare p op v]
  | like p pattern => [like p pattern]
  | contains p s => [contains p s]
  | presence p present => [presence p present]
  | descendantOf path => [descendantOf path]
  | not inner => atoms inner
  | junction _ parts => atomsOfAll parts

/-- The atoms of all parts from left to right. -/
def atomsOfAll : List Predicate → List Predicate
  | [] => []
  | p :: rest => atoms p ++ atomsOfAll rest

end

/-- The atoms of a list are those of its members. -/
@[simp] theorem atomsOfAll_eq (parts : List Predicate) :
    atomsOfAll parts = parts.flatMap atoms := by
  induction parts with
  | nil => rfl
  | cons p rest ih => simp [atomsOfAll, ih]

end Predicate

/-- The pattern of an atom that has one. -/
def Predicate.pattern? : Predicate → Option Pattern
  | like _ pattern => some pattern
  | _ => none

namespace Reduced

/-- The atoms of what remains of a condition; a constant has none. -/
def atoms : Reduced → List Predicate
  | predicate p => p.atoms
  | _ => []

/-- The patterns in what remains of a condition, from left to right. -/
def patterns (r : Reduced) : List Pattern := r.atoms.filterMap Predicate.pattern?

/-- The atoms of a junction are those of its parts. -/
@[simp] theorem atoms_ofParts (k : Connective) (parts : List Predicate) :
    (ofParts k parts).atoms = parts.flatMap Predicate.atoms := by
  match parts with
  | [] => cases k <;> rfl
  | [p] => simp [ofParts, atoms]
  | p :: q :: rest => simp [ofParts, atoms, Predicate.atoms]

/-- A negation has the atoms of what is negated. -/
@[simp] theorem atoms_negate (r : Reduced) : r.negate.atoms = r.atoms := by
  cases r with
  | always => rfl
  | never => rfl
  | predicate p => cases p <;> rfl

/-- The same condition but for the order of its parts has the same atoms but for their order. -/
theorem Shuffled.atoms_perm {r s : Reduced} (h : r.Shuffled s) : r.atoms.Perm s.atoms := by
  cases h with
  | refl => exact .refl _
  | junction k h =>
    simp only [atoms, Predicate.atoms, Predicate.atomsOfAll_eq]
    exact h.flatMap_right Predicate.atoms

/-- The atoms of joined parts are among those of the parts, in their order. -/
theorem atoms_join_sublist (k : Connective) (parts : List Reduced) :
    (join k parts).atoms.Sublist (parts.flatMap atoms) := by
  rw [join]
  split
  · cases k <;> exact List.nil_sublist _
  · next kept hkeep =>
    have hkept := (sublist_of_keep hkeep).flatMap atoms
    rw [List.flatMap_map] at hkept
    rwa [atoms_ofParts]

end Reduced

namespace Criterion

mutual

/-- The atoms that a criterion is read with, from left to right: a range is two comparisons, and
each of several texts is searched for. -/
def atoms : Criterion → List Predicate
  | comparison p op v => [.compare p op v]
  | range p l u => [.compare p .ge l, .compare p .le u]
  | patternMatch p s mode => [.like p (mode.pattern s)]
  | presence p present => [.presence p present]
  | anyOf p texts => texts.map (.contains p)
  | containment p s => [.contains p s]
  | descendantOf path => [.descendantOf path]
  | not inner => atoms inner
  | junction _ clauses => atomsOfAll clauses

/-- The atoms of all clauses from left to right. -/
def atomsOfAll : List Criterion → List Predicate
  | [] => []
  | c :: rest => atoms c ++ atomsOfAll rest

end

/-- The atoms of a list are those of its members. -/
@[simp] theorem atomsOfAll_eq (clauses : List Criterion) :
    atomsOfAll clauses = clauses.flatMap atoms := by
  induction clauses with
  | nil => rfl
  | cons c rest ih => simp [atomsOfAll, ih]

/-- What remains of a criterion has some of its atoms, in their order. -/
theorem atoms_reduce_sublist (c : Criterion) : c.reduce.atoms.Sublist c.atoms := by
  induction c with
  | comparison | range | patternMatch | presence | containment => exact .refl _
  | anyOf p texts =>
    have hatoms : (texts.map (Predicate.contains p)).flatMap Predicate.atoms =
        texts.map (.contains p) := by
      rw [List.flatMap_map, List.map_eq_flatMap]
      rfl
    rw [reduce, Reduced.atoms_ofParts, hatoms, atoms]
  | descendantOf path =>
    rw [reduce]
    split
    · exact List.nil_sublist _
    · exact .refl _
  | not inner ih =>
    rw [reduce, Reduced.atoms_negate, atoms]
    exact ih
  | junction k clauses ih =>
    rw [reduce, reduceAll_eq, atoms, atomsOfAll_eq]
    refine (Reduced.atoms_join_sublist k _).trans ?_
    rw [List.flatMap_map]
    exact List.Sublist.flatMap_right clauses ih

end Criterion

namespace Predicate

variable {α : Type} (find : Predicate → Option α)

/-- The first find among the atoms of a list is that of the first member with one. -/
theorem findSome?_flatMap_atoms (parts : List Predicate) :
    (parts.flatMap atoms).findSome? find = parts.findSome? fun p => p.atoms.findSome? find := by
  induction parts with
  | nil => rfl
  | cons p rest ih =>
    rw [List.flatMap_cons, List.findSome?_append, ih, List.findSome?_cons]
    cases p.atoms.findSome? find <;> rfl

/-- There is a first find if there is a find. -/
theorem exists_findSome?_iff (parts : List Predicate) :
    (∃ x, parts.findSome? find = some x) ↔ ∃ p ∈ parts, ∃ x, find p = some x := by
  simp only [← Option.isSome_iff_exists, List.findSome?_isSome_iff]

end Predicate

end ContentQuery
