import ContentQuery.Proofs.Criterion.Atoms

/-!
# Paths in criteria

The paths below which a criterion places nodes. Reduction adds none: a path among the atoms of what
remains of a criterion is a path of the criterion.
-/

namespace ContentQuery

/-- Some part of the criterion places the node below this path. -/
inductive Criterion.HasPath : Criterion → String → Prop
  | descendantOf (path : String) : HasPath (.descendantOf path) path
  | not {inner : Criterion} {path : String} (h : HasPath inner path) : HasPath (.not inner) path
  | junction (k : Connective) {clauses : List Criterion} {c : Criterion} {path : String}
    (hc : c ∈ clauses) (h : HasPath c path) : HasPath (.junction k clauses) path

/-- A path among the atoms that a criterion is read with is one of its paths. -/
theorem Criterion.HasPath.of_mem_atoms {c : Criterion} {path : String}
    (h : .descendantOf path ∈ c.atoms) : c.HasPath path := by
  induction c with
  | comparison | range | patternMatch | presence | anyOf | containment => simp [atoms] at h
  | descendantOf base =>
    obtain ⟨_, _⟩ := List.mem_singleton.mp h
    exact .descendantOf path
  | not inner ih => exact .not (ih h)
  | junction k clauses ih =>
    rw [atoms, atomsOfAll_eq] at h
    obtain ⟨c, hc, h⟩ := List.mem_flatMap.mp h
    exact .junction k hc (ih c hc h)

/-- Reduction adds no path. -/
theorem Criterion.HasPath.of_reduce {c : Criterion} {path : String}
    (h : .descendantOf path ∈ c.reduce.atoms) : c.HasPath path :=
  .of_mem_atoms (c.atoms_reduce_sublist.mem h)

end ContentQuery
