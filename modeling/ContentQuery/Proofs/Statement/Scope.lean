import ContentQuery.Proofs.Criterion.Built
import ContentQuery.Proofs.Criterion.Reduction
import ContentQuery.Proofs.Statement.Request
import ContentQuery.Statement.XPath

/-!
# Taking the scope out of a condition

The one path of a conjunction may become the scope of a location path. A node is below the scope
and passes the filter that is left if it is below the base path and meets the condition.
-/

namespace ContentQuery

namespace Predicate

/-- The path below which a predicate places nodes, if it does nothing else. -/
def path? : Predicate → Option String
  | descendantOf path => some path
  | _ => none

/-- A path is such a predicate. -/
@[simp] theorem path?_descendantOf (path : String) : (descendantOf path).path? = some path := rfl

/-- Any other predicate has no such path. -/
theorem path?_eq_none {p : Predicate} (h : ∀ path, p ≠ .descendantOf path) : p.path? = none := by
  cases p with
  | descendantOf path => exact absurd rfl (h path)
  | compare | like | contains | presence | not | junction => rfl

end Predicate

namespace XPath

/-- The paths and the other parts of a conjunction say together what all parts say. -/
theorem all_pathsOf_and_othersOf (n : Node) (parts : List Predicate) :
    ((pathsOf parts).all (Path.isBelow n.path) && (othersOf parts).all (Predicate.holds n)) =
      parts.all (Predicate.holds n) := by
  induction parts with
  | nil => rfl
  | cons p rest ih =>
    cases p with
    | descendantOf path =>
      simp only [pathsOf, othersOf, List.all_cons, Predicate.holds, ← ih, Bool.and_assoc]
    | compare | like | contains | presence | not | junction =>
      simp only [pathsOf, othersOf, List.all_cons, ← ih, Bool.and_left_comm]

/-- The paths of a conjunction are those of its parts that place nodes. -/
theorem pathsOf_eq (parts : List Predicate) : pathsOf parts = parts.filterMap Predicate.path? := by
  induction parts with
  | nil => rfl
  | cons p rest ih => cases p <;> simp [pathsOf, List.filterMap_cons, Predicate.path?, ih]

/-- The other parts are those that do not. -/
theorem othersOf_eq (parts : List Predicate) :
    othersOf parts = parts.filter fun p => p.path?.isNone := by
  induction parts with
  | nil => rfl
  | cons p rest ih => cases p <;> simp [othersOf, Predicate.path?, ih]

/-- The parts that are no paths are parts. -/
theorem mem_of_mem_othersOf {p : Predicate} {parts : List Predicate} (h : p ∈ othersOf parts) :
    p ∈ parts := by
  rw [othersOf_eq] at h
  exact List.mem_of_mem_filter h

/-- The parts of a conjunction that are no paths are left. -/
theorem mem_othersOf {p : Predicate} {parts : List Predicate} (hp : p ∈ parts)
    (hpath : ∀ path, p ≠ .descendantOf path) : p ∈ othersOf parts := by
  rw [othersOf_eq, List.mem_filter, Predicate.path?_eq_none hpath]
  exact ⟨hp, rfl⟩

/-- The same parts in another order have the same paths and the same others in another order, so
that the same scope is taken and the rest differs in the order of its parts. -/
theorem shuffled_splitScope {reduced other : Reduced} (h : reduced.Shuffled other) :
    (splitScope reduced).1 = (splitScope other).1 ∧
      (splitScope reduced).2.Shuffled (splitScope other).2 := by
  cases h with
  | refl => exact ⟨rfl, .refl _⟩
  | @junction k parts others h =>
    cases k with
    | or => exact ⟨rfl, .junction .or h⟩
    | and =>
      have hpaths : (pathsOf parts).Perm (pathsOf others) := by
        rw [pathsOf_eq, pathsOf_eq]
        exact h.filterMap Predicate.path?
      have hothers : (othersOf parts).Perm (othersOf others) := by
        rw [othersOf_eq, othersOf_eq]
        exact h.filter _
      rw [splitScope, splitScope]
      split
      · next path hone =>
        rw [hone] at hpaths
        rw [List.perm_singleton.mp hpaths.symm]
        exact ⟨rfl, Reduced.shuffled_ofParts .and hothers⟩
      · next hnotOne =>
        split
        · next path hone =>
          rw [hone] at hpaths
          exact absurd (List.perm_singleton.mp hpaths) (hnotOne path)
        · exact ⟨rfl, .junction .and h⟩

/-- What a condition is split into: it stays whole, it is a path, or one path is taken out of a
conjunction. -/
theorem splitScope_cases (reduced : Reduced) :
    splitScope reduced = (none, reduced) ∨
    (∃ path, reduced = .predicate (.descendantOf path) ∧
      splitScope reduced = (some path, .always)) ∨
    ∃ parts path, reduced = .predicate (.junction .and parts) ∧ pathsOf parts = [path] ∧
      splitScope reduced = (some path, Reduced.ofParts .and (othersOf parts)) := by
  unfold splitScope
  split
  · next path => exact .inr (.inl ⟨path, rfl, rfl⟩)
  · next parts =>
    split
    · next path hpaths => exact .inr (.inr ⟨parts, path, rfl, hpaths, rfl⟩)
    · exact .inl rfl
  · exact .inl rfl

/-- A node is below the scope that is taken and passes the rest if it meets the condition. -/
theorem holds_splitScope (n : Node) (reduced : Reduced) :
    (n.isWithin (splitScope reduced).1 && (splitScope reduced).2.holds n) = reduced.holds n := by
  rcases splitScope_cases reduced with h | ⟨path, rfl, h⟩ | ⟨parts, path, rfl, hpaths, h⟩
  · rw [h, Node.isWithin, Option.all_none, Bool.true_and]
  · rw [h]
    simp [Node.isWithin, Reduced.holds, Predicate.holds]
  · have hall := all_pathsOf_and_othersOf n parts
    rw [hpaths] at hall
    rw [h, Reduced.holds_ofParts, Reduced.holds, Predicate.holds_junction]
    simpa [Node.isWithin, Connective.combines] using hall

/-- The rest of a well-formed condition is well formed. -/
theorem wellFormed_splitScope {reduced : Reduced} (h : reduced.WellFormed) :
    (splitScope reduced).2.WellFormed := by
  rcases splitScope_cases reduced with hsplit | ⟨path, -, hsplit⟩ | ⟨parts, path, rfl, -, hsplit⟩
  · rw [hsplit]
    exact h
  · rw [hsplit]
    trivial
  · rw [hsplit]
    obtain _ | _ | _ | _ | _ | _ | ⟨-, -, hparts⟩ := h
    exact Reduced.wellFormed_ofParts .and fun p hp => hparts p (mem_of_mem_othersOf hp)

/-- The rest of a condition that some node may meet is one. -/
theorem splitScope_ne_never {reduced : Reduced} (h : reduced ≠ .never) :
    (splitScope reduced).2 ≠ .never := by
  rcases splitScope_cases reduced with hsplit | ⟨path, -, hsplit⟩ | ⟨parts, path, -, -, hsplit⟩
  · rw [hsplit]
    exact h
  · rw [hsplit]
    nofun
  · rw [hsplit]
    rcases othersOf parts with _ | ⟨p, _ | ⟨q, rest⟩⟩ <;> nofun

/-- A node is below the scope of a statement and passes its filter if it is below the base path and
meets the condition. -/
theorem within_and_holds_iff (r : Request) (n : Node) :
    (n.isWithin (scopeAndFilter r).1 = true ∧ (scopeAndFilter r).2.holds n = true) ↔
      (∀ base ∈ r.basePath, base ≠ Path.root → Path.isBelow n.path base = true) ∧
        r.criterion.reduce.holds n = true := by
  rw [← r.isWithin_scope n, scopeAndFilter]
  split
  · next base hbase => rw [hbase]
  · next hnone =>
    rw [hnone, ← holds_splitScope n r.criterion.reduce, Bool.and_eq_true]
    simp [Node.isWithin]

/-- The filter of a statement is well formed if the condition is. -/
theorem wellFormed_filter {r : Request} (h : r.criterion.reduce.WellFormed) :
    (scopeAndFilter r).2.WellFormed := by
  rw [scopeAndFilter]
  split
  · exact h
  · exact wellFormed_splitScope h

/-- Some node may pass the filter of a statement if some node may meet the condition. -/
theorem filter_ne_never {r : Request} (h : r.criterion.reduce ≠ .never) :
    (scopeAndFilter r).2 ≠ .never := by
  rw [scopeAndFilter]
  split
  · exact h
  · exact splitScope_ne_never h

end XPath

end ContentQuery
