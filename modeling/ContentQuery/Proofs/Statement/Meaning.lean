import ContentQuery.Proofs.Criterion.Atoms
import ContentQuery.Proofs.Criterion.Operands
import ContentQuery.Proofs.Criterion.Reduction
import ContentQuery.Proofs.Pattern.Like
import ContentQuery.Proofs.Statement.Condition

/-!
# What a statement says of a node

Conditions have a meaning of their own, in which patterns are read from their written form. Shown
with dates of whole milliseconds, a predicate says of every node what it said before.
-/

namespace ContentQuery

/-- A value other than a date of parts of milliseconds is shown as it is. -/
theorem Value.IsWhole.shown_eq {v : Value} (h : v.IsWhole) : v.shown = v := by
  cases v with
  | date t => rw [Value.shown, Instant.IsWhole.toMillis_eq h]
  | text | long | double | boolean => rfl

namespace Condition

mutual

/-- Whether a node meets a condition. -/
def holds (n : Node) : Condition → Bool
  | compare p op v => n.hasValue p (op.holds · v)
  | like p pattern =>
    n.hasValue p fun v =>
      Wildcard.accepts (Pattern.readWith '%' '_' '\\' pattern.toList) v.lexical.toList
  | contains p s => n.contains p s
  | presence p present => (n.property? p.name).isSome = present
  | descendantOf path => Path.isBelow n.path path
  | not inner => !holds n inner
  | junction k parts => k.combines id (holdsEach n parts)

/-- Which conditions a node meets. -/
def holdsEach (n : Node) : List Condition → List Bool
  | [] => []
  | c :: rest => holds n c :: holdsEach n rest

end

/-- A list of conditions is met one by one. -/
@[simp] theorem holdsEach_eq (n : Node) (parts : List Condition) :
    holdsEach n parts = parts.map (holds n) := by
  induction parts with
  | nil => rfl
  | cons c rest ih => simp [holdsEach, ih]

mutual

/-- The written patterns of a condition, from left to right. -/
def patterns : Condition → List String
  | like _ pattern => [pattern]
  | not inner => patterns inner
  | junction _ parts => patternsOfAll parts
  | compare _ _ _ | contains _ _ | presence _ _ | descendantOf _ => []

/-- The written patterns of all parts, from left to right. -/
def patternsOfAll : List Condition → List String
  | [] => []
  | c :: rest => patterns c ++ patternsOfAll rest

end

/-- The written patterns of a list are those of its members. -/
@[simp] theorem patternsOfAll_eq (parts : List Condition) :
    patternsOfAll parts = parts.flatMap patterns := by
  induction parts with
  | nil => rfl
  | cons c rest ih => simp [patternsOfAll, ih]

end Condition

/-- The patterns of a predicate are shown as they are written. -/
theorem Predicate.patterns_shown (p : Predicate) :
    (p.shown .not).patterns = (p.atoms.filterMap pattern?).map Pattern.write := by
  induction p with
  | compare | like | contains | presence | descendantOf => rfl
  | not inner ih => exact ih
  | junction k parts ih =>
    rw [shown, shownAll_eq, Condition.patterns, Condition.patternsOfAll_eq, atoms, atomsOfAll_eq,
      List.flatMap_map, List.filterMap_flatMap, List.map_flatMap]
    exact List.flatMap_congr ih

/-- A connective says the same of two lists whose members agree in pairs. -/
theorem Connective.combines_map_congr (k : Connective) {α β : Type} {f : α → β} {trait : β → Bool}
    {other : α → Bool} {members : List α} (h : ∀ x ∈ members, trait (f x) = other x) :
    k.combines trait (members.map f) = k.combines other members := by
  induction members with
  | nil => cases k <;> rfl
  | cons x rest ih =>
    exact k.combines_cons_congr (h x List.mem_cons_self)
      (ih fun y hy => h y (List.mem_cons_of_mem x hy))

/-- A predicate with dates of whole milliseconds means what is shown of it. -/
theorem Predicate.holds_shown (n : Node) {p : Predicate}
    (h : ∀ v, p.HasOperand v → v.IsWhole) : (p.shown .not).holds n = p.holds n := by
  induction p with
  | compare p op v =>
    rw [shown, (h v (.compare p op v)).shown_eq]
    rfl
  | like p pattern =>
    have hread : Pattern.readWith '%' '_' '\\' pattern.write.toList = pattern.wildcards :=
      Pattern.readWith_writeWith '%' '_' '\\' (by decide) pattern
    simp only [shown, Condition.holds, hread, Pattern.accepts_wildcards, holds]
  | contains | presence | descendantOf => rfl
  | not inner ih =>
    rw [shown, Condition.holds, ih fun v hv => h v (.not hv), holds]
  | junction k parts ih =>
    rw [shown, shownAll_eq, Condition.holds, Condition.holdsEach_eq, Connective.combines_map,
      holds_junction]
    exact k.combines_map_congr fun p hp => ih p hp fun v hv => h v (.junction k hp hv)

end ContentQuery
