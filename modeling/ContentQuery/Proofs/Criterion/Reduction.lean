import ContentQuery.Proofs.Criterion.Trees

/-!
# What reduction keeps

The operations that a criterion is reduced with do to conditions what their names say: a node meets
a negation if it does not meet the condition, and a joined condition if it meets all parts, or
some.
-/

namespace ContentQuery

/-- Whether the members of a list have a trait as a connective asks for it. -/
def Connective.combines {α : Type} (k : Connective) (trait : α → Bool) (members : List α) : Bool :=
  match k with
  | .and => members.all trait
  | .or => members.any trait

namespace Connective

variable {α : Type}

/-- What a connective says of one member. -/
@[simp] theorem combines_singleton (k : Connective) (trait : α → Bool) (x : α) :
    k.combines trait [x] = trait x := by
  cases k <;> simp [combines]

/-- A member that has the trait leaves a conjunction and decides a disjunction. -/
theorem combines_cons_of_true (k : Connective) {trait : α → Bool} {x : α} (h : trait x = true)
    (rest : List α) :
    k.combines trait (x :: rest) = (decide (k = .or) || k.combines trait rest) := by
  cases k <;> simp [combines, h]

/-- A member that lacks the trait decides a conjunction and leaves a disjunction. -/
theorem combines_cons_of_false (k : Connective) {trait : α → Bool} {x : α} (h : trait x = false)
    (rest : List α) :
    k.combines trait (x :: rest) = (decide (k = .or) && k.combines trait rest) := by
  cases k <;> simp [combines, h]

/-- Members that decide a list decide it behind any other member. -/
theorem combines_cons_of_decided (k : Connective) {trait : α → Bool} {rest : List α}
    (h : k.combines trait rest = decide (k = .or)) (x : α) :
    k.combines trait (x :: rest) = decide (k = .or) := by
  cases k <;> simp_all [combines]

/-- What a connective says of a list depends on its first member and what it says of the rest. -/
theorem combines_cons_congr (k : Connective) {β : Type} {trait : α → Bool} {other : β → Bool}
    {x : α} {y : β} {rest : List α} {others : List β} (h : trait x = other y)
    (hrest : k.combines trait rest = k.combines other others) :
    k.combines trait (x :: rest) = k.combines other (y :: others) := by
  cases k <;> simp_all [combines]

/-- A connective says the same of a list as of its image. -/
theorem combines_map (k : Connective) {β : Type} (trait : β → Bool) (f : α → β) (members : List α) :
    k.combines trait (members.map f) = k.combines (trait ∘ f) members := by
  cases k <;> simp [combines, Function.comp_def]

/-- What a connective says of a list does not depend on the order of the list. -/
theorem combines_perm (k : Connective) {trait : α → Bool} {members others : List α}
    (h : members.Perm others) : k.combines trait members = k.combines trait others := by
  cases k with
  | and => exact h.all_eq
  | or => exact h.any_eq

end Connective

/-- A node meets a junction as its connective says. -/
@[simp] theorem Predicate.holds_junction (n : Node) (k : Connective) (parts : List Predicate) :
    holds n (junction k parts) = k.combines (holds n) parts := by
  cases k <;> simp [holds, Connective.combines]

namespace Reduced

/-- A node meets a negation if it does not meet the condition. -/
@[simp] theorem holds_negate (n : Node) (r : Reduced) : r.negate.holds n = !r.holds n := by
  cases r with
  | always => rfl
  | never => rfl
  | predicate p => cases p <;> simp [negate, holds, Predicate.holds]

/-- A node meets the junction of predicates as the connective says. -/
@[simp] theorem holds_ofParts (n : Node) (k : Connective) (parts : List Predicate) :
    (ofParts k parts).holds n = k.combines (Predicate.holds n) parts := by
  match parts with
  | [] => cases k <;> rfl
  | [p] => simp [ofParts, holds]
  | p :: q :: rest => simp [ofParts, holds]

/-- The parts that are kept say of a node what all parts say of it; if none are, then the parts are
decided. -/
theorem combines_keep (n : Node) (k : Connective) (parts : List Reduced) :
    match keep k parts with
    | some kept => k.combines (Predicate.holds n) kept = k.combines (holds n) parts
    | none => k.combines (holds n) parts = decide (k = .or) := by
  induction parts with
  | nil => rfl
  | cons r rest ih =>
    cases r with
    | predicate p =>
      simp only [keep]
      cases hkeep : keep k rest with
      | none =>
        rw [hkeep] at ih
        exact k.combines_cons_of_decided ih (predicate p)
      | some kept =>
        rw [hkeep] at ih
        exact k.combines_cons_congr rfl ih
    | always =>
      have hcons : k.combines (holds n) (always :: rest) =
          (decide (k = .or) || k.combines (holds n) rest) :=
        k.combines_cons_of_true rfl rest
      cases k with
      | and => simpa [keep, hcons] using ih
      | or => simp [keep, hcons]
    | never =>
      have hcons : k.combines (holds n) (never :: rest) =
          (decide (k = .or) && k.combines (holds n) rest) :=
        k.combines_cons_of_false rfl rest
      cases k with
      | and => simp [keep, hcons]
      | or => simpa [keep, hcons] using ih

/-- A node meets joined parts as the connective says. -/
@[simp] theorem holds_join (n : Node) (k : Connective) (parts : List Reduced) :
    (join k parts).holds n = k.combines (holds n) parts := by
  have h := combines_keep n k parts
  rw [join]
  cases hkeep : keep k parts with
  | none =>
    rw [hkeep] at h
    rw [h]
    cases k <;> rfl
  | some kept =>
    rw [hkeep] at h
    rw [← h]
    exact holds_ofParts n k kept

end Reduced

end ContentQuery
