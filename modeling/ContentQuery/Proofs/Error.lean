import ContentQuery.Error
import Mathlib.Data.List.Basic

/-!
# Results that succeed and results that fail

A computation in steps succeeds if every step does, and fails as the first step that fails. These
equations take such a computation apart.
-/

namespace ContentQuery

namespace Result

variable {α β γ : Type}

/-- Two steps succeed if the first does and then the second, whatever they may fail with. -/
theorem bind_eq_ok {ε : Type} {x : Except ε α} {f : α → Except ε β} {b : β} :
    x >>= f = .ok b ↔ ∃ a, x = .ok a ∧ f a = .ok b := by
  constructor
  · intro h
    cases x with
    | error e => cases h
    | ok a => exact ⟨a, rfl, h⟩
  · intro h
    obtain ⟨a, rfl, h⟩ := h
    exact h

/-- The image of a result is a success if the result is. -/
theorem map_eq_ok {ε : Type} {x : Except ε α} {f : α → β} {b : β} :
    x.map f = .ok b ↔ ∃ a, x = .ok a ∧ f a = b := by
  constructor
  · intro h
    cases x with
    | error e => cases h
    | ok a => exact ⟨a, rfl, Except.ok.inj h⟩
  · intro h
    obtain ⟨a, rfl, rfl⟩ := h
    rfl

/-- Nothing follows a refusal. -/
@[simp] theorem refuse_bind (why : Refusal) (f : α → Result β) :
    (refuse why >>= f) = refuse why := rfl

/-- Nothing is made of a refusal. -/
@[simp] theorem map_refuse (why : Refusal) (f : α → β) :
    f <$> (refuse why : Result α) = refuse why := rfl

/-- A refusal is no success. -/
@[simp] theorem refuse_eq_ok {why : Refusal} {a : α} : refuse why = .ok a ↔ False := by
  simp [refuse]

/-- Where a function on lists takes one step for each member, the results are related to the members
if the result of every step is. -/
theorem forall₂_of_each (one : α → Result β) (each : List α → Result (List β))
    (hnil : each [] = .ok [])
    (hcons : ∀ x rest, each (x :: rest) = do
      let y ← one x
      let others ← each rest
      return y :: others)
    {R : β → γ → Prop} {f : α → γ} {members : List α} {results : List β}
    (h : each members = .ok results) (hR : ∀ x ∈ members, ∀ y, one x = .ok y → R y (f x)) :
    List.Forall₂ R results (members.map f) := by
  induction members generalizing results with
  | nil =>
    rw [hnil] at h
    cases h
    exact .nil
  | cons x rest ih =>
    rw [hcons] at h
    obtain ⟨y, hy, h⟩ := bind_eq_ok.mp h
    obtain ⟨others, hothers, h⟩ := bind_eq_ok.mp h
    cases h
    exact .cons (hR x List.mem_cons_self y hy)
      (ih hothers fun z hz => hR z (List.mem_cons_of_mem x hz))

/-- The failure of a result, if it is one. -/
def error? : Result α → Option Error
  | .ok _ => none
  | .error e => some e

/-- A result has a failure if it is that failure. -/
theorem error?_eq_some {x : Result α} {e : Error} : error? x = some e ↔ x = .error e := by
  cases x <;> simp [error?]

/-- A result has no failure if it is a success. -/
theorem error?_eq_none {x : Result α} : error? x = none ↔ ∃ a, x = .ok a := by
  cases x <;> simp [error?]

/-- The image of a result fails as the result does. -/
@[simp] theorem error?_map (x : Result α) (f : α → β) : error? (x.map f) = error? x := by
  cases x <;> rfl

/-- Two results that fail alike are followed alike by what does not depend on them. -/
theorem map_const_congr {x : Result α} {y : Result β} (h : error? x = error? y) (c : γ) :
    (x.map fun _ => c) = y.map fun _ => c := by
  cases x <;> cases y <;> simp_all [error?, Except.map]

/-- Of two steps, where the second fails alike after any first one, the first that fails decides. -/
theorem error?_bind {x : Result α} {f : α → Result β} {later : Option Error}
    (h : ∀ a, error? (f a) = later) : error? (x >>= f) = (error? x).or later := by
  cases x with
  | error e => rfl
  | ok a => exact h a

/-- A last step that cannot fail leaves the failure as it is. -/
theorem error?_bind_pure (x : Result α) (f : α → β) :
    error? (do let a ← x; return f a) = error? x := by
  cases x <;> rfl

/-- Where a function on lists takes one step for each member, it fails as the first member does that
fails. -/
theorem error?_of_each (one : α → Result β) (each : List α → Result (List β))
    (hnil : each [] = .ok [])
    (hcons : ∀ x rest, each (x :: rest) = do
      let y ← one x
      let others ← each rest
      return y :: others)
    {fault? : α → Option Error} {members : List α}
    (h : ∀ x ∈ members, error? (one x) = fault? x) :
    error? (each members) = members.findSome? fault? := by
  induction members with
  | nil => rw [hnil]; rfl
  | cons x rest ih =>
    have hrest := ih fun y hy => h y (List.mem_cons_of_mem x hy)
    rw [hcons, error?_bind fun y => error?_bind_pure (each rest) (y :: ·), hrest,
      h x List.mem_cons_self, List.findSome?_cons]
    cases fault? x <;> rfl

/-- Two results are related if both succeed with values that are, or both fail alike. -/
inductive Related (R : α → β → Prop) : Result α → Result β → Prop
  | ok {a : α} {b : β} (h : R a b) : Related R (.ok a) (.ok b)
  | error (e : Error) : Related R (.error e) (.error e)

/-- Related results both succeed or both fail. -/
theorem Related.ok_or_error {R : α → β → Prop} {x : Result α} {y : Result β} (h : Related R x y) :
    (∃ a b, x = .ok a ∧ y = .ok b ∧ R a b) ∨ ∃ e, x = .error e ∧ y = .error e := by
  cases h with
  | ok h => exact .inl ⟨_, _, rfl, rfl, h⟩
  | error e => exact .inr ⟨e, rfl, rfl⟩

/-- After a step in common two computations are related if what follows is. -/
theorem Related.bind {R : α → β → Prop} (x : Result γ) {f : γ → Result α} {g : γ → Result β}
    (h : ∀ c, x = .ok c → Related R (f c) (g c)) : Related R (x >>= f) (x >>= g) := by
  cases x with
  | error e => exact .error e
  | ok c => exact h c rfl

end Result

end ContentQuery
