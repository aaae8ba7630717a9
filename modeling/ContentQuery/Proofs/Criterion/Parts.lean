import ContentQuery.Criterion.Reduction
import Mathlib.Data.List.Perm.Basic

/-!
# Parts of joined conditions

When conditions are joined, the predicates among them are kept in their order, and a constant is
dropped or decides the whole. So a predicate that conditions are joined to is one of them or a
junction of some of them, and conditions in another order are joined to the same but for the order
of the parts.
-/

namespace ContentQuery

namespace Reduced

/-- The predicate, unless this is a constant. -/
def predicate? : Reduced → Option Predicate
  | predicate p => some p
  | _ => none

section Keep

variable {k : Connective} {parts others : List Reduced} {kept : List Predicate}

/-- Nothing is kept exactly if a part decides. -/
theorem keep_eq_none_iff : keep k parts = none ↔ deciding k ∈ parts := by
  induction parts with
  | nil => simp [keep]
  | cons r rest ih => cases r <;> cases k <;> simp [keep, deciding, ih]

/-- What is kept are the predicates among the parts. -/
theorem eq_filterMap_of_keep (h : keep k parts = some kept) :
    kept = parts.filterMap predicate? := by
  induction parts generalizing kept with
  | nil => exact (Option.some.inj h).symm
  | cons r rest ih =>
    cases r with
    | predicate p =>
      obtain ⟨behind, hbehind, rfl⟩ := Option.map_eq_some_iff.mp h
      rw [ih hbehind]
      rfl
    | always =>
      cases k with
      | and => exact ih h
      | or => cases h
    | never =>
      cases k with
      | and => cases h
      | or => exact ih h

/-- What is kept is among the parts, in their order. -/
theorem sublist_of_keep (h : keep k parts = some kept) : (kept.map predicate).Sublist parts := by
  rw [eq_filterMap_of_keep h]
  clear h
  induction parts with
  | nil => exact .slnil
  | cons r rest ih =>
    cases r with
    | predicate p => exact ih.cons_cons (predicate p)
    | always => exact ih.cons always
    | never => exact ih.cons never

/-- The predicates that are kept come from the parts. -/
theorem mem_of_keep (h : keep k parts = some kept) {p : Predicate} (hp : p ∈ kept) :
    predicate p ∈ parts :=
  (sublist_of_keep h).mem (List.mem_map_of_mem hp)

/-- Of predicates all are kept. -/
theorem keep_map_predicate (k : Connective) (parts : List Predicate) :
    keep k (parts.map predicate) = some parts := by
  induction parts with
  | nil => rfl
  | cons p rest ih => rw [List.map_cons, keep, ih, Option.map_some]

/-- The parts that are kept of two lists are those of the first and then of the second. -/
theorem keep_append (k : Connective) (parts others : List Reduced) :
    keep k (parts ++ others) =
      (keep k parts).bind fun kept => (keep k others).map (kept ++ ·) := by
  induction parts with
  | nil => simp [keep]
  | cons r rest ih =>
    cases r with
    | predicate p =>
      rw [List.cons_append, keep, keep, ih]
      cases keep k rest <;> cases keep k others <;> rfl
    | always => cases k <;> simp [keep, ih]
    | never => cases k <;> simp [keep, ih]

/-- Of the same parts in another order the same predicates are kept in another order. -/
theorem exists_keep_of_perm (h : parts.Perm others) (hkeep : keep k parts = some kept) :
    ∃ kept', keep k others = some kept' ∧ kept.Perm kept' := by
  cases hothers : keep k others with
  | none =>
    rw [keep_eq_none_iff, ← h.mem_iff, ← keep_eq_none_iff, hkeep] at hothers
    cases hothers
  | some kept' =>
    rw [eq_filterMap_of_keep hkeep, eq_filterMap_of_keep hothers]
    exact ⟨_, rfl, h.filterMap predicate?⟩

end Keep

section Join

variable {k : Connective}

/-- Of two predicates or more the junction is a predicate. -/
theorem ofParts_eq_junction (k : Connective) {parts : List Predicate} (h : 2 ≤ parts.length) :
    ofParts k parts = predicate (.junction k parts) := by
  match parts with
  | [] | [_] => simp at h
  | _ :: _ :: _ => rfl

/-- What predicates make is a constant, one of them, or their junction if there are two or more. -/
theorem ofParts_eq_predicate {parts : List Predicate} {p : Predicate}
    (h : ofParts k parts = predicate p) :
    parts = [p] ∨ 2 ≤ parts.length ∧ p = .junction k parts := by
  match parts with
  | [] => cases k <;> cases h
  | [q] => exact .inl (congrArg (fun p => [p]) (predicate.inj h))
  | q :: q' :: rest => exact .inr ⟨by simp, (predicate.inj h).symm⟩

/-- A predicate that parts are joined to is one of them, or the junction of two or more of them. -/
theorem join_eq_predicate {parts : List Reduced} {p : Predicate} (h : join k parts = predicate p) :
    predicate p ∈ parts ∨ ∃ kept : List Predicate, p = .junction k kept ∧ 2 ≤ kept.length ∧
      (kept.map predicate).Sublist parts := by
  rw [join] at h
  split at h
  · cases k <;> cases h
  · next kept hkeep =>
    rcases ofParts_eq_predicate h with rfl | ⟨hlength, rfl⟩
    · exact .inl (mem_of_keep hkeep (List.mem_singleton_self p))
    · exact .inr ⟨kept, rfl, hlength, sublist_of_keep hkeep⟩

/-- A conjunction that some node may meet is that of the parts that are kept. -/
theorem exists_keep_of_join_ne_never {parts : List Reduced} (h : join .and parts ≠ never) :
    ∃ kept, keep .and parts = some kept := by
  rw [join] at h
  cases hkeep : keep .and parts with
  | none => simp [hkeep, deciding] at h
  | some kept => exact ⟨kept, rfl⟩

/-- The negation of a predicate that negates nothing negates it. -/
theorem negate_predicate {p : Predicate} (h : ∀ inner, p ≠ .not inner) :
    (predicate p).negate = predicate (.not p) := by
  cases p with
  | not inner => exact absurd rfl (h inner)
  | compare | like | contains | presence | descendantOf | junction => rfl

/-- A condition is negated by taking its negation off or by putting one before a predicate that
negates nothing. -/
theorem negate_eq_predicate {r : Reduced} {p : Predicate} (h : r.negate = predicate p) :
    r = predicate (.not p) ∨ ∃ q, r = predicate q ∧ p = .not q ∧ ∀ inner, q ≠ .not inner := by
  cases r with
  | always => cases h
  | never => cases h
  | predicate q =>
    cases q with
    | not inner => exact .inl (congrArg (predicate ∘ Predicate.not) (predicate.inj h))
    | compare | like | contains | presence | descendantOf | junction =>
      exact .inr ⟨_, rfl, (predicate.inj h).symm, nofun⟩

/-- Two conditions that are the same but for the order of the parts of the whole. -/
inductive Shuffled : Reduced → Reduced → Prop
  | refl (r : Reduced) : Shuffled r r
  | junction (k : Connective) {parts others : List Predicate} (h : parts.Perm others) :
    Shuffled (predicate (.junction k parts)) (predicate (.junction k others))

/-- Either of them is the other one but for that order. -/
theorem Shuffled.symm {r s : Reduced} (h : Shuffled r s) : Shuffled s r := by
  cases h with
  | refl => exact .refl _
  | junction k h => exact .junction k h.symm

/-- The same predicates in another order make the same but for that order. -/
theorem shuffled_ofParts (k : Connective) {parts others : List Predicate}
    (h : parts.Perm others) : Shuffled (ofParts k parts) (ofParts k others) := by
  match parts with
  | [] =>
    rw [h.nil_eq]
    exact .refl _
  | [p] =>
    rw [List.perm_singleton.mp h.symm]
    exact .refl _
  | p :: q :: rest =>
    have hlength : 2 ≤ others.length := by simp [← h.length_eq]
    rw [ofParts_eq_junction k hlength]
    exact .junction k h

/-- The same parts in another order are joined to the same but for that order. -/
theorem shuffled_join (k : Connective) {parts others : List Reduced} (h : parts.Perm others) :
    Shuffled (join k parts) (join k others) := by
  rw [join, join]
  cases hkeep : keep k parts with
  | none =>
    rw [keep_eq_none_iff, h.mem_iff, ← keep_eq_none_iff] at hkeep
    rw [hkeep]
    exact .refl _
  | some kept =>
    obtain ⟨kept', hkept', hperm⟩ := exists_keep_of_perm h hkeep
    rw [hkept']
    exact shuffled_ofParts k hperm

end Join

end Reduced

end ContentQuery
