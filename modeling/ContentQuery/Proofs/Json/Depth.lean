import ContentQuery.Json.Criterion
import ContentQuery.Proofs.Json.Decode
import ContentQuery.Proofs.Json.Number

/-!
# Documents that a writer makes

A writer makes whole documents of readable texts and of integers. Such a document can be read as a
whole exactly if it is nested no deeper than there is room.
-/

namespace ContentQuery

namespace Json

/-- A document that a writer makes: all of its texts and keys are readable, and its numbers are
integers of 64 bits. -/
inductive Plain : Json → Prop
  | null : Plain .null
  | boolean (b : Bool) : Plain (.boolean b)
  | integer {n : ℤ} (h : FitsWord n) : Plain (.ofInt n)
  | text (s : String) : Plain (.ofString s)
  | array {items : List Json} (h : ∀ item ∈ items, Plain item) : Plain (.array items)
  | record {members : List (String × Json)} (h : ∀ m ∈ members, Plain m.2) : Plain (.record members)

/-- A natural number of 64 bits is one. -/
theorem Plain.natural {n : ℕ} (h : n < wordCount) : Plain (.ofNat n) := by
  rw [ofNat_eq_ofInt]
  exact .integer ⟨by omega, by exact_mod_cast h⟩

/-- A text that may be absent is one. -/
theorem Plain.option (s : Option String) : Plain (.ofOption s) := by
  cases s with
  | none => exact .null
  | some s => exact .text s

mutual

/-- How many arrays and objects are nested in each other. -/
def depth : Json → ℕ
  | array items => depthOfItems items + 1
  | object members => depthOfMembers members + 1
  | _ => 0

/-- The greatest depth of the items. -/
def depthOfItems : List Json → ℕ
  | [] => 0
  | item :: rest => max (depth item) (depthOfItems rest)

/-- The greatest depth of the values of the members. -/
def depthOfMembers : List (Option String × Json) → ℕ
  | [] => 0
  | (_, value) :: rest => max (depth value) (depthOfMembers rest)

end

/-- Items are no deeper than the deepest of them. -/
theorem depthOfItems_le {items : List Json} {n : ℕ} :
    depthOfItems items ≤ n ↔ ∀ item ∈ items, item.depth ≤ n := by
  induction items with
  | nil => simp [depthOfItems]
  | cons item rest ih => rw [depthOfItems, Nat.max_le, ih, List.forall_mem_cons]

/-- Values are no deeper than the deepest of them. -/
theorem depthOfMembers_le {members : List (Option String × Json)} {n : ℕ} :
    depthOfMembers members ≤ n ↔ ∀ m ∈ members, m.2.depth ≤ n := by
  induction members with
  | nil => simp [depthOfMembers]
  | cons member rest ih =>
    obtain ⟨key, value⟩ := member
    rw [depthOfMembers, Nat.max_le, ih, List.forall_mem_cons]

/-- An array is one level deeper than its items. -/
theorem depth_array_le {items : List Json} {n : ℕ} :
    (array items).depth ≤ n + 1 ↔ ∀ item ∈ items, item.depth ≤ n := by
  rw [depth, Nat.add_le_add_iff_right, depthOfItems_le]

/-- An object is one level deeper than its values. -/
theorem depth_record_le {members : List (String × Json)} {n : ℕ} :
    (record members).depth ≤ n + 1 ↔ ∀ m ∈ members, m.2.depth ≤ n := by
  rw [record, depth, Nat.add_le_add_iff_right, depthOfMembers_le, List.forall_mem_map]

/-- An array has at least one level. -/
theorem depth_array_pos (items : List Json) : 0 < (array items).depth := by
  rw [depth]
  exact Nat.succ_pos _

/-- An object has at least one level. -/
theorem depth_record_pos (members : List (String × Json)) : 0 < (record members).depth := by
  rw [record, depth]
  exact Nat.succ_pos _

/-- The values of an object are less deep. -/
theorem depth_lt_of_mem_members {members : List (String × Json)} {m : String × Json}
    (h : m ∈ members) : m.2.depth < (record members).depth := by
  obtain ⟨n, hn⟩ := Nat.exists_eq_add_one.mpr (depth_record_pos members)
  rw [hn, Nat.lt_succ_iff]
  exact depth_record_le.mp (Nat.le_of_eq hn) m h

/-- Items are looked at one by one. -/
@[simp] theorem areSound_eq (room : ℕ) (items : List Json) :
    areSound room items = items.all (isSound room) := by
  induction items with
  | nil => rfl
  | cons item rest ih => simp [areSound, ih]

/-- Members are looked at one by one. -/
@[simp] theorem haveSound_eq (room : ℕ) (members : List (Option String × Json)) :
    haveSound room members = members.all fun m => m.1.isSome && isSound room m.2 := by
  induction members with
  | nil => rfl
  | cons member rest ih => simp [haveSound, ih]

/-- A document that a writer makes can be read as a whole if there is room for it. -/
theorem Plain.isSound_iff {j : Json} (h : j.Plain) (room : ℕ) :
    isSound room j = true ↔ j.depth ≤ room := by
  induction h generalizing room with
  | null | boolean | text => simp [isSound, depth, ofString]
  | @integer n hn =>
    obtain ⟨parts, hparts, hinteger⟩ := Option.bind_eq_some_iff.mp (integer?_toString hn)
    simp only [ofInt, isSound, depth, hparts, Option.bind_some, NumberParts.double?, hinteger,
      Option.isSome_some, Nat.zero_le]
  | @array items _ ih =>
    cases room with
    | zero =>
      have hpos := depth_array_pos items
      simp only [isSound, Bool.false_eq_true, false_iff]
      omega
    | succ room =>
      rw [depth_array_le, isSound, areSound_eq, List.all_eq_true]
      exact forall₂_congr fun item hitem => ih item hitem room
  | @record members _ ih =>
    cases room with
    | zero =>
      have hpos := depth_record_pos members
      simp only [Json.record, isSound, Bool.false_eq_true, false_iff] at hpos ⊢
      omega
    | succ room =>
      rw [depth_record_le, Json.record, isSound, haveSound_eq, List.all_map, List.all_eq_true]
      refine forall₂_congr fun m hm => ?_
      simpa using ih m hm room

end Json

end ContentQuery
