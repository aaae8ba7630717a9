import ContentQuery.Number.Reader
import ContentQuery.Number.Shortest
import ContentQuery.Time.Instant
import Mathlib.Algebra.Group.Nat.Defs
import Mathlib.Data.List.Basic

/-!
# Decimal digits

Written digits have the value they were written from, and a reader that takes digits as long as
there are some takes those that were written and no more.
-/

namespace ContentQuery

namespace Text

variable {p : Char → Bool} {s rest : List Char}

/-- A character of a kind is not one that is not of this kind. -/
theorem ne_of_kind {c d : Char} (hc : p c = true) (hd : p d = false) : c ≠ d := by
  intro heq
  rw [heq, hd] at hc
  cases hc

/-- Taking characters of a kind takes all there are, up to what does not begin with one. -/
theorem takeWhile_append (hall : ∀ c ∈ s, p c = true) (hrest : ∀ c ∈ rest.head?, p c = false) :
    (s ++ rest).takeWhile p = s := by
  rw [List.takeWhile_append_of_pos hall]
  cases rest with
  | nil => simp
  | cons c rest => simp [hrest c rfl]

/-- Dropping characters of a kind leaves what does not begin with one. -/
theorem dropWhile_append (hall : ∀ c ∈ s, p c = true) (hrest : ∀ c ∈ rest.head?, p c = false) :
    (s ++ rest).dropWhile p = rest := by
  rw [List.dropWhile_append_of_pos hall]
  cases rest with
  | nil => rfl
  | cons c rest => simp [hrest c rfl]

/-- The digits of a positive number do not begin with a zero, whatever the base is. -/
theorem head?_toDigits_ne_zero {base n : Nat} (hbase : 1 < base) (hn : 0 < n) :
    (Nat.toDigits base n).head? ≠ some '0' := by
  induction n using Nat.strongRecOn with
  | ind n ih =>
    rcases Nat.lt_or_ge n base with hlt | hge
    · intro h
      rw [Nat.toDigits_of_lt_base hlt] at h
      have hzero := Nat.digitChar_eq_zero.mp (Option.some.inj h)
      omega
    · have hhead := ih (n / base) (Nat.div_lt_self hn hbase) (Nat.div_pos hge (by omega))
      obtain ⟨d, more, hcons⟩ :=
        List.exists_cons_of_ne_nil (Nat.toDigits_ne_nil (n := n / base) (b := base))
      rw [Nat.toDigits_of_base_le hbase hge, hcons, List.cons_append]
      rwa [hcons] at hhead

end Text

namespace Double

/-- The value of digits is what the library of natural numbers reads from them. -/
theorem digitsValue_eq (ds : List Char) : digitsValue ds = Nat.ofDigitChars 10 ds 0 := rfl

/-- Digits in front of others count by the number of the others. -/
theorem digitsValue_append (as bs : List Char) :
    digitsValue (as ++ bs) = digitsValue as * 10 ^ bs.length + digitsValue bs := by
  rw [digitsValue_eq, Nat.ofDigitChars_append, Nat.ofDigitChars_eq_ofDigitChars_zero, Nat.mul_comm]
  rfl

/-- The digits of a number are worth that number. -/
@[simp] theorem digitsValue_toDigits (n : Nat) : digitsValue (Nat.toDigits 10 n) = n :=
  Nat.ofDigitChars_ten_toDigits

/-- Zeros are worth nothing. -/
@[simp] theorem digitsValue_zeros (n : Nat) : digitsValue (List.replicate n '0') = 0 := by
  simp [digitsValue_eq]

/-- Zeros in front of digits do not change their value. -/
@[simp] theorem digitsValue_zeros_append (n : Nat) (ds : List Char) :
    digitsValue (List.replicate n '0' ++ ds) = digitsValue ds := by
  simp [digitsValue_append]

/-- The characters of a written number are digits. -/
theorem isDigit_of_mem_toDigits {n : Nat} {c : Char} (h : c ∈ Nat.toDigits 10 n) :
    c.isDigit = true :=
  Nat.isDigit_of_mem_toDigits (by decide) (by decide) h

/-- Zeros are digits. -/
theorem isDigit_of_mem_zeros {n : Nat} {c : Char} (h : c ∈ List.replicate n '0') :
    c.isDigit = true := by
  rw [List.eq_of_mem_replicate h]
  rfl

/-- The text of an integer is its digits behind a sign. -/
theorem toList_toString (n : Int) :
    (toString n).toList = (if n < 0 then ['-'] else []) ++ Nat.toDigits 10 n.natAbs := by
  rw [Int.toString_eq_repr, Int.repr_eq_if]
  split
  · next h =>
    have habs : n.toNat = n.natAbs := by omega
    rw [if_neg (by omega), Nat.toList_repr, habs, List.nil_append]
  · next h =>
    have habs : (-n).toNat = n.natAbs := by omega
    rw [if_pos (by omega), String.toList_append, Nat.toList_repr, habs]
    rfl

end Double

/-- A text consists of digits and has at least one. -/
structure IsDigits (ds : List Char) : Prop where
  nonempty : ds ≠ []
  all : ∀ c ∈ ds, c.isDigit = true

namespace IsDigits

/-- A written number consists of digits. -/
theorem toDigits (n : Nat) : IsDigits (Nat.toDigits 10 n) :=
  ⟨Nat.toDigits_ne_nil, fun _ h => Double.isDigit_of_mem_toDigits h⟩

/-- More digits in front. -/
theorem append_left {as bs : List Char} (has : ∀ c ∈ as, c.isDigit = true) (h : IsDigits bs) :
    IsDigits (as ++ bs) :=
  ⟨by simp [h.nonempty], fun c hc => (List.mem_append.mp hc).elim (has c) (h.all c)⟩

/-- More digits behind. -/
theorem append_right {as bs : List Char} (h : IsDigits as) (hbs : ∀ c ∈ bs, c.isDigit = true) :
    IsDigits (as ++ bs) :=
  ⟨by simp [h.nonempty], fun c hc => (List.mem_append.mp hc).elim (h.all c) (hbs c)⟩

/-- The first of some digits is one. -/
theorem exists_cons {ds : List Char} (h : IsDigits ds) :
    ∃ d rest, ds = d :: rest ∧ d.isDigit = true := by
  obtain ⟨d, rest, rfl⟩ := List.exists_cons_of_ne_nil h.nonempty
  exact ⟨d, rest, rfl, h.all d List.mem_cons_self⟩

/-- Taking digits takes all of them, up to what does not begin with one. -/
theorem takeWhile_append {ds : List Char} (h : IsDigits ds) (rest : List Char)
    (hrest : ∀ c ∈ rest.head?, c.isDigit = false) :
    (ds ++ rest).takeWhile Char.isDigit = ds :=
  Text.takeWhile_append h.all hrest

/-- Dropping digits leaves what does not begin with one. -/
theorem dropWhile_append {ds : List Char} (h : IsDigits ds) (rest : List Char)
    (hrest : ∀ c ∈ rest.head?, c.isDigit = false) :
    (ds ++ rest).dropWhile Char.isDigit = rest :=
  Text.dropWhile_append h.all hrest

/-- A text of digits is not empty, as a test. -/
theorem isEmpty_eq {ds : List Char} (h : IsDigits ds) : ds.isEmpty = false := by
  simpa using h.nonempty

/-- A text of digits passes the test for digits. -/
theorem all_eq {ds : List Char} (h : IsDigits ds) : ds.all Char.isDigit = true :=
  List.all_eq_true.mpr h.all

end IsDigits

namespace Instant

/-- Padded digits are digits. -/
theorem isDigits_padded (width n : Nat) : IsDigits (padded width n) :=
  IsDigits.append_left (fun _ h => Double.isDigit_of_mem_zeros h) (IsDigits.toDigits n)

/-- Padding does not change the value. -/
@[simp] theorem digitsValue_padded (width n : Nat) : Double.digitsValue (padded width n) = n := by
  simp [padded]

/-- A number below a power of ten is padded to as many digits. -/
theorem length_padded {width n : Nat} (hwidth : 0 < width) (h : n < 10 ^ width) :
    (padded width n).length = width := by
  have hle := (Nat.length_toDigits_le_iff (by decide : 1 < 10) hwidth).mpr h
  simp only [padded, List.length_append, List.length_replicate]
  omega

end Instant

end ContentQuery
