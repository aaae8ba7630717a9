import ContentQuery.Json.Number
import ContentQuery.Json.Tree
import ContentQuery.Proofs.Number.Digits

/-!
# Written integers of documents

The text of an integer is a number of the grammar of documents, without point and exponent, and an
integer that fits 64 bits is what it is read as.
-/

namespace ContentQuery

namespace Json

/-- Digits are taken up to something else. -/
theorem takeDigits?_append {ds : List Char} (h : IsDigits ds) (rest : List Char)
    (hrest : ∀ c ∈ rest.head?, c.isDigit = false) : takeDigits? (ds ++ rest) = some (ds, rest) := by
  simp only [takeDigits?, h.takeWhile_append rest hrest, h.dropWhile_append rest hrest,
    h.isEmpty_eq, Bool.false_eq_true, if_false]

/-- The digits of a number may stand before the point: a zero stands alone there. -/
theorem takeWhole?_toDigits (n : ℕ) :
    takeWhole? (Nat.toDigits 10 n) = some (Nat.toDigits 10 n, []) := by
  have htake := takeDigits?_append (IsDigits.toDigits n) [] (by simp)
  rw [List.append_nil] at htake
  unfold takeWhole?
  split
  · next heq =>
    rw [htake] at heq
    have hdigits := (Prod.mk.inj (Option.some.inj heq)).1
    rcases Nat.eq_zero_or_pos n with rfl | hn
    · cases hdigits
    · have hhead := Text.head?_toDigits_ne_zero (by decide : 1 < 10) hn
      rw [hdigits] at hhead
      exact absurd rfl hhead
  · exact htake

/-- The parts of a written integer. -/
theorem numberParts?_toString (n : ℤ) :
    numberParts? (toString n).toList =
      some ⟨decide (n < 0), Nat.toDigits 10 n.natAbs, none, none⟩ := by
  obtain ⟨d, more, hcons, hd⟩ := (IsDigits.toDigits n.natAbs).exists_cons
  have hminus : d ≠ '-' := Text.ne_of_kind hd rfl
  have hwhole := takeWhole?_toDigits n.natAbs
  rw [Double.toList_toString]
  by_cases hneg : n < 0
  · rw [if_pos hneg, decide_eq_true hneg]
    simp only [numberParts?, List.singleton_append, hwhole]
    rfl
  · rw [if_neg hneg, decide_eq_false hneg, List.nil_append]
    unfold numberParts?
    rw [hcons] at hwhole ⊢
    split
    next sign rest hsign =>
      split at hsign
      · next heq => exact absurd (List.cons.inj heq).1 hminus
      · cases hsign
        simp only [hwhole]
        rfl

/-- The range of integers with 64 bits, with or without a sign. -/
structure FitsWord (n : ℤ) : Prop where
  low : -0x8000000000000000 ≤ n
  high : n < wordCount

/-- A written integer of 64 bits is read back. -/
theorem integer?_toString {n : ℤ} (h : FitsWord n) :
    (numberParts? (toString n).toList).bind NumberParts.integer? = some n := by
  obtain ⟨hlow, hhigh⟩ := h
  rw [numberParts?_toString, Option.bind_some, NumberParts.integer?]
  simp only [Double.digitsValue_toDigits, wordCount] at *
  by_cases hneg : n < 0
  · rw [decide_eq_true hneg, if_pos rfl, if_pos (by omega)]
    congr 1
    omega
  · rw [decide_eq_false hneg, if_neg Bool.false_ne_true, if_pos (by omega)]
    congr 1
    omega

/-- A natural number is written like the integer that it is. -/
theorem ofNat_eq_ofInt (n : ℕ) : ofNat n = ofInt n := by
  have habs : (n : ℤ).natAbs = n := Int.natAbs_natCast n
  rw [ofNat, ofInt, Double.toList_toString, if_neg (by omega), habs, List.nil_append]

end Json

end ContentQuery
