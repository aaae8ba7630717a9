import ContentQuery.Proofs.Number.Rounding

/-!
# Rounding keeps the order

Rounding a quotient never turns the order of two of them around, though it may tie them. So the
doubles nearest to two integers are ordered like the integers or are the same number.
-/

namespace ContentQuery

namespace Double

/-- A larger numerator is not rounded to less. -/
theorem roundDiv_mono {a b : ℕ} (h : a ≤ b) (den : ℕ) : roundDiv a den ≤ roundDiv b den := by
  have hlow (num : ℕ) : num / den ≤ roundDiv num den := by
    rw [roundDiv]
    split <;> [omega; omega; split <;> omega]
  have hhigh (num : ℕ) : roundDiv num den ≤ num / den + 1 := by
    rw [roundDiv]
    split <;> [omega; omega; split <;> omega]
  have hquot : a / den ≤ b / den := Nat.div_le_div_right h
  rcases Nat.lt_or_eq_of_le hquot with hlt | heq
  · calc roundDiv a den ≤ a / den + 1 := hhigh a
      _ ≤ b / den := hlt
      _ ≤ roundDiv b den := hlow b
  · -- The quotients are the same, so the remainders decide.
    have hrem : a % den ≤ b % den := by
      have ha := Nat.div_add_mod a den
      have hb := Nat.div_add_mod b den
      rw [← heq] at hb
      omega
    simp only [roundDiv, heq]
    rcases Nat.lt_trichotomy (2 * (a % den)) den with ha | ha | ha <;>
      rcases Nat.lt_trichotomy (2 * (b % den)) den with hb | hb | hb <;>
      simp only [Nat.compare_eq_lt.mpr, Nat.compare_eq_eq.mpr, Nat.compare_eq_gt.mpr, ha, hb] <;>
      first
        | omega
        | (split <;> omega)

/-- A whole quotient is not rounded. -/
theorem roundDiv_mul_left {den : ℕ} (hden : 0 < den) (n : ℕ) : roundDiv (n * den) den = n := by
  have hdouble : 2 * n * den = 2 * (n * den) := Nat.mul_assoc 2 n den
  have hnext : (2 * n + 1) * den = 2 * n * den + den := Nat.succ_mul (2 * n) den
  refine roundDiv_eq hden ?_ ?_
  · split <;> omega
  · split <;> omega

/-- The scale of a smaller quotient is not greater. -/
theorem IsScale.mono {x y : ℚ} {s t : ℤ} (hs : IsScale x s) (ht : IsScale y t) (h : x ≤ y) :
    s ≤ t := by
  by_contra hlt
  have hleast := ht.least
  have habove := hs.above (by omega)
  have hstep : (2 : ℚ) ^ t * 2 ≤ 2 ^ s := by
    rw [← zpow_add_one₀ (by norm_num)]
    exact zpow_le_zpow_right₀ (by norm_num) (by omega)
  have hunit : (0 : ℚ) < fractions := by norm_num [fractions]
  have hcontra : y < y := by
    calc y < 2 * fractions * 2 ^ t := ht.below
      _ = fractions * (2 ^ t * 2) := by ring
      _ ≤ fractions * 2 ^ s := mul_le_mul_of_nonneg_left hstep hunit.le
      _ ≤ x := habove
      _ ≤ y := h
  exact lt_irrefl y hcontra

/-- At its scale a quotient is rounded to at most twice the number of fractions. -/
theorem roundDiv_le_of_isScale {num den : ℕ} {scale : ℤ} (hden : den ≠ 0)
    (h : IsScale (num / den) scale) :
    roundDiv (num * Nat.pow 2 (-scale).toNat) (den * Nat.pow 2 scale.toNat) ≤ 2 * fractions := by
  have hpos : 0 < den * Nat.pow 2 scale.toNat :=
    Nat.mul_pos (Nat.pos_of_ne_zero hden) (Nat.pow_pos (by decide))
  have hbelow := h.below
  rw [← div_lt_iff₀ (by positivity), ← scaled_eq, div_lt_iff₀ (by exact_mod_cast hpos)] at hbelow
  have hnat : num * Nat.pow 2 (-scale).toNat ≤ 2 * fractions * (den * Nat.pow 2 scale.toNat) := by
    exact_mod_cast hbelow.le
  calc roundDiv (num * Nat.pow 2 (-scale).toNat) (den * Nat.pow 2 scale.toNat)
      ≤ roundDiv (2 * fractions * (den * Nat.pow 2 scale.toNat)) (den * Nat.pow 2 scale.toNat) :=
        roundDiv_mono hnat _
    _ = 2 * fractions := roundDiv_mul_left hpos _

/-- Above the least scale a quotient is rounded to no less than the number of fractions. -/
theorem le_roundDiv_of_isScale {num den : ℕ} {scale : ℤ} (hden : den ≠ 0)
    (h : IsScale (num / den) scale) (hscale : scale ≠ -1074) :
    fractions ≤ roundDiv (num * Nat.pow 2 (-scale).toNat) (den * Nat.pow 2 scale.toNat) := by
  have hpos : 0 < den * Nat.pow 2 scale.toNat :=
    Nat.mul_pos (Nat.pos_of_ne_zero hden) (Nat.pow_pos (by decide))
  have habove := h.above hscale
  rw [← le_div_iff₀ (by positivity), ← scaled_eq, le_div_iff₀ (by exact_mod_cast hpos)] at habove
  have hnat : fractions * (den * Nat.pow 2 scale.toNat) ≤ num * Nat.pow 2 (-scale).toNat := by
    exact_mod_cast habove
  calc fractions
      = roundDiv (fractions * (den * Nat.pow 2 scale.toNat)) (den * Nat.pow 2 scale.toNat) :=
        (roundDiv_mul_left hpos _).symm
    _ ≤ roundDiv (num * Nat.pow 2 (-scale).toNat) (den * Nat.pow 2 scale.toNat) :=
        roundDiv_mono hnat _

/-- A larger numerator has no smaller nearest magnitude. -/
theorem nearest_mono {a b : ℕ} (h : a ≤ b) {den : ℕ} (hden : den ≠ 0) :
    nearest a den ≤ nearest b den := by
  by_cases ha : a = 0
  · simp [nearest, ha]
  have hb : b ≠ 0 := by omega
  have hleft := isScale_scaleOf ha hden
  have hright := isScale_scaleOf hb hden
  have hquot : (a / den : ℚ) ≤ b / den := by gcongr
  have hleast := hleft.least
  have hmono := hleft.mono hright hquot
  simp only [nearest, if_neg ha, if_neg hb]
  refine min_le_min le_rfl ?_
  rcases hmono.lt_or_eq with hlt | heq
  · have hhigh := roundDiv_le_of_isScale hden hleft
    have hlow := le_roundDiv_of_isScale hden hright (by omega)
    have hfactor : (scaleOf a den + 1074).toNat + 1 ≤ (scaleOf b den + 1074).toNat := by omega
    have hproduct := Nat.mul_le_mul_right fractions hfactor
    rw [Nat.succ_mul] at hproduct
    omega
  · rw [heq]
    exact Nat.add_le_add_left (roundDiv_mono (Nat.mul_le_mul_right _ h) _) _

/-- The nearest magnitude is that of a number. -/
theorem nearest_le_infinite (num den : ℕ) : nearest num den ≤ infinite := by
  rw [nearest]
  split
  · exact Nat.zero_le infinite
  · exact Nat.min_le_left _ _

/-- A double has the magnitude that it was made of. -/
theorem magnitude_ofMagnitude (negative : Bool) {m : ℕ} (h : m ≤ infinite) :
    (ofMagnitude negative m).magnitude = m := by
  have hlt : m < signUnit := lt_of_le_of_lt h (by decide)
  cases negative <;>
    simp only [ofMagnitude, magnitude, UInt64.toNat_ofNat', signUnit, Bool.false_eq_true,
      reduceIte] at hlt ⊢ <;>
    omega

/-- A double has the sign that it was made of. -/
theorem isNegative_ofMagnitude (negative : Bool) {m : ℕ} (h : m ≤ infinite) :
    (ofMagnitude negative m).isNegative = negative := by
  have hlt : m < signUnit := lt_of_le_of_lt h (by decide)
  cases negative <;>
    simp only [ofMagnitude, isNegative, UInt64.toNat_ofNat', signUnit, Bool.false_eq_true,
      reduceIte, decide_eq_true_eq, decide_eq_false_iff_not] at hlt ⊢ <;>
    omega

/-- An integer is rounded to a number. -/
theorem isNaN_ofInt (n : ℤ) : (ofInt n).isNaN = false := by
  have hle := nearest_le_infinite n.natAbs 1
  rw [isNaN, ofInt, magnitude_ofMagnitude _ hle]
  simpa using hle

/-- The place of a rounded integer. -/
theorem rank_ofInt (n : ℤ) :
    (ofInt n).rank = if n < 0 then -(nearest n.natAbs 1 : ℤ) else nearest n.natAbs 1 := by
  have hle := nearest_le_infinite n.natAbs 1
  simp only [rank, ofInt, magnitude_ofMagnitude _ hle, isNegative_ofMagnitude _ hle,
    decide_eq_true_eq]

/-- The doubles nearest to integers are not ordered the other way around. -/
theorem rank_ofInt_mono {m n : ℤ} (h : m ≤ n) : (ofInt m).rank ≤ (ofInt n).rank := by
  rw [rank_ofInt, rank_ofInt]
  split <;> split
  · have hmono := nearest_mono (by omega : n.natAbs ≤ m.natAbs) one_ne_zero
    omega
  · omega
  · omega
  · have hmono := nearest_mono (by omega : m.natAbs ≤ n.natAbs) one_ne_zero
    omega

/-- Numbers compare by their places. -/
theorem compare_of_isNumber {x y : Double} (hx : x.isNaN = false) (hy : y.isNaN = false) :
    x.compare y = some (Ord.compare x.rank y.rank) := by
  simp [compare, hx, hy]

/-- What is not a number compares with nothing. -/
theorem compare_of_isNaN {x y : Double} (h : x.isNaN = true ∨ y.isNaN = true) :
    x.compare y = none := by
  rcases h with h | h <;> simp [compare, h]

end Double

end ContentQuery
