import ContentQuery.Number.Layout
import ContentQuery.Proofs.Number.Digits
import ContentQuery.Proofs.Number.Rounding
import Mathlib.Data.List.TakeWhile

/-!
# The shortest digits stand for their double

A decimal that is found on a grid fits the magnitude it was looked for, and on the grid of
seventeen digits one is always found. So the digits that are written for a double are worth a
rational that is rounded to it.
-/

namespace ContentQuery

namespace Double

/-- The units of a search on a decimal grid are a common denominator of the value and the step. -/
def gridUnit (magnitude : ℕ) (power : ℤ) : ℕ :=
  4 * (Nat.pow 2 (-exponent magnitude).toNat * Nat.pow 10 (-power).toNat)

/-- Powers of two and ten without negative exponents, over the unit of a search. -/
theorem gridUnit_pos (magnitude : ℕ) (power : ℤ) : (0 : ℚ) < gridUnit magnitude power := by
  have h : 0 < gridUnit magnitude power := by
    simp only [gridUnit, Nat.pow_eq]
    positivity
  exact_mod_cast h

/-- A power of two times the unit of a search. -/
theorem two_pow_mul_gridUnit (magnitude : ℕ) (power : ℤ) :
    (2 : ℚ) ^ exponent magnitude * gridUnit magnitude power =
      (4 * (Nat.pow 2 (exponent magnitude).toNat * Nat.pow 10 (-power).toNat) : ℕ) := by
  rw [zpow_eq_div, gridUnit]
  simp only [Nat.pow_eq, Nat.cast_mul, Nat.cast_pow, Nat.cast_ofNat]
  field_simp

/-- A power of ten times the unit of a search. -/
theorem ten_pow_mul_gridUnit (magnitude : ℕ) (power : ℤ) :
    (10 : ℚ) ^ power * gridUnit magnitude power =
      (4 * (Nat.pow 10 power.toNat * Nat.pow 2 (-exponent magnitude).toNat) : ℕ) := by
  rw [zpow_eq_div, gridUnit]
  simp only [Nat.pow_eq, Nat.cast_mul, Nat.cast_pow, Nat.cast_ofNat]
  field_simp

/-- The value of a magnitude in units of a search. -/
theorem value_mul_gridUnit (magnitude : ℕ) (power : ℤ) :
    value magnitude * gridUnit magnitude power =
      (4 * significand magnitude *
        (Nat.pow 2 (exponent magnitude).toNat * Nat.pow 10 (-power).toNat) : ℕ) := by
  rw [value, mul_assoc, two_pow_mul_gridUnit]
  push_cast
  ring

/-- A point of a grid in units of a search. -/
theorem point_mul_gridUnit (magnitude n : ℕ) (power : ℤ) :
    (n * 10 ^ power : ℚ) * gridUnit magnitude power =
      (n * (4 * (Nat.pow 10 power.toNat * Nat.pow 2 (-exponent magnitude).toNat)) : ℕ) := by
  rw [mul_assoc, ten_pow_mul_gridUnit]
  push_cast
  ring

/-- The test of a search is whether a point of the grid fits the magnitude. -/
theorem fits_point_iff (magnitude n : ℕ) (power : ℤ) :
    Fits magnitude (n * 10 ^ power) ↔
      let m := significand magnitude
      let q := exponent magnitude
      let unit := Nat.pow 2 q.toNat * Nat.pow 10 (-power).toNat
      let below := (if m = fractions ∧ q ≠ -1074 then 1 else 2) * unit
      let step := 4 * (Nat.pow 10 power.toNat * Nat.pow 2 (-q).toNat)
      if m % 2 = 0 then 4 * m * unit ≤ n * step + below ∧ n * step ≤ 4 * m * unit + 2 * unit
      else 4 * m * unit < n * step + below ∧ n * step < 4 * m * unit + 2 * unit := by
  have hpos := gridUnit_pos magnitude power
  have hvalue := value_mul_gridUnit magnitude power
  have hpoint := point_mul_gridUnit magnitude n power
  have htwo := two_pow_mul_gridUnit magnitude power
  have hbelow : halfBelow magnitude * 2 ^ exponent magnitude * gridUnit magnitude power =
      ((if significand magnitude = fractions ∧ exponent magnitude ≠ -1074 then 1 else 2) *
        (Nat.pow 2 (exponent magnitude).toNat * Nat.pow 10 (-power).toNat) : ℕ) := by
    rw [mul_assoc, htwo, halfBelow]
    split <;> push_cast <;> ring
  have habove : (1 / 2 : ℚ) * 2 ^ exponent magnitude * gridUnit magnitude power =
      (2 * (Nat.pow 2 (exponent magnitude).toNat * Nat.pow 10 (-power).toNat) : ℕ) := by
    rw [mul_assoc, htwo]
    push_cast
    ring
  have hle (a b : ℚ) : a ≤ b ↔ a * gridUnit magnitude power ≤ b * gridUnit magnitude power :=
    (mul_le_mul_iff_of_pos_right hpos).symm
  have hlt (a b : ℚ) : a < b ↔ a * gridUnit magnitude power < b * gridUnit magnitude power :=
    (mul_lt_mul_iff_of_pos_right hpos).symm
  rw [Fits, hle (value magnitude), hle (n * 10 ^ power), hlt (value magnitude),
    hlt (n * 10 ^ power), add_mul, add_mul, hvalue, hpoint, hbelow, habove]
  norm_cast

/-- Of two neighbouring points one that passes a test; of two that pass, the one on a side. -/
def pick (fits : ℕ → Bool) (low : ℕ) (side : Ordering) (tieUp : Bool) : Option ℕ :=
  if fits low then
    if fits (low + 1) then
      match side with
      | .lt => some low
      | .gt => some (low + 1)
      | .eq => some (if tieUp ∨ low % 2 = 1 then low + 1 else low)
    else some low
  else if fits (low + 1) then some (low + 1)
  else none

/-- A point that is picked passes the test. -/
theorem fits_of_pick {fits : ℕ → Bool} {low n : ℕ} {side : Ordering} {tieUp : Bool}
    (h : pick fits low side tieUp = some n) : fits n = true := by
  unfold pick at h
  split at h
  · next hlow =>
    split at h
    · next hhigh =>
      split at h <;> obtain rfl := Option.some.inj h
      · exact hlow
      · exact hhigh
      · split <;> assumption
    · obtain rfl := Option.some.inj h
      exact hlow
  · split at h
    · next hhigh =>
      obtain rfl := Option.some.inj h
      exact hhigh
    · cases h

/-- A point is picked if one passes the test. -/
theorem exists_pick {fits : ℕ → Bool} {low : ℕ} (h : fits low = true ∨ fits (low + 1) = true)
    (side : Ordering) (tieUp : Bool) : ∃ n, pick fits low side tieUp = some n := by
  unfold pick
  split
  · split
    · cases side <;> exact ⟨_, rfl⟩
    · exact ⟨_, rfl⟩
  · next hlow => exact ⟨low + 1, if_pos (h.resolve_left hlow)⟩

/-- A search picks one of the two points next to the value. -/
theorem onGrid_spec (tieUp : Bool) (magnitude : ℕ) (power : ℤ) :
    ∃ (fits : ℕ → Bool) (low : ℕ) (side : Ordering),
      onGrid tieUp magnitude power = pick fits low side tieUp ∧
      (∀ n, fits n = true ↔ Fits magnitude (n * 10 ^ power)) ∧
      (low * 10 ^ power : ℚ) ≤ value magnitude ∧
      value magnitude < (low + 1 : ℕ) * 10 ^ power := by
  have hpos := gridUnit_pos magnitude power
  obtain ⟨v, hv⟩ : ∃ v, v = 4 * significand magnitude *
    (Nat.pow 2 (exponent magnitude).toNat * Nat.pow 10 (-power).toNat) := ⟨_, rfl⟩
  obtain ⟨step, hstep⟩ : ∃ s, s = 4 * (Nat.pow 10 power.toNat *
    Nat.pow 2 (-exponent magnitude).toNat) := ⟨_, rfl⟩
  have hsteppos : 0 < step := by
    rw [hstep]
    simp only [Nat.pow_eq]
    positivity
  obtain ⟨below, hbelow⟩ : ∃ b, b = (if significand magnitude = fractions ∧
      exponent magnitude ≠ -1074 then 1 else 2) *
    (Nat.pow 2 (exponent magnitude).toNat * Nat.pow 10 (-power).toNat) := ⟨_, rfl⟩
  obtain ⟨above, habove⟩ : ∃ a, a =
    2 * (Nat.pow 2 (exponent magnitude).toNat * Nat.pow 10 (-power).toNat) := ⟨_, rfl⟩
  refine ⟨fun n => if significand magnitude % 2 = 0 then
      decide (v ≤ n * step + below ∧ n * step ≤ v + above)
      else decide (v < n * step + below ∧ n * step < v + above),
    v / step, Ord.compare (2 * v) ((2 * (v / step) + 1) * step), ?_, fun n => ?_, ?_, ?_⟩
  · rw [hv, hstep, hbelow, habove]
    rfl
  · rw [fits_point_iff]
    simp only [← hv, ← hstep, ← hbelow, ← habove]
    split <;> exact decide_eq_true_iff
  · rw [← mul_le_mul_iff_of_pos_right hpos, point_mul_gridUnit, value_mul_gridUnit, ← hv, ← hstep]
    exact_mod_cast Nat.div_mul_le_self v step
  · rw [← mul_lt_mul_iff_of_pos_right hpos, point_mul_gridUnit, value_mul_gridUnit, ← hv, ← hstep]
    have hlt : v < (v / step + 1) * step := by
      have hdiv := Nat.div_add_mod v step
      have hmod := Nat.mod_lt v hsteppos
      rw [add_mul, one_mul, mul_comm]
      omega
    exact_mod_cast hlt

/-- What a search finds fits the magnitude. -/
theorem fits_of_onGrid {tieUp : Bool} {magnitude n : ℕ} {power : ℤ}
    (h : onGrid tieUp magnitude power = some n) : Fits magnitude (n * 10 ^ power) := by
  obtain ⟨fits, low, side, heq, hfits, -, -⟩ := onGrid_spec tieUp magnitude power
  rw [heq] at h
  exact (hfits n).mp (fits_of_pick h)

/-- The lower half is positive. -/
theorem halfBelow_pos (magnitude : ℕ) : 0 < halfBelow magnitude := by
  rw [halfBelow]
  split <;> norm_num

/-- A grid that is finer than the value by sixteen powers of ten is finer than the interval of what
fits the magnitude. -/
theorem step_lt {magnitude : ℕ} {power : ℤ} (h : (10 : ℚ) ^ power * 10 ^ 16 ≤ value magnitude) :
    (10 : ℚ) ^ power < (halfBelow magnitude + 1 / 2) * 2 ^ exponent magnitude := by
  have hpos : (0 : ℚ) < 2 ^ exponent magnitude := by positivity
  rw [value] at h
  rw [halfBelow]
  split
  · next hshort =>
    rw [hshort.1] at h
    norm_num [fractions] at h ⊢
    linarith
  · have hm : (significand magnitude : ℚ) < 9007199254740992 := by
      exact_mod_cast significand_lt magnitude
    have hmul := mul_lt_mul_of_pos_right hm hpos
    norm_num at h ⊢
    linarith

/-- A point that is not above the value and does not fit lies below the interval. -/
theorem le_of_not_fits_low {magnitude : ℕ} {x : ℚ} (h : ¬ Fits magnitude x)
    (hx : x ≤ value magnitude) :
    x + halfBelow magnitude * 2 ^ exponent magnitude ≤ value magnitude := by
  have hpos : (0 : ℚ) < 2 ^ exponent magnitude := by positivity
  by_contra hlt
  refine h ?_
  rw [Fits]
  split <;> constructor <;> linarith

/-- A point that is not below the value and does not fit lies above the interval. -/
theorem le_of_not_fits_high {magnitude : ℕ} {x : ℚ} (h : ¬ Fits magnitude x)
    (hx : value magnitude ≤ x) :
    value magnitude + 1 / 2 * 2 ^ exponent magnitude ≤ x := by
  have hpos : (0 : ℚ) < halfBelow magnitude * 2 ^ exponent magnitude :=
    mul_pos (halfBelow_pos magnitude) (by positivity)
  by_contra hlt
  refine h ?_
  rw [Fits]
  split <;> constructor <;> linarith

/-- A search succeeds on a grid that is finer than the value by sixteen powers of ten. -/
theorem exists_onGrid (tieUp : Bool) {magnitude : ℕ} {power : ℤ}
    (h : (10 : ℚ) ^ power * 10 ^ 16 ≤ value magnitude) :
    ∃ n, onGrid tieUp magnitude power = some n := by
  obtain ⟨fits, low, side, heq, hfits, hlow, hhigh⟩ := onGrid_spec tieUp magnitude power
  rw [heq]
  refine exists_pick ?_ side tieUp
  rw [hfits, hfits]
  by_contra hnone
  obtain ⟨hnotlow, hnothigh⟩ := not_or.mp hnone
  have hbelow := le_of_not_fits_low hnotlow hlow
  have habove := le_of_not_fits_high hnothigh hhigh.le
  have hstep := step_lt h
  push_cast at habove
  linarith

/-- A positive number has no fewer digits than it needs. -/
theorem pow_digitCount_le {n count : ℕ} (hn : 0 < n) (hcount : digitCount n = count + 1) :
    10 ^ count ≤ n := by
  by_contra hlt
  rcases Nat.eq_zero_or_pos count with rfl | hpos
  · omega
  · have hle : digitCount n ≤ count :=
      (Nat.length_toDigits_le_iff (by decide) hpos).mpr (Nat.lt_of_not_le hlt)
    omega

/-- The least power of ten above a quotient is at most ten times the quotient. -/
theorem decimalOrder_le {num den : ℕ} (hnum : 0 < num) (hden : 0 < den) :
    (10 : ℚ) ^ (decimalOrder num den - 1) ≤ num / den := by
  have hdenpos : (0 : ℚ) < den := by exact_mod_cast hden
  have hcount (n : ℕ) : 0 < digitCount n := List.length_pos_of_ne_nil Nat.toDigits_ne_nil
  rw [decimalOrder, le_div_iff₀ hdenpos]
  split
  · next hle =>
    obtain ⟨count, hc⟩ : ∃ c, digitCount (num / den) = c + 1 :=
      ⟨_, (Nat.succ_pred_eq_of_pos (hcount _)).symm⟩
    have hpow : 10 ^ count ≤ num / den := pow_digitCount_le (Nat.div_pos hle hden) hc
    rw [hc]
    push_cast
    rw [add_sub_cancel_right, zpow_natCast]
    exact_mod_cast (Nat.mul_le_mul_right den hpow).trans (Nat.div_mul_le_self num den)
  · obtain ⟨count, hc⟩ : ∃ c, c = digitCount ((den - 1) / num) := ⟨_, rfl⟩
    have hpow : (den - 1) / num < 10 ^ count :=
      (Nat.length_toDigits_le_iff (by decide) (hc ▸ hcount _)).mp hc.ge
    rw [Nat.div_lt_iff_lt_mul hnum] at hpow
    have hle : den ≤ 10 ^ count * num := by omega
    have hexp : 1 - (count : ℤ) - 1 = -(count : ℤ) := by omega
    rw [← hc, hexp, zpow_neg, zpow_natCast, inv_mul_le_iff₀ (by positivity)]
    exact_mod_cast hle

/-- The quotient of a magnitude is its value. -/
theorem quotient_eq_value (magnitude : ℕ) :
    ((quotient magnitude).1 / (quotient magnitude).2 : ℚ) = value magnitude := by
  rw [quotient, value, zpow_eq_div]
  simp only [Nat.pow_eq, Nat.cast_mul, Nat.cast_pow, Nat.cast_ofNat]
  rw [mul_div_assoc]

/-- A positive magnitude has a positive significand. -/
theorem significand_pos {magnitude : ℕ} (h : 0 < magnitude) : 0 < significand magnitude := by
  rw [significand]
  split
  · exact h
  · exact Nat.add_pos_left (by decide) _

/-- Zero fits no positive magnitude. -/
theorem not_fits_zero {magnitude : ℕ} (h : 0 < magnitude) : ¬ Fits magnitude 0 := by
  intro hfits
  obtain ⟨hlow, -⟩ := hfits.bounds
  have hpos : (0 : ℚ) < 2 ^ exponent magnitude := by positivity
  have hm : (1 : ℚ) ≤ significand magnitude := by exact_mod_cast significand_pos h
  have hhalf := halfBelow_le magnitude
  rw [value] at hlow
  nlinarith

/-- The shortest digits of a positive magnitude are those of a number that fits it. -/
theorem shortest_spec (tieUp : Bool) {magnitude : ℕ} (h : 0 < magnitude) :
    ∃ (n : ℕ) (power : ℤ), shortest tieUp magnitude = digitsOf n power ∧ 0 < n ∧
      Fits magnitude (n * 10 ^ power) := by
  obtain ⟨order, horder⟩ : ∃ o, o = decimalOrder (quotient magnitude).1 (quotient magnitude).2 :=
    ⟨_, rfl⟩
  obtain ⟨search, hsearch⟩ : ∃ f : ℕ → Option Digits, f = fun n =>
    (onGrid tieUp magnitude (order - (n + 1 : ℕ))).map (digitsOf · (order - (n + 1 : ℕ))) :=
    ⟨_, rfl⟩
  have hlast : ∃ d, search 16 = some d := by
    have hnum : 0 < (quotient magnitude).1 :=
      Nat.mul_pos (significand_pos h) (Nat.pow_pos (by decide))
    have hden : 0 < (quotient magnitude).2 := Nat.pow_pos (by decide)
    have hvalue := decimalOrder_le hnum hden
    rw [quotient_eq_value, ← horder] at hvalue
    have hpow : (10 : ℚ) ^ (order - (16 + 1 : ℕ)) * 10 ^ 16 ≤ value magnitude := by
      have hexp : order - 1 = order - (16 + 1 : ℕ) + (16 : ℕ) := by
        push_cast
        ring
      rw [hexp, zpow_add₀ (by norm_num), zpow_natCast] at hvalue
      exact hvalue
    obtain ⟨n, hn⟩ := exists_onGrid tieUp hpow
    exact ⟨_, by rw [hsearch]; simp only [hn]; rfl⟩
  obtain ⟨d, hd⟩ : ∃ d, (List.range 17).findSome? search = some d := by
    obtain ⟨d, hd⟩ := hlast
    rw [← Option.isSome_iff_exists, List.findSome?_isSome_iff]
    exact ⟨16, by simp, by simp [hd]⟩
  have hshort : shortest tieUp magnitude = d := by
    have heq : shortest tieUp magnitude =
        ((List.range 17).findSome? search).getD (digitsOf (quotient magnitude).1 0) := by
      rw [hsearch, horder]
      rfl
    rw [heq, hd, Option.getD_some]
  obtain ⟨k, -, hk⟩ := List.exists_of_findSome?_eq_some hd
  rw [hsearch] at hk
  obtain ⟨n, hn, rfl⟩ := Option.map_eq_some_iff.mp hk
  have hfits := fits_of_onGrid hn
  refine ⟨n, _, hshort, Nat.pos_of_ne_zero ?_, hfits⟩
  intro heq
  subst heq
  exact not_fits_zero h (by simpa using hfits)

/-- What some digits are worth. -/
def Digits.amount (d : Digits) : ℚ :=
  digitsValue d.digits * 10 ^ (d.point - d.digits.length)

/-- What is dropped from the end of some digits are zeros. -/
theorem exists_zeros_behind (ds : List Char) :
    ∃ k, ds = (ds.reverse.dropWhile (· == '0')).reverse ++ List.replicate k '0' := by
  have hzeros : ds.reverse.takeWhile (· == '0') =
      List.replicate (ds.reverse.takeWhile (· == '0')).length '0' :=
    List.eq_replicate_of_mem fun c hc => by simpa using List.mem_takeWhile_imp hc
  refine ⟨(ds.reverse.takeWhile (· == '0')).length, ?_⟩
  rw [← List.reverse_replicate, ← List.reverse_append, ← hzeros, List.takeWhile_append_dropWhile,
    List.reverse_reverse]

/-- The digits of a positive number are digits, not all zero, and worth the number. -/
theorem digitsOf_spec {n : ℕ} (hn : 0 < n) (power : ℤ) :
    IsDigits (digitsOf n power).digits ∧ digitsValue (digitsOf n power).digits ≠ 0 ∧
      (digitsOf n power).amount = n * 10 ^ power := by
  obtain ⟨kept, hkept⟩ : ∃ d, d = ((Nat.toDigits 10 n).reverse.dropWhile (· == '0')).reverse :=
    ⟨_, rfl⟩
  obtain ⟨zeros, hzeros⟩ : ∃ k, Nat.toDigits 10 n = kept ++ List.replicate k '0' :=
    hkept ▸ exists_zeros_behind (Nat.toDigits 10 n)
  have hvalue : digitsValue kept * 10 ^ zeros = n := by
    have h := digitsValue_toDigits n
    rw [hzeros, digitsValue_append, digitsValue_zeros, List.length_replicate, add_zero] at h
    exact h
  have hne : digitsValue kept ≠ 0 := by
    intro h
    rw [h, zero_mul] at hvalue
    omega
  have hdigits : IsDigits kept := by
    refine ⟨?_, fun c hc => isDigit_of_mem_toDigits (n := n) ?_⟩
    · intro h
      exact hne (by rw [h]; rfl)
    · rw [hzeros]
      exact List.mem_append_left _ hc
  have heq : digitsOf n power = ⟨kept, power + (Nat.toDigits 10 n).length⟩ := by
    rw [digitsOf, hkept]
  rw [heq]
  refine ⟨hdigits, hne, ?_⟩
  have hexp : power + ((Nat.toDigits 10 n).length : ℤ) - kept.length = power + zeros := by
    rw [hzeros, List.length_append, List.length_replicate]
    push_cast
    ring
  rw [Digits.amount, hexp, zpow_add₀ (by norm_num), zpow_natCast]
  conv_rhs => rw [← hvalue]
  push_cast
  ring

end Double

end ContentQuery
