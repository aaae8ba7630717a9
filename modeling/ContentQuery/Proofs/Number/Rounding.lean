import ContentQuery.Number.Double
import Mathlib.Algebra.Order.Field.Rat
import Mathlib.Algebra.Order.Field.Power
import Mathlib.Data.Nat.Log
import Mathlib.Tactic.FieldSimp
import Mathlib.Tactic.Linarith
import Mathlib.Tactic.NormNum
import Mathlib.Tactic.Ring

/-!
# Rounding to the nearest double

A finite magnitude stands for all rationals that are no farther from it than half the way to its
neighbours, ends included if its significand is even. Rounding a quotient gives the magnitude whose
interval the quotient lies in.
-/

namespace ContentQuery

namespace Double

/-- A power with an integer exponent as a quotient of two with natural ones. -/
theorem zpow_eq_div (b : ℚ) (e : ℤ) :
    b ^ e = b ^ e.toNat / b ^ (-e).toNat := by
  rcases le_total 0 e with h | h
  · obtain ⟨n, rfl⟩ := Int.eq_ofNat_of_zero_le h
    simp
  · obtain ⟨n, hn⟩ := Int.eq_ofNat_of_zero_le (Int.neg_nonneg_of_nonpos h)
    obtain rfl : e = -n := by omega
    simp

/-- The value of a finite magnitude. -/
def value (magnitude : ℕ) : ℚ := significand magnitude * 2 ^ exponent magnitude

/-- Half the way to the next lower magnitude, in units of the significand. The least significand
that is not shortened has its lower neighbours twice as near. -/
def halfBelow (magnitude : ℕ) : ℚ :=
  if significand magnitude = fractions ∧ exponent magnitude ≠ -1074 then 1 / 4 else 1 / 2

/-- The rationals that a finite magnitude stands for. -/
def Fits (magnitude : ℕ) (x : ℚ) : Prop :=
  if significand magnitude % 2 = 0 then
    value magnitude ≤ x + halfBelow magnitude * 2 ^ exponent magnitude ∧
      x ≤ value magnitude + 1 / 2 * 2 ^ exponent magnitude
  else
    value magnitude < x + halfBelow magnitude * 2 ^ exponent magnitude ∧
      x < value magnitude + 1 / 2 * 2 ^ exponent magnitude

/-- What fits lies between the ends, whether these fit or not. -/
theorem Fits.bounds {magnitude : ℕ} {x : ℚ} (h : Fits magnitude x) :
    value magnitude ≤ x + halfBelow magnitude * 2 ^ exponent magnitude ∧
      x ≤ value magnitude + 1 / 2 * 2 ^ exponent magnitude := by
  rw [Fits] at h
  split at h
  · exact h
  · exact ⟨h.1.le, h.2.le⟩

/-- The lower half is at most one half. -/
theorem halfBelow_le (magnitude : ℕ) : halfBelow magnitude ≤ 1 / 2 := by
  rw [halfBelow]
  split <;> norm_num

/-- The significand is below twice the number of fractions. -/
theorem significand_lt (magnitude : ℕ) : significand magnitude < 2 * fractions := by
  have hmod : magnitude % fractions < fractions := Nat.mod_lt _ (by decide)
  rw [significand]
  split <;> omega

/-- A magnitude is put together from its significand and its exponent. -/
theorem magnitude_eq (magnitude : ℕ) :
    (magnitude : ℤ) = (exponent magnitude + 1074) * fractions + significand magnitude := by
  have hdiv := Nat.div_add_mod magnitude fractions
  rw [significand, exponent]
  split
  · simp
  · have hcast : (magnitude : ℤ) = fractions * (magnitude / fractions : ℕ) +
        (magnitude % fractions : ℕ) := by
      exact_mod_cast hdiv.symm
    rw [hcast]
    push_cast
    ring

/-- The exponent is at least the least one there is. -/
theorem exponent_ge (magnitude : ℕ) : -1074 ≤ exponent magnitude := by
  rw [exponent]
  split
  · exact le_refl _
  · next h =>
    have hpos : 0 < magnitude / fractions := Nat.div_pos (not_lt.mp h) (by decide)
    omega

/-- Above the least exponent no significand is shortened. -/
theorem fractions_le_significand {magnitude : ℕ} (h : exponent magnitude ≠ -1074) :
    fractions ≤ significand magnitude := by
  rw [exponent] at h
  rw [significand]
  split
  · next hlt => simp [hlt] at h
  · omega

/-- A quotient is rounded to the natural number that it is near to. -/
theorem roundDiv_eq {num den n : ℕ} (hden : 0 < den)
    (hlow : if n % 2 = 0 then 2 * n * den ≤ 2 * num + den else 2 * n * den < 2 * num + den)
    (hhigh : if n % 2 = 0 then 2 * num ≤ (2 * n + 1) * den else 2 * num < (2 * n + 1) * den) :
    roundDiv num den = n := by
  obtain ⟨low, hquot⟩ : ∃ low, low = num / den := ⟨_, rfl⟩
  obtain ⟨r, hrem⟩ : ∃ r, r = num % den := ⟨_, rfl⟩
  have hr : r < den := hrem ▸ Nat.mod_lt _ hden
  have hnum : num = den * low + r := by rw [hquot, hrem, Nat.div_add_mod]
  have hlow' : 2 * n * den ≤ 2 * num + den := by split at hlow <;> omega
  have hhigh' : 2 * num ≤ (2 * n + 1) * den := by split at hhigh <;> omega
  have hle : low ≤ n := by
    by_contra hlt
    have hmul : (2 * n + 2) * den ≤ 2 * low * den := Nat.mul_le_mul_right den (by omega)
    have hcomm : 2 * low * den = 2 * (den * low) := by ring
    have hexp : (2 * n + 2) * den = (2 * n + 1) * den + den := by ring
    omega
  have hge : n ≤ low + 1 := by
    by_contra hlt
    have hmul : (2 * low + 4) * den ≤ 2 * n * den := Nat.mul_le_mul_right den (by omega)
    have hcomm : (2 * low + 4) * den = 2 * (den * low) + 4 * den := by ring
    omega
  have hstep : n = low ∨ n = low + 1 := by omega
  simp only [roundDiv, ← hquot, ← hrem]
  rcases hstep with rfl | rfl
  · have hexp : (2 * n + 1) * den = 2 * (den * n) + den := by ring
    rcases Nat.lt_trichotomy (2 * r) den with hlt | heq | hgt
    · simp [Nat.compare_eq_lt.mpr hlt]
    · have heven : n % 2 = 0 := by
        by_contra hodd
        rw [if_neg hodd] at hhigh
        omega
      simp [Nat.compare_eq_eq.mpr heq, heven]
    · omega
  · have hexp : 2 * (low + 1) * den = 2 * (den * low) + 2 * den := by ring
    rcases Nat.lt_trichotomy (2 * r) den with hlt | heq | hgt
    · omega
    · have heven : (low + 1) % 2 = 0 := by
        by_contra hodd
        rw [if_neg hodd] at hlow
        omega
      have hodd : ¬ low % 2 = 0 := by omega
      simp [Nat.compare_eq_eq.mpr heq, hodd]
    · simp [Nat.compare_eq_gt.mpr hgt]

/-- A quotient in units of a power of two, as it is computed. -/
theorem scaled_eq (num den : ℕ) (scale : ℤ) :
    ((num * Nat.pow 2 (-scale).toNat : ℕ) : ℚ) / ((den * Nat.pow 2 scale.toNat : ℕ) : ℚ) =
      num / den / 2 ^ scale := by
  rw [zpow_eq_div 2 scale]
  simp only [Nat.pow_eq, Nat.cast_mul, Nat.cast_pow, Nat.cast_ofNat]
  rw [div_div_eq_mul_div, div_mul_eq_mul_div, div_div, mul_comm (den : ℚ)]

/-- The number of fractions as a power of two. -/
theorem fractions_eq : (fractions : ℚ) = 2 ^ (52 : ℤ) := by
  norm_num [fractions]

/-- The binary logarithms of its parts bound a quotient. -/
theorem quotient_bounds {num den : ℕ} (hnum : num ≠ 0) (hden : den ≠ 0) :
    (2 : ℚ) ^ ((num.log2 : ℤ) - den.log2 - 1) < num / den ∧
      (num / den : ℚ) < 2 ^ ((num.log2 : ℤ) - den.log2 + 1) := by
  have hnumlow : (2 : ℚ) ^ num.log2 ≤ num := by exact_mod_cast Nat.log2_self_le hnum
  have hnumhigh : (num : ℚ) < 2 ^ (num.log2 + 1) := by exact_mod_cast Nat.lt_log2_self
  have hdenlow : (2 : ℚ) ^ den.log2 ≤ den := by exact_mod_cast Nat.log2_self_le hden
  have hdenhigh : (den : ℚ) < 2 ^ (den.log2 + 1) := by exact_mod_cast Nat.lt_log2_self
  have hpos : (0 : ℚ) < den := by exact_mod_cast Nat.pos_of_ne_zero hden
  constructor
  · have hsplit : (2 : ℚ) ^ ((num.log2 : ℤ) - den.log2 - 1) =
        2 ^ num.log2 / 2 ^ (den.log2 + 1) := by
      rw [sub_sub, zpow_sub₀ (by norm_num)]
      norm_cast
    rw [hsplit, div_lt_div_iff₀ (by positivity) hpos]
    calc (2 : ℚ) ^ num.log2 * den < 2 ^ num.log2 * 2 ^ (den.log2 + 1) :=
          mul_lt_mul_of_pos_left hdenhigh (by positivity)
      _ ≤ num * 2 ^ (den.log2 + 1) := mul_le_mul_of_nonneg_right hnumlow (by positivity)
  · have hsplit : (2 : ℚ) ^ ((num.log2 : ℤ) - den.log2 + 1) =
        2 ^ (num.log2 + 1) / 2 ^ den.log2 := by
      rw [sub_add_eq_add_sub, zpow_sub₀ (by norm_num)]
      norm_cast
    rw [hsplit, div_lt_div_iff₀ hpos (by positivity)]
    calc (num : ℚ) * 2 ^ den.log2 < 2 ^ (num.log2 + 1) * 2 ^ den.log2 :=
          mul_lt_mul_of_pos_right hnumhigh (by positivity)
      _ ≤ 2 ^ (num.log2 + 1) * den := mul_le_mul_of_nonneg_left hdenlow (by positivity)

/-- The scale of a quotient: there it is below twice the number of fractions, and not below the
number of fractions unless the scale is the least there is. -/
structure IsScale (x : ℚ) (scale : ℤ) : Prop where
  least : -1074 ≤ scale
  below : x < 2 * fractions * 2 ^ scale
  above : scale ≠ -1074 → fractions * 2 ^ scale ≤ x

/-- The computed scale is the scale. -/
theorem isScale_scaleOf {num den : ℕ} (hnum : num ≠ 0) (hden : den ≠ 0) :
    IsScale (num / den) (scaleOf num den) := by
  obtain ⟨hlow, hhigh⟩ := quotient_bounds hnum hden
  obtain ⟨guess, hguess⟩ : ∃ g : ℤ, g = (num.log2 : ℤ) - den.log2 - 53 := ⟨_, rfl⟩
  have hstep (e : ℤ) : (2 : ℚ) ^ (e + 1) = 2 ^ e * 2 := zpow_add_one₀ (by norm_num) e
  have hunit (e : ℤ) : (fractions : ℚ) * 2 ^ e = 2 ^ (e + 52) := by
    rw [fractions_eq, ← zpow_add₀ (by norm_num), add_comm]
  have hpos : (0 : ℚ) < 2 ^ guess := by positivity
  have hbits : num * Nat.pow 2 (-guess).toNat / (den * Nat.pow 2 guess.toNat) < 2 * fractions ↔
      (num / den : ℚ) < 2 * fractions * 2 ^ guess := by
    have hdenpos : 0 < den * Nat.pow 2 guess.toNat :=
      Nat.mul_pos (Nat.pos_of_ne_zero hden) (Nat.pow_pos (by decide))
    rw [Nat.div_lt_iff_lt_mul hdenpos, ← div_lt_iff₀ hpos, ← scaled_eq,
      div_lt_iff₀ (by exact_mod_cast hdenpos)]
    exact_mod_cast Iff.rfl
  -- Before the least exponent is taken into account, the scale fits from both sides.
  obtain ⟨free, hfree, hfreelow, hfreehigh⟩ : ∃ e : ℤ, scaleOf num den = max (-1074) e ∧
      fractions * 2 ^ e ≤ (num / den : ℚ) ∧ (num / den : ℚ) < 2 * fractions * 2 ^ e := by
    rw [scaleOf, ← hguess]
    by_cases h : num * Nat.pow 2 (-guess).toNat / (den * Nat.pow 2 guess.toNat) < 2 * fractions
    · refine ⟨guess, by simp only [if_pos h], ?_, hbits.mp h⟩
      have hexp : guess + 52 = (num.log2 : ℤ) - den.log2 - 1 := by omega
      rw [hunit, hexp]
      exact hlow.le
    · refine ⟨guess + 1, by simp only [if_neg h], ?_, ?_⟩
      · rw [hbits, not_lt] at h
        rw [hstep]
        linarith
      · have hexp : guess + 1 + 52 + 1 = (num.log2 : ℤ) - den.log2 + 1 := by omega
        rw [mul_assoc, hunit, mul_comm, ← hstep, hexp]
        exact hhigh
  rw [hfree]
  rcases le_total (-1074) free with h | h
  · rw [max_eq_right h]
    exact ⟨h, hfreehigh, fun _ => hfreelow⟩
  · rw [max_eq_left h]
    refine ⟨le_refl _, lt_of_lt_of_le hfreehigh ?_, fun hne => absurd rfl hne⟩
    exact mul_le_mul_of_nonneg_left (zpow_le_zpow_right₀ (by norm_num) h) (by norm_num)

/-- A quotient within one half of a natural number is rounded to it; at one half the number has to
be even. -/
theorem roundDiv_of_near {num den n : ℕ} (hden : 0 < den)
    (hlow : if n % 2 = 0 then (n : ℚ) ≤ num / den + 1 / 2 else (n : ℚ) < num / den + 1 / 2)
    (hhigh : if n % 2 = 0 then (num / den : ℚ) ≤ n + 1 / 2 else (num / den : ℚ) < n + 1 / 2) :
    roundDiv num den = n := by
  have hpos : (0 : ℚ) < den := by exact_mod_cast hden
  have hsum : (num / den + 1 / 2 : ℚ) = (2 * num + den) / (2 * den) := by
    field_simp
  have hhalf : (n + 1 / 2 : ℚ) = (2 * n + 1) / 2 := by ring
  rw [hsum, le_div_iff₀ (by positivity), lt_div_iff₀ (by positivity)] at hlow
  rw [hhalf, div_le_div_iff₀ hpos (by norm_num), div_lt_div_iff₀ hpos (by norm_num)] at hhigh
  refine roundDiv_eq hden ?_ ?_
  · split
    · next h =>
      rw [if_pos h] at hlow
      have hnat : n * (2 * den) ≤ 2 * num + den := by exact_mod_cast hlow
      calc 2 * n * den = n * (2 * den) := by ring
        _ ≤ _ := hnat
    · next h =>
      rw [if_neg h] at hlow
      have hnat : n * (2 * den) < 2 * num + den := by exact_mod_cast hlow
      calc 2 * n * den = n * (2 * den) := by ring
        _ < _ := hnat
  · split
    · next h =>
      rw [if_pos h] at hhigh
      have hnat : num * 2 ≤ (2 * n + 1) * den := by exact_mod_cast hhigh
      omega
    · next h =>
      rw [if_neg h] at hhigh
      have hnat : num * 2 < (2 * n + 1) * den := by exact_mod_cast hhigh
      omega

/-- What fits a magnitude has its exponent as scale, or lies just below a power of two and has the
exponent before. -/
theorem IsScale.eq_or {magnitude : ℕ} {x : ℚ} {scale : ℤ} (hs : IsScale x scale)
    (h : Fits magnitude x) :
    scale = exponent magnitude ∨
      (scale = exponent magnitude - 1 ∧ significand magnitude = fractions ∧
        exponent magnitude ≠ -1074) := by
  obtain ⟨hlow, hhigh⟩ := h.bounds
  have hhalf := halfBelow_le magnitude
  have hm : (significand magnitude : ℚ) + 1 ≤ 2 * fractions := by
    exact_mod_cast significand_lt magnitude
  have hpos : (0 : ℚ) < 2 ^ exponent magnitude := by positivity
  have hmono {a b : ℤ} (hab : a ≤ b) : (2 : ℚ) ^ a ≤ 2 ^ b :=
    zpow_le_zpow_right₀ (by norm_num) hab
  have hprev : (2 : ℚ) ^ exponent magnitude = 2 ^ (exponent magnitude - 1) * 2 := by
    rw [← zpow_add_one₀ (by norm_num), sub_add_cancel]
  rw [value] at hlow hhigh
  rcases lt_trichotomy scale (exponent magnitude) with hlt | heq | hgt
  · right
    have hq : exponent magnitude ≠ -1074 := by
      have := hs.least
      omega
    have hmlow : fractions ≤ significand magnitude := fractions_le_significand hq
    have hx : x < fractions * 2 ^ exponent magnitude := by
      have hbelow := hs.below
      have hscale : (2 : ℚ) ^ scale ≤ 2 ^ (exponent magnitude - 1) := hmono (by omega)
      nlinarith [hscale, (Nat.cast_pos (α := ℚ)).mpr (by decide : 0 < fractions)]
    have hmeq : significand magnitude = fractions := by
      have hmul : (significand magnitude : ℚ) * 2 ^ exponent magnitude <
          (fractions + 1) * 2 ^ exponent magnitude := by
        nlinarith
      have hcast : (significand magnitude : ℚ) < fractions + 1 :=
        lt_of_mul_lt_mul_right hmul hpos.le
      have hnat : significand magnitude < fractions + 1 := by exact_mod_cast hcast
      omega
    refine ⟨?_, hmeq, hq⟩
    by_contra hne
    have hquarter : halfBelow magnitude = 1 / 4 := by rw [halfBelow, if_pos ⟨hmeq, hq⟩]
    rw [hmeq, hquarter] at hlow
    have hbelow := hs.below
    have hscale : (2 : ℚ) ^ scale ≤ 2 ^ (exponent magnitude - 1 - 1) := hmono (by omega)
    have hprev2 : (2 : ℚ) ^ (exponent magnitude - 1) = 2 ^ (exponent magnitude - 1 - 1) * 2 := by
      rw [← zpow_add_one₀ (by norm_num), sub_add_cancel]
    have hfr : (fractions : ℚ) = 4503599627370496 := by norm_num [fractions]
    rw [hfr] at hlow hbelow
    linarith
  · exact .inl heq
  · exfalso
    have hne : scale ≠ -1074 := by
      have := exponent_ge magnitude
      omega
    have habove := hs.above hne
    have hscale : (2 : ℚ) ^ exponent magnitude * 2 ≤ 2 ^ scale := by
      rw [← zpow_add_one₀ (by norm_num)]
      exact hmono (by omega)
    nlinarith [(Nat.cast_pos (α := ℚ)).mpr (by decide : 0 < fractions)]

/-- What fits a magnitude is rounded to its significand at the scale of its exponent. -/
theorem roundDiv_of_fits {num den magnitude : ℕ} {x : ℚ} (h : Fits magnitude x) (hden : 0 < den)
    (hratio : (num / den : ℚ) = x / 2 ^ exponent magnitude) :
    roundDiv num den = significand magnitude := by
  have hpos : (0 : ℚ) < 2 ^ exponent magnitude := by positivity
  have hhalf := halfBelow_le magnitude
  rw [Fits, value] at h
  apply roundDiv_of_near hden
  · rw [hratio, ← sub_le_iff_le_add, ← sub_lt_iff_lt_add, le_div_iff₀ hpos, lt_div_iff₀ hpos]
    split at h
    · next heven =>
      rw [if_pos heven]
      nlinarith [h.1]
    · next hodd =>
      rw [if_neg hodd]
      nlinarith [h.1]
  · rw [hratio, div_le_iff₀ hpos, div_lt_iff₀ hpos]
    split at h
    · next heven =>
      rw [if_pos heven]
      nlinarith [h.2]
    · next hodd =>
      rw [if_neg hodd]
      nlinarith [h.2]

/-- What fits a power of two from below is rounded up to it at the scale before. -/
theorem roundDiv_of_fits_below {num den magnitude : ℕ} {x : ℚ} {scale : ℤ} (hs : IsScale x scale)
    (h : Fits magnitude x) (hden : 0 < den) (hratio : (num / den : ℚ) = x / 2 ^ scale)
    (hscale : scale = exponent magnitude - 1) (hm : significand magnitude = fractions)
    (hq : exponent magnitude ≠ -1074) : roundDiv num den = 2 * fractions := by
  have hquarter : halfBelow magnitude = 1 / 4 := by rw [halfBelow, if_pos ⟨hm, hq⟩]
  obtain ⟨hlow, -⟩ := h.bounds
  have hprev : (2 : ℚ) ^ exponent magnitude = 2 ^ scale * 2 := by
    rw [← zpow_add_one₀ (by norm_num), hscale, sub_add_cancel]
  rw [value, hm, hquarter, hprev] at hlow
  have hpos : (0 : ℚ) < 2 ^ scale := by positivity
  have hbelow := hs.below
  have heven : 2 * fractions % 2 = 0 := by decide
  apply roundDiv_of_near hden
  · rw [hratio, if_pos heven, ← sub_le_iff_le_add, le_div_iff₀ hpos]
    push_cast
    linarith
  · rw [hratio, if_pos heven, div_le_iff₀ hpos]
    push_cast
    linarith

/-- A quotient that fits a finite magnitude is rounded to it. -/
theorem nearest_of_fits {num den magnitude : ℕ} (hnum : num ≠ 0) (hden : den ≠ 0)
    (hfinite : magnitude < infinite) (h : Fits magnitude (num / den)) :
    nearest num den = magnitude := by
  have hs := isScale_scaleOf hnum hden
  have hmag := magnitude_eq magnitude
  have hleast := exponent_ge magnitude
  obtain ⟨scale, hscale⟩ : ∃ s, s = scaleOf num den := ⟨_, rfl⟩
  rw [← hscale] at hs
  have hdenpos : 0 < den * Nat.pow 2 scale.toNat :=
    Nat.mul_pos (Nat.pos_of_ne_zero hden) (Nat.pow_pos (by decide))
  simp only [nearest, if_neg hnum, ← hscale]
  rcases hs.eq_or h with heq | ⟨heq, hm, hq⟩
  · have hratio := scaled_eq num den scale
    rw [heq] at hratio
    rw [heq] at hdenpos
    rw [heq, roundDiv_of_fits h hdenpos hratio]
    simp only [infinite, fractions] at *
    omega
  · rw [roundDiv_of_fits_below hs h hdenpos (scaled_eq num den scale) heq hm hq]
    simp only [infinite, fractions] at *
    omega

end Double

end ContentQuery
