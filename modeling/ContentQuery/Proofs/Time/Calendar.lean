import ContentQuery.Time.Calendar
import Mathlib.Tactic.IntervalCases
import Mathlib.Tactic.Linarith

/-!
# The calendar counts every day once

The date of a day number is a day that the calendar has, and its number is the one it was made
from. An era of 400 years is cut into centuries, cycles of four years, years and days; the year of
an era is the one that this cut names.
-/

namespace ContentQuery

namespace CivilDate

/-- Day `e` of an era lies in century `c`, there in cycle `k`, there in year `j`, there on day `i`.
Only the last year of a cycle has a day 365, and the last cycle of a century has it only in the
last century. -/
structure EraDay (e c k j i : Int) : Prop where
  eq : e = 36524 * c + 1461 * k + 365 * j + i
  century : 0 ≤ c ∧ c ≤ 3
  cycle : 0 ≤ k ∧ k ≤ 24
  year : 0 ≤ j ∧ j ≤ 3
  day : 0 ≤ i ∧ i ≤ 365
  leap : i = 365 → j = 3 ∧ (k < 24 ∨ c = 3)

/-- Every day of an era has a place in it. -/
theorem exists_eraDay (e : Int) (hlow : 0 ≤ e) (hhigh : e < 146097) :
    ∃ c k j i, EraDay e c k j i := by
  obtain ⟨c, hc⟩ : ∃ c : Int, c = min (e / 36524) 3 := ⟨_, rfl⟩
  obtain ⟨k, hk⟩ : ∃ k : Int, k = (e - 36524 * c) / 1461 := ⟨_, rfl⟩
  obtain ⟨j, hj⟩ : ∃ j : Int, j = min ((e - 36524 * c - 1461 * k) / 365) 3 := ⟨_, rfl⟩
  refine ⟨c, k, j, e - 36524 * c - 1461 * k - 365 * j, ?_, ?_, ?_, ?_, ?_, ?_⟩ <;> omega

/-- The days of a century are fewer than 36524, those of the last one at most as many. -/
theorem EraDay.inCentury {e c k j i : Int} (h : EraDay e c k j i) :
    1461 * k + 365 * j + i ≤ 36523 ∨ (1461 * k + 365 * j + i = 36524 ∧ c = 3) := by
  obtain ⟨-, hc, hk, hj, hi, hleap⟩ := h
  rcases Int.lt_or_eq_of_le hi.2 with hlt | heq
  · omega
  · have := hleap heq
    omega

/-- The year of an era, as it is computed from the day, is the year of the day's place. -/
theorem EraDay.yearOfEra {e c k j i : Int} (h : EraDay e c k j i) :
    (e - e / 1460 + e / 36524 - e / 146096) / 365 = 100 * c + 4 * k + j := by
  have hcentury := h.inCentury
  obtain ⟨he, hc, hk, hj, hi, hleap⟩ := h
  have hdrop : e / 36524 - e / 146096 = c := by
    rcases hcentury with hlt | ⟨heq, rfl⟩
    · have : e / 36524 = c := by omega
      omega
    · have : e = 146096 := by omega
      subst this
      rfl
  obtain ⟨s, hs⟩ : ∃ s, s = 365 * j + i := ⟨_, rfl⟩
  have hcycles : e / 1460 = 25 * c + k + (24 * c + k + s) / 1460 := by omega
  have hsum : e - e / 1460 + e / 36524 - e / 146096 = e - e / 1460 + c := by omega
  rw [hsum, hcycles]
  -- The quotient that is left over is one only where the day is near the end of its cycle.
  rcases Int.lt_or_le (24 * c + k + s) 1460 with hlt | hle
  · have hzero : (24 * c + k + s) / 1460 = 0 := by omega
    have hyear : i ≤ 364 ∨ j = 3 := by omega
    rw [hzero]
    omega
  · have hone : (24 * c + k + s) / 1460 = 1 := by omega
    rw [hone]
    omega

/-- Of the years of an era before a given one, the quotients that its leap years are counted by. -/
theorem EraDay.leapYears {e c k j i : Int} (h : EraDay e c k j i) :
    (100 * c + 4 * k + j) / 4 = 25 * c + k ∧ (100 * c + 4 * k + j) / 100 = c ∧
      0 ≤ 100 * c + 4 * k + j ∧ 100 * c + 4 * k + j ≤ 399 := by
  obtain ⟨-, hc, hk, hj, -, -⟩ := h
  omega

/-- A date by its era, year of the era, day of the year and month of the year, all counted from the
first of March. -/
def ofPlace (era year day month : Int) : CivilDate :=
  let civil := if month < 10 then month + 3 else month - 9
  ⟨if civil ≤ 2 then era * 400 + year + 1 else era * 400 + year, civil.toNat,
    (day - (153 * month + 2) / 5 + 1).toNat⟩

/-- The date of a day number is that of its place in its era. -/
theorem ofDays_eq_ofPlace (days : Int) :
    ∃ c k j i, EraDay ((days + 719468) % 146097) c k j i ∧
      ofDays days =
        ofPlace ((days + 719468) / 146097) (100 * c + 4 * k + j) i ((5 * i + 2) / 153) := by
  obtain ⟨c, k, j, i, h⟩ := exists_eraDay ((days + 719468) % 146097)
    (Int.emod_nonneg _ (by decide)) (Int.emod_lt_of_pos _ (by decide))
  refine ⟨c, k, j, i, h, ?_⟩
  have hday : (days + 719468) % 146097 - (365 * (100 * c + 4 * k + j) +
      (100 * c + 4 * k + j) / 4 - (100 * c + 4 * k + j) / 100) = i := by
    rw [h.leapYears.1, h.leapYears.2.1, h.eq]
    omega
  simp only [ofDays, ofPlace, h.yearOfEra, hday]

/-- The month of a day of the year holds it, with all months but the last at full length. -/
theorem month_spec (i : Int) (hi : 0 ≤ i ∧ i ≤ 365) :
    0 ≤ (5 * i + 2) / 153 ∧ (5 * i + 2) / 153 ≤ 11 ∧
      (153 * ((5 * i + 2) / 153) + 2) / 5 ≤ i ∧
      i < (153 * ((5 * i + 2) / 153 + 1) + 2) / 5 := by
  omega

/-- The calendar has the date of every day number. -/
theorem isValid_ofDays (days : Int) : (ofDays days).isValid = true := by
  obtain ⟨c, k, j, i, ⟨-, hc, hk, hj, hi, hleap⟩, heq⟩ := ofDays_eq_ofPlace days
  obtain ⟨hlow, hhigh, hstart, hend⟩ := month_spec i hi
  rw [heq]
  generalize (days + 719468) / 146097 = era
  generalize (5 * i + 2) / 153 = month at hlow hhigh hstart hend
  simp only [isValid, ofPlace, daysInMonth, isLeapYear]
  interval_cases month <;> norm_num <;> omega

/-- The number of a date that is given by its place counts the days before that place. -/
theorem toDays_ofPlace (era year day month : Int) (hyear : 0 ≤ year ∧ year ≤ 399)
    (hmonth : 0 ≤ month ∧ month ≤ 11) (hday : (153 * month + 2) / 5 ≤ day) :
    (ofPlace era year day month).toDays =
      era * 146097 + year * 365 + year / 4 - year / 100 + day - 719468 := by
  have hera : (era * 400 + year) / 400 = era := by omega
  have hrest : year % 400 = year := by omega
  obtain ⟨hlow, hhigh⟩ := hmonth
  simp only [toDays, ofPlace]
  interval_cases month <;> norm_num at hday ⊢ <;> rw [hera, hrest] <;> omega

/-- The number of the date of a day number is that number. -/
theorem toDays_ofDays (days : Int) : (ofDays days).toDays = days := by
  obtain ⟨c, k, j, i, h, heq⟩ := ofDays_eq_ofPlace days
  obtain ⟨hlow, hhigh, hstart, -⟩ := month_spec i h.day
  obtain ⟨hquarters, hcenturies, hyear⟩ := h.leapYears
  have hplace := h.eq
  rw [heq, toDays_ofPlace _ _ _ _ hyear ⟨hlow, hhigh⟩ hstart, hquarters, hcenturies]
  omega

end CivilDate

end ContentQuery
