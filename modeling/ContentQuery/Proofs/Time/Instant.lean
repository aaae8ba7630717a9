import ContentQuery.Proofs.Number.Digits
import ContentQuery.Proofs.Time.Calendar
import ContentQuery.Time.Reader

/-!
# Written instants read back

An instant that is written is read back as what its text shows, to the millisecond or to the last
digit. Leap seconds are shown as second sixty at the end of a minute; anywhere else the text shows
the second after.
-/

namespace ContentQuery

namespace Instant

open Text (skipBlanks)

/-- The instants that can be kept: less than two seconds behind their second, in a kept year. -/
structure InRange (t : Instant) : Prop where
  nanos : t.nanos < 2000000000
  year : hasYear (CivilDate.ofDays (t.seconds / 86400)).year = true

/-- What is written of billionths of a second. -/
def Precision.kept : Precision → ℕ → ℕ
  | .millis, nanos => nanos / 1000000 * 1000000
  | .exact, nanos => nanos

/-- What the text of an instant shows. -/
def shown (precision : Precision) (t : Instant) : Instant :=
  if t.seconds % 60 = 59 then ⟨t.seconds, precision.kept t.nanos⟩
  else ⟨t.seconds + (t.nanos / 1000000000 : ℕ), precision.kept (t.nanos % 1000000000)⟩

/-- What the text of an instant shows to the millisecond. -/
def toMillis (t : Instant) : Instant :=
  if t.seconds % 60 = 59 then ⟨t.seconds, t.nanos / 1000000 * 1000000⟩
  else ⟨t.seconds + (t.nanos / 1000000000 : ℕ), t.nanos % 1000000000 / 1000000 * 1000000⟩

/-- A fraction of one second or more belongs to a leap second at the end of a minute. -/
def IsTimely (t : Instant) : Prop := 1000000000 ≤ t.nanos → t.seconds % 60 = 59

/-- The text to the last digit shows the instant itself exactly if this is so. -/
theorem shown_exact_eq_iff {t : Instant} : t.shown .exact = t ↔ t.IsTimely := by
  obtain ⟨seconds, nanos⟩ := t
  simp only [shown, Precision.kept, IsTimely]
  split
  · next hend => exact iff_of_true rfl fun _ => hend
  · simp only [Instant.mk.injEq]
    omega

/-- An instant of whole milliseconds; if it belongs to a leap second, then to one at the end of a
minute. -/
structure IsWhole (t : Instant) : Prop where
  millis : t.nanos % 1000000 = 0
  leap : 1000000000 ≤ t.nanos → t.seconds % 60 = 59

/-- The text of an instant of whole milliseconds shows that instant. -/
theorem IsWhole.toMillis_eq {t : Instant} (h : t.IsWhole) : t.toMillis = t := by
  obtain ⟨seconds, nanos⟩ := t
  obtain ⟨hmillis, hleap⟩ := h
  dsimp only at hmillis hleap
  simp only [toMillis]
  split
  · simp only [Instant.mk.injEq, true_and]
    omega
  · simp only [Instant.mk.injEq]
    omega

/-- Digits are no blanks. -/
theorem isBlank_of_isDigit {c : Char} (h : c.isDigit = true) : Text.isBlank c = false := by
  obtain ⟨hlow, hhigh⟩ := Bool.and_eq_true_iff.mp h
  have hlow' : 48 ≤ c.toNat := of_decide_eq_true hlow
  have hhigh' : c.toNat ≤ 57 := of_decide_eq_true hhigh
  rw [Text.isBlank]
  interval_cases c.toNat <;> rfl

/-- There is nothing to skip before a character that is no blank. -/
theorem skipBlanks_cons {c : Char} (h : Text.isBlank c = false) (rest : List Char) :
    skipBlanks (c :: rest) = c :: rest := by
  simp [skipBlanks, h]

/-- There is nothing to skip before digits. -/
theorem skipBlanks_digits {ds : List Char} (h : IsDigits ds) (rest : List Char) :
    skipBlanks (ds ++ rest) = ds ++ rest := by
  obtain ⟨d, more, rfl, hd⟩ := h.exists_cons
  exact skipBlanks_cons (isBlank_of_isDigit hd) _

/-- A number of the full width is read, and what follows is left. -/
theorem readNumber?_append {most : ℕ} {ds : List Char} (h : IsDigits ds) (hlen : ds.length = most)
    (rest : List Char) : readNumber? most (ds ++ rest) = some (Double.digitsValue ds, rest) := by
  have htake : (ds ++ rest).take most = ds := by rw [← hlen, List.take_left]
  have hall : ds.takeWhile Char.isDigit = ds := by
    simpa using h.takeWhile_append [] (by simp)
  simp only [readNumber?, skipBlanks_digits h, htake, hall, h.isEmpty_eq, Bool.false_eq_true,
    if_false, List.drop_left]

/-- A padded number of one or two digits is read back. -/
theorem readNumber?_pair {n : ℕ} (h : n < 100) (rest : List Char) :
    readNumber? 2 (padded 2 n ++ rest) = some (n, rest) := by
  rw [readNumber?_append (isDigits_padded 2 n) (length_padded (by decide) h), digitsValue_padded]

/-- Digits up to something else are read. -/
theorem readDigits?_append {ds : List Char} (h : IsDigits ds) (rest : List Char)
    (hrest : ∀ c ∈ rest.head?, c.isDigit = false) :
    readDigits? (ds ++ rest) = some (Double.digitsValue ds, rest) := by
  simp only [readDigits?, h.takeWhile_append rest hrest, h.isEmpty_eq, Bool.false_eq_true, if_false,
    List.drop_left]

/-- A mark is read where it stands. -/
theorem readMark?_cons (mark : Char) (h : Text.isBlank mark = false) (rest : List Char) :
    readMark? mark (mark :: rest) = some rest := by
  simp [readMark?, skipBlanks_cons h]

/-- A written year is read back, up to a dash. -/
theorem readYear?_write (year : ℤ) (rest : List Char) :
    readYear? (writeYear year ++ '-' :: rest) = some (year, '-' :: rest) := by
  have hdash : ∀ c ∈ ('-' :: rest).head?, c.isDigit = false := by simp
  rw [writeYear]
  split
  · next h =>
    have hlt : year.toNat < 10 ^ 4 := by omega
    have hdigits := isDigits_padded 4 year.toNat
    have hcast : (year.toNat : ℤ) = year := Int.toNat_of_nonneg h.1
    obtain ⟨d, more, hcons, hd⟩ := hdigits.exists_cons
    have hplus : d ≠ '+' := Text.ne_of_kind hd rfl
    have hminus : d ≠ '-' := Text.ne_of_kind hd rfl
    have hnumber := readNumber?_append hdigits (length_padded (by decide) hlt) ('-' :: rest)
    rw [readYear?, skipBlanks_digits hdigits]
    split
    · next heq => rw [hcons] at heq; exact absurd (List.cons.inj heq).1 hminus
    · next heq => rw [hcons] at heq; exact absurd (List.cons.inj heq).1 hplus
    · rw [hnumber, digitsValue_padded, Option.map_some]
      simp only [hcast]
  · next h =>
    have hdigits := readDigits?_append (isDigits_padded 4 year.natAbs) ('-' :: rest) hdash
    rw [digitsValue_padded] at hdigits
    rcases Int.lt_or_le year 0 with hneg | hnonneg
    · have hcast : -(year.natAbs : ℤ) = year := by omega
      rw [if_pos hneg, List.cons_append, readYear?, skipBlanks_cons rfl]
      simp only [hdigits, Option.map_some, hcast]
    · have hcast : (year.natAbs : ℤ) = year := by omega
      rw [if_neg (by omega), List.cons_append, readYear?, skipBlanks_cons rfl]
      simp only [hdigits, Option.map_some, hcast]

/-- The written date of a day is read back. -/
theorem readDate?_write (days : ℤ) (hyear : hasYear (CivilDate.ofDays days).year = true)
    (rest : List Char) :
    readDate? (writeYear (CivilDate.ofDays days).year ++ '-' ::
      (padded 2 (CivilDate.ofDays days).month ++ '-' ::
        (padded 2 (CivilDate.ofDays days).day ++ rest))) =
      some (CivilDate.ofDays days, rest) := by
  have hvalid := CivilDate.isValid_ofDays days
  obtain ⟨hmonth, hday⟩ : (CivilDate.ofDays days).month < 100 ∧
      (CivilDate.ofDays days).day < 100 := by
    have hmost : CivilDate.daysInMonth (CivilDate.ofDays days).year
        (CivilDate.ofDays days).month ≤ 31 := by
      simp only [CivilDate.daysInMonth]
      split <;> split <;> omega
    simp only [CivilDate.isValid, decide_eq_true_eq] at hvalid
    omega
  have hdate : (⟨(CivilDate.ofDays days).year, (CivilDate.ofDays days).month,
      (CivilDate.ofDays days).day⟩ : CivilDate) = CivilDate.ofDays days := rfl
  simp only [readDate?, readYear?_write, readMark?_cons '-' rfl, readNumber?_pair hmonth,
    readNumber?_pair hday, Option.bind_eq_bind, Option.bind_some, hdate, hvalid, hyear,
    Bool.and_self, if_true]

/-- The digits of a fraction are read back in billionths. -/
theorem readFraction?_padded {width n : ℕ} (hwidth : 0 < width) (hmost : width ≤ 9)
    (h : n < 10 ^ width) (rest : List Char) (hrest : ∀ c ∈ rest.head?, c.isDigit = false) :
    readFraction? ('.' :: (padded width n ++ rest)) = some (n * 10 ^ (9 - width), rest) := by
  have hdigits := isDigits_padded width n
  have hlen : (padded width n).length = width := length_padded hwidth h
  have hvalue : Double.digitsValue ((padded width n ++ List.replicate 9 '0').take 9) =
      n * 10 ^ (9 - width) := by
    rw [List.take_append, hlen, List.take_of_length_le (by omega), List.take_replicate,
      Double.digitsValue_append, digitsValue_padded, Double.digitsValue_zeros,
      List.length_replicate, Nat.add_zero, Nat.min_eq_left (by omega)]
  simp only [readFraction?, hdigits.takeWhile_append rest hrest, hdigits.isEmpty_eq,
    Bool.false_eq_true, if_false, hvalue, List.drop_left]

/-- A written fraction is read back as what is kept of it. -/
theorem readFraction?_write (precision : Precision) {nanos : ℕ} (h : nanos < 1000000000)
    (rest : List Char) (hrest : ∀ c ∈ rest.head?, c.isDigit = false)
    (hpoint : rest.head? ≠ some '.') :
    readFraction? (writeFraction precision nanos ++ rest) = some (precision.kept nanos, rest) := by
  have hread (width n : ℕ) (hwidth : 0 < width) (hmost : width ≤ 9) (hn : n < 10 ^ width) :
      readFraction? ('.' :: padded width n ++ rest) = some (n * 10 ^ (9 - width), rest) :=
    readFraction?_padded hwidth hmost hn rest hrest
  cases precision with
  | millis => exact hread 3 _ (by decide) (by decide) (by omega)
  | exact =>
    rw [writeFraction, Precision.kept]
    split
    · next hzero =>
      subst hzero
      rw [List.nil_append]
      unfold readFraction?
      split
      · exact absurd rfl hpoint
      · rfl
    · split
      · rw [hread 3 _ (by decide) (by decide) (by omega)]
        congr 2
        omega
      · split
        · rw [hread 6 _ (by decide) (by decide) (by omega)]
          congr 2
          omega
        · rw [hread 9 _ (by decide) (by decide) (by omega)]
          congr 2
          omega

/-- A written time of a day is read back; second sixty is the last one, with a whole second more
behind it. -/
theorem readTime?_write (precision : Precision) (date : CivilDate) {hour minute second nanos : ℕ}
    (hhour : hour < 24) (hminute : minute < 60) (hsecond : second < 61)
    (hnanos : nanos < 1000000000) (rest : List Char)
    (hrest : ∀ c ∈ rest.head?, c.isDigit = false) (hpoint : rest.head? ≠ some '.') :
    readTime? date (padded 2 hour ++ ':' :: (padded 2 minute ++ ':' :: (padded 2 second ++
      (writeFraction precision nanos ++ rest)))) =
      some (if second = 60 then ofCivil date hour minute 59 (1000000000 + precision.kept nanos)
        else ofCivil date hour minute second (precision.kept nanos), rest) := by
  have hchecks : ¬ (24 ≤ hour ∨ 60 ≤ minute ∨ 61 ≤ second) := by omega
  simp only [readTime?, readNumber?_pair (by omega : hour < 100),
    readNumber?_pair (by omega : minute < 100), readNumber?_pair (by omega : second < 100),
    readMark?_cons ':' rfl, readFraction?_write precision hnanos rest hrest hpoint,
    Option.bind_eq_bind, Option.bind_some, if_neg hchecks]
  split <;> rfl

/-- An instant is read back as what its text shows. -/
theorem ofText?_write_eq_shown (precision : Precision) {t : Instant} (h : t.InRange) :
    ofText? (t.write precision) = some (t.shown precision) := by
  obtain ⟨hnanos, hyear⟩ := h
  obtain ⟨seconds, nanos⟩ := t
  dsimp only at hnanos hyear
  obtain ⟨time, htime⟩ : ∃ n : ℕ, n = (seconds % 86400).toNat := ⟨_, rfl⟩
  have htext : (write precision ⟨seconds, nanos⟩).toList =
      writeYear (CivilDate.ofDays (seconds / 86400)).year ++ '-' ::
        (padded 2 (CivilDate.ofDays (seconds / 86400)).month ++ '-' ::
        (padded 2 (CivilDate.ofDays (seconds / 86400)).day ++ ('T' ::
        (padded 2 (time / 3600) ++ ':' :: (padded 2 (time / 60 % 60) ++ ':' ::
        (padded 2 (time % 60 + nanos / 1000000000) ++
        (writeFraction precision (nanos % 1000000000) ++ ['Z']))))))) := by
    simp [write, htime]
  have htime' := readTime?_write precision (CivilDate.ofDays (seconds / 86400))
    (by omega : time / 3600 < 24) (by omega : time / 60 % 60 < 60)
    (by omega : time % 60 + nanos / 1000000000 < 61) (by omega : nanos % 1000000000 < 1000000000)
    ['Z'] (by simp) (by simp)
  -- The moment that is put together from the parts is the one that the text shows.
  have hmoment : (if time % 60 + nanos / 1000000000 = 60 then
      ofCivil (CivilDate.ofDays (seconds / 86400)) (time / 3600) (time / 60 % 60) 59
        (1000000000 + precision.kept (nanos % 1000000000))
      else ofCivil (CivilDate.ofDays (seconds / 86400)) (time / 3600) (time / 60 % 60)
        (time % 60 + nanos / 1000000000) (precision.kept (nanos % 1000000000))) =
      shown precision ⟨seconds, nanos⟩ := by
    simp only [shown, ofCivil, CivilDate.toDays_ofDays]
    cases precision <;> simp only [Precision.kept] <;> split <;> split <;>
      simp only [Instant.mk.injEq, and_true] <;> omega
  have hday : (shown precision ⟨seconds, nanos⟩).seconds / 86400 = seconds / 86400 := by
    simp only [shown]
    split
    · rfl
    · dsimp only
      omega
  rw [hmoment] at htime'
  rw [ofText?, htext]
  simp only [readDate?_write _ hyear, readSeparator?, htime', Option.bind_eq_bind,
    Option.bind_some]
  have hoffset : readOffset? (skipBlanks ['Z']) = some (0, []) := rfl
  have hend : (skipBlanks []).isEmpty = true := rfl
  simp only [hoffset, Option.bind_some, hend, Int.sub_zero, hday, hyear, Bool.and_self, if_true]

/-- An instant that is written to the millisecond is read back as what its text shows. -/
theorem ofText?_write {t : Instant} (h : t.InRange) :
    ofText? (t.write .millis) = some t.toMillis := ofText?_write_eq_shown .millis h

/-- A character that is no digit is in no padded number. -/
theorem not_mem_padded {c : Char} (h : c.isDigit = false) (width n : ℕ) : c ∉ padded width n := by
  intro hc
  rw [(isDigits_padded width n).all c hc] at h
  cases h

/-- There is no quote in a written instant. -/
theorem quote_not_mem_write (t : Instant) : '\x27' ∉ (t.write .millis).toList := by
  have hpadded (width n : ℕ) : '\x27' ∉ padded width n := not_mem_padded rfl width n
  have hyear (year : ℤ) : '\x27' ∉ writeYear year := by
    rw [writeYear]
    split
    · exact hpadded 4 _
    · split <;> simp [hpadded]
  simp [write, writeFraction, hpadded, hyear]

end Instant

end ContentQuery
