import ContentQuery.Number.Reader
import ContentQuery.Text.Basic
import ContentQuery.Time.Instant

/-!
# Reading instants

A written instant is a date, a separator, a time with an optional fraction, and an offset from
universal time. The reading is lenient: numbers may lack leading zeros, blanks may stand before
each part, and a year of any length may follow a sign.
-/

namespace ContentQuery

namespace Instant

open Text (skipBlanks)

/-- One to `most` digits after optional blanks, and the rest. -/
def readNumber? (most : Nat) (s : List Char) : Option (Nat × List Char) :=
  let s := skipBlanks s
  let digits := (s.take most).takeWhile Char.isDigit
  if digits.isEmpty then none else some (Double.digitsValue digits, s.drop digits.length)

/-- Any number of digits, at least one. -/
def readDigits? (s : List Char) : Option (Nat × List Char) :=
  let digits := s.takeWhile Char.isDigit
  if digits.isEmpty then none else some (Double.digitsValue digits, s.drop digits.length)

/-- A year: up to four digits, or any number of them after a sign. -/
def readYear? (s : List Char) : Option (Int × List Char) :=
  match skipBlanks s with
  | '-' :: rest => (readDigits? rest).map fun (n, rest) => (-(n : Int), rest)
  | '+' :: rest => (readDigits? rest).map fun (n, rest) => ((n : Int), rest)
  | other => (readNumber? 4 other).map fun (n, rest) => ((n : Int), rest)

/-- A given character after optional blanks. -/
def readMark? (mark : Char) (s : List Char) : Option (List Char) :=
  match skipBlanks s with
  | c :: rest => if c = mark then some rest else none
  | [] => none

/-- A fraction of a second in billionths. Digits after the ninth are skipped. -/
def readFraction? (s : List Char) : Option (Nat × List Char) :=
  match s with
  | '.' :: rest =>
    let digits := rest.takeWhile Char.isDigit
    if digits.isEmpty then none
    else some (Double.digitsValue ((digits ++ List.replicate 9 '0').take 9), rest.drop digits.length)
  | _ => some (0, s)

/-- Two digits below the given number. -/
def readPair? (limit : Nat) (s : List Char) : Option (Nat × List Char) :=
  match s with
  | a :: b :: rest =>
    let n := Double.digitsValue [a, b]
    if a.isDigit && b.isDigit && n < limit then some (n, rest) else none
  | _ => none

/-- Hours and minutes of an offset, in seconds; colons and blanks may stand between them. -/
def readOffsetSize? (s : List Char) : Option (Nat × List Char) := do
  let (hours, s) ← readPair? 100 s
  let (minutes, s) ← readPair? 60 (s.dropWhile fun c => c = ':' || Text.isBlank c)
  if hours < 24 then some (hours * 3600 + minutes * 60, s) else none

/-- An offset from universal time in seconds. -/
def readOffset? (s : List Char) : Option (Int × List Char) :=
  if (s.take 3).map Char.toUpper = ['U', 'T', 'C'] then some (0, s.drop 3)
  else match s with
    | 'Z' :: rest => some (0, rest)
    | 'z' :: rest => some (0, rest)
    | '+' :: rest => (readOffsetSize? rest).map fun (n, rest) => ((n : Int), rest)
    | '-' :: rest => (readOffsetSize? rest).map fun (n, rest) => (-(n : Int), rest)
    | '−' :: rest => (readOffsetSize? rest).map fun (n, rest) => (-(n : Int), rest)
    | _ => none

/-- The years that dates are kept in. -/
def hasYear (year : Int) : Bool := -262143 ≤ year ∧ year ≤ 262142

/-- The date of a written instant. -/
def readDate? (s : List Char) : Option (CivilDate × List Char) := do
  let (year, s) ← readYear? s
  let s ← readMark? '-' s
  let (month, s) ← readNumber? 2 s
  let s ← readMark? '-' s
  let (day, s) ← readNumber? 2 s
  let date : CivilDate := ⟨year, month, day⟩
  if date.isValid && hasYear year then some (date, s) else none

/-- The time of a written instant on a given day; second sixty is a leap second. -/
def readTime? (date : CivilDate) (s : List Char) : Option (Instant × List Char) := do
  let (hour, s) ← readNumber? 2 s
  let s ← readMark? ':' s
  let (minute, s) ← readNumber? 2 s
  let s ← readMark? ':' s
  let (second, s) ← readNumber? 2 s
  let (nanos, s) ← readFraction? s
  if 24 ≤ hour ∨ 60 ≤ minute ∨ 61 ≤ second then none
  else if second = 60 then some (ofCivil date hour minute 59 (1000000000 + nanos), s)
  else some (ofCivil date hour minute second nanos, s)

/-- The character between the date and the time. -/
def readSeparator? : List Char → Option (List Char)
  | 'T' :: rest => some rest
  | 't' :: rest => some rest
  | ' ' :: rest => some rest
  | _ => none

/-- The instant that a text stands for. -/
def ofText? (s : String) : Option Instant := do
  let (date, s) ← readDate? s.toList
  let s ← readSeparator? s
  let (moment, s) ← readTime? date s
  let (offset, s) ← readOffset? (skipBlanks s)
  let utc : Instant := ⟨moment.seconds - offset, moment.nanos⟩
  if (skipBlanks s).isEmpty && hasYear (CivilDate.ofDays (utc.seconds / 86400)).year then some utc
  else none

end Instant

end ContentQuery
