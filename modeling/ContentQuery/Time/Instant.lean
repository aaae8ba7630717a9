import ContentQuery.Time.Calendar

/-!
# Instants

A moment in universal time is a number of seconds and a fraction of a second in billionths. A
fraction of one second or more belongs to a leap second, which is shown as second sixty. The
written form has the date, the time and a fraction, and ends in `Z`.
-/

namespace ContentQuery

/-- Seconds since the start of 1970, and billionths of a second. -/
structure Instant where
  seconds : Int
  nanos : Nat
  deriving DecidableEq

namespace Instant

/-- How many digits of the fraction are written. -/
inductive Precision where
  /-- Three digits; what lies behind them is cut off. -/
  | millis
  /-- As few of zero, three, six and nine digits as lose nothing. -/
  | exact

/-- Earlier instants come first. -/
def compare (a b : Instant) : Ordering :=
  (Ord.compare a.seconds b.seconds).then (Ord.compare a.nanos b.nanos)

/-- A moment of a day, without a zone. -/
def ofCivil (date : CivilDate) (hour minute second nanos : Nat) : Instant :=
  ⟨date.toDays * 86400 + (hour * 3600 + minute * 60 + second : Nat), nanos⟩

/-- Digits of a natural number, filled with zeros on the left. -/
def padded (width n : Nat) : List Char :=
  let digits := Nat.toDigits 10 n
  List.replicate (width - digits.length) '0' ++ digits

/-- A year: four digits from 0 to 9999, and at least four with a sign outside. -/
def writeYear (year : Int) : List Char :=
  if 0 ≤ year ∧ year ≤ 9999 then padded 4 year.toNat
  else (if year < 0 then '-' else '+') :: padded 4 year.natAbs

/-- A fraction below one second, with its point. -/
def writeFraction (precision : Precision) (nanos : Nat) : List Char :=
  match precision with
  | .millis => '.' :: padded 3 (nanos / 1000000)
  | .exact =>
    if nanos = 0 then []
    else if nanos % 1000000 = 0 then '.' :: padded 3 (nanos / 1000000)
    else if nanos % 1000 = 0 then '.' :: padded 6 (nanos / 1000)
    else '.' :: padded 9 nanos

/-- The written form. -/
def write (precision : Precision) (t : Instant) : String :=
  let date := CivilDate.ofDays (t.seconds / 86400)
  let time := (t.seconds % 86400).toNat
  let second := time % 60 + t.nanos / 1000000000
  String.ofList
    (writeYear date.year ++ '-' :: padded 2 date.month ++ '-' :: padded 2 date.day ++ 'T' ::
      padded 2 (time / 3600) ++ ':' :: padded 2 (time / 60 % 60) ++ ':' :: padded 2 second ++
      writeFraction precision (t.nanos % 1000000000) ++ ['Z'])

end Instant

end ContentQuery
