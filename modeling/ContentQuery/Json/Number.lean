import ContentQuery.Number.Reader

/-!
# Numbers of documents

The grammar of numbers, and what they are read as. An integer is a number without point and
exponent that fits 64 bits. A double is read from the first digits that fit 64 bits: they are
rounded to a double, and that is multiplied or divided by a power of ten and rounded again.
-/

namespace ContentQuery

namespace Json

/-- The parts of a written number. -/
structure NumberParts where
  negative : Bool
  whole : List Char
  /-- The digits after the point, if there is one. -/
  fraction : Option (List Char)
  /-- The sign and the digits of the exponent, if there is one. -/
  exponent : Option (Bool × List Char)

/-- Digits up to something else, at least one. -/
def takeDigits? (s : List Char) : Option (List Char × List Char) :=
  let digits := s.takeWhile Char.isDigit
  if digits.isEmpty then none else some (digits, s.dropWhile Char.isDigit)

/-- The digits before the point: no zero stands before another digit. -/
def takeWhole? (s : List Char) : Option (List Char × List Char) :=
  match takeDigits? s with
  | some ('0' :: _ :: _, _) => none
  | other => other

/-- A point and the digits behind it, if there is a point. -/
def takeFraction? (s : List Char) : Option (Option (List Char) × List Char) :=
  match s with
  | '.' :: rest => (takeDigits? rest).map fun (digits, rest) => (some digits, rest)
  | _ => some (none, s)

/-- An exponent, if there is one: whether it is negative, and its digits. -/
def takeExponent? (s : List Char) : Option (Option (Bool × List Char) × List Char) :=
  match s with
  | c :: rest =>
    if c = 'e' ∨ c = 'E' then
      let (negative, rest) := match rest with
        | '-' :: more => (true, more)
        | '+' :: more => (false, more)
        | _ => (false, rest)
      (takeDigits? rest).map fun (digits, rest) => (some (negative, digits), rest)
    else some (none, s)
  | [] => some (none, [])

/-- The parts of a number, if the text is one. -/
def numberParts? (s : List Char) : Option NumberParts := do
  let (negative, s) := match s with
    | '-' :: rest => (true, rest)
    | _ => (false, s)
  let (whole, s) ← takeWhole? s
  let (fraction, s) ← takeFraction? s
  let (exponent, s) ← takeExponent? s
  if s.isEmpty then some ⟨negative, whole, fraction, exponent⟩ else none

/-- The number of unsigned 64-bit integers. -/
def wordCount : Nat := 0x10000000000000000

/-- The integer of a number without point and exponent, in the range of 64 bits with or without a
sign. Zero with a sign is no integer. -/
def NumberParts.integer? (n : NumberParts) : Option Int :=
  match n.fraction, n.exponent with
  | none, none =>
    let size := Double.digitsValue n.whole
    if n.negative then (if 0 < size ∧ size ≤ wordCount / 2 then some (-(size : Int)) else none)
    else if size < wordCount then some size else none
  | _, _ => none

/-- Takes digits behind a number as long as the result fits 64 bits. Answers the number and how
many digits were taken. -/
def absorb (n : Nat) : List Char → Nat × Nat
  | [] => (n, 0)
  | c :: rest =>
    let more := 10 * n + (c.toNat - '0'.toNat)
    if more < wordCount then
      let (n, taken) := absorb more rest
      (n, taken + 1)
    else (n, 0)

/-- The magnitude of a power of ten. -/
def powerOfTen (n : Nat) : Nat := Double.nearest (Nat.pow 10 n) 1

/-- The greatest power of ten that is a double. -/
def greatestPower : Nat := 308

/-- Divides a magnitude by a power of ten, in steps that are doubles. -/
def scaleDown (magnitude n : Nat) : Nat :=
  if n ≤ greatestPower then Double.dividedBy magnitude (powerOfTen n)
  else if magnitude = 0 then 0
  else scaleDown (Double.dividedBy magnitude (powerOfTen greatestPower)) (n - greatestPower)
  termination_by n
  decreasing_by simp only [greatestPower] at *; omega

/-- A number times a power of ten, if the result is no more than the greatest double. -/
def scale? (n : Nat) (power : Int) : Option Nat :=
  let magnitude := Double.nearest n 1
  if power < 0 then some (scaleDown magnitude (-power).toNat)
  else if greatestPower < power.toNat then (if magnitude = 0 then some 0 else none)
  else
    let scaled := Double.times magnitude (powerOfTen power.toNat)
    if scaled < Double.infinite then some scaled else none

/-- The magnitude of a number that is no integer. The digits before the point that do not fit are
counted as powers of ten, those behind it are dropped. -/
def NumberParts.magnitude? (n : NumberParts) : Option Nat :=
  let (first, taken) := absorb 0 n.whole
  let (digits, behind) := absorb first (n.fraction.getD [])
  let power : Int := (n.whole.length - taken : Nat) - (behind : Int)
  match n.exponent with
  | none => scale? digits power
  | some (negative, exponent) =>
    let size := Double.digitsValue exponent
    if 0x80000000 ≤ size then (if digits = 0 ∨ negative then some 0 else none)
    else scale? digits (if negative then power - size else power + size)

/-- The double of a number. There is none above the greatest double. -/
def NumberParts.double? (n : NumberParts) : Option Double :=
  match n.integer? with
  | some k => some (.ofInt k)
  | none => n.magnitude?.map (.ofMagnitude n.negative)

end Json

end ContentQuery
