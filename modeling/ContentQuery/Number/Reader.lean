import ContentQuery.Number.Double

/-!
# Reading numbers

Decimals with an optional sign, point and exponent, rounded once to the nearest double, and the
names of the values that no decimal reaches.
-/

namespace ContentQuery

namespace Double

/-- The value of decimal digits, most significant first. -/
def digitsValue (digits : List Char) : Nat :=
  digits.foldl (fun n c => 10 * n + (c.toNat - '0'.toNat)) 0

/-- The magnitude nearest to a natural number times a power of ten. Powers that leave the range of
doubles at once are not computed. -/
def nearestDecimal (n : Nat) (power : Int) : Nat :=
  if n = 0 then 0
  else if 400 < power then infinite
  else if power + (n.log2 : Int) < -1200 then 0
  else nearest (n * Nat.pow 10 power.toNat) (Nat.pow 10 (-power).toNat)

/-- An exponent: an optional sign and digits to the end. -/
def readExponent? (s : List Char) : Option Int :=
  let (sign, digits) : Int × List Char := match s with
    | '+' :: rest => (1, rest)
    | '-' :: rest => (-1, rest)
    | _ => (1, s)
  if digits.isEmpty || !digits.all Char.isDigit then none else some (sign * digitsValue digits)

/-- An unsigned decimal. Digits may be missing on one side of the point. -/
def readDecimal? (s : List Char) : Option Nat :=
  let whole := s.takeWhile Char.isDigit
  let rest := s.dropWhile Char.isDigit
  let (part, rest) := match rest with
    | '.' :: more => (more.takeWhile Char.isDigit, more.dropWhile Char.isDigit)
    | _ => ([], rest)
  let exponent := match rest with
    | [] => some 0
    | c :: more => if c = 'e' ∨ c = 'E' then readExponent? more else none
  if whole.isEmpty && part.isEmpty then none
  else exponent.map fun e => nearestDecimal (digitsValue (whole ++ part)) (e - part.length)

/-- An unsigned number or the name of one of the values that are not numbers. -/
def readMagnitude? (s : List Char) : Option Nat :=
  let name := String.ofList (s.map Char.toLower)
  if name = "inf" ∨ name = "infinity" then some infinite
  else if name = "nan" then some nan.magnitude
  else readDecimal? s

/-- The double that a text names. -/
def ofText? (s : String) : Option Double :=
  match s.toList with
  | '-' :: rest => (readMagnitude? rest).map (ofMagnitude true)
  | '+' :: rest => (readMagnitude? rest).map (ofMagnitude false)
  | digits => (readMagnitude? digits).map (ofMagnitude false)

end Double

end ContentQuery
