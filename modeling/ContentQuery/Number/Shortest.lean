import ContentQuery.Number.Double

/-!
# The fewest digits that read back

A finite double stands for all reals that are rounded to it. Among the decimals in that interval
the ones with the fewest digits are taken, and of those the nearest to the value. The search goes
through the decimal grids from coarse to fine and tests the two points next to the value, in
natural numbers throughout.
-/

namespace ContentQuery

namespace Double

/-- How many digits a natural number has. -/
def digitCount (n : Nat) : Nat := (Nat.toDigits 10 n).length

/-- The least power of ten above a positive quotient. -/
def decimalOrder (num den : Nat) : Int :=
  if den ≤ num then digitCount (num / den) else 1 - (digitCount ((den - 1) / num) : Int)

/-- The decimal point stands after `point` of the digits; it may lie before or behind all of them. -/
structure Digits where
  digits : List Char
  point : Int
  deriving DecidableEq

/-- The multiple of a power of ten that is next to a magnitude and reads back to it, if there is
one. Of two such multiples the nearer is taken; a tie goes up or to the even one. -/
def onGrid (tieUp : Bool) (magnitude : Nat) (power : Int) : Option Nat :=
  let m := significand magnitude
  let q := exponent magnitude
  let unit := Nat.pow 2 q.toNat * Nat.pow 10 (-power).toNat
  let value := 4 * m * unit
  let below := (if m = fractions ∧ q ≠ -1074 then 1 else 2) * unit
  let above := 2 * unit
  let step := 4 * (Nat.pow 10 power.toNat * Nat.pow 2 (-q).toNat)
  let low := value / step
  let fits (n : Nat) : Bool :=
    if m % 2 = 0 then value ≤ n * step + below ∧ n * step ≤ value + above
    else value < n * step + below ∧ n * step < value + above
  if fits low then
    if fits (low + 1) then
      match Ord.compare (2 * value) ((2 * low + 1) * step) with
      | .lt => some low
      | .gt => some (low + 1)
      | .eq => some (if tieUp ∨ low % 2 = 1 then low + 1 else low)
    else some low
  else if fits (low + 1) then some (low + 1)
  else none

/-- A natural number times a power of ten, without zeros at the end. -/
def digitsOf (n : Nat) (power : Int) : Digits :=
  let digits := Nat.toDigits 10 n
  ⟨(digits.reverse.dropWhile (· == '0')).reverse, power + digits.length⟩

/-- The fewest digits of a positive finite magnitude. Seventeen digits are always enough. -/
def shortest (tieUp : Bool) (magnitude : Nat) : Digits :=
  let (num, den) := quotient magnitude
  let order := decimalOrder num den
  let found := (List.range 17).findSome? fun (n : Nat) =>
    let power := order - (n + 1 : Nat)
    (onGrid tieUp magnitude power).map (digitsOf · power)
  found.getD (digitsOf num 0)

end Double

end ContentQuery
