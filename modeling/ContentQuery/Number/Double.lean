/-!
# Doubles

A double is its 64 bits: a sign, eleven bits of exponent and fifty-two of fraction. Two doubles are
equal if their bits are; they are compared by value, and a value that is not a number compares with
nothing. Rounding is exact: the quotient of two natural numbers goes to the nearest double, and a
tie to the one with an even significand.
-/

namespace ContentQuery

/-- A 64-bit floating-point number, by its bits. -/
structure Double where
  bits : UInt64
  deriving DecidableEq

namespace Double

/-- The weight of the sign bit. -/
def signUnit : Nat := 0x8000000000000000

/-- The number of fractions, and the least significand that is not shortened. -/
def fractions : Nat := 0x10000000000000

/-- The bits without the sign; among positive numbers their order is that of the values. -/
def magnitude (x : Double) : Nat := x.bits.toNat % signUnit

/-- Whether the sign bit is set. -/
def isNegative (x : Double) : Bool := signUnit ≤ x.bits.toNat

/-- The magnitude of the infinities; what lies above is not a number. -/
def infinite : Nat := 2047 * fractions

/-- Whether the bits stand for no number. -/
def isNaN (x : Double) : Bool := infinite < x.magnitude

/-- Whether the bits stand for a real number. -/
def isFinite (x : Double) : Bool := x.magnitude < infinite

/-- The double with the given sign and magnitude. -/
def ofMagnitude (negative : Bool) (magnitude : Nat) : Double :=
  ⟨UInt64.ofNat (if negative then signUnit + magnitude else magnitude)⟩

/-- The usual bits of a value that is not a number. -/
def nan : Double := ⟨0x7FF8000000000000⟩

/-- The place of a number among all numbers; both zeros share one place. -/
def rank (x : Double) : Int := if x.isNegative then -(x.magnitude : Int) else x.magnitude

/-- Compares by value. -/
def compare (x y : Double) : Option Ordering :=
  if x.isNaN || y.isNaN then none else some (Ord.compare x.rank y.rank)

/-- The significand of a finite magnitude, which is this number times two to the exponent. -/
def significand (magnitude : Nat) : Nat :=
  if magnitude < fractions then magnitude else fractions + magnitude % fractions

/-- The exponent of a finite magnitude. -/
def exponent (magnitude : Nat) : Int :=
  if magnitude < fractions then -1074 else (magnitude / fractions : Nat) - 1075

/-- A quotient rounded to the nearest natural number, a tie to the even one. -/
def roundDiv (num den : Nat) : Nat :=
  let low := num / den
  match Ord.compare (2 * (num % den)) den with
  | .lt => low
  | .gt => low + 1
  | .eq => if low % 2 = 0 then low else low + 1

/-- The exponent at which a positive quotient has fifty-three bits before the point, and no less
than the least exponent there is. -/
def scaleOf (num den : Nat) : Int :=
  let guess : Int := (num.log2 : Int) - den.log2 - 53
  let bits := num * Nat.pow 2 (-guess).toNat / (den * Nat.pow 2 guess.toNat)
  max (-1074) (if bits < 2 * fractions then guess else guess + 1)

/-- The magnitude nearest to a quotient. -/
def nearest (num den : Nat) : Nat :=
  if num = 0 then 0
  else
    let scale := scaleOf num den
    let rounded := roundDiv (num * Nat.pow 2 (-scale).toNat) (den * Nat.pow 2 scale.toNat)
    min infinite ((scale + 1074).toNat * fractions + rounded)

/-- The double nearest to an integer. -/
def ofInt (n : Int) : Double := ofMagnitude (n < 0) (nearest n.natAbs 1)

/-- A finite magnitude as a quotient. -/
def quotient (magnitude : Nat) : Nat × Nat :=
  (significand magnitude * Nat.pow 2 (exponent magnitude).toNat,
    Nat.pow 2 (-exponent magnitude).toNat)

/-- The rounded product of two finite magnitudes. -/
def times (x y : Nat) : Nat :=
  let (a, b) := quotient x
  let (c, d) := quotient y
  nearest (a * c) (b * d)

/-- The rounded quotient of two finite magnitudes, the second of which is not zero. -/
def dividedBy (x y : Nat) : Nat :=
  let (a, b) := quotient x
  let (c, d) := quotient y
  nearest (a * d) (b * c)

end Double

end ContentQuery
