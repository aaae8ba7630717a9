import ContentQuery.Number.Shortest

/-!
# How doubles are written

Two forms are in use: the plain form of statements and messages, and the form of documents. They
share the digits' layout and differ in where positional notation ends, in the sign of the exponent
and in how a tie between two shortest decimals goes.
-/

namespace ContentQuery

/-- The decisions of a written form. -/
structure NumberForm where
  /-- Positional notation is used for leading digits from this power of ten on. -/
  plainFrom : Int
  /-- Positional notation is used for leading digits below this power of ten. -/
  plainBelow : Int
  /-- A positive exponent is written with a plus sign. -/
  plusSign : Bool
  /-- A tie between two shortest decimals goes up, otherwise to the even one. -/
  tieUp : Bool

namespace NumberForm

/-- The form of statements and messages. -/
def plain : NumberForm := ⟨-4, 16, false, true⟩

/-- The form of documents. -/
def document : NumberForm := ⟨-5, 16, true, false⟩

end NumberForm

namespace Double

/-- Digits in positional notation, with at least one digit on each side of the point. -/
def positional (d : Digits) : List Char :=
  if d.point ≤ 0 then '0' :: '.' :: (List.replicate (-d.point).toNat '0' ++ d.digits)
  else
    let before := d.point.toNat
    if d.digits.length ≤ before then
      d.digits ++ (List.replicate (before - d.digits.length) '0' ++ ['.', '0'])
    else d.digits.take before ++ '.' :: d.digits.drop before

/-- Digits with an exponent; a single digit stands without a point. -/
def scientific (plusSign : Bool) (d : Digits) : List Char :=
  let exponent := d.point - 1
  let sign := if exponent < 0 then ['-'] else if plusSign then ['+'] else []
  let significand := match d.digits with
    | first :: second :: rest => first :: '.' :: second :: rest
    | few => few
  significand ++ 'e' :: (sign ++ Nat.toDigits 10 exponent.natAbs)

/-- A finite magnitude in the given form. -/
def writeMagnitude (form : NumberForm) (magnitude : Nat) : List Char :=
  if magnitude = 0 then ['0', '.', '0']
  else
    let d := shortest form.tieUp magnitude
    if form.plainFrom ≤ d.point - 1 ∧ d.point - 1 < form.plainBelow then positional d
    else scientific form.plusSign d

/-- A finite double in the given form. -/
def write (form : NumberForm) (x : Double) : String :=
  String.ofList ((if x.isNegative then ['-'] else []) ++ writeMagnitude form x.magnitude)

/-- Any double, as statements and messages show it. -/
def toText (x : Double) : String :=
  if x.isNaN then "NaN"
  else if x.isFinite then x.write .plain
  else if x.isNegative then "-inf" else "inf"

/-- A finite double with a fixed number of digits after the point, rounded to nearest. -/
def toFixed (places : Nat) (x : Double) : String :=
  let (num, den) := quotient x.magnitude
  let digits := Nat.toDigits 10 (roundDiv (num * Nat.pow 10 places) den)
  let padded := List.replicate (places + 1 - digits.length) '0' ++ digits
  let cut := padded.length - places
  String.ofList
    ((if x.isNegative then ['-'] else []) ++ padded.take cut ++ '.' :: padded.drop cut)

end Double

end ContentQuery
