import ContentQuery.Text.Basic
import ContentQuery.Text.Letter
import ContentQuery.Text.Numeral

/-!
# Encoded names

The steps of a location path are names of a restricted kind. A character that may not stand at its
place is written by its number between `_x` and `_`, and so is an underscore that would be read as
the beginning of such a number.
-/

namespace ContentQuery

namespace EncodedName

/-- Whether a name may begin with the character. -/
def isNameStart (c : Char) : Bool := Text.isLetter c || c = '_' || c = ':'

/-- Whether a name may go on with the character. -/
def isNameChar (c : Char) : Bool := isNameStart c || Text.isNumeral c || c = '.' || c = '-'

/-- Whether a character is a hexadecimal digit. -/
def isHexDigit (c : Char) : Bool :=
  c.isDigit || ('a' ≤ c && c ≤ 'f') || ('A' ≤ c && c ≤ 'F')

/-- Whether a text begins like an encoded character. -/
def startsEncoded : List Char → Bool
  | '_' :: 'x' :: a :: b :: c :: d :: '_' :: _ => [a, b, c, d].all isHexDigit
  | _ => false

/-- A code point in upper-case hexadecimal, with at least four digits. -/
def codeDigits (c : Char) : List Char :=
  let digits := (Nat.toDigits 16 c.toNat).map Char.toUpper
  List.replicate (4 - digits.length) '0' ++ digits

/-- An encoded character. -/
def encodeChar (c : Char) : List Char := '_' :: 'x' :: (codeDigits c ++ ['_'])

/-- The first character of a text, as it is if `legal` allows it there. -/
def encodeFirst (legal : Char → Bool) (c : Char) (rest : List Char) : List Char :=
  if legal c && !startsEncoded (c :: rest) then [c] else encodeChar c

/-- The rest of a name. -/
def encodeRest : List Char → List Char
  | [] => []
  | c :: rest => encodeFirst isNameChar c rest ++ encodeRest rest

/-- An encoded name. -/
def encode : List Char → List Char
  | [] => []
  | c :: rest => encodeFirst isNameStart c rest ++ encodeRest rest

/-- A path with each of its names encoded. -/
def encodePath (path : String) : String :=
  String.ofList ((['/'] : List Char).intercalate ((Text.pieces (· == '/') path.toList).map encode))

end EncodedName

end ContentQuery
