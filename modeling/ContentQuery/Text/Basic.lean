/-!
# Characters and texts

A set of code points is an ascending list of closed ranges. Membership walks the list and stops
at the first range that begins above the code point. White space is such a set, and is removed at
either end of what is read. Texts are cut at separators and put together, and one is found in
another. All of this works on lists of characters and recurses on the text.
-/

namespace ContentQuery.Text

/-! ### Sets of characters -/

/-- Closed ranges of code points, ascending and apart. -/
abbrev Ranges := List (Nat × Nat)

/-- Whether a code point lies in one of the ranges. -/
def Ranges.has : Ranges → Nat → Bool
  | [], _ => false
  | (low, high) :: rest, n => if n < low then false else if n ≤ high then true else Ranges.has rest n

/-- The White_Space property. -/
def blankRanges : Ranges :=
  [(0x9, 0xD), (0x20, 0x20), (0x85, 0x85), (0xA0, 0xA0), (0x1680, 0x1680), (0x2000, 0x200A),
   (0x2028, 0x2029), (0x202F, 0x202F), (0x205F, 0x205F), (0x3000, 0x3000)]

/-- Whether a character is white space. -/
def isBlank (c : Char) : Bool := blankRanges.has c.toNat

/-- The text without leading white space. -/
def skipBlanks (s : List Char) : List Char := s.dropWhile isBlank

/-- The text without leading and trailing white space. -/
def trim (s : List Char) : List Char := (skipBlanks (skipBlanks s).reverse).reverse

/-! ### Pieces of a text -/

/-- The pieces between separators, in order; there is one more piece than there are separators. -/
def pieces (separates : Char → Bool) : List Char → List (List Char)
  | [] => [[]]
  | c :: rest =>
    if separates c then [] :: pieces separates rest
    else match pieces separates rest with
      | [] => [[c]]
      | piece :: others => (c :: piece) :: others

/-- Puts texts together with a separator between each two. -/
def joinWith (separator : String) : List String → String
  | [] => ""
  | [s] => s
  | s :: rest => s ++ separator ++ joinWith separator rest

/-- Whether a text or one of its endings has a trait. -/
def anyEnding (trait : List Char → Bool) : List Char → Bool
  | [] => trait []
  | c :: rest => trait (c :: rest) || anyEnding trait rest

/-- The text after a beginning, if it has that beginning. -/
def afterStart? : (start text : List Char) → Option (List Char)
  | [], text => some text
  | _ :: _, [] => none
  | c :: start, d :: text => if c = d then afterStart? start text else none

/-- The text without an ending, if it has that ending. -/
def beforeEnd? (ending text : List Char) : Option (List Char) :=
  (afterStart? ending.reverse text.reverse).map List.reverse

end ContentQuery.Text
