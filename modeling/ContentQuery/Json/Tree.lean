import ContentQuery.Number.Layout

/-!
# Documents

The tree of a document. A number keeps its digits as they are written. What a text holds from the
place on where it stops being a document is a `broken` leaf, so that a reader who goes through the
tree from left to right meets it where the text has it.
-/

namespace ContentQuery

/-- A document or a part of one. -/
inductive Json where
  | null
  | boolean (b : Bool)
  /-- A number as it is written. -/
  | number (digits : List Char)
  /-- A text; none, if it names half of a pair of code units. -/
  | text (s : Option String)
  | array (items : List Json)
  /-- Members in order. A key may be unreadable for the same reason as a text. -/
  | object (members : List (Option String × Json))
  /-- The place where the text stops being a document. -/
  | broken

namespace Json

/-- A text that can be read. -/
def ofString (s : String) : Json := text (some s)

/-- An integer. -/
def ofInt (n : Int) : Json := number (toString n).toList

/-- A natural number. -/
def ofNat (n : Nat) : Json := number (Nat.toDigits 10 n)

/-- A double; a document has none that is not a real number. -/
def ofDouble (x : Double) : Json := if x.isFinite then number (x.write .document).toList else null

/-- A text that may be absent. -/
def ofOption (s : Option String) : Json :=
  match s with
  | some s => ofString s
  | none => null

/-- An object with readable keys. -/
def record (members : List (String × Json)) : Json :=
  object (members.map fun (key, value) => (some key, value))

mutual

/-- Whether a document is whole. Numbers and texts are not looked into. -/
def isWhole : Json → Bool
  | broken => false
  | array items => areWhole items
  | object members => haveWhole members
  | _ => true

/-- Whether all items are whole. -/
def areWhole : List Json → Bool
  | [] => true
  | item :: rest => isWhole item && areWhole rest

/-- Whether all members have whole values. -/
def haveWhole : List (Option String × Json) → Bool
  | [] => true
  | (_, value) :: rest => isWhole value && haveWhole rest

end

end Json

end ContentQuery
