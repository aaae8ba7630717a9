import ContentQuery.Json.Tree
import ContentQuery.Text.Basic

/-!
# Writing documents

Documents are written compactly, or on several lines with an indent of two blanks a level.
-/

namespace ContentQuery

namespace Json

/-- One character of a text: quotes, backslashes and control characters are escaped. -/
def escapedChar (c : Char) : List Char :=
  if c = '"' then ['\\', '"']
  else if c = '\\' then ['\\', '\\']
  else if c = '\x08' then ['\\', 'b']
  else if c = '\x0c' then ['\\', 'f']
  else if c = '\n' then ['\\', 'n']
  else if c = '\r' then ['\\', 'r']
  else if c = '\t' then ['\\', 't']
  else if c.toNat < 32 then
    let digits := Nat.toDigits 16 c.toNat
    '\\' :: 'u' :: (List.replicate (4 - digits.length) '0' ++ digits)
  else [c]

/-- A text with its quotes. -/
def writeText (s : String) : String :=
  String.ofList ('"' :: (s.toList.flatMap escapedChar ++ ['"']))

/-- A key or a text that may be unreadable. -/
def writeOption (s : Option String) : String := writeText (s.getD "")

/-- A leaf of a document. -/
def writeLeaf : Json → String
  | boolean b => if b then "true" else "false"
  | number digits => String.ofList digits
  | text s => writeOption s
  | _ => "null"

mutual

/-- The compact form. -/
def compact : Json → String
  | array items => "[" ++ Text.joinWith "," (compactItems items) ++ "]"
  | object members => "\x7b" ++ Text.joinWith "," (compactMembers members) ++ "\x7d"
  | leaf => writeLeaf leaf

/-- The compact form of items. -/
def compactItems : List Json → List String
  | [] => []
  | item :: rest => compact item :: compactItems rest

/-- The compact form of members. -/
def compactMembers : List (Option String × Json) → List String
  | [] => []
  | (key, value) :: rest => (writeOption key ++ ":" ++ compact value) :: compactMembers rest

end

/-- A new line with an indent. -/
def newLine (level : Nat) : String := String.ofList ('\n' :: List.replicate (2 * level) ' ')

/-- Parts on lines of their own between brackets; without parts only the brackets. -/
def block (level : Nat) (opening closing : String) (parts : List String) : String :=
  if parts.isEmpty then opening ++ closing
  else
    opening ++ newLine (level + 1) ++ Text.joinWith ("," ++ newLine (level + 1)) parts ++
      newLine level ++ closing

mutual

/-- The form on several lines, at a level of indent. -/
def pretty (level : Nat) : Json → String
  | array items => block level "[" "]" (prettyItems (level + 1) items)
  | object members => block level "\x7b" "\x7d" (prettyMembers (level + 1) members)
  | leaf => writeLeaf leaf

/-- The items of an array, each at a level of indent. -/
def prettyItems (level : Nat) : List Json → List String
  | [] => []
  | item :: rest => pretty level item :: prettyItems level rest

/-- The members of an object, each at a level of indent. -/
def prettyMembers (level : Nat) : List (Option String × Json) → List String
  | [] => []
  | (key, value) :: rest =>
    (writeOption key ++ ": " ++ pretty level value) :: prettyMembers level rest

end

end Json

end ContentQuery
