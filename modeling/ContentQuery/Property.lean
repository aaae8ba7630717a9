import ContentQuery.Error
import ContentQuery.Text.Basic

/-!
# Properties

A condition speaks of a property by its name, or of the node itself, which stands for all its
properties. A name holds no character that has a meaning in a statement, so that it can be written
there as it is.
-/

namespace ContentQuery

/-- A reference to a property of a node, or to the node itself. -/
structure Property where
  name : String
  deriving DecidableEq

namespace Property

/-- The node itself. -/
def node : Property := ⟨"."⟩

/-- Whether this is the node itself. -/
def isNode (p : Property) : Bool := p.name = "."

/-- Characters that would end the clause that a name stands in. -/
def reserved : List Char :=
  ['[', ']', '\x27', '"', '/', '@', '(', ')', ',', '=', '<', '>', '!', '*', '|']

/-- Whether a character may not be part of a name. -/
def isIllegal (c : Char) : Bool := Text.isBlank c || reserved.contains c

/-- The name without the mark of an attribute. -/
def bareName (name : List Char) : List Char :=
  match name with
  | '@' :: rest => rest
  | _ => name

/-- The property with the given name, which may carry the mark of an attribute. -/
def ofName (name : String) : Result Property :=
  let bare := bareName name.toList
  if bare.isEmpty then refuse .emptyPropertyName
  else if bare = ['.'] then .ok node
  else match bare.find? isIllegal with
    | some c => refuse (.propertyCharacter name c)
    | none => .ok ⟨String.ofList bare⟩

/-- The property as statements and descriptions show it. -/
def describe (p : Property) : String := if p.isNode then "." else "@" ++ p.name

/-- Puts a property into a list that is sorted by name, unless it is there. -/
def insertDistinct (p : Property) : List Property → List Property
  | [] => [p]
  | q :: rest =>
    if p.name < q.name then p :: q :: rest
    else if p = q then q :: rest
    else q :: insertDistinct p rest

/-- The different properties of a list, sorted by name. -/
def sortDistinct (ps : List Property) : List Property := ps.foldr insertDistinct []

end Property

end ContentQuery
