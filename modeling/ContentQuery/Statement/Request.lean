import ContentQuery.Criterion.Reduction
import ContentQuery.Number.Layout

/-!
# What a statement is written from

A statement asks for a condition, a scope and an order. The languages share the written forms of
literals: a quote inside a text is written twice, so a literal ends at the first quote that no other
quote follows.
-/

namespace ContentQuery

/-- A condition with its scope and order. -/
structure Request where
  criterion : Criterion
  /-- Only nodes below this path. -/
  basePath : Option String
  /-- Only nodes of this type. -/
  nodeType : Option String
  order : List Order

namespace Request

/-- Characters that would end the clause that a node type stands in. -/
def reservedInType : List Char := ['[', ']', '\x27', '"', '(', ')', ',']

/-- Whether a text can be the name of a node type. -/
def isTypeName (name : String) : Bool :=
  !name.toList.isEmpty &&
    name.toList.all fun c => !(Text.isBlank c || reservedInType.contains c)

/-- The node type, if it is a name. -/
def checkedType (r : Request) : Result (Option String) :=
  match r.nodeType with
  | some name => if isTypeName name then .ok (some name) else refuse (.nodeType name)
  | none => .ok none

/-- The base path, unless it is the root. -/
def scope (r : Request) : Option String := r.basePath.filter fun path => !Path.isRoot path

end Request

namespace Literal

/-- The text with every quote doubled. -/
def doubleQuotes : List Char → List Char
  | [] => []
  | c :: rest => if c = '\x27' then c :: c :: doubleQuotes rest else c :: doubleQuotes rest

/-- A text between single quotes. -/
def text (s : String) : String := String.ofList ('\x27' :: (doubleQuotes s.toList ++ ['\x27']))

/-- An integer in decimal. -/
def long (n : Int64) : String := toString n.toInt

/-- A double in a form that reads back as a double; only real numbers have one. -/
def double (x : Double) : Result String :=
  if x.isFinite then .ok x.toText else refuse (.noLiteral x.toText)

end Literal

end ContentQuery
