import ContentQuery.Text.Visible

/-!
# What can go wrong

Every failure is a value that says its cause. The wording of all messages is in this module.
-/

namespace ContentQuery

/-- Why something given by a caller is refused. -/
inductive Refusal where
  /-- A property without a name. -/
  | emptyPropertyName
  /-- A property whose name holds a character that would end its clause. -/
  | propertyCharacter (name : String) (c : Char)
  /-- The node itself where a property is needed. -/
  | nodeInCondition
  /-- The node itself as a sort key. -/
  | nodeInOrder
  /-- The node itself as the name of a stored property. -/
  | nodeAsName
  /-- A path that does not begin at the root. -/
  | relativePath (path : String)
  /-- A path with a quote. -/
  | quotedPath (path : String)
  /-- A name of no query language. -/
  | unknownLanguage (name : String)
  /-- A language that was left open where a statement is to be written. -/
  | openLanguage
  /-- Bounds that have no order. -/
  | booleanBounds (property : String)
  /-- A lower bound above the upper one. -/
  | reversedBounds (property lower upper : String)
  /-- Bounds of types that do not compare. -/
  | unlikeBounds (property lowerType upperType : String)
  /-- A number that no statement can hold. -/
  | noLiteral (number : String)
  /-- A node type that would end its clause. -/
  | nodeType (name : String)
  /-- A node name that cannot be part of a path. -/
  | nodeName (name : String)
  /-- A node that is there already. -/
  | nodeExists (path : String)
  /-- A node to be added below no node. -/
  | noParent (path : String)
  /-- A node that is not there. -/
  | noNode (path : String)
  deriving DecidableEq

/-- Why a result cannot answer yet, or any more. -/
inductive Premature where
  /-- The rows are gone and cannot be fetched again. -/
  | rowsConsumed
  /-- The page needs the total. -/
  | page
  /-- The number of pages needs the total. -/
  | pages
  deriving DecidableEq

/-- A failure of any part of the library. -/
inductive Error where
  /-- Something given by a caller is refused. -/
  | invalidArgument (why : Refusal)
  /-- A part of a condition has no form in a language. -/
  | unsupported (part language : String)
  /-- A question came too early or too late. -/
  | illegalState (why : Premature)
  /-- An executor failed. -/
  | execution (text : String)
  /-- The library cannot go on with what it was given, though it is well formed. -/
  | internal (text : String)
  /-- A run was given up in the middle: nothing that was asked for is answered. -/
  | aborted (why : String)
  deriving DecidableEq

/-- The wording of a refusal. -/
def Refusal.message : Refusal → String
  | .emptyPropertyName => "property name must not be empty"
  | .propertyCharacter name c =>
    "property name " ++ Text.quoted name ++ " contains illegal character " ++ Text.quotedChar c
  | .nodeInCondition => "the node itself can only be used for containment"
  | .nodeInOrder => "cannot order by the node itself"
  | .nodeAsName => "\".\" is not a property name"
  | .relativePath path => "path " ++ Text.quoted path ++ " must be absolute"
  | .quotedPath path => "path " ++ Text.quoted path ++ " must not contain quotes"
  | .unknownLanguage name => "unknown query language: " ++ name
  | .openLanguage => "an unspecified language must be resolved before rendering"
  | .booleanBounds property => "between(" ++ property ++ ") needs ordered bounds, got booleans"
  | .reversedBounds property lower upper =>
    "between(" ++ property ++ "): lower bound " ++ lower ++ " exceeds upper bound " ++ upper
  | .unlikeBounds property lowerType upperType =>
    "between(" ++ property ++ "): bounds " ++ lowerType ++ " and " ++ upperType ++
      " are not comparable"
  | .noLiteral number => number ++ " has no literal form in a query"
  | .nodeType name => "illegal node type " ++ Text.quoted name
  | .nodeName name => "illegal node name " ++ Text.quoted name
  | .nodeExists path => "node " ++ path ++ " already exists"
  | .noParent path => "parent " ++ path ++ " does not exist"
  | .noNode path => "node " ++ path ++ " does not exist"

/-- The wording of a question at the wrong time. -/
def Premature.message : Premature → String
  | .rowsConsumed => "rows were already consumed and the query cannot be re-executed"
  | .page => "page is undefined until the total size is resolved"
  | .pages => "number of pages is undefined until the total size is resolved"

/-- The wording of a failure. -/
def Error.message : Error → String
  | .invalidArgument why => "invalid argument: " ++ why.message
  | .unsupported part language => part ++ " cannot be expressed in " ++ language
  | .illegalState why => "illegal state: " ++ why.message
  | .execution text => "query execution failed: " ++ text
  | .internal text => "internal error: " ++ text
  | .aborted why => "aborted: " ++ why

/-- Results of the library. -/
abbrev Result (α : Type) := Except Error α

/-- Refuses something given by a caller. -/
def refuse {α : Type} (why : Refusal) : Result α := .error (.invalidArgument why)

end ContentQuery
