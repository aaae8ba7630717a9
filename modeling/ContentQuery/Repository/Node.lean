import ContentQuery.Path
import ContentQuery.Value

/-!
# Nodes

A node has a path, a primary type and properties. Properties are kept in the order in which they
were first set.
-/

namespace ContentQuery

/-- Values by name, in the order in which the names were first set. -/
abbrev Properties := List (String × Value)

namespace Properties

/-- The value of a name. -/
def get? (name : String) : Properties → Option Value
  | [] => none
  | (other, value) :: rest => if other = name then some value else get? name rest

/-- Sets a name: in its place if it has one, and behind all others if it is new. -/
def set (name : String) (value : Value) : Properties → Properties
  | [] => [(name, value)]
  | (other, old) :: rest =>
    if other = name then (other, value) :: rest else (other, old) :: set name value rest

end Properties

/-- What is stored of a node beside its place. -/
structure Entry where
  primaryType : String
  properties : Properties
  deriving DecidableEq

/-- A node as it is found. -/
structure Node where
  path : String
  entry : Entry
  deriving DecidableEq

namespace Node

/-- The last name of the path. -/
def name (n : Node) : String := Path.lastName n.path

/-- The value of a property. -/
def property? (n : Node) (name : String) : Option Value := Properties.get? name n.entry.properties

end Node

end ContentQuery
