import ContentQuery.Json.Value
import ContentQuery.Repository.Store

/-!
# Listings in documents

A listing of nodes is an array. A node has a path, and may have a type and properties. Of two
properties of one name the first gives the place and the last the value.
-/

namespace ContentQuery

namespace Properties

/-- The properties as a document. -/
def toJson (properties : Properties) : Json :=
  .record (properties.map fun (name, value) => (name, value.toJson))

/-- Sets properties in the order of the members of an object. -/
def setMembers (properties : Properties) : List (Option String × Json) → Read Properties
  | [] => .ok properties
  | (none, _) :: _ => malformed
  | (some name, j) :: rest => do
    let value ← Value.ofJson j
    setMembers (properties.set name value) rest

/-- The properties that a document is. -/
def ofJson : Json → Read Properties
  | .object members => setMembers [] members
  | _ => malformed

end Properties

namespace NodeSpec

/-- The node as a document. -/
def toJson (spec : NodeSpec) : Json :=
  let type := match spec.primaryType with
    | some name => [("type", .ofString name)]
    | none => []
  .record ([("path", .ofString spec.path)] ++ type ++ [("properties", spec.properties.toJson)])

/-- The shape of a node. -/
def shape : Json.Shape Json NodeSpec :=
  ⟨[⟨"path", fun j spec => j.asString.map fun s => { spec with path := s }⟩,
      ⟨"type", fun j spec => j.asOptionalString.map fun s => { spec with primaryType := s }⟩,
      ⟨"properties",
        fun j spec => (Properties.ofJson j).map fun ps => { spec with properties := ps }⟩],
    ["path"], ["path"], ⟨"", none, []⟩⟩

/-- The node that a document is. -/
def ofJson : Json → Read NodeSpec := Json.asRecord shape

/-- A listing as a document. -/
def listToJson (specs : List NodeSpec) : Json := .array (specs.map toJson)

/-- The listing that a document is. -/
def listOfJson : Json → Read (List NodeSpec) := Json.asList ofJson

end NodeSpec

end ContentQuery
