import ContentQuery.Repository.Update

/-!
# Tables of nodes

The nodes of a repository can be kept in a table by path, where each has the paths of its children.
Nothing but the updates makes such a table a tree. Its nodes are listed with a stack of paths that
are still to be visited: the next one is taken off, and the children of its node are put on.
-/

namespace ContentQuery

/-- What a table has of a node: its path, what is stored there, and the paths of its children. -/
structure Record where
  path : String
  entry : Entry
  children : List String
  deriving DecidableEq

/-- Records by path, in the order in which the paths were added. -/
abbrev NodeTable := List (String × Record)

namespace NodeTable

/-- The table of the root alone. -/
def initial : NodeTable := [(Path.root, ⟨Path.root, ⟨unstructured, []⟩, []⟩)]

/-- The record at a path. -/
def record? (path : String) : NodeTable → Option Record
  | [] => none
  | (other, record) :: rest => if other = path then some record else record? path rest

/-- Puts a record at a path: in place of the one that is there, and behind all if there is none. -/
def put (path : String) (record : Record) : NodeTable → NodeTable
  | [] => [(path, record)]
  | (other, old) :: rest =>
    if other = path then (other, record) :: rest else (other, old) :: put path record rest

/-- Changes the record at a path, if there is one. -/
def change (path : String) (f : Record → Record) : NodeTable → NodeTable
  | [] => []
  | (other, old) :: rest =>
    if other = path then (other, f old) :: rest else (other, old) :: change path f rest

/-- The paths of a table. -/
def paths (table : NodeTable) : List String := table.map (·.1)

/-- How many records there are. -/
def count (table : NodeTable) : Nat := table.length

/-- Adds a node and answers its path. -/
def add (table : NodeTable) (parent name primaryType : String) : Result (String × NodeTable) := do
  if !Store.isNodeName name then refuse (.nodeName name)
  let parent ← Path.normalize parent
  let path := Path.child parent name
  if (table.record? path).isSome then refuse (.nodeExists path)
  if (table.record? parent).isNone then refuse (.noParent parent)
  let listed := table.change parent fun r => { r with children := r.children ++ [path] }
  return (path, listed.put path ⟨path, ⟨primaryType, []⟩, []⟩)

/-- Sets a property of a node. -/
def set (table : NodeTable) (path name : String) (value : Value) : Result NodeTable := do
  let property ← Property.ofName name
  if property.isNode then refuse .nodeAsName
  if (table.record? path).isNone then refuse (.noNode path)
  return table.change path fun r => { r with
    entry := { r.entry with properties := Properties.set property.name value r.entry.properties } }

/-- The updates of a table. -/
def updates : Updates NodeTable := ⟨add, set, Listing.load add set⟩

/-- Visits the paths of a stack and what is below them, in at most so many steps. A path without a
record is passed over. -/
def visit? (table : NodeTable) : Nat → List String → Option (List Record)
  | _, [] => some []
  | 0, _ :: _ => none
  | steps + 1, path :: rest =>
    match table.record? path with
    | some record => (visit? table steps (record.children ++ rest)).map (record :: ·)
    | none => visit? table steps rest

/-- The records in document order, if they are all visited in so many steps. -/
def documentOrder? (table : NodeTable) (steps : Nat) : Option (List Record) :=
  table.visit? steps [Path.root]

end NodeTable

end ContentQuery
