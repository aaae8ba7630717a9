import ContentQuery.Property
import ContentQuery.Query.Criteria
import ContentQuery.Repository.Forest

/-!
# The store

The store is a tree of nodes below a root. Nodes are added one at a time below a node that is
there, and their properties set one at a time. An update that is refused leaves no trace; a listing
that is refused half way leaves what came before.
-/

namespace ContentQuery

/-- A node as a listing describes it. -/
structure NodeSpec where
  path : String
  primaryType : Option String
  properties : Properties
  deriving DecidableEq

/-! ### Loading by single updates -/

namespace Listing

variable {σ : Type} (add : σ → String → String → String → Result (String × σ))
  (set : σ → String → String → Value → Result σ)

/-- Sets properties of a node, up to the first that is refused. -/
def setAll (state : σ) (path : String) : Properties → σ × Result Unit
  | [] => (state, .ok ())
  | (name, value) :: rest =>
    match set state path name value with
    | .ok next => setAll next path rest
    | .error e => (state, .error e)

/-- Adds the node that is described, unless it is the root. -/
def addSpec (state : σ) (path : String) (primaryType : Option String) : Result σ :=
  if Path.isRoot path then .ok state
  else (add state (Path.parent path) (Path.lastName path) (primaryType.getD unstructured)).map (·.2)

/-- Adds the node that is described, and sets its properties. -/
def loadOne (state : σ) (spec : NodeSpec) : σ × Result Unit :=
  match Path.normalize spec.path with
  | .error e => (state, .error e)
  | .ok path =>
    match addSpec add state path spec.primaryType with
    | .error e => (state, .error e)
    | .ok next => setAll set next path spec.properties

/-- Loads a listing, up to the first node that is refused. -/
def load (state : σ) : List NodeSpec → σ × Result Unit
  | [] => (state, .ok ())
  | spec :: rest =>
    match loadOne add set state spec with
    | (next, .ok ()) => load next rest
    | (next, .error e) => (next, .error e)

end Listing

/-! ### The tree of nodes -/

/-- A tree of nodes. -/
structure Store where
  root : Entry
  children : Forest

namespace Store

/-- The store of the root alone. -/
def empty : Store := ⟨⟨unstructured, []⟩, .nil⟩

/-- What is stored at a path. -/
def find? (store : Store) (path : String) : Option Entry :=
  match Path.names? path with
  | some [] => some store.root
  | some names => store.children.find? names
  | none => none

/-- The node at a path. -/
def node? (store : Store) (path : String) : Option Node := (store.find? path).map (⟨path, ·⟩)

/-- All nodes in document order. -/
def nodes (store : Store) : List Node := ⟨Path.root, store.root⟩ :: store.children.nodes ""

/-- How many nodes there are. -/
def count (store : Store) : Nat := 1 + store.children.count

/-- Characters that have a meaning in a path. -/
def reservedInName : List Char := ['/', '\x27', '[', ']']

/-- Whether a text may be the name of a node. -/
def isNodeName (name : String) : Bool :=
  !name.toList.isEmpty && name.toList.all fun c => !reservedInName.contains c

/-- Adds a node and answers its path. -/
def add (store : Store) (parent name primaryType : String) : Result (String × Store) := do
  if !isNodeName name then refuse (.nodeName name)
  let parent ← Path.normalize parent
  let path := Path.child parent name
  if (store.find? path).isSome then refuse (.nodeExists path)
  match Path.names? parent with
  | some names =>
    if (store.find? parent).isNone then refuse (.noParent parent)
    return (path, { store with children := store.children.addBelow name ⟨primaryType, []⟩ names })
  | none => refuse (.noParent parent)

/-- Changes what is stored at a path. -/
def modify (store : Store) (path : String) (change : Entry → Entry) : Store :=
  match Path.names? path with
  | some [] => { store with root := change store.root }
  | some names => { store with children := store.children.modify change names }
  | none => store

/-- Sets a property of a node. -/
def set (store : Store) (path name : String) (value : Value) : Result Store := do
  let property ← Property.ofName name
  if property.isNode then refuse .nodeAsName
  if (store.find? path).isNone then refuse (.noNode path)
  return store.modify path fun entry =>
    { entry with properties := Properties.set property.name value entry.properties }

/-- Loads a listing, up to the first node that is refused. -/
def load : Store → List NodeSpec → Store × Result Unit := Listing.load add set

end Store

end ContentQuery
