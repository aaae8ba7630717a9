import ContentQuery.Execution.Executor
import ContentQuery.Repository.Platform
import ContentQuery.Repository.Store
import ContentQuery.Statement.Sql2

/-!
# Searching the store

The store runs descriptors on its own nodes. The condition is prepared first, and there is no answer
if that fails. Nodes are found in document order, by scope, type and condition, and then sorted if
there is an order. The statement is not looked at.
-/

namespace ContentQuery

/-- How the executor of a store behaves. -/
structure SearchSettings where
  /-- Offset and limit are applied. -/
  paging : Bool
  /-- A descriptor may be run again. -/
  requery : Bool
  /-- Cursors know the number of all matches. -/
  nativeSize : Bool
  /-- The language it would choose. -/
  preferred : Option Language
  /-- Every run fails with this text. -/
  failure : Option String

/-- Pages are applied, descriptors may be run again, and nothing else. -/
def SearchSettings.standard : SearchSettings := ⟨true, true, false, none, none⟩

/-- The order of two values of a sort key: an absent one comes first, and values that do not
compare are ordered by the names of their types. -/
def compareKeys : Option Value → Option Value → Ordering
  | none, none => .eq
  | none, some _ => .lt
  | some _, none => .gt
  | some a, some b => (a.compare b).getD (Ord.compare a.typeName b.typeName)

/-- The order of two nodes by one entry. All nodes have the same score. -/
def Order.compareNodes (o : Order) (a b : Node) : Ordering :=
  let ordering := match o.key with
    | .score => .eq
    | .property p => compareKeys (a.property? p.name) (b.property? p.name)
  match o.direction with
  | .ascending => ordering
  | .descending => ordering.swap

/-- The order of two nodes: the first entry that tells them apart decides. -/
def compareNodes : List Order → Node → Node → Ordering
  | [], _, _ => .eq
  | o :: rest, a, b => (o.compareNodes a b).then (compareNodes rest a b)

namespace Descriptor

/-- Whether a node has the type that is asked for; every node has the type of all nodes. -/
def acceptsType (d : Descriptor) (n : Node) : Bool :=
  match d.nodeType with
  | none => true
  | some type => type = Sql2.anyType || n.entry.primaryType = type

/-- Whether a node lies in the scope; the root scopes nothing. -/
def acceptsPlace (d : Descriptor) (n : Node) : Bool :=
  match d.basePath with
  | none => true
  | some base => Path.isRoot base || Path.isBelow n.path base

/-- The part of a list that the offset and the limit leave. -/
def slice {α : Type} (d : Descriptor) (all : List α) : List α :=
  let rest := all.drop d.offset
  match d.limit with
  | some n => rest.take n
  | none => rest

end Descriptor

namespace Store

/-- The nodes that a descriptor asks for, in document order. -/
def found (store : Store) (engine : ExpressionEngine) (d : Descriptor) : Result (List Node) := do
  let matcher ← Matcher.ofReduced engine d.criterion.reduce
  return store.nodes.filter fun n => d.acceptsPlace n && d.acceptsType n && matcher.accepts n

/-- These nodes in the order of the descriptor. Without an order there is nothing to sort. -/
def hits (store : Store) (platform : Platform) (d : Descriptor) : Result (List Node) := do
  let found ← store.found platform.engine d
  if d.order.isEmpty then return found
  (platform.sorting.sort (compareNodes d.order) found).mapError .aborted

/-- A node that was found. -/
def rowOf (n : Node) : Result Row := .ok ⟨n, .ofInt 1⟩

/-- The answer to a descriptor. -/
def search (store : Store) (platform : Platform) (settings : SearchSettings) (d : Descriptor) :
    Result Cursor :=
  match settings.failure with
  | some text => .error (.execution text)
  | none => do
    let hits ← store.hits platform d
    let shown := if settings.paging then d.slice hits else hits
    return ⟨if settings.nativeSize then some hits.length else none, shown.map rowOf⟩

/-- The executor of a store. Its state is the number of runs. -/
def executor (store : Store) (platform : Platform) (settings : SearchSettings) : Executor Nat where
  appliesPaging := settings.paging
  supportsRequery := settings.requery
  preferred := settings.preferred
  execute d runs := (store.search platform settings d, runs + 1)
  asked runs := runs

end Store

end ContentQuery
