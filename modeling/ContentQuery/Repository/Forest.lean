import ContentQuery.Repository.Node

/-!
# Forests

A forest is a list of named trees, each with a forest of children. Nodes are found by the names on
the way to them. The document order of a forest has each node before its children and these before
its later siblings.
-/

namespace ContentQuery

/-- Named trees in order: the first of them with its children, and its later siblings. -/
inductive Forest where
  | nil
  | cons (name : String) (entry : Entry) (children siblings : Forest)

namespace Forest

/-- The nodes in document order, given the path of their parent; it is empty for the root. -/
def nodes (base : String) : Forest → List Node
  | nil => []
  | cons name entry children siblings =>
    ⟨base ++ "/" ++ name, entry⟩ :: (nodes (base ++ "/" ++ name) children ++ nodes base siblings)

/-- How many nodes there are. -/
def count : Forest → Nat
  | nil => 0
  | cons _ _ children siblings => 1 + count children + count siblings

/-- The node that the names lead to. -/
def find? : List String → Forest → Option Entry
  | _, nil => none
  | [], _ => none
  | first :: more, cons name entry children siblings =>
    if first = name then
      (if more.isEmpty then some entry else find? more children)
    else find? (first :: more) siblings

/-- One forest behind another. -/
def append : Forest → Forest → Forest
  | nil, other => other
  | cons name entry children siblings, other => cons name entry children (append siblings other)

/-- Adds a childless node as the last child of the node that the names lead to. -/
def addBelow (new : String) (entry : Entry) : List String → Forest → Forest
  | [], forest => append forest (cons new entry nil nil)
  | _ :: _, nil => nil
  | first :: more, cons name old children siblings =>
    if first = name then cons name old (addBelow new entry more children) siblings
    else cons name old children (addBelow new entry (first :: more) siblings)

/-- Changes the node that the names lead to. -/
def modify (change : Entry → Entry) : List String → Forest → Forest
  | _, nil => nil
  | [], forest => forest
  | first :: more, cons name entry children siblings =>
    if first = name then
      (if more.isEmpty then cons name (change entry) children siblings
      else cons name entry (modify change more children) siblings)
    else cons name entry children (modify change (first :: more) siblings)

end Forest

end ContentQuery
