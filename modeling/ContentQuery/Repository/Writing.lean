import ContentQuery.Repository.NodeTable

/-!
# Updates in place

The table of a repository is written in place. An update reads it and writes to it step by step, and
what has been written stays if a later step is refused.
-/

namespace ContentQuery

namespace NodeTable

/-- Steps that read a table and write to it, any of which may be refused. -/
abbrev Writing (α : Type) := ExceptT Error (StateM NodeTable) α

namespace Writing

variable {α : Type}

/-- A step that has nothing to do with the table. -/
def ofResult (result : Result α) : Writing α := ExceptT.mk (pure result)

/-- Refuses to go on in a case. -/
def refuseIf (holds : Bool) (why : Refusal) : Writing Unit :=
  if holds then ofResult (refuse why) else pure ()

/-- The record at a path of the table as it is now. -/
def read (path : String) : Writing (Option Record) := do return (← get).record? path

/-- Changes the record at a path, if there is one. -/
def change (path : String) (f : Record → Record) : Writing Unit := modify (·.change path f)

/-- Puts a record at a path. -/
def put (path : String) (record : Record) : Writing Unit := modify (·.put path record)

/-- What the steps answer for a table, and the table that they leave. -/
def result (steps : Writing α) (table : NodeTable) : Result α × NodeTable :=
  StateT.run (ExceptT.run steps) table

end Writing

open Writing

/-- Adds a node in place and answers its path: the parent has it among its children before there is
a record of it. -/
def addInPlace (parent name primaryType : String) : Writing String := do
  refuseIf (!Store.isNodeName name) (.nodeName name)
  let parent ← ofResult (Path.normalize parent)
  let path := Path.child parent name
  refuseIf (← read path).isSome (.nodeExists path)
  refuseIf (← read parent).isNone (.noParent parent)
  Writing.change parent fun r => { r with children := r.children ++ [path] }
  Writing.put path ⟨path, ⟨primaryType, []⟩, []⟩
  return path

/-- Sets a property of a node in place. -/
def setInPlace (path name : String) (value : Value) : Writing Unit := do
  let property ← ofResult (Property.ofName name)
  refuseIf property.isNode .nodeAsName
  refuseIf (← read path).isNone (.noNode path)
  Writing.change path fun r => { r with
    entry := { r.entry with properties := Properties.set property.name value r.entry.properties } }

end NodeTable

end ContentQuery
