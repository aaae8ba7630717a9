import ContentQuery.Query.Descriptor
import ContentQuery.Repository.Node

/-!
# Executors

Something that runs descriptors. It answers with a cursor, a row at a time, and may fail at any
point. What an executor is may change with every question, so each of its operations takes its
state and gives the next.
-/

namespace ContentQuery

/-- A node that was found, and how well it matches. -/
structure Row where
  node : Node
  score : Double

/-- The answers that are still to be read, and the number of all matches if it is known. -/
structure Cursor where
  size : Option Nat
  rows : List (Result Row)

/-- Something that runs descriptors. -/
structure Executor (σ : Type) where
  /-- Whether it skips and limits rows itself. -/
  appliesPaging : Bool
  /-- Whether the same descriptor may be run again. -/
  supportsRequery : Bool
  /-- The language it would choose. -/
  preferred : Option Language
  /-- Runs a descriptor. -/
  execute : Descriptor → σ → Result Cursor × σ
  /-- Takes notice that one of its cursors was asked for a row, whether there was one or not. -/
  asked : σ → σ

end ContentQuery
