import ContentQuery.Execution.Paged
import ContentQuery.Query.Compiler

/-!
# Sessions

Questions to an executor under a configuration: compiled with the executor's wish for a language,
run once, and presented as a page.
-/

namespace ContentQuery

/-- An executor with the settings under which it is asked. -/
structure Session (σ : Type) where
  executor : Executor σ
  config : Config

namespace Session

variable {σ : Type}

/-- Compiles a question. -/
def compile (session : Session σ) (criteria : Criteria) : Result Descriptor :=
  session.config.compileCriteria criteria session.executor.preferred

/-- The page of a run that was made already. -/
def wrap (query : Descriptor) (cursor : Cursor) (offset : Nat) (perPage : Option Nat) :
    Result Paged :=
  query.countQuery.map fun count => Paged.ofCursor query count (some cursor) offset perPage

/-- Runs a descriptor and presents it as a page. -/
def run (session : Session σ) (query : Descriptor) (offset : Nat) (perPage : Option Nat) (s : σ) :
    Result Paged × σ :=
  match session.executor.execute query s with
  | (.error err, s) => (.error err, s)
  | (.ok cursor, s) => (wrap query cursor offset perPage, s)

/-- Compiles and runs a question. -/
def execute (session : Session σ) (criteria : Criteria) (s : σ) : Result Paged × σ :=
  match session.compile criteria with
  | .error err => (.error err, s)
  | .ok query => session.run query criteria.offset criteria.pageSize s

end Session

end ContentQuery
