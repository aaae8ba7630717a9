import ContentQuery.Query.Config
import ContentQuery.Query.Criteria
import ContentQuery.Query.Descriptor
import ContentQuery.Statement.Sql2
import ContentQuery.Statement.XPath

/-!
# Compilation

A question becomes a descriptor: its language is decided, its base path normalized and its
statement written. From a descriptor the one that counts all matches is derived, which differs in
the statement, the order and the page only.
-/

namespace ContentQuery

/-- The statement of a request in a language, which must not be left open. -/
def Request.statement (language : Language) (r : Request) : Result String :=
  match language with
  | .xpath => XPath.statement r
  | .sql2 => Sql2.statement r
  | .unspecified => refuse .openLanguage

namespace Descriptor

/-- What the statement of a descriptor asks for. -/
def request (d : Descriptor) : Request := ⟨d.criterion, d.basePath, d.nodeType, d.order⟩

/-- The descriptor that counts all matches. -/
def countQuery (d : Descriptor) : Result Descriptor := do
  let statement ← Request.statement d.language { d.request with order := [] }
  return (d.withoutPaging.withStatement statement).withOrder []

end Descriptor

namespace Config

/-- The normal form of a base path; the root is none. -/
def checkedBase (basePath : Option String) : Result (Option String) :=
  match basePath with
  | none => .ok none
  | some path => (Path.normalize path).map fun p => if Path.isRoot p then none else some p

/-- Compiles a criterion with its scope and order. -/
def compile (config : Config) (criterion : Criterion) (language : Language)
    (basePath nodeType : Option String) (order : List Order) : Result Descriptor := do
  let resolved := config.resolve language none
  let base ← checkedBase basePath
  let statement ← Request.statement resolved ⟨criterion, base, nodeType, order⟩
  return ⟨language, resolved, statement, base, nodeType, criterion, order, 0, none⟩

/-- Compiles a whole question for an executor with a wish for a language. -/
def compileCriteria (config : Config) (criteria : Criteria) (preferred : Option Language) :
    Result Descriptor := do
  let language := config.resolve criteria.language preferred
  let d ← config.compile criteria.criterion language criteria.basePath criteria.nodeType
    criteria.order
  return ((d.withRequestedLanguage criteria.language).withOffset criteria.offset).withLimit
    criteria.pageSize

end Config

end ContentQuery
