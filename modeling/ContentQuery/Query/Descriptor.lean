import ContentQuery.Criterion.Basic
import ContentQuery.Language

/-!
# Descriptors

A compiled question: the statement, and beside it everything that an executor or the count of all
matches needs. The offset and the limit are not part of the statement.
-/

namespace ContentQuery

/-- A compiled question. -/
structure Descriptor where
  /-- The language that was asked for. -/
  requestedLanguage : Language
  /-- The language of the statement. -/
  language : Language
  statement : String
  basePath : Option String
  nodeType : Option String
  criterion : Criterion
  order : List Order
  /-- How many rows are skipped. -/
  offset : Nat
  /-- How many rows are taken at most. -/
  limit : Option Nat

namespace Descriptor

/-- A descriptor without scope, order and paging, for which its own language was asked. -/
def ofStatement (language : Language) (statement : String) (criterion : Criterion) : Descriptor :=
  ⟨language, language, statement, none, none, criterion, [], 0, none⟩

/-- A descriptor of all nodes, without a statement. -/
def ofLanguage (language : Language) : Descriptor := ofStatement language "" (.junction .and [])

/-- Replaces the language that was asked for. -/
def withRequestedLanguage (d : Descriptor) (language : Language) : Descriptor :=
  { d with requestedLanguage := language }

/-- Replaces the statement. -/
def withStatement (d : Descriptor) (statement : String) : Descriptor :=
  { d with statement := statement }

/-- Replaces the base path. -/
def withBasePath (d : Descriptor) (basePath : Option String) : Descriptor :=
  { d with basePath := basePath }

/-- Replaces the node type. -/
def withNodeType (d : Descriptor) (nodeType : Option String) : Descriptor :=
  { d with nodeType := nodeType }

/-- Replaces the order. -/
def withOrder (d : Descriptor) (order : List Order) : Descriptor := { d with order := order }

/-- Replaces the offset. -/
def withOffset (d : Descriptor) (offset : Nat) : Descriptor := { d with offset := offset }

/-- Replaces the limit; zero is no limit. -/
def withLimit (d : Descriptor) (limit : Option Nat) : Descriptor :=
  { d with limit := limit.filter (0 < ·) }

/-- The descriptor of all rows. -/
def withoutPaging (d : Descriptor) : Descriptor := (d.withOffset 0).withLimit none

/-- Whether rows are skipped or limited. -/
def isPaged (d : Descriptor) : Bool := 0 < d.offset || d.limit.isSome

end Descriptor

end ContentQuery
