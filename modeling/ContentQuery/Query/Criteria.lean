import ContentQuery.Criterion.Basic
import ContentQuery.Language

/-!
# Criteria of a search

A whole question: the criteria that all have to be met, the scope, the order, the page, and the
wish for a language. It is built up from the empty question.
-/

namespace ContentQuery

/-- The type of nodes that are added without one. -/
def unstructured : String := "nt:unstructured"

/-- A whole question. -/
structure Criteria where
  language : Language
  basePath : Option String
  nodeType : Option String
  /-- All of these have to be met. -/
  all : List Criterion
  order : List Order
  offset : Nat
  /-- How many rows make a page; zero is no bound. -/
  maxResults : Option Nat

namespace Criteria

/-- The question that all nodes answer. -/
def empty : Criteria := ⟨.unspecified, none, none, [], [], 0, none⟩

/-- Asks for a language. -/
def withLanguage (c : Criteria) (language : Language) : Criteria := { c with language := language }

/-- Restricts the answer to nodes below a path. -/
def below (c : Criteria) (path : String) : Criteria := { c with basePath := some path }

/-- Restricts the answer to nodes of a type. -/
def ofType (c : Criteria) (type : String) : Criteria := { c with nodeType := some type }

/-- Adds a criterion. -/
def add (c : Criteria) (criterion : Criterion) : Criteria := { c with all := c.all ++ [criterion] }

/-- Adds an entry to the order. -/
def orderBy (c : Criteria) (order : Order) : Criteria := { c with order := c.order ++ [order] }

/-- Skips rows. -/
def skip (c : Criteria) (offset : Nat) : Criteria := { c with offset := offset }

/-- Bounds the number of rows; zero is no bound. -/
def atMost (c : Criteria) (rows : Nat) : Criteria :=
  { c with maxResults := if 0 < rows then some rows else none }

/-- The conjunction of the criteria. -/
def criterion (c : Criteria) : Criterion := .junction .and c.all

/-- The number of rows of a page, if it is bounded. -/
def pageSize (c : Criteria) : Option Nat := c.maxResults.filter (0 < ·)

end Criteria

end ContentQuery
