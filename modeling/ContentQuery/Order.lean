import ContentQuery.Property

/-!
# Order of results

Results are sorted by properties and by their score, the first entry first.
-/

namespace ContentQuery

/-- What results are sorted by. -/
inductive SortKey where
  /-- A stored property. -/
  | property (p : Property)
  /-- How well the node matches. -/
  | score
  deriving DecidableEq

/-- Which end comes first. -/
inductive Direction where
  | ascending
  | descending
  deriving DecidableEq

/-- A key with its direction. -/
structure Order where
  key : SortKey
  direction : Direction
  deriving DecidableEq

namespace SortKey

/-- The name that stands for the score. -/
def scoreName : String := "jcr:score"

/-- Whether this is the score. -/
def isScore : SortKey → Bool
  | score => true
  | property _ => false

/-- The key of a property; the node itself is none. -/
def ofProperty (p : Property) : Result SortKey :=
  if p.isNode then refuse .nodeInOrder
  else .ok (if p.name = scoreName then score else property p)

/-- The key with the given name. -/
def ofName (name : String) : Result SortKey := Property.ofName name >>= ofProperty

/-- The key as statements and descriptions show it. -/
def describe : SortKey → String
  | property p => p.describe
  | score => "@" ++ scoreName

end SortKey

namespace Order

/-- Smallest first. -/
def ascending (name : String) : Result Order := (SortKey.ofName name).map (⟨·, .ascending⟩)

/-- Largest first. -/
def descending (name : String) : Result Order := (SortKey.ofName name).map (⟨·, .descending⟩)

/-- Best matches first. -/
def byScore : Order := ⟨.score, .descending⟩

/-- The entry as descriptions show it. -/
def describe (o : Order) : String :=
  match o.direction with
  | .ascending => o.key.describe ++ " asc"
  | .descending => o.key.describe ++ " desc"

end Order

end ContentQuery
