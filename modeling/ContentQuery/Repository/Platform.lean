import ContentQuery.Repository.Matcher

/-!
# What a store takes from elsewhere

A store needs an engine for regular expressions and a way to sort, and either may give up: an engine
may refuse a source, and sorting need not come to an end by a comparison that contradicts itself.
The plain platform does neither. Its engine reads the expressions of patterns and no others, and it
sorts by insertion.
-/

namespace ContentQuery

/-- A way to sort lists by a comparison of their members. -/
structure Sorting where
  /-- Sorts a list, or gives up and says why. -/
  sort : {α : Type} → (compare : α → α → Ordering) → List α → Except String (List α)

/-- What a store takes from elsewhere. -/
structure Platform where
  engine : ExpressionEngine
  sorting : Sorting

/-! ### Sorting by insertion -/

namespace Sorting

variable {α : Type} (compare : α → α → Ordering)

/-- Puts a member behind all members that it does not precede; these are given last one first. -/
def insertBehind (a : α) : List α → List α
  | [] => [a]
  | last :: before =>
    if compare a last = .lt then last :: insertBehind a before else a :: last :: before

/-- Sorts a list from its first member on; members that are tied keep their order. -/
def insertAll (all : List α) : List α :=
  (all.foldl (fun sorted a => insertBehind compare a sorted) []).reverse

/-- Sorting by insertion comes to an end whatever the comparison is. -/
def insertion : Sorting := ⟨fun compare all => .ok (insertAll compare all)⟩

end Sorting

/-! ### An engine for the expressions of patterns -/

namespace PlainEngine

/-- Characters that stand for something else than themselves. -/
def special : List Char :=
  ['\\', '.', '+', '*', '?', '(', ')', '|', '[', ']', '\x7b', '\x7d', '^', '$', '#', '&', '-', '~']

/-- The text with an escape before every special character. -/
def escape : List Char → List Char
  | [] => []
  | c :: rest => if special.contains c then '\\' :: c :: escape rest else c :: escape rest

/-- The wildcards of an expression up to the anchor at its end, if it is of the simple kind. -/
def read? : List Char → Option (List Wildcard)
  | [] => none
  | '.' :: '*' :: rest => (read? rest).map (.anything :: ·)
  | '\\' :: c :: rest => if special.contains c then (read? rest).map (.exactly c :: ·) else none
  | c :: rest =>
    if c = '$' then (if rest.isEmpty then some [] else none)
    else if special.contains c then none
    else (read? rest).map (.exactly c :: ·)

/-- Compiles an expression of the simple kind to its wildcards. -/
def compile (source : String) : Except String (List Wildcard) :=
  match (Text.afterStart? "(?s)^".toList source.toList).bind read? with
  | some found => .ok found
  | none => .error "unsupported expression"

/-- The plain engine. -/
def engine : ExpressionEngine where
  Compiled := List Wildcard
  escape s := String.ofList (escape s.toList)
  compile := compile
  accepts found t := Wildcard.accepts found t.toList

end PlainEngine

/-- The platform that needs nothing from elsewhere. -/
def Platform.plain : Platform := ⟨PlainEngine.engine, .insertion⟩

end ContentQuery
