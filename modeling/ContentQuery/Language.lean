import ContentQuery.Error
import ContentQuery.Text.Basic

/-!
# Query languages

Statements are written in one of two languages. A language may also be left open, and is then
taken from the next in line: `orElse` goes through a line of wishes.
-/

namespace ContentQuery

/-- The language of a statement. -/
inductive Language where
  /-- The language of location paths. -/
  | xpath
  /-- The language of select statements. -/
  | sql2
  /-- Left open. -/
  | unspecified
  deriving DecidableEq

namespace Language

/-- The name that messages and answers use. -/
def name : Language → String
  | xpath => "xpath"
  | sql2 => "JCR-SQL2"
  | unspecified => "unspecified"

/-- Whether the language is not left open. -/
def isSpecified : Language → Bool
  | unspecified => false
  | _ => true

/-- This language, or the other one if it is left open. -/
def orElse (language other : Language) : Language :=
  if language.isSpecified then language else other

/-- The language that a text names; blanks around the name do not count, and no name leaves the
language open. -/
def ofText (s : String) : Result Language :=
  let name := String.ofList (Text.trim s.toList)
  if name = "" ∨ name = "unspecified" then .ok unspecified
  else if name = "xpath" ∨ name = "XPATH" then .ok xpath
  else if name = "sql2" ∨ name = "SQL2" ∨ name = "JCR-SQL2" then .ok sql2
  else refuse (.unknownLanguage name)

end Language

end ContentQuery
