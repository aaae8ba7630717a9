import ContentQuery.Text.Basic

/-!
# Patterns

A pattern is a literal that may be open at either end. Written with the signs of a language, the
literal's own occurrences of those signs are escaped, so that the literal stands for itself alone.
What is read from such a form is a list of wildcards.
-/

namespace ContentQuery

/-- Where a literal is found in a value. -/
inductive MatchMode where
  /-- The literal is the whole value. -/
  | exact
  /-- The value begins with the literal. -/
  | start
  /-- The value ends with the literal. -/
  | finish
  /-- The literal occurs in the value. -/
  | anywhere
  deriving DecidableEq

/-- A literal, and whether anything may come before and after it. -/
structure Pattern where
  literal : String
  openStart : Bool
  openEnd : Bool
  deriving DecidableEq

namespace MatchMode

/-- The name in descriptions. -/
def name : MatchMode → String
  | exact => "EXACT"
  | start => "START"
  | finish => "END"
  | anywhere => "ANYWHERE"

/-- The pattern of a literal. -/
def pattern (mode : MatchMode) (literal : String) : Pattern :=
  match mode with
  | exact => ⟨literal, false, false⟩
  | start => ⟨literal, false, true⟩
  | finish => ⟨literal, true, false⟩
  | anywhere => ⟨literal, true, true⟩

end MatchMode

namespace Pattern

/-- The literal with an escape before every sign. -/
def escaped (any single escape : Char) : List Char → List Char
  | [] => []
  | c :: rest =>
    if c = any ∨ c = single ∨ c = escape then escape :: c :: escaped any single escape rest
    else c :: escaped any single escape rest

/-- The pattern with the signs for any text, for one character and for an escape. -/
def writeWith (any single escape : Char) (p : Pattern) : String :=
  String.ofList
    ((if p.openStart then [any] else []) ++ escaped any single escape p.literal.toList ++
      (if p.openEnd then [any] else []))

/-- The pattern with the usual signs. -/
def write (p : Pattern) : String := p.writeWith '%' '_' '\\'

end Pattern

/-- One part of a pattern that was read. -/
inductive Wildcard where
  /-- Any text, which may be empty. -/
  | anything
  /-- Any one character. -/
  | single
  /-- This character. -/
  | exactly (c : Char)
  deriving DecidableEq

namespace Wildcard

/-- Whether a list of wildcards stands for a text. -/
def accepts : List Wildcard → List Char → Bool
  | [], s => s.isEmpty
  | anything :: rest, s => Text.anyEnding (accepts rest) s
  | single :: _, [] => false
  | single :: rest, _ :: s => accepts rest s
  | exactly _ :: _, [] => false
  | exactly c :: rest, d :: s => c = d && accepts rest s

/-- The wildcards that stand for a text alone. -/
def ofText (s : List Char) : List Wildcard := s.map exactly

end Wildcard

end ContentQuery
