import ContentQuery.Proofs.Criterion.Built
import ContentQuery.Proofs.Statement.Literal

/-!
# Conditions as statements show them

What can be read off a statement is a tree like that of a predicate, with two differences: a
pattern is a written text, and a date is cut to milliseconds. The languages also differ in how the
negation of a tree is shown.
-/

namespace ContentQuery

/-- A condition that is read from a statement. -/
inductive Condition where
  /-- The property compares with the value. -/
  | compare (property : Property) (op : Comparator) (value : Value)
  /-- The property matches a written pattern. -/
  | like (property : Property) (pattern : String)
  /-- The property, or the node itself, contains all words of a text. -/
  | contains (property : Property) (text : String)
  /-- The property is present or absent. -/
  | presence (property : Property) (present : Bool)
  /-- The node lies below a path. -/
  | descendantOf (path : String)
  /-- The condition does not hold. -/
  | not (inner : Condition)
  /-- A combination of parts. -/
  | junction (connective : Connective) (parts : List Condition)

/-- Reads the sign of a comparison between blanks. -/
def Comparator.read? (sign : Comparator → String) (s : List Char) :
    Option (Comparator × List Char) :=
  [eq, ne, lt, le, gt, ge].findSome? fun op =>
    (Text.afterStart? (' ' :: (sign op).toList ++ [' ']) s).map (op, ·)

/-- A value as a statement shows it. -/
def Value.shown : Value → Value
  | .date t => .date t.toMillis
  | v => v

namespace Predicate

variable (negate : Condition → Condition)

mutual

/-- A predicate as a statement shows it, given how it shows negations. -/
def shown : Predicate → Condition
  | compare p op v => .compare p op v.shown
  | like p pattern => .like p pattern.write
  | contains p s => .contains p s
  | presence p present => .presence p present
  | descendantOf path => .descendantOf path
  | not inner => negate (shown inner)
  | junction k parts => .junction k (shownAll parts)

/-- The parts as a statement shows them. -/
def shownAll : List Predicate → List Condition
  | [] => []
  | p :: rest => shown p :: shownAll rest

end

/-- Parts are shown one by one. -/
@[simp] theorem shownAll_eq (parts : List Predicate) :
    shownAll negate parts = parts.map (shown negate) := by
  induction parts with
  | nil => rfl
  | cons p rest ih => simp [shownAll, ih]

end Predicate

end ContentQuery
