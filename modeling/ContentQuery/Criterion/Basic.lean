import ContentQuery.Order
import ContentQuery.Path
import ContentQuery.Pattern
import ContentQuery.Value

/-!
# Criteria

A criterion is a condition on a node: a tree whose leaves compare, match or search a property or
place the node below a path, and whose inner nodes negate and combine. The tree only says what is
wanted; any tree can be formed here, and the checked constructors are in a module of their own.
-/

namespace ContentQuery

/-- How a stored value is compared with an operand. -/
inductive Comparator where
  | eq
  | ne
  | lt
  | le
  | gt
  | ge
  deriving DecidableEq

/-- How clauses are combined. -/
inductive Connective where
  /-- All clauses hold; so it is with no clause. -/
  | and
  /-- Some clause holds; none does with no clause. -/
  | or
  deriving DecidableEq

/-- A condition on a node. -/
inductive Criterion where
  /-- The property compares with the value. -/
  | comparison (property : Property) (op : Comparator) (value : Value)
  /-- The property lies between two values, both included. -/
  | range (property : Property) (lower upper : Value)
  /-- The property matches a literal. -/
  | patternMatch (property : Property) (literal : String) (mode : MatchMode)
  /-- The property is present or absent. -/
  | presence (property : Property) (present : Bool)
  /-- The property contains one of several texts. -/
  | anyOf (property : Property) (texts : List String)
  /-- The property, or the node itself, contains all words of a text. -/
  | containment (property : Property) (text : String)
  /-- The node lies below a path. -/
  | descendantOf (path : String)
  /-- The criterion does not hold. -/
  | not (inner : Criterion)
  /-- A combination of clauses. -/
  | junction (connective : Connective) (clauses : List Criterion)

namespace Comparator

/-- The sign between property and operand. -/
def symbol : Comparator → String
  | eq => "="
  | ne => "!="
  | lt => "<"
  | le => "<="
  | gt => ">"
  | ge => ">="

/-- Whether the comparison holds of two values with the given order. -/
def accepts : Comparator → Ordering → Bool
  | eq, o => o = .eq
  | ne, o => o ≠ .eq
  | lt, o => o = .lt
  | le, o => o ≠ .gt
  | gt, o => o = .gt
  | ge, o => o ≠ .lt

end Comparator

namespace Connective

/-- The word between two clauses. -/
def word : Connective → String
  | and => " and "
  | or => " or "

end Connective

namespace Criterion

/-- A text between single quotes, as descriptions show it. -/
def quoteText (s : String) : String := "'" ++ s ++ "'"

mutual

/-- The criterion as descriptions show it. -/
def describe : Criterion → String
  | comparison p op v => p.describe ++ " " ++ op.symbol ++ " " ++ v.describe
  | range p l u => "between(" ++ p.describe ++ ", " ++ l.describe ++ ", " ++ u.describe ++ ")"
  | patternMatch p s mode =>
    "like(" ++ p.describe ++ ", " ++ quoteText s ++ ", " ++ mode.name ++ ")"
  | presence p present => p.describe ++ (if present then " is not null" else " is null")
  | anyOf p texts =>
    "in(" ++ p.describe ++ ", [" ++ Text.joinWith ", " (texts.map quoteText) ++ "])"
  | containment p s => "contains(" ++ p.describe ++ ", " ++ quoteText s ++ ")"
  | descendantOf path => "isDescendantOf(" ++ quoteText path ++ ")"
  | not inner => "not(" ++ describe inner ++ ")"
  | junction k clauses => "(" ++ Text.joinWith k.word (describeAll clauses) ++ ")"

/-- The clauses as descriptions show them. -/
def describeAll : List Criterion → List String
  | [] => []
  | c :: rest => describe c :: describeAll rest

end

mutual

/-- Whether two criteria are the same tree. -/
def same : Criterion → Criterion → Bool
  | comparison p op v, comparison p' op' v' => p = p' ∧ op = op' ∧ v = v'
  | range p l u, range p' l' u' => p = p' ∧ l = l' ∧ u = u'
  | patternMatch p s mode, patternMatch p' s' mode' => p = p' ∧ s = s' ∧ mode = mode'
  | presence p b, presence p' b' => p = p' ∧ b = b'
  | anyOf p ts, anyOf p' ts' => p = p' ∧ ts = ts'
  | containment p s, containment p' s' => p = p' ∧ s = s'
  | descendantOf path, descendantOf path' => path = path'
  | not c, not c' => same c c'
  | junction k cs, junction k' cs' => k = k' && sameAll cs cs'
  | _, _ => false

/-- Whether two lists of criteria are the same, in order. -/
def sameAll : List Criterion → List Criterion → Bool
  | [], [] => true
  | c :: cs, c' :: cs' => same c c' && sameAll cs cs'
  | _, _ => false

end

/-- Criteria are equal if they are the same tree. -/
instance : BEq Criterion := ⟨same⟩

end Criterion

end ContentQuery
