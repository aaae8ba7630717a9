import ContentQuery.Criterion.Basic

/-!
# Predicates

The form of a condition that statements are written from and nodes are matched with. It has fewer
kinds of leaves than a criterion: ranges are two comparisons, several texts are a disjunction, and
literals are anchored patterns.
-/

namespace ContentQuery

/-- A condition without constants. -/
inductive Predicate where
  /-- The property compares with the value. -/
  | compare (property : Property) (op : Comparator) (value : Value)
  /-- The property matches the pattern. -/
  | like (property : Property) (pattern : Pattern)
  /-- The property, or the node itself, contains all words of a text. -/
  | contains (property : Property) (text : String)
  /-- The property is present or absent. -/
  | presence (property : Property) (present : Bool)
  /-- The node lies below a path. -/
  | descendantOf (path : String)
  /-- The predicate does not hold. -/
  | not (inner : Predicate)
  /-- A combination of parts. -/
  | junction (connective : Connective) (parts : List Predicate)

/-- What remains of a condition: a constant or a predicate. -/
inductive Reduced where
  /-- Every node meets the condition. -/
  | always
  /-- No node meets the condition. -/
  | never
  /-- The nodes that meet the predicate. -/
  | predicate (p : Predicate)

namespace Predicate

mutual

/-- The predicate as descriptions show it. -/
def describe : Predicate → String
  | compare p op v => p.describe ++ " " ++ op.symbol ++ " " ++ v.describe
  | like p pattern => "like(" ++ p.describe ++ ", " ++ Criterion.quoteText pattern.write ++ ")"
  | contains p s => "contains(" ++ p.describe ++ ", " ++ Criterion.quoteText s ++ ")"
  | presence p present => p.describe ++ (if present then " is not null" else " is null")
  | descendantOf path => "isDescendantOf(" ++ Criterion.quoteText path ++ ")"
  | not inner => "not(" ++ describe inner ++ ")"
  | junction k parts => "(" ++ Text.joinWith k.word (describeAll parts) ++ ")"

/-- The parts as descriptions show them. -/
def describeAll : List Predicate → List String
  | [] => []
  | p :: rest => describe p :: describeAll rest

end

end Predicate

end ContentQuery
