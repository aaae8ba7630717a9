import ContentQuery.Criterion.Basic

/-!
# Checked criteria

The constructors that callers use. A leaf that compares, matches or asks for presence needs a real
property, bounds must be ordered, and a path is brought to its normal form. What these constructors
return can always be written as a statement, doubles without a literal apart.
-/

namespace ContentQuery

namespace Criterion

/-- A real property, not the node itself. -/
def named (p : Property) : Result Property :=
  if p.isNode then refuse .nodeInCondition else .ok p

/-- The property compares with the value. -/
def ofComparison (p : Property) (op : Comparator) (v : Value) : Result Criterion :=
  (named p).map (comparison · op v)

/-- The check on the bounds of a range. -/
def checkBounds (p : Property) (lower upper : Value) : Result Unit :=
  match lower, upper with
  | .boolean _, _ => refuse (.booleanBounds p.describe)
  | _, .boolean _ => refuse (.booleanBounds p.describe)
  | l, u =>
    match l.compare u with
    | some .gt => refuse (.reversedBounds p.describe l.describe u.describe)
    | some _ => .ok ()
    | none => refuse (.unlikeBounds p.describe l.typeName u.typeName)

/-- The property lies between two values of one family, of which the first is no greater. -/
def ofRange (p : Property) (lower upper : Value) : Result Criterion := do
  let p ← named p
  checkBounds p lower upper
  return range p lower upper

/-- The property matches a literal. -/
def ofPattern (p : Property) (literal : String) (mode : MatchMode) : Result Criterion :=
  (named p).map (patternMatch · literal mode)

/-- The property is present or absent. -/
def ofPresence (p : Property) (present : Bool) : Result Criterion :=
  (named p).map (presence · present)

/-- The property is absent or false. -/
def ofFalsy (p : Property) : Result Criterion :=
  (named p).map fun p => junction .or [presence p false, comparison p .eq (.boolean false)]

/-- The property contains one of several texts. -/
def ofTexts (p : Property) (texts : List String) : Result Criterion := (named p).map (anyOf · texts)

/-- The node lies below an absolute path. -/
def ofPath (path : String) : Result Criterion := (Path.normalize path).map descendantOf

end Criterion

end ContentQuery
