import ContentQuery.Language
import ContentQuery.Statement.EncodedName
import ContentQuery.Statement.Request

/-!
# Location paths

A statement is a scope, a step and a filter. The filter has no way to say that a node lies below a
path; only the scope can, and there is one scope. So a criterion of that kind is moved into the
scope where it is the whole condition or the only one of its kind in a conjunction, and no base
path is there already. Anywhere else it has no form.
-/

namespace ContentQuery

namespace XPath

/-- A filter that no node passes, as every node has a primary type. -/
def never : String := "not(@jcr:primaryType)"

/-- The paths among the parts of a conjunction. -/
def pathsOf : List Predicate → List String
  | [] => []
  | .descendantOf path :: rest => path :: pathsOf rest
  | _ :: rest => pathsOf rest

/-- The parts of a conjunction that are no paths. -/
def othersOf : List Predicate → List Predicate
  | [] => []
  | .descendantOf _ :: rest => othersOf rest
  | p :: rest => p :: othersOf rest

/-- Takes the scope out of a condition, if it can be taken. -/
def splitScope : Reduced → Option String × Reduced
  | .predicate (.descendantOf path) => (some path, .always)
  | .predicate (.junction .and parts) =>
    match pathsOf parts with
    | [path] => (some path, Reduced.ofParts .and (othersOf parts))
    | _ => (none, .predicate (.junction .and parts))
  | other => (none, other)

/-- The scope and the filter of a request. -/
def scopeAndFilter (r : Request) : Option String × Reduced :=
  match r.scope with
  | some base => (some base, r.criterion.reduce)
  | none => splitScope r.criterion.reduce

/-- A value as an operand. -/
def operand : Value → Result String
  | .text s => .ok (Literal.text s)
  | .long n => .ok (Literal.long n)
  | .double x => Literal.double x
  | .boolean b => .ok (if b then "true()" else "false()")
  | .date t => .ok ("xs:dateTime('" ++ t.write .millis ++ "')")

/-- A junction inside a junction stands in parentheses. -/
def enclose (nested : Bool) (s : String) : String := if nested then "(" ++ s ++ ")" else s

mutual

/-- A predicate as a filter; `nested` says whether it is a part of a junction. -/
def filter (nested : Bool) : Predicate → Result String
  | .compare p op v => do
    let right ← operand v
    return p.describe ++ " " ++ op.symbol ++ " " ++ right
  | .like p pattern => .ok ("jcr:like(" ++ p.describe ++ ", " ++ Literal.text pattern.write ++ ")")
  | .contains p s => .ok ("jcr:contains(" ++ p.describe ++ ", " ++ Literal.text s ++ ")")
  | .presence p present => .ok (if present then p.describe else "not(" ++ p.describe ++ ")")
  | .descendantOf path =>
    .error (.unsupported (Predicate.descendantOf path).describe Language.xpath.name)
  | .not inner => do
    let s ← filter false inner
    return "not(" ++ s ++ ")"
  | .junction k parts => do
    let all ← filters parts
    return enclose nested (Text.joinWith k.word all)

/-- The parts of a junction as filters. -/
def filters : List Predicate → Result (List String)
  | [] => .ok []
  | p :: rest => do
    let s ← filter true p
    let others ← filters rest
    return s :: others

end

/-- The steps down to the scope. -/
def scopeSteps : Option String → String
  | some path => "/jcr:root" ++ EncodedName.encodePath path ++ "//"
  | none => "//"

/-- The test for the node type. -/
def typeTest : Option String → String
  | some type => "element(*, " ++ type ++ ")"
  | none => "*"

/-- The clause of a filter. -/
def filterClause : Reduced → Result String
  | .always => .ok ""
  | .never => .ok ("[" ++ never ++ "]")
  | .predicate p => (filter false p).map fun s => "[" ++ s ++ "]"

/-- One entry of the order. -/
def orderEntry (o : Order) : String :=
  let direction := match o.direction with
    | .ascending => " ascending"
    | .descending => " descending"
  o.key.describe ++ direction

/-- The clause of an order. -/
def orderClause (order : List Order) : String :=
  if order.isEmpty then "" else " order by " ++ Text.joinWith ", " (order.map orderEntry)

/-- The statement of a request. -/
def statement (r : Request) : Result String := do
  let type ← r.checkedType
  let (scope, rest) := scopeAndFilter r
  let clause ← filterClause rest
  return scopeSteps scope ++ typeTest type ++ clause ++ orderClause r.order

end XPath

end ContentQuery
