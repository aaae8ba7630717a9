import ContentQuery.Statement.Request

/-!
# Select statements

A statement selects the nodes of a type under the name `a`. Each part of a junction stands in
parentheses, so that the precedence of the words between them does not matter. A base path becomes
the first part of the condition.
-/

namespace ContentQuery

namespace Sql2

/-- The type that all nodes have. -/
def anyType : String := "nt:base"

/-- A condition that no node meets, as every node has a primary type. -/
def never : String := "a.[jcr:primaryType] IS NULL"

/-- A property as a column. -/
def column (p : Property) : String := if p.isNode then "a.*" else "a.[" ++ p.name ++ "]"

/-- The sign of a comparison. -/
def operator : Comparator → String
  | .ne => "<>"
  | op => op.symbol

/-- The word between the parts of a junction. -/
def word : Connective → String
  | .and => " AND "
  | .or => " OR "

/-- A value as an operand. -/
def operand : Value → Result String
  | .text s => .ok (Literal.text s)
  | .long n => .ok (Literal.long n)
  | .double x => Literal.double x
  | .boolean b => .ok ("CAST('" ++ (if b then "true" else "false") ++ "' AS BOOLEAN)")
  | .date t => .ok ("CAST('" ++ t.write .millis ++ "' AS DATE)")

/-- A part of a junction. -/
def enclose (s : String) : String := "(" ++ s ++ ")"

mutual

/-- A predicate as a condition. -/
def condition : Predicate → Result String
  | .compare p op v => do
    let right ← operand v
    return column p ++ " " ++ operator op ++ " " ++ right
  | .like p pattern => .ok (column p ++ " LIKE " ++ Literal.text pattern.write)
  | .contains p s => .ok ("CONTAINS(" ++ column p ++ ", " ++ Literal.text s ++ ")")
  | .presence p present => .ok (column p ++ (if present then " IS NOT NULL" else " IS NULL"))
  | .descendantOf path => .ok ("ISDESCENDANTNODE(a, " ++ Literal.text path ++ ")")
  | .not inner => do
    let s ← condition inner
    return "NOT " ++ enclose s
  | .junction k parts => do
    let all ← conditions parts
    return Text.joinWith (word k) (all.map enclose)

/-- The parts of a junction as conditions. -/
def conditions : List Predicate → Result (List String)
  | [] => .ok []
  | p :: rest => do
    let s ← condition p
    let others ← conditions rest
    return s :: others

end

/-- The condition with the scope as its first part. -/
def withScope (scope : Option String) (reduced : Reduced) : Reduced :=
  match scope, reduced with
  | _, .never => .never
  | none, r => r
  | some path, .always => .predicate (.descendantOf path)
  | some path, .predicate (.junction .and parts) =>
    .predicate (.junction .and (.descendantOf path :: parts))
  | some path, .predicate p => .predicate (.junction .and [.descendantOf path, p])

/-- The clause of a condition. -/
def whereClause : Reduced → Result String
  | .always => .ok ""
  | .never => .ok (" WHERE " ++ never)
  | .predicate p => (condition p).map (" WHERE " ++ ·)

/-- One entry of the order. -/
def orderEntry (o : Order) : String :=
  let key := match o.key with
    | .score => "SCORE(a)"
    | .property p => column p
  let direction := match o.direction with
    | .ascending => " ASC"
    | .descending => " DESC"
  key ++ direction

/-- The clause of an order. -/
def orderClause (order : List Order) : String :=
  if order.isEmpty then "" else " ORDER BY " ++ Text.joinWith ", " (order.map orderEntry)

/-- The statement of a request. -/
def statement (r : Request) : Result String := do
  let type ← r.checkedType
  let condition ← whereClause (withScope r.scope r.criterion.reduce)
  return "SELECT a.* FROM [" ++ type.getD anyType ++ "] AS a" ++ condition ++ orderClause r.order

end Sql2

end ContentQuery
