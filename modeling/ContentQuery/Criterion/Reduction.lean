import ContentQuery.Criterion.Predicate

/-!
# Reduction

A criterion is reduced to a predicate without constants, or to a constant. Below the root, an empty
conjunction and an empty disjunction are constants; a constant either decides the junction it
stands in or leaves it, a junction of one part is that part, and two negations cancel.
-/

namespace ContentQuery

namespace Reduced

/-- The negation; two negations cancel. -/
def negate : Reduced → Reduced
  | always => never
  | never => always
  | predicate (.not inner) => predicate inner
  | predicate p => predicate (.not p)

/-- The constant that decides a junction on its own. -/
def deciding : Connective → Reduced
  | .and => never
  | .or => always

/-- The constant that a junction does without. -/
def neutral : Connective → Reduced
  | .and => always
  | .or => never

/-- The parts of a junction that are predicates, or nothing if a part decides it. -/
def keep (k : Connective) : List Reduced → Option (List Predicate)
  | [] => some []
  | predicate p :: rest => (keep k rest).map (p :: ·)
  | always :: rest => if k = .or then none else keep k rest
  | never :: rest => if k = .and then none else keep k rest

/-- The junction of predicates. -/
def ofParts (k : Connective) : List Predicate → Reduced
  | [] => neutral k
  | [p] => predicate p
  | parts => predicate (.junction k parts)

/-- The junction of reduced parts. -/
def join (k : Connective) (parts : List Reduced) : Reduced :=
  match keep k parts with
  | none => deciding k
  | some kept => ofParts k kept

end Reduced

namespace Criterion

mutual

/-- What remains of a criterion. -/
def reduce : Criterion → Reduced
  | comparison p op v => .predicate (.compare p op v)
  | range p l u => .predicate (.junction .and [.compare p .ge l, .compare p .le u])
  | patternMatch p s mode => .predicate (.like p (mode.pattern s))
  | presence p present => .predicate (.presence p present)
  | anyOf p texts => Reduced.ofParts .or (texts.map (Predicate.contains p))
  | containment p s => .predicate (.contains p s)
  | descendantOf path => if Path.isRoot path then .always else .predicate (.descendantOf path)
  | not inner => (reduce inner).negate
  | junction k clauses => Reduced.join k (reduceAll clauses)

/-- What remains of each clause. -/
def reduceAll : List Criterion → List Reduced
  | [] => []
  | c :: rest => reduce c :: reduceAll rest

end

end Criterion

end ContentQuery
