import ContentQuery.Proofs.Criterion.Atoms
import ContentQuery.Proofs.Error
import ContentQuery.Proofs.Statement.Scope
import ContentQuery.Query.Compiler

/-!
# Requests without a statement

A request has no statement if its node type is no name, or if an atom of what remains of its
criterion has no form in the language: a comparison with a double that is no real number in either
language, a path that did not become the scope in location paths. The first fault is reported.
-/

namespace ContentQuery

/-- Why no statement can hold a value. -/
def Value.fault? : Value → Option Error
  | .double x => if x.isFinite then none else some (.invalidArgument (.noLiteral x.toText))
  | _ => none

/-- Why an atom has no form in any language. -/
def Predicate.fault? : Predicate → Option Error
  | .compare _ _ v => v.fault?
  | _ => none

/-- Why an atom has no form in a location path. -/
def XPath.fault? : Predicate → Option Error
  | .descendantOf path => some (.unsupported ("isDescendantOf('" ++ path ++ "')") "xpath")
  | p => p.fault?

/-- A double has a literal unless it has a fault. -/
theorem Literal.error?_double (x : Double) :
    Result.error? (Literal.double x) = Value.fault? (.double x) := by
  rw [Literal.double, Value.fault?]
  split <;> rfl

namespace Predicate

/-- The faults of atoms are those of doubles. -/
theorem fault?_eq_some {p : Predicate} {e : Error} :
    p.fault? = some e ↔ ∃ property op x, p = .compare property op (.double x) ∧
      x.isFinite = false ∧ e = .invalidArgument (.noLiteral x.toText) := by
  cases p with
  | compare property op v =>
    cases v with
    | double x =>
      rw [fault?, Value.fault?]
      split
      · next hreal => simp [hreal]
      · next hreal => simpa [hreal] using eq_comm
    | text | long | boolean | date => simp [fault?, Value.fault?]
  | like | contains | presence | descendantOf | not | junction => simp [fault?]

/-- Some atom has a fault if one compares with a double that is no real number. -/
theorem exists_fault?_iff (atoms : List Predicate) :
    (∃ a ∈ atoms, ∃ e, fault? a = some e) ↔
      ∃ p op x, .compare p op (.double x) ∈ atoms ∧ x.isFinite = false := by
  constructor
  · intro h
    obtain ⟨a, ha, e, hfault⟩ := h
    obtain ⟨p, op, x, rfl, hx, -⟩ := fault?_eq_some.mp hfault
    exact ⟨p, op, x, ha, hx⟩
  · intro h
    obtain ⟨p, op, x, ha, hx⟩ := h
    exact ⟨_, ha, _, fault?_eq_some.mpr ⟨p, op, x, rfl, hx, rfl⟩⟩

end Predicate

namespace Sql2

/-- An operand fails for its fault. -/
theorem error?_operand (v : Value) : Result.error? (operand v) = v.fault? := by
  cases v with
  | double x => exact Literal.error?_double x
  | text | long | boolean | date => rfl

/-- A condition fails for the first fault of its atoms. -/
theorem error?_condition (p : Predicate) :
    Result.error? (condition p) = p.atoms.findSome? Predicate.fault? := by
  induction p with
  | compare p op v =>
    rw [condition, Result.error?_bind_pure, error?_operand]
    simp [Predicate.atoms, Predicate.fault?]
  | like | contains | presence | descendantOf => rfl
  | not inner ih => rw [condition, Result.error?_bind_pure, ih, Predicate.atoms]
  | junction k parts ih =>
    rw [condition, Result.error?_bind_pure, Predicate.atoms, Predicate.atomsOfAll_eq,
      Predicate.findSome?_flatMap_atoms]
    exact Result.error?_of_each condition conditions rfl (fun _ _ => rfl) ih

/-- The scope adds no fault. -/
theorem findSome?_fault?_withScope (scope : Option String) (reduced : Reduced) :
    (withScope scope reduced).atoms.findSome? Predicate.fault? =
      reduced.atoms.findSome? Predicate.fault? := by
  unfold withScope
  split <;> simp [Reduced.atoms, Predicate.atoms, List.findSome?_cons, Predicate.fault?]

/-- A statement fails for its type, and else for the first fault of what remains of the
criterion. -/
theorem error?_statement (r : Request) : Result.error? (statement r) =
    (Result.error? r.checkedType).or (r.criterion.reduce.atoms.findSome? Predicate.fault?) := by
  have hclause (reduced : Reduced) : Result.error? (whereClause reduced) =
      reduced.atoms.findSome? Predicate.fault? := by
    cases reduced with
    | always => rfl
    | never => rfl
    | predicate p => rw [whereClause, Result.error?_map, error?_condition, Reduced.atoms]
  rw [statement, Result.error?_bind fun type => Result.error?_bind_pure _ _, hclause,
    findSome?_fault?_withScope]

/-- There is a select statement if the type is a name and no atom has a fault. -/
theorem exists_statement_iff (r : Request) : (∃ text, statement r = .ok text) ↔
    Result.error? r.checkedType = none ∧
      ∀ a ∈ r.criterion.reduce.atoms, Predicate.fault? a = none := by
  rw [← Result.error?_eq_none, error?_statement, Option.or_eq_none_iff,
    List.findSome?_eq_none_iff]

end Sql2

namespace XPath

/-- An operand fails for its fault. -/
theorem error?_operand (v : Value) : Result.error? (operand v) = v.fault? := by
  cases v with
  | double x => exact Literal.error?_double x
  | text | long | boolean | date => rfl

/-- The description of a path that did not become the scope. -/
theorem describe_descendantOf (path : String) :
    (Predicate.descendantOf path).describe = "isDescendantOf('" ++ path ++ "')" := by
  have hunfold : (Predicate.descendantOf path).describe =
      "isDescendantOf(" ++ ("'" ++ path ++ "'") ++ ")" := rfl
  rw [hunfold, ← String.toList_inj]
  simp

/-- A filter fails for the first fault of its atoms, wherever it stands. -/
theorem error?_filter (nested : Bool) (p : Predicate) :
    Result.error? (filter nested p) = p.atoms.findSome? fault? := by
  induction p generalizing nested with
  | compare p op v =>
    rw [filter, Result.error?_bind_pure, error?_operand]
    simp [Predicate.atoms, fault?, Predicate.fault?]
  | like | contains | presence => rfl
  | descendantOf path => rw [filter, describe_descendantOf]; rfl
  | not inner ih => rw [filter, Result.error?_bind_pure, ih, Predicate.atoms]
  | junction k parts ih =>
    rw [filter, Result.error?_bind_pure, Predicate.atoms, Predicate.atomsOfAll_eq,
      Predicate.findSome?_flatMap_atoms]
    exact Result.error?_of_each (filter true) filters rfl (fun _ _ => rfl) fun p hp => ih p hp true

/-- The faults of atoms in a location path are those of doubles and those of paths. -/
theorem fault?_eq_some {p : Predicate} {e : Error} :
    fault? p = some e ↔ p.fault? = some e ∨ ∃ path, p = .descendantOf path ∧
      e = .unsupported ("isDescendantOf('" ++ path ++ "')") "xpath" := by
  cases p with
  | descendantOf path => simp [fault?, Predicate.fault?, eq_comm]
  | compare | like | contains | presence | not | junction => simp [fault?]

/-- Some atom has a fault in a location path if one compares with such a double or is a path. -/
theorem exists_fault?_iff (atoms : List Predicate) :
    (∃ a ∈ atoms, ∃ e, fault? a = some e) ↔
      (∃ p op x, .compare p op (.double x) ∈ atoms ∧ x.isFinite = false) ∨
        ∃ path, .descendantOf path ∈ atoms := by
  rw [← Predicate.exists_fault?_iff]
  constructor
  · intro h
    obtain ⟨a, ha, e, hfault⟩ := h
    rcases fault?_eq_some.mp hfault with hfault | ⟨path, rfl, -⟩
    · exact .inl ⟨a, ha, e, hfault⟩
    · exact .inr ⟨path, ha⟩
  · intro h
    rcases h with ⟨a, ha, e, hfault⟩ | ⟨path, ha⟩
    · exact ⟨a, ha, e, fault?_eq_some.mpr (.inl hfault)⟩
    · exact ⟨_, ha, _, fault?_eq_some.mpr (.inr ⟨path, rfl, rfl⟩)⟩

/-- The atoms of a condition are those of its filter, paths apart. -/
theorem mem_atoms_filter {r : Request} {a : Predicate} (ha : a ∈ r.criterion.reduce.atoms)
    (hpath : ∀ path, a ≠ .descendantOf path) : a ∈ (scopeAndFilter r).2.atoms := by
  rw [scopeAndFilter]
  split
  · exact ha
  · rcases splitScope_cases r.criterion.reduce with hsplit | ⟨path, hwhole, -⟩ |
      ⟨parts, path, hwhole, -, hsplit⟩
    · rwa [hsplit]
    · rw [hwhole] at ha
      exact absurd (List.mem_singleton.mp ha) (hpath path)
    · rw [hwhole] at ha
      rw [hsplit, Reduced.atoms_ofParts]
      simp only [Reduced.atoms, Predicate.atoms, Predicate.atomsOfAll_eq] at ha
      obtain ⟨p, hp, ha⟩ := List.mem_flatMap.mp ha
      refine List.mem_flatMap.mpr ⟨p, mem_othersOf hp fun path heq => ?_, ha⟩
      subst heq
      exact hpath path (List.mem_singleton.mp ha)

/-- A statement fails for its type, and else for the first fault of its filter. -/
theorem error?_statement (r : Request) : Result.error? (statement r) =
    (Result.error? r.checkedType).or ((scopeAndFilter r).2.atoms.findSome? fault?) := by
  have hclause (reduced : Reduced) : Result.error? (filterClause reduced) =
      reduced.atoms.findSome? fault? := by
    cases reduced with
    | always => rfl
    | never => rfl
    | predicate p => rw [filterClause, Result.error?_map, error?_filter, Reduced.atoms]
  rw [statement, Result.error?_bind fun type => Result.error?_bind_pure _ _, hclause]

/-- There is a location path if the type is a name and no atom of the filter has a fault. -/
theorem exists_statement_iff (r : Request) : (∃ text, statement r = .ok text) ↔
    Result.error? r.checkedType = none ∧ ∀ a ∈ (scopeAndFilter r).2.atoms, fault? a = none := by
  rw [← Result.error?_eq_none, error?_statement, Option.or_eq_none_iff,
    List.findSome?_eq_none_iff]

end XPath

namespace Request

/-- A type that is no name is refused. -/
theorem checkedType_eq_refuse {r : Request} {name : String} (hname : name ∈ r.nodeType)
    (h : isTypeName name = false) : r.checkedType = .error (.invalidArgument (.nodeType name)) := by
  rw [Option.mem_def] at hname
  simp [checkedType, hname, h, refuse]

/-- No type, and a type that is a name, have no fault. -/
theorem error?_checkedType {r : Request} (h : ∀ name ∈ r.nodeType, isTypeName name = true) :
    Result.error? r.checkedType = none := by
  rw [checkedType]
  split
  · next name hname =>
    rw [if_pos (h name hname)]
    rfl
  · rfl

/-- A request with a legal type has no select statement exactly for the first fault of what remains
of its criterion. -/
theorem sql2_eq_error_iff {r : Request} (h : ∀ name ∈ r.nodeType, isTypeName name = true)
    (e : Error) : Sql2.statement r = .error e ↔
      r.criterion.reduce.atoms.findSome? Predicate.fault? = some e := by
  rw [← Result.error?_eq_some, Sql2.error?_statement, error?_checkedType h, Option.none_or]

/-- A request with a legal type has no location path exactly for the first fault of its filter. -/
theorem xpath_eq_error_iff {r : Request} (h : ∀ name ∈ r.nodeType, isTypeName name = true)
    (e : Error) : XPath.statement r = .error e ↔
      (XPath.scopeAndFilter r).2.atoms.findSome? XPath.fault? = some e := by
  rw [← Result.error?_eq_some, XPath.error?_statement, error?_checkedType h, Option.none_or]

/-- A request that has a location path has a select statement. -/
theorem exists_sql2_of_xpath {r : Request} {text : String} (h : XPath.statement r = .ok text) :
    ∃ text, Sql2.statement r = .ok text := by
  obtain ⟨htype, hfilter⟩ := (XPath.exists_statement_iff r).mp ⟨text, h⟩
  refine (Sql2.exists_statement_iff r).mpr ⟨htype, fun a ha => ?_⟩
  rw [Option.eq_none_iff_forall_ne_some]
  intro e hfault
  obtain ⟨p, op, x, rfl, -⟩ := Predicate.fault?_eq_some.mp hfault
  have hlegal := hfilter _ (XPath.mem_atoms_filter ha fun path => nofun)
  rw [XPath.fault?_eq_some.mpr (.inl hfault)] at hlegal
  cases hlegal

/-- Whatever a select statement fails for, it is something that the caller gave. -/
theorem invalidArgument_of_sql2 {r : Request} {e : Error} (h : Sql2.statement r = .error e) :
    ∃ why, e = .invalidArgument why := by
  rw [← Result.error?_eq_some, Sql2.error?_statement, Option.or_eq_some_iff] at h
  rcases h with htype | ⟨-, hfault⟩
  · rw [Result.error?_eq_some, checkedType] at htype
    split at htype
    · split at htype
      · cases htype
      · cases htype
        exact ⟨_, rfl⟩
    · cases htype
  · obtain ⟨a, -, hfault⟩ := List.exists_of_findSome?_eq_some hfault
    obtain ⟨p, op, x, -, -, rfl⟩ := Predicate.fault?_eq_some.mp hfault
    exact ⟨_, rfl⟩

/-- When a request has no statement, and why. A node type that is no name is refused before all
else. Otherwise a select statement fails exactly if what remains of the criterion compares with a
double that is no real number, and a location path exactly if the filter that is left does or has a
path among its atoms; the first atom with a fault, from left to right, is the one that is reported.
So parts that reduction takes away cause no failure, what has a location path has a select
statement, and no part of a criterion is unsupported in a select statement. -/
theorem fails_at_first_fault (r : Request) :
    (∀ name ∈ r.nodeType, isTypeName name = false →
      Sql2.statement r = .error (.invalidArgument (.nodeType name)) ∧
      XPath.statement r = .error (.invalidArgument (.nodeType name))) ∧
    ((∀ name ∈ r.nodeType, isTypeName name = true) →
      ((∃ e, Sql2.statement r = .error e) ↔
        ∃ p op x, .compare p op (.double x) ∈ r.criterion.reduce.atoms ∧ x.isFinite = false) ∧
      ((∃ e, XPath.statement r = .error e) ↔
        (∃ p op x, .compare p op (.double x) ∈ (XPath.scopeAndFilter r).2.atoms ∧
          x.isFinite = false) ∨
        ∃ path, .descendantOf path ∈ (XPath.scopeAndFilter r).2.atoms) ∧
      (∀ e, Sql2.statement r = .error e ↔
        r.criterion.reduce.atoms.findSome? Predicate.fault? = some e) ∧
      (∀ e, XPath.statement r = .error e ↔
        (XPath.scopeAndFilter r).2.atoms.findSome? XPath.fault? = some e)) ∧
    (∀ c : Criterion, c.reduce = r.criterion.reduce →
      Sql2.statement { r with criterion := c } = Sql2.statement r ∧
      XPath.statement { r with criterion := c } = XPath.statement r) ∧
    ((∃ text, XPath.statement r = .ok text) → ∃ text, Sql2.statement r = .ok text) ∧
    ∀ part language, Sql2.statement r ≠ .error (.unsupported part language) := by
  refine ⟨fun name hname hillegal => ?_, fun hlegal => ?_, fun c hc => ?_, ?_, ?_⟩
  · rw [Sql2.statement, XPath.statement, checkedType_eq_refuse hname hillegal]
    exact ⟨rfl, rfl⟩
  · refine ⟨?_, ?_, sql2_eq_error_iff hlegal, xpath_eq_error_iff hlegal⟩
    · simp only [sql2_eq_error_iff hlegal, Predicate.exists_findSome?_iff, Predicate.exists_fault?_iff]
    · simp only [xpath_eq_error_iff hlegal, Predicate.exists_findSome?_iff, XPath.exists_fault?_iff]
  · have hscope : XPath.scopeAndFilter { r with criterion := c } = XPath.scopeAndFilter r := by
      simp only [XPath.scopeAndFilter, scope, hc]
    have hcondition : Sql2.withScope (scope { r with criterion := c }) c.reduce =
        Sql2.withScope r.scope r.criterion.reduce := by
      rw [hc, scope, scope]
    have htype : checkedType { r with criterion := c } = r.checkedType := rfl
    constructor
    · rw [Sql2.statement, hcondition, htype, Sql2.statement]
    · rw [XPath.statement, hscope, htype, XPath.statement]
  · intro h
    obtain ⟨text, htext⟩ := h
    exact exists_sql2_of_xpath htext
  · intro part language h
    obtain ⟨why, hwhy⟩ := invalidArgument_of_sql2 h
    cases hwhy

/-- A request for a negated disjunction of a path and a comparison with a double that is no number,
beside a disjunction with such a comparison that another part decides. -/
def unwritable : Request where
  criterion := .junction .and [
    .junction .or [.junction .and [], .comparison ⟨"size"⟩ .lt (.double ⟨0x7FF0000000000000⟩)],
    .not (.junction .or [.descendantOf "/content",
      .comparison ⟨"price"⟩ .eq (.double ⟨0x7FF8000000000000⟩)])]
  basePath := some "/"
  nodeType := some "cq:Page"
  order := []

/-- The request fails for its double in a select statement, for its path, which comes first, in a
location path, and for neither where the type is no name. -/
theorem fails_unwritable :
    Sql2.statement unwritable = .error (.invalidArgument (.noLiteral "NaN")) ∧
    XPath.statement unwritable =
      .error (.unsupported "isDescendantOf('/content')" "xpath") ∧
    Sql2.statement { unwritable with nodeType := some "a b" } =
      .error (.invalidArgument (.nodeType "a b")) := by
  have hlegal : ∀ name ∈ unwritable.nodeType, isTypeName name = true := by
    intro name hname
    cases hname
    rfl
  obtain ⟨-, hfails, -⟩ := fails_at_first_fault unwritable
  obtain ⟨-, -, hsql2, hxpath⟩ := hfails hlegal
  obtain ⟨hillegal, -⟩ := fails_at_first_fault { unwritable with nodeType := some "a b" }
  exact ⟨(hsql2 _).mpr rfl, (hxpath _).mpr rfl, (hillegal "a b" rfl rfl).1⟩

end Request

end ContentQuery
