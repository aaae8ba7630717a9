import ContentQuery.Proofs.Criterion.Built
import ContentQuery.Query.Compiler

/-!
# Compiled questions

A compiled question keeps the criteria, the type and the order, has a base path other than the
root or none, and is the statement of exactly these.
-/

namespace ContentQuery

/-- A question that is put together from criteria and sort keys made by a caller. -/
structure Criteria.Built (criteria : Criteria) : Prop where
  clauses : ∀ c ∈ criteria.all, c.Built
  keys : ∀ o ∈ criteria.order, o.key.Accepted

/-- The conjunction of the criteria of such a question is made by a caller too. -/
theorem Criteria.Built.criterion {criteria : Criteria} (h : criteria.Built) :
    criteria.criterion.Built := .junction .and h.clauses

/-- The empty question is one. -/
theorem Criteria.built_empty : Criteria.empty.Built := ⟨by simp [empty], by simp [empty]⟩

/-- Criteria made by a caller may be added. -/
theorem Criteria.Built.add {criteria : Criteria} (h : criteria.Built) {c : Criterion}
    (hc : c.Built) : (criteria.add c).Built := by
  refine ⟨fun c' hc' => ?_, h.keys⟩
  rcases List.mem_append.mp hc' with hc' | hc'
  · exact h.clauses c' hc'
  · obtain rfl := List.mem_singleton.mp hc'
    exact hc

/-- A descriptor of a criterion with its type and order, whose statement is that of its request. -/
structure Descriptor.Describes (d : Descriptor) (criterion : Criterion) (nodeType : Option String)
    (order : List Order) : Prop where
  criterion : d.criterion = criterion
  nodeType : d.nodeType = nodeType
  order : d.order = order
  base : ∀ base ∈ d.basePath, Path.isRoot base = false
  statement : Request.statement d.language d.request = .ok d.statement

namespace Config

/-- A base path in normal form is not the root. -/
theorem isRoot_of_checkedBase {basePath base : Option String}
    (h : checkedBase basePath = .ok base) :
    ∀ path ∈ base, Path.isRoot path = false := by
  intro path heq
  subst heq
  cases basePath with
  | none => cases h
  | some given =>
    obtain ⟨normal, -, h⟩ := Result.map_eq_ok.mp h
    split at h
    · cases h
    · next hroot =>
      cases h
      simpa using hroot

/-- What a criterion is compiled to. -/
theorem describes_of_compile {config : Config} {criterion : Criterion} {language : Language}
    {basePath nodeType : Option String} {order : List Order} {d : Descriptor}
    (h : config.compile criterion language basePath nodeType order = .ok d) :
    d.Describes criterion nodeType order := by
  obtain ⟨base, hbase, h⟩ := Result.bind_eq_ok.mp h
  obtain ⟨statement, hstatement, h⟩ := Result.bind_eq_ok.mp h
  cases h
  exact ⟨rfl, rfl, rfl, isRoot_of_checkedBase hbase, hstatement⟩

/-- What a question is compiled to. -/
theorem describes_of_compileCriteria {config : Config} {criteria : Criteria}
    {preferred : Option Language} {d : Descriptor}
    (h : config.compileCriteria criteria preferred = .ok d) :
    d.Describes criteria.criterion criteria.nodeType criteria.order := by
  obtain ⟨inner, hinner, h⟩ := Result.bind_eq_ok.mp h
  cases h
  have hdescribes := describes_of_compile hinner
  exact ⟨hdescribes.criterion, hdescribes.nodeType, hdescribes.order, hdescribes.base,
    hdescribes.statement⟩

/-- The statement of a question is that of its request, with the base path in normal form. -/
theorem statement_compileCriteria (config : Config) (criteria : Criteria)
    (preferred : Option Language) :
    (config.compileCriteria criteria preferred).map (·.statement) =
      (checkedBase criteria.basePath >>= fun base =>
        Request.statement (config.resolve (config.resolve criteria.language preferred) none)
          ⟨criteria.criterion, base, criteria.nodeType, criteria.order⟩) := by
  rw [compileCriteria, compile]
  cases checkedBase criteria.basePath with
  | error e => rfl
  | ok base =>
    simp only [bind, Except.bind]
    cases Request.statement (config.resolve (config.resolve criteria.language preferred) none)
      ⟨criteria.criterion, base, criteria.nodeType, criteria.order⟩ <;> rfl

end Config

end ContentQuery
