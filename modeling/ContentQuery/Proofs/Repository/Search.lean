import ContentQuery.Proofs.Query.Compiler
import ContentQuery.Proofs.Repository.Hits
import ContentQuery.Proofs.Repository.Reachable
import ContentQuery.Proofs.Statement.Meaning
import ContentQuery.Proofs.Statement.Scope
import ContentQuery.Proofs.Statement.Sql2

/-!
# What a statement says of a search

A store searches by the criterion of a descriptor and not by its statement. The answer is that of
the statement all the same, unless the criterion is reduced to the constant that no node meets: its
statement asks for nodes without a primary type as a property, and so may another criterion, which
is met by nodes of the store.
-/

namespace ContentQuery

namespace Descriptor

/-- A node lies in the scope of a descriptor as in that of its request. -/
theorem acceptsPlace_eq (d : Descriptor) (n : Node) :
    d.acceptsPlace n = n.isWithin d.request.scope := by
  rw [acceptsPlace, Request.scope, request, Node.isWithin]
  cases d.basePath with
  | none => rfl
  | some base => cases hroot : Path.isRoot base <;> simp [Option.filter, hroot]

/-- Without a type that is asked for, the type of all nodes is. -/
theorem acceptsType_eq (d : Descriptor) (n : Node) :
    d.acceptsType n = (decide (d.nodeType.getD Sql2.anyType = Sql2.anyType) ||
      decide (n.entry.primaryType = d.nodeType.getD Sql2.anyType)) := by
  rw [acceptsType]
  cases d.nodeType <;> simp

end Descriptor

namespace Sql2

/-- A node meets a condition with its scope if it lies in the scope and meets the condition. -/
theorem holds_withScope (n : Node) (scope : Option String) (reduced : Reduced) :
    (withScope scope reduced).holds n = (n.isWithin scope && reduced.holds n) := by
  unfold withScope
  split
  · simp [Reduced.holds]
  · simp [Node.isWithin]
  · simp [Node.isWithin, Reduced.holds, Predicate.holds]
  · simp [Node.isWithin, Reduced.holds, Predicate.holds]
  · simp [Node.isWithin, Reduced.holds, Predicate.holds]

/-- The scope adds no operand. -/
theorem hasOperand_of_withScope {scope : Option String} {reduced : Reduced} {v : Value}
    (h : (withScope scope reduced).HasOperand v) : reduced.HasOperand v := by
  obtain ⟨q, hq, h⟩ := h
  unfold withScope at hq
  split at hq
  · cases hq
  · exact ⟨q, hq, h⟩
  · cases hq
    cases h
  · cases hq
    obtain _ | _ | ⟨-, hp, h⟩ := h
    rcases List.mem_cons.mp hp with rfl | hp
    · cases h
    · exact ⟨_, rfl, .junction .and hp h⟩
  · next p _ =>
    cases hq
    obtain _ | _ | ⟨-, hmem, h⟩ := h
    simp only [List.mem_cons, List.not_mem_nil, or_false] at hmem
    rcases hmem with rfl | rfl
    · cases h
    · exact ⟨_, rfl, h⟩

/-- The scope adds no pattern. -/
theorem patterns_withScope (scope : Option String) (reduced : Reduced) :
    (withScope scope reduced).patterns = reduced.patterns := by
  unfold withScope
  split
  · rfl
  · rfl
  · rfl
  · rfl
  · simp [Reduced.patterns, Reduced.atoms, Predicate.atoms, List.filterMap_cons,
      Predicate.pattern?]

/-- What is shown of a condition has its patterns as they are written. -/
theorem patterns_shown (reduced : Reduced) :
    (shown reduced).elim [] Condition.patterns = reduced.patterns.map Pattern.write := by
  cases reduced with
  | always | never => rfl
  | predicate p => exact p.patterns_shown

/-- Whether a node is asked for by what was read. -/
def Reading.accepts (reading : Reading) (n : Node) : Bool :=
  (reading.nodeType = anyType || n.entry.primaryType = reading.nodeType) &&
    reading.condition.all (Condition.holds n)

/-- A condition with dates of whole milliseconds that some node may meet means what is shown of
it. -/
theorem holds_of_shown (n : Node) {reduced : Reduced} (hnever : reduced ≠ .never)
    (h : ∀ v, reduced.HasOperand v → v.IsWhole) :
    (shown reduced).all (Condition.holds n) = reduced.holds n := by
  cases reduced with
  | always => rfl
  | never => exact absurd rfl hnever
  | predicate p => exact Predicate.holds_shown n fun v hv => h v ⟨p, rfl, hv⟩

/-- A descriptor of a select statement, compiled from a question that was made by a caller and has
dates of whole milliseconds only. -/
structure Compiled (criteria : Criteria) (d : Descriptor) : Prop where
  built : criteria.Built
  whole : ∀ v, criteria.criterion.HasOperand v → v.IsWhole
  compiled : ∃ (config : Config) (preferred : Option Language),
    config.compileCriteria criteria preferred = .ok d
  language : d.language = .sql2

namespace Compiled

variable {criteria other : Criteria} {d e : Descriptor}

/-- The descriptor is that of the question. -/
theorem describes (h : Compiled criteria d) :
    d.Describes criteria.criterion criteria.nodeType criteria.order := by
  obtain ⟨config, preferred, hcompile⟩ := h.compiled
  exact Config.describes_of_compileCriteria hcompile

/-- What is read from the statement. -/
theorem read?_statement (h : Compiled criteria d) :
    read? .and d.statement = some ⟨d.nodeType.getD anyType,
      shown (withScope d.request.scope d.criterion.reduce), d.order⟩ := by
  have hdescribes := h.describes
  have hstatement : statement d.request = .ok d.statement := by
    have hrendered := hdescribes.statement
    rw [h.language] at hrendered
    exact hrendered
  have hformed : d.request.criterion.reduce.WellFormed := by
    change d.criterion.reduce.WellFormed
    rw [hdescribes.criterion]
    exact h.built.criterion.wellFormed_reduce
  have hkeys : ∀ o ∈ d.request.order, o.key.Accepted := by
    change ∀ o ∈ d.order, o.key.Accepted
    rw [hdescribes.order]
    exact h.built.keys
  exact read?_of_statement .and hformed hkeys hstatement

/-- Unless no node meets the criterion, the nodes that are accepted are those that the statement
asks for. -/
theorem accepts_eq (h : Compiled criteria d) (hnever : d.criterion.reduce ≠ .never)
    {reading : Reading} (hread : read? .and d.statement = some reading) :
    d.accepts = reading.accepts := by
  rw [h.read?_statement] at hread
  cases hread
  have hwhole : ∀ v, (withScope d.request.scope d.criterion.reduce).HasOperand v → v.IsWhole := by
    intro v hv
    have hoperand := hasOperand_of_withScope hv
    rw [h.describes.criterion] at hoperand
    exact h.whole v (Criterion.HasOperand.of_reduce hoperand)
  have hscoped : withScope d.request.scope d.criterion.reduce ≠ .never := by
    unfold withScope
    split
    · next heq => exact absurd heq hnever
    · exact hnever
    · nofun
    · nofun
    · nofun
  funext n
  rw [Descriptor.accepts, Reading.accepts, holds_of_shown n hscoped hwhole, holds_withScope,
    d.acceptsPlace_eq, d.acceptsType_eq, Bool.and_comm (n.isWithin _), Bool.and_assoc]

/-- One statement has one order and the same written patterns. -/
theorem order_and_patterns_eq (h : Compiled criteria d) (h' : Compiled other e)
    (htext : d.statement = e.statement) : d.order = e.order ∧
      d.criterion.reduce.patterns.map Pattern.write =
        e.criterion.reduce.patterns.map Pattern.write := by
  have hread := h.read?_statement
  rw [htext, h'.read?_statement] at hread
  obtain ⟨-, hshown, horder⟩ := Reading.mk.inj (Option.some.inj hread)
  have hpatterns := congrArg (·.elim [] Condition.patterns) hshown
  simp only [patterns_shown, patterns_withScope] at hpatterns
  exact ⟨horder.symm, hpatterns.symm⟩

/-- Where the statement of a criterion that no node meets is that of another one, which some node
may meet, some node does. -/
theorem exists_accepted (h : Compiled criteria d) (h' : Compiled other e)
    (htext : d.statement = e.statement) (hnever : d.criterion.reduce = .never)
    (hother : e.criterion.reduce ≠ .never) :
    ∃ store : Store, store.Reachable ∧ store.nodes.filter e.accepts ≠ [] := by
  have hread := h.read?_statement
  rw [htext, hnever] at hread
  refine ⟨Store.single (d.nodeType.getD anyType), Store.reachable_single _, ?_⟩
  rw [h'.accepts_eq hother hread, ne_eq, List.filter_eq_nil_iff]
  intro hnone
  refine hnone ⟨"/a", ⟨d.nodeType.getD anyType, []⟩⟩ ?_ ?_
  · simp [Store.single, Store.nodes, Forest.nodes]
  · simp [Reading.accepts, withScope, shown, Condition.holds, Node.property?, Properties.get?]

variable {platform : Platform}

/-- Where one statement has one answer, a criterion is met by no node if another one with that
statement is. -/
theorem never_of_same (hplatform : platform.Lawful) (h : Compiled criteria d)
    (h' : Compiled other e) (htext : d.statement = e.statement)
    (hsame : ∀ store : Store, store.Reachable → ∀ (settings : SearchSettings) (runs : ℕ),
      (store.executor platform settings).execute d.withoutPaging runs =
        (store.executor platform settings).execute e.withoutPaging runs)
    (hnever : d.criterion.reduce = .never) : e.criterion.reduce = .never := by
  by_contra hother
  obtain ⟨store, hstore, haccepted⟩ := h.exists_accepted h' htext hnever hother
  have hrun := congrArg Prod.fst (hsame store hstore .standard 0)
  simp only [Store.execute_withoutPaging, SearchSettings.standard,
    Store.hits_of_never hplatform hnever] at hrun
  obtain ⟨nodes, hhits, hrows⟩ := Result.map_eq_ok.mp hrun.symm
  obtain rfl : nodes = [] := List.map_eq_nil_iff.mp (Cursor.mk.inj hrows).2
  exact haccepted (Store.perm_of_hits hplatform hhits).nil_eq.symm

/-- One statement has one answer unless one of its criteria is met by no node and the other one may
be met by some. -/
theorem hits_eq (hplatform : platform.Lawful) (h : Compiled criteria d) (h' : Compiled other e)
    (htext : d.statement = e.statement)
    (hboth : d.criterion.reduce = .never ↔ e.criterion.reduce = .never) (store : Store) :
    store.hits platform d = store.hits platform e := by
  obtain ⟨horder, hpatterns⟩ := h.order_and_patterns_eq h' htext
  by_cases hnever : d.criterion.reduce = .never
  · rw [Store.hits_of_never hplatform hnever, Store.hits_of_never hplatform (hboth.mp hnever)]
  · have hread := h.read?_statement
    have hother := fun heq => hnever (hboth.mpr heq)
    have haccepts : d.accepts = e.accepts :=
      (h.accepts_eq hnever hread).trans (h'.accepts_eq hother (htext ▸ hread)).symm
    exact Store.hits_congr (Store.found_congr hplatform.engine haccepts
      (Matcher.error?_ofReduced_congr hplatform.engine hpatterns) store) horder

end Compiled

end Sql2

/-- When the statement determines the answer. Two questions that were made by callers, with dates
of whole milliseconds, and that are compiled to the same select statement have the same answers, or
fail alike, from every executor of every store that can be reached on a lawful platform, if and only
if none or both of their criteria are reduced to the constant that no node meets. -/
theorem Sql2.same_answers_iff {platform : Platform} (hplatform : platform.Lawful)
    {criteria other : Criteria} {d e : Descriptor} (h : Compiled criteria d)
    (h' : Compiled other e) (htext : d.statement = e.statement) :
    (∀ store : Store, store.Reachable → ∀ (settings : SearchSettings) (runs : ℕ),
      (store.executor platform settings).execute d.withoutPaging runs =
        (store.executor platform settings).execute e.withoutPaging runs) ↔
      (d.criterion.reduce = .never ↔ e.criterion.reduce = .never) := by
  constructor
  · intro hsame
    exact ⟨h.never_of_same hplatform h' htext hsame, h'.never_of_same hplatform h htext.symm
      fun store hstore settings runs => (hsame store hstore settings runs).symm⟩
  · intro hboth store _ settings runs
    rw [Store.execute_withoutPaging, Store.execute_withoutPaging,
      h.hits_eq hplatform h' htext hboth]

namespace Sql2

/-- The question for what happened before a leap second. -/
def before : Criteria :=
  Criteria.empty.add (.comparison ⟨"at"⟩ .lt (.date ⟨1483228799, 1500000000⟩))

/-- The same question, negated twice. -/
def notNotBefore : Criteria :=
  Criteria.empty.add (.not (.not (.comparison ⟨"at"⟩ .lt (.date ⟨1483228799, 1500000000⟩))))

/-- The two questions are compiled to one statement and have the same answers. -/
theorem same_answers_before : ∃ d e, Compiled before d ∧ Compiled notNotBefore e ∧
    d.statement = e.statement ∧ Platform.plain.Lawful ∧
    ∀ store : Store, store.Reachable → ∀ (settings : SearchSettings) (runs : ℕ),
      (store.executor .plain settings).execute d.withoutPaging runs =
        (store.executor .plain settings).execute e.withoutPaging runs := by
  have hat : Property.Accepted ⟨"at"⟩ := ⟨"at", rfl⟩
  have hmoment : Value.InRange (.date ⟨1483228799, 1500000000⟩) := ⟨by decide, by decide⟩
  have hwhole : Value.IsWhole (.date ⟨1483228799, 1500000000⟩) := ⟨by decide, fun _ => by decide⟩
  have hcomparison : Criterion.Built
      (.comparison ⟨"at"⟩ .lt (.date ⟨1483228799, 1500000000⟩)) := .comparison hat hmoment rfl
  obtain ⟨d, hd⟩ : ∃ d, Config.standard.compileCriteria before none = .ok d := ⟨_, rfl⟩
  obtain ⟨e, he⟩ : ∃ e, Config.standard.compileCriteria notNotBefore none = .ok e := ⟨_, rfl⟩
  have hbefore : Compiled before d := by
    refine ⟨Criteria.built_empty.add hcomparison, fun v hv => ?_, ⟨_, _, hd⟩, ?_⟩
    · obtain _ | _ | _ | _ | ⟨-, hc, hv⟩ := hv
      obtain rfl := List.mem_singleton.mp hc
      cases hv
      exact hwhole
    · cases hd
      rfl
  have hnotNot : Compiled notNotBefore e := by
    refine ⟨Criteria.built_empty.add hcomparison.not.not, fun v hv => ?_, ⟨_, _, he⟩, ?_⟩
    · obtain _ | _ | _ | _ | ⟨-, hc, hv⟩ := hv
      obtain rfl := List.mem_singleton.mp hc
      obtain _ | _ | _ | hv | _ := hv
      obtain _ | _ | _ | hv | _ := hv
      cases hv
      exact hwhole
    · cases he
      rfl
  have htext : d.statement = e.statement := by
    cases hd
    cases he
    rfl
  have hnever : d.criterion.reduce = .never ↔ e.criterion.reduce = .never := by
    cases hd
    cases he
    exact Iff.rfl
  exact ⟨d, e, hbefore, hnotNot, htext, Platform.lawful_plain,
    (same_answers_iff Platform.lawful_plain hbefore hnotNot htext).mpr hnever⟩

/-- The question for nothing. -/
def nothing : Criteria := Criteria.empty.add (.junction .or [])

/-- The question for nodes without a primary type. -/
def untyped : Criteria := Criteria.empty.add (.presence ⟨"jcr:primaryType"⟩ false)

/-- The two questions are compiled to one statement. On every platform the empty store has no row
for the first one and its root for the second. -/
theorem answers_differ : ∃ d e, Compiled nothing d ∧ Compiled untyped e ∧
    d.statement = e.statement ∧ Store.empty.Reachable ∧ ∀ platform : Platform,
      (Store.empty.executor platform .standard).execute d.withoutPaging 0 = (.ok ⟨none, []⟩, 1) ∧
      (Store.empty.executor platform .standard).execute e.withoutPaging 0 =
        (.ok ⟨none, [.ok ⟨⟨"/", ⟨"nt:unstructured", []⟩⟩, .ofInt 1⟩]⟩, 1) := by
  have htype : Property.Accepted ⟨"jcr:primaryType"⟩ := ⟨"jcr:primaryType", rfl⟩
  obtain ⟨d, hd⟩ : ∃ d, Config.standard.compileCriteria nothing none = .ok d := ⟨_, rfl⟩
  obtain ⟨e, he⟩ : ∃ e, Config.standard.compileCriteria untyped none = .ok e := ⟨_, rfl⟩
  refine ⟨d, e,
    ⟨Criteria.built_empty.add (.junction .or (by simp)), fun v hv => ?_, ⟨_, _, hd⟩, ?_⟩,
    ⟨Criteria.built_empty.add (.presence htype rfl), fun v hv => ?_, ⟨_, _, he⟩, ?_⟩, ?_, .empty,
    fun platform => ⟨?_, ?_⟩⟩
  · obtain _ | _ | _ | _ | ⟨-, hc, hv⟩ := hv
    obtain rfl := List.mem_singleton.mp hc
    obtain _ | _ | _ | _ | ⟨-, hc, hv⟩ := hv
    cases hc
  · cases hd
    rfl
  · obtain _ | _ | _ | _ | ⟨-, hc, hv⟩ := hv
    obtain rfl := List.mem_singleton.mp hc
    cases hv
  · cases he
    rfl
  · cases hd
    cases he
    rfl
  · cases hd
    rfl
  · cases he
    rfl

end Sql2

end ContentQuery
