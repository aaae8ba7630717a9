import ContentQuery.Proofs.Repository.Selection
import ContentQuery.Proofs.Statement.Fault

/-!
# Criteria in another order

All criteria of a question have to be met, so that their order is not to matter. It shows in the
text of a statement, but neither in whether there is a statement nor in any answer of a store.
-/

namespace ContentQuery

/-- Clauses in another order leave the same condition but for the order of its parts. -/
theorem Criterion.shuffled_junction (k : Connective) {clauses others : List Criterion}
    (h : clauses.Perm others) :
    (junction k clauses).reduce.Shuffled (junction k others).reduce := by
  rw [reduce, reduce, reduceAll_eq, reduceAll_eq]
  exact Reduced.shuffled_join k (h.map reduce)

section Shuffled

variable (r : Request) {c other : Criterion} (h : c.reduce.Shuffled other.reduce)

include h

/-- The filters of two such conditions are the same but for the order of their parts. -/
theorem XPath.shuffled_filter :
    (scopeAndFilter { r with criterion := c }).2.Shuffled
      (scopeAndFilter { r with criterion := other }).2 := by
  have hscope (criterion : Criterion) :
      Request.scope { r with criterion := criterion } = r.scope := rfl
  rw [scopeAndFilter, scopeAndFilter, hscope c, hscope other]
  cases r.scope with
  | some base => exact h
  | none => exact (shuffled_splitScope h).2

/-- Both of them have a statement, or neither has. -/
theorem Request.exists_statement_iff_of_shuffled (language : Language) :
    (∃ text, statement language { r with criterion := c } = .ok text) ↔
      ∃ text, statement language { r with criterion := other } = .ok text := by
  have htype : checkedType { r with criterion := c } = checkedType { r with criterion := other } :=
    rfl
  cases language with
  | xpath =>
    have hatoms := (XPath.shuffled_filter r h).atoms_perm
    simp only [statement, XPath.exists_statement_iff, htype, hatoms.mem_iff]
  | sql2 => simp only [statement, Sql2.exists_statement_iff, htype, h.atoms_perm.mem_iff]
  | unspecified => exact Iff.rfl

end Shuffled

/-- A question compiles if its base path has a normal form and there is a statement. -/
theorem Config.exists_compileCriteria_iff (config : Config) (criteria : Criteria)
    (preferred : Option Language) :
    (∃ d, config.compileCriteria criteria preferred = .ok d) ↔
      ∃ base, checkedBase criteria.basePath = .ok base ∧ ∃ text,
        Request.statement (config.resolve (config.resolve criteria.language preferred) none)
          ⟨criteria.criterion, base, criteria.nodeType, criteria.order⟩ = .ok text := by
  rw [← Result.error?_eq_none, ← Result.error?_map _ (·.statement), statement_compileCriteria,
    Result.error?_eq_none]
  constructor
  · rintro ⟨text, h⟩
    obtain ⟨base, hbase, htext⟩ := Result.bind_eq_ok.mp h
    exact ⟨base, hbase, text, htext⟩
  · rintro ⟨base, hbase, text, htext⟩
    exact ⟨text, Result.bind_eq_ok.mpr ⟨base, hbase, htext⟩⟩

namespace Criteria

variable {clauses others : List Criterion}

/-- Whether a question compiles does not depend on the order of its criteria. -/
theorem exists_compile_iff_of_perm (criteria : Criteria) (h : clauses.Perm others)
    (config : Config) (preferred : Option Language) :
    (∃ d, config.compileCriteria { criteria with all := clauses } preferred = .ok d) ↔
      ∃ e, config.compileCriteria { criteria with all := others } preferred = .ok e := by
  rw [Config.exists_compileCriteria_iff, Config.exists_compileCriteria_iff]
  refine exists_congr fun base => and_congr_right fun _ => ?_
  exact Request.exists_statement_iff_of_shuffled
    ⟨.junction .and clauses, base, criteria.nodeType, criteria.order⟩
    (Criterion.shuffled_junction .and h) _

/-- What both are compiled to has the same hits, or none where the engine refuses a pattern. -/
theorem hits_eq_or_refused (criteria : Criteria) (h : clauses.Perm others) {config config' : Config}
    {preferred preferred' : Option Language} {d e : Descriptor}
    (hd : config.compileCriteria { criteria with all := clauses } preferred = .ok d)
    (he : config'.compileCriteria { criteria with all := others } preferred' = .ok e)
    (store : Store) (platform : Platform) :
    store.hits platform d = store.hits platform e ∨
      ¬ platform.engine.Compiles d.criterion.reduce ∧ ∃ why why',
        store.hits platform d = .error (.internal why) ∧
        store.hits platform e = .error (.internal why') := by
  have hdescribes := Config.describes_of_compileCriteria hd
  have hother := Config.describes_of_compileCriteria he
  obtain ⟨-, -, hbase⟩ := Config.page_of_compileCriteria hd
  obtain ⟨-, -, hotherBase⟩ := Config.page_of_compileCriteria he
  have hscope : d.basePath = e.basePath := Except.ok.inj (hbase.symm.trans hotherBase)
  have hshuffled : d.criterion.reduce.Shuffled e.criterion.reduce := by
    rw [hdescribes.criterion, hother.criterion]
    exact Criterion.shuffled_junction .and h
  by_cases hcompiles : platform.engine.Compiles d.criterion.reduce
  · obtain ⟨holds, htest⟩ := (Matcher.exists_test_iff _).mpr hcompiles
    have hfound := Store.found_congr_of_test hscope
      (hdescribes.nodeType.trans hother.nodeType.symm)
      (htest.trans (Matcher.test_of_shuffled hshuffled htest).symm) store
    exact .inl (Store.hits_congr hfound (hdescribes.order.trans hother.order.symm))
  · have hrefused : ¬ platform.engine.Compiles e.criterion.reduce := by
      rw [← Matcher.exists_test_iff] at hcompiles ⊢
      exact fun ⟨holds, htest⟩ => hcompiles ⟨holds, Matcher.test_of_shuffled hshuffled.symm htest⟩
    obtain ⟨-, -, why, -, hwhy⟩ := Store.exists_hits_eq_error hcompiles store
    obtain ⟨-, -, why', -, hwhy'⟩ := Store.exists_hits_eq_error hrefused store
    exact .inr ⟨hcompiles, why, why', hwhy, hwhy'⟩

/-- The order in which criteria are added does not matter. In whatever language a question is asked,
it compiles exactly if it does with its criteria in another order. And what both are compiled to,
under any settings and for any executor on any platform, has the same answers of every store: the
same rows in the same order and the same number of all matches, or the same failure. Only where the
engine refuses a pattern, and so neither has rows, they may fail over different patterns. -/
theorem clause_order_irrelevant (criteria : Criteria) (h : clauses.Perm others) :
    (∀ (language : Language) (config : Config) (preferred : Option Language),
      (∃ d, config.compileCriteria { criteria with language := language, all := clauses }
        preferred = .ok d) ↔
      ∃ e, config.compileCriteria { criteria with language := language, all := others }
        preferred = .ok e) ∧
    ∀ (config config' : Config) (preferred preferred' : Option Language) (d e : Descriptor),
      config.compileCriteria { criteria with all := clauses } preferred = .ok d →
      config'.compileCriteria { criteria with all := others } preferred' = .ok e →
      ∀ (store : Store) (platform : Platform) (settings : SearchSettings) (runs : ℕ),
        let executor := store.executor platform settings
        executor.execute d runs = executor.execute e runs ∨
          ¬ platform.engine.Compiles d.criterion.reduce ∧ ∃ why why',
            executor.execute d runs = (.error (.internal why), runs + 1) ∧
            executor.execute e runs = (.error (.internal why'), runs + 1) := by
  refine ⟨fun language => exists_compile_iff_of_perm (criteria.withLanguage language) h,
    fun config config' preferred preferred' d e hd he store platform settings runs => ?_⟩
  obtain ⟨hoffset, hlimit, -⟩ := Config.page_of_compileCriteria hd
  obtain ⟨hoffset', hlimit', -⟩ := Config.page_of_compileCriteria he
  rcases criteria.hits_eq_or_refused h hd he store platform with
    hhits | ⟨hrefused, why, why', hwhy, hwhy'⟩
  · exact .inl (Store.execute_congr hhits (hoffset.trans hoffset'.symm) (hlimit.trans hlimit'.symm)
      settings runs)
  · cases hfailure : settings.failure with
    | some text => exact .inl (by simp only [Store.executor, Store.search, hfailure])
    | none =>
      refine .inr ⟨hrefused, why, why', ?_, ?_⟩
      · simp only [Store.executor, Store.search, hfailure, hwhy]
        rfl
      · simp only [Store.executor, Store.search, hfailure, hwhy']
        rfl

/-- Criteria of which one becomes the scope of a location path and another one says nothing. -/
def titledBelow : List Criterion :=
  [.presence ⟨"title"⟩ true, .junction .and [], .descendantOf "/content",
    .comparison ⟨"views"⟩ .lt (.long 3)]

/-- From the last criterion to the first the location path reads differently, and has the same
answers on every platform. -/
theorem clause_order_titledBelow : titledBelow.Perm titledBelow.reverse ∧ ∃ d e,
    Config.standard.compileCriteria { empty with language := .xpath, all := titledBelow } none =
      .ok d ∧
    Config.standard.compileCriteria
      { empty with language := .xpath, all := titledBelow.reverse } none = .ok e ∧
    d.statement = "/jcr:root/content//*[@title and @views < 3]" ∧
    e.statement = "/jcr:root/content//*[@views < 3 and @title]" ∧
    ∀ (store : Store) (platform : Platform) (settings : SearchSettings) (runs : ℕ),
      (store.executor platform settings).execute d runs =
        (store.executor platform settings).execute e runs := by
  have hperm : titledBelow.Perm titledBelow.reverse := titledBelow.reverse_perm.symm
  obtain ⟨hcompiles, hanswers⟩ := clause_order_irrelevant (empty.withLanguage .xpath) hperm
  obtain ⟨d, hd⟩ : ∃ d, Config.standard.compileCriteria
    { empty with language := .xpath, all := titledBelow } none = .ok d := ⟨_, rfl⟩
  obtain ⟨e, he⟩ := (hcompiles .xpath .standard none).mp ⟨d, hd⟩
  have hcompiles (engine : ExpressionEngine) : engine.Compiles d.criterion.reduce := by
    cases hd
    exact nofun
  refine ⟨hperm, d, e, hd, he, ?_, ?_, fun store platform settings runs => ?_⟩
  · cases hd
    rfl
  · cases he
    rfl
  · rcases hanswers _ _ _ _ d e hd he store platform settings runs with hsame | ⟨hrefused, -⟩
    · exact hsame
    · exact absurd (hcompiles platform.engine) hrefused

end Criteria

end ContentQuery
