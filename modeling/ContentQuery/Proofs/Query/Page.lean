import ContentQuery.Proofs.Query.Compiler

/-!
# Pages and counts of compiled questions

The page is no part of a statement: a question that compiles does so with any page, and to the same
statement. The order is a clause at its end, which cannot fail, so that what compiles can be counted
by the same statement without that clause.
-/

namespace ContentQuery

/-- A location path is the one without an order with the clause of the order behind it. -/
theorem XPath.statement_order (r : Request) :
    statement r = (statement { r with order := [] }).map (· ++ orderClause r.order) := by
  have htype : Request.checkedType { r with order := [] } = r.checkedType := rfl
  have hscope : scopeAndFilter { r with order := [] } = scopeAndFilter r := rfl
  rw [statement, statement, htype, hscope]
  cases r.checkedType with
  | error e => rfl
  | ok type =>
    simp only [bind, Except.bind]
    cases filterClause (scopeAndFilter r).2 with
    | error e => rfl
    | ok clause => simp [pure, Except.pure, Except.map, orderClause]

/-- A select statement is the one without an order with the clause of the order behind it. -/
theorem Sql2.statement_order (r : Request) :
    statement r = (statement { r with order := [] }).map (· ++ orderClause r.order) := by
  have htype : Request.checkedType { r with order := [] } = r.checkedType := rfl
  have hscope : Request.scope { r with order := [] } = r.scope := rfl
  rw [statement, statement, htype, hscope]
  cases r.checkedType with
  | error e => rfl
  | ok type =>
    simp only [bind, Except.bind]
    cases whereClause (withScope r.scope r.criterion.reduce) with
    | error e => rfl
    | ok condition => simp [pure, Except.pure, Except.map, orderClause]

namespace Request

/-- The clause of an order in a language. -/
def orderClause (language : Language) (order : List Order) : String :=
  match language with
  | .xpath => XPath.orderClause order
  | .sql2 => Sql2.orderClause order
  | .unspecified => ""

/-- A statement is the one without an order with the clause of the order behind it. -/
theorem statement_order (language : Language) (r : Request) :
    statement language r =
      (statement language { r with order := [] }).map (· ++ orderClause language r.order) := by
  cases language with
  | xpath => exact XPath.statement_order r
  | sql2 => exact Sql2.statement_order r
  | unspecified => rfl

/-- In either language only the empty order has an empty clause. -/
theorem orderClause_eq_empty_iff {language : Language} (h : language ≠ .unspecified)
    (order : List Order) : orderClause language order = "" ↔ order = [] := by
  cases order with
  | nil => cases language <;> simp [orderClause, XPath.orderClause, Sql2.orderClause]
  | cons o rest =>
    cases language with
    | xpath => simp [orderClause, XPath.orderClause]
    | sql2 => simp [orderClause, Sql2.orderClause]
    | unspecified => exact absurd rfl h

end Request

namespace Descriptor

/-- The descriptor without order and page, for a statement that counts all matches. -/
def counting (d : Descriptor) (statement : String) : Descriptor :=
  { d with statement := statement, order := [], offset := 0, limit := none }

/-- What has a statement can be counted, by that statement without the clause of its order. -/
theorem exists_countQuery {d : Descriptor}
    (h : Request.statement d.language d.request = .ok d.statement) :
    ∃ text, d.countQuery = .ok (d.counting text) ∧
      Request.statement d.language { d.request with order := [] } = .ok text ∧
      d.statement = text ++ Request.orderClause d.language d.order := by
  rw [Request.statement_order] at h
  obtain ⟨text, htext, happend⟩ := Result.map_eq_ok.mp h
  refine ⟨text, ?_, htext, happend.symm⟩
  rw [countQuery, htext]
  rfl

end Descriptor

namespace Config

variable {config : Config} {criteria : Criteria} {preferred : Option Language} {d : Descriptor}

/-- A compiled question has the page that was asked for, and its base path in normal form. -/
theorem page_of_compileCriteria (h : config.compileCriteria criteria preferred = .ok d) :
    d.offset = criteria.offset ∧ d.limit = criteria.pageSize ∧
      checkedBase criteria.basePath = .ok d.basePath := by
  obtain ⟨inner, hinner, h⟩ := Result.bind_eq_ok.mp h
  obtain ⟨base, hbase, hinner⟩ := Result.bind_eq_ok.mp hinner
  obtain ⟨statement, -, hinner⟩ := Result.bind_eq_ok.mp hinner
  cases hinner
  cases h
  refine ⟨rfl, ?_, hbase⟩
  simp [Descriptor.withLimit, Criteria.pageSize, Option.filter_filter]

/-- A question that compiles does so with every other page. -/
theorem compileCriteria_page (h : config.compileCriteria criteria preferred = .ok d) (offset : ℕ)
    (maxResults : Option ℕ) :
    config.compileCriteria { criteria with offset := offset, maxResults := maxResults } preferred =
      .ok { d with offset := offset, limit := maxResults.filter (0 < ·) } := by
  obtain ⟨inner, hinner, h⟩ := Result.bind_eq_ok.mp h
  cases h
  refine Result.bind_eq_ok.mpr ⟨inner, hinner, ?_⟩
  simp only [Descriptor.withLimit, Criteria.pageSize, Option.filter_filter, Bool.and_self]
  rfl

/-- A compiled question is counted by a question for the same nodes. It can always be counted, and
its statement is that of the count with the clause of its order behind it and nothing else; both are
the same exactly if there is no order. The count keeps the language that was asked for and the one
that was decided on, the base path, the type and the criterion, and has no order and no page. So the
count of a count is that count itself. -/
theorem counts_same_question (h : config.compileCriteria criteria preferred = .ok d) :
    ∃ count, d.countQuery = .ok count ∧
      d.statement = count.statement ++ Request.orderClause d.language d.order ∧
      (d.statement = count.statement ↔ d.order = []) ∧
      (count.requestedLanguage = d.requestedLanguage ∧ count.language = d.language ∧
        count.basePath = d.basePath ∧ count.nodeType = d.nodeType ∧
        count.criterion = d.criterion) ∧
      (count.order = [] ∧ count.offset = 0 ∧ count.limit = none) ∧
      count.countQuery = .ok count := by
  have hstatement := (describes_of_compileCriteria h).statement
  obtain ⟨text, hcount, htext, happend⟩ := Descriptor.exists_countQuery hstatement
  have hlanguage : d.language ≠ .unspecified := by
    intro hopen
    rw [hopen] at hstatement
    cases hstatement
  have hsame : d.statement = text ↔ d.order = [] := by
    rw [happend, String.append_eq_left_iff, Request.orderClause_eq_empty_iff hlanguage]
  obtain ⟨again, hagain, htextAgain, -⟩ :=
    Descriptor.exists_countQuery (d := d.counting text) htext
  obtain rfl : text = again := Except.ok.inj (htext.symm.trans htextAgain)
  exact ⟨d.counting text, hcount, happend, hsame, ⟨rfl, rfl, rfl, rfl, rfl⟩, ⟨rfl, rfl, rfl⟩, hagain⟩

/-- The second page of pages below a path, the last changed ones first. -/
def lastChanged : Criteria :=
  (((((Criteria.empty.withLanguage .xpath).below "/content/").ofType "cq:Page").add
    (.presence ⟨"title"⟩ true)).orderBy ⟨.property ⟨"changed"⟩, .descending⟩).skip 5 |>.atMost 5

/-- The question is counted by its location path without the order, and so is the count. -/
theorem counts_lastChanged : ∃ d count, standard.compileCriteria lastChanged none = .ok d ∧
    d.statement = "/jcr:root/content//element(*, cq:Page)[@title] order by @changed descending" ∧
    d.countQuery = .ok count ∧
    count.statement = "/jcr:root/content//element(*, cq:Page)[@title]" ∧
    count.countQuery = .ok count := by
  obtain ⟨d, hd⟩ : ∃ d, standard.compileCriteria lastChanged none = .ok d := ⟨_, rfl⟩
  obtain ⟨count, hcount, -, -, -, -, hagain⟩ := counts_same_question hd
  refine ⟨d, count, hd, ?_, hcount, ?_, hagain⟩
  · cases hd
    rfl
  · cases hd
    cases hcount
    rfl

end Config

end ContentQuery
