import ContentQuery.Proofs.Execution.Session
import Mathlib.Order.Bounds.Basic

/-!
# Totals and page numbers

The total of a question to a store is the number of nodes that it selects, whether the first cursor
knows it or it is counted. The number of pages is the least that holds the total; the rows of every
page, and its place among all pages, are in accord with it.
-/

namespace ContentQuery

/-- As many pages as hold a total are the least such number. -/
theorem isLeast_pages {n : ℕ} (hn : 0 < n) (total : ℕ) :
    IsLeast {k | total ≤ k * n} ((total + n - 1) / n) := by
  constructor
  · have hsplit := Nat.div_add_mod (total + n - 1) n
    have hrest := Nat.mod_lt (total + n - 1) hn
    rw [Nat.mul_comm] at hsplit
    change total ≤ (total + n - 1) / n * n
    omega
  · intro k hk
    have hk : total ≤ k * n := hk
    rw [Nat.div_le_iff_le_mul_add_pred hn, Nat.mul_comm]
    omega

namespace Criteria

variable {α : Type} {criteria : Criteria}

/-- A page that is not bounded has all rows but those that are skipped. -/
theorem length_pageOf_of_unbounded (h : criteria.maxResults = none ∨ criteria.maxResults = some 0)
    (all : List α) : (criteria.pageOf all).length = all.length - criteria.offset := by
  rcases h with h | h <;> simp [pageOf, h]

/-- A bounded page has as many rows as are left, up to its size. -/
theorem length_pageOf_of_bounded {n : ℕ} (hn : 0 < n) (h : criteria.maxResults = some n)
    (all : List α) : (criteria.pageOf all).length = min n (all.length - criteria.offset) := by
  obtain ⟨m, rfl⟩ := Nat.exists_eq_succ_of_ne_zero hn.ne'
  simp [pageOf, h]

end Criteria

/-- Counting rows without failures finds their number. -/
theorem Paged.countRows_ok {σ : Type} (e : Executor σ) (rows : List Row) (s : σ) :
    (countRows e (rows.map .ok) s).1 = .ok rows.length := by
  induction rows generalizing s with
  | nil => rfl
  | cons row rest ih =>
    have hrest := ih (e.asked s)
    rw [List.map_cons, countRows]
    rcases hcount : countRows e (rest.map .ok) (e.asked s) with ⟨n, next⟩
    rw [hcount] at hrest
    cases hrest
    rfl

namespace Store

variable {store : Store} {platform : Platform} {settings : SearchSettings} {config : Config}
  {criteria : Criteria} {d : Descriptor} {all : List Row}

/-- The order and the page have no part in what is selected. -/
theorem total_of_page (store : Store) (criteria : Criteria) (offset : ℕ) (maxResults : Option ℕ)
    (order : List Order) :
    store.total { criteria with offset := offset, maxResults := maxResults, order := order } =
      store.total criteria := by
  have hselects (n : Node) : Criteria.Selects { criteria with
      offset := offset, maxResults := maxResults, order := order } n ↔ criteria.Selects n :=
    ⟨fun h => ⟨h.place, h.type, h.clauses⟩, fun h => ⟨h.place, h.type, h.clauses⟩⟩
  simp only [total, hselects]

/-- Where there are rows, counting finds as many. There is nothing to sort when rows are counted. -/
theorem exists_answers_counting (hplatform : platform.Lawful)
    (hall : store.answers platform d = .ok all) (statement : String) :
    ∃ counted, store.answers platform (d.counting statement) = .ok counted ∧
      counted.length = all.length := by
  obtain ⟨nodes, hhits, rfl⟩ := Result.map_eq_ok.mp hall
  obtain ⟨found, hfound, hperm⟩ := exists_found_of_hits hplatform hhits
  have hcounted : store.hits platform (d.counting statement) = .ok found :=
    (hits_of_order_nil rfl).trans hfound
  refine ⟨_, Result.map_eq_ok.mpr ⟨found, hcounted, rfl⟩, ?_⟩
  rw [List.length_map, List.length_map, hperm.length_eq]

/-- The total that is found is the number of all rows, whether it is known or counted. -/
theorem findTotal_firstPage (hplatform : platform.Lawful) (h : settings.failure = none)
    (hall : store.answers platform d = .ok all) (statement : String) (s : ℕ) :
    ((firstPage settings d (d.counting statement) all).findTotal
      (store.executor platform settings) s).1 = .ok all.length := by
  have hnative : (firstPage settings d (d.counting statement) all).nativeSize =
      if settings.nativeSize then some all.length else none := rfl
  have hcount : (firstPage settings d (d.counting statement) all).countQuery =
      d.counting statement := rfl
  obtain ⟨counted, hcounted, hlength⟩ := exists_answers_counting hplatform hall statement
  rw [Paged.findTotal, hnative, hcount, execute_eq h, hcounted]
  cases hsize : settings.nativeSize with
  | true => rfl
  | false =>
    have hrows : cursorOf settings (d.counting statement) counted =
        ⟨none, counted.map .ok⟩ := by
      rw [cursorOf, hsize]
      cases settings.paging <;> rfl
    simp only [Except.map, hrows, ← hlength]
    exact Paged.countRows_ok _ _ _

/-- The number of all rows is the number of nodes that the question selects. -/
theorem length_of_answers (h : store.Reachable) (hplatform : platform.Lawful)
    {preferred : Option Language} (hcompile : config.compileCriteria criteria preferred = .ok d)
    (hall : store.answers platform d = .ok all) : all.length = store.total criteria := by
  obtain ⟨nodes, hhits, rfl⟩ := Result.map_eq_ok.mp hall
  rw [List.length_map, length_of_hits h hplatform hcompile hhits]

/-- Pages of one size that hold all rows are none of them empty, and have as many rows in sum. -/
theorem exists_pages (h : settings.failure = none)
    (hcompile : config.compileCriteria criteria settings.preferred = .ok d)
    (hall : store.answers platform d = .ok all) {n pages : ℕ} (hn : 0 < n)
    (hpages : IsLeast {k | all.length ≤ k * n} pages) (states : ℕ → ℕ) :
    ∃ shown : List (List Row),
      ((List.range pages).mapM fun i =>
        (Session.mk (store.executor platform settings) config).rowsOf
          ((criteria.skip (i * n)).atMost n) (states i)) = .ok shown ∧
      (∀ rows ∈ shown, rows ≠ []) ∧ (shown.map List.length).sum = all.length := by
  refine ⟨_, mapM_rowsOf h hcompile hall hn pages states, fun rows hrows => ?_, ?_⟩
  · obtain ⟨i, hi, rfl⟩ := List.mem_map.mp hrows
    -- A page that begins behind the end would make fewer pages do.
    have hstarts : ¬ all.length ≤ i * n := fun hle =>
      absurd (hpages.2 hle) (not_le.mpr (List.mem_range.mp hi))
    rw [← List.length_pos_iff_ne_nil, window, List.length_take, List.length_drop]
    omega
  · rw [← List.length_flatten, flatten_windows, List.take_of_length_le hpages.1]

end Store

/-- Totals and page numbers of a question to a store that can be reached, on a lawful platform,
whose executor does not fail by itself. The order and the page have nothing to do with the number of
stored nodes that the question selects. If the question is answered, and it is if it can be, this
number is the total at any time. Readers are given as many rows as the page has left. Once the total
is known, a page without a bound is the only one, if there is any row; with a bound there are as
many pages as hold the total and no more, and all of them have rows, as many in sum as the total.
The page is one of them if it begins before the end. Only its number is a word: behind the last
offset of all, on pages of one row, it begins again with zero. -/
theorem Session.totals_agree {store : Store} (h : store.Reachable) {platform : Platform}
    (hplatform : platform.Lawful) {config : Config} {criteria : Criteria}
    {settings : SearchSettings} {d : Descriptor}
    (hcompile : config.compileCriteria criteria settings.preferred = .ok d)
    (hfailure : settings.failure = none) :
    let session : Session ℕ := ⟨store.executor platform settings, config⟩
    let total := store.total criteria
    (∀ offset maxResults order, store.total
      { criteria with offset := offset, maxResults := maxResults, order := order } = total) ∧
    ((∃ e, ¬ criteria.Answerable store platform ∧
      ∀ s, session.execute criteria s = (.error e, s + 1)) ∨
    ∃ start, (∀ s, session.execute criteria s = (.ok start, s + 1)) ∧
      ∀ visits, let past := start.history session.executor visits
        let p := past.page
        (∀ s, (p.totalSize session.executor s).1 = .ok total ∧
          (p.totalSize session.executor s).2.1.isDetermined = true) ∧
        (past.readers = 0 ∨ settings.requery = true → ∀ s, ∃ items rows,
          (p.items session.executor s).1 = .ok items ∧
          (∀ s, (items.toRows session.executor s).1 = .ok rows) ∧
          (criteria.maxResults = none ∨ criteria.maxResults = some 0 →
            rows.length = total - criteria.offset) ∧
          ∀ n, 0 < n → criteria.maxResults = some n →
            rows.length = min n (total - criteria.offset)) ∧
        (p.isDetermined = true →
          (criteria.maxResults = none ∨ criteria.maxResults = some 0 →
            p.page = .ok 1 ∧ p.pages = .ok (if 0 < total then 1 else 0)) ∧
          ∀ n, 0 < n → criteria.maxResults = some n → ∃ number pages,
            p.page = .ok number ∧ p.pages = .ok pages ∧
            IsLeast {k | total ≤ k * n} pages ∧
            (criteria.offset < UInt64.size →
              ¬ (criteria.offset = UInt64.size - 1 ∧ n = 1) →
              criteria.offset < total → 1 ≤ number ∧ number ≤ pages) ∧
            ∀ states : ℕ → ℕ, ∃ shown : List (List Row),
              ((List.range pages).mapM fun i =>
                session.rowsOf ((criteria.skip (i * n)).atMost n) (states i)) = .ok shown ∧
              (∀ rows ∈ shown, rows ≠ []) ∧ (shown.map List.length).sum = total)) := by
  intro session total
  obtain ⟨statement, -, hexecute⟩ := Store.execute_session hfailure store platform hcompile
  refine ⟨store.total_of_page criteria, ?_⟩
  cases hall : store.answers platform d with
  | error e =>
    refine .inl ⟨e, fun hanswerable => ?_, fun s => ?_⟩
    · obtain ⟨all, hsome⟩ := Store.exists_answers h hplatform hanswerable hcompile
      rw [hall] at hsome
      cases hsome
    · rw [hexecute, hall]
      rfl
  | ok all =>
    rw [hall] at hexecute
    refine .inr ⟨_, hexecute, fun visits => ?_⟩
    intro past p
    have hlength : all.length = total := Store.length_of_answers h hplatform hcompile hall
    have hpage : p = _ :=
      Store.page_history_firstPage store platform hcompile (d.counting statement) all visits
    obtain ⟨hpast, htotal⟩ := Paged.total_history rfl
      (Store.findTotal_firstPage hplatform hfailure hall statement) visits
    rw [hlength] at hpast htotal
    have hknown (hdetermined : p.isDetermined = true) : p.total = some total := by
      have hsome : past.total?.isSome = true := by
        rw [Paged.isDetermined, hpage] at hdetermined
        exact hdetermined
      rcases hpast with hnone | hfound
      · rw [show past.total? = none from hnone] at hsome
        cases hsome
      · rw [hpage]
        exact hfound
    refine ⟨fun s => ⟨htotal s, p.isDetermined_totalSize _ s (htotal s)⟩, fun hmay s => ?_,
      fun hdetermined => ⟨fun hbound => ?_, fun n hn hbound => ?_⟩⟩
    · obtain ⟨rows, skip, remaining, hitems, hwindow⟩ :=
        Store.exists_items_history hfailure hcompile hall (d.counting statement) visits hmay s
      refine ⟨_, criteria.pageOf all, hitems, fun s => ?_, fun hbound => ?_, fun n hn hbound => ?_⟩
      · rw [Items.toRows_ofRows, hwindow]
      · rw [Criteria.length_pageOf_of_unbounded hbound, hlength]
      · rw [Criteria.length_pageOf_of_bounded hn hbound, hlength]
    · have hsize : p.perPage = none := by
        rw [hpage]
        rcases hbound with hbound | hbound <;> simp [Criteria.pageSize, hbound]
      exact ⟨by rw [Paged.page, hknown hdetermined, hsize],
        by rw [Paged.pages, hknown hdetermined, hsize]⟩
    · have hsize : p.perPage = some n := by
        rw [hpage]
        simp [Criteria.pageSize, hbound, hn]
      have hoffset : p.offset = criteria.offset := by rw [hpage]
      obtain ⟨⟨number, hnumber⟩, -⟩ := p.exists_page_of_total (hknown hdetermined)
      have hleast := isLeast_pages hn total
      refine ⟨number, (total + n - 1) / n, hnumber, ?_, hleast, fun hword hlast hinside => ?_,
        fun states => ?_⟩
      · rw [Paged.pages, hknown hdetermined, hsize]
      · rw [p.page_of_bounded (hknown hdetermined) hsize hn (by rw [hoffset]; exact hword), hoffset,
          if_neg hlast] at hnumber
        obtain rfl := Except.ok.inj hnumber
        have hbefore : criteria.offset < (total + n - 1) / n * n := hinside.trans_le hleast.1
        exact ⟨Nat.le_add_left 1 _, (Nat.div_lt_iff_lt_mul hn).mpr hbefore⟩
      · rw [← hlength] at hleast ⊢
        exact Store.exists_pages hfailure hcompile hall hn hleast states

/-- The store of the root and one node has two pages of one row, of which the page that skips the
root is the second. -/
theorem Session.totals_agree_single : (Store.single "cq:Page").Reachable ∧ Platform.plain.Lawful ∧
    (Store.single "cq:Page").total ((Criteria.empty.skip 1).atMost 1) = 2 ∧
    ∃ start,
      (Session.mk ((Store.single "cq:Page").executor .plain .standard) .standard).execute
        ((Criteria.empty.skip 1).atMost 1) 0 = (.ok start, 1) ∧
      (start.history ((Store.single "cq:Page").executor .plain .standard)
        [(.totalSize, 1)]).page.page = .ok 2 ∧
      (start.history ((Store.single "cq:Page").executor .plain .standard)
        [(.totalSize, 1)]).page.pages = .ok 2 := by
  have hreachable := Store.reachable_single "cq:Page"
  obtain ⟨d, hd⟩ : ∃ d, Config.standard.compileCriteria ((Criteria.empty.skip 1).atMost 1)
      SearchSettings.standard.preferred = .ok d := ⟨_, rfl⟩
  obtain ⟨-, ⟨e, -, hfails⟩ | ⟨start, hstart, hvisits⟩⟩ :=
    totals_agree hreachable Platform.lawful_plain hd rfl
  · cases congrArg Prod.fst (hfails 0)
  obtain rfl := Except.ok.inj (congrArg Prod.fst (hstart 0))
  obtain ⟨htotal, -, -⟩ := hvisits [(.totalSize, 1)]
  exact ⟨hreachable, Platform.lawful_plain, (Except.ok.inj (htotal 1).1).symm, _, hstart 0, rfl,
    rfl⟩

end ContentQuery
