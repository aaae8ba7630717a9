import ContentQuery.Execution.Session
import ContentQuery.Proofs.Execution.History
import ContentQuery.Proofs.Execution.Rows
import ContentQuery.Proofs.Repository.Selection
import ContentQuery.Proofs.Repository.SortedSearch

/-!
# Pages of a store

The executor of a store may cut a page out of its hits itself, or leave this to the page. Either
way, and for every reader, the rows are the same part of the hits of the question without a page;
pages of one size that follow each other are these hits again.
-/

namespace ContentQuery

namespace Criteria

/-- The question without a page. -/
def unpaged (criteria : Criteria) : Criteria := { criteria with offset := 0, maxResults := none }

/-- The part of all rows that a question asks for. -/
def pageOf {α : Type} (criteria : Criteria) (all : List α) : List α :=
  match criteria.maxResults with
  | none | some 0 => all.drop criteria.offset
  | some n => (all.drop criteria.offset).take n

/-- The part that a question asks for is the window of its offset and its page size. -/
theorem pageOf_eq_window {α : Type} (criteria : Criteria) (all : List α) :
    criteria.pageOf all = window criteria.offset criteria.pageSize all := by
  rw [pageOf, pageSize]
  cases criteria.maxResults with
  | none => rfl
  | some n => cases n <;> rfl

end Criteria

/-- All rows of the first page that a session has for a question. -/
def Session.rowsOf {σ : Type} (session : Session σ) (criteria : Criteria) (s : σ) :
    Result (List Row) := do
  let (page, s) := session.execute criteria s
  let page ← page
  let (items, _, s) := page.items session.executor s
  let items ← items
  (items.toRows session.executor s).1

/-- What a store on a platform needs to answer a question: the engine compiles its patterns, and its
order is one on the nodes that are selected. -/
structure Criteria.Answerable (criteria : Criteria) (store : Store) (platform : Platform) :
    Prop where
  prepared : platform.engine.Compiles criteria.criterion.reduce
  sortable : ∀ nodes : List Node, (∀ n ∈ nodes, store.node? n.path = some n ∧ criteria.Selects n) →
    Sorting.Orders (compareNodes criteria.order) nodes

/-- A question whose patterns are compiled can be answered where no node that it selects has a
double under a key. -/
theorem Criteria.answerable_of_withoutDoubles {criteria : Criteria} {store : Store}
    {platform : Platform} (hprepared : platform.engine.Compiles criteria.criterion.reduce)
    (hdoubles : ∀ n, store.node? n.path = some n → criteria.Selects n →
      n.WithoutDoubles criteria.order) : criteria.Answerable store platform where
  prepared := hprepared
  sortable _ hnodes := orders_of_withoutDoubles fun n hn =>
    hdoubles n (hnodes n hn).1 (hnodes n hn).2

namespace Store

variable {store : Store} {platform : Platform} {settings : SearchSettings} {config : Config}
  {criteria : Criteria} {d : Descriptor} {all : List Row} {e : Error}

/-- The rows of all hits. -/
def answers (store : Store) (platform : Platform) (d : Descriptor) : Result (List Row) :=
  (store.hits platform d).map fun nodes => nodes.map fun n => ⟨n, .ofInt 1⟩

/-- The cursor for a descriptor of an executor that found some rows. -/
def cursorOf (settings : SearchSettings) (d : Descriptor) (all : List Row) : Cursor where
  size := if settings.nativeSize then some all.length else none
  rows := (if settings.paging then window d.offset d.limit all else all).map .ok

/-- Every run of a descriptor has the same cursor, or fails in the same way. -/
theorem execute_eq (h : settings.failure = none) (store : Store) (platform : Platform)
    (d : Descriptor) (s : ℕ) : (store.executor platform settings).execute d s =
      ((store.answers platform d).map (cursorOf settings d), s + 1) := by
  have hslice (nodes : List Node) : d.slice nodes = window d.offset d.limit nodes := by
    cases hlimit : d.limit <;> simp [Descriptor.slice, window, hlimit]
  have hrows (nodes : List Node) : nodes.map rowOf =
      (nodes.map fun n => (⟨n, .ofInt 1⟩ : Row)).map .ok := by
    rw [List.map_map]
    rfl
  simp only [executor, search, h, answers]
  cases store.hits platform d with
  | error e => rfl
  | ok nodes =>
    simp only [Except.map, cursorOf, List.length_map, window_map, ← hslice, hrows]
    cases settings.paging <;> rfl

/-- The page of the first run of a descriptor that found some rows. -/
def firstPage (settings : SearchSettings) (d count : Descriptor) (all : List Row) : Paged :=
  .ofCursor d count (some (cursorOf settings d all)) d.offset d.limit

/-- A question that compiles is answered with the page of its first run, or fails as the run
does. -/
theorem execute_session (h : settings.failure = none) (store : Store) (platform : Platform)
    (hcompile : config.compileCriteria criteria settings.preferred = .ok d) :
    ∃ statement, d.countQuery = .ok (d.counting statement) ∧
      ∀ s, (Session.mk (store.executor platform settings) config).execute criteria s =
        ((store.answers platform d).map (firstPage settings d (d.counting statement)), s + 1) := by
  obtain ⟨statement, hcount, -⟩ :=
    Descriptor.exists_countQuery (Config.describes_of_compileCriteria hcompile).statement
  obtain ⟨hoffset, hlimit, -⟩ := Config.page_of_compileCriteria hcompile
  refine ⟨statement, hcount, fun s => ?_⟩
  have hcompiled : (Session.mk (store.executor platform settings) config).compile criteria =
      .ok d := hcompile
  rw [Session.execute, hcompiled]
  simp only [Session.run, execute_eq h]
  cases store.answers platform d with
  | error e => rfl
  | ok all =>
    simp only [Except.map, Session.wrap, hcount, firstPage, hoffset, hlimit]

/-- An executor that fails answers no question. -/
theorem execute_session_of_failure {text : String} (h : settings.failure = some text)
    (store : Store) (platform : Platform)
    (hcompile : config.compileCriteria criteria settings.preferred = .ok d) (s : ℕ) :
    (Session.mk (store.executor platform settings) config).execute criteria s =
      (.error (.execution text), s + 1) := by
  have hcompiled : (Session.mk (store.executor platform settings) config).compile criteria =
      .ok d := hcompile
  rw [Session.execute, hcompiled]
  simp only [Session.run, executor, search, h]

/-- Whoever cuts the page out of all rows, what is left to be read is the same part of them. -/
theorem exists_itemsOf (store : Store) (platform : Platform) (settings : SearchSettings)
    (all : List Row) {p : Paged} (hoffset : p.offset = d.offset) (hperPage : p.perPage = d.limit) :
    ∃ rows skip remaining, p.itemsOf (store.executor platform settings) (cursorOf settings d all) =
        .ofRows rows skip remaining ∧
      window skip remaining rows = window d.offset d.limit all := by
  cases hpaging : settings.paging with
  | true =>
    refine ⟨window d.offset d.limit all, 0, none, ?_, rfl⟩
    simp [Paged.itemsOf, executor, cursorOf, hpaging, Items.ofRows]
  | false =>
    refine ⟨all, d.offset, d.limit, ?_, rfl⟩
    simp [Paged.itemsOf, executor, cursorOf, hpaging, Items.ofRows, hoffset, hperPage]

/-- The page of a question after any calls: where it is does not change, and the cursor is there for
the first reader. -/
theorem page_history_firstPage (store : Store) (platform : Platform)
    (hcompile : config.compileCriteria criteria settings.preferred = .ok d) (count : Descriptor)
    (all : List Row) (visits : List (Paged.Call × ℕ)) :
    let past := (firstPage settings d count all).history (store.executor platform settings) visits
    past.page = ⟨d, count, if past.readers = 0 then some (cursorOf settings d all) else none,
      (cursorOf settings d all).size, past.total?, criteria.offset, criteria.pageSize⟩ := by
  intro past
  obtain ⟨hoffset, hlimit, -⟩ := Config.page_of_compileCriteria hcompile
  have hpage := Paged.page_history (store.executor platform settings)
    (firstPage settings d count all) visits
  have hperPage : (firstPage settings d count all).perPage = criteria.pageSize := by
    simp [firstPage, Paged.ofCursor, hlimit, Criteria.pageSize, Option.filter_filter]
  rw [hpage, hperPage, ← hoffset]
  rfl

/-- Whenever rows may be asked for, they are the same part of all rows. -/
theorem exists_items_history (h : settings.failure = none)
    (hcompile : config.compileCriteria criteria settings.preferred = .ok d)
    (hall : store.answers platform d = .ok all) (count : Descriptor)
    (visits : List (Paged.Call × ℕ)) :
    let past := (firstPage settings d count all).history (store.executor platform settings) visits
    past.readers = 0 ∨ settings.requery = true → ∀ s, ∃ rows skip remaining,
      (past.page.items (store.executor platform settings) s).1 =
        .ok (.ofRows rows skip remaining) ∧
      window skip remaining rows = criteria.pageOf all := by
  intro past hmay s
  obtain ⟨hoffset, hlimit, -⟩ := Config.page_of_compileCriteria hcompile
  have hpage : past.page = _ := page_history_firstPage store platform hcompile count all visits
  obtain ⟨rows, skip, remaining, hitems, hwindow⟩ := exists_itemsOf store platform settings all
    (p := past.page) (d := d) (by rw [hpage, hoffset]) (by rw [hpage, hlimit])
  refine ⟨rows, skip, remaining, ?_, by rw [hwindow, hoffset, hlimit, Criteria.pageOf_eq_window]⟩
  by_cases hreaders : past.readers = 0
  · have hpending : past.page.pending = some (cursorOf settings d all) := by
      rw [hpage]
      exact if_pos hreaders
    rw [Paged.items_of_pending _ _ _ hpending, hitems]
  · have hpending : past.page.pending = none := by
      rw [hpage]
      exact if_neg hreaders
    have hquery : past.page.query = d := by rw [hpage]
    have hsupports : (store.executor platform settings).supportsRequery = true :=
      hmay.resolve_left hreaders
    rw [Paged.items_of_not_pending _ _ _ hpending, if_pos hsupports, hquery, execute_eq h, hall]
    exact congrArg Except.ok hitems

/-- All rows that a session has for a question are its part of all rows. -/
theorem rowsOf_eq (h : settings.failure = none) (store : Store) (platform : Platform)
    (hcompile : config.compileCriteria criteria settings.preferred = .ok d) (s : ℕ) :
    (Session.mk (store.executor platform settings) config).rowsOf criteria s =
      (store.answers platform d).map criteria.pageOf := by
  obtain ⟨statement, -, hexecute⟩ := execute_session h store platform hcompile
  rw [Session.rowsOf, hexecute]
  cases hall : store.answers platform d with
  | error e => rfl
  | ok all =>
    obtain ⟨rows, skip, remaining, hitems, hwindow⟩ :=
      exists_items_history h hcompile hall (d.counting statement) [] (.inl rfl) (s + 1)
    have hread := Items.toRows_ofRows (store.executor platform settings) rows skip remaining
      ((firstPage settings d (d.counting statement) all).items
        (store.executor platform settings) (s + 1)).2.2
    rw [hwindow] at hread
    exact Result.bind_eq_ok.mpr ⟨_, rfl, Result.bind_eq_ok.mpr ⟨_, hitems, hread⟩⟩

/-- What is answered does not depend on how the question was compiled. -/
theorem answers_eq_of_compile {other : Config} {preferred wish : Option Language} {d' : Descriptor}
    (hd : config.compileCriteria criteria preferred = .ok d)
    (hd' : other.compileCriteria criteria wish = .ok d') (store : Store) (platform : Platform) :
    store.answers platform d = store.answers platform d' := by
  rw [answers, answers, hits_eq_of_compile hd hd']

/-- A question that compiles does so with every other page, and the page has no part in what is
answered. -/
theorem exists_compile_page {preferred : Option Language}
    (hcompile : config.compileCriteria criteria preferred = .ok d) (offset : ℕ)
    (maxResults : Option ℕ) : ∃ d', config.compileCriteria
      { criteria with offset := offset, maxResults := maxResults } preferred = .ok d' ∧
      ∀ store platform, answers store platform d' = answers store platform d :=
  ⟨_, Config.compileCriteria_page hcompile offset maxResults, fun _ _ => rfl⟩

/-- No row is answered twice. -/
theorem nodup_of_answers (h : store.Reachable) (hplatform : platform.Lawful)
    (hall : store.answers platform d = .ok all) : all.Nodup := by
  obtain ⟨nodes, hhits, rfl⟩ := Result.map_eq_ok.mp hall
  exact (nodup_of_hits h hplatform hhits).map fun _ _ heq => congrArg Row.node heq

/-- A question that can be answered has rows. -/
theorem exists_answers (h : store.Reachable) (hplatform : platform.Lawful)
    (hanswerable : criteria.Answerable store platform) {preferred : Option Language}
    (hcompile : config.compileCriteria criteria preferred = .ok d) :
    ∃ all, store.answers platform d = .ok all := by
  have hdescribes := Config.describes_of_compileCriteria hcompile
  have hcompiles : platform.engine.Compiles d.criterion.reduce := by
    rw [hdescribes.criterion]
    exact hanswerable.prepared
  have horders : Sorting.Orders (compareNodes d.order) (store.nodes.filter d.accepts) := by
    rw [hdescribes.order]
    refine hanswerable.sortable _ fun n hn => ?_
    obtain ⟨hstored, haccepts⟩ := List.mem_filter.mp hn
    exact ⟨(h.wellFormed.mem_nodes_iff n).mp hstored,
      (Config.accepts_iff_selects hcompile n).mp haccepts⟩
  obtain ⟨nodes, hhits, -⟩ := exists_hits hplatform hcompiles horders
  exact ⟨_, Result.map_eq_ok.mpr ⟨nodes, hhits, rfl⟩⟩

/-- Pages of one size that follow each other, each from a session of its own, are all rows. -/
theorem mapM_rowsOf (h : settings.failure = none)
    (hcompile : config.compileCriteria criteria settings.preferred = .ok d)
    (hall : store.answers platform d = .ok all) {n : ℕ} (hn : 0 < n) (count : ℕ)
    (states : ℕ → ℕ) :
    ((List.range count).mapM fun i =>
      (Session.mk (store.executor platform settings) config).rowsOf
        ((criteria.skip (i * n)).atMost n) (states i)) =
      .ok ((List.range count).map fun i => window (i * n) (some n) all) := by
  have hrows : (fun i => (Session.mk (store.executor platform settings) config).rowsOf
      ((criteria.skip (i * n)).atMost n) (states i)) =
      fun i => pure (window (i * n) (some n) all) := by
    funext i
    obtain ⟨page, hpage, hsame⟩ :=
      exists_compile_page hcompile (i * n) (if 0 < n then some n else none)
    have hsize : ((criteria.skip (i * n)).atMost n).pageSize = some n := by
      simp [Criteria.atMost, Criteria.pageSize, hn]
    refine (rowsOf_eq h store platform hpage (states i)).trans ?_
    rw [hsame, hall]
    change Except.ok (((criteria.skip (i * n)).atMost n).pageOf all) = _
    rw [Criteria.pageOf_eq_window, hsize]
    rfl
  rw [hrows, List.mapM_pure]
  rfl

end Store

/-- The pages of a question to a store that can be reached, on a lawful platform. Its executor,
whatever its settings, has the same answer to the question without a page: rows, each of them once,
or a failure, which cannot be if the question can be answered. Where the executor does not fail by
itself, a failure is that of every page. Otherwise every reader of the page, first or later, who may
have rows is given the part of the rows that the page asks for, whoever cuts it out, and pages of
one size that follow each other have all rows again, in their order. -/
theorem Session.pages_agree {store : Store} (h : store.Reachable) {platform : Platform}
    (hplatform : platform.Lawful) (criteria : Criteria) :
    ∃ answer : Result (List Row),
      (criteria.Answerable store platform → ∃ all, answer = .ok all) ∧
      (∀ all, answer = .ok all → all.Nodup) ∧
      ∀ (config : Config) (settings : SearchSettings) (d : Descriptor),
        config.compileCriteria criteria settings.preferred = .ok d →
        let session : Session ℕ := ⟨store.executor platform settings, config⟩
        (∀ text, settings.failure = some text →
          ∀ s, session.execute criteria s = (.error (.execution text), s + 1)) ∧
        (settings.failure = none →
          (∀ s, session.rowsOf criteria.unpaged s = answer) ∧
          (∀ e, answer = .error e → ∀ offset maxResults s, session.execute
            { criteria with offset := offset, maxResults := maxResults } s = (.error e, s + 1)) ∧
          ∀ all, answer = .ok all →
            (∃ start, (∀ s, session.execute criteria s = (.ok start, s + 1)) ∧
              ∀ visits, let past := start.history session.executor visits
                past.readers = 0 ∨ settings.requery = true → ∀ s, ∃ items,
                  (past.page.items session.executor s).1 = .ok items ∧
                  (∀ steps s, (items.readRows session.executor steps s).1 =
                    .ok ((criteria.pageOf all).take steps)) ∧
                  ∀ s, (items.toRows session.executor s).1 = .ok (criteria.pageOf all)) ∧
            ∀ n count, 0 < n → all.length ≤ count * n → ∀ states : ℕ → ℕ,
              ((List.range count).mapM fun i =>
                session.rowsOf ((criteria.skip (i * n)).atMost n) (states i)).map List.flatten =
                  .ok all) := by
  obtain ⟨answer, hanswerable, hnodup, hanswer⟩ : ∃ answer : Result (List Row),
      (criteria.Answerable store platform → ∃ all, answer = .ok all) ∧
      (∀ all, answer = .ok all → all.Nodup) ∧
      ∀ (config : Config) (preferred : Option Language) (d : Descriptor),
        config.compileCriteria criteria preferred = .ok d → store.answers platform d = answer := by
    by_cases hsome : ∃ (config : Config) (preferred : Option Language) (d : Descriptor),
        config.compileCriteria criteria preferred = .ok d
    · obtain ⟨config, preferred, d, hcompile⟩ := hsome
      exact ⟨store.answers platform d, fun h' => Store.exists_answers h hplatform h' hcompile,
        fun all hall => Store.nodup_of_answers h hplatform hall,
        fun _ _ _ hother => Store.answers_eq_of_compile hother hcompile store platform⟩
    -- Where the question compiles for nobody, there is nothing to say of its rows.
    · exact ⟨.ok [], fun _ => ⟨[], rfl⟩,
        fun all hall => by cases hall; exact List.nodup_nil,
        fun config preferred d hcompile => absurd ⟨config, preferred, d, hcompile⟩ hsome⟩
  refine ⟨answer, hanswerable, hnodup, fun config settings d hcompile => ?_⟩
  have hsame : store.answers platform d = answer := hanswer config settings.preferred d hcompile
  refine ⟨fun text hfailure s =>
      Store.execute_session_of_failure hfailure store platform hcompile s,
    fun hfailure => ⟨fun s => ?_, fun e he offset maxResults s => ?_, fun all hall =>
      ⟨?_, fun n count hn hcount states => ?_⟩⟩⟩
  · obtain ⟨unpaged, hunpaged, hanswers⟩ := Store.exists_compile_page hcompile 0 none
    refine (Store.rowsOf_eq hfailure store platform hunpaged s).trans ?_
    rw [hanswers, hsame]
    cases answer <;> rfl
  · obtain ⟨page, hpage, hanswers⟩ := Store.exists_compile_page hcompile offset maxResults
    obtain ⟨statement, -, hexecute⟩ := Store.execute_session hfailure store platform hpage
    rw [hexecute, hanswers, hsame, he]
    rfl
  · rw [hall] at hsame
    obtain ⟨statement, -, hexecute⟩ := Store.execute_session hfailure store platform hcompile
    rw [hsame] at hexecute
    refine ⟨_, hexecute, fun visits => ?_⟩
    intro past hmay s
    obtain ⟨rows, skip, remaining, hitems, hwindow⟩ :=
      Store.exists_items_history hfailure hcompile hsame _ visits hmay s
    refine ⟨_, hitems, fun steps s => ?_, fun s => ?_⟩
    · rw [Items.readRows_ofRows, hwindow]
    · rw [Items.toRows_ofRows, hwindow]
  · rw [Store.mapM_rowsOf hfailure hcompile (hsame.trans hall) hn count states, Except.map,
      flatten_windows, List.take_of_length_le hcount]

/-- An executor that leaves the page to its reader and does not fail. -/
def SearchSettings.lazy : SearchSettings := ⟨false, true, false, none, none⟩

/-- In the store of the root and one node, the second reader of a page that skips the root is given
the node, also where the executor skips nothing. -/
theorem Session.pages_agree_single : (Store.single "cq:Page").Reachable ∧ Platform.plain.Lawful ∧
    ∃ start items,
      (Session.mk ((Store.single "cq:Page").executor .plain .lazy) .standard).execute
        ((Criteria.empty.skip 1).atMost 5) 0 = (.ok start, 1) ∧
      ((start.history ((Store.single "cq:Page").executor .plain .lazy) [(.items, 1)]).page.items
        ((Store.single "cq:Page").executor .plain .lazy) 1).1 = .ok items ∧
      (items.toRows ((Store.single "cq:Page").executor .plain .lazy) 2).1 =
        .ok [⟨⟨"/a", ⟨"cq:Page", []⟩⟩, .ofInt 1⟩] := by
  have hreachable := Store.reachable_single "cq:Page"
  obtain ⟨d, hd⟩ : ∃ d, Config.standard.compileCriteria ((Criteria.empty.skip 1).atMost 5) none =
      .ok d := ⟨_, rfl⟩
  obtain ⟨answer, -, -, hagree⟩ :=
    pages_agree hreachable Platform.lawful_plain ((Criteria.empty.skip 1).atMost 5)
  obtain ⟨-, hrows⟩ := hagree .standard .lazy d hd
  obtain ⟨hunpaged, -, hpages⟩ := hrows rfl
  have hboth : answer = .ok [⟨⟨"/", ⟨"nt:unstructured", []⟩⟩, .ofInt 1⟩,
      ⟨⟨"/a", ⟨"cq:Page", []⟩⟩, .ofInt 1⟩] := (hunpaged 0).symm
  obtain ⟨⟨start, hstart, hreaders⟩, -⟩ := hpages _ hboth
  obtain ⟨items, hitems, -, hread⟩ := hreaders [(.items, 1)] (.inr rfl) 1
  exact ⟨hreachable, Platform.lawful_plain, start, items, hstart 0, hitems, hread 2⟩

end ContentQuery
