import ContentQuery.Execution.Paged
import Mathlib.Data.List.Induction

/-!
# Histories of a page

A page is asked in any order for its rows, its total and its place, while its executor may change
between two calls and fail at any of them. What has happened so far decides what the page is: its
cursor is there until rows are asked for, and its total is the first one that was answered.
-/

namespace ContentQuery

variable {σ : Type}

/-- The executor with a record of the descriptors that it was asked to run. -/
def Executor.recorded (e : Executor σ) : Executor (σ × List Descriptor) where
  appliesPaging := e.appliesPaging
  supportsRequery := e.supportsRequery
  preferred := e.preferred
  execute d s :=
    let (answer, next) := e.execute d s.1
    (answer, next, s.2 ++ [d])
  asked s := (e.asked s.1, s.2)

namespace Paged

/-- What can be asked of a page. -/
inductive Call where
  | items
  | totalSize
  | isDetermined
  | page
  | pages
  deriving DecidableEq

/-- What a page answers. -/
inductive Answer where
  | items (rows : Result Items)
  | totalSize (total : Result Nat)
  | isDetermined (determined : Bool)
  | page (number : Result Nat)
  | pages (number : Result Nat)

/-- A call with its answer and the descriptors that were run for it. -/
structure Event where
  call : Call
  answer : Answer
  runs : List Descriptor

/-- The total that an event brings to light. -/
def Event.total? (event : Event) : Option Nat :=
  match event.answer with
  | .totalSize (.ok n) => some n
  | _ => none

/-- A call to a page: what happens, and the page and its executor afterwards. -/
def ask (e : Executor σ) (p : Paged) (call : Call) (s : σ) : Event × Paged × σ :=
  match call with
  | .items =>
    let (rows, next, s, runs) := p.items e.recorded (s, [])
    (⟨.items, .items rows, runs⟩, next, s)
  | .totalSize =>
    let (total, next, s, runs) := p.totalSize e.recorded (s, [])
    (⟨.totalSize, .totalSize total, runs⟩, next, s)
  | .isDetermined => (⟨.isDetermined, .isDetermined p.isDetermined, []⟩, p, s)
  | .page => (⟨.page, .page p.page, []⟩, p, s)
  | .pages => (⟨.pages, .pages p.pages, []⟩, p, s)

/-- How often the total was asked for among events, up to the one that brought it to light. -/
def attemptsIn : List Event → Nat
  | [] => 0
  | event :: later =>
    (if event.call = .totalSize then 1 else 0) +
      (if event.total?.isSome then 0 else attemptsIn later)

/-- What has happened at a page, and the page as it is now. -/
structure History where
  events : List Event
  page : Paged

namespace History

/-- The history after one more call. -/
def extend (e : Executor σ) (past : History) (visit : Call × σ) : History :=
  let (event, next, _) := past.page.ask e visit.1 visit.2
  ⟨past.events ++ [event], next⟩

/-- How often rows were asked for. -/
def readers (past : History) : Nat := past.events.countP (·.call = .items)

/-- The first total that was answered. -/
def total? (past : History) : Option Nat := past.events.findSome? Event.total?

/-- How often the total was asked for until it was answered. -/
def attempts (past : History) : Nat := attemptsIn past.events

/-- How many descriptors were run. -/
def runs (past : History) : Nat := (past.events.flatMap (·.runs)).length

end History

/-- The history of calls to a page, each of which meets the executor in a state of its own. -/
def history (e : Executor σ) (p : Paged) (visits : List (Call × σ)) : History :=
  visits.foldl (History.extend e) ⟨[], p⟩

/-- The rows of a cursor that the page shows. -/
def itemsOf (e : Executor σ) (p : Paged) (cursor : Cursor) : Items :=
  let (skip, remaining) := if e.appliesPaging then (0, none) else (p.offset, p.perPage)
  ⟨cursor.rows, skip, remaining, false⟩

/-! ### One call -/

section Call

variable (e : Executor σ) (p : Paged) (call : Call) (s : σ)

/-- Rows are taken from the cursor that a reader gets. -/
theorem items_eq : p.items e s =
    ((p.takeCursor e s).1.map ((p.takeCursor e s).2.1.itemsOf e), (p.takeCursor e s).2) := rfl

/-- The first reader of a page with a cursor gets its rows, and nothing is run. -/
theorem items_of_pending {cursor : Cursor} (h : p.pending = some cursor) :
    p.items e s = (.ok (p.itemsOf e cursor), { p with pending := none }, s) := by
  rw [items_eq, takeCursor, h]
  rfl

/-- Any other reader gets the rows of another run, if there may be one. -/
theorem items_of_not_pending (h : p.pending = none) :
    p.items e s =
      if e.supportsRequery then
        ((e.execute p.query s).1.map (p.itemsOf e), p, (e.execute p.query s).2)
      else (.error (.illegalState .rowsConsumed), p, s) := by
  rw [items_eq, takeCursor, h]
  cases e.supportsRequery <;> rfl

/-- Counting rows leaves the record as it is. -/
theorem countRows_recorded (rows : List (Result Row)) (record : List Descriptor) :
    countRows e.recorded rows (s, record) =
      ((countRows e rows s).1, (countRows e rows s).2, record) := by
  induction rows generalizing s with
  | nil => rfl
  | cons row rest ih =>
    cases row with
    | error err => rfl
    | ok row =>
      have hrest := ih (e.asked s)
      change (let (n, next) := countRows e.recorded rest (e.asked s, record)
        (n.map (· + 1), next)) = _
      rw [hrest]
      rfl

/-- The total is found without a run, or by a run of the descriptor that counts. -/
theorem findTotal_recorded : p.findTotal e.recorded (s, []) =
    ((p.findTotal e s).1, (p.findTotal e s).2,
      if p.nativeSize.isSome then [] else [p.countQuery]) := by
  rw [findTotal, findTotal]
  cases p.nativeSize with
  | some n => rfl
  | none =>
    rcases hrun : e.execute p.countQuery s with ⟨answer, next⟩
    have hrecorded : e.recorded.execute p.countQuery (s, []) = (answer, next, [p.countQuery]) := by
      simp [Executor.recorded, hrun]
    rw [hrecorded]
    cases answer with
    | error err => rfl
    | ok cursor =>
      obtain ⟨size, rows⟩ := cursor
      cases size with
      | some n => rfl
      | none => exact countRows_recorded e next rows [p.countQuery]

/-- The total is the one that is kept, and else the one that is found. -/
theorem totalSize_fst : (p.totalSize e s).1 =
    match p.total with
    | some n => .ok n
    | none => (p.findTotal e s).1 := by
  rw [totalSize]
  cases p.total with
  | some n => rfl
  | none =>
    obtain ⟨answer, next⟩ := p.findTotal e s
    cases answer <;> rfl

/-- A total that is answered is determined. -/
theorem isDetermined_totalSize {n : ℕ} (h : (p.totalSize e s).1 = .ok n) :
    (p.totalSize e s).2.1.isDetermined = true := by
  rw [totalSize] at h ⊢
  cases htotal : p.total with
  | some m => simp [isDetermined, htotal]
  | none =>
    rw [htotal] at h
    rcases hfound : p.findTotal e s with ⟨answer, next⟩
    rw [hfound] at h
    cases answer with
    | error err => cases h
    | ok m => rfl

/-- Asking for the total keeps it, and runs the descriptor that counts unless it is known. -/
theorem ask_totalSize : p.ask e .totalSize s =
    (⟨.totalSize, .totalSize (p.totalSize e s).1,
        if p.total.isSome || p.nativeSize.isSome then [] else [p.countQuery]⟩,
      { p with total := (p.totalSize e s).1.toOption }, (p.totalSize e s).2.2) := by
  rw [ask, totalSize, totalSize]
  cases htotal : p.total with
  | some n =>
    have hpage : { p with total := some n } = p := by rw [← htotal]
    simp [Except.toOption, hpage]
  | none =>
    have hpage : { p with total := none } = p := by rw [← htotal]
    rw [findTotal_recorded]
    obtain ⟨answer, next⟩ := p.findTotal e s
    cases answer with
    | error err => simp [Except.toOption, hpage]
    | ok n => simp [Except.toOption]

/-- A total that is kept is answered, and nothing is run. -/
theorem ask_totalSize_of_total {n : ℕ} (h : p.total = some n) :
    p.ask e .totalSize s = (⟨.totalSize, .totalSize (.ok n), []⟩, p, s) := by
  have hkept : p.totalSize e s = (.ok n, p, s) := by rw [totalSize, h]
  have hsame : { p with total := some n } = p := by rw [← h]
  rw [ask_totalSize, hkept, h]
  simp [Except.toOption, hsame]

/-- A total that fails leaves the page as it is. -/
theorem page_ask_of_failed_total {err : Error}
    (h : (p.ask e .totalSize s).1.answer = .totalSize (.error err)) :
    (p.ask e .totalSize s).2.1 = p := by
  cases htotal : p.total with
  | some n => rw [ask_totalSize_of_total e p s htotal]
  | none =>
    have hnothing : (p.totalSize e s).1 = .error err := by simpa [ask_totalSize] using h
    have hsame : { p with total := none } = p := by rw [← htotal]
    rw [ask_totalSize, hnothing]
    exact hsame

/-- Once the total is known, so is the place of the page among all pages. -/
theorem exists_page_of_total {n : ℕ} (h : p.total = some n) :
    (∃ number, p.page = .ok number) ∧ ∃ number, p.pages = .ok number := by
  rw [page, pages, h]
  cases p.perPage with
  | none => exact ⟨⟨_, rfl⟩, _, rfl⟩
  | some size => exact ⟨⟨_, rfl⟩, _, rfl⟩

/-- The number of a page that has a bound is one more than that of the full pages before it. Only
behind the last offset of all, on pages of one row, words begin again. -/
theorem page_of_bounded {n size : ℕ} (htotal : p.total = some n) (hperPage : p.perPage = some size)
    (hsize : 0 < size) (hoffset : p.offset < UInt64.size) :
    p.page = .ok (if p.offset = UInt64.size - 1 ∧ size = 1 then 0 else p.offset / size + 1) := by
  rw [page, htotal, hperPage]
  simp only [UInt64.size] at hoffset ⊢
  split
  · next hlast =>
    obtain ⟨hlast, rfl⟩ := hlast
    rw [hlast]
  · next hinside =>
    have hfits : p.offset / size + 1 < 18446744073709551616 := by
      by_cases hone : size = 1
      · rw [hone, Nat.div_one]
        omega
      · have hhalf : p.offset / size ≤ p.offset / 2 :=
          Nat.div_le_div_left (by omega) Nat.zero_lt_two
        omega
    exact congrArg Except.ok (Nat.mod_eq_of_lt hfits)

/-- The first reader of a page with a cursor gets its rows, and nothing is run. -/
theorem ask_items_of_pending {cursor : Cursor} (h : p.pending = some cursor) :
    p.ask e .items s =
      (⟨.items, .items (.ok (p.itemsOf e cursor)), []⟩, { p with pending := none }, s) := by
  rw [ask, items_of_pending e.recorded p (s, []) h]
  rfl

/-- Any other reader gets the rows of another run, if there may be one. -/
theorem ask_items_of_not_pending (h : p.pending = none) :
    p.ask e .items s =
      if e.supportsRequery then
        (⟨.items, .items ((e.execute p.query s).1.map (p.itemsOf e)), [p.query]⟩, p,
          (e.execute p.query s).2)
      else (⟨.items, .items (.error (.illegalState .rowsConsumed)), []⟩, p, s) := by
  rw [ask, items_of_not_pending e.recorded p (s, []) h]
  cases hrequery : e.supportsRequery with
  | true =>
    rw [if_pos (by exact hrequery)]
    rfl
  | false =>
    rw [if_neg (by rw [Executor.recorded]; simp [hrequery])]
    rfl

/-- The event of a call is about this call. -/
theorem call_ask : (p.ask e call s).1.call = call := by
  cases call <;> rfl

/-- What a call does to the page: readers take its cursor, and a total that is answered is kept
unless there is one. -/
theorem page_ask : (p.ask e call s).2.1 =
    { p with
      pending := if call = .items then none else p.pending
      total := p.total.or (p.ask e call s).1.total? } := by
  obtain ⟨query, countQuery, pending, nativeSize, total, offset, perPage⟩ := p
  cases call with
  | items =>
    cases pending with
    | some cursor =>
      rw [ask_items_of_pending e _ s rfl]
      simp [Event.total?]
    | none =>
      rw [ask_items_of_not_pending e _ s rfl]
      cases e.supportsRequery <;> simp [Event.total?]
  | totalSize =>
    rw [ask_totalSize]
    cases total with
    | some n => simp [totalSize, Except.toOption]
    | none =>
      simp only [Event.total?, Except.toOption]
      split <;> simp_all
  | isDetermined => simp [ask, Event.total?]
  | page => simp [ask, Event.total?]
  | pages => simp [ask, Event.total?]

/-- What a call runs: the descriptor for readers without a cursor, and the one that counts while
the total is not known. -/
theorem runs_ask : (p.ask e call s).1.runs =
    match call with
    | .items => if p.pending.isNone && e.supportsRequery then [p.query] else []
    | .totalSize => if p.total.isNone && p.nativeSize.isNone then [p.countQuery] else []
    | _ => [] := by
  cases call with
  | items =>
    cases hpending : p.pending with
    | some cursor =>
      rw [ask_items_of_pending e p s hpending]
      rfl
    | none =>
      rw [ask_items_of_not_pending e p s hpending]
      cases e.supportsRequery <;> rfl
  | totalSize =>
    rw [ask_totalSize]
    cases p.total <;> cases p.nativeSize <;> rfl
  | isDetermined => rfl
  | page => rfl
  | pages => rfl

end Call

/-! ### Any number of calls -/

/-- One more event is one more attempt if it asks for a total that was not answered before. -/
theorem attemptsIn_append (events : List Event) (event : Event) :
    attemptsIn (events ++ [event]) = attemptsIn events +
      if events.findSome? Event.total? = none ∧ event.call = .totalSize then 1 else 0 := by
  induction events with
  | nil => simp [attemptsIn]
  | cons first later ih =>
    rw [List.cons_append, attemptsIn, attemptsIn, ih, List.findSome?_cons]
    cases first.total? with
    | some n => simp
    | none => simp [Nat.add_assoc]

namespace History

variable (e : Executor σ) (past : History) (visit : Call × σ)

/-- A call is added as a reader if it asks for rows. -/
theorem readers_extend :
    (past.extend e visit).readers = past.readers + if visit.1 = .items then 1 else 0 := by
  simp only [extend, readers, List.countP_append, List.countP_singleton, call_ask,
    decide_eq_true_eq]

/-- The first total stays the first one. -/
theorem total?_extend : (past.extend e visit).total? =
    past.total?.or (past.page.ask e visit.1 visit.2).1.total? := by
  simp only [extend, total?, List.findSome?_append, List.findSome?_singleton]

/-- A call is added as an attempt if it asks for a total that was not answered before. -/
theorem attempts_extend : (past.extend e visit).attempts = past.attempts +
    if past.total? = none ∧ visit.1 = .totalSize then 1 else 0 := by
  simp only [extend, attempts, attemptsIn_append, call_ask]
  rfl

/-- The descriptors that a call runs are added. -/
theorem runs_extend : (past.extend e visit).runs =
    past.runs + (past.page.ask e visit.1 visit.2).1.runs.length := by
  simp only [extend, runs, List.flatMap_append, List.flatMap_singleton, List.length_append]

end History

section Visits

variable (e : Executor σ) (p : Paged) (visits : List (Call × σ))

/-- A history goes on with the next call. -/
theorem history_append (visit : Call × σ) :
    p.history e (visits ++ [visit]) = (p.history e visits).extend e visit := by
  simp only [history, List.foldl_append, List.foldl_cons, List.foldl_nil]

/-- What calls do to a page: its cursor is there until rows are asked for, and its total is the
first that was answered. -/
theorem page_history : (p.history e visits).page =
    { p with
      pending := if (p.history e visits).readers = 0 then p.pending else none
      total := p.total.or (p.history e visits).total? } := by
  induction visits using List.reverseRecOn with
  | nil => simp [history, History.readers, History.total?]
  | append_singleton visits visit ih =>
    rw [history_append, History.readers_extend, History.total?_extend, History.extend]
    simp only
    rw [page_ask, ← Option.or_assoc, ih]
    by_cases hcall : visit.1 = .items <;> simp [hcall]

/-- How often calls to a page without a total run a descriptor: once for each reader but the first
of a page with a cursor, if it may, and once for each time that the total is asked for until it is
answered, if it is not known from the cursor. -/
theorem runs_history (h : p.total = none) : (p.history e visits).runs =
    (if e.supportsRequery then
      (p.history e visits).readers - (if p.pending.isSome then 1 else 0) else 0) +
    (if p.nativeSize.isSome then 0 else (p.history e visits).attempts) := by
  induction visits using List.reverseRecOn with
  | nil => simp [history, History.runs, History.readers, History.attempts, attemptsIn]
  | append_singleton visits visit ih =>
    have hpage := page_history e p visits
    rw [h, Option.none_or] at hpage
    rw [history_append, History.runs_extend, History.readers_extend, History.attempts_extend, ih,
      runs_ask, hpage]
    cases visit.1 with
    | items =>
      -- Only the first reader makes a difference: with a cursor there is nothing to run for it.
      by_cases hreaders : (p.history e visits).readers = 0 <;> cases p.pending <;>
        cases e.supportsRequery <;> simp [hreaders] <;> omega
    | totalSize =>
      cases (p.history e visits).total? <;> cases p.nativeSize <;> simp [Nat.add_assoc]
    | isDetermined => simp
    | page => simp
    | pages => simp

/-- Where every search for the total finds one number, this is the total at any time. -/
theorem total_history {e : Executor σ} {p : Paged} {n : ℕ} (h : p.total = none)
    (hfind : ∀ s, (p.findTotal e s).1 = .ok n) (visits : List (Call × σ)) :
    ((p.history e visits).total? = none ∨ (p.history e visits).total? = some n) ∧
      ∀ s, ((p.history e visits).page.totalSize e s).1 = .ok n := by
  -- The answer follows from the history so far, and the history grows by answers.
  have hanswer (visits : List (Call × σ))
      (hpast : (p.history e visits).total? = none ∨ (p.history e visits).total? = some n) (s : σ) :
      ((p.history e visits).page.totalSize e s).1 = .ok n := by
    have hpage := page_history e p visits
    have htotal : (p.history e visits).page.total = (p.history e visits).total? := by
      rw [hpage, h, Option.none_or]
    have hsame : (p.history e visits).page.findTotal e s = p.findTotal e s := by rw [hpage]; rfl
    rw [totalSize_fst, htotal, hsame]
    rcases hpast with hpast | hpast
    · rw [hpast]
      exact hfind s
    · rw [hpast]
  induction visits using List.reverseRecOn with
  | nil => exact ⟨.inl rfl, hanswer [] (.inl rfl)⟩
  | append_singleton visits visit ih =>
    have hpast : (p.history e (visits ++ [visit])).total? = none ∨
        (p.history e (visits ++ [visit])).total? = some n := by
      rw [history_append, History.total?_extend]
      rcases ih.1 with hnone | hsome
      · rw [hnone, Option.none_or]
        cases visit.1 with
        | totalSize =>
          rw [ask_totalSize, ih.2]
          exact .inr rfl
        | items | isDetermined | page | pages => exact .inl rfl
      · rw [hsome]
        exact .inr rfl
    exact ⟨hpast, hanswer _ hpast⟩

end Visits

/-- What any calls leave behind, whatever the executor answers. The total is not determined, and the
place of the page not known, until a total was answered; the first that was is kept, without another
run, and the page has a number, as a word of 64 bits. A total that fails leaves the page as it is.
The cursor that the page began with is for the first reader, for whom nothing is run; no other call
takes it, and every other reader has the descriptor run again, once, or is refused if it may not be.
Beside these readers, only the total is worth runs: one each time that it is asked for until it is
answered, unless the cursor knew it. -/
theorem history_decides (e : Executor σ) (query countQuery : Descriptor) (cursor : Option Cursor)
    (offset : ℕ) (perPage : Option ℕ) (visits : List (Call × σ)) :
    let start := ofCursor query countQuery cursor offset perPage
    let past := start.history e visits
    let p := past.page
    -- the total, before and after it is answered
    (past.total? = none → p.isDetermined = false ∧ p.page = .error (.illegalState .page) ∧
      p.pages = .error (.illegalState .pages)) ∧
    (∀ n, past.total? = some n → p.isDetermined = true ∧ (∃ number, p.page = .ok number) ∧
      (∃ number, p.pages = .ok number) ∧
      ∀ s, p.ask e .totalSize s = (⟨.totalSize, .totalSize (.ok n), []⟩, p, s)) ∧
    -- the place, a word: behind the last offset of all, pages of one row begin again with zero
    (∀ n, past.total? = some n → (perPage = none ∨ perPage = some 0 → p.page = .ok 1) ∧
      ∀ size, 0 < size → perPage = some size → offset < UInt64.size → p.page =
        .ok (if offset = UInt64.size - 1 ∧ size = 1 then 0 else offset / size + 1)) ∧
    -- a total that has to be found, or fails to be
    (past.total? = none → ∀ s, (p.ask e .totalSize s).1.runs =
      if (cursor.bind (·.size)).isSome then [] else [countQuery]) ∧
    (∀ s err, (p.ask e .totalSize s).1.answer = .totalSize (.error err) →
      (p.ask e .totalSize s).2.1 = p) ∧
    -- the cursor, its first reader and all others
    (∀ call s, (p.ask e call s).2.1.pending = if call = .items then none else p.pending) ∧
    (∀ c s, cursor = some c → past.readers = 0 → p.ask e .items s =
      (⟨.items, .items (.ok (start.itemsOf e c)), []⟩, { p with pending := none }, s)) ∧
    (∀ s, (cursor = none ∨ past.readers ≠ 0) → p.ask e .items s =
      if e.supportsRequery then
        (⟨.items, .items ((e.execute query s).1.map (start.itemsOf e)), [query]⟩, p,
          (e.execute query s).2)
      else (⟨.items, .items (.error (.illegalState .rowsConsumed)), []⟩, p, s)) ∧
    -- the number of runs
    past.runs =
      (if e.supportsRequery then past.readers - (if cursor.isSome then 1 else 0) else 0) +
      (if (cursor.bind (·.size)).isSome then 0 else past.attempts) := by
  intro start past p
  have hpage : p = { start with
      pending := if past.readers = 0 then cursor else none
      total := past.total? } := by
    have h := page_history e start visits
    rw [show start.total = none from rfl, Option.none_or] at h
    exact h
  have htotal : p.total = past.total? := by rw [hpage]
  obtain ⟨hquery, hcount, hnative, hshown⟩ : p.query = query ∧ p.countQuery = countQuery ∧
      p.nativeSize = cursor.bind (·.size) ∧ p.itemsOf e = start.itemsOf e := by
    rw [hpage]
    exact ⟨rfl, rfl, rfl, rfl⟩
  have hplace : p.offset = offset ∧ p.perPage = perPage.filter (0 < ·) := by
    rw [hpage]
    exact ⟨rfl, rfl⟩
  refine ⟨fun hnone => ?_, fun n hsome => ?_,
    fun n hsome => ⟨fun hbound => ?_, fun size hsize hbound hoffset => ?_⟩, fun hnone s => ?_,
    fun s err => page_ask_of_failed_total e p s, fun call s => by rw [page_ask],
    fun c s hcursor hreaders => ?_, fun s hconsumed => ?_, runs_history e start visits rfl⟩
  · rw [hnone] at htotal
    exact ⟨by rw [isDetermined, htotal]; rfl, by rw [page, htotal], by rw [pages, htotal]⟩
  · rw [hsome] at htotal
    obtain ⟨hnumber, hpages⟩ := p.exists_page_of_total htotal
    exact ⟨by rw [isDetermined, htotal]; rfl, hnumber, hpages,
      fun s => ask_totalSize_of_total e p s htotal⟩
  · have hsize : p.perPage = none := by
      rw [hplace.2]
      rcases hbound with rfl | rfl <;> rfl
    rw [page, htotal, hsome, hsize]
  · have hperPage : p.perPage = some size := by
      rw [hplace.2, hbound, Option.filter_some, if_pos (decide_eq_true hsize)]
    rw [page_of_bounded p (htotal.trans hsome) hperPage hsize (by rw [hplace.1]; exact hoffset),
      hplace.1]
  · rw [ask_totalSize, htotal, hnone, hnative, hcount]
    rfl
  · have hpending : p.pending = some c := by rw [hpage]; simp [hreaders, hcursor]
    rw [ask_items_of_pending e p s hpending, hshown]
  · have hpending : p.pending = none := by
      rw [hpage]
      rcases hconsumed with hcursor | hreaders
      · simp [hcursor]
      · simp [hreaders]
    rw [ask_items_of_not_pending e p s hpending, hshown, hquery]

/-- An executor that gives the answers of a script, one after another. -/
def scripted : Executor (List (Result Cursor)) where
  appliesPaging := false
  supportsRequery := true
  preferred := none
  execute _ script := (script.head?.getD (.error (.execution "end of script")), script.tail)
  asked script := script

/-- Two readers and three questions for the total, the first of which fails. -/
def scriptedVisits : List (Call × List (Result Cursor)) :=
  [(.items, []), (.totalSize, [.error (.execution "busy")]), (.items, [.ok ⟨none, []⟩]),
    (.totalSize, [.ok ⟨some 9, []⟩]), (.totalSize, [])]

/-- At a page with a cursor the second reader and the first two questions take a run each. -/
theorem history_decides_scripted :
    let past := (ofCursor (.ofLanguage .sql2) (.ofLanguage .sql2) (some ⟨none, []⟩) 4
      (some 2)).history scripted scriptedVisits
    past.total? = some 9 ∧ past.runs = 3 ∧ past.page.page = .ok 3 ∧ past.page.pages = .ok 5 ∧
      (past.page.ask scripted .totalSize []).1.runs = [] := by
  intro past
  obtain ⟨-, hanswered, hplaced, -, -, -, -, -, hruns⟩ := history_decides scripted
    (.ofLanguage .sql2) (.ofLanguage .sql2) (some ⟨none, []⟩) 4 (some 2) scriptedVisits
  have htotal : past.total? = some 9 := rfl
  obtain ⟨-, -, -, hkept⟩ := hanswered 9 htotal
  obtain ⟨-, hnumber⟩ := hplaced 9 htotal
  exact ⟨htotal, hruns, hnumber 2 (by decide) rfl (by decide), rfl,
    congrArg (·.1.runs) (hkept [])⟩

end Paged

end ContentQuery
