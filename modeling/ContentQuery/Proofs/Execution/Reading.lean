import ContentQuery.Proofs.Execution.History
import ContentQuery.Proofs.Execution.Rows
import Mathlib.Logic.Function.Iterate

/-!
# Reading a page to its end

A reader asks a page for rows until there is none. The cursor may fail at any place. A failure
among the rows to be skipped is all that the reader has; otherwise these are the rows of the window
of the page, up to the first failure in it. No more is taken from the cursor than that, and the
reader makes something of each row that it has, and of no other.
-/

namespace ContentQuery

namespace Items

variable {σ α μ : Type}

/-! ### What a reader has -/

/-- What asking for rows until there is none has led to. -/
structure Reading (σ α μ : Type) where
  answers : List (Result α)
  /-- The page as it is left. -/
  left : Items
  executor : σ
  reader : μ

/-- The same with an answer before all others. -/
def Reading.prepend (answer : Result α) (reading : Reading σ α μ) : Reading σ α μ :=
  { reading with answers := answer :: reading.answers }

/-- Asks for rows until there is none, if that takes at most so many calls. -/
def readAll (e : Executor σ) (map : Row → μ → α × μ) :
    Nat → Items → σ → μ → Option (Reading σ α μ)
  | 0, _, _, _ => none
  | calls + 1, items, s, m =>
    match items.nextMapped e map s m with
    | (none, items, s, m) => some ⟨[], items, s, m⟩
    | (some answer, items, s, m) => (readAll e map calls items s m).map (Reading.prepend answer)

/-- Results up to the first failure, which is the last of them. -/
def upToFailure : List (Result α) → List (Result α)
  | [] => []
  | .error err :: _ => [.error err]
  | .ok a :: rest => .ok a :: upToFailure rest

/-- What is to be shown of the results of a cursor: the first failure among those to be skipped, and
else the window behind them up to its first failure. -/
def shown (skip : Nat) (remaining : Option Nat) (results : List (Result α)) : List (Result α) :=
  match (results.take skip).findSome? Result.error? with
  | some err => [.error err]
  | none => upToFailure (window skip remaining results)

/-- The results of a cursor that have to be known for this: those before the end of the window, up
to the first failure. -/
def needed (skip : Nat) (remaining : Option Nat) (results : List (Result α)) : List (Result α) :=
  upToFailure (window 0 (remaining.map (skip + ·)) results)

/-- Whether the end of the cursor has to be seen: nothing has failed, and there are fewer results
than may be shown. -/
def seesEnd (remaining : Option Nat) (shown : List (Result α)) : Bool :=
  shown.all (·.toBool) && remaining != some shown.length

/-- What a reader makes of results, one after another. -/
def mapResults (map : Row → μ → α × μ) : List (Result Row) → μ → List (Result α) × μ
  | [], m => ([], m)
  | .error err :: rest, m =>
    let (later, m) := mapResults map rest m
    (.error err :: later, m)
  | .ok row :: rest, m =>
    let (made, m) := map row m
    let (later, m) := mapResults map rest m
    (.ok made :: later, m)

/-! ### The results of a cursor, one by one -/

section Results

variable {remaining : Option ℕ} {skip : ℕ} {err : Error} {a : α} {rest : List (Result α)}

/-- The first member of a list is in a window from the start that has room. -/
theorem window_zero_cons {β : Type} (h : remaining ≠ some 0) (b : β) (all : List β) :
    window 0 remaining (b :: all) = b :: window 0 (remaining.map (· - 1)) all := by
  cases remaining with
  | none => rfl
  | some n =>
    cases n with
    | zero => exact absurd rfl h
    | succ n => rfl

/-- Nothing is shown of no results. -/
theorem shown_nil : shown skip remaining ([] : List (Result α)) = [] := by
  cases remaining <;> simp [shown, window, upToFailure]

/-- Nothing is shown if nothing is to be given. -/
theorem shown_zero (results : List (Result α)) : shown 0 (some 0) results = [] := rfl

/-- A failure is shown alone. -/
theorem shown_failure (h : remaining ≠ some 0) :
    shown skip remaining ((.error err : Result α) :: rest) = [.error err] := by
  cases skip with
  | zero => rw [shown, List.take_zero, List.findSome?_nil]; simp only [window_zero_cons h]; rfl
  | succ skip => rfl

/-- A row that is skipped is not shown. -/
theorem shown_skip : shown (skip + 1) remaining (.ok a :: rest) = shown skip remaining rest := by
  cases remaining <;> rfl

/-- A row is shown before what is shown behind it. -/
theorem shown_row (h : remaining ≠ some 0) : shown 0 remaining (.ok a :: rest) =
    .ok a :: shown 0 (remaining.map (· - 1)) rest := by
  simp only [shown, List.take_zero, List.findSome?_nil, window_zero_cons h, upToFailure]

/-- No results have to be known if there are none. -/
theorem needed_nil : needed skip remaining ([] : List (Result α)) = [] := by
  cases remaining <;> simp [needed, window, upToFailure]

/-- Nothing has to be known behind a failure. -/
theorem needed_failure (h : remaining ≠ some 0) :
    needed skip remaining ((.error err : Result α) :: rest) = [.error err] := by
  have hroom : remaining.map (skip + ·) ≠ some 0 := by
    cases remaining with
    | none => nofun
    | some n => simpa using fun _ heq => h (congrArg some heq)
  rw [needed, window_zero_cons hroom]
  rfl

/-- A row that is skipped has to be known. -/
theorem needed_skip :
    needed (skip + 1) remaining (.ok a :: rest) = .ok a :: needed skip remaining rest := by
  have hroom : remaining.map (skip + 1 + ·) ≠ some 0 := by
    cases remaining <;> simp
  have hless : (remaining.map (skip + 1 + ·)).map (· - 1) = remaining.map (skip + ·) := by
    cases remaining with
    | none => rfl
    | some n => simp only [Option.map_some, Nat.add_right_comm skip 1 n, Nat.add_sub_cancel]
  rw [needed, window_zero_cons hroom, hless]
  rfl

/-- A row that is given has to be known. -/
theorem needed_row (h : remaining ≠ some 0) : needed 0 remaining (.ok a :: rest) =
    .ok a :: needed 0 (remaining.map (· - 1)) rest := by
  have hzero (bound : Option ℕ) : bound.map (0 + ·) = bound := by
    cases bound <;> simp
  rw [needed, needed, hzero, hzero, window_zero_cons h]
  rfl

/-- A row that is shown leaves room for one row less. -/
theorem seesEnd_row (h : remaining ≠ some 0) (shown : List (Result α)) :
    seesEnd remaining (.ok a :: shown) = seesEnd (remaining.map (· - 1)) shown := by
  cases remaining with
  | none => rfl
  | some n =>
    cases n with
    | zero => exact absurd rfl h
    | succ n =>
      have hless : (some (n + 1) != some (shown.length + 1)) = (some n != some shown.length) := by
        simp [bne]
      simp [seesEnd, Except.toBool, hless]

end Results

/-! ### One call -/

section Call

variable (e : Executor σ) (map : Row → μ → α × μ) {items : Items} {remaining : Option ℕ} {skip : ℕ}
  {err : Error} {row : Row} {rest : List (Result Row)} (s : σ) (m : μ)

/-- A page that has failed has no more rows, and nothing is asked for. -/
theorem nextMapped_of_failed (h : items.failed = true) :
    items.nextMapped e map s m = (none, items, s, m) := by
  rw [nextMapped, next, h]
  rfl

/-- A page that is to give no more rows has none, and nothing is asked for. -/
theorem nextMapped_of_remaining (h : items.remaining = some 0) :
    items.nextMapped e map s m = (none, items, s, m) := by
  rw [nextMapped, next, h]
  simp

/-- A page without results has no row, and its cursor is asked once. -/
theorem nextMapped_nil (h : remaining ≠ some 0) :
    nextMapped e map ⟨[], skip, remaining, false⟩ s m =
      (none, ⟨[], skip - 1, remaining, false⟩, e.asked s, m) := by
  simp [nextMapped, next, advance, h]

/-- A failure is answered, and the page has failed. -/
theorem nextMapped_failure (h : remaining ≠ some 0) :
    nextMapped e map ⟨.error err :: rest, skip, remaining, false⟩ s m =
      (some (.error err), ⟨rest, skip - 1, remaining, true⟩, e.asked s, m) := by
  simp [nextMapped, next, advance, h]

/-- A row that is skipped is taken from the cursor, and nothing is made of it. -/
theorem nextMapped_skip (h : remaining ≠ some 0) :
    nextMapped e map ⟨.ok row :: rest, skip + 1, remaining, false⟩ s m =
      nextMapped e map ⟨rest, skip, remaining, false⟩ (e.asked s) m := by
  simp [nextMapped, next, advance, h]

/-- A row that is not skipped is given as the reader has it. -/
theorem nextMapped_row (h : remaining ≠ some 0) :
    nextMapped e map ⟨.ok row :: rest, 0, remaining, false⟩ s m =
      (some (.ok (map row m).1), ⟨rest, 0, remaining.map (· - 1), false⟩, e.asked s,
        (map row m).2) := by
  simp [nextMapped, next, advance, h]

end Call

/-! ### All calls -/

section Calls

variable {e : Executor σ} {map : Row → μ → α × μ} {remaining : Option ℕ} {skip : ℕ} {err : Error}
  {row : Row} {rest : List (Result Row)} {s : σ} {m : μ} {reading : Reading σ α μ}

/-- A row that is skipped is taken by the call that gives the first row behind it. -/
theorem readAll_skip (h : remaining ≠ some 0) (calls : ℕ) :
    readAll e map calls ⟨.ok row :: rest, skip + 1, remaining, false⟩ s m =
      readAll e map calls ⟨rest, skip, remaining, false⟩ (e.asked s) m := by
  cases calls with
  | zero => rfl
  | succ calls => rw [readAll, readAll, nextMapped_skip e map s m h]

/-- What reading to the end leads to. The answers are made of what is shown, and nothing else is
made. The cursor was asked for what is needed, and once more if its end had to be seen. There are no
more rows; after a failure the cursor is not even asked. -/
structure ReadsAs (e : Executor σ) (map : Row → μ → α × μ) (items : Items) (s : σ) (m : μ)
    (reading : Reading σ α μ) : Prop where
  made : (reading.answers, reading.reader) =
    mapResults map (shown items.skip items.remaining items.rows) m
  rows : reading.left.rows =
    items.rows.drop (needed items.skip items.remaining items.rows).length
  executor : reading.executor =
    e.asked^[(needed items.skip items.remaining items.rows).length +
      (seesEnd items.remaining (shown items.skip items.remaining items.rows)).toNat] s
  ended : ∀ s m, (reading.left.nextMapped e map s m).1 = none
  settled : (∃ err, .error err ∈ shown items.skip items.remaining items.rows) →
    ∀ s m, reading.left.nextMapped e map s m = (none, reading.left, s, m)

/-- A page that is to give no rows is left as it is. -/
theorem readsAs_zero (results : List (Result Row)) :
    ReadsAs e map ⟨results, 0, some 0, false⟩ s m ⟨[], ⟨results, 0, some 0, false⟩, s, m⟩ where
  made := rfl
  rows := rfl
  executor := rfl
  ended s m := by rw [nextMapped_of_remaining e map s m rfl]
  settled := by simp [shown_zero]

/-- At the end of the cursor there is nothing, and that end was seen. -/
theorem readsAs_nil (h : remaining ≠ some 0) :
    ReadsAs e map ⟨[], skip, remaining, false⟩ s m
      ⟨[], ⟨[], skip - 1, remaining, false⟩, e.asked s, m⟩ where
  made := by rw [shown_nil]; rfl
  rows := List.drop_nil.symm
  executor := by
    have hend : seesEnd remaining ([] : List (Result Row)) = true := by simpa [seesEnd] using h
    rw [needed_nil, shown_nil, hend]
    rfl
  ended s m := by rw [nextMapped_nil e map s m h]
  settled := by simp [shown_nil]

/-- A failure is all there is. -/
theorem readsAs_failure (h : remaining ≠ some 0) :
    ReadsAs e map ⟨.error err :: rest, skip, remaining, false⟩ s m
      ⟨[.error err], ⟨rest, skip - 1, remaining, true⟩, e.asked s, m⟩ where
  made := by rw [shown_failure h]; rfl
  rows := by rw [needed_failure h]; rfl
  executor := by rw [needed_failure h, shown_failure h]; rfl
  ended s m := by rw [nextMapped_of_failed e map s m rfl]
  settled _ s m := nextMapped_of_failed e map s m rfl

/-- Behind a row that is skipped the page is read as it would be without that row. -/
theorem readsAs_skip (h : ReadsAs e map ⟨rest, skip, remaining, false⟩ (e.asked s) m reading) :
    ReadsAs e map ⟨.ok row :: rest, skip + 1, remaining, false⟩ s m reading where
  made := by rw [shown_skip]; exact h.made
  rows := by rw [needed_skip]; exact h.rows
  executor := by
    rw [needed_skip, shown_skip, List.length_cons, Nat.add_right_comm, Function.iterate_succ_apply]
    exact h.executor
  ended := h.ended
  settled := by rw [shown_skip]; exact h.settled

/-- A row that is given comes before all that is read behind it. -/
theorem readsAs_row (hroom : remaining ≠ some 0)
    (h : ReadsAs e map ⟨rest, 0, remaining.map (· - 1), false⟩ (e.asked s) (map row m).2 reading) :
    ReadsAs e map ⟨.ok row :: rest, 0, remaining, false⟩ s m
      (reading.prepend (.ok (map row m).1)) where
  made := by
    simp only [shown_row hroom, mapResults, ← h.made]
    rfl
  rows := by rw [needed_row hroom]; exact h.rows
  executor := by
    rw [needed_row hroom, shown_row hroom, seesEnd_row hroom, List.length_cons,
      Nat.add_right_comm, Function.iterate_succ_apply]
    exact h.executor
  ended := h.ended
  settled := by
    rintro ⟨err, hmem⟩
    rw [shown_row hroom, List.mem_cons] at hmem
    exact h.settled ⟨err, hmem.resolve_left nofun⟩

/-- If there is a next row it is the first answer, before what all later calls answer. -/
theorem readAll_of_some {items next : Items} {answer : Result α} {s' : σ} {m' : μ}
    (h : items.nextMapped e map s m = (some answer, next, s', m')) (calls : ℕ) :
    readAll e map (calls + 1) items s m =
      (readAll e map calls next s' m').map (Reading.prepend answer) := by
  rw [readAll, h]

/-- If there is no next row, that call is the last. -/
theorem readAll_of_none {items next : Items} {s' : σ} {m' : μ}
    (h : items.nextMapped e map s m = (none, next, s', m')) {calls : ℕ} (hcalls : 0 < calls) :
    readAll e map calls items s m = some ⟨[], next, s', m'⟩ := by
  obtain ⟨calls, rfl⟩ := Nat.exists_eq_succ_of_ne_zero (Nat.pos_iff_ne_zero.mp hcalls)
  rw [readAll, h]

variable (e map)

/-- A page that is to give no rows is read with the first call. -/
theorem exists_readAll_zero (results : List (Result Row)) (s : σ) (m : μ) :
    ∃ reading, ReadsAs e map ⟨results, 0, some 0, false⟩ s m reading ∧
      ∀ calls, (shown 0 (some 0) results).length < calls →
        readAll e map calls ⟨results, 0, some 0, false⟩ s m = some reading :=
  ⟨_, readsAs_zero results, fun _ hcalls =>
    readAll_of_none (nextMapped_of_remaining e map s m rfl) hcalls⟩

/-- A page can be read to its end, with one call more than there are answers, unless it is to give
no rows and there are rows to be skipped. -/
theorem exists_readAll (results : List (Result Row)) (hbound : remaining = some 0 → skip = 0)
    (s : σ) (m : μ) :
    ∃ reading, ReadsAs e map ⟨results, skip, remaining, false⟩ s m reading ∧
      ∀ calls, (shown skip remaining results).length < calls →
        readAll e map calls ⟨results, skip, remaining, false⟩ s m = some reading := by
  -- The bound decreases on the way, so that each of the results may find it exhausted.
  induction results generalizing skip remaining s m with
  | nil =>
    rcases eq_or_ne remaining (some 0) with rfl | hroom
    · obtain rfl := hbound rfl
      exact exists_readAll_zero e map [] s m
    · exact ⟨_, readsAs_nil hroom, fun calls hcalls =>
        readAll_of_none (nextMapped_nil e map s m hroom) (by omega)⟩
  | cons result rest ih =>
    rcases eq_or_ne remaining (some 0) with rfl | hroom
    · obtain rfl := hbound rfl
      exact exists_readAll_zero e map (result :: rest) s m
    match result, skip with
    | .error err, skip =>
      refine ⟨_, readsAs_failure hroom, fun calls hcalls => ?_⟩
      rw [shown_failure hroom, List.length_singleton] at hcalls
      obtain ⟨calls, rfl⟩ := Nat.exists_eq_add_of_lt hcalls
      rw [readAll_of_some (nextMapped_failure e map s m hroom),
        readAll_of_none (nextMapped_of_failed e map _ m rfl) (by omega)]
      rfl
    | .ok row, skip + 1 =>
      obtain ⟨reading, hreads, hcalls⟩ := ih (fun h => absurd h hroom) (e.asked s) m
      refine ⟨reading, readsAs_skip hreads, fun calls hless => ?_⟩
      rw [readAll_skip hroom]
      exact hcalls calls (by rwa [shown_skip] at hless)
    | .ok row, 0 =>
      obtain ⟨reading, hreads, hcalls⟩ :=
        ih (fun _ => rfl : remaining.map (· - 1) = some 0 → 0 = 0) (e.asked s) (map row m).2
      refine ⟨_, readsAs_row hroom hreads, fun calls hless => ?_⟩
      rw [shown_row hroom, List.length_cons] at hless
      obtain ⟨calls, rfl⟩ : ∃ n, calls = n + 1 := Nat.exists_eq_add_one.mpr (by omega)
      rw [readAll_of_some (nextMapped_row e map s m hroom), hcalls calls (by omega)]
      rfl

end Calls

/-- A page of a cursor is to give rows: an empty bound is none. -/
theorem remaining_itemsOf (e : Executor σ) (query countQuery : Descriptor) (first : Option Cursor)
    (offset : ℕ) (perPage : Option ℕ) (cursor : Cursor) :
    ((Paged.ofCursor query countQuery first offset perPage).itemsOf e cursor).remaining ≠
      some 0 := by
  cases hpaging : e.appliesPaging <;> simp [Paged.itemsOf, Paged.ofCursor, hpaging]

/-- A page of a cursor has not failed and is to give rows, with a bound of one or more or with none.
A page that has not failed and is to give rows, whatever its cursor holds, is read to its end in one
call more than there are answers: those made of what it shows. A page that is to give no rows gives
none, and its cursor is not asked, also if there are rows to be skipped. -/
theorem readAll_shows (e : Executor σ) (map : Row → μ → α × μ) :
    (∀ query countQuery first offset perPage cursor,
      let items := (Paged.ofCursor query countQuery first offset perPage).itemsOf e cursor
      items.failed = false ∧ items.remaining ≠ some 0) ∧
    ∀ (results : List (Result Row)) (skip : ℕ) (remaining : Option ℕ) (s : σ) (m : μ),
      let items : Items := ⟨results, skip, remaining, false⟩
      (remaining ≠ some 0 → ∃ reading, ReadsAs e map items s m reading ∧
        ∀ calls, (shown skip remaining results).length < calls →
          readAll e map calls items s m = some reading) ∧
      (remaining = some 0 → ∀ calls, 0 < calls →
        readAll e map calls items s m = some ⟨[], items, s, m⟩) := by
  refine ⟨fun query countQuery first offset perPage cursor =>
      ⟨rfl, remaining_itemsOf e query countQuery first offset perPage cursor⟩,
    fun results skip remaining s m => ⟨fun hroom => ?_, fun hzero calls hcalls => ?_⟩⟩
  · exact exists_readAll e map results (fun hzero => absurd hzero hroom) s m
  · exact readAll_of_none (nextMapped_of_remaining e map s m hzero) hcalls

/-- An executor that counts how often its cursors are asked. -/
def countingAsks : Executor ℕ := ⟨false, false, none, fun _ s => (.ok ⟨none, []⟩, s), (· + 1)⟩

/-- A row of a node without properties. -/
def rowOf (path : String) : Result Row := .ok ⟨⟨path, ⟨"page", []⟩⟩, ⟨0x3FF0000000000000⟩⟩

/-- A page whose cursor fails behind the second row. -/
def failingPage : Items :=
  (Paged.ofCursor (.ofLanguage .sql2) (.ofLanguage .sql2) none 1 (some 4)).itemsOf countingAsks
    ⟨none, [rowOf "/a", rowOf "/b", .error (.execution "lost"), rowOf "/c"]⟩

/-- The paths of rows, of which the reader keeps a list. -/
def listPath (row : Row) (seen : List String) : String × List String :=
  (row.node.path, seen ++ [row.node.path])

/-- Of that page the second row and the failure are shown, whatever is read behind them. -/
theorem readAll_failingPage :
    failingPage.remaining ≠ some 0 ∧ ∃ reading,
      readAll countingAsks listPath 9 failingPage 0 [] = some reading ∧
      reading.answers = [.ok "/b", .error (.execution "lost")] ∧ reading.reader = ["/b"] ∧
      reading.executor = 3 ∧ reading.left.rows = [rowOf "/c"] := by
  obtain ⟨hopened, hread⟩ := readAll_shows countingAsks listPath
  obtain ⟨-, hroom⟩ := hopened (.ofLanguage .sql2) (.ofLanguage .sql2) none 1 (some 4)
    ⟨none, [rowOf "/a", rowOf "/b", .error (.execution "lost"), rowOf "/c"]⟩
  obtain ⟨reading, hreads, hcalls⟩ := (hread failingPage.rows 1 (some 4) 0 []).1 (by simp)
  have hmade := Prod.mk.inj hreads.made
  exact ⟨hroom, reading, hcalls 9 (by decide), hmade.1, hmade.2, hreads.executor, hreads.rows⟩

/-- An empty bound is not read as that of a window. A page that is to give no rows but to skip one
does not give the failure that it would meet. And a page of a cursor with an empty bound gives all
its rows, where a window without room has none. -/
theorem empty_bound_shows_otherwise :
    shown 1 (some 0) [(.error (.execution "lost") : Result Row)] =
      [.error (.execution "lost")] ∧
    readAll countingAsks listPath 1 ⟨[.error (.execution "lost")], 1, some 0, false⟩ 0 [] =
      some ⟨[], ⟨[.error (.execution "lost")], 1, some 0, false⟩, 0, []⟩ ∧
    shown 0 (some 0) [rowOf "/a"] = [] ∧
    ((readAll countingAsks listPath 2 ((Paged.ofCursor (.ofLanguage .sql2) (.ofLanguage .sql2) none
      0 (some 0)).itemsOf countingAsks ⟨none, [rowOf "/a"]⟩) 0 []).map (·.answers)) =
      some [.ok "/a"] :=
  ⟨rfl, rfl, rfl, rfl⟩

end Items

end ContentQuery
