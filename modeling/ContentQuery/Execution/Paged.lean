import ContentQuery.Execution.Items

/-!
# Pages of results

A page of the results of a descriptor. It keeps the cursor of the first run for the first reader;
later readers need the descriptor to be run again. The number of all matches is found when it is
first asked for, from the cursor if that knows it and by a count otherwise, and is then kept. The
place of the page among all pages needs that number.
-/

namespace ContentQuery

/-- A page of results. -/
structure Paged where
  query : Descriptor
  countQuery : Descriptor
  /-- The cursor of the first run, until it is handed out. -/
  pending : Option Cursor
  /-- The number of all matches that the first cursor knew. -/
  nativeSize : Option Nat
  /-- The number of all matches, once it was found. -/
  total : Option Nat
  offset : Nat
  /-- How many rows a page has, if that is bounded. -/
  perPage : Option Nat

namespace Paged

variable {σ : Type}

/-- A page of the results of a run; without a cursor the first reader runs the descriptor. -/
def ofCursor (query countQuery : Descriptor) (cursor : Option Cursor) (offset : Nat)
    (perPage : Option Nat) : Paged :=
  ⟨query, countQuery, cursor, cursor.bind (·.size), none, offset, perPage.filter (0 < ·)⟩

/-- The cursor for the next reader. -/
def takeCursor (e : Executor σ) (p : Paged) (s : σ) : Result Cursor × Paged × σ :=
  match p.pending with
  | some cursor => (.ok cursor, { p with pending := none }, s)
  | none =>
    if e.supportsRequery then
      let (answer, s) := e.execute p.query s
      (answer, p, s)
    else (.error (.illegalState .rowsConsumed), p, s)

/-- The rows of the page. They are skipped and bounded here if the executor does not do it. -/
def items (e : Executor σ) (p : Paged) (s : σ) : Result Items × Paged × σ :=
  let (answer, p, s) := p.takeCursor e s
  let (skip, remaining) := if e.appliesPaging then (0, none) else (p.offset, p.perPage)
  (answer.map fun cursor => ⟨cursor.rows, skip, remaining, false⟩, p, s)

/-- Counts rows up to the first failure. -/
def countRows (e : Executor σ) : List (Result Row) → σ → Result Nat × σ
  | [], s => (.ok 0, e.asked s)
  | .error err :: _, s => (.error err, e.asked s)
  | .ok _ :: rest, s =>
    let (n, s) := countRows e rest (e.asked s)
    (n.map (· + 1), s)

/-- Finds the number of all matches. -/
def findTotal (e : Executor σ) (p : Paged) (s : σ) : Result Nat × σ :=
  match p.nativeSize with
  | some n => (.ok n, s)
  | none =>
    match e.execute p.countQuery s with
    | (.error err, s) => (.error err, s)
    | (.ok cursor, s) =>
      match cursor.size with
      | some n => (.ok n, s)
      | none => countRows e cursor.rows s

/-- The number of all matches. -/
def totalSize (e : Executor σ) (p : Paged) (s : σ) : Result Nat × Paged × σ :=
  match p.total with
  | some n => (.ok n, p, s)
  | none =>
    match p.findTotal e s with
    | (.ok n, s) => (.ok n, { p with total := some n }, s)
    | (.error err, s) => (.error err, p, s)

/-- Whether the number of all matches was found. -/
def isDetermined (p : Paged) : Bool := p.total.isSome

/-- The number of the page, from one on, as a word of 64 bits: behind the last word comes zero. -/
def page (p : Paged) : Result Nat :=
  match p.total with
  | none => .error (.illegalState .page)
  | some _ =>
    match p.perPage with
    | some n => .ok ((p.offset / n + 1) % UInt64.size)
    | none => .ok 1

/-- The number of pages. -/
def pages (p : Paged) : Result Nat :=
  match p.total with
  | none => .error (.illegalState .pages)
  | some total =>
    match p.perPage with
    | some n => .ok ((total + n - 1) / n)
    | none => .ok (if 0 < total then 1 else 0)

end Paged

end ContentQuery
