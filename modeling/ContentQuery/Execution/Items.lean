import ContentQuery.Execution.Executor

/-!
# The rows of a page

A page is read a row at a time. Rows before the page are skipped when the first row is asked for,
and none is read after the last. A failure ends the page, also one that is met while skipping.
-/

namespace ContentQuery

/-- A page that is being read. -/
structure Items where
  rows : List (Result Row)
  /-- How many rows are still to be skipped. -/
  skip : Nat
  /-- How many rows are still to be given, if that is bounded. -/
  remaining : Option Nat
  /-- Whether a failure was met. -/
  failed : Bool

namespace Items

variable {σ : Type}

/-- Skips rows and answers the one after them, or the first failure. Also answers what is left to
skip and to read. -/
def advance (e : Executor σ) (skip : Nat) (rows : List (Result Row)) (s : σ) :
    Option (Result Row) × Nat × List (Result Row) × σ :=
  match rows with
  | [] => (none, skip - 1, [], e.asked s)
  | .error err :: rest => (some (.error err), skip - 1, rest, e.asked s)
  | .ok row :: rest =>
    match skip with
    | 0 => (some (.ok row), 0, rest, e.asked s)
    | left + 1 => advance e left rest (e.asked s)

/-- The next row of the page. -/
def next (e : Executor σ) (items : Items) (s : σ) : Option (Result Row) × Items × σ :=
  if items.failed || items.remaining == some 0 then (none, items, s)
  else
    let (answer, skip, rows, s) := advance e items.skip items.rows s
    match answer with
    | none => (none, { items with skip := skip, rows := rows }, s)
    | some (.error err) =>
      (some (.error err), { items with skip := skip, rows := rows, failed := true }, s)
    | some (.ok row) =>
      (some (.ok row),
        { items with skip := skip, rows := rows, remaining := items.remaining.map (· - 1) }, s)

/-- The next row of the page as a reader has it. What is made of a row may depend on the rows before
it, so that the reader's state is taken and the next one given. -/
def nextMapped {α μ : Type} (e : Executor σ) (map : Row → μ → α × μ) (items : Items) (s : σ)
    (m : μ) : Option (Result α) × Items × σ × μ :=
  match items.next e s with
  | (none, items, s) => (none, items, s, m)
  | (some (.error err), items, s) => (some (.error err), items, s, m)
  | (some (.ok row), items, s) =>
    let (made, m) := map row m
    (some (.ok made), items, s, m)

/-- The rows of a page, read in a number of steps, up to the first failure. -/
def readRows (e : Executor σ) : Nat → Items → σ → Result (List Row) × σ
  | 0, _, s => (.ok [], s)
  | steps + 1, items, s =>
    match items.next e s with
    | (none, _, s) => (.ok [], s)
    | (some (.error err), _, s) => (.error err, s)
    | (some (.ok row), items, s) =>
      let (rest, s) := readRows e steps items s
      (rest.map (row :: ·), s)

/-- All rows of a page. Every step but the last takes a row from the cursor. -/
def toRows (e : Executor σ) (items : Items) (s : σ) : Result (List Row) × σ :=
  readRows e (items.rows.length + 1) items s

end Items

end ContentQuery
