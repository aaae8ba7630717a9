import ContentQuery.Execution.Items
import ContentQuery.Proofs.Error

/-!
# Reading a page

A page without failures is read as the part of its rows that begins after those to be skipped and
ends with the bound. One step of reading takes the first of these, and reading on takes them all,
in their order.
-/

namespace ContentQuery

/-- The part of a list behind the members that are skipped, up to a bound. -/
def window {α : Type} (skip : Nat) (bound : Option Nat) (all : List α) : List α :=
  match bound with
  | none => all.drop skip
  | some n => (all.drop skip).take n

/-- A window is a part of its list. -/
theorem length_window_le {α : Type} (skip : ℕ) (bound : Option ℕ) (all : List α) :
    (window skip bound all).length ≤ all.length := by
  cases bound with
  | none => exact (List.drop_sublist skip all).length_le
  | some n => exact ((List.take_sublist n _).trans (List.drop_sublist skip all)).length_le

/-- The window of an image is the image of the window. -/
theorem window_map {α β : Type} (f : α → β) (skip : ℕ) (bound : Option ℕ) (all : List α) :
    window skip bound (all.map f) = (window skip bound all).map f := by
  cases bound with
  | none => simp [window]
  | some n => simp [window]

/-- Windows of one size that follow each other are the list again, up to the end of the last. -/
theorem flatten_windows {α : Type} (n count : ℕ) (all : List α) :
    ((List.range count).map fun i => window (i * n) (some n) all).flatten =
      all.take (count * n) := by
  induction count with
  | zero => simp
  | succ count ih =>
    rw [List.range_succ, List.map_append, List.flatten_append, ih, Nat.succ_mul, List.take_add]
    simp [window]

namespace Items

variable {σ : Type} (e : Executor σ)

/-- A page of rows none of which fails. -/
def ofRows (rows : List Row) (skip : Nat) (remaining : Option Nat) : Items :=
  ⟨rows.map .ok, skip, remaining, false⟩

/-- Past the rows that are skipped there is none. -/
theorem advance_of_drop_nil {skip : ℕ} {rows : List Row} (h : rows.drop skip = []) (s : σ) :
    (advance e skip (rows.map .ok) s).1 = none := by
  induction rows generalizing skip s with
  | nil => rw [List.map_nil, advance]
  | cons first rest ih =>
    cases skip with
    | zero => cases h
    | succ left => exact ih h (e.asked s)

/-- Past the rows that are skipped the next one is answered. -/
theorem advance_of_drop_cons {skip : ℕ} {rows : List Row} {row : Row} {later : List Row}
    (h : rows.drop skip = row :: later) (s : σ) :
    ∃ s', advance e skip (rows.map .ok) s = (some (.ok row), 0, later.map .ok, s') := by
  induction rows generalizing skip s with
  | nil => simp at h
  | cons first rest ih =>
    cases skip with
    | zero =>
      cases h
      exact ⟨e.asked s, rfl⟩
    | succ left => exact ih h (e.asked s)

/-- A page whose window is empty has no next row. -/
theorem next_of_window_nil {rows : List Row} {skip : ℕ} {remaining : Option ℕ}
    (h : window skip remaining rows = []) (s : σ) :
    ((ofRows rows skip remaining).next e s).1 = none := by
  rw [next]
  split
  · rfl
  · next hopen =>
    have hdrop : rows.drop skip = [] := by
      cases remaining with
      | none => exact h
      | some n =>
        rcases List.take_eq_nil_iff.mp h with rfl | hdrop
        · simp [ofRows] at hopen
        · exact hdrop
    have hnone := advance_of_drop_nil e hdrop s
    simp only [ofRows]
    rcases hadvance : advance e skip (rows.map .ok) s with ⟨answer, left, later, s'⟩
    rw [hadvance] at hnone
    cases hnone
    rfl

/-- The next row of a page is the first one of its window; the others are left. -/
theorem next_of_window_cons {rows : List Row} {skip : ℕ} {remaining : Option ℕ} {row : Row}
    {later : List Row} (h : window skip remaining rows = row :: later) (s : σ) :
    ∃ rest bound s', (ofRows rows skip remaining).next e s =
      (some (.ok row), ofRows rest 0 bound, s') ∧ window 0 bound rest = later := by
  have hopen : ((ofRows rows skip remaining).failed ||
      (ofRows rows skip remaining).remaining == some 0) = false := by
    cases remaining with
    | none => rfl
    | some n =>
      cases n with
      | zero => simp [window] at h
      | succ n => simp [ofRows]
  obtain ⟨rest, hdrop, hlater⟩ : ∃ rest, rows.drop skip = row :: rest ∧
      window 0 (remaining.map (· - 1)) rest = later := by
    cases remaining with
    | none => exact ⟨later, h, rfl⟩
    | some n =>
      cases n with
      | zero => simp [window] at h
      | succ n =>
        rw [window] at h
        cases hrows : rows.drop skip with
        | nil => simp [hrows] at h
        | cons first rest =>
          rw [hrows, List.take_succ_cons, List.cons.injEq] at h
          obtain ⟨rfl, hrest⟩ := h
          exact ⟨rest, rfl, hrest⟩
  obtain ⟨s', hadvance⟩ := advance_of_drop_cons e hdrop s
  refine ⟨rest, remaining.map (· - 1), s', ?_, hlater⟩
  rw [next, hopen]
  simp only [ofRows, hadvance]
  rfl

/-- Reading a page in steps gives as many rows of its window. -/
theorem readRows_ofRows (steps : ℕ) (rows : List Row) (skip : ℕ) (remaining : Option ℕ) (s : σ) :
    (readRows e steps (ofRows rows skip remaining) s).1 =
      .ok ((window skip remaining rows).take steps) := by
  induction steps generalizing rows skip remaining s with
  | zero => rfl
  | succ steps ih =>
    rw [readRows]
    cases hwindow : window skip remaining rows with
    | nil =>
      have hnone := next_of_window_nil e hwindow s
      rcases hnext : (ofRows rows skip remaining).next e s with ⟨answer, left, s'⟩
      rw [hnext] at hnone
      cases hnone
      rfl
    | cons row later =>
      obtain ⟨rest, bound, s', hnext, hlater⟩ := next_of_window_cons e hwindow s
      have hrest := ih rest 0 bound s'
      rw [hlater] at hrest
      rw [hnext]
      simp only [hrest]
      rfl

/-- Reading a page to its end gives its whole window. -/
theorem toRows_ofRows (rows : List Row) (skip : ℕ) (remaining : Option ℕ) (s : σ) :
    (toRows e (ofRows rows skip remaining) s).1 = .ok (window skip remaining rows) := by
  have hlength := length_window_le skip remaining rows
  rw [toRows, readRows_ofRows, List.take_of_length_le]
  simp only [ofRows, List.length_map]
  omega

end Items

end ContentQuery
