import ContentQuery.Text.Basic
import ContentQuery.Text.Width

/-!
# Tables

A table of texts between lines. Every column is as wide as its widest cell, and a row is as high as
its cell with the most lines. There is a double line below the header and none between the rows.
-/

namespace ContentQuery

/-- A header, and rows with a cell for each of its columns. -/
structure Table where
  header : List String
  rows : List (List String)

namespace Table

/-- The lines of a cell. -/
abbrev Cell := List (List Char)

/-- The cell of a text. -/
def cellOf (s : String) : Cell := Text.pieces (· == '\n') s.toList

/-- The number of columns on the screen that a cell takes. -/
def cellWidth (cell : Cell) : Nat := (cell.map Text.width).foldl max 0

/-- The wider one of each two widths. -/
def widen : List Nat → List Nat → List Nat
  | m :: ms, n :: ns => max m n :: widen ms ns
  | ms, [] => ms
  | [], ns => ns

/-- The widths of the columns of some rows. -/
def widths (rows : List (List Cell)) : List Nat :=
  (rows.map (List.map cellWidth)).foldl widen []

/-- A line of text at the given width. -/
def pad (width : Nat) (line : List Char) : String :=
  String.ofList (line ++ List.replicate (width - Text.width line) ' ')

/-- One of the lines that a row is made of. -/
def rowLine (widths : List Nat) (row : List Cell) (line : Nat) : String :=
  let parts := widths.zipWith (fun width cell => pad width (cell[line]?.getD [])) row
  "│ " ++ Text.joinWith " ┆ " parts ++ " │"

/-- The lines of a row. -/
def rowLines (widths : List Nat) (row : List Cell) : List String :=
  let height := (row.map List.length).foldl max 0
  (List.range height).map (rowLine widths row)

/-- A line across the table. -/
def rule (first : String) (fill : Char) (between last : String) (widths : List Nat) : String :=
  let parts := widths.map fun width => String.ofList (List.replicate (width + 2) fill)
  first ++ Text.joinWith between parts ++ last

/-- The lines of the table. -/
def lines (table : Table) : List String :=
  let header := table.header.map cellOf
  let rows := table.rows.map (List.map cellOf)
  let widths := widths (header :: rows)
  [rule "┌" '─' "┬" "┐" widths] ++ rowLines widths header ++ [rule "╞" '═' "╪" "╡" widths] ++
    rows.flatMap (rowLines widths) ++ [rule "└" '─' "┴" "┘" widths]

end Table

end ContentQuery
