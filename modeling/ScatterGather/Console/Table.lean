import ScatterGather.Text.Split
import ScatterGather.Text.Width

/-!
# Console/Table — tables drawn with box characters

A `TextTable` has a header and rows.  Every column is as wide as its widest line and one blank on
either side; a cell may have several lines.
-/

namespace ScatterGather

/-- A header and the rows below it. -/
structure TextTable where
  header : List String
  rows : List (List String)
  deriving DecidableEq

namespace TextTable

/-- The lines of a cell. -/
def cellLines (cell : String) : List (List Char) := Text.splitAll '\n' cell.toList

/-- The width of a cell: that of its widest line. -/
def cellWidth (cell : String) : Nat := ((cellLines cell).map Text.displayWidth).foldl max 0

/-- The widths of the columns. -/
def widths (t : TextTable) : List Nat :=
  (List.range t.header.length).map fun i =>
    ((t.header :: t.rows).map fun row => cellWidth (row.getD i "")).foldl max 0

/-- A horizontal line: a mark repeated over every column, with ends and crossings. -/
def rule (widths : List Nat) (left mark crossing right : String) : String :=
  let pieces := widths.map fun w => String.join (List.replicate (w + 2) mark)
  left ++ Text.join crossing pieces ++ right

/-- A line of a cell between blanks, up to the width of its column. -/
def padded (width : Nat) (line : List Char) : String :=
  " " ++ String.ofList (line ++ List.replicate (width - Text.displayWidth line) ' ') ++ " "

/-- The lines of a row. -/
def rowLines (widths : List Nat) (row : List String) : List String :=
  let cells := row.map cellLines
  let height := (cells.map List.length).foldl max 0
  (List.range height).map fun i =>
    "│" ++ Text.join "┆" ((widths.zip cells).map fun c => padded c.1 (c.2.getD i [])) ++ "│"

/-- The lines of rows with a line between any two. -/
def bodyLines (widths : List Nat) : List (List String) → List String
  | [] => []
  | [row] => rowLines widths row
  | row :: rest =>
    rowLines widths row ++ rule widths "├" "╌" "┼" "┤" :: bodyLines widths rest

/-- The lines of a table. -/
def lines (t : TextTable) : List String :=
  let ws := t.widths
  rule ws "┌" "─" "┬" "┐" :: rowLines ws t.header ++ rule ws "╞" "═" "╪" "╡" ::
    bodyLines ws t.rows ++ [rule ws "└" "─" "┴" "┘"]

/-- The table as text. -/
def render (t : TextTable) : String := Text.join "\n" t.lines

end TextTable

end ScatterGather
