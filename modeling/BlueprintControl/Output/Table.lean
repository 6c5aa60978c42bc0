import BlueprintControl.Text.Width

/-!
# Tables

Tables are drawn with plain characters. A column is as wide as its widest line, and a cell may
have several lines.

## Main definitions

* `Table`: the titles of the columns, and the rows.
* `Table.render`: the drawn table, without a line end at its end.
-/
namespace BlueprintControl

/-- A table of texts; every row has as many cells as there are titles. -/
structure Table where
  titles : List String
  rows : List (List String)

namespace Table

/-- The lines of a cell. -/
def cellLines (cell : String) : List String := cell.splitOn "\n"

/-- The width of the widest line of a cell. -/
def cellWidth (cell : String) : Nat := ((cellLines cell).map Text.width).foldl max 0

/-- The widths of the columns of some rows. -/
def columnWidths (rows : List (List String)) : List Nat :=
  rows.foldl (fun widths row =>
    row.zipIdx.map fun (cell, i) => max ((widths[i]?).getD 0) (cellWidth cell)) []

/-- That many copies of a character. -/
def copies (n : Nat) (c : Char) : String := String.ofList (List.replicate n c)

/-- The line between two rows. -/
def border (widths : List Nat) : String :=
  "+" ++ String.join (widths.map fun w => copies (w + 2) '-' ++ "+")

/-- One line of a row: the line with that number of every cell. -/
def rowLine (widths : List Nat) (cells : List (List String)) (i : Nat) : String :=
  "|" ++ String.join ((widths.zip cells).map fun (w, lines) =>
    let line := (lines[i]?).getD ""
    " " ++ line ++ copies (w - Text.width line) ' ' ++ " |")

/-- The lines of a row. -/
def rowLines (widths : List Nat) (row : List String) : List String :=
  let cells := row.map cellLines
  let height := (cells.map List.length).foldl max 1
  (List.range height).map (rowLine widths cells)

/-- The drawn table. -/
def render (t : Table) : String :=
  let rows := t.titles :: t.rows
  let widths := columnWidths rows
  let edge := border widths
  "\n".intercalate (edge :: rows.flatMap fun row => rowLines widths row ++ [edge])

end Table
end BlueprintControl
