import OpaqueId.Text.Width

/-! # Grids: tables with a border around every cell

    A cell may have several lines.  Each column is as wide as its widest
    line, cells are padded on the right to the width of their column and at
    the bottom to the height of their row, and a rule stands above, below
    and between all rows. -/

namespace OpaqueId.Text

/-- The lines of a cell; a line break at the end opens an empty line. -/
def lines (cell : String) : List (List Char) := cell.toList.splitOn '\n'

/-- The columns of the widest line of a cell. -/
def cellWidth (cell : String) : Nat :=
  ((lines cell).map lineWidth).foldl max 0

/-- A grid of `columns` columns whose rows are functions of the column. -/
structure Grid (columns : Nat) where
  rows : List (Fin columns → String)

namespace Grid

variable {columns : Nat}

/-- The width of a column. -/
def width (g : Grid columns) (j : Fin columns) : Nat :=
  (g.rows.map fun row => cellWidth (row j)).foldl max 0

/-- The widths of all columns. -/
def widths (g : Grid columns) : List Nat := List.ofFn g.width

end Grid

/-- A line that separates rows. -/
def rule (widths : List Nat) : List Char :=
  '+' :: widths.flatMap fun w => List.replicate (w + 2) '-' ++ ['+']

/-- A line of a cell, padded to the width of its column. -/
def pad (width : Nat) (line : List Char) : List Char :=
  line ++ List.replicate (width - lineWidth line) ' '

/-- One line of a row, given the line of each cell. -/
def rowLine (widths : List Nat) (cells : List (List Char)) : List Char :=
  '|' :: (widths.zip cells).flatMap fun (w, line) => ' ' :: pad w line ++ [' ', '|']

/-- All lines of a row; cells with fewer lines are filled up with empty ones. -/
def rowLines (widths : List Nat) (cells : List (List (List Char))) : List (List Char) :=
  let height := (cells.map List.length).foldl max 0
  (List.range height).map fun i => rowLine widths (cells.map fun cell => cell.getD i [])

/-- The grid as text, without a line break at the end. -/
def Grid.render {columns : Nat} (g : Grid columns) : String :=
  let widths := g.widths
  let body := g.rows.flatMap fun row =>
    rowLines widths (List.ofFn fun j => lines (row j)) ++ [rule widths]
  String.ofList (List.intercalate ['\n'] (rule widths :: body))

end OpaqueId.Text
