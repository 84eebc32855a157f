import AzcRepair.Text.Lines
import AzcRepair.Text.Width

/-!
# Tables

A table is drawn with box characters: an outer frame, a double line below the heading and dashed
lines between rows and columns. A cell may have several lines. A column is as wide as the widest
line in it, and every line has a blank on both sides.
-/

namespace AzcRepair.Text

/-- A heading and rows, each a list of cells. -/
structure Table where
  heading : List String
  rows : List (List String)
  deriving Repr

namespace Table

/-- The lines of a cell. A line feed at the end begins another, empty line. -/
def cellLines (cell : String) : List String :=
  (pieces '\n' cell.toList).map String.ofList

/-- The width of the widest line of a cell. -/
def cellWidth (cell : String) : Nat :=
  ((cellLines cell).map width).foldl max 0

/-- The width of each column: the widest cell in it. -/
def columnWidths (table : Table) : List Nat :=
  table.rows.foldl (fun widths row => List.zipWith max widths (row.map cellWidth))
    (table.heading.map cellWidth)

/-- A text filled up with blanks to a width. -/
def padTo (columns : Nat) (text : String) : String :=
  text ++ String.ofList (List.replicate (columns - width text) ' ')

/-- A horizontal line: how it begins, what it consists of, what crosses it, how it ends. -/
def rule (first fill cross last : Char) (widths : List Nat) : String :=
  first.toString ++
    cross.toString.intercalate (widths.map fun w => String.ofList (List.replicate (w + 2) fill)) ++
    last.toString

def textLine (widths : List Nat) (texts : List String) : String :=
  "│ " ++ " ┆ ".intercalate (List.zipWith padTo widths texts) ++ " │"

/-- The lines of a row; a cell with fewer lines than another is filled up with empty ones. -/
def rowLines (widths : List Nat) (row : List String) : List String :=
  let cells := row.map cellLines
  let height := (cells.map List.length).foldl max 0
  (List.range height).map fun i => textLine widths (cells.map fun lines => lines.getD i "")

/-- The lines of the rows, with a dashed line between two of them. -/
def bodyLines (widths : List Nat) (rows : List (List String)) : List String :=
  [rule '├' '╌' '┼' '┤' widths].intercalate (rows.map (rowLines widths))

/-- The lines of a table joined by line feeds, without one at the end. The heading is drawn as a
row of its own between the frame and the double line. -/
def render (table : Table) : String :=
  let widths := table.columnWidths
  "\n".intercalate ([rule '┌' '─' '┬' '┐' widths] ++ rowLines widths table.heading ++
    [rule '╞' '═' '╪' '╡' widths] ++ bodyLines widths table.rows ++
    [rule '└' '─' '┴' '┘' widths])

end Table

end AzcRepair.Text
