import StepRunner.Text.Blank
import StepRunner.Text.Width

/-!
This file draws tables with a head and rows of cells.
Each column is as wide as its widest line, and a cell of several lines makes its row higher.
-/

namespace StepRunner.Console

/-- A cell as its lines. -/
abbrev Cell := List (List Char)

/-- A row as its cells. -/
abbrev Row := List Cell

/-- The lines of a text as a cell. -/
def Cell.ofText (text : String) : Cell :=
  Text.splitAt '\n' text.toList

/-- The columns of the widest line of a cell. -/
def Cell.width (cell : Cell) : Nat :=
  (cell.map Text.width).foldl max 0

/-- The number of lines of the highest cell of a row. -/
def Row.height (row : Row) : Nat :=
  (row.map List.length).foldl max 0

/-- The widths of the columns of some rows, each at least one. -/
def columnWidths (count : Nat) (rows : List Row) : List Nat :=
  (List.range count).map fun index =>
    (rows.map fun row => (row.getD index []).width).foldl max 1

/-- Fills a line with spaces up to a width. -/
def padLine (width : Nat) (line : List Char) : List Char :=
  line ++ List.replicate (width - Text.width line) ' '

/-- The lines that separate the rows of a table. -/
structure Rule where
  left : Char
  fill : Char
  cross : Char
  right : Char
  deriving DecidableEq, Repr

namespace Rule

/-- The line above the head. -/
def top : Rule := ⟨'┌', '─', '┬', '┐'⟩

/-- The line below the head. -/
def underHead : Rule := ⟨'╞', '═', '╪', '╡'⟩

/-- The line between two rows. -/
def between : Rule := ⟨'├', '╌', '┼', '┤'⟩

/-- The line below the last row. -/
def bottom : Rule := ⟨'└', '─', '┴', '┘'⟩

/-- Draws a line over columns of the given widths. -/
def draw (rule : Rule) (widths : List Nat) : List Char :=
  let parts := widths.map fun width => List.replicate (width + 2) rule.fill
  rule.left :: List.intercalate [rule.cross] parts ++ [rule.right]

end Rule

/-- Draws one line of a row. -/
def drawLine (widths : List Nat) (lines : List (List Char)) : List Char :=
  let parts := (widths.zip lines).map fun (width, line) => ' ' :: padLine width line ++ [' ']
  '│' :: List.intercalate ['┆'] parts ++ ['│']

/-- Draws all lines of a row. -/
def drawRow (widths : List Nat) (row : Row) : List (List Char) :=
  (List.range row.height).map fun index =>
    drawLine widths (row.map fun cell => cell.getD index [])

/-- Draws rows with a line between each two of them. -/
def drawRows (widths : List Nat) (rows : List Row) : List (List Char) :=
  List.intercalate [Rule.between.draw widths] (rows.map (drawRow widths))

/-- Draws a table. -/
def drawTable (head : List String) (rows : List (List String)) : List (List Char) :=
  let head := head.map Cell.ofText
  let rows := rows.map fun row => row.map Cell.ofText
  let widths := columnWidths head.length (head :: rows)
  Rule.top.draw widths :: drawRow widths head ++ Rule.underHead.draw widths ::
    drawRows widths rows ++ [Rule.bottom.draw widths]

/-- The lines of a table. -/
def tableLines (head : List String) (rows : List (List String)) : List String :=
  (drawTable head rows).map String.ofList

end StepRunner.Console
