/-
# Grids

Rows of cells in columns of given widths, with a column of space between neighbours, and a header
above.  Where the columns need more room than there is, the wide ones share what the first one
leaves.
-/

import QueryConsole.Screen.StyledText

namespace QueryConsole

/-- A cell of a grid. -/
structure GridCell where
  text : List Char
  style : Style
  deriving DecidableEq, Repr

namespace GridCell

/-- The characters before the first line end. -/
def firstLine (cs : List Char) : List Char :=
  let line := cs.takeWhile (· ≠ '\n')
  if line.length < cs.length ∧ line.getLast? = some '\r' then line.dropLast else line

/-- The text that is drawn of a cell; its style is that of the place. -/
def line (cell : GridCell) : Span := ⟨String.ofList (firstLine cell.text), .plain⟩

end GridCell

namespace Grid

/-- The place and width of a column, relative to the grid. -/
structure Column where
  left : Nat
  width : Nat
  deriving DecidableEq, Repr

/-- The place of a column in a row. -/
def Column.place (column : Column) (row : Area) : Area :=
  ⟨row.left + column.left, row.top, column.width, row.height⟩

/-- The place of one of `n` columns that share a room, all as wide, with a space before each. -/
def sharedColumn (start room n index : Nat) : Column :=
  let left := Share.nearest (room * index) n + start + index
  let right := Share.nearest (room * (index + 1)) n + start + index
  ⟨left, right - left⟩

/-- The columns of a grid of the given width: the first column, and `n` columns that are `wide`. -/
def columns (width first wide n : Nat) : List Column :=
  if n = 0 then [⟨0, min first width⟩]
  else
    let room := width - n
    if first + n * wide ≤ room then
      ⟨0, first⟩ :: (List.range n).map fun index => ⟨first + 1 + index * (wide + 1), wide⟩
    else if first * (n + 1) ≤ room then
      ⟨0, first⟩ :: (List.range n).map (sharedColumn (first + 1) (room - first) n)
    else
      ⟨0, Share.nearest room (n + 1)⟩ :: (List.range n).map fun index =>
        sharedColumn 0 room (n + 1) (index + 1)

end Grid

namespace Canvas

/-- Draws a cell of a grid in the place of its column. -/
def drawGridCell (row : Area) (c : Canvas) (p : Grid.Column × GridCell) : Canvas :=
  (c.paint (p.1.place row) p.2.style).drawLine (p.1.place row) [p.2.line]

/-- Draws the cells of a row of a grid. -/
def drawGridRow (c : Canvas) (row : Area) (columns : List Grid.Column) (cells : List GridCell) :
    Canvas :=
  (columns.zip cells).foldl (drawGridCell row) c

/-- Draws a grid in an area, the header in its first row. -/
def drawGrid (c : Canvas) (a : Area) (columns : List Grid.Column) (header : List GridCell)
    (rows : List (List GridCell)) : Canvas :=
  if a.isEmpty then c
  else
    let c := c.drawGridRow (a.row 0) columns header
    ((rows.take (a.height - 1)).zipIdx).foldl (fun c (cells, index) =>
      c.drawGridRow (a.row (index + 1)) columns cells) c

end Canvas
end QueryConsole
