/-
# The results panel

An answer is shown as its generated query, some figures, and a table in a window of rows and
columns.  The window of columns follows the selected column; the window of rows ends with the
selected row, unless that is among the first ones.

Models `draw_results_panel`, with `draw_idle`, `draw_loading`, `draw_error`, `draw_results`,
`draw_metadata` and `draw_table`.
-/

import QueryConsole.Screen.Border
import QueryConsole.Screen.Grid
import QueryConsole.Screen.Paragraph
import QueryConsole.Screen.Scrollbar
import QueryConsole.Text.Truncate
import QueryConsole.Workbench.Basic

namespace QueryConsole
namespace Workbench

/-- The width of a column of data. -/
def columnWidth : Nat := 24

/-- The number of data columns in a panel of the given width, one at least. -/
def columnsThatFit (width : Nat) : Nat := max ((width - 8) / columnWidth) 1

/-- The window of columns moved so far that the selected column is in it, in a panel of the given
width. -/
def fitColumns (b : Workbench) (width : Nat) : Workbench :=
  let fit := columnsThatFit width
  { b with
    columnsVisible := fit
    columnScroll :=
      if b.column < b.columnScroll then b.column
      else if b.columnScroll + fit ≤ b.column then b.column + 1 - fit
      else b.columnScroll }

/-- The number of rows that a table panel of the given height has room for, one at least. -/
def rowsThatFit (height : Nat) : Nat := max (height - 3) 1

/-- The first row in the window of rows. -/
def firstRow (b : Workbench) (height : Nat) : Nat := b.row - (rowsThatFit height - 1)

/-- The part of a list from an index on, with each element's index. -/
def window {α : Type} (xs : List α) (first count : Nat) : List (α × Nat) :=
  (xs.zipIdx.drop first).take count

/-- The picture of the spinner. -/
def spinnerPicture (b : Workbench) : Char :=
  (spinnerFrames[b.spinner % spinnerFrames.length]?).getD ' '

/-- The spinner and the text that goes with it. -/
def loadingText (phrases : Phrases) (b : Workbench) : String :=
  String.ofList [b.spinnerPicture, ' '] ++ phrases.loadingQuery

/-- A title between spaces. -/
def spaced (text : String) : String := " " ++ text ++ " "

/-- Draws a panel with lines in its middle. -/
def drawNote (c : Canvas) (a : Area) (border : Border) (lines : List (List Span)) : Canvas :=
  (c.drawBorder a border).drawLines a.inner .center lines

/-- Draws the generated query and the figures of an answer. -/
def drawMetadata (phrases : Phrases) (v : ResultView) (a : Area) (c : Canvas) : Canvas :=
  let query := String.ofList (v.generatedQuery.toList.map fun c => if c = '\n' then ' ' else c)
  let gap : Span := ⟨" │ ", .dim⟩
  let figures : List Span := [⟨phrases.executionTime ++ " ", .dim⟩, ⟨v.executionTime, .normal⟩, gap,
    ⟨phrases.rowCount ++ " ", .dim⟩, ⟨v.rowCount, .normal⟩, gap,
    ⟨phrases.confidence ++ " ", .dim⟩, ⟨v.confidence, .normal⟩]
  let intent : List Span := match v.intent with
    | some intent => [gap, ⟨phrases.intent ++ " ", .dim⟩, ⟨intent, .info⟩]
    | none => []
  (c.drawBorder a (.titled (.border false) (spaced phrases.generatedQuery))).drawLines a.inner .left
    [[⟨"SQL ", .dim⟩, ⟨Text.truncate query (a.width - 8), .queryText⟩], figures ++ intent]

/-- The width of the column of row numbers. -/
def numberWidth (rows : Nat) : Nat := max ((Decimal.digitsOf rows).length + 2) 4

/-- The number of a row, to the right of its column. -/
def rowNumber (width index : Nat) : List Char :=
  let digits := Decimal.digitsOf (index + 1)
  List.replicate (width - 1 - digits.length) ' ' ++ digits ++ [' ']

/-- The rows that a panel of the given height shows, each with its index. -/
def shownRows {α : Type} (b : Workbench) (height : Nat) (rows : List α) : List (α × Nat) :=
  window rows (b.firstRow height) (rowsThatFit height)

/-- The columns that a panel of the given width shows of a row, each with its index. -/
def shownColumns {α : Type} (b : Workbench) (width : Nat) (row : List α) : List (α × Nat) :=
  window row b.columnScroll (columnsThatFit width)

/-- The cell of the header with the name of a column. -/
def headerCell (b : Workbench) (name : String) (column : Nat) : GridCell :=
  ⟨Text.truncateChars name.toList (columnWidth - 1),
    if b.panel = .results ∧ column = b.column then .selected else .tableHeader⟩

/-- The cells of the header. -/
def headerCells (b : Workbench) (headers : List String) (width : Nat) : List GridCell :=
  ⟨[' ', '#', ' '], .tableHeader⟩ ::
    (b.shownColumns width headers).map fun (name, column) => b.headerCell name column

/-- The cell of the body with the data of a row and a column. -/
def dataCell (b : Workbench) (cell : Option Cell) (row column : Nat) : GridCell :=
  let selected : Bool := b.panel = .results && row = b.row
  let (text, isNull) := Cell.singleLine cell
  ⟨Text.truncateChars text.toList (columnWidth - 1),
    if selected ∧ column = b.column then .selected
    else if selected then .highlighted
    else if isNull then .nullValue
    else .normal⟩

/-- The cells of a row. -/
def rowCells (b : Workbench) (number width : Nat) (cells : List (Option Cell)) (row : Nat) :
    List GridCell :=
  ⟨rowNumber number row, if b.panel = .results ∧ row = b.row then .selected else .rowNumber⟩ ::
    (b.shownColumns width cells).map fun (cell, column) => b.dataCell cell row column

/-- The border of a table, with the numbers of its rows and columns. -/
def tableBorder (phrases : Phrases) (b : Workbench) (t : ResultTable) : Border :=
  .titled (.border (b.panel = .results))
    (" " ++ phrases.resultsTitle ++ " │ " ++ Decimal.text t.rowCount ++ " × " ++
      Decimal.text t.headers.length ++ " ")

/-- The columns of the grid of a table in a panel: that of the row numbers, and those shown. -/
def tableColumns (b : Workbench) (t : ResultTable) (a : Area) : List Grid.Column :=
  Grid.columns a.inner.width (numberWidth t.rowCount) columnWidth
    (b.shownColumns a.width t.headers).length

/-- Draws the rows and columns of a table that are shown, in a border. -/
def drawShown (phrases : Phrases) (b : Workbench) (t : ResultTable) (a : Area) (c : Canvas) :
    Canvas :=
  (c.drawBorder a (b.tableBorder phrases t)).drawGrid a.inner (b.tableColumns t a)
    (b.headerCells t.headers a.width)
    ((b.shownRows a.height t.rows).map fun (cells, row) =>
      b.rowCells (numberWidth t.rowCount) a.width cells row)

/-- Draws the table of an answer. -/
def drawTable (phrases : Phrases) (b : Workbench) (t : ResultTable) (a : Area) (c : Canvas) :
    Canvas :=
  match t.body with
  | .placeholder text _ => drawNote c a (b.tableBorder phrases t) [[], [⟨text, .muted⟩]]
  | .rows rows =>
    let c := b.drawShown phrases t a c
    if rowsThatFit a.height < rows.length then
      c.drawScrollbar ⟨a.left, a.top + 1, a.width, a.height - 2⟩ rows.length b.row
    else c

/-- Draws the results panel. -/
def drawResults (phrases : Phrases) (b : Workbench) (a : Area) (c : Canvas) : Canvas :=
  let border := Border.titled (.border (b.panel = .results)) (spaced phrases.resultsTitle)
  match b.console.view with
  | .idle =>
    drawNote c a border [[], [⟨phrases.noQueryYet, .dim⟩], [],
      [⟨phrases.typeQuestionHint, .dim⟩, ⟨"Enter", .info⟩, ⟨phrases.toAsk, .dim⟩]]
  | .loading _ => drawNote c a border [[], [⟨b.loadingText phrases, .warning⟩]]
  | .error message =>
    (c.drawBorder a ⟨.error, [⟨spaced phrases.errorTitle, .error⟩], [], .plain⟩).drawWrapped a.inner
      [[], [⟨message, .error⟩]]
  | .results v =>
    let (top, rest) := a.splitTop (Share.giveWay a.height 4 3)
    drawTable phrases b v.table rest (drawMetadata phrases v top c)

end Workbench
end QueryConsole
