/-
# The results panel

What can be done with an answer: moving the selected cell and copying it, exporting the table, and
copying the generated query.  A window of columns is visible; it follows the selected column.

| key | command |
| --- | --- |
| arrows; `h`, `j`, `k`, `l` | a row up or down, a column to the left or right |
| Page Up, Ctrl+U; Page Down, Ctrl+D | ten rows up or down |
| Home, End | the first cell, the last row |
| Enter, `y` | copy the selected cell |

Models `handle_results` with `copy_current_cell`, `copy_generated_query`, and `export_with` with
`export_filename`.
-/

import QueryConsole.Results.Export
import QueryConsole.Workbench.Basic

namespace QueryConsole
namespace Workbench

/-- The number of rows of a page. -/
def pageRows : Nat := 10

/-- Copies a text, with the message that tells of it. -/
def copy (phrases : Phrases) (outside : Outside) (b : Workbench) (copied : String) : Workbench :=
  match outside.clipboardError with
  | none => { b with message := some copied }
  | some e => { b with error := some (phrases.clipboardFailed e) }

/-- Copies the selected cell, if there is one. -/
def copyCell (phrases : Phrases) (outside : Outside) (b : Workbench) : Workbench :=
  match b.results?.bind fun v => v.table.cellText? b.row b.column with
  | some text => b.copy phrases outside (phrases.copied text)
  | none => b

/-- Copies the generated query. -/
def copyQuery (phrases : Phrases) (outside : Outside) (b : Workbench) : Workbench :=
  match b.results? with
  | some _ => b.copy phrases outside phrases.copiedQuery
  | none => { b with error := some phrases.noQueryToCopy }

/-- The formats of exported tables. -/
inductive ExportFormat where
  | csv
  | json
  deriving DecidableEq, Repr

/-- The name of an exported file. -/
def ExportFormat.fileName (format : ExportFormat) (stamp : String) : String :=
  "export_" ++ stamp ++ match format with
    | csv => ".csv"
    | json => ".json"

/-- The content of an exported file. -/
def ExportFormat.content (format : ExportFormat) (t : ResultTable) : String :=
  match format with
  | csv => t.toCsv
  | json => t.toJsonText

/-- Exports the table of the answer; there has to be a row in it. -/
def exportTable (phrases : Phrases) (outside : Outside) (b : Workbench) (format : ExportFormat) :
    Step :=
  match b.results?.filter fun v => v.table.rowCount ≠ 0 with
  | none => stay { b with error := some phrases.noResultsToExport }
  | some v =>
    match outside.fileError with
    | some e => stay { b with error := some (phrases.exportFailed e) }
    | none =>
      let name := format.fileName outside.stamp
      ⟨{ b with message := some (phrases.exportedRows (Decimal.text v.table.rowCount) name) }, [],
        some ⟨name, format.content v.table⟩⟩

/-- The selected column one to the left. -/
def columnLeft (b : Workbench) : Workbench :=
  let column := b.column - 1
  { b with column, columnScroll := if column < b.columnScroll then column else b.columnScroll }

/-- The selected column one to the right, of the given number. -/
def columnRight (columns : Nat) (b : Workbench) : Workbench :=
  let column := if b.column + 1 < columns then b.column + 1 else b.column
  let visible := max b.columnsVisible 1
  { b with
    column
    columnScroll := if b.columnScroll + visible ≤ column then column + 1 - visible
      else b.columnScroll }

/-- What a key press asks of the results panel. -/
inductive ResultsCommand where
  | up
  | down
  | pageUp
  | pageDown
  | left
  | right
  | first
  | lastRow
  | copyCell
  deriving DecidableEq, Repr

/-- The command of a key press in the results panel. -/
def resultsCommand? (p : KeyPress) : Option ResultsCommand :=
  match p.key with
  | .up | .char 'k' => some .up
  | .down | .char 'j' => some .down
  | .pageDown => some .pageDown
  | .char 'd' => if p.modifiers.ctrl then some .pageDown else none
  | .pageUp => some .pageUp
  | .char 'u' => if p.modifiers.ctrl then some .pageUp else none
  | .left | .char 'h' => some .left
  | .right | .char 'l' => some .right
  | .home => some .first
  | .endKey => some .lastRow
  | .enter | .char 'y' => some .copyCell
  | _ => none

/-- The workbench after a command for the answer that is shown. -/
def runOnAnswer (phrases : Phrases) (outside : Outside) (b : Workbench) (v : ResultView) :
    ResultsCommand → Workbench
  | .up => { b with row := b.row - 1 }
  | .down => if b.row < v.table.rowCount - 1 then { b with row := b.row + 1 } else b
  | .pageUp => { b with row := b.row - pageRows }
  | .pageDown => { b with row := min (b.row + pageRows) (v.table.rowCount - 1) }
  | .left => b.columnLeft
  | .right => b.columnRight v.table.columns.length
  | .first => { b with row := 0, column := 0, columnScroll := 0 }
  | .lastRow => { b with row := v.table.rowCount - 1 }
  | .copyCell => b.copyCell phrases outside

/-- The workbench after a command in the results panel; without an answer there is nothing to do. -/
def runResults (phrases : Phrases) (outside : Outside) (b : Workbench) (command : ResultsCommand) :
    Workbench :=
  match b.results? with
  | none => b
  | some v => b.runOnAnswer phrases outside v command

end Workbench
end QueryConsole
