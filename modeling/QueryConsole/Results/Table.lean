/-
# Result tables

The table of an answer has the columns of the first row, in its order; further rows are looked up by
these columns.  Without rows there is a placeholder instead.

Models `ResultTable` with `from_rows`, `row_count` and `cell_text`, and `TableBody`.
-/

import QueryConsole.Phrases
import QueryConsole.Results.Header
import QueryConsole.Service.Row

namespace QueryConsole

/-- The body of a result table: a line of cells for every row, or one text across the table. -/
inductive TableBody where
  | rows (cells : List (List (Option Cell)))
  | placeholder (text : String) (span : Nat)
  deriving DecidableEq

/-- The table of an answer. -/
structure ResultTable where
  columns : List String
  headers : List String
  body : TableBody
  deriving DecidableEq

namespace ResultTable

/-- The number of columns that a placeholder spans. -/
def placeholderSpan : Nat := 100

/-- The table of the rows of an answer. -/
def ofRows (phrases : Phrases) (rows : List Row) : ResultTable :=
  match rows with
  | [] => ⟨[], [], .placeholder phrases.noResultsFound placeholderSpan⟩
  | first :: _ =>
    let columns := first.columns
    ⟨columns, columns.map Header.label, .rows (rows.map fun row => columns.map row.get?)⟩

/-- The lines of cells; a placeholder has none. -/
def rows (t : ResultTable) : List (List (Option Cell)) :=
  match t.body with
  | .rows cells => cells
  | .placeholder _ _ => []

/-- The number of rows. -/
def rowCount (t : ResultTable) : Nat := t.rows.length

/-- The text of a cell, or none outside the table. -/
def cellText? (t : ResultTable) (row column : Nat) : Option String :=
  (t.rows[row]?.bind (·[column]?)).map Cell.shown

end ResultTable
end QueryConsole
