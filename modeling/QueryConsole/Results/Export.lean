/-
# Exported tables

| format | content |
| --- | --- |
| CSV | a record of the column keys, then a record of cell texts for every row |
| JSON | an indented array with an object for every row; a key that the row lacks is left out |

CSV fields stand between commas and records end in a line feed.  A field with a comma, a quote or a
line end is quoted, with quotes inside written twice; a record that would be empty is written as a
quoted empty field.

Models `write_csv` and `write_json`.
-/

import QueryConsole.Results.Table

namespace QueryConsole
namespace Csv

/-- Characters that a field has to be quoted for. -/
def isSpecial (c : Char) : Bool := c = ',' || c = '"' || c = '\n' || c = '\r'

/-- A quoted field. -/
def quote (cs : List Char) : List Char :=
  '"' :: cs.flatMap (fun c => if c = '"' then ['"', '"'] else [c]) ++ ['"']

/-- A field of a record. -/
def field (cs : List Char) : List Char := if cs.any isSpecial then quote cs else cs

/-- Further fields and the end of the record. -/
def fieldsEnd : List (List Char) → List Char
  | [] => ['\n']
  | cs :: rest => ',' :: field cs ++ fieldsEnd rest

/-- A record with its end. -/
def record : List (List Char) → List Char
  | [] => ['"', '"', '\n']
  | [[]] => ['"', '"', '\n']
  | cs :: rest => field cs ++ fieldsEnd rest

/-- A document of records. -/
def document (records : List (List (List Char))) : List Char := records.flatMap record

end Csv

namespace ResultTable

/-- The records of a table: the column keys, and the cell texts of every row. -/
def records (t : ResultTable) : List (List (List Char)) :=
  t.columns.map String.toList :: t.rows.map fun row => row.map fun cell => (Cell.shown cell).toList

/-- The table as CSV. -/
def toCsv (t : ResultTable) : String := String.ofList (Csv.document t.records)

/-- A row as a JSON object. -/
def rowJson (columns : List String) (cells : List (Option Cell)) : Json :=
  Json.ofMembers ((columns.zip cells).filterMap fun (column, cell) =>
    cell.map fun cell => (column, cell.toJson))

/-- The table as a JSON value. -/
def toJson (t : ResultTable) : Json := .arr (t.rows.map (rowJson t.columns))

/-- The table as JSON text. -/
def toJsonText (t : ResultTable) : String := t.toJson.indented

end ResultTable
end QueryConsole
