/-
# Cells

The value of one column in one row of an answer.

| JSON value | cell | shown as |
| --- | --- | --- |
| `null` | `null` | `NULL`, or nothing in a table |
| integer from -2^63 below 2^63 | `int` | its digits |
| integer from 2^63 | `text` | its digits |
| other number | `float` | the shortest decimal, without an exponent |
| string | `text` | itself |
| array, object | `json` | its compact text |

Models `CellValue`, and `format_cell`.
-/

import QueryConsole.Json.Reader

namespace QueryConsole

/-- The value of a column in a row. -/
inductive Cell where
  | null
  | bool (b : Bool)
  | int (n : Int)
  | float (d : Double)
  | text (s : String)
  | json (s : String)
  deriving DecidableEq

namespace Cell

/-- The cell of a JSON value. -/
def ofJson : Json → Cell
  | .null => null
  | .bool b => bool b
  | .int n => if n < Json.signedLimit then int n else text (String.ofList (Json.intChars n))
  | .double d => float d
  | .str s => text s
  | .arr items => json (Json.arr items).compact
  | .obj members => json (Json.obj members).compact

/-- The JSON value of a cell; a number that JSON cannot write is `null`. -/
def toJson : Cell → Json
  | null => .null
  | bool b => .bool b
  | int n => .int n
  | float d => if d.isFinite then .double d else .null
  | text s => .str s
  | json s =>
    match Json.parse s with
    | .ok v => v
    | .error _ => .str s

/-- The cell in words. -/
def display : Cell → String
  | null => "NULL"
  | bool b => if b then "true" else "false"
  | int n => String.ofList (Json.intChars n)
  | float d => String.ofList d.display
  | text s => s
  | json s => s

/-- The text of a cell in a table; NULL and a key that the row lacks show nothing. -/
def shown : Option Cell → String
  | none => ""
  | some null => ""
  | some cell => cell.display

/-- The text of a cell on a single line, and whether the cell is NULL. -/
def singleLine : Option Cell → String × Bool
  | none => ("", false)
  | some null => ("", true)
  | some cell =>
    (String.ofList (cell.display.toList.map fun c => if c = '\n' then ' ' else c), false)

end Cell
end QueryConsole
