/-
# Rows

A row of an answer: columns and their cells in the order of the service.  A column may occur more
than once; its first cell is the one that counts.

Models `Row`.
-/

import QueryConsole.Service.Cell

namespace QueryConsole

/-- A row of an answer. -/
structure Row where
  cells : List (String × Cell)
  deriving DecidableEq

namespace Row

open Utf8 (Piece)

/-- The columns in order. -/
def columns (r : Row) : List String := r.cells.map (·.1)

/-- The cell of a column. -/
def get? (r : Row) (column : String) : Option Cell :=
  (r.cells.find? fun (name, _) => name = column).map (·.2)

def isEmpty (r : Row) : Bool := r.cells.isEmpty

/-- The row with the members of an object. -/
def ofMembers (members : List (String × Json)) : Row :=
  ⟨members.map fun (name, value) => (name, Cell.ofJson value)⟩

/-- The row that a JSON value is, if it is an object. -/
def ofJson? (v : Json) : Option Row := v.members?.map ofMembers

/-- Reads a row; a column may be written more than once. -/
def read : List Piece → Json.Read Row :=
  Json.typed .row fun c rest =>
    if c = '\x7b' then
      some ((Json.object (Json.value (Json.maxDepth - 1)) rest).map fun (ms, s) =>
        (ofMembers ms, s))
    else none

/-- The row that a text writes. -/
def parse (s : String) : Except Json.Problem Row :=
  Json.whole read (Utf8.ofChars s.toList)

end Row
end QueryConsole
