/-
# Schemas

The tables of a database and their columns, in the order of the service.

Models `SchemaMap` and `TableSchema`.
-/

import QueryConsole.Json.Reader

namespace QueryConsole

/-- A table and its columns. -/
structure Table where
  name : String
  columns : List String
  deriving DecidableEq, Repr

/-- The tables of a database. -/
structure Schema where
  tables : List Table
  deriving DecidableEq, Repr

namespace Schema

open Utf8 (Piece)

def isEmpty (s : Schema) : Bool := s.tables.isEmpty

/-- The first table of a name. -/
def table? (s : Schema) (name : String) : Option Table := s.tables.find? (·.name = name)

/-- Reads an object whose members are arrays of strings; a table may be written more than once. -/
def read : List Piece → Json.Read Schema :=
  Json.typed .tables fun c rest =>
    if c = '\x7b' then
      some ((Json.object (Json.sequence Json.text) rest).map fun (ms, s) =>
        (⟨ms.map fun (name, columns) => ⟨name, columns⟩⟩, s))
    else none

/-- The schema that a text writes. -/
def parse (s : String) : Except Json.Problem Schema :=
  Json.whole read (Utf8.ofChars s.toList)

/-- The schema that bytes write. -/
def parseBytes (bytes : List UInt8) : Except Json.Problem Schema :=
  Json.whole read (Utf8.pieces bytes)

end Schema
end QueryConsole
