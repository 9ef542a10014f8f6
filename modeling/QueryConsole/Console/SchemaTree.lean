/-
# The schema tree

The tables of the selected database, each expanded or collapsed.  The visible lines are the headers
of all tables, each followed by the columns of its table where that is expanded.

Models `SchemaPanel` with `SchemaTable` and `SchemaLine`.
-/

import QueryConsole.Service.Schema

namespace QueryConsole

/-- A table in the tree. -/
structure TreeTable where
  name : String
  columns : List String
  expanded : Bool
  deriving DecidableEq, Repr

/-- What the schema panel holds. -/
inductive SchemaTree where
  | loading
  | failed
  | loaded (tables : List TreeTable)
  deriving DecidableEq, Repr

/-- A visible line: the header of a table, or one of its columns. -/
inductive TreeLine where
  | header (index : Nat) (table : TreeTable)
  | column (table : Nat) (name : String)
  deriving DecidableEq, Repr

namespace TreeLine

/-- The index of the table that a line belongs to. -/
def owner : TreeLine → Nat
  | header index _ => index
  | column table _ => table

/-- Whether a line is the header of the table with the given index. -/
def isHeaderOf (table : Nat) : TreeLine → Bool
  | header index _ => index = table
  | column _ _ => false

end TreeLine

namespace SchemaTree

/-- A freshly loaded schema, all tables collapsed. -/
def ofSchema (s : Schema) : SchemaTree := loaded (s.tables.map fun t => ⟨t.name, t.columns, false⟩)

/-- The tables of the tree. -/
def tables : SchemaTree → List TreeTable
  | loaded ts => ts
  | _ => []

/-- The tree with one table expanded or collapsed, if there is such a table. -/
def toggle? (index : Nat) : SchemaTree → Option SchemaTree
  | loaded ts =>
    if index < ts.length then
      some (loaded (ts.modify index fun t => { t with expanded := !t.expanded }))
    else none
  | _ => none

/-- The tree after a toggle; nothing changes where there is no such table. -/
def toggle (index : Nat) (tree : SchemaTree) : SchemaTree := (tree.toggle? index).getD tree

/-- The tables after a toggle. -/
@[simp] theorem toggle_loaded (index : Nat) (ts : List TreeTable) :
    (loaded ts).toggle index =
      loaded (ts.modify index fun t => { t with expanded := !t.expanded }) := by
  rw [toggle, toggle?]
  by_cases h : index < ts.length
  · rw [if_pos h, Option.getD_some]
  · rw [if_neg h, Option.getD_none, List.modify_eq_self (by omega)]

/-- The lines of a table with the given index. -/
def tableLines (index : Nat) (t : TreeTable) : List TreeLine :=
  .header index t :: if t.expanded then t.columns.map (.column index) else []

/-- The lines of tables whose first has the given index. -/
def linesFrom (index : Nat) : List TreeTable → List TreeLine
  | [] => []
  | t :: ts => tableLines index t ++ linesFrom (index + 1) ts

/-- The visible lines. -/
def lines (tree : SchemaTree) : List TreeLine := linesFrom 0 tree.tables

/-- The table that owns a visible line. -/
def tableAtLine? (tree : SchemaTree) (line : Nat) : Option Nat := tree.lines[line]?.map (·.owner)

/-- The visible line of a table's header. -/
def lineOfTable? (tree : SchemaTree) (table : Nat) : Option Nat :=
  tree.lines.findIdx? (·.isHeaderOf table)

end SchemaTree
end QueryConsole
