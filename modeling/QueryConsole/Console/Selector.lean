/-
# Selection of a database

The databases that the service offers, one of them selected.

Models `DatabaseSelector`.
-/

namespace QueryConsole

/-- A list of databases and the index of the selected one. -/
structure DatabaseSelector where
  names : List String
  selected : Option Nat
  deriving DecidableEq, Repr

namespace DatabaseSelector

/-- No databases. -/
def empty : DatabaseSelector := ⟨[], none⟩

/-- A list of databases; the preferred one is selected if it is listed, or else the first. -/
def populate (names : List String) (preferred : String) : DatabaseSelector :=
  ⟨names, (names.findIdx? (· = preferred)).or (if names.isEmpty then none else some 0)⟩

/-- The name of the selected database. -/
def selectedName (s : DatabaseSelector) : Option String := s.selected.bind (s.names[·]?)

/-- The selector with another database selected, or none where the index is out of range or already
selected. -/
def select? (s : DatabaseSelector) (index : Nat) : Option DatabaseSelector :=
  if s.names.length ≤ index ∨ s.selected = some index then none
  else some { s with selected := some index }

/-- The index after the selected one, from the start again after the last. -/
def next? (s : DatabaseSelector) : Option Nat :=
  if s.names.length = 0 then none
  else
    match s.selected with
    | none => some 0
    | some i => some ((i + 1) % s.names.length)

/-- The index before the selected one, the last before the first. -/
def previous? (s : DatabaseSelector) : Option Nat :=
  if s.names.length = 0 then none
  else
    match s.selected with
    | none => some 0
    | some i => some (if i = 0 then s.names.length - 1 else i - 1)

end DatabaseSelector
end QueryConsole
