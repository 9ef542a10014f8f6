/-
# Wrapping a question

The lines of a question in rows of a given width.  A row takes characters as long as they fit, and
one at least, so words are cut anywhere and nothing is lost.  The cursor has a place in the rows: a
cursor behind a row that is full stands at the start of an empty row below it.

Models `wrap_input`.
-/

import QueryConsole.Text.Width

namespace QueryConsole

/-- Rows of characters, and the row and the column of a cursor in them. -/
structure WrappedText where
  rows : List (List Char)
  cursor : Nat × Nat
  deriving DecidableEq, Repr

namespace Wrap

/-- The columns of characters that each stand alone. -/
def columns : List Char → Nat
  | [] => 0
  | c :: cs => Width.ofChar c + columns cs

/-- A character put in front of the first row. -/
def consFirst (c : Char) : List (List Char) → List (List Char)
  | [] => [[c]]
  | row :: rows => (c :: row) :: rows

/-- The rows of the rest of a line, behind a row of which `used` columns are taken. -/
def rowsFrom (width used : Nat) : List Char → List (List Char)
  | [] => [[]]
  | c :: cs =>
    if width < used + Width.ofChar c ∧ 0 < used then
      [] :: consFirst c (rowsFrom width (Width.ofChar c) cs)
    else consFirst c (rowsFrom width (used + Width.ofChar c) cs)

/-- The rows of a line. -/
def rowsOf (width : Nat) (line : List Char) : List (List Char) := rowsFrom width 0 line

theorem flatten_consFirst (c : Char) (rows : List (List Char)) :
    (consFirst c rows).flatten = c :: rows.flatten := by
  cases rows <;> simp [consFirst]

/-- **Nothing is lost:** the rows of a line concatenate to the line. -/
theorem flatten_rowsFrom (width used : Nat) (cs : List Char) :
    (rowsFrom width used cs).flatten = cs := by
  induction cs generalizing used with
  | nil => rfl
  | cons c cs ih =>
    unfold rowsFrom
    split
    · rw [List.flatten_cons, List.nil_append, flatten_consFirst, ih]
    · rw [flatten_consFirst, ih]

/-- The place of a character of a line in the rows of the line. -/
def placeIn : List (List Char) → Nat → Nat × Nat
  | [], _ => (0, 0)
  | row :: rows, column =>
    if column < row.length then (0, columns (row.take column))
    else
      let (r, c) := placeIn rows (column - row.length)
      (r + 1, c)

/-- The rows of the line that the cursor is in. -/
def cursorLine (width : Nat) (line : List Char) (column : Nat) : WrappedText :=
  let rows := rowsOf width line
  if column < line.length then ⟨rows, placeIn rows column⟩
  else
    let used := columns (rows.getLast?.getD [])
    if width ≤ used then ⟨rows ++ [[]], (rows.length, 0)⟩ else ⟨rows, (rows.length - 1, used)⟩

/-- The rows of lines with a cursor at a column of one of them. -/
def linesFrom (width : Nat) : List (List Char) → Nat → Nat → WrappedText
  | [], _, _ => ⟨[], (0, 0)⟩
  | line :: lines, 0, column =>
    let first := cursorLine width line column
    ⟨first.rows ++ lines.flatMap (rowsOf width), first.cursor⟩
  | line :: lines, index + 1, column =>
    let first := rowsOf width line
    let rest := linesFrom width lines index column
    ⟨first ++ rest.rows, (first.length + rest.cursor.1, rest.cursor.2)⟩

end Wrap

/-- Lines in rows of the given width, or of one column where that is zero, with a cursor at a line
and a column. -/
def WrappedText.ofLines (lines : List (List Char)) (cursor : Nat × Nat) (width : Nat) :
    WrappedText :=
  Wrap.linesFrom (max width 1) lines cursor.1 cursor.2

end QueryConsole
