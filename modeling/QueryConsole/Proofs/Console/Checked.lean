/-
# Checked commands

The question box and the selection of a database subtract, divide and remove characters.  Where a
difference, a remainder or a character does not exist, their functions go on with zero or leave the
text alone.  Here the same is done with differences, remainders and characters that have to exist: a
checked command is none as soon as one of them does not.  Differences that are cut off at zero on
purpose stay as they are.

Every checked command equals the command that it checks (`Editor.Checked.run_eq`,
`DatabaseSelector.Checked.next_eq`, `DatabaseSelector.Checked.previous_eq`).
-/

import Mathlib.Data.Nat.PSub
import QueryConsole.Console.Selector
import QueryConsole.Proofs.Console.Cursor

namespace QueryConsole

/-! ## The question box -/

namespace Editor.Checked

/-- The character at an index removed, with the cursor there; the character has to exist. -/
def removeAt (e : Editor) (index : Nat) : Option Editor :=
  if h : index < e.chars.length then
    some ⟨e.chars.eraseIdx index, index, by
      rw [List.length_eraseIdx]
      split <;> omega⟩
  else none

def backspace (e : Editor) : Option Editor :=
  if 0 < e.cursor then (e.cursor.psub 1).bind (removeAt e) else some e

def delete (e : Editor) : Option Editor :=
  if e.cursor < e.chars.length then removeAt e e.cursor else some e

def up (e : Editor) : Option Editor :=
  let (line, column) := e.position
  if 0 < line then (line.psub 1).map (e.goTo · column) else some e

def home (e : Editor) : Option Editor := (e.cursor.psub e.position.2).map e.place

def toLineEnd (e : Editor) : Option Editor :=
  let (line, column) := e.position
  ((e.lineLength line).psub column).map fun rest => e.place (e.cursor + rest)

/-- The editor after a command. -/
def run (e : Editor) : Command → Option Editor
  | .backspace => backspace e
  | .delete => delete e
  | .up => up e
  | .home => home e
  | .toLineEnd => toLineEnd e
  | command => some (e.run command)

theorem backspace_eq (e : Editor) : backspace e = some e.backspace := by
  have hle := e.cursor_le
  unfold backspace Editor.backspace
  split
  · rename_i hpos
    rw [Nat.psub_eq_sub hpos, Option.bind_some, removeAt, dif_pos (by omega)]
  · rfl

theorem delete_eq (e : Editor) : delete e = some e.delete := by
  unfold delete Editor.delete
  split
  · rename_i hlt
    rw [removeAt, dif_pos hlt]
  · rfl

theorem up_eq (e : Editor) : up e = some e.up := by
  unfold up Editor.up
  dsimp only
  split
  · rename_i hpos
    rw [Nat.psub_eq_sub hpos, Option.map_some]
  · rfl

theorem home_eq (e : Editor) : home e = some e.home := by
  obtain ⟨-, -, hcursor⟩ := e.position_bounds
  rw [home, Nat.psub_eq_sub (by omega), Option.map_some, Editor.home]

theorem toLineEnd_eq (e : Editor) : toLineEnd e = some e.toLineEnd := by
  obtain ⟨-, hcolumn, -⟩ := e.position_bounds
  unfold toLineEnd Editor.toLineEnd
  dsimp only
  rw [Nat.psub_eq_sub hcolumn, Option.map_some]

/-- **No command of the question box fails.** -/
theorem run_eq (e : Editor) (command : Command) : run e command = some (e.run command) := by
  cases command with
  | backspace => exact backspace_eq e
  | delete => exact delete_eq e
  | up => exact up_eq e
  | home => exact home_eq e
  | toLineEnd => exact toLineEnd_eq e
  | _ => rfl

end Editor.Checked

/-! ## The databases -/

namespace DatabaseSelector.Checked

/-- A remainder; the divisor has to be positive. -/
def mod (m n : Nat) : Option Nat := if 0 < n then some (m % n) else none

def next (s : DatabaseSelector) : Option (Option Nat) :=
  if s.names.length = 0 then some none
  else
    match s.selected with
    | none => some (some 0)
    | some i => (mod (i + 1) s.names.length).map some

def previous (s : DatabaseSelector) : Option (Option Nat) :=
  if s.names.length = 0 then some none
  else
    match s.selected with
    | none => some (some 0)
    | some i => (if i = 0 then s.names.length.psub 1 else i.psub 1).map some

theorem next_eq (s : DatabaseSelector) : next s = some s.next? := by
  unfold next next?
  split
  · rfl
  · rename_i hne
    cases s.selected with
    | none => rfl
    | some i => simp only [mod, if_pos (Nat.pos_of_ne_zero hne), Option.map_some]

theorem previous_eq (s : DatabaseSelector) : previous s = some s.previous? := by
  unfold previous previous?
  split
  · rfl
  · rename_i hne
    cases s.selected with
    | none => rfl
    | some i =>
      dsimp only
      split
      · rw [Nat.psub_eq_sub (Nat.pos_of_ne_zero hne), Option.map_some]
      · rename_i hpos
        rw [Nat.psub_eq_sub (Nat.pos_of_ne_zero hpos), Option.map_some]

end DatabaseSelector.Checked

end QueryConsole
