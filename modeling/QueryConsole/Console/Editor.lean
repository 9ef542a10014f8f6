/-
# The question box

A text of several lines with a cursor between two characters.  Moving up or down keeps the column
where the line is long enough and goes to the end of the line otherwise.

| key | command |
| --- | --- |
| Enter; Ctrl+E | submit |
| Shift+Enter, Alt+Enter | new line |
| Ctrl+U | clear |
| a character without Ctrl and Alt | insert it |
| Backspace, Delete, arrows, Home, End | as their names say |

Models `InputBuffer`, `EditorCommand` and `editor_command`.
-/

import QueryConsole.Console.Key
import QueryConsole.Text.Lines

namespace QueryConsole

/-- A text and a cursor, as the number of characters before it. -/
structure Editor where
  chars : List Char
  cursor : Nat
  cursor_le : cursor ≤ chars.length
  deriving DecidableEq

namespace Editor

/-- No text. -/
def empty : Editor := ⟨[], 0, Nat.le_refl 0⟩

/-- A text with the cursor at its end. -/
def ofText (text : String) : Editor := ⟨text.toList, text.toList.length, Nat.le_refl _⟩

/-- The text. -/
def text (e : Editor) : String := String.ofList e.chars

/-- The editor with the cursor at a position, or at the end where the text is shorter. -/
def place (e : Editor) (cursor : Nat) : Editor :=
  ⟨e.chars, min cursor e.chars.length, Nat.min_le_right _ _⟩

/-- The character put before the cursor. -/
def insert (e : Editor) (c : Char) : Editor :=
  ⟨e.chars.take e.cursor ++ c :: e.chars.drop e.cursor, e.cursor + 1, by
    have := e.cursor_le
    simp only [List.length_append, List.length_take, List.length_cons, List.length_drop]
    omega⟩

/-- The character before the cursor removed. -/
def backspace (e : Editor) : Editor :=
  if h : 0 < e.cursor then
    ⟨e.chars.eraseIdx (e.cursor - 1), e.cursor - 1, by
      have := e.cursor_le
      rw [List.length_eraseIdx]
      split <;> omega⟩
  else e

/-- The character after the cursor removed. -/
def delete (e : Editor) : Editor :=
  if h : e.cursor < e.chars.length then
    ⟨e.chars.eraseIdx e.cursor, e.cursor, by
      rw [List.length_eraseIdx]
      split <;> omega⟩
  else e

/-- The cursor one character to the left. -/
def left (e : Editor) : Editor := e.place (e.cursor - 1)

/-- The cursor one character to the right. -/
def right (e : Editor) : Editor := e.place (e.cursor + 1)

/-- The line and the column behind some characters. -/
def lineColumn (cs : List Char) : Nat × Nat :=
  cs.foldl (fun (line, column) c => if c = '\n' then (line + 1, 0) else (line, column + 1)) (0, 0)

/-- The line and the column of the cursor. -/
def position (e : Editor) : Nat × Nat := lineColumn (e.chars.take e.cursor)

/-- The number of lines. -/
def lineCount (e : Editor) : Nat := (Text.lines e.chars).length

/-- The length of a line, zero where there is no such line. -/
def lineLength (e : Editor) (line : Nat) : Nat := ((Text.lines e.chars)[line]?.getD []).length

/-- The number of characters of lines with their line feeds. -/
def lengthWithFeeds : List (List Char) → Nat
  | [] => 0
  | line :: lines => line.length + 1 + lengthWithFeeds lines

/-- The number of characters before a line. -/
def lineStart (e : Editor) (line : Nat) : Nat :=
  lengthWithFeeds ((Text.lines e.chars).take line)

/-- The cursor at a column of a line, or at the end of the line where that is shorter. -/
def goTo (e : Editor) (line column : Nat) : Editor :=
  e.place (e.lineStart line + min column (e.lineLength line))

/-- The cursor one line up. -/
def up (e : Editor) : Editor :=
  let (line, column) := e.position
  if 0 < line then e.goTo (line - 1) column else e

/-- The cursor one line down. -/
def down (e : Editor) : Editor :=
  let (line, column) := e.position
  if line + 1 < e.lineCount then e.goTo (line + 1) column else e

/-- The cursor at the start of its line. -/
def home (e : Editor) : Editor := e.place (e.cursor - e.position.2)

/-- The cursor at the end of its line. -/
def toLineEnd (e : Editor) : Editor :=
  let (line, column) := e.position
  e.place (e.cursor + (e.lineLength line - column))

/-- What a key press asks of the question box. -/
inductive Command where
  | submit
  | newline
  | insert (c : Char)
  | backspace
  | delete
  | left
  | right
  | up
  | down
  | home
  | toLineEnd
  | clear
  deriving DecidableEq, Repr

/-- The command of a key press. -/
def command? (p : KeyPress) : Option Command :=
  match p.key with
  | .enter => some (if p.modifiers.shift || p.modifiers.alt then .newline else .submit)
  | .char c =>
    if p.modifiers.ctrl && c = 'e' then some .submit
    else if p.modifiers.ctrl && c = 'u' then some .clear
    else if !p.modifiers.ctrl && !p.modifiers.alt then some (.insert c)
    else none
  | .backspace => some .backspace
  | .delete => some .delete
  | .left => some .left
  | .right => some .right
  | .up => some .up
  | .down => some .down
  | .home => some .home
  | .endKey => some .toLineEnd
  | _ => none

/-- The editor after a command; submitting leaves it as it is. -/
def run (e : Editor) : Command → Editor
  | .submit => e
  | .newline => e.insert '\n'
  | .insert c => e.insert c
  | .backspace => e.backspace
  | .delete => e.delete
  | .left => e.left
  | .right => e.right
  | .up => e.up
  | .down => e.down
  | .home => e.home
  | .toLineEnd => e.toLineEnd
  | .clear => empty

end Editor
end QueryConsole
