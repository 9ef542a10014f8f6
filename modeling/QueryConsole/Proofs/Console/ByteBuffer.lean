/-
# The question box over bytes

A text in UTF-8 is changed at a byte, and the byte has to be one where a character begins or the text
ends.  `ByteBuffer` edits such a text with a cursor that counts characters and that nothing keeps
inside the text: the byte of the cursor is looked up for each edit, numbers are subtracted without a
floor, and an operation is none as soon as a byte is no boundary, a character to remove is missing or
a difference does not exist.

From the empty text on, no sequence of operations fails, and what it leaves is the text and the cursor
of the question box and of the gap buffer (`typing_refines_gapBuffer`).
-/

import Mathlib.Data.Nat.PSub
import QueryConsole.Proofs.Console.GapBuffer

namespace QueryConsole

/-! ## Characters and bytes -/

namespace Text

/-- The number of bytes of a text. -/
def byteLength : List Char → Nat
  | [] => 0
  | c :: cs => c.utf8Size + byteLength cs

/-- The bytes where the characters of a text begin, counted from a start. -/
def offsets : Nat → List Char → List Nat
  | _, [] => []
  | start, c :: cs => start :: offsets (start + c.utf8Size) cs

/-- The byte where a character begins, or the end of the text where there is no such character. -/
def byteIndex (cs : List Char) (index : Nat) : Nat := (offsets 0 cs)[index]?.getD (byteLength cs)

/-- The text before a byte and the text from it on, if the byte is a boundary of the text. -/
def cutAt? : List Char → Nat → Option (List Char × List Char)
  | cs, 0 => some ([], cs)
  | [], _ + 1 => none
  | c :: cs, byte + 1 =>
    if c.utf8Size ≤ byte + 1 then
      (cutAt? cs (byte + 1 - c.utf8Size)).map fun (front, back) => (c :: front, back)
    else none

/-- The text with a character put at a byte. -/
def insertAt? (cs : List Char) (byte : Nat) (c : Char) : Option (List Char) :=
  (cutAt? cs byte).map fun (front, back) => front ++ c :: back

/-- The text without the character at a byte. -/
def removeAt? (cs : List Char) (byte : Nat) : Option (List Char) :=
  match cutAt? cs byte with
  | some (front, _ :: back) => some (front ++ back)
  | _ => none

@[simp] theorem byteLength_cons (c : Char) (cs : List Char) :
    byteLength (c :: cs) = c.utf8Size + byteLength cs := rfl

theorem offsets_getD (start : Nat) (cs : List Char) (index : Nat) :
    (offsets start cs)[index]?.getD (start + byteLength cs) =
      start + byteLength (cs.take index) := by
  induction cs generalizing start index with
  | nil => rw [offsets, List.take_nil, List.getElem?_nil, Option.getD_none]
  | cons c cs ih =>
    cases index with
    | zero => rfl
    | succ index =>
      rw [offsets, List.getElem?_cons_succ, byteLength_cons, ← Nat.add_assoc, ih, List.take_succ_cons,
        byteLength_cons, Nat.add_assoc]

/-- The byte of a character is the length of the text before it. -/
theorem byteIndex_eq (cs : List Char) (index : Nat) :
    byteIndex cs index = byteLength (cs.take index) := by
  have h := offsets_getD 0 cs index
  rwa [Nat.zero_add, Nat.zero_add] at h

/-- **A byte is a boundary exactly if a front part of the text has that many bytes.** -/
theorem cutAt?_eq_some_iff {cs front back : List Char} {byte : Nat} :
    cutAt? cs byte = some (front, back) ↔ cs = front ++ back ∧ byteLength front = byte := by
  induction cs, byte using cutAt?.induct generalizing front with
  | case1 cs =>
    rw [cutAt?, Option.some_inj, Prod.mk.injEq]
    constructor
    · rintro ⟨rfl, rfl⟩
      exact ⟨rfl, rfl⟩
    · rintro ⟨rfl, hzero⟩
      cases front with
      | nil => exact ⟨rfl, rfl⟩
      | cons c front =>
        have hc := c.utf8Size_pos
        rw [byteLength_cons] at hzero
        omega
  | case2 byte =>
    rw [cutAt?]
    refine ⟨nofun, ?_⟩
    rintro ⟨hnil, hbyte⟩
    rw [(List.append_eq_nil_iff.1 hnil.symm).1] at hbyte
    cases hbyte
  | case3 c cs byte hle ih =>
    rw [cutAt?, if_pos hle, Option.map_eq_some_iff]
    constructor
    · rintro ⟨⟨rest, _⟩, hrest, hcons⟩
      obtain ⟨rfl, rfl⟩ := Prod.mk.inj hcons
      obtain ⟨rfl, hbyte⟩ := ih.1 hrest
      exact ⟨rfl, by rw [byteLength_cons]; omega⟩
    · rintro ⟨happend, hbyte⟩
      cases front with
      | nil => cases hbyte
      | cons d front =>
        rw [List.cons_append, List.cons.injEq] at happend
        obtain ⟨rfl, rfl⟩ := happend
        rw [byteLength_cons] at hbyte
        exact ⟨(front, back), ih.2 ⟨rfl, by omega⟩, rfl⟩
  | case4 c cs byte hlt =>
    rw [cutAt?, if_neg hlt]
    refine ⟨nofun, ?_⟩
    rintro ⟨happend, hbyte⟩
    cases front with
    | nil => cases hbyte
    | cons d front =>
      rw [List.cons_append, List.cons.injEq] at happend
      rw [byteLength_cons, ← happend.1] at hbyte
      omega

/-- The byte of a character is a boundary. -/
theorem cutAt?_byteIndex (cs : List Char) (index : Nat) :
    cutAt? cs (byteIndex cs index) = some (cs.take index, cs.drop index) :=
  cutAt?_eq_some_iff.2 ⟨(List.take_append_drop ..).symm, (byteIndex_eq cs index).symm⟩

theorem insertAt?_byteIndex (cs : List Char) (index : Nat) (c : Char) :
    insertAt? cs (byteIndex cs index) c = some (cs.take index ++ c :: cs.drop index) := by
  rw [insertAt?, cutAt?_byteIndex, Option.map_some]

theorem removeAt?_byteIndex {cs : List Char} {index : Nat} (h : index < cs.length) :
    removeAt? cs (byteIndex cs index) = some (cs.eraseIdx index) := by
  rw [removeAt?, cutAt?_byteIndex, List.drop_eq_getElem_cons h, List.eraseIdx_eq_take_drop_succ]

end Text

/-! ## Editing at bytes -/

/-- A text and a number of characters before the cursor; the text may have fewer. -/
structure ByteBuffer where
  chars : List Char
  cursor : Nat
  deriving DecidableEq

namespace ByteBuffer

/-- No text. -/
def empty : ByteBuffer := ⟨[], 0⟩

/-- The line and the column of the cursor. -/
def position (b : ByteBuffer) : Nat × Nat := Editor.lineColumn (b.chars.take b.cursor)

/-- The number of lines. -/
def lineCount (b : ByteBuffer) : Nat := (Text.lines b.chars).length

/-- The length of a line, zero where there is no such line. -/
def lineLength (b : ByteBuffer) (line : Nat) : Nat := ((Text.lines b.chars)[line]?.getD []).length

/-- The number of characters before a line. -/
def lineStart (b : ByteBuffer) (line : Nat) : Nat :=
  Editor.lengthWithFeeds ((Text.lines b.chars).take line)

/-- The cursor at a column of a line, or at the end of the line where that is shorter. -/
def goTo (b : ByteBuffer) (line column : Nat) : ByteBuffer :=
  ⟨b.chars, b.lineStart line + min column (b.lineLength line)⟩

def insert? (b : ByteBuffer) (c : Char) : Option ByteBuffer :=
  (Text.insertAt? b.chars (Text.byteIndex b.chars b.cursor) c).map (⟨·, b.cursor + 1⟩)

def backspace? (b : ByteBuffer) : Option ByteBuffer :=
  if 0 < b.cursor then
    (b.cursor.psub 1).bind fun cursor =>
      (Text.removeAt? b.chars (Text.byteIndex b.chars cursor)).map (⟨·, cursor⟩)
  else some b

def delete? (b : ByteBuffer) : Option ByteBuffer :=
  if b.cursor < b.chars.length then
    (Text.removeAt? b.chars (Text.byteIndex b.chars b.cursor)).map (⟨·, b.cursor⟩)
  else some b

/-- The cursor one character to the left, where the floor is meant. -/
def left (b : ByteBuffer) : ByteBuffer := ⟨b.chars, b.cursor - 1⟩

def right (b : ByteBuffer) : ByteBuffer := ⟨b.chars, min (b.cursor + 1) b.chars.length⟩

def up? (b : ByteBuffer) : Option ByteBuffer :=
  let (line, column) := b.position
  if 0 < line then (line.psub 1).map (b.goTo · column) else some b

def down (b : ByteBuffer) : ByteBuffer :=
  let (line, column) := b.position
  if line + 1 < b.lineCount then b.goTo (line + 1) column else b

def home? (b : ByteBuffer) : Option ByteBuffer :=
  (b.cursor.psub b.position.2).map (⟨b.chars, ·⟩)

def toLineEnd? (b : ByteBuffer) : Option ByteBuffer :=
  let (line, column) := b.position
  ((b.lineLength line).psub column).map fun rest => ⟨b.chars, b.cursor + rest⟩

/-- The buffer after a command; submitting leaves it as it is. -/
def run? (b : ByteBuffer) : Editor.Command → Option ByteBuffer
  | .submit => some b
  | .newline => b.insert? '\n'
  | .insert c => b.insert? c
  | .backspace => b.backspace?
  | .delete => b.delete?
  | .left => some b.left
  | .right => some b.right
  | .up => b.up?
  | .down => some b.down
  | .home => b.home?
  | .toLineEnd => b.toLineEnd?
  | .clear => some empty

/-- The buffer after an operation. -/
def step? (b : ByteBuffer) : Editor.Operation → Option ByteBuffer
  | .setText text => some ⟨text.toList, text.toList.length⟩
  | .run command => b.run? command

end ByteBuffer

/-! ## The question box edits at bytes -/

namespace Editor

/-- The text and the cursor of a box. -/
def bytes (e : Editor) : ByteBuffer := ⟨e.chars, e.cursor⟩

@[simp] theorem bytes_chars (e : Editor) : e.bytes.chars = e.chars := rfl

@[simp] theorem bytes_cursor (e : Editor) : e.bytes.cursor = e.cursor := rfl

/-- A position inside the text is where the cursor is placed. -/
theorem bytes_place {e : Editor} {cursor : Nat} (h : cursor ≤ e.chars.length) :
    (e.place cursor).bytes = ⟨e.chars, cursor⟩ := by
  exact congrArg (ByteBuffer.mk e.chars) (Nat.min_eq_left h)

/-- The start of a line and the line itself are inside the text. -/
theorem lineStart_add_lineLength_le {e : Editor} {line : Nat} (h : line < e.lineCount) :
    e.lineStart line + e.lineLength line ≤ e.chars.length := by
  have hall := lengthWithFeeds_lines e.chars
  have hsplit := lengthWithFeeds_append ((Text.lines e.chars).take line)
    ((Text.lines e.chars).drop line)
  rw [List.take_append_drop, List.drop_eq_getElem_cons h, lengthWithFeeds, hall] at hsplit
  rw [lineStart, lineLength, List.getElem?_eq_getElem h, Option.getD_some]
  omega

theorem bytes_goTo {e : Editor} {line : Nat} (h : line < e.lineCount) (column : Nat) :
    (e.goTo line column).bytes = e.bytes.goTo line column := by
  have hle := lineStart_add_lineLength_le h
  refine bytes_place ?_
  have hmin := Nat.min_le_right column (e.lineLength line)
  omega

theorem bytes_insert? (e : Editor) (c : Char) : e.bytes.insert? c = some (e.insert c).bytes := by
  rw [ByteBuffer.insert?, Text.insertAt?_byteIndex, Option.map_some]
  rfl

theorem bytes_backspace? (e : Editor) : e.bytes.backspace? = some e.backspace.bytes := by
  have hle := e.cursor_le
  rw [ByteBuffer.backspace?, backspace, bytes_cursor, bytes_chars]
  by_cases hpos : 0 < e.cursor
  · have hlt : e.cursor - 1 < e.chars.length := by omega
    rw [if_pos hpos, dif_pos hpos, Nat.psub_eq_sub hpos, Option.bind_some,
      Text.removeAt?_byteIndex hlt, Option.map_some]
    rfl
  · rw [if_neg hpos, dif_neg hpos]

theorem bytes_delete? (e : Editor) : e.bytes.delete? = some e.delete.bytes := by
  rw [ByteBuffer.delete?, delete, bytes_cursor, bytes_chars]
  by_cases hlt : e.cursor < e.chars.length
  · rw [if_pos hlt, dif_pos hlt, Text.removeAt?_byteIndex hlt, Option.map_some]
    rfl
  · rw [if_neg hlt, dif_neg hlt]

theorem bytes_left (e : Editor) : e.bytes.left = e.left.bytes := by
  have hle := e.cursor_le
  rw [left, bytes_place (by omega)]
  rfl

theorem bytes_up? (e : Editor) : e.bytes.up? = some e.up.bytes := by
  obtain ⟨hline, -, -⟩ := e.position_bounds
  change (if 0 < e.position.1 then (e.position.1.psub 1).map (e.bytes.goTo · e.position.2)
    else some e.bytes) = some (if 0 < e.position.1 then e.goTo (e.position.1 - 1) e.position.2
    else e).bytes
  by_cases hpos : 0 < e.position.1
  · rw [if_pos hpos, if_pos hpos, Nat.psub_eq_sub hpos, Option.map_some, bytes_goTo (by omega)]
  · rw [if_neg hpos, if_neg hpos]

theorem bytes_down (e : Editor) : e.bytes.down = e.down.bytes := by
  change (if e.position.1 + 1 < e.lineCount then e.bytes.goTo (e.position.1 + 1) e.position.2
    else e.bytes) = (if e.position.1 + 1 < e.lineCount then e.goTo (e.position.1 + 1) e.position.2
    else e).bytes
  by_cases hlt : e.position.1 + 1 < e.lineCount
  · rw [if_pos hlt, if_pos hlt, bytes_goTo hlt]
  · rw [if_neg hlt, if_neg hlt]

theorem bytes_home? (e : Editor) : e.bytes.home? = some e.home.bytes := by
  obtain ⟨-, -, hcursor⟩ := e.position_bounds
  have hle := e.cursor_le
  rw [home, bytes_place (by omega)]
  change (e.cursor.psub e.position.2).map _ = _
  rw [Nat.psub_eq_sub (by omega), Option.map_some]
  rfl

theorem bytes_toLineEnd? (e : Editor) : e.bytes.toLineEnd? = some e.toLineEnd.bytes := by
  obtain ⟨hline, hcolumn, hcursor⟩ := e.position_bounds
  have hle := lineStart_add_lineLength_le hline
  change ((e.lineLength e.position.1).psub e.position.2).map _ =
    some (e.place (e.cursor + (e.lineLength e.position.1 - e.position.2))).bytes
  rw [bytes_place (by omega), Nat.psub_eq_sub hcolumn, Option.map_some]
  rfl

/-- **No operation on a box fails at the bytes**, and it does there what it does to the box. -/
theorem bytes_step? (e : Editor) (operation : Operation) :
    e.bytes.step? operation = some (e.apply operation).bytes := by
  cases operation with
  | setText text => rfl
  | run command =>
    cases command with
    | submit | clear | right => rfl
    | newline => exact bytes_insert? e '\n'
    | insert c => exact bytes_insert? e c
    | backspace => exact bytes_backspace? e
    | delete => exact bytes_delete? e
    | left => exact congrArg some (bytes_left e)
    | up => exact bytes_up? e
    | down => exact congrArg some (bytes_down e)
    | home => exact bytes_home? e
    | toLineEnd => exact bytes_toLineEnd? e

/-! ## Runs -/

/-- The box after operations on the empty one. -/
def typed (operations : List Operation) : Editor := operations.foldl apply empty

end Editor

/-- The gap buffer after operations on the empty one. -/
def GapBuffer.typed (operations : List Editor.Operation) : GapBuffer :=
  operations.foldl apply empty

/-- The buffer after operations on the empty one, if none of them fails. -/
def ByteBuffer.typed? (operations : List Editor.Operation) : Option ByteBuffer :=
  operations.foldlM step? empty

namespace Editor

theorem foldlM_step?_bytes (e : Editor) (operations : List Operation) :
    operations.foldlM ByteBuffer.step? e.bytes = some (operations.foldl apply e).bytes := by
  induction operations generalizing e with
  | nil => rfl
  | cons operation operations ih =>
    rw [List.foldlM_cons, bytes_step?, Option.bind_eq_bind, Option.bind_some, ih, List.foldl_cons]

theorem gap_foldl_apply (e : Editor) (operations : List Operation) :
    (operations.foldl apply e).gap = operations.foldl GapBuffer.apply e.gap := by
  induction operations generalizing e with
  | nil => rfl
  | cons operation operations ih => rw [List.foldl_cons, ih, gap_apply, List.foldl_cons]

theorem gap_typed (operations : List Operation) : (typed operations).gap = .typed operations :=
  gap_foldl_apply empty operations

/-- A command that moves the cursor leaves the text of the box as it is. -/
theorem chars_run_of_isMove (e : Editor) {command : Command} (h : command.isMove = true) :
    (e.run command).chars = e.chars := by
  have hgap : (e.run command).gap = e.gap.run command := gap_apply e (.run command)
  rw [← text_gap, hgap, GapBuffer.text_run_of_isMove _ h, text_gap]

/-- **The question box is a gap buffer, down to its bytes.**  From the empty text on, no sequence of
operations fails, the cursor stays inside the text, and text and cursor are those of the gap buffer
that the same operations leave.  Moving leaves the text as it is, in the box and in the gap buffer. -/
theorem typing_refines_gapBuffer (operations : List Operation) :
    ByteBuffer.typed? operations =
        some ⟨(typed operations).chars, (typed operations).cursor⟩ ∧
      (typed operations).cursor ≤ (typed operations).chars.length ∧
      (typed operations).chars =
        (GapBuffer.typed operations).before ++ (GapBuffer.typed operations).after ∧
      (typed operations).cursor = (GapBuffer.typed operations).before.length ∧
      ∀ command : Command, command.isMove = true →
        ((typed operations).run command).chars = (typed operations).chars ∧
          ((GapBuffer.typed operations).run command).text = (GapBuffer.typed operations).text := by
  refine ⟨foldlM_step?_bytes empty operations, cursor_le _, ?_, ?_, fun command hmove =>
    ⟨chars_run_of_isMove _ hmove, GapBuffer.text_run_of_isMove _ hmove⟩⟩
  · rw [← gap_typed]
    exact (text_gap _).symm
  · rw [← gap_typed]
    exact (length_before_gap _).symm

/-- Characters of several bytes, a line below them, and Delete in the line above. -/
theorem two_lines_of_wide_characters :
    let operations : List Operation :=
      [.setText "aß語", .run .newline, .run (.insert 'x'), .run .up, .run .delete]
    Command.isMove .down = true ∧
      ByteBuffer.typed? operations = some ⟨['a', '語', '\n', 'x'], 1⟩ ∧
      ((typed operations).run .down).chars = ['a', '語', '\n', 'x'] :=
  ⟨rfl, (typing_refines_gapBuffer _).1.trans (by decide),
    ((typing_refines_gapBuffer _).2.2.2.2 .down rfl).1.trans (by decide)⟩

end Editor
end QueryConsole
