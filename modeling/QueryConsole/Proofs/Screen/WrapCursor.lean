/-
# The cursor in the rows of a text

The cursor of wrapped lines has a row and a column of the screen.  It stands where the cursor of
the text is (`StandsAt`): in a row of the cursor's own line, cut there so that the rows of the line
above and the front of the row are the characters before the cursor, and the rest of the row starts
with the character behind it (`SplitsAt`).

| cursor | where it stands | lemma |
| --- | --- | --- |
| before a character | in the row of the character | `splitsAt_placeIn` |
| at the end of its line | behind the last row, or below it if it is full | `splitsAt_cursorLine` |

The position of the question box is always one of its text, so its cursor always stands where it is
(`cursor_at_its_character`).
-/

import QueryConsole.Proofs.Console.Cursor
import QueryConsole.Proofs.Screen.Wrap
import QueryConsole.Screen.QuestionBox

namespace QueryConsole
namespace Wrap

variable {width column : Nat} {line : List Char}

/-- A row and a column of the screen in the rows of a line, at one of its characters or behind them
all: the row is cut in two there, and what is in front of the cut is the front part of the line. -/
def SplitsAt (rows : List (List Char)) (cs : List Char) (column : Nat) (place : Nat × Nat) : Prop :=
  ∃ front back, rows[place.1]? = some (front ++ back) ∧
    (rows.take place.1).flatten ++ front = cs.take column ∧
    back.head? = cs[column]? ∧
    place.2 = columns front

/-- **A character stands where its place in the rows is.** -/
theorem splitsAt_placeIn {rows : List (List Char)} (h : column < rows.flatten.length) :
    SplitsAt rows rows.flatten column (placeIn rows column) := by
  induction rows generalizing column with
  | nil => exact absurd h (Nat.not_lt_zero column)
  | cons row rows ih =>
    rw [placeIn, List.flatten_cons]
    by_cases hrow : column < row.length
    · rw [if_pos hrow]
      refine ⟨row.take column, row.drop column, ?_, ?_, ?_, rfl⟩
      · rw [List.getElem?_cons_zero, List.take_append_drop]
      · exact (List.take_append_of_le_length hrow.le).symm
      · rw [List.head?_drop, List.getElem?_append_left hrow]
    · rw [if_neg hrow]
      have hle : row.length ≤ column := Nat.le_of_not_lt hrow
      have hrest : column - row.length < rows.flatten.length := by
        rw [List.flatten_cons, List.length_append] at h
        omega
      obtain ⟨front, back, hget, hfront, hback, hcolumns⟩ := ih hrest
      refine ⟨front, back, hget, ?_, ?_, hcolumns⟩
      · rw [List.take_succ_cons, List.flatten_cons, List.append_assoc, hfront, List.take_append,
          List.take_of_length_le hle]
      · rw [hback, List.getElem?_append_right hle]

/-- **The cursor of a line stands at its column**, also at the end of the line. -/
theorem splitsAt_cursorLine (hcolumn : column ≤ line.length) :
    SplitsAt (cursorRows width line column) line column (cursorLine width line column).cursor := by
  have hflatten : (rowsOf width line).flatten = line := flatten_rowsFrom width 0 line
  rw [← rows_cursorLine hcolumn, cursorLine,
    List.getLast?_eq_some_getLast (rowsOf_ne_nil width line)]
  dsimp only [Option.getD_some]
  by_cases hlt : column < line.length
  · rw [if_pos hlt]
    rw [← hflatten] at hlt
    have hplace := splitsAt_placeIn hlt
    rw [hflatten] at hplace
    exact hplace
  · obtain rfl : column = line.length := by omega
    rw [if_neg hlt]
    split
    · -- the last row is full, so the cursor is in an empty row below it
      refine ⟨[], [], List.getElem?_concat_length, ?_, ?_, rfl⟩
      · rw [List.take_left, List.append_nil, hflatten, List.take_length]
      · rw [List.getElem?_eq_none (Nat.le_refl _), List.head?_nil]
    · have hlast := List.dropLast_append_getLast (rowsOf_ne_nil width line)
      refine ⟨(rowsOf width line).getLast (rowsOf_ne_nil width line), [], ?_, ?_, ?_, rfl⟩
      · rw [List.append_nil, ← List.getLast?_eq_getElem?, List.getLast?_eq_some_getLast]
      · rw [← List.dropLast_eq_take, List.take_length]
        conv_rhs => rw [← hflatten, ← hlast]
        rw [List.flatten_append, List.flatten_singleton]
      · rw [List.getElem?_eq_none (Nat.le_refl _), List.head?_nil]

/-! ## Texts and the question box -/

/-- Wrapped lines have their cursor at a place, the index of a line and a column of it: there is
such a place, and the cursor is in the rows of that line, where they are cut at the column. -/
def StandsAt (width : Nat) (lines : List (List Char)) (place : Nat × Nat) (t : WrappedText) :
    Prop :=
  ∃ (hline : place.1 < lines.length) (row : Nat),
    place.2 ≤ lines[place.1].length ∧
    t.rows = (lines.take place.1).flatMap (rowsOf width) ++
      cursorRows width lines[place.1] place.2 ++
      (lines.drop (place.1 + 1)).flatMap (rowsOf width) ∧
    t.cursor.1 = ((lines.take place.1).flatMap (rowsOf width)).length + row ∧
    SplitsAt (cursorRows width lines[place.1] place.2) lines[place.1] place.2 (row, t.cursor.2)

theorem standsAt_ofLines {lines : List (List Char)} {index : Nat} (width : Nat)
    (hindex : index < lines.length) (hcolumn : column ≤ lines[index].length) :
    StandsAt (max width 1) lines (index, column) (.ofLines lines (index, column) width) := by
  rw [ofLines_eq width hindex hcolumn]
  exact ⟨hindex, (cursorLine (max width 1) lines[index] column).cursor.1, hcolumn, rfl, rfl,
    splitsAt_cursorLine hcolumn⟩

/-- **The cursor stands at its character.**  Wherever the cursor of a text is, it is drawn in a row
of its own line, behind exactly the characters of the line that are before it, in the column that
those in the row take, and in front of the character that is behind it.  The question box always has
its cursor at a place in its text, so this holds for every content of the box. -/
theorem cursor_at_its_character (width : Nat) :
    (∀ (cs : List Char) (index column : Nat) (hindex : index < (Text.lines cs).length),
      column ≤ (Text.lines cs)[index].length →
        StandsAt (max width 1) (Text.lines cs) (index, column)
          (.ofLines (Text.lines cs) (index, column) width)) ∧
      ∀ e : Editor, StandsAt (max width 1) (Text.lines e.chars) e.position (e.wrapped width) := by
  refine ⟨fun cs index column hindex hcolumn => standsAt_ofLines width hindex hcolumn, fun e => ?_⟩
  obtain ⟨hindex, hcolumn, -⟩ := e.position_bounds
  rw [Editor.lineCount] at hindex
  rw [Editor.lineLength, List.getElem?_eq_getElem hindex, Option.getD_some] at hcolumn
  exact standsAt_ofLines width hindex hcolumn

/-- A cursor before a character that does not fit in the row stands at the start of the next row. -/
theorem cursor_before_wrapped_character :
    0 < (Text.lines "ab日".toList).length ∧
      2 ≤ ((Text.lines "ab日".toList)[0]).length ∧
      (WrappedText.ofLines (Text.lines "ab日".toList) (0, 2) 3).cursor = (1, 0) ∧
      StandsAt 3 (Text.lines "ab日".toList) (0, 2)
        (.ofLines (Text.lines "ab日".toList) (0, 2) 3) := by
  have hcolumn : 2 ≤ ((Text.lines "ab日".toList)[0]).length := by decide +kernel
  exact ⟨by decide +kernel, hcolumn, by decide +kernel,
    (cursor_at_its_character 3).1 "ab日".toList 0 2 (by decide +kernel) hcolumn⟩

end Wrap
end QueryConsole
