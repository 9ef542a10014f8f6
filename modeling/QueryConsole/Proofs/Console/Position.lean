/-
# Cursors and their lines and columns

A cursor is a number of characters, and a line with a column of it is another name for it.  Counting
line feeds in front of the cursor gives the line and the column, adding up lengths of lines gives the
cursor, and each undoes the other: `position_bounds` for one way and `position_place` for the way back.

So a move that goes to a column of a line lands exactly there (`position_goTo`):

| move | line | column |
| --- | --- | --- |
| up, where there is a line above | the line above | the same, or the end of that line |
| down, where there is a line below | the line below | the same, or the end of that line |
| home | the same | 0 |
| to the end of the line | the same | the length of the line |

Up from the first line and down from the last change nothing (`cursor_geometry`).
-/

import QueryConsole.Proofs.Console.Cursor

namespace QueryConsole
namespace Editor

variable {e : Editor} {line column : Nat}

/-- **Counting back:** behind the lines before it and a column of it, a line is reached at that
column. -/
theorem lineColumn_take (cs : List Char) (hline : line < (Text.lines cs).length)
    (hcolumn : column ≤ (Text.lines cs)[line].length) :
    lineColumn (cs.take (lengthWithFeeds ((Text.lines cs).take line) + column)) =
      (line, column) := by
  induction cs generalizing line column with
  | nil =>
    obtain rfl : line = 0 := Nat.lt_one_iff.mp hline
    obtain rfl : column = 0 := Nat.le_zero.mp hcolumn
    rfl
  | cons c cs ih =>
    by_cases hc : c = '\n'
    · have hlines : Text.lines (c :: cs) = [] :: Text.lines cs := by rw [Text.lines, if_pos hc]
      simp only [hlines, List.length_cons] at hline hcolumn ⊢
      cases line with
      | zero =>
        obtain rfl : column = 0 := Nat.le_zero.mp hcolumn
        rfl
      | succ line =>
        have hrest := ih (Nat.lt_of_succ_lt_succ hline) hcolumn
        rw [List.take_succ_cons, lengthWithFeeds, List.length_nil, Nat.zero_add, Nat.add_assoc,
          Nat.add_comm 1, List.take_succ_cons, hc, lineColumn_cons_feed, hrest]
    · -- the character stands in front of the first line of the rest
      cases hrest : Text.lines cs with
      | nil => exact absurd hrest (Text.lines_ne_nil cs)
      | cons first rest =>
        have hlines : Text.lines (c :: cs) = (c :: first) :: rest := by
          rw [Text.lines, if_neg hc, hrest]
        simp only [hlines, List.length_cons] at hline hcolumn ⊢
        simp only [hrest, List.length_cons] at ih
        cases line with
        | zero =>
          cases column with
          | zero => rfl
          | succ column =>
            have hfront := ih (Nat.succ_pos _) (Nat.le_of_succ_le_succ hcolumn)
            rw [List.take_zero, lengthWithFeeds, Nat.zero_add] at hfront ⊢
            rw [List.take_succ_cons, lineColumn_cons_of_ne hc, hfront]
            rfl
        | succ line =>
          have hbelow := ih hline hcolumn
          rw [List.take_succ_cons, lengthWithFeeds] at hbelow ⊢
          have hlength : (c :: first).length + 1 + lengthWithFeeds (rest.take line) + column =
              first.length + 1 + lengthWithFeeds (rest.take line) + column + 1 := by
            rw [List.length_cons]
            omega
          rw [hlength, List.take_succ_cons, lineColumn_cons_of_ne hc, hbelow]
          rfl

/-- **The cursor put at a line and a column has that position.** -/
theorem position_place (hline : line < e.lineCount) (hcolumn : column ≤ e.lineLength line) :
    (e.place (e.lineStart line + column)).position = (line, column) := by
  rw [lineLength, List.getElem?_eq_getElem hline, Option.getD_some] at hcolumn
  rw [position, place, ← List.take_eq_take_min]
  exact lineColumn_take e.chars hline hcolumn

/-- It is put there without being stopped at the end of the text. -/
theorem cursor_place (hline : line < e.lineCount) (hcolumn : column ≤ e.lineLength line) :
    (e.place (e.lineStart line + column)).cursor = e.lineStart line + column := by
  obtain ⟨-, -, hcursor⟩ := (e.place (e.lineStart line + column)).position_bounds
  rw [position_place hline hcolumn] at hcursor
  exact hcursor.symm

/-- **Going to a column of a line lands there**, or at the end of the line if it is shorter. -/
theorem position_goTo (hline : line < e.lineCount) (column : Nat) :
    (e.goTo line column).position = (line, min column (e.lineLength line)) :=
  position_place hline (Nat.min_le_right ..)

/-- The start of the cursor's line is its column before the cursor. -/
theorem home_eq_place (e : Editor) : e.home = e.place (e.lineStart e.position.1 + 0) := by
  obtain ⟨-, -, hcursor⟩ := e.position_bounds
  rw [home, ← hcursor, Nat.add_sub_cancel, Nat.add_zero]

/-- The end of the cursor's line is behind its start by the length of the line. -/
theorem toLineEnd_eq_place (e : Editor) :
    e.toLineEnd = e.place (e.lineStart e.position.1 + e.lineLength e.position.1) := by
  obtain ⟨-, hcolumn, hcursor⟩ := e.position_bounds
  have hend : e.cursor + (e.lineLength e.position.1 - e.position.2) =
      e.lineStart e.position.1 + e.lineLength e.position.1 := by
    omega
  exact congrArg e.place hend

/-- **Positions and cursors name the same places.**  The line of the cursor exists, its column is in
the line, and both lead back to the cursor; from every column of a line the cursor that is put there
leads back to it.  So every move to another line or along a line leaves the text as it is and lands at
the position that its name says; without a line to go to, nothing changes. -/
theorem cursor_geometry (e : Editor) :
    (e.position.1 < e.lineCount ∧ e.position.2 ≤ e.lineLength e.position.1 ∧
        e.lineStart e.position.1 + e.position.2 = e.cursor) ∧
      (∀ line column, line < e.lineCount → column ≤ e.lineLength line →
        (e.place (e.lineStart line + column)).cursor = e.lineStart line + column ∧
          (e.place (e.lineStart line + column)).position = (line, column)) ∧
      (0 < e.position.1 → e.up.chars = e.chars ∧
        e.up.position =
          (e.position.1 - 1, min e.position.2 (e.lineLength (e.position.1 - 1)))) ∧
      (e.position.1 = 0 → e.up = e) ∧
      (e.position.1 + 1 < e.lineCount → e.down.chars = e.chars ∧
        e.down.position =
          (e.position.1 + 1, min e.position.2 (e.lineLength (e.position.1 + 1)))) ∧
      (e.position.1 + 1 = e.lineCount → e.down = e) ∧
      (e.home.chars = e.chars ∧ e.home.position = (e.position.1, 0)) ∧
      e.toLineEnd.chars = e.chars ∧
      e.toLineEnd.position = (e.position.1, e.lineLength e.position.1) := by
  have hbounds := e.position_bounds
  refine ⟨hbounds, fun line column hline hcolumn => ?_, fun habove => ?_, fun hfirst => ?_,
    fun hbelow => ?_, fun hlast => ?_, ⟨rfl, ?_⟩, rfl, ?_⟩
  · exact ⟨cursor_place hline hcolumn, position_place hline hcolumn⟩
  · have hup : e.up = e.goTo (e.position.1 - 1) e.position.2 := if_pos habove
    rw [hup]
    exact ⟨rfl, position_goTo (by omega) _⟩
  · have hnone : ¬0 < e.position.1 := by omega
    exact if_neg hnone
  · have hdown : e.down = e.goTo (e.position.1 + 1) e.position.2 := if_pos hbelow
    rw [hdown]
    exact ⟨rfl, position_goTo hbelow _⟩
  · have hnone : ¬e.position.1 + 1 < e.lineCount := by omega
    exact if_neg hnone
  · rw [home_eq_place]
    exact position_place hbounds.1 (Nat.zero_le _)
  · rw [toLineEnd_eq_place]
    exact position_place hbounds.1 (Nat.le_refl _)

/-- Up from the end of the second line to the end of a shorter one, over a line feed. -/
theorem up_to_shorter_line :
    0 < (ofText "ab\nlonger").position.1 ∧ (ofText "ab\nlonger").up.position = (0, 2) := by
  have habove : 0 < (ofText "ab\nlonger").position.1 := by decide +kernel
  have hup := ((cursor_geometry (ofText "ab\nlonger")).2.2.1 habove).2
  refine ⟨habove, hup.trans ?_⟩
  decide +kernel

end Editor
end QueryConsole
