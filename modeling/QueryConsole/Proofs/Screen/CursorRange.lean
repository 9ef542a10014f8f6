/-
# The range of the cursor in the rows of a text

The cursor of wrapped lines is in one of the rows, and at the end of a line it always has a column of
the box: a cursor behind a full row gets an empty row (`column_cursorLine_length`).  In front of a
character the row is broken only where the character does not fit, and a character that takes no
columns always fits.

| what stands behind the cursor | columns in front of the cursor |
| --- | --- |
| the end of the line, or a character that takes columns | less than the width |
| a character that takes no columns | at most the width |

So a cursor is behind the last column of the box exactly if it stands between a full row and a
character of that row that takes no columns (`StandsBeyond`, `cursor_range`).
-/

import QueryConsole.Proofs.Screen.WrapCursor

namespace QueryConsole
namespace Wrap

variable {width column : Nat} {line front back : List Char} {c : Char}

/-! ## Places in the rows of a line -/

/-- **The place of a character** is the number of rows above it and the columns in front of it. -/
theorem placeIn_append (above below : List (List Char)) (front back : List Char) (c : Char) :
    placeIn (above ++ (front ++ c :: back) :: below) (above.flatten ++ front).length =
      (above.length, columns front) := by
  induction above with
  | nil =>
    have hlt : front.length < (front ++ c :: back).length := by
      rw [List.length_append, List.length_cons]
      omega
    rw [List.flatten_nil, List.nil_append, List.nil_append, placeIn, if_pos hlt, List.take_left,
      List.length_nil]
  | cons row above ih =>
    have hlength : ((row :: above).flatten ++ front).length =
        row.length + (above.flatten ++ front).length := by
      rw [List.flatten_cons, List.append_assoc, List.length_append]
    rw [List.cons_append, placeIn, hlength, if_neg (by omega), Nat.add_sub_cancel_left, ih,
      List.length_cons]

/-- In front of a character of a row the width is not exceeded; it is reached only in front of a
character that takes no columns. -/
theorem Fits.columns_front (hwidth : 0 < width) (h : Fits width (front ++ c :: back)) :
    columns front ≤ width ∧ (columns front = width → Width.ofChar c = 0) := by
  rw [Fits, List.dropLast_append_of_ne_nil (List.cons_ne_nil c back), columns_append, columns_append,
    columns] at h
  omega

/-- A column of a line between a full row and a character of that row that takes no columns. -/
def StandsBeyond (width : Nat) (line : List Char) (column : Nat) : Prop :=
  ∃ above front c back below, rowsOf width line = above ++ (front ++ c :: back) :: below ∧
    (above.flatten ++ front).length = column ∧ columns front = width ∧ Width.ofChar c = 0

/-- Such a column is in front of a character of the line. -/
theorem StandsBeyond.lt_length (h : StandsBeyond width line column) : column < line.length := by
  obtain ⟨above, front, c, back, below, hrows, rfl, -, -⟩ := h
  have hflatten : (rowsOf width line).flatten = line := flatten_rowsFrom width 0 line
  rw [← hflatten, hrows]
  simp only [List.flatten_append, List.flatten_cons, List.length_append, List.length_cons]
  omega

/-! ## The cursor of a line -/

theorem cursorLine_of_lt (hlt : column < line.length) :
    cursorLine width line column = ⟨rowsOf width line, placeIn (rowsOf width line) column⟩ :=
  if_pos hlt

/-- A character of a line is in one of its rows, behind the characters in front of it. -/
theorem exists_rowsOf_eq (width : Nat) (hlt : column < line.length) :
    ∃ above front c back below, rowsOf width line = above ++ (front ++ c :: back) :: below ∧
      (above.flatten ++ front).length = column := by
  have hflatten : (rowsOf width line).flatten = line := flatten_rowsFrom width 0 line
  have hplace : column < (rowsOf width line).flatten.length := by rwa [hflatten]
  obtain ⟨front, back, hrow, hfront, hback, -⟩ := splitsAt_placeIn hplace
  rw [hflatten, List.getElem?_eq_getElem hlt] at hback
  obtain ⟨hindex, hget⟩ := List.getElem?_eq_some_iff.mp hrow
  cases back with
  | nil => cases hback
  | cons c back =>
    refine ⟨(rowsOf width line).take (placeIn (rowsOf width line) column).1, front, c, back,
      (rowsOf width line).drop ((placeIn (rowsOf width line) column).1 + 1), ?_, ?_⟩
    · rw [← hget, List.getElem_cons_drop, List.take_append_drop]
    · rw [hfront, hflatten, List.length_take, Nat.min_eq_left hlt.le]

/-- **In front of a character** the cursor is inside the width or, beyond a full row, at it. -/
theorem column_cursorLine_of_lt (hwidth : 0 < width) (hlt : column < line.length) :
    (cursorLine width line column).cursor.2 ≤ width ∧
      ((cursorLine width line column).cursor.2 = width ↔ StandsBeyond width line column) := by
  obtain ⟨above, front, c, back, below, hrows, rfl⟩ := exists_rowsOf_eq width hlt
  have hfits := (isWrapped_rowsOf width line).fits (front ++ c :: back) (by
    rw [hrows]
    exact List.mem_append_right _ List.mem_cons_self)
  have hcursor : (cursorLine width line (above.flatten ++ front).length).cursor.2 =
      columns front := by
    rw [cursorLine_of_lt hlt, hrows, placeIn_append]
  rw [hcursor]
  obtain ⟨hle, hzero⟩ := hfits.columns_front hwidth
  refine ⟨hle, fun hfull => ⟨above, front, c, back, below, hrows, rfl, hfull, hzero hfull⟩, ?_⟩
  rintro ⟨above', front', c', back', below', hrows', hlength, hfull, -⟩
  -- both cuts of the rows are at the same column, so they have the same place
  have hplace := placeIn_append above' below' front' back' c'
  rw [← hrows', hlength, hrows, placeIn_append] at hplace
  rw [(Prod.mk.inj hplace).2, hfull]

/-- **At the end of its line** the cursor is inside the width. -/
theorem column_cursorLine_length (hwidth : 0 < width) (line : List Char) :
    (cursorLine width line line.length).cursor.2 < width := by
  rw [cursorLine, if_neg (Nat.lt_irrefl _)]
  dsimp only
  split
  · exact hwidth
  · rename_i hroom
    exact Nat.lt_of_not_le hroom

/-- The cursor of a line is inside the width unless it stands beyond a full row. -/
theorem column_cursorLine (hwidth : 0 < width) (hcolumn : column ≤ line.length) :
    (cursorLine width line column).cursor.2 ≤ width ∧
      ((cursorLine width line column).cursor.2 = width ↔ StandsBeyond width line column) := by
  obtain hlt | rfl := Nat.lt_or_eq_of_le hcolumn
  · exact column_cursorLine_of_lt hwidth hlt
  · have hlt := column_cursorLine_length hwidth line
    exact ⟨hlt.le, iff_of_false hlt.ne fun h => Nat.lt_irrefl _ h.lt_length⟩

/-- The row of the cursor of a line is one of the rows of the line. -/
theorem row_cursorLine_lt (width : Nat) (hcolumn : column ≤ line.length) :
    (cursorLine width line column).cursor.1 < (cursorRows width line column).length := by
  obtain ⟨front, back, hrow, -⟩ : SplitsAt (cursorRows width line column) line column _ :=
    splitsAt_cursorLine hcolumn
  exact (List.getElem?_eq_some_iff.mp hrow).1

/-! ## The cursor of a text -/

/-- **The cursor is in a row of the text, and in a column of the box unless it stands beyond a full
row:** then, and only then, it is in the first column behind the box. -/
theorem cursor_range (cs : List Char) {index column : Nat} (width : Nat)
    (hindex : index < (Text.lines cs).length)
    (hcolumn : column ≤ (Text.lines cs)[index].length) :
    let t := WrappedText.ofLines (Text.lines cs) (index, column) width
    t.cursor.1 < t.rows.length ∧
      t.cursor.2 ≤ max width 1 ∧
      (t.cursor.2 = max width 1 ↔
        StandsBeyond (max width 1) (Text.lines cs)[index] column) := by
  intro t
  have hrow := row_cursorLine_lt (max width 1) hcolumn
  have ht := ofLines_eq width hindex hcolumn
  refine ⟨?_, ?_⟩
  · simp only [t, ht, List.length_append]
    omega
  · simp only [t, ht]
    exact column_cursorLine (Nat.le_max_right width 1) hcolumn

/-- A cursor at the end of a full row is in the first column of an empty row below it. -/
theorem cursor_range_below_full_row :
    0 < (Text.lines "日本".toList).length ∧ 2 ≤ ((Text.lines "日本".toList)[0]).length ∧
      (WrappedText.ofLines (Text.lines "日本".toList) (0, 2) 2).cursor = (2, 0) ∧
      2 < (WrappedText.ofLines (Text.lines "日本".toList) (0, 2) 2).rows.length := by
  have hcolumn : 2 ≤ ((Text.lines "日本".toList)[0]).length := by decide +kernel
  have hcursor : (WrappedText.ofLines (Text.lines "日本".toList) (0, 2) 2).cursor = (2, 0) := by
    decide +kernel
  have hrange := cursor_range "日本".toList 2 (by decide +kernel) hcolumn
  dsimp only at hrange
  rw [hcursor] at hrange
  exact ⟨by decide +kernel, hcolumn, hcursor, hrange.1⟩

/-- A cursor in front of an accent on the last character of a full row is behind the box. -/
theorem cursor_before_accent_of_full_row :
    ∃ (hindex : 0 < (Text.lines "ab\u0301".toList).length),
      2 ≤ (Text.lines "ab\u0301".toList)[0].length ∧
      ¬(WrappedText.ofLines (Text.lines "ab\u0301".toList) (0, 2) 2).cursor.2 < max 2 1 :=
  ⟨by decide +kernel, by decide +kernel, by decide +kernel⟩

end Wrap
end QueryConsole
