/-
# Rows of a wrapped text

A line is wrapped greedily (`IsWrapped`): its rows concatenate to it, each fits the width unless a
single character does not, and a row ends only where the next character does not fit behind it.  Any
line can be wrapped in exactly one such way, which is that of `rowsOf` (`isWrapped_iff`).

The rows of a text are those of its lines in order, wherever the cursor is.  The cursor adds at most
an empty row behind the rows of its own line, if it stands behind a row that is full (`ofLines_eq`,
`wraps_without_loss`).
-/

import Mathlib.Data.List.Chain
import QueryConsole.Screen.Wrap
import QueryConsole.Text.Lines

namespace QueryConsole
namespace Wrap

variable {width used column : Nat} {line row next front : List Char} {rows : List (List Char)}

/-! ## Columns -/

theorem columns_append (xs ys : List Char) : columns (xs ++ ys) = columns xs + columns ys := by
  induction xs with
  | nil => rw [List.nil_append, columns, Nat.zero_add]
  | cons c xs ih => rw [List.cons_append, columns, columns, ih, Nat.add_assoc]

@[simp] theorem columns_singleton (c : Char) : columns [c] = Width.ofChar c := rfl

/-- Characters that take no columns together take none each. -/
theorem filter_eq_nil_of_columns_eq_zero {cs : List Char} (h : columns cs = 0) :
    cs.filter (0 < Width.ofChar ·) = [] := by
  induction cs with
  | nil => rfl
  | cons c cs ih =>
    rw [columns] at h
    rw [List.filter_cons_of_neg (by simp; omega), ih (by omega)]

/-! ## One line -/

/-- A row that is not too wide, or would not be without its last character: the characters in front
of that one take no columns. -/
def Fits (width : Nat) (row : List Char) : Prop := columns row ≤ width ∨ columns row.dropLast = 0

/-- A row ends before another: some of its columns are taken, and the first character of the other
row does not fit behind it. -/
def EndsBefore (width : Nat) (row next : List Char) : Prop :=
  ∃ c rest, next = c :: rest ∧ 0 < columns row ∧ width < columns row + Width.ofChar c

/-- The rows of a line, wrapped greedily. -/
structure IsWrapped (width : Nat) (line : List Char) (rows : List (List Char)) : Prop where
  ne_nil : rows ≠ []
  flatten : rows.flatten = line
  fits : ∀ row ∈ rows, Fits width row
  ends : rows.IsChain (EndsBefore width)

theorem fits_nil (width : Nat) : Fits width [] := .inr rfl

theorem fits_singleton (width : Nat) (c : Char) : Fits width [c] := .inr rfl

/-- A row goes on fitting with a character that does not have to start another row. -/
theorem fits_concat {c : Char} (h : ¬(width < columns front + Width.ofChar c ∧ 0 < columns front)) :
    Fits width (front ++ [c]) := by
  rw [Fits, columns_append, columns_singleton, List.dropLast_concat]
  omega

/-- **A row that is too wide has a single character that takes columns**, and that one is too wide
by itself. -/
theorem Fits.le_or_exists (h : Fits width row) :
    columns row ≤ width ∨
      ∃ c, row.filter (0 < Width.ofChar ·) = [c] ∧ width < Width.ofChar c := by
  by_cases hle : columns row ≤ width
  · exact .inl hle
  · have hfront : columns row.dropLast = 0 := h.resolve_left hle
    have hne : row ≠ [] := by
      rintro rfl
      exact hle (Nat.zero_le width)
    have hsplit := List.dropLast_append_getLast hne
    have hlast : columns row = Width.ofChar (row.getLast hne) := by
      conv_lhs => rw [← hsplit]
      rw [columns_append, hfront, Nat.zero_add, columns_singleton]
    refine .inr ⟨row.getLast hne, ?_, by omega⟩
    conv_lhs => rw [← hsplit]
    rw [List.filter_append, filter_eq_nil_of_columns_eq_zero hfront, List.nil_append,
      List.filter_cons_of_pos (by simp; omega), List.filter_nil]

/-- **The rows of the rest of a line are wrapped**, if the first of them is put behind the part of
its row that is there already. -/
theorem exists_isWrapped_rowsFrom (hfront : Fits width front) (cs : List Char) :
    ∃ row rows, rowsFrom width (columns front) cs = row :: rows ∧
      IsWrapped width (front ++ cs) ((front ++ row) :: rows) := by
  induction cs generalizing front with
  | nil =>
    rw [List.append_nil]
    refine ⟨[], [], rfl, List.cons_ne_nil _ _, ?_, ?_, ?_⟩
    · rw [List.append_nil, List.flatten_singleton]
    · rw [List.append_nil]
      exact List.forall_mem_singleton.mpr hfront
    · exact .singleton _
  | cons c cs ih =>
    rw [rowsFrom]
    by_cases hbreak : width < columns front + Width.ofChar c ∧ 0 < columns front
    · -- the character starts the next row
      obtain ⟨row, rows, hrows, hwrapped⟩ := ih (fits_singleton width c)
      rw [columns_singleton] at hrows
      rw [if_pos hbreak, hrows]
      refine ⟨[], (c :: row) :: rows, rfl, List.cons_ne_nil _ _, ?_, ?_, ?_⟩
      · rw [List.append_nil, List.flatten_cons]
        exact congrArg (front ++ ·) hwrapped.flatten
      · rw [List.append_nil]
        exact List.forall_mem_cons.mpr ⟨hfront, hwrapped.fits⟩
      · rw [List.append_nil]
        exact .cons_cons ⟨c, row, rfl, hbreak.2, hbreak.1⟩ hwrapped.ends
    · obtain ⟨row, rows, hrows, hwrapped⟩ := ih (fits_concat hbreak)
      rw [columns_append, columns_singleton] at hrows
      rw [if_neg hbreak, hrows]
      rw [List.append_assoc, List.append_assoc] at hwrapped
      exact ⟨c :: row, rows, rfl, hwrapped⟩

/-- No row follows where no character does. -/
theorem eq_nil_of_flatten_eq_nil (hends : (row :: rows).IsChain (EndsBefore width))
    (h : rows.flatten = []) : rows = [] := by
  cases rows with
  | nil => rfl
  | cons next rows =>
    obtain ⟨⟨c, rest, rfl, -, -⟩, -⟩ := List.isChain_cons_cons.mp hends
    cases h

/-- **There is no other way to wrap** the rest of a line behind the part of its row that is there
already. -/
theorem eq_rowsFrom_of_isWrapped (front : List Char) {cs : List Char}
    (h : IsWrapped width (front ++ cs) ((front ++ row) :: rows)) :
    row :: rows = rowsFrom width (columns front) cs := by
  have hflatten : row ++ rows.flatten = cs := by
    have h := h.flatten
    rw [List.flatten_cons, List.append_assoc] at h
    exact List.append_cancel_left h
  induction cs generalizing front row rows with
  | nil =>
    obtain ⟨rfl, hrows⟩ := List.append_eq_nil_iff.mp hflatten
    rw [eq_nil_of_flatten_eq_nil h.ends hrows]
    rfl
  | cons c cs ih =>
    rw [rowsFrom]
    cases row with
    | nil =>
      -- the row ends before `c`, so `c` does not fit behind it
      cases rows with
      | nil => cases hflatten
      | cons next rows =>
        obtain ⟨⟨d, rest, rfl, htaken, hwide⟩, hends⟩ := List.isChain_cons_cons.mp h.ends
        obtain ⟨rfl, hcs⟩ := List.cons.inj hflatten
        rw [List.append_nil] at htaken hwide
        have hrest : IsWrapped width ([d] ++ cs) (([d] ++ rest) :: rows) :=
          ⟨List.cons_ne_nil _ _, hflatten, (List.forall_mem_cons.mp h.fits).2, hends⟩
        rw [if_pos ⟨hwide, htaken⟩, ← columns_singleton, ← ih _ hrest hcs]
        rfl
    | cons d row =>
      -- `c` is in the row, so it fits there or takes the first columns of it
      obtain ⟨rfl, hcs⟩ := List.cons.inj hflatten
      have hfits : ¬(width < columns front + Width.ofChar d ∧ 0 < columns front) := by
        have hrow := (List.forall_mem_cons.mp h.fits).1
        rw [Fits, List.dropLast_append_of_ne_nil (List.cons_ne_nil d row), columns_append,
          columns_append, columns] at hrow
        omega
      have hrest : IsWrapped width ((front ++ [d]) ++ cs) (((front ++ [d]) ++ row) :: rows) := by
        rw [List.append_assoc, List.append_assoc]
        exact h
      rw [if_neg hfits, ← columns_singleton, ← columns_append, ← ih _ hrest hcs]
      rfl

/-- **A line is wrapped in one way only.** -/
theorem isWrapped_iff : IsWrapped width line rows ↔ rows = rowsOf width line := by
  constructor
  · intro h
    cases rows with
    | nil => exact absurd rfl h.ne_nil
    | cons row rows => exact eq_rowsFrom_of_isWrapped [] h
  · rintro rfl
    obtain ⟨row, rows, hrows, h⟩ := exists_isWrapped_rowsFrom (fits_nil width) line
    rw [rowsOf, show rowsFrom width 0 line = row :: rows from hrows]
    exact h

theorem isWrapped_rowsOf (width : Nat) (line : List Char) :
    IsWrapped width line (rowsOf width line) := isWrapped_iff.mpr rfl

theorem rowsOf_ne_nil (width : Nat) (line : List Char) : rowsOf width line ≠ [] :=
  (isWrapped_rowsOf width line).ne_nil

/-! ## A text with a cursor -/

/-- The rows of the cursor's line: those of the line, and an empty one where the cursor stands
behind a row that is full. -/
def cursorRows (width : Nat) (line : List Char) (column : Nat) : List (List Char) :=
  rowsOf width line ++
    if column = line.length ∧ width ≤ columns ((rowsOf width line).getLast (rowsOf_ne_nil _ _))
    then [[]] else []

theorem rows_cursorLine (hcolumn : column ≤ line.length) :
    (cursorLine width line column).rows = cursorRows width line column := by
  rw [cursorLine, cursorRows, List.getLast?_eq_some_getLast (rowsOf_ne_nil width line)]
  dsimp only [Option.getD_some]
  by_cases hlt : column < line.length
  · rw [if_pos hlt, if_neg (by omega), List.append_nil]
  · rw [if_neg hlt]
    by_cases hfull : width ≤ columns ((rowsOf width line).getLast (rowsOf_ne_nil _ _))
    · rw [if_pos hfull, if_pos ⟨by omega, hfull⟩]
    · rw [if_neg hfull, if_neg fun h => hfull h.2, List.append_nil]

/-- The lines before and after that of the cursor are wrapped as if there were no cursor. -/
theorem linesFrom_append (width : Nat) (before after : List (List Char)) (line : List Char)
    (column : Nat) :
    linesFrom width (before ++ line :: after) before.length column =
      ⟨before.flatMap (rowsOf width) ++ (cursorLine width line column).rows ++
          after.flatMap (rowsOf width),
        ((before.flatMap (rowsOf width)).length + (cursorLine width line column).cursor.1,
          (cursorLine width line column).cursor.2)⟩ := by
  induction before with
  | nil =>
    rw [List.nil_append, List.length_nil, linesFrom, List.flatMap_nil, List.nil_append,
      List.length_nil, Nat.zero_add]
  | cons first before ih =>
    rw [List.cons_append, List.length_cons, linesFrom, ih, List.flatMap_cons, List.length_append]
    simp only [List.append_assoc, Nat.add_assoc]

/-- **The rows of a text** are those of its lines; only those of the cursor's line depend on the
cursor. -/
theorem ofLines_eq {lines : List (List Char)} {index : Nat} (width : Nat)
    (hindex : index < lines.length) (hcolumn : column ≤ lines[index].length) :
    WrappedText.ofLines lines (index, column) width =
      ⟨(lines.take index).flatMap (rowsOf (max width 1)) ++
          cursorRows (max width 1) lines[index] column ++
          (lines.drop (index + 1)).flatMap (rowsOf (max width 1)),
        (((lines.take index).flatMap (rowsOf (max width 1))).length +
            (cursorLine (max width 1) lines[index] column).cursor.1,
          (cursorLine (max width 1) lines[index] column).cursor.2)⟩ := by
  have hsplit : lines.take index ++ lines[index] :: lines.drop (index + 1) = lines := by
    rw [List.getElem_cons_drop, List.take_append_drop]
  have hlength : (lines.take index).length = index := by
    rw [List.length_take]
    omega
  have h := linesFrom_append (max width 1) (lines.take index) (lines.drop (index + 1)) lines[index]
    column
  rw [hsplit, hlength, rows_cursorLine hcolumn] at h
  exact h

/-- The characters of the rows are those of the lines. -/
theorem exists_mem_lines {lines : List (List Char)} {index : Nat} {c : Char} (width : Nat)
    (hindex : index < lines.length) (hcolumn : column ≤ lines[index].length)
    (hrow : row ∈ (WrappedText.ofLines lines (index, column) width).rows) (hc : c ∈ row) :
    ∃ line ∈ lines, c ∈ line := by
  have hof (line : List Char) (h : row ∈ rowsOf (max width 1) line) : c ∈ line := by
    rw [← (isWrapped_rowsOf (max width 1) line).flatten]
    exact List.mem_flatten.mpr ⟨row, h, hc⟩
  rw [ofLines_eq width hindex hcolumn] at hrow
  rcases List.mem_append.mp hrow with hrow | hafter
  · rcases List.mem_append.mp hrow with hbefore | hcursor
    · obtain ⟨line, hline, hmem⟩ := List.mem_flatMap.mp hbefore
      exact ⟨line, List.mem_of_mem_take hline, hof line hmem⟩
    · refine ⟨lines[index], List.getElem_mem hindex, ?_⟩
      rcases List.mem_append.mp hcursor with hmem | hempty
      · exact hof _ hmem
      · -- the row that only the cursor is in is empty
        split at hempty
        · obtain rfl := List.mem_singleton.mp hempty
          cases hc
        · cases hempty
  · obtain ⟨line, hline, hmem⟩ := List.mem_flatMap.mp hafter
    exact ⟨line, List.mem_of_mem_drop hline, hof line hmem⟩

/-- **A text is wrapped without loss, within the width and greedily**, and moving the cursor does
not wrap it anew.  Its rows are those of its lines in order, with one empty row more exactly if the
cursor stands at the end of a line whose last row is full, behind that row.  The rows of a line
concatenate to the line; a row is no wider than allowed, unless it has a single character that takes
columns and that one is wider; a row ends before a character only if the character does not fit
behind it; and no other rows are like that. -/
theorem wraps_without_loss (cs : List Char) {index column : Nat} (width : Nat)
    (hindex : index < (Text.lines cs).length)
    (hcolumn : column ≤ (Text.lines cs)[index].length) :
    (WrappedText.ofLines (Text.lines cs) (index, column) width).rows =
        ((Text.lines cs).take index).flatMap (rowsOf (max width 1)) ++
          (rowsOf (max width 1) (Text.lines cs)[index] ++
            if column = (Text.lines cs)[index].length ∧
              max width 1 ≤ columns ((rowsOf (max width 1) (Text.lines cs)[index]).getLast
                (rowsOf_ne_nil _ _))
            then [[]] else []) ++
          ((Text.lines cs).drop (index + 1)).flatMap (rowsOf (max width 1)) ∧
      ∀ line ∈ Text.lines cs,
        rowsOf (max width 1) line ≠ [] ∧
        (rowsOf (max width 1) line).flatten = line ∧
        (∀ row ∈ rowsOf (max width 1) line, columns row ≤ max width 1 ∨
          ∃ c, row.filter (0 < Width.ofChar ·) = [c] ∧ max width 1 < Width.ofChar c) ∧
        (∀ above row next below, rowsOf (max width 1) line = above ++ row :: next :: below →
          ∃ c rest, next = c :: rest ∧ max width 1 < columns row + Width.ofChar c) ∧
        ∀ rows, IsWrapped (max width 1) line rows → rows = rowsOf (max width 1) line := by
  refine ⟨?_, fun line _ => ?_⟩
  · rw [ofLines_eq width hindex hcolumn]
    rfl
  · have h := isWrapped_rowsOf (max width 1) line
    refine ⟨h.ne_nil, h.flatten, fun row hrow => (h.fits row hrow).le_or_exists, ?_,
      fun rows hrows => isWrapped_iff.mp hrows⟩
    intro above row next below hrows
    have hends := h.ends
    rw [hrows] at hends
    obtain ⟨c, rest, hnext, -, hwide⟩ :=
      (List.isChain_cons_cons.mp (List.isChain_append.mp hends).2.1).1
    exact ⟨c, rest, hnext, hwide⟩

/-- In a width of one column a wide character has a row of its own, an accent takes no column, and a
cursor behind the full last row of its line gets an empty row. -/
theorem wide_character_and_full_row :
    1 < (Text.lines "ab日\n日e\u0301".toList).length ∧
      3 ≤ ((Text.lines "ab日\n日e\u0301".toList)[1]).length ∧
      (WrappedText.ofLines (Text.lines "ab日\n日e\u0301".toList) (1, 3) 1).rows =
        ["a".toList, "b".toList, "日".toList, "日".toList, "e\u0301".toList, []] := by
  have hcolumn : 3 ≤ ((Text.lines "ab日\n日e\u0301".toList)[1]).length := by decide +kernel
  refine ⟨by decide +kernel, hcolumn, ?_⟩
  rw [(wraps_without_loss "ab日\n日e\u0301".toList 1 (by decide +kernel) hcolumn).1]
  decide +kernel

end Wrap
end QueryConsole
