/-
# Lines and columns of the cursor

`lineColumn` counts line feeds and the characters after the last one, while the lines of the box come
from splitting its text.  `position_bounds` says that the two agree: the line of the cursor exists, its
column is inside that line, and both together lead back to the cursor.
-/

import QueryConsole.Console.Editor

namespace QueryConsole
namespace Editor

/-- Counting on from a line and a column: the column counts only until the next line feed. -/
theorem foldl_lineColumn (cs : List Char) (line column : Nat) :
    cs.foldl (fun (line, column) c => if c = '\n' then (line + 1, 0) else (line, column + 1))
        (line, column) =
      (line + (lineColumn cs).1,
        if (lineColumn cs).1 = 0 then column + (lineColumn cs).2 else (lineColumn cs).2) := by
  induction cs generalizing line column with
  | nil => rfl
  | cons c cs ih =>
    unfold lineColumn
    simp only [List.foldl_cons]
    by_cases hc : c = '\n'
    · simp only [hc, if_true, ih, Nat.zero_add, ite_self, Nat.add_eq_zero_iff, Nat.succ_ne_self,
        false_and, if_false, Prod.mk.injEq, and_true]
      omega
    · simp only [hc, if_false, ih, Nat.zero_add, Prod.mk.injEq, true_and]
      by_cases hline : (lineColumn cs).1 = 0
      · simp only [if_pos hline]
        omega
      · simp only [if_neg hline]

theorem lineColumn_cons_feed (cs : List Char) :
    lineColumn ('\n' :: cs) = ((lineColumn cs).1 + 1, (lineColumn cs).2) := by
  have h := foldl_lineColumn cs 1 0
  rw [Nat.zero_add, ite_self, Nat.add_comm 1] at h
  exact h

theorem lineColumn_cons_of_ne {c : Char} (hc : c ≠ '\n') (cs : List Char) :
    lineColumn (c :: cs) =
      ((lineColumn cs).1,
        if (lineColumn cs).1 = 0 then (lineColumn cs).2 + 1 else (lineColumn cs).2) := by
  have h := foldl_lineColumn cs 0 1
  rw [Nat.zero_add, Nat.add_comm 1] at h
  rw [← h]
  simp only [lineColumn, List.foldl_cons, if_neg hc]

/-- The line and the column behind the front part of a text are a line of the text, a column inside it,
and lead back to the length of the front part. -/
theorem lineColumn_bounds (front back : List Char) :
    (lineColumn front).1 < (Text.lines (front ++ back)).length ∧
      (lineColumn front).2 ≤
        ((Text.lines (front ++ back))[(lineColumn front).1]?.getD []).length ∧
      lengthWithFeeds ((Text.lines (front ++ back)).take (lineColumn front).1) +
        (lineColumn front).2 = front.length := by
  induction front with
  | nil => exact ⟨List.length_pos_iff.2 (Text.lines_ne_nil back), Nat.zero_le _, rfl⟩
  | cons c front ih =>
    obtain ⟨hline, hcolumn, hstart⟩ := ih
    rw [List.cons_append, Text.lines]
    by_cases hc : c = '\n'
    · subst hc
      rw [if_pos rfl, lineColumn_cons_feed]
      refine ⟨by simpa using hline, by simpa using hcolumn, ?_⟩
      rw [List.take_succ_cons, lengthWithFeeds, List.length_cons, List.length_nil]
      dsimp only
      omega
    · rw [if_neg hc, lineColumn_cons_of_ne hc]
      generalize hlines : Text.lines (front ++ back) = lines at hline hcolumn hstart ⊢
      generalize lineColumn front = position at hline hcolumn hstart ⊢
      obtain ⟨line, column⟩ := position
      cases lines with
      | nil => exact absurd hlines (Text.lines_ne_nil _)
      | cons first rest =>
        cases line with
        | zero =>
          simp only [List.length_cons, List.getElem?_cons_zero, Option.getD_some, List.take_zero,
            lengthWithFeeds, if_true] at hcolumn hstart ⊢
          omega
        | succ line =>
          simp only [List.length_cons, List.getElem?_cons_succ, List.take_succ_cons,
            lengthWithFeeds, Nat.succ_ne_zero, if_false] at hline hcolumn hstart ⊢
          omega

/-- **The line of the cursor exists, its column is inside the line, and both lead back to it.** -/
theorem position_bounds (e : Editor) :
    e.position.1 < e.lineCount ∧ e.position.2 ≤ e.lineLength e.position.1 ∧
      e.lineStart e.position.1 + e.position.2 = e.cursor := by
  have h := lineColumn_bounds (e.chars.take e.cursor) (e.chars.drop e.cursor)
  rw [List.take_append_drop, List.length_take, Nat.min_eq_left e.cursor_le] at h
  exact h

end Editor
end QueryConsole
