/-
# Lines of a text in parts

A text that is put together of parts has the lines of its parts, if a line ends where one part does
(`lines_append_feed`).  So the lines that end in the front of a text, its closed lines, are lines of
the whole text, whatever follows (`lines_append_of_endsLine`).
-/

import Mathlib.Data.List.DropRight
import Mathlib.Data.List.Induction
import QueryConsole.Text.Lines

namespace QueryConsole
namespace Text

variable {front line back : List Char}

/-- A line feed between two texts separates their lines. -/
theorem lines_append_feed (front back : List Char) :
    lines (front ++ '\n' :: back) = lines front ++ lines back := by
  induction front with
  | nil => rfl
  | cons c front ih =>
    rw [List.cons_append, lines, lines, ih]
    split
    · rfl
    · cases h : lines front with
      | nil => exact absurd h (lines_ne_nil front)
      | cons first rest => rfl

/-- A text without a line feed is one line. -/
theorem lines_of_feed_not_mem (h : '\n' ∉ line) : lines line = [line] := by
  induction line with
  | nil => rfl
  | cons c line ih =>
    obtain ⟨hc, hline⟩ := not_or.1 (mt List.mem_cons.2 h)
    rw [lines, if_neg (Ne.symm hc), ih hline]

/-- Whether a line starts behind some characters: there are none, or the last is a line feed. -/
def EndsLine (cs : List Char) : Prop := cs = [] ∨ ∃ front, cs = front ++ ['\n']

/-- The lines that end in a text. -/
def closedLines (cs : List Char) : List (List Char) := (lines cs).dropLast

theorem endsLine_concat_feed (front : List Char) : EndsLine (front ++ ['\n']) := .inr ⟨front, rfl⟩

@[simp] theorem closedLines_nil : closedLines [] = [] := rfl

theorem closedLines_concat_feed (front : List Char) :
    closedLines (front ++ ['\n']) = lines front := by
  rw [closedLines, lines_append_feed]
  exact List.dropLast_concat

/-- **The closed lines of the front are followed by the lines of the rest.** -/
theorem lines_append_of_endsLine (h : EndsLine front) (back : List Char) :
    lines (front ++ back) = closedLines front ++ lines back := by
  obtain rfl | ⟨front, rfl⟩ := h
  · rfl
  · rw [closedLines_concat_feed, List.append_assoc, List.singleton_append, lines_append_feed]

/-- A line that ends is one more closed line. -/
theorem closedLines_append_line (h : EndsLine front) (hline : '\n' ∉ line) :
    closedLines (front ++ line ++ ['\n']) = closedLines front ++ [line] := by
  rw [closedLines_concat_feed, lines_append_of_endsLine h, lines_of_feed_not_mem hline]

/-! ## The line around a position -/

/-- Behind the last line feed a line starts. -/
theorem endsLine_rdropWhile (cs : List Char) : EndsLine (cs.rdropWhile (· ≠ '\n')) := by
  induction cs using List.reverseRecOn with
  | nil => exact .inl rfl
  | append_singleton cs c ih =>
    by_cases hc : c = '\n'
    · rw [hc, List.rdropWhile_concat_neg _ _ _ (by simp)]
      exact endsLine_concat_feed cs
    · rw [List.rdropWhile_concat_pos _ _ _ (by simpa using hc)]
      exact ih

theorem feed_not_mem_rtakeWhile (cs : List Char) : '\n' ∉ cs.rtakeWhile (· ≠ '\n') :=
  fun h => by simpa using List.mem_rtakeWhile_imp h

theorem feed_not_mem_takeWhile (cs : List Char) : '\n' ∉ cs.takeWhile (· ≠ '\n') :=
  fun h => by simpa using List.mem_takeWhile_imp h

/-- Behind the characters before the first line feed the text ends, or that line feed stands. -/
theorem dropWhile_eq_nil_or_feed (cs : List Char) :
    cs.dropWhile (· ≠ '\n') = [] ∨ ∃ back, cs.dropWhile (· ≠ '\n') = '\n' :: back := by
  induction cs with
  | nil => exact .inl rfl
  | cons c cs ih =>
    by_cases hc : c = '\n'
    · exact .inr ⟨cs, by simp [hc]⟩
    · simpa [hc] using ih

/-- A line ends at the first line feed behind it. -/
theorem takeWhile_append_of_feed_not_mem (hline : '\n' ∉ line)
    (hback : back = [] ∨ ∃ rest, back = '\n' :: rest) :
    (line ++ back).takeWhile (· ≠ '\n') = line := by
  have hall : ∀ c ∈ line, decide (c ≠ '\n') = true := fun c hc =>
    decide_eq_true fun h => hline (h ▸ hc)
  rw [List.takeWhile_append_of_pos hall]
  obtain rfl | ⟨rest, rfl⟩ := hback
  · rw [List.takeWhile_nil, List.append_nil]
  · rw [List.takeWhile_cons_of_neg (by simp), List.append_nil]

end Text
end QueryConsole
