/-
# Lines

A text is split at its line feeds: one line more than there are line feeds, so an empty text has one
empty line.
-/

namespace QueryConsole
namespace Text

/-- The lines of a text. -/
def lines : List Char → List (List Char)
  | [] => [[]]
  | c :: cs =>
    if c = '\n' then [] :: lines cs
    else
      match lines cs with
      | [] => [[c]]
      | line :: rest => (c :: line) :: rest

theorem lines_ne_nil (cs : List Char) : lines cs ≠ [] := by
  cases cs with
  | nil => simp [lines]
  | cons c cs =>
    unfold lines
    split
    · simp
    · split <;> simp

/-- A line has no line feed in it. -/
theorem feed_not_mem_of_mem_lines {cs line : List Char} (h : line ∈ lines cs) : '\n' ∉ line := by
  induction cs generalizing line with
  | nil =>
    obtain rfl := List.mem_singleton.mp h
    exact List.not_mem_nil
  | cons c cs ih =>
    unfold lines at h
    split at h
    · obtain rfl | hline := List.mem_cons.mp h
      · exact List.not_mem_nil
      · exact ih hline
    · rename_i hc
      cases hrest : lines cs with
      | nil => exact absurd hrest (lines_ne_nil cs)
      | cons first rest =>
        rw [hrest] at h ih
        obtain rfl | hline := List.mem_cons.mp h
        · rw [List.mem_cons, not_or]
          exact ⟨fun heq => hc heq.symm, ih List.mem_cons_self⟩
        · exact ih (List.mem_cons_of_mem first hline)

/-- **One line more than line feeds.** -/
theorem length_lines (cs : List Char) : (lines cs).length = cs.count '\n' + 1 := by
  induction cs with
  | nil => rfl
  | cons c cs ih =>
    unfold lines
    split
    · next h => subst h; simp [ih]
    · next h =>
      have hc : (c == '\n') = false := by simpa using h
      cases hl : lines cs with
      | nil => exact absurd hl (lines_ne_nil cs)
      | cons line rest => simpa [List.count_cons, hc, hl] using ih

end Text
end QueryConsole
