/-
# Lists

Lines below each other, one of which may be selected.  The list starts with its first line, or
further down as far as the selected line needs.
-/

import QueryConsole.Screen.StyledText

namespace QueryConsole

/-- The first line that a list of the given height shows. -/
def ItemList.firstShown (count height : Nat) (selected : Option Nat) : Nat :=
  match selected with
  | some index => min index (count - 1) + 1 - height
  | none => 0

/-- **The selected line is shown.** -/
theorem ItemList.firstShown_le_and_lt {count height index : Nat} (hc : index < count)
    (hh : 0 < height) :
    firstShown count height (some index) ≤ index ∧
      index < firstShown count height (some index) + height := by
  simp only [firstShown]
  omega

namespace Canvas

/-- Draws lines below each other, from a row on. -/
def drawItems (c : Canvas) (a : Area) (items : List (List Span)) (selected : Option Nat) : Canvas :=
  if a.isEmpty then c
  else
    let first := ItemList.firstShown items.length a.height selected
    (((items.zipIdx).drop first).take a.height).foldl (fun c (line, index) =>
      let row := a.row (index - first)
      let c := c.drawLine row line
      if selected = some index then c.paint row .selected else c) c

end Canvas
end QueryConsole
