/-
# The question box

The question in rows as wide as the box.  The box grows with its rows up to a limit, and then shows
the rows down to the one with the cursor.

Models `query_input_height` and `draw_query_input`.
-/

import QueryConsole.Screen.Border
import QueryConsole.Screen.Paragraph
import QueryConsole.Screen.Wrap
import QueryConsole.Workbench.Basic

namespace QueryConsole

/-- The rows that a box shows, and the column and the row of the cursor in it. -/
structure QuestionView where
  rows : List (List Char)
  cursor : Nat × Nat
  deriving DecidableEq, Repr

namespace QuestionView

/-- What a box of the given size shows of a wrapped text: the last row shown is that of the cursor,
unless that is among the first ones. -/
def ofWrapped (t : WrappedText) (width height : Nat) : QuestionView :=
  let visible := max height 1
  let skipped := t.cursor.1 - (visible - 1)
  ⟨(t.rows.drop skipped).take visible, (min t.cursor.2 (width - 1), t.cursor.1 - skipped)⟩

end QuestionView

namespace Editor

/-- The question in rows of the given width. -/
def wrapped (e : Editor) (width : Nat) : WrappedText :=
  .ofLines (Text.lines e.chars) e.position width

/-- What a box of the given size inside shows. -/
def boxView (e : Editor) (width height : Nat) : QuestionView :=
  .ofWrapped (e.wrapped width) width height

/-- The height of a box of the given width, with its border: three rows at least, and at most
`limit` where that is more. -/
def boxHeight (e : Editor) (width limit : Nat) : Nat :=
  min ((e.wrapped (width - 2)).rows.length + 2) (max limit 3)

end Editor

namespace Workbench

/-- The height of the question box. -/
def questionHeight (b : Workbench) (width limit : Nat) : Nat :=
  b.console.input.boxHeight width limit

/-- The title of a panel, with a mark where the panel is active. -/
def panelTitle (text : String) (active : Bool) : String :=
  " " ++ text ++ if active then " ▪ " else " "

/-- Draws the question box. -/
def drawQuestion (phrases : Phrases) (b : Workbench) (a : Area) (c : Canvas) : Canvas :=
  let active := b.panel = .question
  let c := c.drawBorder a
    { style := .border active
      title := [⟨panelTitle phrases.questionTitle active, .title⟩]
      footer := [⟨" Enter", .info⟩, ⟨":" ++ phrases.ask ++ " ", .dim⟩, ⟨"Shift+Enter", .info⟩,
        ⟨":" ++ phrases.newline ++ " ", .dim⟩]
      ground := .plain }
  if b.console.input.chars.isEmpty then
    c.drawLines a.inner .left [[⟨phrases.questionPlaceholder, .muted⟩]]
  else
    let view := b.console.input.boxView a.inner.width a.inner.height
    c.drawLines a.inner .left (view.rows.map fun row => [⟨String.ofList row, .normal⟩])

/-- The column and the row of the terminal cursor: none where the question box is not active. -/
def cursor? (b : Workbench) (a : Area) : Option (Nat × Nat) :=
  if b.panel ≠ .question then none
  else if b.console.input.chars.isEmpty then some (a.inner.left, a.inner.top)
  else
    let view := b.console.input.boxView a.inner.width a.inner.height
    some (a.inner.left + view.cursor.1, a.inner.top + view.cursor.2)

end Workbench
end QueryConsole
