/-
# Borders

A box around an area, with a title on its top edge and another on its bottom edge.
-/

import QueryConsole.Screen.StyledText

namespace QueryConsole

/-- A border: its style, its titles, and the style of the whole area. -/
structure Border where
  style : Style
  title : List Span
  footer : List Span
  ground : Style
  deriving DecidableEq, Repr

namespace Border

/-- A border with a title. -/
def titled (style : Style) (text : String) : Border :=
  ⟨style, [⟨text, .title⟩], [], .plain⟩

end Border

namespace Canvas

/-- Writes a symbol in cells of one row. -/
def drawAcross (symbol : Char) (style : Style) (y : Nat) (x n : Nat) (c : Canvas) : Canvas :=
  modifyRun (fun cell => ⟨[symbol], style.onto cell.style⟩) y x n c

/-- Writes a symbol in cells of one column. -/
def drawDown (symbol : Char) (style : Style) (x : Nat) : Nat → Nat → Canvas → Canvas
  | _, 0, c => c
  | y, n + 1, c => drawDown symbol style x (y + 1) n (c.put x y [symbol] style)

/-- Draws a border.  Where the area is a single row or column, the corners written last stay. -/
def drawBorder (c : Canvas) (a : Area) (b : Border) : Canvas :=
  if a.isEmpty then c
  else
    let last := a.bottom - 1
    let side := a.right - 1
    let c := c.paint a b.ground
    let c := drawDown '│' b.style a.left a.top a.height c
    let c := drawAcross '─' b.style a.top a.left a.width c
    let c := drawDown '│' b.style side a.top a.height c
    let c := drawAcross '─' b.style last a.left a.width c
    let c := c.put side last ['┘'] b.style
    let c := c.put side a.top ['┐'] b.style
    let c := c.put a.left last ['└'] b.style
    let c := c.put a.left a.top ['┌'] b.style
    let edge (y : Nat) (line : List Span) : Area :=
      ⟨a.left + 1, y, min (Span.total line) (a.width - 2), 1⟩
    (c.drawLine (edge a.top b.title) b.title).drawLine (edge last b.footer) b.footer

end Canvas
end QueryConsole
