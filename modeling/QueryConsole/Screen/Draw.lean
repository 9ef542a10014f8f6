/-
# Drawing

A frame of the screen: all panels of a workbench, and the help over them while it is open.  Drawing
changes nothing of the workbench but the window of columns, which it moves to the selected column.

Models `draw` and the order in which `draw_layout` and `draw_content` draw the panels.
-/

import QueryConsole.Screen.Bars
import QueryConsole.Screen.Help
import QueryConsole.Screen.Layout
import QueryConsole.Screen.SidePanels

namespace QueryConsole

/-- What the screen shows: its cells, and the column and row of the cursor where it is visible. -/
structure Frame where
  cells : List (List ScreenCell)
  cursor : Option (Nat × Nat)
  deriving DecidableEq

namespace Frame

/-- The text of each row, without the spaces at its end. -/
def rows (f : Frame) : List String := f.cells.map Canvas.rowText

/-- The column where a style starts, and the style. -/
def runText (run : Nat × Style) : List Char := Decimal.digitsOf run.1 ++ ':' :: run.2.report

/-- The runs of equal style in each row, separated by spaces. -/
def styleRows (f : Frame) : List String :=
  f.cells.map fun cells =>
    String.ofList ((((Canvas.styleRuns 0 none cells).map runText).intersperse [' ']).flatten)

end Frame

namespace Workbench

/-- The workbench with the window of columns that a screen of the given size shows. -/
def fitTo (b : Workbench) (screen : Area) : Workbench :=
  if b.results?.isSome then b.fitColumns (b.layout screen).results.width else b

/-- The canvas with all panels drawn. -/
def paintPanels (phrases : Phrases) (b : Workbench) (screen : Area) : Canvas :=
  let l := b.layout screen
  let c := b.drawHeader phrases l.header (.blank screen.width screen.height)
  let c := b.drawQuestion phrases l.question c
  let c := b.drawResults phrases l.results c
  let c := b.drawSchema phrases l.schema c
  let c := b.drawSuggestions phrases l.suggestions c
  let c := b.drawStatus phrases l.status c
  if b.help then Help.draw phrases screen c else c

/-- A frame of the given size, and the workbench after it is drawn. -/
def draw (phrases : Phrases) (width height : Nat) (b : Workbench) : Workbench × Frame :=
  let screen : Area := ⟨0, 0, width, height⟩
  let b := b.fitTo screen
  let c := b.paintPanels phrases screen
  (b, ⟨(List.range height).map fun y => c.row y,
    b.cursor? (b.layout screen).question⟩)

end Workbench
end QueryConsole
