/-
# The places of the panels

The header takes three rows and the status bar one.  Between them the question box and the results
stand on the left, the schema and the suggestions on the right.

Models the areas that `draw_layout` and `draw_content` split the screen into.
-/

import QueryConsole.Screen.QuestionBox

namespace QueryConsole

/-- The places of the panels on a screen. -/
structure Layout where
  header : Area
  question : Area
  results : Area
  schema : Area
  suggestions : Area
  status : Area
  deriving DecidableEq, Repr

/-- The places of the panels; the question box is at most half as high as its column. -/
def Workbench.layout (b : Workbench) (screen : Area) : Layout :=
  let (header, rest) := screen.splitTop (Share.firstSide screen.height 3 10 1)
  let (content, status) := rest.splitTop (rest.height - Share.lastSide screen.height 3 10 1)
  let (main, side) := content.splitLeft (Share.percent content.width 70)
  let (question, results) := main.splitTop
    (Share.giveWay main.height (b.questionHeight main.width (main.height / 2)) 5)
  let (schema, suggestions) := side.splitTop (Share.percent side.height 60)
  { header, question, results, schema, suggestions, status }

end QueryConsole
