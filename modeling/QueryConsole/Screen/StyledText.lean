/-
# Styled text

A line is a list of spans, each with one style.  On the screen it is a row of glyphs: grapheme
clusters with their width.  A line feed has no glyph.

`Canvas.drawLine` gives each span as many columns as its text is wide.  Glyphs that take more than
that, such as two letters of a ligature, reach into the columns of the next span and are overwritten
there.
-/

import QueryConsole.Screen.Canvas
import QueryConsole.Text.Cluster
import QueryConsole.Text.Width

namespace QueryConsole

/-- A text with one style. -/
structure Span where
  text : String
  style : Style
  deriving DecidableEq, Repr

/-- A symbol, its width in columns, and its style. -/
structure Glyph where
  symbol : List Char
  width : Nat
  style : Style
  deriving DecidableEq, Repr

namespace Glyph

/-- The columns that glyphs take together. -/
def total : List Glyph → Nat
  | [] => 0
  | g :: gs => g.width + total gs

end Glyph

namespace Span

/-- The columns of a span. -/
def width (s : Span) : Nat := Width.ofText s.text.toList

/-- The columns that spans take together. -/
def total : List Span → Nat
  | [] => 0
  | s :: ss => s.width + total ss

/-- The glyphs of a span. -/
def glyphs (s : Span) : List Glyph :=
  ((Cluster.clusters s.text.toList).filter (· ≠ ['\n'])).map fun cluster =>
    ⟨cluster, Width.ofText cluster, s.style⟩

end Span

namespace Canvas

/-- Draws glyphs from a column on, up to a limit.  The cells that a wide glyph covers are blank. -/
def drawGlyphs (y limit : Nat) : Nat → List Glyph → Canvas → Canvas
  | _, [], c => c
  | x, g :: gs, c =>
    if limit < x + g.width then c
    else
      drawGlyphs y limit (x + g.width) gs
        ((c.put x y g.symbol g.style).clear ⟨x + 1, y, g.width - 1, 1⟩)

/-- Draws spans from a column on, up to a limit.  A span without columns is not drawn. -/
def drawSpans (y limit : Nat) : Nat → List Span → Canvas → Canvas
  | _, [], c => c
  | x, s :: ss, c =>
    let c := if s.width = 0 then c else drawGlyphs y limit x s.glyphs c
    if limit ≤ x + s.width then c else drawSpans y limit (x + s.width) ss c

/-- Draws a line in the first row of an area. -/
def drawLine (c : Canvas) (a : Area) (line : List Span) : Canvas :=
  if a.isEmpty then c else drawSpans a.top a.right a.left line c

end Canvas
end QueryConsole
