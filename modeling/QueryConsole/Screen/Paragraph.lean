/-
# Paragraphs

Lines of styled text in an area.  A line that is too long is cut, or its words are wrapped.

Wrapping keeps two buffers besides the row it fills: the word that is being read, and the blank
glyphs before it.  A word moves to the row once it is complete; where row, blanks and word fill the
width the row ends, and the blanks that reach over its end are dropped.
-/

import QueryConsole.Screen.StyledText

namespace QueryConsole

/-- Where a line that is shorter than the area stands. -/
inductive Alignment where
  | left
  | center
  | right
  deriving DecidableEq, Repr

/-- The columns to the left of a line. -/
def Alignment.offset (alignment : Alignment) (width line : Nat) : Nat :=
  match alignment with
  | .left => 0
  | .center => width / 2 - line / 2
  | .right => width - line

namespace Glyph

/-- The glyphs of a line at most `room` columns wide: those that fit, without any wider than the
whole width. -/
def cut (width : Nat) : Nat → List Glyph → List Glyph
  | _, [] => []
  | room, g :: gs =>
    if width < g.width then cut width room gs
    else if room < g.width then []
    else g :: cut width (room - g.width) gs

/-- Whether a glyph is blank, where words end: a zero-width space is, a no-break space is part of a
word. -/
def isBlank (g : Glyph) : Bool :=
  g.symbol = ['\u200b'] || (g.symbol.all Text.isBlank && g.symbol ≠ ['\u00a0'])

/-- The state of wrapping: the finished rows, last first, and the row, the blanks and the word that
are being read. -/
structure Wrapping where
  rows : List (List Glyph)
  row : List Glyph
  blanks : List Glyph
  word : List Glyph
  afterWord : Bool

namespace Wrapping

/-- Nothing read yet. -/
def start : Wrapping := ⟨[], [], [], [], false⟩

/-- The word moved to the row, with the blanks between them, which a row never starts with. -/
def takeWord (s : Wrapping) : Wrapping :=
  { s with
    row := (if s.row.isEmpty then [] else s.row ++ s.blanks) ++ s.word
    blanks := []
    word := [] }

/-- The blanks left after those in the given room, and the first after them, are dropped; none if
the blanks do not reach over the room. -/
def dropBlanks (room : Nat) : List Glyph → Option (List Glyph)
  | [] => none
  | g :: gs => if room < g.width then some gs else dropBlanks (room - g.width) gs

/-- One more glyph, in rows of the given width. -/
def read (width : Nat) (s : Wrapping) (g : Glyph) : Wrapping :=
  if width < g.width then s
  else
    let s :=
      if (s.afterWord && g.isBlank) ||
          (s.row.isEmpty &&
            (width < total s.word + g.width || width < total s.blanks + g.width)) then s.takeWord
      else s
    let full := width ≤ total s.row ||
      (width ≤ total s.row + total s.blanks + total s.word && 0 < g.width)
    let left := if full then dropBlanks (width - total s.row) s.blanks else some s.blanks
    let s :=
      if full then { s with rows := s.row :: s.rows, row := [], blanks := left.getD [] } else s
    if g.isBlank then
      if left.isNone then s else { s with blanks := s.blanks ++ [g], afterWord := false }
    else { s with word := s.word ++ [g], afterWord := true }

/-- The rows when the line is read. -/
def finish (s : Wrapping) : List (List Glyph) :=
  let blankLine := s.row.isEmpty && s.word.isEmpty && !s.blanks.isEmpty
  let rows := if blankLine then [] :: s.rows else s.rows
  let row := (if s.row.isEmpty then [] else s.row ++ s.blanks) ++ s.word
  let rows := if row.isEmpty then rows else row :: rows
  if rows.isEmpty then [[]] else rows.reverse

end Wrapping

/-- The rows of a line whose words are wrapped. -/
def wrapWords (width : Nat) (gs : List Glyph) : List (List Glyph) :=
  (gs.foldl (Wrapping.read width) .start).finish

end Glyph

namespace Canvas

/-- Draws glyphs of which each takes a column at least. -/
def placeGlyphs (y : Nat) : Nat → List Glyph → Canvas → Canvas
  | _, [], c => c
  | x, g :: gs, c =>
    placeGlyphs y (x + g.width) gs (if g.width = 0 then c else c.put x y g.symbol g.style)

/-- Draws rows of glyphs from the top of an area, as many as fit. -/
def placeRows (alignment : Alignment) (a : Area) (rows : List (List Glyph)) (c : Canvas) : Canvas :=
  ((rows.take a.height).zipIdx).foldl (fun c (row, index) =>
    placeGlyphs (a.top + index) (a.left + alignment.offset a.width (Glyph.total row)) row c) c

/-- Draws lines, each cut to the width of the area. -/
def drawLines (c : Canvas) (a : Area) (alignment : Alignment) (lines : List (List Span)) : Canvas :=
  if a.isEmpty then c
  else
    placeRows alignment a
      (lines.map fun line => Glyph.cut a.width a.width (line.flatMap Span.glyphs)) c

/-- Draws lines whose words are wrapped. -/
def drawWrapped (c : Canvas) (a : Area) (lines : List (List Span)) : Canvas :=
  if a.isEmpty then c
  else
    placeRows .left a
      (lines.flatMap fun line => Glyph.wrapWords a.width (line.flatMap Span.glyphs)) c

end Canvas
end QueryConsole
