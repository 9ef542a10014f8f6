/-
# Scroll bars

A bar that shows which part of a list is in view: an arrow at each end, and between them a track
with a thumb.  The positions of the list and the rows of the view together are as long as the track.
-/

import QueryConsole.Screen.StyledText

namespace QueryConsole

/-- The thumb on a track: where it starts, and its length. -/
structure Thumb where
  start : Nat
  length : Nat
  deriving DecidableEq, Repr

namespace Thumb

/-- The thumb on a track for a position in a list of `count` lines, with `view` rows in view. -/
def on (track count view position : Nat) : Thumb :=
  let position := min position (count - 1)
  let whole := count - 1 + view
  let start := min (Share.nearest (position * track) whole) (track - 1)
  let stop := min (Share.nearest ((position + view) * track) whole) track
  ⟨start, max (stop - start) 1⟩

/-- The symbols of a bar with a track of the given length. -/
def symbols (t : Thumb) (track : Nat) : List Char :=
  '▲' :: (List.replicate t.start '│' ++ List.replicate t.length '█' ++
    List.replicate (track - (t.start + t.length)) '│' ++ ['▼'])

end Thumb

namespace Canvas

/-- Draws a scroll bar in the last column of an area. -/
def drawScrollbar (c : Canvas) (a : Area) (count position : Nat) : Canvas :=
  let track := a.height - 2
  if count = 0 ∨ track = 0 ∨ a.width = 0 then c
  else
    let thumb := Thumb.on track count a.height position
    (thumb.symbols track).zipIdx.foldl (fun c (symbol, index) =>
      c.put (a.right - 1) (a.top + index) [symbol] .plain) c

end Canvas
end QueryConsole
