/-
# The question box shows its cursor

The height of the question box and its contents are worked out from two wrappings of the question,
and both count in coordinates of sixteen bits.  The rows that are shown are a window of the wrapped
rows that ends at the row of the cursor, unless that is among the first ones
(`WrappedText.shownRows`), and each is drawn on a line of its own, its characters in the cells of that
line (`drawnOn_of_shown`).

| the box | what is shown |
| --- | --- |
| has room for all rows | all rows, each on the line with its number |
| has less room | as many rows as it has lines, that of the cursor among them |

So a box of the height that it asks for has its cursor inside, on the line of the row that it stands
in, and no number on the way is too large or negative (`question_box_shows_cursor`).

Rows are filled by the widths of single characters and drawn by those of grapheme clusters, of which a
few are wider than their characters.  A row that is wider than the box in this way loses its end when it
is drawn; every other row is drawn whole.
-/

import QueryConsole.Proofs.Screen.CursorRange
import QueryConsole.Proofs.Workbench.ShownCell

namespace QueryConsole

/-! ## Coordinates -/

namespace Coordinate

/-- The largest coordinate, a number of sixteen bits. -/
def last : Nat := 2 ^ 16 - 1

/-- A number as a coordinate; it has to be small enough. -/
def ofNat? (n : Nat) : Option Nat := if n ≤ last then some n else none

/-- A sum that stops at the largest coordinate. -/
def addUpTo (m n : Nat) : Nat := min (m + n) last

theorem ofNat?_of_le {n : Nat} (h : n ≤ last) : ofNat? n = some n := if_pos h

end Coordinate

/-! ## The rows that are shown -/

namespace WrappedText

variable {t : WrappedText} {height : Nat}

/-- The first row that a box of the given height shows. -/
def firstShown (t : WrappedText) (height : Nat) : Nat := t.cursor.1 - (max height 1 - 1)

/-- The rows that a box of the given height shows, each with its index. -/
def shownRows (t : WrappedText) (height : Nat) : List (List Char × Nat) :=
  Workbench.window t.rows (t.firstShown height) (max height 1)

theorem rows_ofWrapped (t : WrappedText) (width height : Nat) :
    (QuestionView.ofWrapped t width height).rows = (t.shownRows height).map Prod.fst := by
  rw [shownRows, Workbench.window, List.map_take, List.map_drop, List.zipIdx_map_fst]
  rfl

/-- **The row of the cursor is in the window of rows.** -/
theorem firstShown_le_and_lt (t : WrappedText) (height : Nat) :
    t.firstShown height ≤ t.cursor.1 ∧ t.cursor.1 < t.firstShown height + max height 1 := by
  unfold firstShown
  omega

/-- With room for all rows the window starts at the first. -/
theorem firstShown_eq_zero (hroom : t.rows.length ≤ height) (hcursor : t.cursor.1 < t.rows.length) :
    t.firstShown height = 0 := by
  unfold firstShown
  omega

end WrappedText

namespace Editor

/-- **The cursor is in a row of the wrapped question**, and at most one column behind the box. -/
theorem cursor_wrapped (e : Editor) (width : Nat) :
    (e.wrapped width).cursor.1 < (e.wrapped width).rows.length ∧
      (e.wrapped width).cursor.2 ≤ max width 1 := by
  obtain ⟨hindex, hcolumn, -⟩ := e.position_bounds
  rw [lineCount] at hindex
  rw [lineLength, List.getElem?_eq_getElem hindex, Option.getD_some] at hcolumn
  have hrow := Wrap.row_cursorLine_lt (max width 1) hcolumn
  have hle := (Wrap.column_cursorLine (Nat.le_max_right width 1) hcolumn).1
  have hlines := Wrap.ofLines_eq width hindex hcolumn
  have hwrapped : e.wrapped width = _ := hlines
  rw [hwrapped]
  refine ⟨?_, hle⟩
  simp only [List.length_append]
  omega

/-- The rows of a question have no line feeds in them. -/
theorem feed_not_mem_of_mem_wrapped {e : Editor} {width : Nat} {row : List Char}
    (h : row ∈ (e.wrapped width).rows) : '\n' ∉ row := by
  obtain ⟨hindex, hcolumn, -⟩ := e.position_bounds
  rw [lineCount] at hindex
  rw [lineLength, List.getElem?_eq_getElem hindex, Option.getD_some] at hcolumn
  intro hfeed
  obtain ⟨line, hline, hmem⟩ := Wrap.exists_mem_lines width hindex hcolumn h hfeed
  exact Text.feed_not_mem_of_mem_lines hline hmem

/-- The height of the box in coordinates: a number of rows that is too large for a coordinate counts
as the largest one, and the border is added as far as it fits. -/
def Checked.boxHeight (e : Editor) (width limit : Nat) : Nat :=
  let rows := (Coordinate.ofNat? (e.wrapped (width - 2)).rows.length).getD Coordinate.last
  min (max (Coordinate.addUpTo rows 2) 3) (max limit 3)

/-- **The height of the box is exact** under a limit that is a coordinate. -/
theorem Checked.boxHeight_eq (e : Editor) (width : Nat) {limit : Nat}
    (hlimit : limit ≤ Coordinate.last) :
    Checked.boxHeight e width limit = e.boxHeight width limit := by
  have hrows : 0 < (e.wrapped (width - 2)).rows.length := Nat.zero_lt_of_lt (e.cursor_wrapped _).1
  unfold Checked.boxHeight Editor.boxHeight Coordinate.ofNat? Coordinate.addUpTo
  unfold Coordinate.last at hlimit ⊢
  dsimp only
  split
  · rw [Option.getD_some]
    omega
  · rw [Option.getD_none]
    omega

/-- A box is never smaller than its border with a row in it. -/
theorem three_le_boxHeight (e : Editor) (width limit : Nat) : 3 ≤ e.boxHeight width limit := by
  have hrows : 0 < (e.wrapped (width - 2)).rows.length := Nat.zero_lt_of_lt (e.cursor_wrapped _).1
  unfold boxHeight
  omega

/-- Under the limit there is a line for each row. -/
theorem boxHeight_of_le {e : Editor} {width limit : Nat}
    (h : (e.wrapped (width - 2)).rows.length + 2 ≤ max limit 3) :
    e.boxHeight width limit = (e.wrapped (width - 2)).rows.length + 2 := Nat.min_eq_left h

end Editor

namespace Workbench

variable {phrases : Phrases} {b : Workbench} {a : Area} {c : Canvas} {index : Nat}

/-! ## Drawing -/

/-- The question in rows as wide as the inside of an area. -/
def questionRows (b : Workbench) (a : Area) : WrappedText := b.console.input.wrapped a.inner.width

/-- The border of the question box. -/
def questionBorder (phrases : Phrases) (b : Workbench) : Border :=
  { style := .border (b.panel = .question)
    title := [⟨panelTitle phrases.questionTitle (b.panel = .question), .title⟩]
    footer := [⟨" Enter", .info⟩, ⟨":" ++ phrases.ask ++ " ", .dim⟩, ⟨"Shift+Enter", .info⟩,
      ⟨":" ++ phrases.newline ++ " ", .dim⟩]
    ground := .plain }

/-- A row of the question, as it is drawn. -/
def rowSpan (row : List Char) : Span := ⟨String.ofList row, .normal⟩

/-- The glyphs of a row of the question in a box of the given width. -/
def rowGlyphs (width : Nat) (row : List Char) : List Glyph :=
  Glyph.cut width width ([rowSpan row].flatMap Span.glyphs)

/-- **A row that is not too wide for the box is drawn whole.** -/
theorem symbols_rowGlyphs {width : Nat} {row : List Char} (hfeed : '\n' ∉ row)
    (hfits : Glyph.total (rowSpan row).glyphs ≤ width) :
    Glyph.symbols (rowGlyphs width row) = row := by
  have hchars : (rowSpan row).text.toList = row := String.toList_ofList
  rw [rowGlyphs, List.flatMap_singleton, Span.symbols_cut (by rwa [hchars]) hfits, hchars]

/-- **A question is drawn as the border and the rows that are shown.** -/
theorem drawQuestion_eq (hne : b.console.input.chars ≠ []) (hinside : a.inner.isEmpty = false) :
    b.drawQuestion phrases a c =
      Canvas.placeRows .left a.inner
        (((b.questionRows a).shownRows a.inner.height).map fun p => rowGlyphs a.inner.width p.1)
        (c.drawBorder a (b.questionBorder phrases)) := by
  have hempty : b.console.input.chars.isEmpty = false := by
    rw [List.isEmpty_eq_false_iff]
    exact hne
  have hview : (b.console.input.boxView a.inner.width a.inner.height).rows =
      ((b.questionRows a).shownRows a.inner.height).map Prod.fst :=
    WrappedText.rows_ofWrapped _ a.inner.width a.inner.height
  simp only [drawQuestion, hempty, Bool.false_eq_true, if_false, hview, Canvas.drawLines, hinside,
    List.map_map]
  rfl

/-- A drawn question box has a row of the question, with its index, on a line of the screen: the row
is shown there, the line is the one that drawing this row alone gives, and the glyphs of the row stand
in its cells, over those of the border and the ground.  These glyphs show all characters of the row,
unless its grapheme clusters together are wider than the box: then the row loses its end. -/
def DrawnOn (phrases : Phrases) (b : Workbench) (a : Area) (c : Canvas) (index line : Nat) : Prop :=
  ∃ row, (b.questionRows a).rows[index]? = some row ∧
    a.inner.top ≤ line ∧ line < a.inner.bottom ∧
    ((b.questionRows a).shownRows a.inner.height)[line - a.inner.top]? = some (row, index) ∧
    (b.drawQuestion phrases a c).row line =
      (Canvas.placeGlyphs line a.inner.left (rowGlyphs a.inner.width row)
        (c.drawBorder a (b.questionBorder phrases))).row line ∧
    Canvas.GlyphsOver ((c.drawBorder a (b.questionBorder phrases)).row line)
      ((b.drawQuestion phrases a c).row line) a.inner.left (rowGlyphs a.inner.width row) ∧
    (Glyph.total (rowSpan row).glyphs ≤ a.inner.width →
      Glyph.symbols (rowGlyphs a.inner.width row) = row)

/-- **Every row that is shown is drawn** on the line with its number among them. -/
theorem drawnOn_of_shown (phrases : Phrases) (c : Canvas) (hne : b.console.input.chars ≠ [])
    (hwidth : 0 < a.inner.width) (hheight : 0 < a.inner.height)
    (hindex : index < (b.questionRows a).rows.length)
    (hfirst : (b.questionRows a).firstShown a.inner.height ≤ index)
    (hlast : index < (b.questionRows a).firstShown a.inner.height + a.inner.height) :
    b.DrawnOn phrases a c index
      (a.inner.top + (index - (b.questionRows a).firstShown a.inner.height)) := by
  have hshown : ((b.questionRows a).shownRows a.inner.height)[index -
      (b.questionRows a).firstShown a.inner.height]? =
        some ((b.questionRows a).rows[index], index) := by
    rw [WrappedText.shownRows, getElem?_window, if_pos (by omega), Nat.add_sub_cancel' hfirst,
      List.getElem?_eq_getElem hindex, Option.map_some]
  have hinside : a.inner.isEmpty = false := Area.isEmpty_eq_false_iff.mpr ⟨hwidth, hheight⟩
  have hdrawn : (b.drawQuestion phrases a c).row (a.inner.top +
      (index - (b.questionRows a).firstShown a.inner.height)) =
        (Canvas.placeGlyphs (a.inner.top + (index - (b.questionRows a).firstShown a.inner.height))
          a.inner.left (rowGlyphs a.inner.width (b.questionRows a).rows[index])
          (c.drawBorder a (b.questionBorder phrases))).row (a.inner.top +
            (index - (b.questionRows a).firstShown a.inner.height)) := by
    rw [drawQuestion_eq hne hinside]
    refine Canvas.row_placeRows .left a.inner ?_ (by omega) _
    rw [List.getElem?_map, hshown, Option.map_some]
  refine ⟨(b.questionRows a).rows[index], List.getElem?_eq_getElem hindex, by omega, ?_, ?_, hdrawn,
    ?_, symbols_rowGlyphs (Editor.feed_not_mem_of_mem_wrapped (List.getElem_mem hindex))⟩
  · rw [Area.bottom]
    omega
  · rw [Nat.add_sub_cancel_left]
    exact hshown
  · rw [hdrawn]
    exact Canvas.glyphsOver_placeGlyphs ..

/-! ## The cursor -/

/-- The cursor of the question box in coordinates: every difference has to exist, and every number
that is made a coordinate has to be one. -/
def Checked.cursor? (b : Workbench) (a : Area) : Option (Option (Nat × Nat)) :=
  if b.panel ≠ .question then some none
  else if b.console.input.chars.isEmpty then some (some (a.inner.left, a.inner.top))
  else do
    let t := b.questionRows a
    let above ← (max a.inner.height 1).psub 1
    let skipped := t.cursor.1 - above
    let column ← Coordinate.ofNat? t.cursor.2
    let line ← t.cursor.1.psub skipped
    let line ← Coordinate.ofNat? line
    let x ← Coordinate.ofNat? (a.inner.left + min column (a.inner.width - 1))
    let y ← Coordinate.ofNat? (a.inner.top + line)
    return some (x, y)

/-- **In coordinates the cursor is the same** while the area is in their range: nothing is negative
and every coordinate fits. -/
theorem Checked.cursor_eq (hwidth : 0 < a.inner.width) (hright : a.inner.right ≤ Coordinate.last)
    (hbottom : a.inner.bottom ≤ Coordinate.last) (hheight : 0 < a.inner.height) :
    Checked.cursor? b a = some (b.cursor? a) := by
  unfold Checked.cursor? Workbench.cursor?
  by_cases hpanel : b.panel ≠ .question
  · rw [if_pos hpanel, if_pos hpanel]
  · rw [if_neg hpanel, if_neg hpanel]
    by_cases hempty : b.console.input.chars.isEmpty = true
    · rw [if_pos hempty, if_pos hempty]
    · rw [if_neg hempty, if_neg hempty]
      obtain ⟨-, hcolumn⟩ := b.console.input.cursor_wrapped a.inner.width
      rw [Area.right] at hright
      rw [Area.bottom] at hbottom
      have habove : 1 ≤ max a.inner.height 1 := Nat.le_max_right ..
      simp only [questionRows, Nat.psub_eq_sub habove, Option.bind_eq_bind, Option.bind_some,
        Nat.psub_eq_sub (Nat.sub_le ..)]
      rw [Coordinate.ofNat?_of_le (by omega), Option.bind_some,
        Coordinate.ofNat?_of_le (by omega), Option.bind_some,
        Coordinate.ofNat?_of_le (by omega), Option.bind_some,
        Coordinate.ofNat?_of_le (by omega), Option.bind_some]
      rfl

/-- **The cursor of an active box is inside the box**, on the line of the row that it stands in. -/
theorem exists_cursor (hpanel : b.panel = .question) (hwidth : 0 < a.inner.width)
    (hheight : 0 < a.inner.height) :
    ∃ x y, b.cursor? a = some (x, y) ∧ a.inner.contains x y = true ∧
      (b.console.input.chars ≠ [] → y = a.inner.top +
        ((b.questionRows a).cursor.1 - (b.questionRows a).firstShown a.inner.height)) := by
  have hactive : ¬b.panel ≠ .question := not_not_intro hpanel
  unfold cursor?
  rw [if_neg hactive]
  by_cases hempty : b.console.input.chars.isEmpty = true
  · rw [if_pos hempty]
    refine ⟨a.inner.left, a.inner.top, rfl, ?_, fun hne => ?_⟩
    · exact Area.contains_iff.mpr ⟨by omega, by omega⟩
    · exact absurd (List.isEmpty_iff.mp hempty) hne
  · rw [if_neg hempty]
    obtain ⟨-, hlast⟩ := (b.questionRows a).firstShown_le_and_lt a.inner.height
    refine ⟨a.inner.left + min (b.questionRows a).cursor.2 (a.inner.width - 1), a.inner.top +
      ((b.questionRows a).cursor.1 - (b.questionRows a).firstShown a.inner.height), rfl, ?_,
      fun _ => rfl⟩
    exact Area.contains_iff.mpr ⟨by omega, by omega⟩

/-- **The question box shows its cursor, and everything where it has room.**  An active box is drawn
at the height that it asks for, in an area within the coordinates.  Its cursor is inside, and neither
a difference nor a coordinate on the way to it fails.  The row of the cursor in a question is drawn,
on the line that the cursor is on.  If the rows and the border fit under the limit, the box is exactly
as high as they are, and each row is drawn on the line with its number. -/
theorem question_box_shows_cursor (phrases : Phrases) (b : Workbench) (a : Area) (limit : Nat)
    (c : Canvas) (hpanel : b.panel = .question) (hwidth : 3 ≤ a.width)
    (hlimit : limit ≤ Coordinate.last) (hheight : a.height = b.questionHeight a.width limit)
    (hright : a.right ≤ Coordinate.last) (hbottom : a.bottom ≤ Coordinate.last) :
    Editor.Checked.boxHeight b.console.input a.width limit = b.questionHeight a.width limit ∧
      (∃ x y, b.cursor? a = some (x, y) ∧ Checked.cursor? b a = some (some (x, y)) ∧
        a.inner.contains x y = true ∧
        (b.console.input.chars ≠ [] → b.DrawnOn phrases a c (b.questionRows a).cursor.1 y)) ∧
      ((b.questionRows a).rows.length + 2 ≤ max limit 3 →
        a.height = (b.questionRows a).rows.length + 2 ∧
        (b.console.input.chars ≠ [] → ∀ index < (b.questionRows a).rows.length,
          b.DrawnOn phrases a c index (a.inner.top + index))) := by
  have hthree : 3 ≤ a.height := hheight ▸ b.console.input.three_le_boxHeight a.width limit
  have hinnerWidth : 0 < a.inner.width := Nat.sub_pos_of_lt hwidth
  have hinnerHeight : 0 < a.inner.height := Nat.sub_pos_of_lt hthree
  have hinnerRight : a.inner.right ≤ a.right := by
    simp only [Area.inner, Area.right]
    omega
  have hinnerBottom : a.inner.bottom ≤ a.bottom := by
    simp only [Area.inner, Area.bottom]
    omega
  have hrow : (b.questionRows a).cursor.1 < (b.questionRows a).rows.length :=
    (b.console.input.cursor_wrapped a.inner.width).1
  refine ⟨Editor.Checked.boxHeight_eq b.console.input a.width hlimit, ?_, fun hroom => ?_⟩
  · obtain ⟨x, y, hcursor, hinside, hline⟩ := exists_cursor hpanel hinnerWidth hinnerHeight
    have hchecked : Checked.cursor? b a = some (b.cursor? a) :=
      Checked.cursor_eq hinnerWidth (hinnerRight.trans hright) (hinnerBottom.trans hbottom)
        hinnerHeight
    refine ⟨x, y, hcursor, hchecked.trans (congrArg some hcursor), hinside, fun hne => ?_⟩
    obtain ⟨hfirst, hlast⟩ := (b.questionRows a).firstShown_le_and_lt a.inner.height
    rw [hline hne]
    exact drawnOn_of_shown phrases c hne hinnerWidth hinnerHeight hrow hfirst (by omega)
  · have hexact : a.height = (b.questionRows a).rows.length + 2 :=
      hheight.trans (Editor.boxHeight_of_le hroom)
    refine ⟨hexact, fun hne index hindex => ?_⟩
    have hlines : a.inner.height = (b.questionRows a).rows.length := by
      rw [Area.inner, hexact, Nat.add_sub_cancel]
    have hfirst : (b.questionRows a).firstShown a.inner.height = 0 :=
      WrappedText.firstShown_eq_zero hlines.ge hrow
    have hdrawn := drawnOn_of_shown phrases c hne hinnerWidth hinnerHeight hindex
      (hfirst.trans_le (Nat.zero_le index)) (by omega)
    rw [hfirst, Nat.sub_zero] at hdrawn
    exact hdrawn

/-- A question of two full rows in a box four columns wide inside: the cursor is in a row below. -/
def fullRows : Workbench :=
  { start "sales" false [] "http://localhost" with
    console := { Console.start "sales" false with input := .ofText "abcdefgh" } }

/-- A box that is one row too low for a question is scrolled to the row of the cursor. -/
theorem cursor_in_scrolled_box :
    fullRows.panel = .question ∧ 3 ≤ 6 ∧ 4 ≤ Coordinate.last ∧
      4 = fullRows.questionHeight 6 4 ∧ 0 + 6 ≤ Coordinate.last ∧ 0 + 4 ≤ Coordinate.last ∧
      fullRows.cursor? ⟨0, 0, 6, 4⟩ = some (1, 2) ∧
      (fullRows.questionRows ⟨0, 0, 6, 4⟩).cursor = (2, 0) ∧
      fullRows.DrawnOn .english ⟨0, 0, 6, 4⟩ (.blank 6 4) 2 2 := by
  have hheight : 4 = fullRows.questionHeight 6 4 := by decide +kernel
  have hcursor : fullRows.cursor? ⟨0, 0, 6, 4⟩ = some (1, 2) := by decide +kernel
  have hplace : (fullRows.questionRows ⟨0, 0, 6, 4⟩).cursor = (2, 0) := by decide +kernel
  obtain ⟨-, ⟨x, y, hxy, -, -, hdrawn⟩, -⟩ := question_box_shows_cursor .english fullRows
    ⟨0, 0, 6, 4⟩ 4 (.blank 6 4) rfl (by decide) (by decide) hheight (by decide) (by decide)
  obtain ⟨-, rfl⟩ := Prod.mk.inj (Option.some.inj (hcursor.symm.trans hxy))
  have hdrawn' := hdrawn (by decide +kernel)
  rw [hplace] at hdrawn'
  exact ⟨rfl, by decide, by decide, hheight, by decide, by decide, hcursor, hplace, hdrawn'⟩

end Workbench
end QueryConsole
