/-
# Which cells of a grid stand where

The columns of a grid stand beside each other with space between them, inside the width of the grid,
whether they are as wide as they should be or share what room there is (`Grid.pairwise_columns`,
`Grid.column_within`).  So a cell of a row is drawn without a trace of its neighbours, and a row without
a trace of the rows above and below: header and rows have the texts of their cells, as far as each
column is wide (`exists_glyphsOver_drawGrid_header`, `exists_glyphsOver_drawGrid_row`).
-/

import QueryConsole.Proofs.Screen.GlyphCells
import QueryConsole.Screen.Grid
import QueryConsole.Screen.Scrollbar

namespace QueryConsole

/-! ## Shares -/

namespace Share

variable {m n d : Nat}

theorem nearest_mul (n : Nat) (hd : 0 < d) : nearest (n * d) d = n := by
  have hsplit : 2 * (n * d) + d = d + 2 * d * n := by
    rw [Nat.mul_assoc, Nat.mul_comm d, Nat.add_comm]
  rw [nearest, hsplit, Nat.add_mul_div_left _ _ (by omega), Nat.div_eq_of_lt (by omega),
    Nat.zero_add]

theorem nearest_mono (h : m ≤ n) (d : Nat) : nearest m d ≤ nearest n d :=
  Nat.div_le_div_right (by omega)

/-- The share of a part of the whole is at most the whole. -/
theorem nearest_mul_le {k : Nat} (n : Nat) (hk : k ≤ d) : nearest (n * k) d ≤ n := by
  obtain rfl | hd := Nat.eq_zero_or_pos d
  · simp [nearest]
  · exact Nat.le_trans (nearest_mono (Nat.mul_le_mul_left n hk) d) (Nat.le_of_eq (nearest_mul n hd))

end Share

/-! ## Columns -/

namespace Grid

variable {p : Column} {width first wide n start room index i j : Nat}

/-- A column ends before another starts, with space between them. -/
def Column.Before (p q : Column) : Prop := p.left + p.width < q.left

/-- A column that shares a room ends where its share ends. -/
theorem sharedColumn_end (start room n index : Nat) :
    (sharedColumn start room n index).left + (sharedColumn start room n index).width =
      Share.nearest (room * (index + 1)) n + start + index := by
  have hmono : Share.nearest (room * index) n ≤ Share.nearest (room * (index + 1)) n :=
    Share.nearest_mono (Nat.mul_le_mul_left room (Nat.le_succ index)) n
  simp only [sharedColumn]
  omega

/-- A column that is not empty ends inside the room that is shared, which is not empty then. -/
theorem sharedColumn_end_lt (hindex : index < n) (h : 0 < (sharedColumn start room n index).width) :
    0 < room ∧ (sharedColumn start room n index).left + (sharedColumn start room n index).width <
      room + start + n := by
  have hshare : Share.nearest (room * (index + 1)) n ≤ room := Share.nearest_mul_le room hindex
  have hroom : 0 < room := by
    refine Nat.pos_of_ne_zero ?_
    rintro rfl
    simp [sharedColumn] at h
  rw [sharedColumn_end]
  exact ⟨hroom, by omega⟩

theorem sharedColumn_before (h : i < j) :
    (sharedColumn start room n i).Before (sharedColumn start room n j) := by
  have hmono : Share.nearest (room * (i + 1)) n ≤ Share.nearest (room * j) n :=
    Share.nearest_mono (Nat.mul_le_mul_left room h) n
  rw [Column.Before, sharedColumn_end]
  simp only [sharedColumn]
  omega

/-- **The columns of a grid follow each other** with space between them. -/
theorem pairwise_columns (width first wide n : Nat) :
    (columns width first wide n).Pairwise Column.Before := by
  unfold columns
  split
  · exact List.pairwise_singleton ..
  · dsimp only
    split
    · -- every column is as wide as it should be
      refine List.pairwise_cons.mpr ⟨fun q hq => ?_, List.pairwise_map.mpr ?_⟩
      · obtain ⟨index, -, rfl⟩ := List.mem_map.mp hq
        rw [Column.Before]
        dsimp only
        omega
      · refine List.pairwise_lt_range.imp fun {i j} hij => ?_
        have hstep : (i + 1) * (wide + 1) ≤ j * (wide + 1) := Nat.mul_le_mul_right _ hij
        rw [Nat.succ_mul] at hstep
        rw [Column.Before]
        dsimp only
        omega
    · split
      · -- the wide columns share the room behind the first one
        refine List.pairwise_cons.mpr ⟨fun q hq => ?_, List.pairwise_map.mpr ?_⟩
        · obtain ⟨index, -, rfl⟩ := List.mem_map.mp hq
          rw [Column.Before, sharedColumn]
          dsimp only
          omega
        · exact List.pairwise_lt_range.imp sharedColumn_before
      · -- all columns share the room
        refine List.pairwise_cons.mpr ⟨fun q hq => ?_, List.pairwise_map.mpr ?_⟩
        · obtain ⟨index, -, rfl⟩ := List.mem_map.mp hq
          have hmono : Share.nearest (width - n) (n + 1) ≤
              Share.nearest ((width - n) * (index + 1)) (n + 1) :=
            Share.nearest_mono (Nat.le_mul_of_pos_right _ (Nat.succ_pos index)) _
          rw [Column.Before, sharedColumn]
          dsimp only
          omega
        · exact List.pairwise_lt_range.imp fun hij => sharedColumn_before (Nat.succ_lt_succ hij)

/-- **A column that is not empty lies in the grid.** -/
theorem column_within (h : p ∈ columns width first wide n) (hp : 0 < p.width) :
    p.left + p.width ≤ width := by
  unfold columns at h
  split at h
  · obtain rfl := List.mem_singleton.mp h
    dsimp only
    omega
  · dsimp only at h
    split at h
    · rename_i hroom
      obtain rfl | hmem := List.mem_cons.mp h
      · dsimp only
        omega
      · obtain ⟨index, hindex, rfl⟩ := List.mem_map.mp hmem
        have hstep : (index + 1) * (wide + 1) ≤ n * (wide + 1) :=
          Nat.mul_le_mul_right _ (List.mem_range.mp hindex)
        rw [Nat.succ_mul, Nat.mul_succ n] at hstep
        have hcolumns : 0 < n * wide := Nat.mul_pos (by omega) hp
        dsimp only
        omega
    · split at h
      · rename_i hfirst
        have hle : first ≤ width - n := Nat.le_trans (Nat.le_mul_of_pos_right _ (Nat.succ_pos n)) hfirst
        obtain rfl | hmem := List.mem_cons.mp h
        · dsimp only
          omega
        · obtain ⟨index, hindex, rfl⟩ := List.mem_map.mp hmem
          obtain ⟨hroom, hend⟩ := sharedColumn_end_lt (List.mem_range.mp hindex) hp
          omega
      · obtain rfl | hmem := List.mem_cons.mp h
        · have hshare : Share.nearest ((width - n) * 1) (n + 1) ≤ width - n :=
            Share.nearest_mul_le _ (Nat.le_add_left 1 n)
          rw [Nat.mul_one] at hshare
          dsimp only
          omega
        · obtain ⟨index, hindex, rfl⟩ := List.mem_map.mp hmem
          have hindex : index + 1 < n + 1 := Nat.succ_lt_succ (List.mem_range.mp hindex)
          obtain ⟨hroom, hend⟩ := sharedColumn_end_lt hindex hp
          omega

theorem length_columns (width first wide n : Nat) : (columns width first wide n).length = n + 1 := by
  unfold columns
  split
  · subst n
    rfl
  · dsimp only
    split
    · simp
    · split <;> simp

end Grid

/-! ## Drawing -/

namespace GridCell

/-- The glyphs of a cell in a column of the given width: those of its first line that fit.  A line
without columns is not drawn. -/
def glyphs (cell : GridCell) (width : Nat) : List Glyph :=
  if cell.line.width = 0 then []
  else (Glyph.fitting width cell.line.glyphs).map (Glyph.withStyle cell.style)

theorem total_glyphs_le (cell : GridCell) (width : Nat) : Glyph.total (cell.glyphs width) ≤ width := by
  rw [glyphs]
  split
  · exact Nat.zero_le width
  · rw [Glyph.total_map_withStyle]
    exact Glyph.total_fitting_le ..

theorem style_of_mem_line (cell : GridCell) {g : Glyph} (h : g ∈ cell.line.glyphs) :
    g.style = .plain := by
  obtain ⟨cluster, -, rfl⟩ := List.mem_map.mp h
  rfl

end GridCell

namespace Canvas

variable {c : Canvas} {row a : Area} {line i index : Nat} {p : Grid.Column × GridCell}
  {column : Grid.Column} {cell : GridCell} {columns : List Grid.Column} {cells header : List GridCell}
  {rows : List (List GridCell)}

/-- A line of one span is drawn as its glyphs, if it has columns. -/
theorem drawLine_singleton (hinside : a.isEmpty = false) (s : Span) (c : Canvas) :
    c.drawLine a [s] =
      if s.width = 0 then c else drawGlyphs a.top (a.left + a.width) a.left s.glyphs c := by
  rw [drawLine, hinside, if_neg Bool.false_ne_true, drawSpans]
  simp only [drawSpans, ite_self]
  rfl

/-- A line is drawn in the first row of its area, or in the column behind it. -/
theorem getElem?_row_drawLine_of_outside
    (h : line ≠ a.top ∨ i < a.left ∨ a.left + a.width < i) (s : Span) (c : Canvas) :
    ((c.drawLine a [s]).row line)[i]? = (c.row line)[i]? := by
  cases hinside : a.isEmpty with
  | true => rw [drawLine, hinside, if_pos rfl]
  | false =>
    rw [drawLine_singleton hinside]
    split
    · rfl
    · exact getElem?_row_drawGlyphs_of_outside h ..

/-- A cell of a grid is drawn in the columns of its place and the one behind. -/
theorem getElem?_row_drawGridCell_of_outside
    (h : line ≠ row.top ∨ i < row.left + p.1.left ∨ row.left + p.1.left + p.1.width < i)
    (hrow : row.height = 1) (c : Canvas) :
    ((drawGridCell row c p).row line)[i]? = (c.row line)[i]? := by
  have hpaint : ¬(p.1.place row).contains i line = true := by
    rw [Area.contains_iff]
    simp only [Grid.Column.place]
    omega
  rw [drawGridCell, getElem?_row_drawLine_of_outside h, getElem?_row_paint, if_neg hpaint]

/-- **A cell of a grid has its glyphs in its place.** -/
theorem glyphsOver_drawGridCell (hrow : row.height = 1) (c : Canvas) :
    GlyphsOver (c.row row.top) ((drawGridCell row c p).row row.top) (row.left + p.1.left)
      (p.2.glyphs p.1.width) := by
  obtain hwidth | hwidth := Nat.eq_zero_or_pos p.1.width
  · have htotal := p.2.total_glyphs_le p.1.width
    exact glyphsOver_of_total_eq_zero (by omega)
  · have hinside : (p.1.place row).isEmpty = false :=
      Area.isEmpty_eq_false_iff.mpr ⟨hwidth, hrow.symm ▸ Nat.one_pos⟩
    rw [drawGridCell, drawLine_singleton hinside, GridCell.glyphs]
    split
    · trivial
    · have hdrawn := glyphsOver_drawGlyphs row.top (row.left + p.1.left)
        (Nat.le_add_right _ p.1.width) (fun g => p.2.style_of_mem_line)
        (c.paint (p.1.place row) p.2.style)
      rw [Nat.add_sub_cancel_left] at hdrawn
      refine hdrawn.withStyle (fun g hg => p.2.style_of_mem_line (Glyph.mem_of_mem_fitting hg))
        fun i hle hlt => ?_
      have hfits := Glyph.total_fitting_le p.1.width p.2.line.glyphs
      have hpaint : (p.1.place row).contains i row.top = true := by
        rw [Area.contains_iff]
        simp only [Grid.Column.place]
        omega
      rw [getElem?_row_paint, if_pos hpaint, Option.map_map]
      rfl

/-! ## Rows -/

/-- Cells of a grid leave what is to their left alone, and every other row. -/
theorem getElem?_row_foldl_drawGridCell_of_outside {ps : List (Grid.Column × GridCell)}
    (h : ∀ p ∈ ps, line ≠ row.top ∨ i < row.left + p.1.left) (hrow : row.height = 1) (c : Canvas) :
    ((ps.foldl (drawGridCell row) c).row line)[i]? = (c.row line)[i]? :=
  foldl_of_forall (fun c => (c.row line)[i]?) (fun p hp d =>
    getElem?_row_drawGridCell_of_outside ((h p hp).imp_right .inl) hrow d) c

theorem row_drawGridRow_of_ne (hne : line ≠ row.top) (hrow : row.height = 1) (c : Canvas) :
    (c.drawGridRow row columns cells).row line = c.row line :=
  List.ext_getElem? fun _ =>
    getElem?_row_foldl_drawGridCell_of_outside (fun _ _ => .inl hne) hrow c

/-- **A row of a grid has the glyphs of each cell in its column.** -/
theorem exists_glyphsOver_drawGridRow (hcolumns : columns.Pairwise Grid.Column.Before)
    (hcolumn : columns[index]? = some column) (hcell : cells[index]? = some cell)
    (hrow : row.height = 1) (c : Canvas) :
    ∃ under, GlyphsOver under ((c.drawGridRow row columns cells).row row.top)
      (row.left + column.left) (cell.glyphs column.width) := by
  induction columns generalizing index cells c with
  | nil => cases hcolumn
  | cons first columns ih =>
    obtain ⟨hfirst, hrest⟩ := List.pairwise_cons.mp hcolumns
    cases cells with
    | nil => cases hcell
    | cons firstCell cells =>
      rw [drawGridRow, List.zip_cons_cons, List.foldl_cons]
      cases index with
      | zero =>
        obtain rfl : first = column := Option.some.inj hcolumn
        obtain rfl : firstCell = cell := Option.some.inj hcell
        refine ⟨_, (glyphsOver_drawGridCell (p := (first, firstCell)) hrow c).congr
          (fun _ _ _ => rfl) fun i _ hlt => ?_⟩
        have htotal := firstCell.total_glyphs_le first.width
        refine getElem?_row_foldl_drawGridCell_of_outside (fun q hq => .inr ?_) hrow _
        have hlt : i < row.left + first.left + Glyph.total (firstCell.glyphs first.width) := hlt
        have hbefore : first.left + first.width < q.1.left := hfirst q.1 (List.of_mem_zip hq).1
        omega
      | succ index => exact ih hrest hcolumn hcell _

/-! ## Grids -/

/-- **The header of a grid has the glyphs of its cells** on the first line. -/
theorem exists_glyphsOver_drawGrid_header (hinside : a.isEmpty = false)
    (hcolumns : columns.Pairwise Grid.Column.Before) (hcolumn : columns[index]? = some column)
    (hcell : header[index]? = some cell) (c : Canvas) :
    ∃ under, GlyphsOver under ((c.drawGrid a columns header rows).row a.top)
      (a.left + column.left) (cell.glyphs column.width) := by
  have hrow : (a.row 0).height = 1 := rfl
  have hrows : (c.drawGrid a columns header rows).row a.top =
      (c.drawGridRow (a.row 0) columns header).row a.top := by
    rw [drawGrid, hinside, if_neg Bool.false_ne_true]
    refine foldl_of_forall (Canvas.row · a.top) (fun p _ d => row_drawGridRow_of_ne ?_ rfl d) _
    have hbelow : a.top ≠ a.top + (p.2 + 1) := by omega
    exact hbelow
  rw [hrows]
  exact exists_glyphsOver_drawGridRow hcolumns hcolumn hcell hrow c

/-- **Each row of a grid has the glyphs of its cells** on its line, as far as the area has lines. -/
theorem exists_glyphsOver_drawGrid_row (hinside : a.isEmpty = false)
    (hcolumns : columns.Pairwise Grid.Column.Before) (hcolumn : columns[index]? = some column)
    {number : Nat} (hcells : rows[number]? = some cells) (hcell : cells[index]? = some cell)
    (hfits : number + 1 < a.height) (c : Canvas) :
    ∃ under, GlyphsOver under ((c.drawGrid a columns header rows).row (a.top + (number + 1)))
      (a.left + column.left) (cell.glyphs column.width) := by
  have htake : (rows.take (a.height - 1))[number]? = some cells := by
    rw [List.getElem?_take, if_pos (by omega), hcells]
  have hrow : (a.row (number + 1)).height = 1 := rfl
  have hline : a.top + 1 + number = a.top + (number + 1) := by omega
  have hother : ∀ (p : List GridCell × Nat) (d : Canvas), ∀ line ≠ a.top + 1 + p.2,
      (d.drawGridRow (a.row (p.2 + 1)) columns p.1).row line = d.row line := by
    intro p d line hne
    have hne : line ≠ a.top + (p.2 + 1) := by omega
    exact row_drawGridRow_of_ne hne rfl d
  obtain ⟨d, -, hdrawn⟩ :=
    exists_row_foldl_zipIdx hother htake 0 (c.drawGridRow (a.row 0) columns header)
  have hrows : (c.drawGrid a columns header rows).row (a.top + (number + 1)) =
      (d.drawGridRow (a.row (number + 1)) columns cells).row (a.top + (number + 1)) := by
    rw [drawGrid, hinside, if_neg Bool.false_ne_true]
    rwa [Nat.zero_add, hline] at hdrawn
  rw [hrows]
  exact exists_glyphsOver_drawGridRow hcolumns hcolumn hcell hrow d

/-- A scroll bar is drawn in the last column of its area. -/
theorem getElem?_row_drawScrollbar_of_ne (hne : i ≠ a.right - 1) (count position : Nat)
    (c : Canvas) : ((c.drawScrollbar a count position).row line)[i]? = (c.row line)[i]? := by
  rw [drawScrollbar]
  split
  · rfl
  · refine foldl_of_forall (fun c => (c.row line)[i]?) (fun p _ d => ?_) c
    exact (getElem?_row_modify ..).trans (if_neg fun h => hne h.2.symm)

end Canvas
end QueryConsole
