/-
# Which characters stand in which cells

Every operation of the canvas changes cells one by one, so the effect of a run of cells and of an area
can be said exactly (`getElem?_row_modifyRun`, `getElem?_row_modifyRows`).  What is drawn is a row of
glyphs: each one that takes a column is written in the cell where the ones before it end, over the
style of that cell (`GlyphsOver`; `GlyphsOver.getElem?` for a single cell).

| drawn by | the glyphs that stand there |
| --- | --- |
| `placeGlyphs` | all of them (`glyphsOver_placeGlyphs`); a paragraph cuts its lines first |
| `drawGlyphs` | those that fit up to the limit, in their order (`glyphsOver_drawGlyphs`) |

The glyphs of a text hold its characters (`symbols_glyphs`), so where nothing is cut the whole text is
there (`symbols_cut`).
-/

import QueryConsole.Proofs.Screen.CanvasRows

namespace QueryConsole

theorem Area.contains_iff {a : Area} {x y : Nat} :
    a.contains x y = true ↔
      (a.left ≤ x ∧ x < a.left + a.width) ∧ a.top ≤ y ∧ y < a.top + a.height := by
  rw [contains, right, bottom, Bool.and_assoc, Bool.and_eq_true, Bool.and_eq_true, Bool.and_eq_true]
  simp only [decide_eq_true_eq]

theorem Area.isEmpty_eq_false_iff {a : Area} : a.isEmpty = false ↔ 0 < a.width ∧ 0 < a.height := by
  rw [isEmpty, Bool.or_eq_false_iff, decide_eq_false_iff_not, decide_eq_false_iff_not,
    Nat.pos_iff_ne_zero, Nat.pos_iff_ne_zero]

/-! ## The glyphs of a text -/

namespace Glyph

variable {g : Glyph} {gs : List Glyph} {width room : Nat}

/-- The characters that glyphs show. -/
def symbols (gs : List Glyph) : List Char := gs.flatMap (·.symbol)

/-- The first glyphs, as many as a room has columns for. -/
def fitting : Nat → List Glyph → List Glyph
  | _, [] => []
  | room, g :: gs => if room < g.width then [] else g :: fitting (room - g.width) gs

theorem mem_of_mem_fitting (h : g ∈ fitting room gs) : g ∈ gs := by
  induction gs generalizing room with
  | nil => exact h
  | cons first gs ih =>
    rw [fitting] at h
    split at h
    · cases h
    · obtain rfl | hg := List.mem_cons.mp h
      · exact List.mem_cons_self
      · exact List.mem_cons_of_mem _ (ih hg)

theorem total_fitting_le (room : Nat) (gs : List Glyph) : total (fitting room gs) ≤ room := by
  induction gs generalizing room with
  | nil => exact Nat.zero_le room
  | cons g gs ih =>
    rw [fitting]
    split
    · exact Nat.zero_le room
    · have hrest := ih (room - g.width)
      rw [total]
      omega

/-- Glyphs that have room enough all fit. -/
theorem fitting_eq_self (h : total gs ≤ room) : fitting room gs = gs := by
  induction gs generalizing room with
  | nil => rfl
  | cons g gs ih =>
    rw [total] at h
    rw [fitting, if_neg (by omega), ih (by omega)]

/-- **A line is cut behind the glyphs that fit**, unless one of them is wider than a whole line. -/
theorem cut_eq_fitting (h : ∀ g ∈ gs, g.width ≤ width) (room : Nat) :
    cut width room gs = fitting room gs := by
  induction gs generalizing room with
  | nil => rfl
  | cons g gs ih =>
    have hfits : ¬width < g.width := Nat.not_lt.mpr (h g List.mem_cons_self)
    rw [cut, if_neg hfits, fitting, ih fun g hg => h g (List.mem_cons_of_mem _ hg)]

/-- A glyph in another style. -/
def withStyle (style : Style) (g : Glyph) : Glyph := { g with style }

theorem total_map_withStyle (style : Style) (gs : List Glyph) :
    total (gs.map (withStyle style)) = total gs := by
  induction gs with
  | nil => rfl
  | cons g gs ih => rw [List.map_cons, total, total, ih, withStyle]

theorem width_le_total (h : g ∈ gs) : g.width ≤ total gs := by
  induction gs with
  | nil => cases h
  | cons first gs ih =>
    rw [total]
    obtain rfl | hg := List.mem_cons.mp h
    · exact Nat.le_add_right ..
    · exact Nat.le_trans (ih hg) (Nat.le_add_left ..)

end Glyph

/-- **The glyphs of a text without line feeds show all its characters**, in their order. -/
theorem Span.symbols_glyphs (s : Span) (h : '\n' ∉ s.text.toList) :
    Glyph.symbols s.glyphs = s.text.toList := by
  have hkeep : (Cluster.clusters s.text.toList).filter (· ≠ ['\n']) =
      Cluster.clusters s.text.toList := by
    refine List.filter_eq_self.mpr fun cluster hcluster => decide_eq_true ?_
    rintro rfl
    refine h ?_
    rw [← Cluster.flatten_clusters s.text.toList]
    exact List.mem_flatten.mpr ⟨_, hcluster, List.mem_singleton.mpr rfl⟩
  rw [Glyph.symbols, glyphs, hkeep, List.flatMap_map]
  exact List.flatMap_id.trans (Cluster.flatten_clusters _)

/-- A text that fits is shown whole. -/
theorem Span.symbols_cut {s : Span} {width : Nat} (h : '\n' ∉ s.text.toList)
    (hfits : Glyph.total s.glyphs ≤ width) :
    Glyph.symbols (Glyph.cut width width s.glyphs) = s.text.toList := by
  have hnarrow : ∀ g ∈ s.glyphs, g.width ≤ width := fun g hg =>
    Nat.le_trans (Glyph.width_le_total hg) hfits
  rw [Glyph.cut_eq_fitting hnarrow, Glyph.fitting_eq_self hfits, s.symbols_glyphs h]

namespace Canvas

variable {c : Canvas} {x y i line : Nat} {f : ScreenCell → ScreenCell} {a : Area} {style : Style}
  {under under' cells cells' : List ScreenCell} {gs : List Glyph}

/-! ## What an operation changes -/

theorem getElem?_row_modify (c : Canvas) (x y : Nat) (f : ScreenCell → ScreenCell) (line i : Nat) :
    ((c.modify x y f).row line)[i]? =
      if line = y ∧ x = i then (c.row line)[i]?.map f else (c.row line)[i]? := by
  by_cases hline : line = y
  · subst hline
    rw [row_modify, List.getElem?_modify, Option.map_eq_map]
    by_cases hi : x = i
    · simp [hi]
    · simp [hi]
  · rw [row_modify_of_ne hline, if_neg fun h => hline h.1]

/-- **A run of cells** is changed in its row, from its column on. -/
theorem getElem?_row_modifyRun (f : ScreenCell → ScreenCell) (y x n : Nat) (c : Canvas)
    (line i : Nat) :
    ((modifyRun f y x n c).row line)[i]? =
      if line = y ∧ x ≤ i ∧ i < x + n then (c.row line)[i]?.map f else (c.row line)[i]? := by
  induction n generalizing x c with
  | zero => rw [modifyRun, if_neg (by omega)]
  | succ n ih =>
    rw [modifyRun, ih, getElem?_row_modify]
    by_cases hfirst : line = y ∧ x = i
    · rw [if_neg (by omega), if_pos hfirst, if_pos (by omega)]
    · rw [if_neg hfirst]
      exact if_congr (by omega) rfl rfl

/-- **An area** is changed in its rows and columns. -/
theorem getElem?_row_modifyRows (f : ScreenCell → ScreenCell) (x width y n : Nat) (c : Canvas)
    (line i : Nat) :
    ((modifyRows f x width y n c).row line)[i]? =
      if (x ≤ i ∧ i < x + width) ∧ y ≤ line ∧ line < y + n then (c.row line)[i]?.map f
      else (c.row line)[i]? := by
  induction n generalizing y c with
  | zero => rw [modifyRows, if_neg (by omega)]
  | succ n ih =>
    rw [modifyRows, ih, getElem?_row_modifyRun]
    by_cases hfirst : line = y ∧ x ≤ i ∧ i < x + width
    · rw [if_neg (by omega), if_pos hfirst, if_pos (by omega)]
    · rw [if_neg hfirst]
      exact if_congr (by omega) rfl rfl

theorem getElem?_row_paint (c : Canvas) (a : Area) (style : Style) (line i : Nat) :
    ((c.paint a style).row line)[i]? =
      if a.contains i line then
        (c.row line)[i]?.map fun cell => { cell with style := style.onto cell.style }
      else (c.row line)[i]? :=
  (getElem?_row_modifyRows ..).trans (if_congr Area.contains_iff.symm rfl rfl)

theorem getElem?_row_clear (c : Canvas) (a : Area) (line i : Nat) :
    ((c.clear a).row line)[i]? =
      if a.contains i line then (c.row line)[i]?.map fun _ => .blank else (c.row line)[i]? :=
  (getElem?_row_modifyRows ..).trans (if_congr Area.contains_iff.symm rfl rfl)

/-! ## Glyphs over the cells of a row -/

/-- Glyphs stand in a row, from a column on, over the cells that were there: each glyph that takes a
column is in the cell where those before it end, its style over the style that the cell had. -/
def GlyphsOver (under cells : List ScreenCell) : Nat → List Glyph → Prop
  | _, [] => True
  | x, g :: gs =>
    (0 < g.width → cells[x]? = under[x]?.map fun cell => ⟨g.symbol, g.style.onto cell.style⟩) ∧
      GlyphsOver under cells (x + g.width) gs

theorem glyphsOver_of_total_eq_zero (h : Glyph.total gs = 0) : GlyphsOver under cells x gs := by
  induction gs generalizing x with
  | nil => trivial
  | cons g gs ih =>
    rw [Glyph.total] at h
    exact ⟨fun hwidth => by omega, ih (by omega)⟩

/-- The styles below the glyphs matter, and the cells in their columns. -/
theorem GlyphsOver.congr (h : GlyphsOver under cells x gs)
    (hunder : ∀ i, x ≤ i → i < x + Glyph.total gs →
      under'[i]?.map (·.style) = under[i]?.map (·.style))
    (hcells : ∀ i, x ≤ i → i < x + Glyph.total gs → cells'[i]? = cells[i]?) :
    GlyphsOver under' cells' x gs := by
  induction gs generalizing x with
  | nil => trivial
  | cons g gs ih =>
    rw [Glyph.total] at hunder hcells
    refine ⟨fun hwidth => ?_, ih h.2 (fun i hle hlt => ?_) fun i hle hlt => ?_⟩
    · have hstyle := hunder x (Nat.le_refl x) (by omega)
      have hcell := h.1 hwidth
      rw [← hcells x (Nat.le_refl x) (by omega)] at hcell
      have hover (cells : List ScreenCell) :
          cells[x]?.map (fun cell => (⟨g.symbol, g.style.onto cell.style⟩ : ScreenCell)) =
            (cells[x]?.map (·.style)).map fun style => ⟨g.symbol, g.style.onto style⟩ := by
        rw [Option.map_map]
        rfl
      rw [hcell, hover, hover, hstyle]
    · exact hunder i (by omega) (by omega)
    · exact hcells i (by omega) (by omega)

/-- Glyphs without a style show that of the cells below, which are painted in it. -/
theorem GlyphsOver.withStyle (h : GlyphsOver under' cells x gs)
    (hplain : ∀ g ∈ gs, g.style = .plain)
    (hunder : ∀ i, x ≤ i → i < x + Glyph.total gs →
      under'[i]?.map (·.style) = under[i]?.map fun cell => style.onto cell.style) :
    GlyphsOver under cells x (gs.map (Glyph.withStyle style)) := by
  induction gs generalizing x with
  | nil => trivial
  | cons g gs ih =>
    rw [Glyph.total] at hunder
    have hstyle : (g.withStyle style).width = g.width := rfl
    rw [List.map_cons]
    refine ⟨fun hwidth => ?_, ?_⟩
    · have hpainted := congrArg (Option.map fun style => (⟨g.symbol, style⟩ : ScreenCell))
        (hunder x (Nat.le_refl x) (by omega))
      rw [Option.map_map, Option.map_map] at hpainted
      rw [h.1 hwidth, hplain g List.mem_cons_self]
      exact hpainted
    · exact ih h.2 (fun g hg => hplain g (List.mem_cons_of_mem _ hg)) fun i hle hlt =>
        hunder i (by omega) (by omega)

/-- **A glyph in a cell:** the one behind those that end there. -/
theorem GlyphsOver.getElem? {before after : List Glyph} {g : Glyph}
    (h : GlyphsOver under cells x (before ++ g :: after)) (hwidth : 0 < g.width) :
    cells[x + Glyph.total before]? =
      under[x + Glyph.total before]?.map fun cell => ⟨g.symbol, g.style.onto cell.style⟩ := by
  induction before generalizing x with
  | nil => exact h.1 hwidth
  | cons first before ih =>
    rw [Glyph.total, ← Nat.add_assoc]
    exact ih h.2

/-- Glyphs leave the cells to their left alone. -/
theorem getElem?_row_placeGlyphs_of_lt (h : i < x) (y : Nat) (gs : List Glyph) (c : Canvas) :
    ((placeGlyphs y x gs c).row line)[i]? = (c.row line)[i]? := by
  induction gs generalizing x c with
  | nil => rfl
  | cons g gs ih =>
    rw [placeGlyphs, ih (by omega)]
    split
    · rfl
    · rw [put, getElem?_row_modify, if_neg (by omega)]

/-- **Glyphs that are placed stand where they are placed.** -/
theorem glyphsOver_placeGlyphs (y x : Nat) (gs : List Glyph) (c : Canvas) :
    GlyphsOver (c.row y) ((placeGlyphs y x gs c).row y) x gs := by
  induction gs generalizing x c with
  | nil => trivial
  | cons g gs ih =>
    rw [placeGlyphs]
    refine ⟨fun hwidth => ?_, (ih (x + g.width) _).congr (fun i hle _ => ?_) fun _ _ _ => rfl⟩
    · rw [if_neg (Nat.ne_of_gt hwidth), getElem?_row_placeGlyphs_of_lt (by omega), put,
        getElem?_row_modify, if_pos ⟨rfl, rfl⟩]
    · split
      · rfl
      · rw [put, getElem?_row_modify, if_neg (by omega)]

/-- **Lines that are cut to an area stand in it**, each from the column where its alignment puts it
on. -/
theorem glyphsOver_drawLines (c : Canvas) (alignment : Alignment) {lines : List (List Span)}
    {spans : List Span} {index : Nat} (hspans : lines[index]? = some spans)
    (hfits : index < a.height) (hinside : a.isEmpty = false) :
    let gs := Glyph.cut a.width a.width (spans.flatMap Span.glyphs)
    GlyphsOver (c.row (a.top + index)) ((c.drawLines a alignment lines).row (a.top + index))
      (a.left + alignment.offset a.width (Glyph.total gs)) gs := by
  intro gs
  have hgs : (lines.map fun line => Glyph.cut a.width a.width (line.flatMap Span.glyphs))[index]? =
      some gs := by
    rw [List.getElem?_map, hspans, Option.map_some]
  rw [drawLines, hinside, if_neg Bool.false_ne_true, row_placeRows alignment a hgs hfits]
  exact glyphsOver_placeGlyphs ..

/-! ## Glyphs up to a limit -/

/-- What is drawn up to a limit stays in its row, between its first column and the limit. -/
theorem getElem?_row_drawGlyphs_of_outside {limit : Nat} (h : line ≠ y ∨ i < x ∨ limit < i)
    (gs : List Glyph) (c : Canvas) :
    ((drawGlyphs y limit x gs c).row line)[i]? = (c.row line)[i]? := by
  induction gs generalizing x c with
  | nil => rfl
  | cons g gs ih =>
    rw [drawGlyphs]
    split
    · rfl
    · have hclear : ¬(⟨x + 1, y, g.width - 1, 1⟩ : Area).contains i line = true := by
        rw [Area.contains_iff]
        dsimp only
        omega
      rw [ih (by omega), getElem?_row_clear, if_neg hclear, put, getElem?_row_modify,
        if_neg (by omega)]

/-- **Glyphs that are drawn up to a limit stand there as far as they fit.**  They have no style of
their own: a glyph without columns, which the next one replaces, would leave its style there. -/
theorem glyphsOver_drawGlyphs (y x : Nat) {limit : Nat} (hx : x ≤ limit)
    (hplain : ∀ g ∈ gs, g.style = .plain) (c : Canvas) :
    GlyphsOver (c.row y) ((drawGlyphs y limit x gs c).row y) x (Glyph.fitting (limit - x) gs) := by
  induction gs generalizing x c with
  | nil => trivial
  | cons g gs ih =>
    have hg : g.style = .plain := hplain g List.mem_cons_self
    have hgs : ∀ g ∈ gs, g.style = .plain := fun g hg => hplain g (List.mem_cons_of_mem _ hg)
    rw [drawGlyphs, Glyph.fitting]
    by_cases hlimit : limit < x + g.width
    · rw [if_pos (by omega : limit - x < g.width)]
      trivial
    · have hclear (i : Nat) (hi : i = x ∨ x + g.width ≤ i) :
          ¬(⟨x + 1, y, g.width - 1, 1⟩ : Area).contains i y = true := by
        rw [Area.contains_iff]
        dsimp only
        omega
      rw [if_neg hlimit, if_neg (by omega), Nat.sub_sub]
      refine ⟨fun hwidth => ?_, (ih (x + g.width) (by omega) hgs _).congr (fun i hle _ => ?_)
        fun _ _ _ => rfl⟩
      · rw [getElem?_row_drawGlyphs_of_outside (by omega), getElem?_row_clear,
          if_neg (hclear x (.inl rfl)), put, getElem?_row_modify, if_pos ⟨rfl, rfl⟩]
      · rw [getElem?_row_clear, if_neg (hclear i (.inr hle)), put, getElem?_row_modify]
        split
        · rw [Option.map_map, hg]
          rfl
        · rfl

end Canvas
end QueryConsole
