/-
# Rows of a canvas

Drawing in one row of a canvas reads and changes the cells of that row only: every other row stays as
it is, and what the row becomes depends on nothing but the row (`row_modify`, `row_modify_of_ne`).  So
rows of glyphs that are drawn below each other do not disturb each other, and each line of an area has
exactly what is drawn there (`row_placeRows`).
-/

import Mathlib.Data.List.Basic
import QueryConsole.Screen.Paragraph

namespace QueryConsole
namespace Canvas

variable {c d : Canvas} {x y line : Nat}

/-! ## One cell -/

theorem getElem?_row (c : Canvas) (y i : Nat) :
    (c.row y)[i]? = if i < c.width then c.cells[y * c.width + i]? else none := by
  rw [row, Array.getElem?_toList, Array.getElem?_extract, Nat.succ_mul]
  by_cases hi : i < c.width
  · rw [if_pos hi]
    by_cases hsize : y * c.width + i < c.cells.size
    · rw [if_pos (by omega)]
    · rw [if_neg (by omega), Array.getElem?_eq_none (by omega)]
  · rw [if_neg hi, if_neg (by omega)]

theorem length_row_le (c : Canvas) (y : Nat) : (c.row y).length ≤ c.width := by
  rw [← List.getElem?_eq_none_iff, getElem?_row, if_neg (Nat.lt_irrefl _)]

@[simp] theorem width_modify (c : Canvas) (x y : Nat) (f : ScreenCell → ScreenCell) :
    (c.modify x y f).width = c.width := by
  unfold modify
  split <;> rfl

/-- Two cells of different rows have different places. -/
theorem place_ne {width i : Nat} (hne : line ≠ y) (hx : x < width) (hi : i < width) :
    y * width + x ≠ line * width + i := by
  intro heq
  have hdiv : (y * width + x) / width = (line * width + i) / width := by rw [heq]
  rw [Nat.mul_comm y, Nat.mul_comm line, Nat.mul_add_div (by omega), Nat.mul_add_div (by omega),
    Nat.div_eq_of_lt hx, Nat.div_eq_of_lt hi] at hdiv
  omega

/-- **A changed cell changes no other row.** -/
theorem row_modify_of_ne (hne : line ≠ y) (x : Nat) (f : ScreenCell → ScreenCell) :
    (c.modify x y f).row line = c.row line := by
  by_cases hx : x < c.width
  · refine List.ext_getElem? fun i => ?_
    rw [getElem?_row, getElem?_row, width_modify, modify, if_pos hx]
    by_cases hi : i < c.width
    · rw [if_pos hi, if_pos hi, Array.getElem?_modify, if_neg (place_ne hne hx hi)]
    · rw [if_neg hi, if_neg hi]
  · rw [modify, if_neg hx]

/-- **In its own row** a cell is changed at its column. -/
theorem row_modify (c : Canvas) (x y : Nat) (f : ScreenCell → ScreenCell) :
    (c.modify x y f).row y = (c.row y).modify x f := by
  by_cases hx : x < c.width
  · refine List.ext_getElem? fun i => ?_
    rw [List.getElem?_modify, getElem?_row, getElem?_row, width_modify, modify, if_pos hx]
    by_cases hi : i < c.width
    · have hplace : y * c.width + x = y * c.width + i ↔ x = i := by omega
      rw [if_pos hi, if_pos hi, Array.getElem?_modify, if_congr hplace rfl rfl]
      split <;> simp
    · rw [if_neg hi, if_neg hi, Option.map_eq_map, Option.map_none]
  · have hlength := c.length_row_le y
    rw [modify, if_neg hx, List.modify_eq_self (by omega)]

/-- What each of several drawings leaves as it is, all of them leave as it is. -/
theorem foldl_of_forall {α β : Type} (observe : Canvas → β) {draw : Canvas → α → Canvas}
    {xs : List α} (h : ∀ x ∈ xs, ∀ d, observe (draw d x) = observe d) (c : Canvas) :
    observe (xs.foldl draw c) = observe c :=
  List.foldlRecOn (motive := fun d => observe d = observe c) xs draw rfl fun d hd x hx =>
    (h x hx d).trans hd

/-! ## A row of glyphs -/

/-- **Glyphs that are drawn in a row change no other row.** -/
theorem row_placeGlyphs_of_ne (hne : line ≠ y) (x : Nat) (gs : List Glyph) (c : Canvas) :
    (placeGlyphs y x gs c).row line = c.row line := by
  induction gs generalizing x c with
  | nil => rfl
  | cons g gs ih =>
    rw [placeGlyphs, ih]
    split
    · rfl
    · exact row_modify_of_ne hne x _

/-- What a row becomes when glyphs are drawn in it depends on the row only. -/
theorem row_placeGlyphs_congr (hrow : c.row y = d.row y) (x : Nat) (gs : List Glyph) :
    (placeGlyphs y x gs c).row y = (placeGlyphs y x gs d).row y := by
  induction gs generalizing x c d with
  | nil => exact hrow
  | cons g gs ih =>
    rw [placeGlyphs, placeGlyphs]
    refine ih ?_ _
    split
    · exact hrow
    · rw [put, put, row_modify, row_modify, hrow]

/-! ## Drawings below each other -/

/-- Drawings that are numbered from a first line on, each in its own line, do not disturb each other:
a line becomes what its drawing makes of the line that was there. -/
theorem exists_row_foldl_zipIdx {α : Type} {draw : Canvas → α × Nat → Canvas} {top : Nat}
    (hdraw : ∀ p d, ∀ line ≠ top + p.2, (draw d p).row line = d.row line) {xs : List α} {x : α}
    {index : Nat} (hx : xs[index]? = some x) (start : Nat) (c : Canvas) :
    ∃ d : Canvas, d.row (top + (start + index)) = c.row (top + (start + index)) ∧
      ((xs.zipIdx start).foldl draw c).row (top + (start + index)) =
        (draw d (x, start + index)).row (top + (start + index)) := by
  induction xs generalizing start index c with
  | nil => cases hx
  | cons first xs ih =>
    rw [List.zipIdx_cons, List.foldl_cons]
    cases index with
    | zero =>
      obtain rfl : first = x := Option.some.inj hx
      refine ⟨c, rfl, foldl_of_forall (row · _) (fun p hp d => hdraw p d _ ?_) _⟩
      have hbelow := List.le_snd_of_mem_zipIdx hp
      omega
    | succ index =>
      obtain ⟨d, hsame, hdrawn⟩ := ih hx (start + 1) (draw c (first, start))
      have hline : start + 1 + index = start + (index + 1) := by omega
      have hother : top + (start + (index + 1)) ≠ top + start := by omega
      rw [hline] at hsame hdrawn
      exact ⟨d, hsame.trans (hdraw (first, start) c _ hother), hdrawn⟩

/-- **Every line of an area has the row that is drawn there**, as if it were the only one. -/
theorem row_placeRows (alignment : Alignment) (a : Area) {rows : List (List Glyph)}
    {row : List Glyph} {index : Nat} (hrow : rows[index]? = some row) (hfits : index < a.height)
    (c : Canvas) :
    (placeRows alignment a rows c).row (a.top + index) =
      (placeGlyphs (a.top + index) (a.left + alignment.offset a.width (Glyph.total row)) row
        c).row (a.top + index) := by
  have htake : (rows.take a.height)[index]? = some row := by
    rw [List.getElem?_take, if_pos hfits, hrow]
  have hother : ∀ (p : List Glyph × Nat) (d : Canvas), ∀ line ≠ a.top + p.2,
      (placeGlyphs (a.top + p.2) (a.left + alignment.offset a.width (Glyph.total p.1)) p.1 d).row
        line = d.row line := fun _ d _ hne => row_placeGlyphs_of_ne hne _ _ d
  obtain ⟨d, hsame, hdrawn⟩ := exists_row_foldl_zipIdx hother htake 0 c
  rw [Nat.zero_add] at hsame hdrawn
  exact hdrawn.trans (row_placeGlyphs_congr hsame _ _)

end Canvas
end QueryConsole
