/-
# Cells of result tables

A table of an answer has one header and, in every line, one cell for each of its columns.  So every
index of a row and every index of a column together name a cell.
-/

import QueryConsole.Results.Table

namespace QueryConsole
namespace ResultTable

/-- Headers and lines of cells are as long as the list of columns. -/
structure WellFormed (t : ResultTable) : Prop where
  headers : t.headers.length = t.columns.length
  rows : ∀ row ∈ t.rows, row.length = t.columns.length

/-- The table of the rows of an answer is well-formed. -/
theorem wellFormed_ofRows (phrases : Phrases) (rows : List Row) :
    (ofRows phrases rows).WellFormed := by
  cases rows with
  | nil => exact ⟨rfl, fun _ h => absurd h List.not_mem_nil⟩
  | cons first rest =>
    refine ⟨List.length_map .., fun row h => ?_⟩
    obtain ⟨source, _, rfl⟩ := List.mem_map.1 h
    exact List.length_map ..

/-- **Every index of a row and of a column names a cell.** -/
theorem WellFormed.exists_cellText {t : ResultTable} (h : t.WellFormed) {row column : Nat}
    (hrow : row < t.rowCount) (hcolumn : column < t.columns.length) :
    ∃ text, t.cellText? row column = some text := by
  obtain ⟨cells, hcells⟩ : ∃ cells, t.rows[row]? = some cells :=
    ⟨_, List.getElem?_eq_getElem hrow⟩
  have hlength := h.rows cells (List.mem_of_getElem? hcells)
  rw [cellText?, hcells, Option.bind_some, List.getElem?_eq_getElem (hlength ▸ hcolumn)]
  exact ⟨_, rfl⟩

end ResultTable
end QueryConsole
