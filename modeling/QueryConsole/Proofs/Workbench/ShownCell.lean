/-
# The selected cell is shown

A results panel shows a window of rows and a window of columns of its table.

| window | starts at | holds |
| --- | --- | --- |
| rows | the selected row less the rows above it that fit | as many as the height has room for |
| columns | `columnScroll`, which drawing moves | as many as the width has room for |

Both windows have the selected cell in them after drawing, at any size of the panel (`ShowsCell`), and
the columns of a row are those of the header.  The grid that is drawn is made of these windows
(`drawTable_eq`), so every cell that they show stands on the canvas, below the name of its column
(`ShowsCell.drawsCell`); in the active panel the selected one is drawn as selected.

Drawing moves the window of columns no further than it has to, so drawing again at the same size
changes nothing (`fitColumns_fitColumns`, `draw_draw`).  In a run all this holds whatever keys were
pressed and whatever sizes were drawn before (`selected_cell_drawn`).
-/

import QueryConsole.Proofs.Screen.GridCells
import QueryConsole.Proofs.Workbench.Checked
import QueryConsole.Proofs.Workbench.StatusBar

namespace QueryConsole
namespace Workbench

variable {α : Type} {phrases : Phrases} {b : Workbench} {t : ResultTable} {v : ResultView} {a : Area}
  {c : Canvas} {row column : Nat}

/-! ## Windows -/

theorem getElem?_window (xs : List α) (first count i : Nat) :
    (window xs first count)[i]? =
      if i < count then xs[first + i]?.map fun x => (x, first + i) else none := by
  rw [window, List.getElem?_take, List.getElem?_drop, List.getElem?_zipIdx]
  simp only [Nat.zero_add]

/-- **A window holds the elements at its indexes.** -/
theorem mem_window_iff {xs : List α} {first count index : Nat} {x : α} :
    (x, index) ∈ window xs first count ↔
      xs[index]? = some x ∧ first ≤ index ∧ index < first + count := by
  rw [List.mem_iff_getElem?]
  constructor
  · rintro ⟨i, hi⟩
    rw [getElem?_window] at hi
    split at hi
    · rename_i hlt
      obtain ⟨y, hy, hpair⟩ := Option.map_eq_some_iff.mp hi
      obtain ⟨rfl, rfl⟩ := Prod.mk.inj hpair
      exact ⟨hy, by omega, by omega⟩
    · cases hi
  · rintro ⟨hx, hfirst, hlt⟩
    refine ⟨index - first, ?_⟩
    rw [getElem?_window, if_pos (by omega), Nat.add_sub_cancel' hfirst, hx, Option.map_some]

/-- The indexes in a window depend on the length of the list only. -/
theorem map_snd_window_congr {β : Type} {xs : List α} {ys : List β} (h : xs.length = ys.length)
    (first count : Nat) :
    (window xs first count).map Prod.snd = (window ys first count).map Prod.snd := by
  rw [window, window, List.map_take, List.map_take, List.map_drop, List.map_drop,
    List.zipIdx_map_snd, List.zipIdx_map_snd, h]

/-! ## The windows of the results panel -/

/-- The selected row is in the window of rows. -/
theorem firstRow_le_and_lt (b : Workbench) (height : Nat) :
    b.firstRow height ≤ b.row ∧ b.row < b.firstRow height + rowsThatFit height := by
  have hroom : 0 < rowsThatFit height := Nat.lt_of_lt_of_le Nat.one_pos (Nat.le_max_right ..)
  unfold firstRow
  omega

theorem columnsThatFit_pos (width : Nat) : 0 < columnsThatFit width :=
  Nat.lt_of_lt_of_le Nat.one_pos (Nat.le_max_right ..)

/-- The selected column is in the window of columns that drawing leaves. -/
theorem columnScroll_fitColumns_le_and_lt (b : Workbench) (width : Nat) :
    (b.fitColumns width).columnScroll ≤ b.column ∧
      b.column < (b.fitColumns width).columnScroll + columnsThatFit width := by
  have hroom := columnsThatFit_pos width
  unfold fitColumns
  dsimp only
  split
  · omega
  · split
    · omega
    · omega

/-- A window of columns that fits and has the selected column in it stays where it is. -/
theorem fitColumns_eq_self {width : Nat} (hvisible : b.columnsVisible = columnsThatFit width)
    (hle : b.columnScroll ≤ b.column)
    (hlt : b.column < b.columnScroll + columnsThatFit width) : b.fitColumns width = b := by
  rw [fitColumns, ← hvisible]
  rw [← hvisible] at hlt
  simp only [if_neg (Nat.not_lt.mpr hle), if_neg (Nat.not_le.mpr hlt)]

/-- **Drawing the panel again at the same width moves nothing.** -/
theorem fitColumns_fitColumns (b : Workbench) (width : Nat) :
    (b.fitColumns width).fitColumns width = b.fitColumns width := by
  obtain ⟨hle, hlt⟩ := columnScroll_fitColumns_le_and_lt b width
  exact fitColumns_eq_self rfl hle hlt

theorem fitTo_fitTo (b : Workbench) (screen : Area) :
    (b.fitTo screen).fitTo screen = b.fitTo screen := by
  unfold fitTo
  by_cases hresults : b.results?.isSome = true
  · -- moving the window of columns leaves the answer and the places of the panels
    rw [if_pos hresults]
    exact (if_pos hresults).trans (fitColumns_fitColumns b _)
  · rw [if_neg hresults, if_neg hresults]

/-- **Drawing a frame again at the same size** gives the same frame and changes nothing. -/
theorem draw_draw (phrases : Phrases) (width height : Nat) (b : Workbench) :
    (b.draw phrases width height).1.draw phrases width height = b.draw phrases width height := by
  have hfit := fitTo_fitTo b ⟨0, 0, width, height⟩
  have hfirst : (b.draw phrases width height).1 = b.fitTo ⟨0, 0, width, height⟩ := rfl
  rw [hfirst, draw, hfit]
  rfl

/-! ## The selected cell -/

/-- A panel in an area shows a cell of a table: the row of the cell is among the rows that are shown,
and the column is among those that are shown of that row and of the headers. -/
def ShowsCell (b : Workbench) (t : ResultTable) (a : Area) (row column : Nat) : Prop :=
  ∃ cells cell name,
    t.rows[row]? = some cells ∧ cells[column]? = some cell ∧ t.headers[column]? = some name ∧
    (cells, row) ∈ b.shownRows a.height t.rows ∧ (cell, column) ∈ b.shownColumns a.width cells ∧
    (name, column) ∈ b.shownColumns a.width t.headers

/-- A panel that was drawn shows the selected cell, if there is one. -/
theorem showsCell_fitColumns (ht : t.WellFormed) (a : Area) (hrow : b.row < t.rowCount)
    (hcolumn : b.column < t.columns.length) :
    (b.fitColumns a.width).ShowsCell t a b.row b.column := by
  obtain ⟨hle, hlt⟩ := columnScroll_fitColumns_le_and_lt b a.width
  obtain ⟨hfirst, hlast⟩ := (b.fitColumns a.width).firstRow_le_and_lt a.height
  have hcells : t.rows[b.row]? = some t.rows[b.row] := List.getElem?_eq_getElem hrow
  have hlength : t.rows[b.row].length = t.columns.length :=
    ht.rows _ (List.mem_of_getElem? hcells)
  have hcell := List.getElem?_eq_getElem (hlength ▸ hcolumn)
  have hname := List.getElem?_eq_getElem (ht.headers ▸ hcolumn)
  exact ⟨_, _, _, hcells, hcell, hname, mem_window_iff.mpr ⟨hcells, hfirst, hlast⟩,
    mem_window_iff.mpr ⟨hcell, hle, hlt⟩, mem_window_iff.mpr ⟨hname, hle, hlt⟩⟩

/-- **In the active panel the selected cell stands out:** it is drawn as selected, and so is the header
of its column. -/
theorem style_selected (hpanel : b.panel = .results) (name : String) (cell : Option Cell) :
    (b.headerCell name b.column).style = .selected ∧
      (b.dataCell cell b.row b.column).style = .selected := by
  refine ⟨if_pos ⟨hpanel, rfl⟩, ?_⟩
  simp [dataCell, hpanel]

/-! ## Drawing -/

/-- **A table with rows is drawn as a grid of the rows and columns that are shown**, in a border, with a
scroll bar where there are more rows than fit. -/
theorem drawTable_eq (hrows : 0 < t.rowCount) :
    b.drawTable phrases t a c =
      let grid := (c.drawBorder a (b.tableBorder phrases t)).drawGrid a.inner (b.tableColumns t a)
        (b.headerCells t.headers a.width)
        ((b.shownRows a.height t.rows).map fun (cells, row) =>
          b.rowCells (numberWidth t.rowCount) a.width cells row)
      if rowsThatFit a.height < t.rowCount then
        grid.drawScrollbar ⟨a.left, a.top + 1, a.width, a.height - 2⟩ t.rowCount b.row
      else grid := by
  cases hbody : t.body with
  | placeholder text span =>
    rw [ResultTable.rowCount, ResultTable.rows, hbody] at hrows
    cases hrows
  | rows rows =>
    have hlength : rows.length = t.rowCount := by rw [ResultTable.rowCount, ResultTable.rows, hbody]
    rw [drawTable, hbody]
    dsimp only
    rw [hlength]
    rfl

/-- **An answer is drawn as its figures above its table**, which is as wide as the panel. -/
theorem drawResults_eq (hview : b.console.view = .results v) :
    b.drawResults phrases a c =
      b.drawTable phrases v.table (a.splitTop (Share.giveWay a.height 4 3)).2
        (drawMetadata phrases v (a.splitTop (Share.giveWay a.height 4 3)).1 c) := by
  rw [drawResults, hview]

/-- A panel that is drawn on a canvas has a cell of a table on it.  The column of the cell has a place
in the grid.  There the name of the column stands on the first line in the panel, and the cell on the
line of its row, each as far as the place is wide.  A panel with a height of three rows has a line for
the names, and each row more makes one for a row of the table. -/
def DrawsCell (phrases : Phrases) (b : Workbench) (t : ResultTable) (a : Area) (c : Canvas)
    (row column : Nat) : Prop :=
  ∃ cells cell name place,
    t.rows[row]? = some cells ∧ cells[column]? = some cell ∧ t.headers[column]? = some name ∧
    (b.tableColumns t a)[column - b.columnScroll + 1]? = some place ∧
    (2 < a.height →
      ∃ under, Canvas.GlyphsOver under ((b.drawTable phrases t a c).row a.inner.top)
        (a.inner.left + place.left) ((b.headerCell name column).glyphs place.width)) ∧
    (3 < a.height →
      ∃ under, Canvas.GlyphsOver under
        ((b.drawTable phrases t a c).row (a.inner.top + (row - b.firstRow a.height + 1)))
        (a.inner.left + place.left) ((b.dataCell cell row column).glyphs place.width))

/-- What stands in the grid of a table stays where the scroll bar is drawn.  In a panel without room
inside no place of the grid has a column. -/
theorem exists_glyphsOver_drawTable (hrows : 0 < t.rowCount) (hheight : 2 < a.height)
    {place : Grid.Column} (hplace : place ∈ b.tableColumns t a) {cell : GridCell} {line : Nat}
    (h : a.inner.isEmpty = false →
      ∃ under, Canvas.GlyphsOver under ((b.drawShown phrases t a c).row line)
        (a.inner.left + place.left) (cell.glyphs place.width)) :
    ∃ under, Canvas.GlyphsOver under ((b.drawTable phrases t a c).row line)
      (a.inner.left + place.left) (cell.glyphs place.width) := by
  have htotal := cell.total_glyphs_le place.width
  obtain hempty | hwidth := Nat.eq_zero_or_pos place.width
  · exact ⟨[], Canvas.glyphsOver_of_total_eq_zero (by omega)⟩
  · have hwithin := Grid.column_within hplace hwidth
    obtain ⟨under, hunder⟩ := h (Area.isEmpty_eq_false_iff.mpr ⟨by omega, Nat.sub_pos_of_lt hheight⟩)
    refine ⟨under, ?_⟩
    rw [drawTable_eq hrows]
    dsimp only
    split
    · refine hunder.congr (fun _ _ _ => rfl) fun i hle hlt => ?_
      refine Canvas.getElem?_row_drawScrollbar_of_ne ?_ ..
      simp only [Area.inner, Area.right] at hle hlt hwithin ⊢
      omega
    · exact hunder

/-- **Every cell that is shown is drawn**, below the name of its column. -/
theorem ShowsCell.drawsCell (h : b.ShowsCell t a row column) (phrases : Phrases) (c : Canvas) :
    b.DrawsCell phrases t a c row column := by
  obtain ⟨cells, cell, name, hcells, hcell, hname, hrowShown, hcellShown, hnameShown⟩ := h
  obtain ⟨-, hfirst, hlast⟩ := mem_window_iff.mp hrowShown
  obtain ⟨-, hleft, hright⟩ := mem_window_iff.mp hnameShown
  have hrows : 0 < t.rowCount := by
    rw [ResultTable.rowCount]
    exact Nat.zero_lt_of_lt (List.getElem?_eq_some_iff.mp hcells).1
  have hwindow {β : Type} {xs : List β} {x : β} (hx : xs[column]? = some x) :
      (b.shownColumns a.width xs)[column - b.columnScroll]? = some (x, column) := by
    rw [shownColumns, getElem?_window, if_pos (by omega), Nat.add_sub_cancel' hleft, hx,
      Option.map_some]
  have hline : (b.shownRows a.height t.rows)[row - b.firstRow a.height]? = some (cells, row) := by
    rw [shownRows, getElem?_window, if_pos (by omega), Nat.add_sub_cancel' hfirst, hcells,
      Option.map_some]
  have hlength : column - b.columnScroll + 1 < (b.tableColumns t a).length := by
    have hlt := (List.getElem?_eq_some_iff.mp (hwindow hname)).1
    rw [tableColumns, Grid.length_columns]
    omega
  have hplace := List.getElem?_eq_getElem hlength
  have hmem := List.getElem_mem hlength
  refine ⟨cells, cell, name, _, hcells, hcell, hname, hplace, fun hheight => ?_, fun hheight => ?_⟩
  · refine exists_glyphsOver_drawTable hrows hheight hmem fun hinside => ?_
    refine Canvas.exists_glyphsOver_drawGrid_header hinside (Grid.pairwise_columns ..) hplace ?_ _
    rw [headerCells, List.getElem?_cons_succ, List.getElem?_map, hwindow hname, Option.map_some]
  · refine exists_glyphsOver_drawTable hrows (by omega) hmem fun hinside => ?_
    have hcellLine : ((b.shownRows a.height t.rows).map fun (cells, row) =>
        b.rowCells (numberWidth t.rowCount) a.width cells row)[row - b.firstRow a.height]? =
          some (b.rowCells (numberWidth t.rowCount) a.width cells row) := by
      rw [List.getElem?_map, hline, Option.map_some]
    refine Canvas.exists_glyphsOver_drawGrid_row hinside (Grid.pairwise_columns ..) hplace hcellLine
      ?_ ?_ _
    · rw [rowCells, List.getElem?_cons_succ, List.getElem?_map, hwindow hcell, Option.map_some]
    · have hfits : a.inner.height = a.height - 2 := rfl
      rw [rowsThatFit] at hlast
      omega

/-- **The selected cell is always drawn.**  After every run that leads to an answer with a cell, and in
a panel of every size, the selected cell is among the rows and columns that are shown, the headers are
cut out of the table without leaving it, and they are those of the columns of every row.  Drawing
changes only the window of columns; drawing the panel or a whole frame again at the same size changes
nothing.

What is drawn of the table is the grid of these rows and columns, so the selected cell stands on the
line of its row, below the name of its column.  While the panel is active both are in the style of the
selection.  In a frame of the screen the table is drawn in the part of the panel below the figures. -/
theorem selected_cell_drawn (phrases : Phrases) (database : String) (single : Bool)
    (suggestions : List String) (endpoint : String) (moves : List Move) {v : ResultView}
    (hview : ((start database single suggestions endpoint).after phrases moves).console.view =
      .results v)
    (hrows : 0 < v.table.rowCount) (hcolumns : 0 < v.table.columns.length) (a : Area) :
    let b := (start database single suggestions endpoint).after phrases moves
    let drawn := b.fitColumns a.width
    drawn.ShowsCell v.table a b.row b.column ∧
      ResultTable.Checked.cut v.table drawn.columnScroll (columnsThatFit a.width) =
        some (drawn.shownColumns a.width v.table.headers,
          v.table.rows.map (drawn.shownColumns a.width)) ∧
      (∀ cells ∈ v.table.rows, (drawn.shownColumns a.width cells).map Prod.snd =
        (drawn.shownColumns a.width v.table.headers).map Prod.snd) ∧
      drawn = { b with
        columnsVisible := drawn.columnsVisible, columnScroll := drawn.columnScroll } ∧
      drawn.fitColumns a.width = drawn ∧
      (∀ c,
        (drawn.drawTable phrases v.table a c =
          let grid := (c.drawBorder a (drawn.tableBorder phrases v.table)).drawGrid a.inner
            (drawn.tableColumns v.table a) (drawn.headerCells v.table.headers a.width)
            ((drawn.shownRows a.height v.table.rows).map fun (cells, row) =>
              drawn.rowCells (numberWidth v.table.rowCount) a.width cells row)
          if rowsThatFit a.height < v.table.rowCount then
            grid.drawScrollbar ⟨a.left, a.top + 1, a.width, a.height - 2⟩ v.table.rowCount b.row
          else grid) ∧
        drawn.DrawsCell phrases v.table a c b.row b.column) ∧
      (b.panel = .results → ∀ name cell,
        (drawn.headerCell name b.column).style = .selected ∧
        (drawn.dataCell cell b.row b.column).style = .selected) ∧
      ∀ width height,
        let panel := (b.layout ⟨0, 0, width, height⟩).results
        let table := (panel.splitTop (Share.giveWay panel.height 4 3)).2
        (b.draw phrases width height).1 = b.fitColumns panel.width ∧
        (b.draw phrases width height).1.draw phrases width height = b.draw phrases width height ∧
        table.width = panel.width ∧
        ∀ c, (b.draw phrases width height).1.drawResults phrases panel c =
          (b.fitColumns table.width).drawTable phrases v.table table
            (drawMetadata phrases v (panel.splitTop (Share.giveWay panel.height 4 3)).1 c) := by
  intro b drawn
  have hvalid : b.SelectionsValid :=
    selectionsValid_after phrases database single suggestions endpoint moves
  have hresults : b.results? = some v := by rw [results?, hview, QueryView.results?]
  have hcell := hvalid.results v hresults
  have hrow := hcell.row_le
  have hcolumn := hcell.column_le
  have hshows : drawn.ShowsCell v.table a b.row b.column :=
    showsCell_fitColumns hcell.wellFormed a (by omega) (by omega)
  refine ⟨hshows, ResultTable.Checked.cut_eq hcell.wellFormed _ _, fun cells hmem => ?_, rfl,
    fitColumns_fitColumns b a.width, fun c => ⟨drawTable_eq hrows, hshows.drawsCell phrases c⟩,
    fun hpanel => style_selected (b := drawn) hpanel, fun width height => ?_⟩
  · have hlength : cells.length = v.table.headers.length :=
      (hcell.wellFormed.rows cells hmem).trans hcell.wellFormed.headers.symm
    exact map_snd_window_congr hlength _ _
  · have hfit : (b.draw phrases width height).1 =
        b.fitColumns (b.layout ⟨0, 0, width, height⟩).results.width :=
      if_pos (by rw [hresults]; rfl)
    refine ⟨hfit, draw_draw phrases width height b, rfl, fun c => ?_⟩
    rw [hfit]
    exact drawResults_eq hview

/-- An answer with three columns. -/
def threeColumns : QuerySuccess :=
  ⟨none, none, ⟨0⟩, ⟨0⟩, none, [⟨[("a", .int 1), ("b", .int 2), ("c", .int 3)]⟩]⟩

/-- A run to the last column of an answer, in a panel that has room for two. -/
def toLastColumn : List Move :=
  [.act (.applySuggestion "show orders"), .act (.querySettled 1 (.ok (.success threeColumns))),
    .draw 100 30, .event willing (.key ⟨.tab, .none⟩), .event willing (.key ⟨.right, .none⟩),
    .event willing (.key ⟨.right, .none⟩)]

/-- The last column stays in the window, and is drawn, when the panel has room for one column only. -/
theorem last_column_in_narrow_panel :
    ((start "sales" false [] "http://localhost").after .english toLastColumn).console.view =
        .results (.ofSuccess .english threeColumns) ∧
      ((start "sales" false [] "http://localhost").after .english toLastColumn).columnScroll = 1 ∧
      columnsThatFit 40 = 1 ∧
      (((start "sales" false [] "http://localhost").after .english toLastColumn).fitColumns
        40).ShowsCell (.ofRows .english threeColumns.results) ⟨0, 0, 40, 10⟩ 0 2 ∧
      (((start "sales" false [] "http://localhost").after .english toLastColumn).fitColumns
        40).DrawsCell .english (.ofRows .english threeColumns.results) ⟨0, 0, 40, 10⟩ (.blank 40 10)
          0 2 := by
  have hview : ((start "sales" false [] "http://localhost").after .english
      toLastColumn).console.view = .results (.ofSuccess .english threeColumns) := by
    decide +kernel
  obtain ⟨hshows, -, -, -, -, hdrawn, -⟩ := selected_cell_drawn .english "sales" false []
    "http://localhost" toLastColumn hview (by decide +kernel) (by decide +kernel) ⟨0, 0, 40, 10⟩
  exact ⟨hview, by decide +kernel, rfl, hshows, (hdrawn (.blank 40 10)).2⟩

end Workbench
end QueryConsole
