/-
# Selections stay in range

The workbench selects a tree line, a suggestion and, while an answer is shown, a cell of its table
with a window of columns around it.  Keys, the mouse wheel and drawing move the selections, and calls
that settle replace the lists that they point into.  `SelectionsValid` says that they are in range,
and `selectionsValid_after` that they are so in every run.

An answer replaces another one only by way of a question that is waited for, and its arrival resets
the selected cell; that is why the cell never points into an earlier table.
-/

import QueryConsole.Proofs.Console.Transition
import QueryConsole.Proofs.Results.Table
import QueryConsole.Proofs.Workbench.Run

namespace QueryConsole

variable {phrases : Phrases}

/-- A selected cell of a table, and a window of columns with the cell in it. -/
structure ResultTable.Selects (t : ResultTable) (row column scroll visible : Nat) : Prop where
  wellFormed : t.WellFormed
  row_le : row ≤ t.rowCount - 1
  column_le : column ≤ t.columns.length - 1
  scroll_le : scroll ≤ column
  column_lt : column < scroll + max 1 visible

namespace ResultTable.Selects

variable {t : ResultTable} {row column scroll visible : Nat}

/-- The first cell may be selected in every table. -/
theorem first (h : t.WellFormed) (visible : Nat) : t.Selects 0 0 0 visible :=
  ⟨h, Nat.zero_le _, Nat.zero_le _, Nat.le_refl 0, by omega⟩

/-- The selected cell exists where there are cells. -/
theorem exists_cellText (h : t.Selects row column scroll visible) (hrows : 0 < t.rowCount)
    (hcolumns : 0 < t.columns.length) : ∃ text, t.cellText? row column = some text := by
  have hrow := h.row_le
  have hcolumn := h.column_le
  exact h.wellFormed.exists_cellText (by omega) (by omega)

/-- Another row may be selected instead. -/
theorem withRow (h : t.Selects row column scroll visible) {row' : Nat}
    (hrow : row' ≤ t.rowCount - 1) : t.Selects row' column scroll visible :=
  { h with row_le := hrow }

/-- One column to the left, with the window moved where the column is left of it. -/
theorem left (h : t.Selects row column scroll visible) :
    t.Selects row (column - 1) (if column - 1 < scroll then column - 1 else scroll) visible := by
  obtain ⟨hwf, hrow, hcolumn, hscroll, hlt⟩ := h
  refine ⟨hwf, hrow, by omega, ?_, ?_⟩ <;> split <;> omega

/-- To a column that is not left of the selected one, with the window moved where the column is right
of it. -/
theorem right (h : t.Selects row column scroll visible) {column' : Nat} (hle : column ≤ column')
    (hcolumn : column' ≤ t.columns.length - 1) :
    t.Selects row column'
      (if scroll + max visible 1 ≤ column' then column' + 1 - max visible 1 else scroll)
      visible := by
  obtain ⟨hwf, hrow, _, hscroll, hlt⟩ := h
  refine ⟨hwf, hrow, hcolumn, ?_, ?_⟩ <;> split <;> omega

/-- A window of another width, moved so far that the column is in it. -/
theorem fit (h : t.Selects row column scroll visible) {width : Nat} (hwidth : 0 < width) :
    t.Selects row column
      (if column < scroll then column
        else if scroll + width ≤ column then column + 1 - width
        else scroll) width := by
  obtain ⟨hwf, hrow, hcolumn, hscroll, _⟩ := h
  refine ⟨hwf, hrow, hcolumn, ?_, ?_⟩ <;> split <;> try split
  all_goals omega

end ResultTable.Selects

/-! ## Answers -/

/-- A view of an answer waits for nothing. -/
theorem QueryView.isLoading_of_results? {view : QueryView} {v : ResultView}
    (h : view.results? = some v) : view.isLoading = false := by
  cases view with
  | loading => cases h
  | _ => rfl

/-- An answer that is shown after an action was shown before it, or was waited for. -/
theorem Console.Transition.results? {s t : Console} {action : Action} {effects : List Effect}
    (ht : s.Transition phrases action t effects) {v : ResultView}
    (hv : t.view.results? = some v) :
    s.view.results? = some v ∨
      s.view.isLoading = true ∧ ∃ answer, v = .ofSuccess phrases answer := by
  cases ht with
  | asked => cases hv
  | settled _ awaited result =>
    rcases result with e | answer | message
    · cases hv
    · exact .inr ⟨by rw [awaited]; rfl, answer, (Option.some.inj hv).symm⟩
    · cases hv
  | _ => exact .inl hv

namespace Workbench

/-- The selected tree line, suggestion and cell are in range, and the selected column is in the
window of columns. -/
structure SelectionsValid (b : Workbench) : Prop where
  treeLine : b.treeLine ≤ b.console.schema.lines.length - 1
  suggestion : b.suggestion ≤ b.suggestions.length - 1
  results : ∀ v, b.results? = some v →
    v.table.Selects b.row b.column b.columnScroll b.columnsVisible

theorem selectionsValid_start (database : String) (single : Bool) (suggestions : List String)
    (endpoint : String) : (start database single suggestions endpoint).SelectionsValid :=
  ⟨Nat.zero_le _, Nat.zero_le _, fun _ hv => nomatch hv⟩

namespace SelectionsValid

variable {b : Workbench}

/-- Another tree line of the same tree may be selected. -/
theorem withTreeLine (h : b.SelectionsValid) {line : Nat}
    (hline : line ≤ b.console.schema.lines.length - 1) :
    SelectionsValid { b with treeLine := line } :=
  ⟨hline, h.suggestion, h.results⟩

/-- Another suggestion may be selected. -/
theorem withSuggestion (h : b.SelectionsValid) {index : Nat}
    (hindex : index ≤ b.suggestions.length - 1) :
    SelectionsValid { b with suggestion := index } :=
  ⟨h.treeLine, hindex, h.results⟩

/-- Another cell of the table may be selected, in another window. -/
theorem withCell (h : b.SelectionsValid) {row column scroll visible : Nat}
    (hcell : ∀ v, b.results? = some v → v.table.Selects row column scroll visible) :
    SelectionsValid { b with row, column, columnScroll := scroll, columnsVisible := visible } :=
  ⟨h.treeLine, h.suggestion, hcell⟩

/-- The active panel does not matter. -/
theorem withPanel (h : b.SelectionsValid) (panel : Panel) : SelectionsValid { b with panel } :=
  ⟨h.treeLine, h.suggestion, h.results⟩

/-- The texts in the status bar do not matter. -/
theorem withStatus (h : b.SelectionsValid) (message error : Option String) :
    SelectionsValid { b with message, error } :=
  ⟨h.treeLine, h.suggestion, h.results⟩

/-- What the box holds does not matter. -/
theorem withInput (h : b.SelectionsValid) (input : Editor) :
    SelectionsValid { b with console := { b.console with input } } :=
  ⟨h.treeLine, h.suggestion, h.results⟩

/-! ## Actions -/

/-- A change of the console by an action keeps the selections in range. -/
theorem settle (h : b.SelectionsValid) {t : Console} {action : Action} {effects : List Effect}
    (ht : b.console.Transition phrases action t effects) : (b.settle t).SelectionsValid := by
  rw [settle_eq]
  refine ⟨Nat.min_le_right .., h.suggestion, fun v hv => ?_⟩
  have hview : t.view.results? = some v := hv
  rcases ht.results? hview with hold | ⟨hloading, answer, rfl⟩
  -- an answer that was shown before waited for nothing, so the cell is not reset
  · simp only [QueryView.isLoading_of_results? hold, Bool.and_false]
    exact h.results v hold
  · simp only [hview, hloading, Option.isSome_some, Bool.and_true, if_true]
    exact .first (ResultTable.wellFormed_ofRows phrases _) _

/-- An action of the console keeps the selections in range. -/
theorem dispatch (h : b.SelectionsValid) (action : Action) :
    (b.dispatch phrases action).bench.SelectionsValid :=
  h.settle (Console.reduce_transition phrases b.console action)

theorem submit (h : b.SelectionsValid) : (b.submit phrases).bench.SelectionsValid :=
  (h.withStatus none none).dispatch .submit

/-- A suggestion that is submitted is selected. -/
theorem applySuggestion (h : b.SelectionsValid) (index : Nat) :
    (b.applySuggestion phrases index).bench.SelectionsValid := by
  unfold Workbench.applySuggestion
  split
  · rename_i text htext
    obtain ⟨hlt, -⟩ := List.getElem?_eq_some_iff.1 htext
    have hselected := (h.withStatus none none).withSuggestion (Nat.le_sub_one_of_lt hlt)
    exact (hselected.withPanel .question).dispatch (.applySuggestion text)
  · exact h

/-! ## Commands -/

theorem runQuestion (h : b.SelectionsValid) (command : Editor.Command) :
    (b.runQuestion phrases command).bench.SelectionsValid := by
  cases command with
  | submit => exact h.submit
  | _ => exact h.withInput _

/-- Expanding or collapsing a table keeps the tree line on the table or inside the tree. -/
theorem toggleTable (h : b.SelectionsValid) : (b.toggleTable phrases).bench.SelectionsValid := by
  unfold Workbench.toggleTable
  split
  · exact h
  · rename_i table _
    have hstep : (b.dispatch phrases (.toggleTable table)).bench.SelectionsValid := h.dispatch _
    dsimp only
    split
    · rename_i line t hline _
      have hlt := (List.findIdx?_eq_some_iff_findIdx_eq.1 hline).1
      split
      · exact hstep
      · exact hstep.withTreeLine (Nat.le_sub_one_of_lt hlt)
    · exact hstep

theorem selectDatabase (h : b.SelectionsValid) (index : Option Nat) :
    (b.selectDatabase phrases index).bench.SelectionsValid := by
  unfold Workbench.selectDatabase
  split
  · rename_i index
    exact (h.withTreeLine (Nat.zero_le _)).dispatch (.selectDatabase index)
  · exact h

theorem runSchema (h : b.SelectionsValid) (command : SchemaCommand) :
    (b.runSchema phrases command).bench.SelectionsValid := by
  have hline := h.treeLine
  cases command with
  | up => exact h.withTreeLine (by omega)
  | down =>
    rw [Workbench.runSchema]
    split
    · exact h.withTreeLine (by omega)
    · exact h
  | toggle => exact h.toggleTable
  | nextDatabase => exact h.selectDatabase _
  | previousDatabase => exact h.selectDatabase _
  | refresh =>
    rw [Workbench.runSchema]
    exact (h.withTreeLine (Nat.zero_le _)).dispatch .refreshSchema

theorem runSuggestions (h : b.SelectionsValid) (command : SuggestionsCommand) :
    (b.runSuggestions phrases command).bench.SelectionsValid := by
  have hindex := h.suggestion
  cases command with
  | up => exact h.withSuggestion (by omega)
  | down =>
    rw [Workbench.runSuggestions]
    split
    · exact h.withSuggestion (by omega)
    · exact h
  | apply => exact h.applySuggestion _

theorem copy (h : b.SelectionsValid) (outside : Outside) (copied : String) :
    (b.copy phrases outside copied).SelectionsValid := by
  unfold Workbench.copy
  split
  · exact h.withStatus _ _
  · exact h.withStatus _ _

theorem copyCell (h : b.SelectionsValid) (outside : Outside) :
    (b.copyCell phrases outside).SelectionsValid := by
  unfold Workbench.copyCell
  split
  · exact h.copy outside _
  · exact h

theorem copyQuery (h : b.SelectionsValid) (outside : Outside) :
    (b.copyQuery phrases outside).SelectionsValid := by
  unfold Workbench.copyQuery
  split
  · exact h.copy outside _
  · exact h.withStatus _ _

theorem exportTable (h : b.SelectionsValid) (outside : Outside) (format : ExportFormat) :
    (b.exportTable phrases outside format).bench.SelectionsValid := by
  unfold Workbench.exportTable
  split
  · exact h.withStatus _ _
  · split
    · exact h.withStatus _ _
    · exact h.withStatus _ _

theorem columnLeft (h : b.SelectionsValid) : b.columnLeft.SelectionsValid :=
  h.withCell fun v hv => (h.results v hv).left

theorem columnRight (h : b.SelectionsValid) {v : ResultView} (hv : b.results? = some v) :
    (b.columnRight v.table.columns.length).SelectionsValid := by
  refine h.withCell fun w hw => ?_
  obtain rfl : w = v := Option.some.inj (hw.symm.trans hv)
  have hcolumn := (h.results w hv).column_le
  apply (h.results w hv).right <;> split <;> omega

/-- A command in the results panel keeps the cell in its table and the column in its window. -/
theorem runResults (h : b.SelectionsValid) (outside : Outside) (command : ResultsCommand) :
    (b.runResults phrases outside command).SelectionsValid := by
  unfold Workbench.runResults
  split
  · exact h
  · rename_i v hv
    have hrow {row : Nat} (hle : row ≤ v.table.rowCount - 1) : SelectionsValid { b with row } :=
      h.withCell fun w hw => (h.results w hw).withRow (by rwa [Option.some.inj (hw.symm.trans hv)])
    have hle := (h.results v hv).row_le
    cases command with
    | up | pageUp => exact hrow (by omega)
    | down =>
      rw [runOnAnswer]
      split
      · exact hrow (by omega)
      · exact h
    | pageDown => exact hrow (Nat.min_le_right ..)
    | left => exact h.columnLeft
    | right => exact h.columnRight hv
    | first => exact h.withCell fun w hw => .first (h.results w hw).wellFormed _
    | lastRow => exact hrow (Nat.le_refl _)
    | copyCell => exact h.copyCell outside

theorem run (h : b.SelectionsValid) (outside : Outside) (command : Command) :
    (b.run phrases outside command).bench.SelectionsValid := by
  cases command with
  | quit | toggleHelp | closeHelp => exact ⟨h.treeLine, h.suggestion, h.results⟩
  | nextPanel => exact h.withPanel _
  | submit => exact h.submit
  | refresh =>
    rw [Workbench.run]
    exact h.dispatch .refreshSchema
  | exportAs format => exact h.exportTable outside format
  | copyQuery => exact h.copyQuery outside
  | suggestion digit => exact h.applySuggestion _
  | toQuestion => exact h.withPanel .question
  | question command => exact h.runQuestion command
  | results command => exact h.runResults outside command
  | schema command => exact h.runSchema command
  | suggestions command => exact h.runSuggestions command

theorem handleKey (h : b.SelectionsValid) (outside : Outside) (p : KeyPress) :
    (b.handleKey phrases outside p).bench.SelectionsValid := by
  unfold Workbench.handleKey
  split
  · exact h.run outside _
  · exact h

/-! ## The mouse wheel and frames -/

theorem scrollUp (h : b.SelectionsValid) (amount : Nat) : (b.scrollUp amount).SelectionsValid := by
  have hline := h.treeLine
  have hindex := h.suggestion
  unfold Workbench.scrollUp
  split
  · refine h.withCell fun v hv => (h.results v hv).withRow ?_
    exact (Nat.sub_le ..).trans (h.results v hv).row_le
  · exact h.withTreeLine (by omega)
  · exact h.withSuggestion (by omega)
  · exact h

theorem scrollDown (h : b.SelectionsValid) (amount : Nat) :
    (b.scrollDown amount).SelectionsValid := by
  unfold Workbench.scrollDown
  split
  · refine h.withCell fun v hv => (h.results v hv).withRow ?_
    rw [hv]
    exact Nat.min_le_right ..
  · exact h.withTreeLine (Nat.min_le_right ..)
  · exact h.withSuggestion (Nat.min_le_right ..)
  · exact h

theorem handleEvent (h : b.SelectionsValid) (outside : Outside) (e : Event) :
    (b.handleEvent phrases outside e).bench.SelectionsValid := by
  cases e with
  | key p => exact h.handleKey outside p
  | wheelUp => exact h.scrollUp wheelLines
  | wheelDown => exact h.scrollDown wheelLines
  | ignored => exact h

theorem spin (h : b.SelectionsValid) : b.spin.SelectionsValid := by
  unfold Workbench.spin
  split
  · exact ⟨h.treeLine, h.suggestion, h.results⟩
  · exact h

/-- A frame moves the window of columns to the selected column. -/
theorem fitTo (h : b.SelectionsValid) (screen : Area) : (b.fitTo screen).SelectionsValid := by
  unfold Workbench.fitTo
  split
  · exact h.withCell fun v hv => (h.results v hv).fit (Nat.le_max_right ..)
  · exact h

/-! ## Runs -/

/-- A move keeps the selections in range. -/
theorem advance (h : b.SelectionsValid) (m : Move) :
    (b.advance phrases m).bench.SelectionsValid := by
  cases m with
  | event outside e => exact h.handleEvent outside e
  | act action => exact h.dispatch action
  | spin => exact h.spin
  | draw width height => exact h.fitTo _

end SelectionsValid

/-- **The selections are in range in every run.** -/
theorem selectionsValid_after (phrases : Phrases) (database : String) (single : Bool)
    (suggestions : List String) (endpoint : String) (moves : List Move) :
    ((start database single suggestions endpoint).after phrases moves).SelectionsValid :=
  after_induction (selectionsValid_start database single suggestions endpoint)
    (fun _ m h => h.advance m) moves

end Workbench
end QueryConsole
