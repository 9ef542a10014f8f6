/-
# No step fails

The workbench subtracts and indexes when it handles a key or draws.  Where a difference of two numbers
or an element of a list does not exist, its functions go on with zero or leave out what they cannot
find.  Here the same steps are taken with differences and elements that have to exist: a step of
`Checked` is none as soon as one of them does not.  Differences that are cut off at zero on purpose,
and elements that are looked for on purpose, stay as they are.

A key press asks for the same command in both.  Only the commands that subtract or index without a test
are run anew: those of the question box, the arrows to the sides in the results panel, expanding and
collapsing, the next and the previous database, and a suggestion by its digit.
-/

import QueryConsole.Proofs.Console.Checked
import QueryConsole.Proofs.Console.Tree
import QueryConsole.Proofs.Workbench.Selection

namespace QueryConsole

/-! ## The window of columns -/

namespace ResultTable.Checked

/-- The part of a list between two indexes; they have to be in order and in range. -/
def slice {α : Type} (xs : List α) (start stop : Nat) : Option (List α) :=
  if start ≤ stop ∧ stop ≤ xs.length then some ((xs.take stop).drop start) else none

/-- The headers and the cells of every row in a window of columns, each with its index. -/
def cut (t : ResultTable) (scroll fit : Nat) :
    Option (List (String × Nat) × List (List (Option Cell × Nat))) := do
  let start := min scroll t.headers.length
  let stop := min (start + fit) t.headers.length
  let headers ← slice t.headers.zipIdx start stop
  let count ← stop.psub start
  return (headers, t.rows.map fun row => (row.zipIdx.drop start).take count)

/-- A window that is cut off at the end of a list shows the same part of it. -/
theorem window_eq {α : Type} (xs : List α) (scroll fit : Nat) :
    (xs.zipIdx.drop (min scroll xs.length)).take
        (min (min scroll xs.length + fit) xs.length - min scroll xs.length) =
      Workbench.window xs scroll fit := by
  have hlength : xs.zipIdx.length = xs.length := List.length_zipIdx
  have hdrop : xs.zipIdx.drop (min scroll xs.length) = xs.zipIdx.drop scroll := by
    rw [← hlength, ← List.drop_eq_drop_min]
  rw [Workbench.window, hdrop, List.take_eq_take_iff, List.length_drop, hlength]
  omega

/-- **The window of columns is cut out of the table.** -/
theorem cut_eq {t : ResultTable} (h : t.WellFormed) (scroll fit : Nat) :
    cut t scroll fit = some (Workbench.window t.headers scroll fit,
      t.rows.map (Workbench.window · scroll fit)) := by
  have hrow : ∀ row ∈ t.rows, (row.zipIdx.drop (min scroll t.headers.length)).take
      (min (min scroll t.headers.length + fit) t.headers.length - min scroll t.headers.length) =
        Workbench.window row scroll fit := by
    intro row hmem
    rw [h.headers, ← h.rows row hmem]
    exact window_eq row scroll fit
  have hrange : min scroll t.headers.length ≤
      min (min scroll t.headers.length + fit) t.headers.length := by
    omega
  have hstop : min (min scroll t.headers.length + fit) t.headers.length ≤
      t.headers.zipIdx.length := by
    rw [List.length_zipIdx]
    exact Nat.min_le_right ..
  rw [cut, slice, if_pos ⟨hrange, hstop⟩, Nat.psub_eq_sub hrange, List.drop_take, window_eq]
  exact congrArg (fun rows => some (_, rows)) (List.map_congr_left hrow)

end ResultTable.Checked

namespace Workbench.Checked

variable {phrases : Phrases}

def fitColumns (b : Workbench) (width : Nat) : Option Workbench :=
  let fit := columnsThatFit width
  let columnScroll :=
    if b.column < b.columnScroll then some b.column
    else if b.columnScroll + fit ≤ b.column then (b.column + 1).psub fit
    else some b.columnScroll
  columnScroll.map fun columnScroll => { b with columnsVisible := fit, columnScroll }

/-- The workbench after a frame is drawn: the window of columns is moved, then the table is cut. -/
def draw (width height : Nat) (b : Workbench) : Option Workbench :=
  match b.results? with
  | none => some b
  | some v => do
    let b ← fitColumns b (b.layout ⟨0, 0, width, height⟩).results.width
    let _ ← ResultTable.Checked.cut v.table b.columnScroll b.columnsVisible
    return b

theorem fitColumns_eq (b : Workbench) (width : Nat) :
    fitColumns b width = some (b.fitColumns width) := by
  unfold fitColumns Workbench.fitColumns
  dsimp only
  split
  · rfl
  · split
    · rw [Nat.psub_eq_sub (by omega), Option.map_some]
    · rfl

/-- **Drawing does not fail** while the table that is shown is well-formed. -/
theorem draw_eq (phrases : Phrases) {b : Workbench}
    (h : ∀ v, b.results? = some v → v.table.WellFormed) (width height : Nat) :
    draw width height b = some (b.draw phrases width height).1 := by
  have hdraw : (b.draw phrases width height).1 = b.fitTo ⟨0, 0, width, height⟩ := rfl
  rw [hdraw, draw, Workbench.fitTo]
  split
  · rename_i hnone
    rw [hnone]
    rfl
  · rename_i v hv
    rw [hv, Option.isSome_some, if_pos rfl, fitColumns_eq]
    simp only [Option.bind_eq_bind, Option.bind_some, ResultTable.Checked.cut_eq (h v hv)]
    rfl

/-! ## Commands -/

def runQuestion (phrases : Phrases) (b : Workbench) : Editor.Command → Option Step
  | .submit => some (b.submit phrases)
  | command =>
    (Editor.Checked.run b.console.input command).map fun input =>
      stay { b with console := { b.console with input } }

def columnLeft (b : Workbench) : Option Workbench :=
  (if 0 < b.column then b.column.psub 1 else some b.column).map fun column =>
    { b with column, columnScroll := if column < b.columnScroll then column else b.columnScroll }

def columnRight (columns : Nat) (b : Workbench) : Option Workbench :=
  let column := if b.column + 1 < columns then b.column + 1 else b.column
  let visible := max b.columnsVisible 1
  let columnScroll :=
    if b.columnScroll + visible ≤ column then (column + 1).psub visible else some b.columnScroll
  columnScroll.map fun columnScroll => { b with column, columnScroll }

def runResults (phrases : Phrases) (outside : Outside) (b : Workbench) (command : ResultsCommand) :
    Option Workbench :=
  match b.results?, command with
  | some _, .left => columnLeft b
  | some v, .right => columnRight v.table.columns.length b
  | _, command => some (b.runResults phrases outside command)

/-- Expands or collapses the table under the selected line; that table has to be in the tree. -/
def toggleTable (phrases : Phrases) (b : Workbench) : Option Step :=
  match b.console.schema.tableAtLine? b.treeLine with
  | none => some b.stay
  | some table =>
    let step := b.dispatch phrases (.toggleTable table)
    let schema := step.bench.console.schema
    match schema.lineOfTable? table with
    | none => some step
    | some line =>
      schema.tables[table]?.map fun t =>
        if t.expanded then step else { step with bench := { step.bench with treeLine := line } }

def runSchema (phrases : Phrases) (b : Workbench) : SchemaCommand → Option Step
  | .toggle => toggleTable phrases b
  | .nextDatabase =>
    (DatabaseSelector.Checked.next b.console.databases).map (b.selectDatabase phrases)
  | .previousDatabase =>
    (DatabaseSelector.Checked.previous b.console.databases).map (b.selectDatabase phrases)
  | command => some (b.runSchema phrases command)

def run (phrases : Phrases) (outside : Outside) (b : Workbench) : Command → Option Step
  | .suggestion digit => (digit.toNat.psub '1'.toNat).map (b.applySuggestion phrases)
  | .question command => runQuestion phrases b command
  | .results command => (runResults phrases outside b command).map stay
  | .schema command => runSchema phrases b command
  | command => some (b.run phrases outside command)

theorem runQuestion_eq (b : Workbench) (command : Editor.Command) :
    runQuestion phrases b command = some (b.runQuestion phrases command) := by
  cases command with
  | submit => rfl
  | _ => simp only [runQuestion, Workbench.runQuestion, Editor.Checked.run_eq, Option.map_some]

theorem columnLeft_eq (b : Workbench) : columnLeft b = some b.columnLeft := by
  unfold columnLeft Workbench.columnLeft
  split
  · rename_i hpos
    rw [Nat.psub_eq_sub hpos, Option.map_some]
  · rename_i hzero
    rw [Option.map_some, Nat.eq_zero_of_not_pos hzero]

theorem columnRight_eq (columns : Nat) (b : Workbench) :
    columnRight columns b = some (b.columnRight columns) := by
  unfold columnRight Workbench.columnRight
  dsimp only
  generalize (if b.column + 1 < columns then b.column + 1 else b.column) = column
  split
  · rw [Nat.psub_eq_sub (by omega), Option.map_some]
  · rfl

theorem runResults_eq (outside : Outside) (b : Workbench) (command : ResultsCommand) :
    runResults phrases outside b command = some (b.runResults phrases outside command) := by
  unfold runResults
  split
  · rename_i v hv
    rw [columnLeft_eq, Workbench.runResults, hv]
    rfl
  · rename_i v hv
    rw [columnRight_eq, Workbench.runResults, hv]
    rfl
  · rfl

/-- The table that owns the selected line is still in the tree when it is expanded or collapsed. -/
theorem toggleTable_eq (b : Workbench) : toggleTable phrases b = some (b.toggleTable phrases) := by
  unfold toggleTable Workbench.toggleTable
  cases b.console.schema.tableAtLine? b.treeLine with
  | none => rfl
  | some table =>
    dsimp only
    generalize b.dispatch phrases (.toggleTable table) = step
    cases hline : step.bench.console.schema.lineOfTable? table with
    | none => rfl
    | some line =>
      have hlt := SchemaTree.lt_length_of_lineOfTable? hline
      simp only [List.getElem?_eq_getElem hlt, Option.map_some]

theorem runSchema_eq (b : Workbench) (command : SchemaCommand) :
    runSchema phrases b command = some (b.runSchema phrases command) := by
  cases command with
  | toggle => exact toggleTable_eq b
  | nextDatabase => rw [runSchema, DatabaseSelector.Checked.next_eq, Option.map_some, Workbench.runSchema]
  | previousDatabase =>
    rw [runSchema, DatabaseSelector.Checked.previous_eq, Option.map_some, Workbench.runSchema]
  | _ => rfl

/-- No panel asks for a suggestion by its digit. -/
theorem command?_ne_suggestion (panel : Panel) (p : KeyPress) (digit : Char) :
    panel.command? p ≠ some (.suggestion digit) := by
  cases panel <;> simp [Panel.command?]

/-- A suggestion is asked for by its digit as a shortcut only. -/
theorem suggestionDigit?_of_command? {b : Workbench} {p : KeyPress} {digit : Char}
    (h : b.command? p = some (.suggestion digit)) : suggestionDigit? p = some digit := by
  have hshortcut : shortcut? p = some (.suggestion digit) := by
    unfold command? at h
    cases hs : shortcut? p <;> grind [command?_ne_suggestion]
  unfold shortcut? at hshortcut
  grind [Option.map_eq_some_iff]

/-- A digit that a key press asks for is 1 at least. -/
theorem one_le_of_command? {b : Workbench} {p : KeyPress} {digit : Char}
    (h : b.command? p = some (.suggestion digit)) : '1' ≤ digit := by
  have hdigit := suggestionDigit?_of_command? h
  unfold suggestionDigit? at hdigit
  split at hdigit
  · obtain ⟨hrange, hc⟩ := Option.ite_none_right_eq_some.mp hdigit
    cases hc
    exact hrange.2.1
  · cases hdigit

theorem run_eq (outside : Outside) (b : Workbench) {command : Command}
    (hdigit : ∀ digit, command = .suggestion digit → '1' ≤ digit) :
    run phrases outside b command = some (b.run phrases outside command) := by
  cases command with
  | suggestion digit =>
    have hle : '1'.toNat ≤ digit.toNat := hdigit digit rfl
    rw [run, Nat.psub_eq_sub hle, Option.map_some, Workbench.run]
  | question command => exact runQuestion_eq b command
  | results command =>
    rw [run, runResults_eq, Option.map_some, Workbench.run]
  | schema command => exact runSchema_eq b command
  | _ => rfl

/-! ## Moves -/

def handleKey (phrases : Phrases) (outside : Outside) (b : Workbench) (p : KeyPress) :
    Option Step :=
  match b.command? p with
  | some command => run phrases outside b command
  | none => some b.stay

def handleEvent (phrases : Phrases) (outside : Outside) (b : Workbench) : Event → Option Step
  | .key p => handleKey phrases outside b p
  | e => some (b.handleEvent phrases outside e)

/-- What a move leads to. -/
def advance (phrases : Phrases) (b : Workbench) : Move → Option Step
  | .event outside e => handleEvent phrases outside b e
  | .draw width height => (draw width height b).map stay
  | m => some (b.advance phrases m)

theorem handleKey_eq (outside : Outside) (b : Workbench) (p : KeyPress) :
    handleKey phrases outside b p = some (b.handleKey phrases outside p) := by
  unfold handleKey Workbench.handleKey
  cases hcommand : b.command? p with
  | none => rfl
  | some command =>
    refine run_eq outside b fun digit hdigit => ?_
    exact one_le_of_command? (hdigit ▸ hcommand)

theorem handleEvent_eq (outside : Outside) (b : Workbench) (e : Event) :
    handleEvent phrases outside b e = some (b.handleEvent phrases outside e) := by
  cases e with
  | key p => exact handleKey_eq outside b p
  | _ => rfl

/-- **No move fails** while the selections are in range. -/
theorem advance_eq {b : Workbench} (h : b.SelectionsValid) (m : Move) :
    advance phrases b m = some (b.advance phrases m) := by
  cases m with
  | event outside e => exact handleEvent_eq outside b e
  | draw width height =>
    rw [advance, draw_eq phrases (fun v hv => (h.results v hv).wellFormed), Option.map_some]
    rfl
  | _ => rfl

end Workbench.Checked

/-- **Every selection stays in range and no step fails.**  In every run the selected tree line and
suggestion exist where there are any; while an answer is shown, so does the selected cell, and its
column is in the window of columns.  Every next move does the same with checked subtractions and
indexes. -/
theorem Workbench.selections_in_range (phrases : Phrases) (database : String) (single : Bool)
    (suggestions : List String) (endpoint : String) (moves : List Move) :
    let b := (start database single suggestions endpoint).after phrases moves
    b.treeLine ≤ b.console.schema.lines.length - 1 ∧
      b.suggestion ≤ b.suggestions.length - 1 ∧
      (∀ v, b.console.view = .results v →
        b.row ≤ v.table.rowCount - 1 ∧ b.column ≤ v.table.columns.length - 1 ∧
        b.columnScroll ≤ b.column ∧ b.column < b.columnScroll + max 1 b.columnsVisible ∧
        (0 < v.table.rowCount → 0 < v.table.columns.length →
          ∃ text, v.table.cellText? b.row b.column = some text)) ∧
      ∀ m, Checked.advance phrases b m = some (b.advance phrases m) := by
  intro b
  have hvalid : b.SelectionsValid :=
    selectionsValid_after phrases database single suggestions endpoint moves
  refine ⟨hvalid.treeLine, hvalid.suggestion, fun v hv => ?_, Checked.advance_eq hvalid⟩
  have hcell := hvalid.results v (by rw [results?, hv, QueryView.results?])
  exact ⟨hcell.row_le, hcell.column_le, hcell.scroll_le, hcell.column_lt, hcell.exists_cellText⟩

end QueryConsole
