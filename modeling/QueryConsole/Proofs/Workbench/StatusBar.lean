/-
# What the status bar tells of local actions

Exporting the table and copying its query or a cell are local actions: no call is made for them.  Each
has an outcome, a text that tells of success or of failure (`Outcome`).  A success is kept as the
message and a failure as the error of the workbench; neither clears the other, and the bar shows an
error before a message.

* `exists_outcome`, `Outcome.perform_eq`: every local action has an outcome, but for copying a cell that
  does not exist; it keeps that outcome and does nothing else.
* `error_foldl_keep`: the error that stands after several actions is the last failure among them.
* `last_outcome_shown_iff`: the bar shows the last outcome exactly if that is a failure or no failure
  stands before it.  So a failure covers every later success until a question clears it, also one of
  an action that was asked for too early (`hasty_export_covers_export`).
* `tells_statusSpan`: what the bar shows stands on its line of the screen, as far as the line is wide.
-/

import QueryConsole.Proofs.Screen.GlyphCells
import QueryConsole.Proofs.Workbench.Run

namespace QueryConsole

namespace Status

/-- The text of an error. -/
def error? : Status → Option String
  | error text => some text
  | _ => none

/-- The text of a message. -/
def message? : Status → Option String
  | message text => some text
  | _ => none

end Status

namespace Workbench

/-- What the user does with an answer without a call to the service. -/
inductive LocalAction where
  | exportAs (format : ExportFormat)
  | copyQuery
  | copyCell

/-- The workbench after a local action. -/
def perform (phrases : Phrases) (outside : Outside) (b : Workbench) : LocalAction → Workbench
  | .exportAs format => (b.exportTable phrases outside format).bench
  | .copyQuery => b.copyQuery phrases outside
  | .copyCell => b.copyCell phrases outside

/-- The outcome of a local action: the text of its success or of its failure.  Copying a cell that
does not exist has no outcome. -/
inductive Outcome (phrases : Phrases) (outside : Outside) (b : Workbench) :
    LocalAction → Status → Prop where
  | nothingToExport {format : ExportFormat}
      (empty : ∀ v, b.results? = some v → v.table.rowCount = 0) :
      Outcome phrases outside b (.exportAs format) (.error phrases.noResultsToExport)
  | notExported {format : ExportFormat} {v : ResultView} {e : String}
      (shown : b.results? = some v) (rows : v.table.rowCount ≠ 0)
      (fails : outside.fileError = some e) :
      Outcome phrases outside b (.exportAs format) (.error (phrases.exportFailed e))
  | exported {format : ExportFormat} {v : ResultView}
      (shown : b.results? = some v) (rows : v.table.rowCount ≠ 0)
      (succeeds : outside.fileError = none) :
      Outcome phrases outside b (.exportAs format)
        (.message (phrases.exportedRows (Decimal.text v.table.rowCount)
          (format.fileName outside.stamp)))
  | nothingToCopy (absent : b.results? = none) :
      Outcome phrases outside b .copyQuery (.error phrases.noQueryToCopy)
  | queryNotCopied {v : ResultView} {e : String} (shown : b.results? = some v)
      (fails : outside.clipboardError = some e) :
      Outcome phrases outside b .copyQuery (.error (phrases.clipboardFailed e))
  | queryCopied {v : ResultView} (shown : b.results? = some v)
      (succeeds : outside.clipboardError = none) :
      Outcome phrases outside b .copyQuery (.message phrases.copiedQuery)
  | cellNotCopied {v : ResultView} {text e : String} (shown : b.results? = some v)
      (cell : v.table.cellText? b.row b.column = some text)
      (fails : outside.clipboardError = some e) :
      Outcome phrases outside b .copyCell (.error (phrases.clipboardFailed e))
  | cellCopied {v : ResultView} {text : String} (shown : b.results? = some v)
      (cell : v.table.cellText? b.row b.column = some text)
      (succeeds : outside.clipboardError = none) :
      Outcome phrases outside b .copyCell (.message (phrases.copied text))

/-- The workbench with an outcome kept: a failure as the error, a success as the message. -/
def keep (b : Workbench) (outcome : Status) : Workbench :=
  { b with error := outcome.error?.or b.error, message := outcome.message?.or b.message }

variable {phrases : Phrases} {outside : Outside} {b : Workbench} {action : LocalAction}
  {outcome : Status}

/-! ## One action -/

theorem copy_of_fails {e : String} (h : outside.clipboardError = some e) (copied : String) :
    b.copy phrases outside copied = b.keep (.error (phrases.clipboardFailed e)) := by
  simp only [copy, h]
  rfl

theorem copy_of_succeeds (h : outside.clipboardError = none) (copied : String) :
    b.copy phrases outside copied = b.keep (.message copied) := by
  simp only [copy, h]
  rfl

/-- The table that is exported, if there is one. -/
theorem results?_filter_eq_some {v : ResultView} (shown : b.results? = some v)
    (rows : v.table.rowCount ≠ 0) :
    b.results?.filter (fun v => v.table.rowCount ≠ 0) = some v := by
  rw [shown, Option.filter_some, if_pos (decide_eq_true rows)]

/-- **A local action keeps its outcome**, and does nothing else to the workbench. -/
theorem Outcome.perform_eq (h : Outcome phrases outside b action outcome) :
    b.perform phrases outside action = b.keep outcome := by
  cases h with
  | nothingToExport empty =>
    have hnone : b.results?.filter (fun v => v.table.rowCount ≠ 0) = none := by
      rw [Option.filter_eq_none_iff]
      intro v hv
      simpa using empty v hv
    simp only [perform, exportTable, hnone]
    rfl
  | notExported shown rows fails =>
    simp only [perform, exportTable, results?_filter_eq_some shown rows, fails]
    rfl
  | exported shown rows succeeds =>
    simp only [perform, exportTable, results?_filter_eq_some shown rows, succeeds]
    rfl
  | nothingToCopy absent =>
    simp only [perform, copyQuery, absent]
    rfl
  | queryNotCopied shown fails => simp only [perform, copyQuery, shown, copy_of_fails fails]
  | queryCopied shown succeeds => simp only [perform, copyQuery, shown, copy_of_succeeds succeeds]
  | cellNotCopied shown cell fails =>
    simp only [perform, copyCell, shown, Option.bind_some, cell, copy_of_fails fails]
  | cellCopied shown cell succeeds =>
    simp only [perform, copyCell, shown, Option.bind_some, cell, copy_of_succeeds succeeds]

/-- Every local action has an outcome, but for copying a cell that does not exist. -/
theorem exists_outcome (phrases : Phrases) (outside : Outside)
    (hcell : action = .copyCell →
      ∃ v, b.results? = some v ∧ (v.table.cellText? b.row b.column).isSome) :
    ∃ outcome, Outcome phrases outside b action outcome := by
  cases action with
  | exportAs format =>
    by_cases hrows : ∃ v, b.results? = some v ∧ v.table.rowCount ≠ 0
    · obtain ⟨v, hv, hrows⟩ := hrows
      cases hfile : outside.fileError with
      | none => exact ⟨_, .exported hv hrows hfile⟩
      | some e => exact ⟨_, .notExported hv hrows hfile⟩
    · exact ⟨_, .nothingToExport fun v hv => Decidable.not_not.mp fun h => hrows ⟨v, hv, h⟩⟩
  | copyQuery =>
    cases hv : b.results? with
    | none => exact ⟨_, .nothingToCopy hv⟩
    | some v =>
      cases hclipboard : outside.clipboardError with
      | none => exact ⟨_, .queryCopied hv hclipboard⟩
      | some e => exact ⟨_, .queryNotCopied hv hclipboard⟩
  | copyCell =>
    obtain ⟨v, hv, hsome⟩ := hcell rfl
    obtain ⟨text, htext⟩ := Option.isSome_iff_exists.mp hsome
    cases hclipboard : outside.clipboardError with
    | none => exact ⟨_, .cellCopied hv htext hclipboard⟩
    | some e => exact ⟨_, .cellNotCopied hv htext hclipboard⟩

/-- An outcome is a failure or a success. -/
theorem Outcome.error_or_message (h : Outcome phrases outside b action outcome) :
    (∃ e, outcome = .error e) ∨ ∃ m, outcome = .message m := by
  cases h with
  | exported | queryCopied | cellCopied => exact .inr ⟨_, rfl⟩
  | _ => exact .inl ⟨_, rfl⟩

/-! ## Several actions -/

/-- The workbench after local actions, each with what it finds outside. -/
def performAll (phrases : Phrases) (b : Workbench) (actions : List (Outside × LocalAction)) :
    Workbench :=
  actions.foldl (fun b a => b.perform phrases a.1 a.2) b

/-- The outcomes of local actions, in order. -/
inductive Outcomes (phrases : Phrases) :
    Workbench → List (Outside × LocalAction) → List Status → Prop where
  | nil {b : Workbench} : Outcomes phrases b [] []
  | cons {b : Workbench} {outside : Outside} {action : LocalAction} {outcome : Status}
      {actions : List (Outside × LocalAction)} {outcomes : List Status}
      (head : Outcome phrases outside b action outcome)
      (tail : Outcomes phrases (b.perform phrases outside action) actions outcomes) :
      Outcomes phrases b ((outside, action) :: actions) (outcome :: outcomes)

variable {actions : List (Outside × LocalAction)} {outcomes : List Status}

/-- Local actions keep all their outcomes. -/
theorem Outcomes.performAll_eq (h : Outcomes phrases b actions outcomes) :
    b.performAll phrases actions = outcomes.foldl keep b := by
  induction h with
  | nil => rfl
  | cons head tail ih =>
    rw [head.perform_eq] at ih
    rw [performAll, List.foldl_cons, head.perform_eq, List.foldl_cons]
    exact ih

/-- The error that stands after outcomes is the last failure, or the error that stood before. -/
theorem error_foldl_keep (b : Workbench) (outcomes : List Status) :
    (outcomes.foldl keep b).error = (outcomes.filterMap Status.error?).getLast?.or b.error := by
  induction outcomes generalizing b with
  | nil => rfl
  | cons outcome outcomes ih =>
    rw [List.foldl_cons, ih, keep]
    cases h : outcome.error? with
    | none => rw [List.filterMap_cons_none h, Option.none_or]
    | some e =>
      rw [List.filterMap_cons_some h, List.getLast?_cons]
      cases (outcomes.filterMap Status.error?).getLast? <;> rfl

/-- No error stands exactly if none stood before and no outcome is a failure. -/
theorem error_foldl_keep_eq_none_iff :
    (outcomes.foldl keep b).error = none ↔ b.error = none ∧ ∀ e, .error e ∉ outcomes := by
  rw [error_foldl_keep, Option.or_eq_none_iff, List.getLast?_eq_none_iff, List.filterMap_eq_nil_iff,
    and_comm]
  refine and_congr_right fun _ => ⟨fun h e he => ?_, fun h outcome houtcome => ?_⟩
  · exact Option.some_ne_none e (h _ he)
  · cases outcome with
    | error e => exact absurd houtcome (h e)
    | _ => rfl

/-! ## The status bar -/

@[simp] theorem status_fitTo (b : Workbench) (screen : Area) : (b.fitTo screen).status = b.status := by
  unfold fitTo
  split <;> rfl

/-- The status bar tells a text: wherever the bar is drawn, the glyphs of the text stand on its line, as
many as it has room for. -/
def Tells (phrases : Phrases) (b : Workbench) (text : Span) : Prop :=
  ∀ (a : Area) (c : Canvas), a.isEmpty = false →
    Canvas.GlyphsOver ((c.paint a .statusBar).row a.top) ((b.drawStatus phrases a c).row a.top) a.left
      (Glyph.cut a.width a.width text.glyphs)

/-- **The bar tells its text.** -/
theorem tells_statusSpan (phrases : Phrases) (b : Workbench) :
    b.Tells phrases (b.statusSpan phrases) := by
  intro a c hinside
  have hline : [[b.statusSpan phrases]][0]? = some [b.statusSpan phrases] := rfl
  have hdrawn := Canvas.glyphsOver_drawLines (c.paint a .statusBar) .left hline
    (Area.isEmpty_eq_false_iff.mp hinside).2 hinside
  rwa [List.flatMap_singleton] at hdrawn

/-- An error is told with a cross before it. -/
theorem tells_of_status_error {e : String} (h : b.status = .error e) :
    b.Tells phrases ⟨"✗ " ++ e, .error⟩ := by
  have htells := tells_statusSpan phrases b
  rwa [statusSpan, h] at htells

/-- A message is told with a check mark before it. -/
theorem tells_of_status_message {m : String} (h : b.status = .message m) :
    b.Tells phrases ⟨"✓ " ++ m, .success⟩ := by
  have htells := tells_statusSpan phrases b
  rwa [statusSpan, h] at htells

/-- A failure is shown at once. -/
theorem status_keep_error (b : Workbench) (e : String) : (b.keep (.error e)).status = .error e := rfl

/-- A success is shown where no failure stands. -/
theorem status_keep_message (h : b.error = none) (m : String) :
    (b.keep (.message m)).status = .message m := by
  simp only [status, keep, h]
  rfl

/-- A failure that stands covers a success. -/
theorem status_keep_message_of_error {e : String} (h : b.error = some e) (m : String) :
    (b.keep (.message m)).status = .error e := by
  simp only [status, keep, h]
  rfl

/-- **The bar shows the outcome of the last local action exactly if that failed or no failure stands.**
Otherwise it goes on showing the last failure of the actions before, or the one that stood before all
of them.  Every action has an outcome, but for copying a cell that does not exist, and what the bar
shows is told on its line of the screen. -/
theorem last_outcome_shown_iff (hbefore : Outcomes phrases b actions outcomes)
    (hlast : Outcome phrases outside (b.performAll phrases actions) action outcome)
    (screen : Area) :
    ((((b.performAll phrases actions).perform phrases outside action).fitTo screen).status =
        outcome ↔
      (∃ e, outcome = .error e) ∨ b.error = none ∧ ∀ e, .error e ∉ outcomes) ∧
    (∀ m e, outcome = .message m →
      (outcomes.filterMap Status.error?).getLast?.or b.error = some e →
      (((b.performAll phrases actions).perform phrases outside action).fitTo screen).status =
        .error e) ∧
    (∀ outside action,
      (action = .copyCell → ∃ v, (b.performAll phrases actions).results? = some v ∧
        (v.table.cellText? (b.performAll phrases actions).row
          (b.performAll phrases actions).column).isSome) →
      ∃ outcome, Outcome phrases outside (b.performAll phrases actions) action outcome) ∧
    let shown := ((b.performAll phrases actions).perform phrases outside action).fitTo screen
    (∀ e, shown.status = .error e → shown.Tells phrases ⟨"✗ " ++ e, .error⟩) ∧
      ∀ m, shown.status = .message m → shown.Tells phrases ⟨"✓ " ++ m, .success⟩ := by
  refine and_assoc.mp ⟨?_, fun outside action => exists_outcome phrases outside,
    fun e => tells_of_status_error, fun m => tells_of_status_message⟩
  rw [status_fitTo, hlast.perform_eq, hbefore.performAll_eq, ← error_foldl_keep_eq_none_iff,
    ← error_foldl_keep]
  rcases hlast.error_or_message with ⟨text, rfl⟩ | ⟨text, rfl⟩
  · exact ⟨iff_of_true (status_keep_error _ text) (.inl ⟨text, rfl⟩), fun _ _ h => nomatch h⟩
  · refine ⟨⟨fun hshown => .inr ?_, fun h => ?_⟩, fun m e hm he => ?_⟩
    · rw [Option.eq_none_iff_forall_ne_some]
      intro e he
      exact Status.noConfusion ((status_keep_message_of_error he text).symm.trans hshown)
    · obtain ⟨e, he⟩ | hnone := h
      · cases he
      · exact status_keep_message hnone text
    · exact status_keep_message_of_error he text

/-- What is outside where files can be written and texts copied. -/
def willing : Outside := ⟨"20240101_120000", none, none⟩

/-- What is outside where no file can be written. -/
def diskFull : Outside := ⟨"20240101_120000", some "disk full", none⟩

/-- An answer with one row. -/
def oneRow : QuerySuccess := ⟨none, none, ⟨0⟩, ⟨0⟩, none, [⟨[("a", .int 1)]⟩]⟩

/-- A workbench that got an answer. -/
def afterAnswer : Workbench :=
  (start "sales" false [] "http://localhost").after .english
    [.act (.applySuggestion "show orders"), .act (.querySettled 1 (.ok (.success oneRow)))]

/-- The failure of an export goes on being shown after the next export succeeds. -/
theorem failed_export_still_shown :
    Outcomes .english afterAnswer [(diskFull, .exportAs .csv)]
        [.error "Export failed: disk full"] ∧
      Outcome .english willing (afterAnswer.performAll .english [(diskFull, .exportAs .csv)])
        (.exportAs .csv) (.message "Exported 1 rows to export_20240101_120000.csv") ∧
      (((afterAnswer.performAll .english [(diskFull, .exportAs .csv)]).perform .english willing
        (.exportAs .csv)).fitTo ⟨0, 0, 72, 18⟩).status = .error "Export failed: disk full" := by
  have hbefore : Outcomes .english afterAnswer [(diskFull, .exportAs .csv)]
      [.error "Export failed: disk full"] :=
    .cons (.notExported (v := .ofSuccess .english oneRow) (e := "disk full") rfl (by decide) rfl) .nil
  have hlast : Outcome .english willing
      (afterAnswer.performAll .english [(diskFull, .exportAs .csv)])
      (.exportAs .csv) (.message "Exported 1 rows to export_20240101_120000.csv") :=
    .exported (v := .ofSuccess .english oneRow) rfl (by decide) rfl
  exact ⟨hbefore, hlast, (last_outcome_shown_iff hbefore hlast _).2.1 _ _ rfl rfl⟩

/-- A workbench whose user asked for an export before the answer was there. -/
def afterHastyExport : Workbench :=
  (start "sales" false [] "http://localhost").after .english
    [.act (.applySuggestion "show orders"),
      .event willing (.key ⟨.char 's', ⟨true, false, false⟩⟩),
      .act (.querySettled 1 (.ok (.success oneRow)))]

/-- An export that was asked for too early covers the one that succeeds. -/
theorem hasty_export_covers_export :
    Outcome .english willing afterHastyExport (.exportAs .csv)
        (.message "Exported 1 rows to export_20240101_120000.csv") ∧
      ((afterHastyExport.perform .english willing (.exportAs .csv)).fitTo ⟨0, 0, 72, 18⟩).status =
        .error "No results to export" :=
  ⟨.exported (v := .ofSuccess .english oneRow) rfl (by decide) rfl, by decide⟩

end Workbench
end QueryConsole
