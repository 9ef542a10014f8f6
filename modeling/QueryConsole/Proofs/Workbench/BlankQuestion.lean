/-
# Submitting a blank question

A blank question asks nothing: the console stays as it is and no call is made, whichever key submits
it (`submit_of_isBlank`).  The texts of the status bar do not stay, since they are cleared before the
box is looked at.  So the workbench as a whole stays as it is exactly if no text stands in the bar
(`blank_question_clears_status`), and an error that stands is lost (`blank_question_loses_error`).
-/

import QueryConsole.Proofs.Console.Transition
import QueryConsole.Proofs.Workbench.Selection
import QueryConsole.Proofs.Workbench.StatusBar

namespace QueryConsole
namespace Workbench

/-- Whether a key press submits the question box: Ctrl+E in every panel, and Enter in the box itself
unless Shift or Alt is held. -/
def SubmitsBox (b : Workbench) (p : KeyPress) : Prop :=
  p.isCtrl 'e' = true ∨
    b.panel = .question ∧ p.key = .enter ∧ p.modifiers.shift = false ∧ p.modifiers.alt = false

variable {phrases : Phrases} {outside : Outside} {b : Workbench} {p : KeyPress}

/-- The keys that submit the box do nothing else. -/
theorem handleKey_of_submitsBox (hhelp : b.help = false) (hp : b.SubmitsBox p) :
    b.handleKey phrases outside p = b.submit phrases := by
  obtain hctrl | ⟨hpanel, hkey, hshift, halt⟩ := hp
  · have hboth : p.modifiers.ctrl = true ∧ p.key = .char 'e' := by
      simpa only [KeyPress.isCtrl, Bool.and_eq_true, decide_eq_true_iff] using hctrl
    have hother : p.isCtrl 'c' = false ∧ p.isCtrl 'q' = false := by
      simp [KeyPress.isCtrl, hboth.2]
    have hcommand : b.command? p = some .submit := by
      simp only [command?, shortcut?, hctrl, hother, hboth.2, hhelp, reduceCtorEq, Bool.or_self,
        Bool.false_eq_true, if_false, if_true, Option.some_or]
    exact handleKey_of_command? hcommand
  · have hsubmit : Editor.command? p = some .submit := by
      simp only [Editor.command?, hkey, hshift, halt, Bool.or_self, Bool.false_eq_true, if_false]
    have hcommand : b.command? p = some (.question .submit) := by
      rw [command?_eq_panel hhelp (.inl hkey), hpanel, Panel.command?, hsubmit, Option.map_some]
    exact handleKey_of_command? hcommand

/-- **Submitting a blank box makes no call and changes only the status bar**, apart from a selected
tree line that is out of range. -/
theorem submit_of_isBlank (phrases : Phrases) (h : b.console.input.IsBlank) :
    b.submit phrases =
      stay { b with
        message := none
        error := none
        treeLine := min b.treeLine (b.console.schema.lines.length - 1) } := by
  have hreduce : b.console.reduce phrases .submit = (b.console, []) :=
    Console.beginSubmit_of_isBlank h
  have hconsole : b.clearStatus.console = b.console := rfl
  rw [submit, dispatch, hconsole, hreduce]
  exact congrArg stay (settle_console b.clearStatus)

/-- **A blank question clears the status bar and does nothing else.**  Whichever key submits it, no
call is made and no file is written.  Where the selections are in range, as they are in every run, the
workbench is left as it is exactly if neither a message nor an error stands. -/
theorem blank_question_clears_status (phrases : Phrases) (outside : Outside)
    (hhelp : b.help = false) (hp : b.SubmitsBox p) (hblank : b.console.input.IsBlank) :
    b.handleKey phrases outside p =
        stay { b with
          message := none
          error := none
          treeLine := min b.treeLine (b.console.schema.lines.length - 1) } ∧
      (b.SelectionsValid →
        (b.handleKey phrases outside p = b.stay ↔ b.message = none ∧ b.error = none)) := by
  have hsubmit : b.handleKey phrases outside p = b.submit phrases := handleKey_of_submitsBox hhelp hp
  have hstep := hsubmit.trans (submit_of_isBlank phrases hblank)
  refine ⟨hstep, fun hvalid => ?_⟩
  rw [hstep, Nat.min_eq_left hvalid.treeLine]
  constructor
  · intro h
    have hbench := congrArg Step.bench h
    exact ⟨(congrArg Workbench.message hbench).symm, (congrArg Workbench.error hbench).symm⟩
  · rintro ⟨hmessage, herror⟩
    obtain ⟨⟩ := b
    obtain rfl : _ = none := hmessage
    obtain rfl : _ = none := herror
    rfl

/-- A workbench whose user asked for an export before any question. -/
def afterEarlyExport : Workbench :=
  (start "sales" false [] "http://localhost").after .english
    [.event willing (.key ⟨.char 's', ⟨true, false, false⟩⟩)]

/-- Enter in a box that was never typed into leaves a workbench that has just started as it is. -/
theorem blank_enter_at_start :
    (start "sales" false [] "http://localhost").handleKey .english willing ⟨.enter, .none⟩ =
      (start "sales" false [] "http://localhost").stay := by
  have hblank : (start "sales" false [] "http://localhost").console.input.IsBlank :=
    List.forall_mem_nil _
  have hvalid := selectionsValid_start "sales" false [] "http://localhost"
  exact ((blank_question_clears_status .english willing rfl (.inr ⟨rfl, rfl, rfl, rfl⟩) hblank).2
    hvalid).mpr ⟨rfl, rfl⟩

/-- Ctrl+E on an empty box takes away the error that the export has left. -/
theorem blank_question_loses_error :
    afterEarlyExport.help = false ∧ afterEarlyExport.console.input.IsBlank ∧
      afterEarlyExport.error = some "No results to export" ∧
      (afterEarlyExport.handleKey .english willing
        ⟨.char 'e', ⟨true, false, false⟩⟩).bench.error = none :=
  ⟨by decide, List.forall_mem_nil _, by decide, by decide⟩

end Workbench
end QueryConsole
