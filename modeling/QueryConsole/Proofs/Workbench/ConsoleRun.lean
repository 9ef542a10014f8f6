/-
# The console inside the workbench

The workbench changes its console in two ways only: a key edits the question box, or an action is
dispatched.  So every move of the workbench is at most one move of the console (`exists_takes_advance`),
with the same effects, and what every move of the console preserves holds of the console of a
workbench after every run (`console_after_induction`).  An event dispatches wishes of the user only,
never what a call brings (`driven_handleEvent`).
-/

import QueryConsole.Proofs.Console.Run
import QueryConsole.Proofs.Console.Ticket
import QueryConsole.Proofs.Workbench.Run

namespace QueryConsole

/-- Whether a move of a console is one of the user: an edit or a wish. -/
def Console.Move.isWish : Console.Move → Bool
  | edit _ => true
  | act action => action.isWish

namespace Workbench

/-- A step in which the console of a workbench takes a move of its own, or none, with the effects of
that move. -/
structure Takes (phrases : Phrases) (b : Workbench) (m : Option Console.Move) (step : Step) :
    Prop where
  console : step.bench.console = b.console.after phrases m.toList
  effects : step.effects = b.console.emitted phrases m.toList

/-- A step in which the console takes at most one move of its own, an edit or a wish of the user. -/
def Driven (phrases : Phrases) (b : Workbench) (step : Step) : Prop :=
  ∃ m : Option Console.Move, m.all Console.Move.isWish = true ∧ b.Takes phrases m step

variable {phrases : Phrases} {b c : Workbench}

/-- A step that leaves the console alone. -/
theorem takes_stay (h : c.console = b.console) : b.Takes phrases none c.stay := ⟨h, rfl⟩

theorem driven_stay (h : c.console = b.console) : b.Driven phrases c.stay :=
  ⟨none, rfl, takes_stay h⟩

@[simp] theorem console_settle (b : Workbench) (t : Console) : (b.settle t).console = t := by
  rw [settle_eq]

/-- An action is a move of the console. -/
theorem takes_dispatch (h : c.console = b.console) (action : Action) :
    b.Takes phrases (some (.act action)) (c.dispatch phrases action) := by
  constructor
  · have hconsole : (c.dispatch phrases action).bench.console =
        (c.console.reduce phrases action).1 := console_settle c _
    rw [hconsole, h]
    rfl
  · have heffects : (c.dispatch phrases action).effects =
        (c.console.reduce phrases action).2 := rfl
    rw [heffects, h]
    exact (List.append_nil _).symm

theorem driven_dispatch (h : c.console = b.console) (action : Action)
    (hwish : action.isWish = true) : b.Driven phrases (c.dispatch phrases action) :=
  ⟨some (.act action), hwish, takes_dispatch h action⟩

/-- Whatever the step of a workbench does to the rest of it does not matter. -/
theorem Driven.congr {step step' : Step} (h : b.Driven phrases step)
    (hconsole : step'.bench.console = step.bench.console) (heffects : step'.effects = step.effects) :
    b.Driven phrases step' := by
  obtain ⟨m, hwish, hc, he⟩ := h
  exact ⟨m, hwish, hconsole.trans hc, heffects.trans he⟩

/-- Both outcomes of a test may be taken. -/
theorem Driven.of_ite {p : Prop} [Decidable p] {x y : Step} (hx : b.Driven phrases x)
    (hy : b.Driven phrases y) : b.Driven phrases (if p then x else y) := by
  split
  · exact hx
  · exact hy

/-! ## Keys -/

theorem driven_submit : b.Driven phrases (b.submit phrases) := by
  unfold submit
  apply driven_dispatch <;> rfl

theorem driven_applySuggestion (index : Nat) :
    b.Driven phrases (b.applySuggestion phrases index) := by
  unfold applySuggestion
  split
  · apply driven_dispatch <;> rfl
  · exact driven_stay rfl

/-- A command in the question box edits it or submits it. -/
theorem driven_runQuestion (command : Editor.Command) :
    b.Driven phrases (b.runQuestion phrases command) := by
  cases command with
  | submit => exact driven_submit
  | _ => exact ⟨some (.edit _), rfl, rfl, rfl⟩

theorem driven_toggleTable : b.Driven phrases (b.toggleTable phrases) := by
  unfold toggleTable
  split
  · exact driven_stay rfl
  · rename_i table _
    have hstep : b.Driven phrases (b.dispatch phrases (.toggleTable table)) :=
      driven_dispatch rfl _ rfl
    dsimp only
    split
    · split
      · exact hstep
      · exact hstep.congr rfl rfl
    · exact hstep

theorem driven_selectDatabase (index : Option Nat) :
    b.Driven phrases (b.selectDatabase phrases index) := by
  unfold selectDatabase
  split
  · apply driven_dispatch <;> rfl
  · exact driven_stay rfl

theorem driven_runSchema (command : SchemaCommand) :
    b.Driven phrases (b.runSchema phrases command) := by
  cases command with
  | up => exact driven_stay rfl
  | down => exact .of_ite (driven_stay rfl) (driven_stay rfl)
  | toggle => exact driven_toggleTable
  | nextDatabase => exact driven_selectDatabase _
  | previousDatabase => exact driven_selectDatabase _
  | refresh =>
    rw [runSchema]
    apply driven_dispatch <;> rfl

theorem driven_runSuggestions (command : SuggestionsCommand) :
    b.Driven phrases (b.runSuggestions phrases command) := by
  cases command with
  | up => exact driven_stay rfl
  | down => exact .of_ite (driven_stay rfl) (driven_stay rfl)
  | apply => exact driven_applySuggestion _

theorem console_copy (outside : Outside) (copied : String) :
    (b.copy phrases outside copied).console = b.console := by
  unfold copy
  split <;> rfl

theorem console_copyCell (outside : Outside) :
    (b.copyCell phrases outside).console = b.console := by
  unfold copyCell
  split
  · exact console_copy outside _
  · rfl

theorem console_copyQuery (outside : Outside) :
    (b.copyQuery phrases outside).console = b.console := by
  unfold copyQuery
  split
  · exact console_copy outside _
  · rfl

theorem console_runResults (outside : Outside) (command : ResultsCommand) :
    (b.runResults phrases outside command).console = b.console := by
  unfold runResults
  split
  · rfl
  · cases command with
    | down =>
      rw [runOnAnswer]
      split <;> rfl
    | copyCell => exact console_copyCell outside
    | _ => rfl

theorem driven_exportTable (outside : Outside) (format : ExportFormat) :
    b.Driven phrases (b.exportTable phrases outside format) := by
  unfold exportTable
  split
  · exact driven_stay rfl
  · split
    · exact driven_stay rfl
    · exact ⟨none, rfl, rfl, rfl⟩

theorem driven_run (outside : Outside) (command : Command) :
    b.Driven phrases (b.run phrases outside command) := by
  cases command with
  | submit => exact driven_submit
  | refresh => exact driven_dispatch rfl .refreshSchema rfl
  | exportAs format => exact driven_exportTable outside format
  | copyQuery => exact driven_stay (console_copyQuery outside)
  | suggestion digit => exact driven_applySuggestion _
  | question command => exact driven_runQuestion command
  | results command => exact driven_stay (console_runResults outside command)
  | schema command => exact driven_runSchema command
  | suggestions command => exact driven_runSuggestions command
  | _ => exact driven_stay rfl

theorem driven_handleKey (outside : Outside) (p : KeyPress) :
    b.Driven phrases (b.handleKey phrases outside p) := by
  unfold handleKey
  split
  · exact driven_run outside _
  · exact driven_stay rfl

/-! ## Moves and runs -/

theorem console_scrollUp (amount : Nat) : (b.scrollUp amount).console = b.console := by
  unfold scrollUp
  split <;> rfl

theorem console_scrollDown (amount : Nat) : (b.scrollDown amount).console = b.console := by
  unfold scrollDown
  split <;> rfl

theorem console_spin : b.spin.console = b.console := by
  unfold spin
  split <;> rfl

theorem console_fitTo (screen : Area) : (b.fitTo screen).console = b.console := by
  unfold fitTo
  split <;> rfl

/-- **An event edits the question box or dispatches a wish**, if it changes the console at all. -/
theorem driven_handleEvent (outside : Outside) (e : Event) :
    b.Driven phrases (b.handleEvent phrases outside e) := by
  cases e with
  | key p => exact driven_handleKey outside p
  | wheelUp => exact driven_stay (console_scrollUp wheelLines)
  | wheelDown => exact driven_stay (console_scrollDown wheelLines)
  | ignored => exact driven_stay rfl

/-- **Every move of the workbench is at most one move of its console.** -/
theorem exists_takes_advance (m : Move) : ∃ taken, b.Takes phrases taken (b.advance phrases m) := by
  cases m with
  | event outside e =>
    obtain ⟨taken, -, htakes⟩ := @driven_handleEvent phrases b outside e
    exact ⟨taken, htakes⟩
  | act action => exact ⟨_, takes_dispatch rfl action⟩
  | spin => exact ⟨none, takes_stay console_spin⟩
  | draw width height => exact ⟨none, takes_stay (console_fitTo _)⟩

/-- What every move of the console preserves is preserved by every run of the workbench. -/
theorem console_after_induction {P : Console → Prop} (hb : P b.console)
    (hadvance : ∀ s m, P s → P (Console.advance phrases s m).1) (moves : List Move) :
    P (b.after phrases moves).console := by
  refine after_induction (P := fun b => P b.console) hb (fun b m h => ?_) moves
  obtain ⟨taken, hconsole, -⟩ := @exists_takes_advance phrases b m
  rw [hconsole]
  cases taken with
  | none => exact h
  | some taken => exact hadvance _ taken h

end Workbench
end QueryConsole
