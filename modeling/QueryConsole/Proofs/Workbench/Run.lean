/-
# Runs of the workbench

A run is a list of moves: events of the terminal, actions of the console, pictures of the spinner and
frames of any size.  `after` is the workbench that a run leads to, and `steps` are what its moves lead to
one by one; what every move preserves is preserved by every run (`after_induction`).  `settle_eq` says
what a change of the console means for the rest of the workbench.
-/

import QueryConsole.Screen.Draw
import QueryConsole.Workbench.Input

namespace QueryConsole
namespace Workbench

/-- What happens to a workbench in a run. -/
inductive Move where
  | event (outside : Outside) (event : Event)
  | act (action : Action)
  | spin
  | draw (width height : Nat)

/-- What a move leads to. -/
def advance (phrases : Phrases) (b : Workbench) : Move → Step
  | .event outside event => b.handleEvent phrases outside event
  | .act action => b.dispatch phrases action
  | .spin => b.spin.stay
  | .draw width height => (b.draw phrases width height).1.stay

/-- The workbench after a run. -/
def after (phrases : Phrases) (b : Workbench) (moves : List Move) : Workbench :=
  moves.foldl (fun b m => (b.advance phrases m).bench) b

/-- The steps of a run. -/
def steps (phrases : Phrases) : Workbench → List Move → List Step
  | _, [] => []
  | b, m :: moves => b.advance phrases m :: steps phrases (b.advance phrases m).bench moves

variable {phrases : Phrases} {b : Workbench}

@[simp] theorem after_nil : b.after phrases [] = b := rfl

@[simp] theorem after_cons (m : Move) (moves : List Move) :
    b.after phrases (m :: moves) = (b.advance phrases m).bench.after phrases moves := rfl

theorem after_append (xs ys : List Move) :
    b.after phrases (xs ++ ys) = (b.after phrases xs).after phrases ys := List.foldl_append

theorem steps_append (xs ys : List Move) :
    steps phrases b (xs ++ ys) = steps phrases b xs ++ steps phrases (b.after phrases xs) ys := by
  induction xs generalizing b with
  | nil => rfl
  | cons m xs ih => rw [List.cons_append, steps, ih, steps, after_cons, List.cons_append]

/-- What every move preserves is preserved by every run. -/
theorem after_induction {P : Workbench → Prop} (hb : P b)
    (hadvance : ∀ b m, P b → P (advance phrases b m).bench) (moves : List Move) :
    P (b.after phrases moves) := by
  induction moves generalizing b with
  | nil => exact hb
  | cons m moves ih => exact ih (hadvance b m hb)

/-- The workbench after the console changed, field by field: an answer that was waited for resets the
selected cell, and the selected tree line stays inside the tree. -/
theorem settle_eq (b : Workbench) (t : Console) :
    b.settle t =
      let answered := t.view.results?.isSome && b.console.view.isLoading
      { b with
        console := t
        spinner := if t.view.isLoading && !b.console.view.isLoading then 0 else b.spinner
        row := if answered then 0 else b.row
        column := if answered then 0 else b.column
        columnScroll := if answered then 0 else b.columnScroll
        treeLine := min b.treeLine (t.schema.lines.length - 1) } := by
  unfold settle
  dsimp only
  split <;> split <;> rfl

/-- A console whose view did not change leaves all but the tree line as it is. -/
theorem settle_of_view_eq {b : Workbench} {t : Console} (h : t.view = b.console.view) :
    b.settle t =
      { b with console := t, treeLine := min b.treeLine (t.schema.lines.length - 1) } := by
  have hspinner : (b.console.view.isLoading && !b.console.view.isLoading) = false :=
    Bool.and_not_self _
  have hanswered : (b.console.view.results?.isSome && b.console.view.isLoading) = false := by
    cases b.console.view <;> rfl
  rw [settle_eq]
  simp only [h, hspinner, hanswered, Bool.false_eq_true, if_false]

/-- A console that did not change leaves all but the tree line as it is. -/
theorem settle_console (b : Workbench) :
    b.settle b.console =
      { b with treeLine := min b.treeLine (b.console.schema.lines.length - 1) } :=
  settle_of_view_eq rfl

/-- Enter and the space bar belong to no shortcut, whatever modifiers are held; they go to the active
panel. -/
theorem command?_eq_panel {p : KeyPress} (hhelp : b.help = false)
    (hkey : p.key = .enter ∨ p.key = .char ' ') : b.command? p = b.panel.command? p := by
  rcases hkey with hkey | hkey
  · simp [command?, shortcut?, KeyPress.isCtrl, suggestionDigit?, hkey, hhelp]
  · simp [command?, shortcut?, KeyPress.isCtrl, suggestionDigit?, hkey, hhelp]

theorem handleKey_of_command? {outside : Outside} {p : KeyPress} {command : Command}
    (h : b.command? p = some command) :
    b.handleKey phrases outside p = b.run phrases outside command := by
  rw [handleKey, h]

end Workbench
end QueryConsole
