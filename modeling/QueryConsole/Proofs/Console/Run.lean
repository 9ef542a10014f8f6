/-
# Runs of the console

A run is a list of moves: edits of the question box, and actions.  `after` is the console that a run
leads to, and `emitted` lists the effects of all its moves in order.
-/

import QueryConsole.Proofs.Console.Transition

namespace QueryConsole
namespace Console

/-- What happens to a console in a run: the box gets another content, or an action is reduced. -/
inductive Move where
  | edit (input : Editor)
  | act (action : Action)

/-- The console after a move, and the effects of the move. -/
def advance (phrases : Phrases) (s : Console) : Move → Console × List Effect
  | .edit input => ({ s with input }, [])
  | .act action => s.reduce phrases action

/-- The console after a run. -/
def after (phrases : Phrases) (s : Console) (moves : List Move) : Console :=
  moves.foldl (fun s m => (s.advance phrases m).1) s

/-- The effects of a run. -/
def emitted (phrases : Phrases) : Console → List Move → List Effect
  | _, [] => []
  | s, m :: moves => (s.advance phrases m).2 ++ emitted phrases (s.advance phrases m).1 moves

variable {phrases : Phrases} {s : Console}

@[simp] theorem after_nil : s.after phrases [] = s := rfl

@[simp] theorem after_cons (m : Move) (moves : List Move) :
    s.after phrases (m :: moves) = (s.advance phrases m).1.after phrases moves := rfl

theorem after_append (xs ys : List Move) :
    s.after phrases (xs ++ ys) = (s.after phrases xs).after phrases ys := List.foldl_append

@[simp] theorem emitted_nil : s.emitted phrases [] = [] := rfl

@[simp] theorem emitted_cons (m : Move) (moves : List Move) :
    s.emitted phrases (m :: moves) =
      (s.advance phrases m).2 ++ (s.advance phrases m).1.emitted phrases moves := rfl

theorem emitted_append (xs ys : List Move) :
    s.emitted phrases (xs ++ ys) =
      s.emitted phrases xs ++ (s.after phrases xs).emitted phrases ys := by
  induction xs generalizing s with
  | nil => rfl
  | cons m xs ih => rw [List.cons_append, emitted_cons, ih, emitted_cons, after_cons,
      List.append_assoc]

end Console
end QueryConsole
