/-
# Turns of the loop

What a turn of the loop does to the workbench is a run of moves (`bench_turn`), and the frame that it
draws is the one of the workbench that these moves lead to (`frame_turn`).  What it does to the console
and its calls is a run of a session (`leadsTo_turn`): the calls go on, the queue is drained, and the
event edits the box or dispatches a wish of the user.

So what holds of every run holds of the application while it is running: the workbench of every turn
is one that a run leads to (`exists_after_loop`), and it waits for nothing in vain (`carried_loop`).
-/

import QueryConsole.Proofs.Console.Session
import QueryConsole.Proofs.Workbench.ConsoleRun
import QueryConsole.Workbench.Loop

namespace QueryConsole

variable {phrases : Phrases}

/-! ## Runs of sessions -/

namespace Session

variable {s s' s'' : Session}

/-- Whether a run of moves leads from one session to another. -/
def LeadsTo (phrases : Phrases) (s s' : Session) : Prop := ∃ moves, s.run? phrases moves = some s'

theorem LeadsTo.refl (s : Session) : s.LeadsTo phrases s := ⟨[], rfl⟩

theorem LeadsTo.trans (h : s.LeadsTo phrases s') (h' : s'.LeadsTo phrases s'') :
    s.LeadsTo phrases s'' := by
  obtain ⟨moves, hmoves⟩ := h
  obtain ⟨moves', hmoves'⟩ := h'
  refine ⟨moves ++ moves', ?_⟩
  rw [run?, List.foldlM_append]
  exact Option.bind_eq_some_iff.2 ⟨s', hmoves, hmoves'⟩

theorem LeadsTo.of_move {m : Move} (h : s.move? phrases m = some s') : s.LeadsTo phrases s' :=
  ⟨[m], by rw [run?, List.foldlM_cons, h]; rfl⟩

/-- What is waited for stays carried. -/
theorem LeadsTo.carried {started : Prop} (h : s.LeadsTo phrases s') (hs : Carried started s) :
    Carried started s' := by
  obtain ⟨moves, hmoves⟩ := h
  have hcarried := hs.run hmoves
  exact ⟨hcarried.question, hcarried.schema.mono .inl⟩

end Session

/-- Effects put nothing into the queue. -/
theorem Calls.queue_run (c : Calls) (effects : List Effect) : (c.run effects).queue = c.queue := by
  unfold run
  generalize effects.filterMap Task.ofEffect? = tasks
  induction tasks generalizing c with
  | nil => rfl
  | cons task tasks ih => exact ih (c.spawn task)

namespace Application

open Workbench (Move)

variable {a : Application}

/-- The console of an application with its calls. -/
def session (a : Application) : Session := ⟨a.bench.console, a.calls⟩

theorem session_dispatch (action : Action) :
    (a.dispatch phrases action).session = a.session.dispatch phrases action := by
  have hconsole : (a.dispatch phrases action).bench.console =
      (a.bench.console.reduce phrases action).1 := Workbench.console_settle a.bench _
  rw [session, hconsole]
  rfl

/-! ## The parts of a turn -/

theorem bench_drainQueue (queue : List Action) :
    (a.drainQueue phrases queue).bench = a.bench.after phrases (queue.map .act) := by
  induction queue generalizing a with
  | nil => rfl
  | cons action queue ih => exact ih

/-- Draining takes the oldest action from the queue, again and again. -/
theorem leadsTo_drainQueue {queue : List Action} (h : a.calls.queue = queue) :
    a.session.LeadsTo phrases (a.drainQueue phrases queue).session := by
  induction queue generalizing a with
  | nil => exact .refl _
  | cons action queue ih =>
    have hmove : a.session.move? phrases .drain =
        some (dispatch phrases { a with calls := { a.calls with queue } } action).session := by
      rw [session_dispatch, Session.move?, session, h]
      rfl
    exact (Session.LeadsTo.of_move hmove).trans (ih (Calls.queue_run _ _))

theorem leadsTo_progress (p : Calls.Progress) :
    a.session.LeadsTo phrases (session { a with calls := a.calls.progress p }) := by
  cases p with
  | begin => exact .of_move (m := .begin) rfl
  | settle index settlement =>
    cases hc : a.calls.settle? index settlement with
    | none =>
      rw [Calls.progress, hc]
      exact .refl _
    | some calls =>
      refine .of_move (m := .settle index settlement) ?_
      rw [Session.move?, session, hc, Calls.progress, hc]
      rfl

theorem leadsTo_foldl_progress (progress : List Calls.Progress) :
    a.session.LeadsTo phrases
      (session { a with calls := progress.foldl Calls.progress a.calls }) := by
  induction progress generalizing a with
  | nil => exact .refl _
  | cons p progress ih => exact (leadsTo_progress p).trans ih

/-- A step that edits the box or dispatches a wish is a move of the session. -/
theorem leadsTo_take {step : Step} (h : a.bench.Driven phrases step) :
    a.session.LeadsTo phrases (a.take step).session := by
  obtain ⟨taken, hwish, hconsole, heffects⟩ := h
  have htake : (a.take step).session =
      ⟨a.bench.console.after phrases taken.toList,
        a.calls.run (a.bench.console.emitted phrases taken.toList)⟩ := by
    rw [← hconsole, ← heffects]
    rfl
  rw [htake]
  cases taken with
  | none => exact .refl _
  | some m =>
    cases m with
    | edit input => exact .of_move (m := .edit input) rfl
    | act action =>
      refine .of_move (m := .wish action) ?_
      have hemitted : a.bench.console.emitted phrases [.act action] =
          (a.bench.console.reduce phrases action).2 := List.append_nil _
      have hwish : action.isWish = true := hwish
      rw [Session.move?, if_pos hwish, Option.toList, hemitted]
      rfl

/-! ## Turns -/

/-- The moves of a turn before its frame is drawn. -/
def movesBeforeFrame (a : Application) (t : Turn) : List Move :=
  (t.progress.foldl Calls.progress a.calls).queue.map .act ++ [.spin]

/-- The moves of a turn. -/
def movesOfTurn (a : Application) (t : Turn) : List Move :=
  a.movesBeforeFrame t ++ .draw t.width t.height :: (t.event.map (.event t.outside)).toList

theorem bench_settle (t : Turn) :
    (a.settle phrases t.progress).bench = a.bench.after phrases (a.movesBeforeFrame t) := by
  rw [movesBeforeFrame, Workbench.after_append]
  exact congrArg Workbench.spin (bench_drainQueue _)

/-- **A turn draws what its moves have led to.** -/
theorem frame_turn (t : Turn) :
    (a.turn phrases t).frame =
      ((a.bench.after phrases (a.movesBeforeFrame t)).draw phrases t.width t.height).2 := by
  rw [← bench_settle, turn]
  cases t.event <;> rfl

/-- **A turn is a run of moves.** -/
theorem bench_turn (t : Turn) :
    (a.turn phrases t).application.bench = a.bench.after phrases (a.movesOfTurn t) := by
  rw [movesOfTurn, Workbench.after_append, ← bench_settle, turn]
  cases t.event <;> rfl

theorem leadsTo_settle (progress : List Calls.Progress) :
    a.session.LeadsTo phrases (a.settle phrases progress).session := by
  have hspin : (a.settle phrases progress).session =
      (drain phrases { a with calls := progress.foldl Calls.progress a.calls }).session := by
    rw [settle, session, Workbench.console_spin]
    rfl
  rw [hspin]
  exact (leadsTo_foldl_progress progress).trans (leadsTo_drainQueue rfl)

/-- **A turn is a run of the session.** -/
theorem leadsTo_turn (t : Turn) :
    a.session.LeadsTo phrases (a.turn phrases t).application.session := by
  refine (leadsTo_settle t.progress).trans ?_
  generalize hb : a.settle phrases t.progress = b
  have hframe : session { b with bench := (b.bench.draw phrases t.width t.height).1 } = b.session := by
    rw [session, session, Workbench.draw, Workbench.console_fitTo]
  rw [← hframe, turn, hb]
  cases t.event with
  | none => exact .refl _
  | some e => exact leadsTo_take (Workbench.driven_handleEvent t.outside e)

/-! ## The loop -/

section Loop

variable {turns : List Turn} {result : TurnResult}

/-- What a turn keeps holds after every turn of the loop. -/
theorem loop_induction {P : Application → Prop} (ha : P a)
    (hturn : ∀ a t, P a → P (a.turn phrases t).application) (h : result ∈ a.loop phrases turns) :
    P result.application := by
  induction turns generalizing a with
  | nil => exact absurd h List.not_mem_nil
  | cons t turns ih =>
    rw [loop] at h
    split at h
    · rw [List.mem_singleton.1 h]
      exact hturn a t ha
    · rcases List.mem_cons.1 h with rfl | h
      · exact hturn a t ha
      · exact ih (hturn a t ha) h

variable {database endpoint : String} {single : Bool} {suggestions : List String}

/-- **The workbench of a running application is one that a run leads to**, from one that has not
started yet. -/
theorem exists_after_loop
    (h : result ∈ (start phrases database single suggestions endpoint).loop phrases turns) :
    ∃ moves, result.application.bench =
      (Workbench.start database single suggestions endpoint).after phrases (.act .startup :: moves) := by
  refine loop_induction (P := fun a => ∃ moves, a.bench = Workbench.after phrases
    (.start database single suggestions endpoint) (.act .startup :: moves)) ⟨[], rfl⟩ ?_ h
  rintro a t ⟨moves, hmoves⟩
  refine ⟨moves ++ a.movesOfTurn t, ?_⟩
  rw [bench_turn, hmoves, ← Workbench.after_append, List.cons_append]

theorem carried_startup :
    (start phrases database single suggestions endpoint).session.Carried True := by
  have hmove : (Session.start database single).move? phrases (.wish .startup) =
      some (start phrases database single suggestions endpoint).session := by
    rw [start, session_dispatch]
    rfl
  exact (Session.carried_start database single).startup hmove

/-- **A running application waits for nothing in vain**: after every turn, what its view or its tree
waits for is under way or has arrived. -/
theorem carried_loop
    (h : result ∈ (start phrases database single suggestions endpoint).loop phrases turns) :
    result.application.session.Carried True := by
  refine loop_induction (P := fun a => a.session.Carried True) carried_startup ?_ h
  intro a t ha
  exact (leadsTo_turn t).carried ha

end Loop

end Application
end QueryConsole
