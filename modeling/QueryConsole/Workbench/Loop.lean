/-
# The loop of the application

The running application is a workbench with the calls that its console asked for.  It goes round in
turns:

1. the actions that wait in the queue are dispatched, the oldest first,
2. the spinner moves while a question is under way,
3. a frame is drawn,
4. the event that arrives while the loop waits for one is handled,

and there is no further turn once the user has quit.  Beside the loop the calls go on: those that
were asked for start, and those that are pending settle.  How long the loop waits for an event is
left out, and so are a terminal that cannot be drawn on and one that cannot be read.

Models the loop of `App`: `run` with `drain_actions`.
-/

import QueryConsole.Console.Calls
import QueryConsole.Screen.Draw
import QueryConsole.Workbench.Input

namespace QueryConsole

namespace Calls

/-- What happens to calls beside the loop. -/
inductive Progress where
  | begin
  | settle (index : Nat) (settlement : Settlement)

/-- The calls after something happened to them; a call that is not pending does not settle. -/
def progress (c : Calls) : Progress → Calls
  | .begin => c.begin
  | .settle index settlement => (c.settle? index settlement).getD c

end Calls

/-- What a turn of the loop meets: what happened to the calls since the last one, the size of the
screen, what is outside, and the event that arrives, if one does. -/
structure Turn where
  progress : List Calls.Progress
  width : Nat
  height : Nat
  outside : Outside
  event : Option Workbench.Event

/-- A running application: the workbench, and the calls that its console asked for. -/
structure Application where
  bench : Workbench
  calls : Calls

/-- What a turn leads to: the application, the frame that it drew, and a file that was written. -/
structure TurnResult where
  application : Application
  frame : Frame
  file : Option ExportedFile

namespace Application

/-- The application after a step of its workbench: the effects ask for calls. -/
def take (a : Application) (step : Step) : Application := ⟨step.bench, a.calls.run step.effects⟩

/-- The application after an action. -/
def dispatch (phrases : Phrases) (a : Application) (action : Action) : Application :=
  a.take (a.bench.dispatch phrases action)

/-- The application when the loop starts. -/
def start (phrases : Phrases) (defaultDatabase : String) (singleDatabase : Bool)
    (suggestions : List String) (endpoint : String) : Application :=
  dispatch phrases ⟨.start defaultDatabase singleDatabase suggestions endpoint, .none⟩ .startup

/-- The application after the actions of its queue; each leaves the queue and is dispatched. -/
def drainQueue (phrases : Phrases) (a : Application) : List Action → Application
  | [] => a
  | action :: queue =>
    drainQueue phrases (dispatch phrases { a with calls := { a.calls with queue } } action) queue

/-- The application after the actions that wait in its queue. -/
def drain (phrases : Phrases) (a : Application) : Application := a.drainQueue phrases a.calls.queue

/-- The application when a turn draws its frame: the queue is drained, and the spinner has moved. -/
def settle (phrases : Phrases) (a : Application) (progress : List Calls.Progress) : Application :=
  let a := drain phrases { a with calls := progress.foldl Calls.progress a.calls }
  { a with bench := a.bench.spin }

/-- A turn of the loop. -/
def turn (phrases : Phrases) (a : Application) (t : Turn) : TurnResult :=
  let a := a.settle phrases t.progress
  let (bench, frame) := a.bench.draw phrases t.width t.height
  match t.event with
  | none => ⟨{ a with bench }, frame, none⟩
  | some e =>
    let step := bench.handleEvent phrases t.outside e
    ⟨take { a with bench } step, frame, step.file⟩

/-- What the turns of the loop lead to, one by one, until the user quits. -/
def loop (phrases : Phrases) : Application → List Turn → List TurnResult
  | _, [] => []
  | a, t :: turns =>
    let result := a.turn phrases t
    if result.application.bench.quit then [result]
    else result :: loop phrases result.application turns

end Application
end QueryConsole
