/-
# Running calls

The calls that effects ask for run one beside the other and settle in any order; a settled call puts
one action at the end of a queue.  A schema load or a question supersedes the call of its own kind
that is still running: that call is cancelled, or never starts if it was asked for a moment ago.
Listing databases is never superseded.

Models `EffectRunner` with `run` and `run_one`, `supersede`, and the channel of actions.
-/

import QueryConsole.Console.State

namespace QueryConsole

/-- A call that was asked for. -/
inductive Task where
  | databases
  | schema (generation : Nat) (database : Option String)
  | query (generation : Nat) (request : QueryRequest)
  deriving DecidableEq

/-- The state of a call that has started. -/
inductive TaskStatus where
  | pending
  | answered
  | cancelled
  deriving DecidableEq, Repr

namespace TaskStatus

/-- The name of a status. -/
def name : TaskStatus → String
  | pending => "pending"
  | answered => "answered"
  | cancelled => "cancelled"

end TaskStatus

namespace Task

/-- The call that an effect asks for. -/
def ofEffect? : Effect → Option Task
  | .fetchDatabases => some databases
  | .loadSchema generation database => some (schema generation database)
  | .submitQuery generation request => some (query generation request)
  | .notify _ => none

/-- Whether a call is superseded by a later one. -/
def isSupersededBy : (later earlier : Task) → Bool
  | schema _ _, schema _ _ => true
  | query _ _, query _ _ => true
  | _, _ => false

end Task

/-- What a call brings: names of databases, a schema, or the outcome of a question. -/
inductive Settlement where
  | databases (result : Except CallError (List String))
  | schema (result : Except CallError Schema)
  | query (result : Except CallError QueryOutcome)

namespace Settlement

/-- The action of a call that settles, where the settlement is of its kind. -/
def action? : Settlement → Task → Option Action
  | databases result, .databases => some (.databasesLoaded result)
  | schema result, .schema generation _ => some (.schemaLoaded generation result)
  | query result, .query generation _ => some (.querySettled generation result)
  | _, _ => none

end Settlement

/-- The calls: those that have started, in order, those that start next, and the actions that wait
in the queue. -/
structure Calls where
  started : List (Task × TaskStatus)
  waiting : List Task
  queue : List Action

namespace Calls

/-- No calls. -/
def none : Calls := ⟨[], [], []⟩

/-- The calls without those that a later one supersedes. -/
def supersede (c : Calls) (later : Task) : Calls where
  started := c.started.map fun (task, status) =>
    (task, if status = .pending && later.isSupersededBy task then .cancelled else status)
  waiting := c.waiting.filter fun task => !later.isSupersededBy task
  queue := c.queue

/-- One more call. -/
def spawn (c : Calls) (task : Task) : Calls :=
  let c := c.supersede task
  { c with waiting := c.waiting ++ [task] }

/-- The calls that effects ask for. -/
def run (c : Calls) (effects : List Effect) : Calls :=
  (effects.filterMap Task.ofEffect?).foldl spawn c

/-- The waiting calls started. -/
def begin (c : Calls) : Calls :=
  { c with started := c.started ++ c.waiting.map (·, .pending), waiting := [] }

/-- A pending call settled: its action goes into the queue.  None where the call is not pending. -/
def settle? (c : Calls) (index : Nat) (settlement : Settlement) : Option Calls :=
  match c.started[index]? with
  | some (task, .pending) =>
    (settlement.action? task).map fun action =>
      { c with started := c.started.set index (task, .answered), queue := c.queue ++ [action] }
  | _ => .none

end Calls
end QueryConsole
