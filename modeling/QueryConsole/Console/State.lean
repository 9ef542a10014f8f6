/-
# The console

The state of the console and how actions change it.  An action returns the effects that are to be
carried out: calls to the service, and notifications.

Two kinds of calls can be superseded, questions and schema loads.  Each carries a generation; when
it settles, its result counts only if no later call of its kind was issued, and a question counts
only while the view waits for it.

Models `ConsoleState`, `QueryView`, `Action`, `Effect` and `reduce`, with `begin_schema_load`,
`begin_submit` and `fail`.
-/

import QueryConsole.Console.Editor
import QueryConsole.Console.Generation
import QueryConsole.Console.Notification
import QueryConsole.Console.SchemaTree
import QueryConsole.Console.Selector
import QueryConsole.Results.View
import QueryConsole.Service.CallError
import QueryConsole.Service.Request

namespace QueryConsole

/-- What the results panel shows. -/
inductive QueryView where
  | idle
  | loading (generation : Nat)
  | results (view : ResultView)
  | error (message : String)
  deriving DecidableEq

/-- The state of the console. -/
structure Console where
  input : Editor
  view : QueryView
  databases : DatabaseSelector
  schema : SchemaTree
  queries : GenerationCounter
  schemaLoads : GenerationCounter
  defaultDatabase : String
  singleDatabase : Bool
  deriving DecidableEq

/-- What happens to the console: a wish of the user, or the result of a call. -/
inductive Action where
  | startup
  | submit
  | applySuggestion (text : String)
  | databasesLoaded (result : Except CallError (List String))
  | selectDatabase (index : Nat)
  | refreshSchema
  | schemaLoaded (generation : Nat) (result : Except CallError Schema)
  | querySettled (generation : Nat) (result : Except CallError QueryOutcome)
  | toggleTable (index : Nat)

/-- What the console wants done. -/
inductive Effect where
  | fetchDatabases
  | loadSchema (generation : Nat) (database : Option String)
  | submitQuery (generation : Nat) (request : QueryRequest)
  | notify (notification : Notification)
  deriving DecidableEq

namespace QueryView

/-- Whether a question is under way. -/
def isLoading : QueryView → Bool
  | loading _ => true
  | _ => false

/-- The view of an answer, where one is shown. -/
def results? : QueryView → Option ResultView
  | results view => some view
  | _ => none

end QueryView

namespace Console

/-- A console that has not started yet. -/
def start (defaultDatabase : String) (singleDatabase : Bool) : Console where
  input := .empty
  view := .idle
  databases := .empty
  schema := .loading
  queries := .start
  schemaLoads := .start
  defaultDatabase := defaultDatabase
  singleDatabase := singleDatabase

/-- The load of the selected database's schema; it supersedes every earlier one. -/
def beginSchemaLoad (s : Console) : Console × List Effect :=
  ({ s with schema := .loading, schemaLoads := s.schemaLoads.issue },
    [.loadSchema s.schemaLoads.next s.databases.selectedName])

/-- The question in the box; a blank one changes nothing. -/
def beginSubmit (s : Console) : Console × List Effect :=
  let database := if s.singleDatabase then none else s.databases.selectedName
  match QueryRequest.ofText? s.input.text database with
  | none => (s, [])
  | some request =>
    ({ s with view := .loading s.queries.next, queries := s.queries.issue },
      [.submitQuery s.queries.next request])

/-- A failure, shown where its kind says. -/
def fail (s : Console) (n : Notification) : Console × List Effect :=
  let s := match n.surface with
    | .queryErrorView => { s with view := .error n.message }
    | .schemaPanel => { s with schema := .failed }
    | .logOnly => s
  (s, [.notify n])

/-- The list of databases. -/
def databasesLoaded (phrases : Phrases) (s : Console) :
    Except CallError (List String) → Console × List Effect
  | .ok names =>
    beginSchemaLoad { s with databases := .populate names s.defaultDatabase }
  | .error e =>
    let (s, notes) :=
      fail { s with databases := .empty } ⟨.databaseList, phrases.databasesFailed, some e.message⟩
    let (s, effects) := s.beginSchemaLoad
    (s, notes ++ effects)

/-- The result of a schema load that was not superseded. -/
def schemaLoaded (phrases : Phrases) (s : Console) :
    Except CallError Schema → Console × List Effect
  | .ok schema => ({ s with schema := .ofSchema schema }, [])
  | .error e => s.fail ⟨.schemaLoad, phrases.schemaFailed, some e.message⟩

/-- The result of the question that the view waits for. -/
def querySettled (phrases : Phrases) (s : Console) :
    Except CallError QueryOutcome → Console × List Effect
  | .ok (.success answer) => ({ s with view := .results (.ofSuccess phrases answer) }, [])
  | .ok (.failure message) => s.fail ⟨.queryRejected, message, none⟩
  | .error e => s.fail ⟨.queryTransport, phrases.connectionFailed, some e.message⟩

/-- The console after an action, and the effects of the action. -/
def reduce (phrases : Phrases) (s : Console) : Action → Console × List Effect
  | .startup => ({ s with schema := .loading }, [.fetchDatabases])
  | .submit => s.beginSubmit
  | .applySuggestion text => beginSubmit { s with input := .ofText text }
  | .databasesLoaded result => s.databasesLoaded phrases result
  | .selectDatabase index =>
    match s.databases.select? index with
    | some databases => beginSchemaLoad { s with databases }
    | none => (s, [])
  | .refreshSchema => s.beginSchemaLoad
  | .schemaLoaded generation result =>
    if s.schemaLoads.isCurrent generation then s.schemaLoaded phrases result else (s, [])
  | .querySettled generation result =>
    if s.queries.isCurrent generation ∧ s.view = .loading generation then
      s.querySettled phrases result
    else (s, [])
  | .toggleTable index => ({ s with schema := s.schema.toggle index }, [])

end Console
end QueryConsole
