/-
# The workbench

The console with everything around it that the keyboard moves: the active panel, the selected row,
column, tree line and suggestion, the help popup, and the texts of the status bar.

An action of the console is dispatched through the workbench: a question that starts resets the
spinner, an answer resets the selected cell, and the selected tree line stays inside the tree.

Models `App` with `new`, `dispatch`, `submit` and `apply_suggestion`, and `ActivePanel`.
-/

import QueryConsole.Console.State

namespace QueryConsole

/-- The panel that keys go to. -/
inductive Panel where
  | question
  | results
  | schema
  | suggestions
  deriving DecidableEq, Repr

namespace Panel

/-- The panel that the Tab key goes to. -/
def next : Panel → Panel
  | question => results
  | results => schema
  | schema => suggestions
  | suggestions => question

/-- The name of a panel. -/
def name : Panel → String
  | question => "QueryInput"
  | results => "Results"
  | schema => "Schema"
  | suggestions => "Suggestions"

end Panel

/-- The console and what the keyboard moves. -/
structure Workbench where
  console : Console
  suggestions : List String
  suggestion : Nat
  row : Nat
  column : Nat
  columnScroll : Nat
  columnsVisible : Nat
  treeLine : Nat
  panel : Panel
  quit : Bool
  help : Bool
  message : Option String
  error : Option String
  spinner : Nat
  endpoint : String
  deriving DecidableEq

/-- A file that was written. -/
structure ExportedFile where
  name : String
  content : String
  deriving DecidableEq, Repr

/-- The workbench after something happened, the effects of the console, and a file that was
written. -/
structure Step where
  bench : Workbench
  effects : List Effect
  file : Option ExportedFile
  deriving DecidableEq

/-- What the workbench finds outside: the time stamp for file names, and why writing a file or
copying a text fails, if it does. -/
structure Outside where
  stamp : String
  fileError : Option String
  clipboardError : Option String

namespace Workbench

/-- The pictures of the spinner. -/
def spinnerFrames : List Char := ['⠋', '⠙', '⠹', '⠸', '⠼', '⠴', '⠦', '⠧', '⠇', '⠏']

/-- A workbench that has not started yet. -/
def start (defaultDatabase : String) (singleDatabase : Bool) (suggestions : List String)
    (endpoint : String) : Workbench where
  console := .start defaultDatabase singleDatabase
  suggestions := suggestions
  suggestion := 0
  row := 0
  column := 0
  columnScroll := 0
  columnsVisible := 5
  treeLine := 0
  panel := .question
  quit := false
  help := false
  message := none
  error := none
  spinner := 0
  endpoint := endpoint

/-- The view of the answer that is shown. -/
def results? (b : Workbench) : Option ResultView := b.console.view.results?

/-- The workbench, with nothing else to do. -/
def stay (b : Workbench) : Step := ⟨b, [], none⟩

/-- The workbench after the console changed from another state. -/
def settle (b : Workbench) (console : Console) : Workbench :=
  let wasLoading := b.console.view.isLoading
  let b := { b with console }
  let b := if console.view.isLoading && !wasLoading then { b with spinner := 0 } else b
  let b :=
    if console.view.results?.isSome && wasLoading then
      { b with row := 0, column := 0, columnScroll := 0 }
    else b
  { b with treeLine := min b.treeLine (console.schema.lines.length - 1) }

/-- The workbench after an action of the console. -/
def dispatch (phrases : Phrases) (b : Workbench) (action : Action) : Step :=
  let (console, effects) := b.console.reduce phrases action
  ⟨b.settle console, effects, none⟩

/-- The workbench without texts in the status bar. -/
def clearStatus (b : Workbench) : Workbench := { b with message := none, error := none }

/-- Submits the question in the box. -/
def submit (phrases : Phrases) (b : Workbench) : Step := b.clearStatus.dispatch phrases .submit

/-- Submits a suggestion and goes to the question box. -/
def applySuggestion (phrases : Phrases) (b : Workbench) (index : Nat) : Step :=
  match b.suggestions[index]? with
  | some text =>
    dispatch phrases { b.clearStatus with suggestion := index, panel := .question }
      (.applySuggestion text)
  | none => b.stay

/-- The spinner one picture on, while a question is under way. -/
def spin (b : Workbench) : Workbench :=
  if b.console.view.isLoading then { b with spinner := (b.spinner + 1) % spinnerFrames.length }
  else b

end Workbench
end QueryConsole
