/-
# Keyboard and mouse

A key press asks for a command, or for nothing.  Keys that work everywhere come first, then the help
popup takes the rest while it is open, then keys that work in every panel, and last the keys of the
active panel.

| key | everywhere |
| --- | --- |
| Ctrl+C, Ctrl+Q | quit |
| F1 | help |
| Tab, Escape | next panel, question box |
| Ctrl+E, Alt+1 … Alt+9 | submit the question, a suggestion |
| F5 | reload the schema |
| Ctrl+S, Ctrl+O, Ctrl+Y | export CSV, export JSON, copy the generated query |

The tests of keys are in `command?`, `shortcut?` and the commands of the panels; what a command does
is in `run`.

Models `handle_key`, with `handle_query_editor`, `handle_schema` and `handle_suggestions`,
`handle_mouse`, `scroll_up` and `scroll_down`.
-/

import QueryConsole.Workbench.Results

namespace QueryConsole

/-! ## Commands -/

namespace Workbench

/-- What a key press asks of the schema panel. -/
inductive SchemaCommand where
  | up
  | down
  | toggle
  | nextDatabase
  | previousDatabase
  | refresh
  deriving DecidableEq, Repr

/-- The command of a key press in the schema panel. -/
def schemaCommand? (p : KeyPress) : Option SchemaCommand :=
  match p.key with
  | .up | .char 'k' => some .up
  | .down | .char 'j' => some .down
  | .enter | .char ' ' => some .toggle
  | .right | .char ']' => some .nextDatabase
  | .left | .char '[' => some .previousDatabase
  | .char 'r' | .char 'R' => some .refresh
  | _ => none

/-- What a key press asks of the panel of suggestions. -/
inductive SuggestionsCommand where
  | up
  | down
  | apply
  deriving DecidableEq, Repr

/-- The command of a key press in the panel of suggestions. -/
def suggestionsCommand? (p : KeyPress) : Option SuggestionsCommand :=
  match p.key with
  | .up | .char 'k' => some .up
  | .down | .char 'j' => some .down
  | .enter | .char ' ' => some .apply
  | _ => none

/-- What a key press asks for: something that is to be had everywhere, or in a panel. -/
inductive Command where
  | quit
  | toggleHelp
  | closeHelp
  | nextPanel
  | submit
  | refresh
  | exportAs (format : ExportFormat)
  | copyQuery
  | suggestion (digit : Char)
  | toQuestion
  | question (command : Editor.Command)
  | results (command : ResultsCommand)
  | schema (command : SchemaCommand)
  | suggestions (command : SuggestionsCommand)
  deriving DecidableEq, Repr

end Workbench

/-- The command of a key press in a panel. -/
def Panel.command? (panel : Panel) (p : KeyPress) : Option Workbench.Command :=
  match panel with
  | .question => (Editor.command? p).map .question
  | .results => (Workbench.resultsCommand? p).map .results
  | .schema => (Workbench.schemaCommand? p).map .schema
  | .suggestions => (Workbench.suggestionsCommand? p).map .suggestions

namespace Workbench

/-- The digit of the suggestion that a key press asks for: Alt and a digit from 1 to 9. -/
def suggestionDigit? (p : KeyPress) : Option Char :=
  match p.key with
  | .char c => if p.modifiers.alt ∧ '1' ≤ c ∧ c ≤ '9' then some c else none
  | _ => none

/-- The command of a key that works in every panel while no help is open. -/
def shortcut? (p : KeyPress) : Option Command :=
  if p.key = .tab then some .nextPanel
  else if p.isCtrl 'e' then some .submit
  else if p.key = .function 5 then some .refresh
  else if p.isCtrl 's' then some (.exportAs .csv)
  else if p.isCtrl 'o' then some (.exportAs .json)
  else if p.isCtrl 'y' then some .copyQuery
  else (suggestionDigit? p).map .suggestion

/-- The command of a key press. -/
def command? (b : Workbench) (p : KeyPress) : Option Command :=
  if p.isCtrl 'c' || p.isCtrl 'q' then some .quit
  else if p.key = .function 1 then some .toggleHelp
  else if b.help then if p.key = .escape then some .closeHelp else none
  else
    (shortcut? p).or <|
      if p.key = .escape ∧ b.panel ≠ .question then some .toQuestion else b.panel.command? p

/-! ## What commands do -/

/-- The workbench after a command in the question box. -/
def runQuestion (phrases : Phrases) (b : Workbench) : Editor.Command → Step
  | .submit => b.submit phrases
  | command => stay { b with console := { b.console with input := b.console.input.run command } }

/-- Expands or collapses the table under the selected line; a table that was collapsed keeps the
selection on its header. -/
def toggleTable (phrases : Phrases) (b : Workbench) : Step :=
  match b.console.schema.tableAtLine? b.treeLine with
  | none => b.stay
  | some table =>
    let step := b.dispatch phrases (.toggleTable table)
    let schema := step.bench.console.schema
    match schema.lineOfTable? table, schema.tables[table]? with
    | some line, some t =>
      if t.expanded then step else { step with bench := { step.bench with treeLine := line } }
    | _, _ => step

/-- Selects a database, if there is one to select. -/
def selectDatabase (phrases : Phrases) (b : Workbench) (index : Option Nat) : Step :=
  match index with
  | some index => dispatch phrases { b with treeLine := 0 } (.selectDatabase index)
  | none => b.stay

/-- The workbench after a command in the schema panel. -/
def runSchema (phrases : Phrases) (b : Workbench) : SchemaCommand → Step
  | .up => stay { b with treeLine := b.treeLine - 1 }
  | .down =>
    if b.treeLine < b.console.schema.lines.length - 1 then
      stay { b with treeLine := b.treeLine + 1 }
    else b.stay
  | .toggle => b.toggleTable phrases
  | .nextDatabase => b.selectDatabase phrases b.console.databases.next?
  | .previousDatabase => b.selectDatabase phrases b.console.databases.previous?
  | .refresh => dispatch phrases { b with treeLine := 0 } .refreshSchema

/-- The workbench after a command in the panel of suggestions. -/
def runSuggestions (phrases : Phrases) (b : Workbench) : SuggestionsCommand → Step
  | .up => stay { b with suggestion := b.suggestion - 1 }
  | .down =>
    if b.suggestion + 1 < b.suggestions.length then stay { b with suggestion := b.suggestion + 1 }
    else b.stay
  | .apply => b.applySuggestion phrases b.suggestion

/-- The workbench after a command. -/
def run (phrases : Phrases) (outside : Outside) (b : Workbench) : Command → Step
  | .quit => stay { b with quit := true }
  | .toggleHelp => stay { b with help := !b.help }
  | .closeHelp => stay { b with help := false }
  | .nextPanel => stay { b with panel := b.panel.next }
  | .submit => b.submit phrases
  | .refresh => b.dispatch phrases .refreshSchema
  | .exportAs format => b.exportTable phrases outside format
  | .copyQuery => stay (b.copyQuery phrases outside)
  | .suggestion digit => b.applySuggestion phrases (digit.toNat - '1'.toNat)
  | .toQuestion => stay { b with panel := .question }
  | .question command => b.runQuestion phrases command
  | .results command => stay (b.runResults phrases outside command)
  | .schema command => b.runSchema phrases command
  | .suggestions command => b.runSuggestions phrases command

/-- A key press. -/
def handleKey (phrases : Phrases) (outside : Outside) (b : Workbench) (p : KeyPress) : Step :=
  match b.command? p with
  | some command => b.run phrases outside command
  | none => b.stay

/-! ## Events -/

/-- The number of lines that the mouse wheel scrolls. -/
def wheelLines : Nat := 3

/-- The selection of the active panel some lines up. -/
def scrollUp (b : Workbench) (amount : Nat) : Workbench :=
  match b.panel with
  | .results => { b with row := b.row - amount }
  | .schema => { b with treeLine := b.treeLine - amount }
  | .suggestions => { b with suggestion := b.suggestion - amount }
  | .question => b

/-- The selection of the active panel some lines down, at most to the last one. -/
def scrollDown (b : Workbench) (amount : Nat) : Workbench :=
  match b.panel with
  | .results =>
    let rows := (b.results?.map fun v => v.table.rowCount).getD 0
    { b with row := min (b.row + amount) (rows - 1) }
  | .schema => { b with treeLine := min (b.treeLine + amount) (b.console.schema.lines.length - 1) }
  | .suggestions => { b with suggestion := min (b.suggestion + amount) (b.suggestions.length - 1) }
  | .question => b

/-- An event of the terminal: a key press, the mouse wheel, or one that changes nothing. -/
inductive Event where
  | key (p : KeyPress)
  | wheelUp
  | wheelDown
  | ignored
  deriving DecidableEq, Repr

/-- An event of the terminal. -/
def handleEvent (phrases : Phrases) (outside : Outside) (b : Workbench) : Event → Step
  | .key p => b.handleKey phrases outside p
  | .wheelUp => stay (b.scrollUp wheelLines)
  | .wheelDown => stay (b.scrollDown wheelLines)
  | .ignored => b.stay

end Workbench
end QueryConsole
