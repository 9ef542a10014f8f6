/-
# The side panels

The schema panel shows the selected database and the schema tree; the panel below it shows the
suggestions, the first nine with their shortcuts.

Models `draw_schema_explorer`, `draw_database_selector` and `draw_suggestions`.
-/

import QueryConsole.Screen.Border
import QueryConsole.Screen.ItemList
import QueryConsole.Screen.Paragraph
import QueryConsole.Screen.QuestionBox
import QueryConsole.Screen.ResultsPanel

namespace QueryConsole

namespace TreeLine

/-- A line of the schema tree. -/
def spans : TreeLine → List Span
  | header _ t =>
    [⟨if t.expanded then "▼ " else "▶ ", .info⟩, ⟨t.name, .normal⟩,
      ⟨" (" ++ Decimal.text t.columns.length ++ ")", .dim⟩]
  | column _ name => [⟨"    • ", .dim⟩, ⟨name, .dim⟩]

end TreeLine

namespace SchemaTree

/-- The text that the panel shows in place of a tree, and its style. -/
def note? (phrases : Phrases) : SchemaTree → Option Span
  | loading => some ⟨phrases.schemaLoading, .muted⟩
  | failed => some ⟨phrases.schemaFailed, .error⟩
  | loaded [] => some ⟨phrases.schemaEmpty, .muted⟩
  | loaded (_ :: _) => none

end SchemaTree

namespace Workbench

/-- The line that shows the selected database and its place in the list. -/
def selectorLine (phrases : Phrases) (b : Workbench) : List Span :=
  let arrow : Style := if b.panel = .schema then .info else .dim
  let s := b.console.databases
  match s.selectedName, s.selected with
  | some name, some index =>
    [⟨"◀ ", arrow⟩, ⟨name, .success⟩, ⟨" ▶", arrow⟩,
      ⟨"  " ++ Decimal.text (index + 1) ++ "/" ++ Decimal.text s.names.length, .dim⟩]
  | _, _ => [⟨phrases.defaultDatabase, .dim⟩]

/-- Draws the schema panel. -/
def drawSchema (phrases : Phrases) (b : Workbench) (a : Area) (c : Canvas) : Canvas :=
  let active : Bool := b.panel = .schema
  let c := c.drawBorder a (.titled (.border active) (panelTitle phrases.schemaTitle active))
  let (top, rest) := a.inner.splitTop (Share.giveWay a.inner.height 2 1)
  let c := c.drawLines top .left [b.selectorLine phrases]
  match b.console.schema.note? phrases with
  | some note => c.drawLines rest .left [[note]]
  | none =>
    c.drawItems rest (b.console.schema.lines.map TreeLine.spans)
      (if active then some b.treeLine else none)

/-- The line of a suggestion. -/
def suggestionLine (text : String) (index : Nat) : List Span :=
  [⟨if index < 9 then Decimal.text (index + 1) ++ " " else "  ", .info⟩, ⟨text, .normal⟩]

/-- Draws the panel of suggestions. -/
def drawSuggestions (phrases : Phrases) (b : Workbench) (a : Area) (c : Canvas) : Canvas :=
  let active : Bool := b.panel = .suggestions
  let c := c.drawBorder a (.titled (.border active) (panelTitle phrases.suggestionsTitle active))
  c.drawItems a.inner (b.suggestions.zipIdx.map fun (text, index) => suggestionLine text index)
    (if active then some b.suggestion else none)

end Workbench
end QueryConsole
