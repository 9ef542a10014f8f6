/-
# Header and status bar

The header names the console, the selected database with the address of the service, and the keys
that lead on.  The status bar shows one text: an error before a message, and without either the
progress of a question or a hint.

Models `draw_header` and `draw_status_bar`.
-/

import QueryConsole.Screen.Paragraph
import QueryConsole.Screen.ResultsPanel

namespace QueryConsole

/-- What the status bar shows. -/
inductive Status where
  | error (text : String)
  | message (text : String)
  | loading
  | hint
  deriving DecidableEq, Repr

namespace Workbench

/-- What the status bar shows of the workbench. -/
def status (b : Workbench) : Status :=
  match b.error, b.message with
  | some e, _ => .error e
  | none, some m => .message m
  | none, none => if b.console.view.isLoading then .loading else .hint

/-- The text of the status bar. -/
def statusSpan (phrases : Phrases) (b : Workbench) : Span :=
  match b.status with
  | .error e => ⟨"✗ " ++ e, .error⟩
  | .message m => ⟨"✓ " ++ m, .success⟩
  | .loading => ⟨b.loadingText phrases, .warning⟩
  | .hint => ⟨phrases.statusHint, .dim⟩

/-- Draws the status bar. -/
def drawStatus (phrases : Phrases) (b : Workbench) (a : Area) (c : Canvas) : Canvas :=
  (c.paint a .statusBar).drawLines a .left [[b.statusSpan phrases]]

/-- Draws one of the three texts of the header, in its second row. -/
def drawHeaderText (c : Canvas) (a : Area) (alignment : Alignment) (line : List Span) : Canvas :=
  (c.paint a .headerBar).drawLines a alignment [[], line, []]

/-- Draws the header. -/
def drawHeader (phrases : Phrases) (b : Workbench) (a : Area) (c : Canvas) : Canvas :=
  let (title, rest) := a.splitLeft (Share.firstSide a.width 24 20 30)
  let (service, hints) := rest.splitLeft (rest.width - Share.lastSide a.width 24 20 30)
  let c := drawHeaderText c title .left [⟨" ◆ ", .title⟩, ⟨phrases.appTitle, .normal⟩]
  let c := drawHeaderText c service .left
    [⟨"● ", .success⟩, ⟨b.console.databases.selectedName.getD phrases.defaultDatabase, .normal⟩,
      ⟨" · ", .dim⟩, ⟨b.endpoint, .dim⟩]
  let hint (key text : String) : List Span := [⟨key, .info⟩, ⟨":" ++ text ++ " ", .dim⟩]
  drawHeaderText c hints .right
    (hint "Ctrl+E" phrases.ask ++ hint "Tab" phrases.panel ++ hint "F1" phrases.help)

end Workbench
end QueryConsole
