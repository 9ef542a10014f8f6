/-
# Help

A popup over the other panels that lists the keys: those that work everywhere and those of the
results on the left, those of the schema and the suggestions on the right.

Models `draw_help_popup`, with `section`, `binding` and `centered_rect`.
-/

import QueryConsole.Screen.Border
import QueryConsole.Screen.Paragraph
import QueryConsole.Phrases

namespace QueryConsole
namespace Help

/-- The heading of a section. -/
def heading (text : String) : List Span := [⟨text, .info⟩]

/-- Keys and what they do. -/
def binding (keys description : String) : List Span :=
  [⟨"  " ++ String.ofList (keys.toList.rightpad 18 ' '), .warning⟩, ⟨description, .normal⟩]

/-- The left column. -/
def leftLines (phrases : Phrases) : List (List Span) :=
  [heading phrases.helpSectionGlobal, [],
    binding "Ctrl+E / Enter" phrases.helpSubmit,
    binding "Shift/Alt+Enter" phrases.helpNewline,
    binding "Ctrl+U" phrases.helpClear,
    binding "Tab" phrases.helpNextPanel,
    binding "Alt+1..9" phrases.helpSuggestion,
    binding "F5" phrases.helpRefresh,
    binding "F1" phrases.helpToggle,
    binding "Ctrl+Q" phrases.helpQuit, [],
    heading phrases.helpSectionResults, [],
    binding "↑↓←→ / hjkl" phrases.helpNavigate,
    binding "y / Enter" phrases.helpCopyCell,
    binding "Ctrl+Y" phrases.helpCopyQuery,
    binding "Ctrl+S" phrases.helpExportCsv,
    binding "Ctrl+O" phrases.helpExportJson]

/-- The right column. -/
def rightLines (phrases : Phrases) : List (List Span) :=
  [heading phrases.helpSectionSchema, [],
    binding "↑↓" phrases.helpNavigate,
    binding "Enter / Space" phrases.helpToggleTable,
    binding "← → / [ ]" phrases.helpSwitchDatabase,
    binding "r" phrases.helpRefresh, [],
    heading phrases.helpSectionSuggestions, [],
    binding "↑↓" phrases.helpNavigate,
    binding "Enter" phrases.helpRunSuggestion]

/-- The area of the popup, in the middle of the screen. -/
def area (screen : Area) : Area :=
  let left := Share.percent screen.width 18
  let top := Share.percent screen.height 15
  ⟨screen.left + left, screen.top + top, Share.percent screen.width 82 - left,
    Share.percent screen.height 85 - top⟩

/-- Draws the popup. -/
def draw (phrases : Phrases) (screen : Area) (c : Canvas) : Canvas :=
  let a := area screen
  let c := (c.clear a).drawBorder a
    ⟨.popupBorder, [⟨" " ++ phrases.helpTitle ++ " ", .title⟩], [], .popup⟩
  let (left, right) := a.inner.splitLeft (Share.percent a.inner.width 50)
  (c.drawLines left .left (leftLines phrases)).drawLines right .left (rightLines phrases)

end Help
end QueryConsole
