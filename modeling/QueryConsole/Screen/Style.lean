/-
# Styles

The colours and weight of a cell of the screen.  A style leaves open what it does not set, so it can
be laid over another.  The theme is dark:

| use | colour |
| --- | --- |
| titles, active borders, keys | blue |
| table headers, warnings, the border of the help | amber |
| success, generated queries | green |
| errors | red |

Models `DefaultTheme`.
-/

namespace QueryConsole

/-- A colour of the screen, its parts from 0 to 255. -/
structure Colour where
  red : Nat
  green : Nat
  blue : Nat
  deriving DecidableEq, Repr

namespace Colour

/-- A byte as two hexadecimal digits. -/
def hexByte (n : Nat) : List Char := [Nat.digitChar (n / 16 % 16), Nat.digitChar (n % 16)]

/-- The hexadecimal text of a colour, such as `#0096c7`. -/
def hex (c : Colour) : List Char := '#' :: (hexByte c.red ++ hexByte c.green ++ hexByte c.blue)

def primary : Colour := ⟨0, 150, 199⟩
def accent : Colour := ⟨255, 183, 3⟩
def success : Colour := ⟨80, 200, 120⟩
def error : Colour := ⟨230, 72, 72⟩
def text : Colour := ⟨230, 230, 230⟩
def dim : Colour := ⟨160, 160, 170⟩
def muted : Colour := ⟨100, 100, 110⟩
def comment : Colour := ⟨98, 114, 164⟩
def darkGround : Colour := ⟨22, 22, 30⟩
def panelGround : Colour := ⟨30, 30, 40⟩
def selectedGround : Colour := ⟨0, 95, 135⟩
def highlightGround : Colour := ⟨45, 45, 60⟩

end Colour

/-- What a style sets: the colours, and whether letters are bold or italic. -/
structure Style where
  foreground : Option Colour
  background : Option Colour
  bold : Bool
  italic : Bool
  deriving DecidableEq, Repr

namespace Style

/-- The style that sets nothing. -/
def plain : Style := ⟨none, none, false, false⟩

/-- A colour of letters. -/
def colour (c : Colour) : Style := { plain with foreground := some c }

/-- A style laid over another. -/
def onto (top under : Style) : Style :=
  ⟨top.foreground.or under.foreground, top.background.or under.background,
    top.bold || under.bold, top.italic || under.italic⟩

/-- The text of a colour, or a dash where none is set. -/
def colourText (c : Option Colour) : List Char := (c.map Colour.hex).getD ['-']

/-- The colours and the weight of a style in a report. -/
def report (s : Style) : List Char :=
  colourText s.foreground ++ ',' :: colourText s.background ++ ',' ::
    ((if s.bold then ['B'] else []) ++ if s.italic then ['I'] else [])

def title : Style := { colour .primary with bold := true }
def normal : Style := colour .text
def dim : Style := colour .dim
def muted : Style := { colour .muted with italic := true }
def info : Style := colour .primary
def success : Style := colour .success
def warning : Style := colour .accent
def error : Style := { colour .error with bold := true }
def selected : Style := ⟨some .text, some .selectedGround, true, false⟩
def highlighted : Style := { plain with background := some .highlightGround }
def tableHeader : Style := { colour .accent with bold := true }
def rowNumber : Style := colour .comment
def nullValue : Style := muted
def queryText : Style := colour .success
def headerBar : Style := { plain with background := some .darkGround }
def statusBar : Style := ⟨some .dim, some .panelGround, false, false⟩
def popup : Style := ⟨some .text, some .darkGround, false, false⟩
def popupBorder : Style := colour .accent

/-- The border of a panel. -/
def border (active : Bool) : Style := colour (if active then .primary else .muted)

end Style
end QueryConsole
