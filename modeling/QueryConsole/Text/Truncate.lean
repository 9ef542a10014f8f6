/-
# Cutting texts to a width

A text that is too wide is cut, and an ellipsis marks the cut.

Models `truncate_to_width`.
-/

import QueryConsole.Text.Width

namespace QueryConsole
namespace Text

/-- The longest front part of the characters whose single widths add up to at most `room`. -/
def fitting (room : Nat) : List Char → List Char
  | [] => []
  | c :: cs => if Width.ofChar c ≤ room then c :: fitting (room - Width.ofChar c) cs else []

/-- The characters in at most `width` columns: all of them if they fit, or a front part and an
ellipsis. -/
def truncateChars (cs : List Char) (width : Nat) : List Char :=
  if Width.ofText cs ≤ width then cs
  else if width = 0 then []
  else fitting (width - 1) cs ++ ['…']

/-- A text cut to a width. -/
def truncate (s : String) (width : Nat) : String := String.ofList (truncateChars s.toList width)

end Text
end QueryConsole
