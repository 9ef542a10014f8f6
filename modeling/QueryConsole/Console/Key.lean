/-
# Keys

A key press is a key with the modifiers held down.
-/

namespace QueryConsole

/-- A key of the keyboard. -/
inductive Key where
  | enter
  | tab
  | backTab
  | escape
  | backspace
  | delete
  | insert
  | left
  | right
  | up
  | down
  | home
  | endKey
  | pageUp
  | pageDown
  | function (number : Nat)
  | char (c : Char)
  deriving DecidableEq, Repr

/-- The modifiers held down. -/
structure Modifiers where
  ctrl : Bool
  alt : Bool
  shift : Bool
  deriving DecidableEq, Repr

namespace Modifiers

/-- No modifier. -/
def none : Modifiers := ⟨false, false, false⟩

end Modifiers

/-- A key with its modifiers. -/
structure KeyPress where
  key : Key
  modifiers : Modifiers
  deriving DecidableEq, Repr

namespace KeyPress

/-- A character key without modifiers. -/
def plain (c : Char) : KeyPress := ⟨.char c, .none⟩

/-- Whether the press is the character with the control key. -/
def isCtrl (p : KeyPress) (c : Char) : Bool := p.modifiers.ctrl && p.key = .char c

end KeyPress
end QueryConsole
