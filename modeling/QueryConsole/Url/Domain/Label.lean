/-
# Labels of domain names

What a label may hold, character by character:

| rule | holds of |
| --- | --- |
| no mark at the start | every label |
| a joiner only behind a virama, or between letters that join | every label |
| one direction | the labels of a name with a letter that is written from right to left |

A label of one direction starts with a letter and ends with a letter or a digit, marks apart.  From
left to right it holds no letter of the other direction; from right to left it holds digits of one
kind.
-/

import QueryConsole.Text.Composition
import QueryConsole.Url.Domain.Label.Table
import QueryConsole.Url.Domain.Spelling
import QueryConsole.Url.Punycode

namespace QueryConsole
namespace Domain

/-- A mark, which may not start a label. -/
def isMark (c : Char) : Bool := nonspacingMarks.contains c || spacingMarks.contains c

/-! ## Joiners -/

/-- Whether a letter is near that joins across what stands before it; marks between are passed
over. -/
def reaches (joins : Ranges) (cs : List Char) : Bool :=
  let isTransparent (c : Char) : Bool := nonspacingMarks.contains c || c.toNat = 0x1E94B
  match cs.dropWhile isTransparent with
  | c :: _ => joins.contains c
  | [] => false

/-- Whether the joiners of a label, of which `front` is passed from its end, stand where they may: a
joiner or a non-joiner behind a virama, and a non-joiner between two letters that join. -/
def joinersStand (front : List Char) : List Char → Bool
  | [] => true
  | c :: cs =>
    (if c.toNat = 0x200C ∨ c.toNat = 0x200D then
      front.head?.any (Composition.markClass · = 9) ||
        (c.toNat = 0x200C && reaches joinsNext front && reaches joinsPrevious cs)
    else true) && joinersStand (c :: front) cs

/-! ## Direction -/

/-- How a character takes part in the direction of a label. -/
inductive Direction where
  | left
  | right
  | arabicNumber
  | europeanNumber
  | neutral
  | mark
  deriving DecidableEq

/-- Marks that count as letters. -/
def isLetterMark (c : Char) : Bool :=
  [0xCBF, 0xCC6, 0x11A07, 0x11A08, 0x11C3F].contains c.toNat

namespace Direction

/-- The part of a character. -/
def ofChar (c : Char) : Direction :=
  if rightToLeft.contains c then right
  else if arabicNumbers.contains c then .arabicNumber
  else if europeanNumbers.contains c then .europeanNumber
  else if neutrals.contains c then .neutral
  else if nonspacingMarks.contains c && !isLetterMark c then mark
  else left

end Direction

/-- Whether a label has one direction; `ds` are the parts of its characters. -/
def hasOneDirection (ds : List Direction) : Bool :=
  let body := (ds.reverse.dropWhile (· = .mark)).reverse
  match ds.head? with
  | none => true
  | some .left =>
    ds.all (fun d => d ≠ .right && d ≠ .arabicNumber) &&
      (body.getLast? = some .left || body.getLast? = some .europeanNumber)
  | some .right =>
    ds.all (· ≠ .left) && body.getLast? ≠ some .neutral &&
      !(ds.contains .arabicNumber && ds.contains .europeanNumber)
  | some _ => false

/-- Whether a name has a letter or a digit that follows the direction from right to left. -/
def isMixed (labels : List (List Char)) : Bool :=
  labels.any (·.any fun c => rightToLeft.contains c || arabicNumbers.contains c)

/-! ## Labels -/

/-- The most characters of a label that are written in Punycode. -/
def mostCharacters : Nat := 1000

/-- The most characters behind `xn--` that are read. -/
def mostDigits : Nat := 2000

/-- Whether the characters of a label may stand so. -/
def isLabel (cs : List Char) : Bool :=
  !cs.head?.any isMark && joinersStand [] cs &&
    (cs.all (·.toNat < 0x80) || cs.length ≤ mostCharacters)

/-- The characters that a label stands for: those written behind `xn--`, which could not be written
without, or its own. -/
def characters? (label : List Char) : Option (List Char) :=
  match label with
  | 'x' :: 'n' :: '-' :: '-' :: digits =>
    if digits.getLast? = some '-' ∨ mostDigits < digits.length then none
    else
      (Punycode.decode? digits).filter fun cs =>
        cs.any (0x80 ≤ ·.toNat) && cs.all (fun c => spell? c = some [c]) &&
          Composition.compose cs = cs
  | cs => some cs

end Domain
end QueryConsole
