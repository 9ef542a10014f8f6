/-
# Capital letters

The full capital form of a character: one letter for most, two or three for some, the character
itself where it has none.
-/

import QueryConsole.Text.Capital.Table

namespace QueryConsole
namespace Capital

/-- The one-letter capital of a code point, as the table of distances gives it. -/
def shifted? (n : Nat) : Option Nat :=
  (capitalShift.find? fun (first, last, step, _) =>
      first ≤ n && n ≤ last && (n - first) % step == 0).map
    fun (_, _, _, distance) => ((n : Int) + distance).toNat

/-- The full capital form of a character. -/
def ofChar (c : Char) : List Char :=
  if c.toNat < 0x80 then [c.toUpper]
  else
    match capitalSequence.find? fun (n, _) => n == c.toNat with
    | some (_, letters) => letters.map Char.ofNat
    | none =>
      match shifted? c.toNat with
      | some n => [Char.ofNat n]
      | none => [c]

end Capital
end QueryConsole
