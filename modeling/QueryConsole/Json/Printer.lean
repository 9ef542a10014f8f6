/-
# JSON text

The compact form has no blank characters; the indented form puts every element and member on a line
of its own, two spaces deeper than its array or object.  Strings escape the quote, the backslash and
the controls below U+0020; a double is marked as a fraction, and infinity or a NaN is `null`.
-/

import QueryConsole.Json.Basic

namespace QueryConsole
namespace Json

/-- A character inside a string. -/
def escape (c : Char) : List Char :=
  if c = '"' then ['\\', '"']
  else if c = '\\' then ['\\', '\\']
  else if c = '\x08' then ['\\', 'b']
  else if c = '\t' then ['\\', 't']
  else if c = '\n' then ['\\', 'n']
  else if c = '\x0c' then ['\\', 'f']
  else if c = '\r' then ['\\', 'r']
  else if c.toNat < 0x20 then
    ['\\', 'u', '0', '0', Nat.digitChar (c.toNat / 16), Nat.digitChar (c.toNat % 16)]
  else [c]

/-- A string with its quotes. -/
def stringChars (s : String) : List Char :=
  '"' :: s.toList.flatMap escape ++ ['"']

/-- An integer in decimal. -/
def intChars (n : Int) : List Char :=
  if n < 0 then '-' :: Decimal.digitsOf n.natAbs else Decimal.digitsOf n.natAbs

/-- A double, or `null` where it is not finite. -/
def doubleChars (d : Double) : List Char :=
  if d.isFinite then d.marked else ['n', 'u', 'l', 'l']

mutual

/-- The compact text of a value. -/
def chars : Json → List Char
  | .null => ['n', 'u', 'l', 'l']
  | .bool true => ['t', 'r', 'u', 'e']
  | .bool false => ['f', 'a', 'l', 's', 'e']
  | .int n => intChars n
  | .double d => doubleChars d
  | .str s => stringChars s
  | .arr [] => ['[', ']']
  | .arr (item :: items) => '[' :: item.chars ++ itemChars items
  | .obj [] => ['\x7b', '\x7d']
  | .obj ((key, value) :: members) =>
    '\x7b' :: stringChars key ++ ':' :: value.chars ++ memberChars members

/-- Further elements and the closing bracket. -/
def itemChars : List Json → List Char
  | [] => [']']
  | item :: items => ',' :: item.chars ++ itemChars items

/-- Further members and the closing brace. -/
def memberChars : List (String × Json) → List Char
  | [] => ['\x7d']
  | (key, value) :: members =>
    ',' :: stringChars key ++ ':' :: value.chars ++ memberChars members

end

/-- The compact text of a value. -/
def compact (v : Json) : String := String.ofList v.chars

/-- A new line, indented. -/
def newLine (depth : Nat) : List Char := '\n' :: List.replicate (2 * depth) ' '

mutual

/-- The indented text of a value whose first line is already indented. -/
def indentedChars (depth : Nat) : Json → List Char
  | .arr (item :: items) =>
    '[' :: newLine (depth + 1) ++ item.indentedChars (depth + 1) ++ indentedItems depth items
  | .obj ((key, value) :: members) =>
    '\x7b' :: newLine (depth + 1) ++ stringChars key ++ ':' :: ' ' ::
      value.indentedChars (depth + 1) ++ indentedMembers depth members
  | .arr [] => ['[', ']']
  | .obj [] => ['\x7b', '\x7d']
  | .null => ['n', 'u', 'l', 'l']
  | .bool true => ['t', 'r', 'u', 'e']
  | .bool false => ['f', 'a', 'l', 's', 'e']
  | .int n => intChars n
  | .double d => doubleChars d
  | .str s => stringChars s

/-- Further elements of an array at the given depth, and the closing bracket. -/
def indentedItems (depth : Nat) : List Json → List Char
  | [] => newLine depth ++ [']']
  | item :: items =>
    ',' :: newLine (depth + 1) ++ item.indentedChars (depth + 1) ++ indentedItems depth items

/-- Further members of an object at the given depth, and the closing brace. -/
def indentedMembers (depth : Nat) : List (String × Json) → List Char
  | [] => newLine depth ++ ['\x7d']
  | (key, value) :: members =>
    ',' :: newLine (depth + 1) ++ stringChars key ++ ':' :: ' ' ::
      value.indentedChars (depth + 1) ++ indentedMembers depth members

end

/-- The indented text of a value. -/
def indented (v : Json) : String := String.ofList (v.indentedChars 0)

end Json
end QueryConsole
