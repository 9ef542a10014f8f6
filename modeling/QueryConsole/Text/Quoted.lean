/-
# Quoted text

A text between quotes, or a character between apostrophes, with everything that would not show as
itself written as an escape:

| character | escape |
| --- | --- |
| NUL, tab, line feed, carriage return | `\0`, `\t`, `\n`, `\r` |
| backslash and the surrounding quote | itself after a backslash |
| other unprintable characters | `\u`, then the code point in braces, in lower-case hexadecimal |
-/

import QueryConsole.Text.Unprintable

namespace QueryConsole
namespace Text

/-- The code point in braces, in lower-case hexadecimal. -/
def codePointEscape (c : Char) : List Char :=
  '\\' :: 'u' :: '\x7b' :: Nat.toDigits 16 c.toNat ++ ['\x7d']

/-- A character inside quotes of the given kind. -/
def escaped (quote c : Char) : List Char :=
  if c = '\x00' then ['\\', '0']
  else if c = '\t' then ['\\', 't']
  else if c = '\n' then ['\\', 'n']
  else if c = '\r' then ['\\', 'r']
  else if c = '\\' ∨ c = quote then ['\\', c]
  else if unprintable.contains c then codePointEscape c
  else [c]

/-- A text in quotes. -/
def quoted (cs : List Char) : List Char :=
  '"' :: cs.flatMap (escaped '"') ++ ['"']

/-- A character in apostrophes. -/
def quotedChar (c : Char) : List Char :=
  '\'' :: escaped '\'' c ++ ['\'']

end Text
end QueryConsole
