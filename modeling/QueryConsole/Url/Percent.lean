/-
# Percent-encoding

A byte that may not stand in a part of a URL is written as `%` and two hexadecimal digits.  A form
field is written with `+` for the space and everything but letters, digits and `*-._` encoded.
-/

import QueryConsole.Text.Hexadecimal
import QueryConsole.Text.Utf8

namespace QueryConsole
namespace Percent

/-- A byte, encoded. -/
def byte (b : UInt8) : List Char :=
  ['%', Text.hexChar (b.toNat / 16), Text.hexChar (b.toNat % 16)]

/-- A character encoded byte by byte. -/
def char (c : Char) : List Char := (String.utf8EncodeChar c).flatMap byte

/-- Characters, those encoded for which `p` holds. -/
def encode (p : Char → Bool) (cs : List Char) : List Char :=
  cs.flatMap fun c => if p c then char c else [c]

/-- The bytes that characters write: encoded bytes decoded, all else as it is. -/
def decode : List Char → List UInt8
  | [] => []
  | '%' :: a :: b :: rest =>
    match Text.hexDigit? a, Text.hexDigit? b with
    | some x, some y => UInt8.ofNat (x * 16 + y) :: decode rest
    | _, _ => String.utf8EncodeChar '%' ++ decode (a :: b :: rest)
  | c :: rest => String.utf8EncodeChar c ++ decode rest

/-- Characters that stand for themselves in a form field. -/
def isFormPlain (c : Char) : Bool :=
  c.isAlphanum || c = '*' || c = '-' || c = '.' || c = '_'

/-- A character of a form field. -/
def formChar (c : Char) : List Char :=
  if c = ' ' then ['+'] else if isFormPlain c then [c] else char c

/-- The text of a form field. -/
def form (cs : List Char) : List Char := cs.flatMap formChar

/-- The bytes of a form field. -/
def unform (cs : List Char) : List UInt8 := decode (cs.map fun c => if c = '+' then ' ' else c)

/-- The fields of a form: names and values as bytes, in order. -/
def formFields (cs : List Char) : List (List UInt8 × List UInt8) :=
  ((cs.splitOn '&').filter (· ≠ [])).map fun field =>
    (unform (field.takeWhile (· ≠ '=')), unform ((field.dropWhile (· ≠ '=')).drop 1))

/-- Controls and characters outside ASCII. -/
def isControl (c : Char) : Bool := c.toNat < 0x20 || 0x7E < c.toNat

/-- Characters that are encoded in a fragment. -/
def inFragment (c : Char) : Bool := isControl c || [' ', '"', '<', '>', '\x60'].contains c

/-- Characters that are encoded in a path. -/
def inPath (c : Char) : Bool := inFragment c || ['#', '?', '\x7b', '\x7d'].contains c

/-- Characters that are encoded in a query; the apostrophe only where the scheme is special. -/
def inQuery (special : Bool) (c : Char) : Bool :=
  isControl c || [' ', '"', '<', '>', '#'].contains c || (special && c = '\'')

/-- Characters that are encoded in a user name or password. -/
def inUserInfo (c : Char) : Bool :=
  inPath c || ['/', ':', ';', '=', '@', '[', '\\', ']', '^', '|'].contains c

end Percent
end QueryConsole
