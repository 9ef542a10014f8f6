/-
# Hosts

The host of a URL is a domain name, an IPv4 address in any of its spellings, an IPv6 address in
brackets, or, where the scheme is not special, an opaque name.  A domain name whose last label is a
number has to be an IPv4 address.
-/

import QueryConsole.Text.Utf8
import QueryConsole.Url.Domain
import QueryConsole.Url.Percent

namespace QueryConsole

/-- The host of a URL. -/
inductive Host where
  | domain (name : List Char)
  | ipv4 (address : Nat)
  | ipv6 (pieces : List Nat)
  | opaqueName (name : List Char)
  deriving DecidableEq

namespace Host

/-- The digits of a number in a base, as a number. -/
def ofDigits? (base : Nat) (cs : List Char) : Option Nat :=
  cs.foldlM (fun n c =>
    match Text.hexDigit? c with
    | some d => if d < base then some (n * base + d) else none
    | none => none) 0

/-- A part of an IPv4 address: decimal, octal behind `0`, or hexadecimal behind `0x`. -/
def ipv4Number? (cs : List Char) : Option Nat :=
  match cs with
  | [] => none
  | '0' :: 'x' :: digits | '0' :: 'X' :: digits => ofDigits? 16 digits
  | '0' :: d :: digits => ofDigits? 8 (d :: digits)
  | digits => ofDigits? 10 digits

/-- The labels of a name, without an empty one at the end. -/
def labels (name : List Char) : List (List Char) :=
  let parts := name.splitOn '.'
  if 1 < parts.length ∧ parts.getLast? = some [] then parts.dropLast else parts

/-- Whether the last label is a number, so that the name has to be an address. -/
def endsInNumber (name : List Char) : Bool :=
  match (labels name).getLast? with
  | none => false
  | some label =>
    (!label.isEmpty && label.all Char.isDigit) ||
      (match label with
        | '0' :: 'x' :: digits | '0' :: 'X' :: digits => (ofDigits? 16 digits).isSome
        | _ => false)

/-- The address that the numbers write: each but the last is one byte, the last fills the rest. -/
def ipv4OfNumbers? (numbers : List Nat) : Option Nat :=
  match numbers.reverse with
  | [] => none
  | last :: front =>
    if 3 < front.length ∨ front.any (255 < ·) ∨ Nat.pow 256 (4 - front.length) ≤ last then none
    else some (front.reverse.zipIdx.foldl (fun n (b, i) => n + b * Nat.pow 256 (3 - i)) last)

/-- The IPv4 address that a name writes. -/
def ipv4? (name : List Char) : Option Nat :=
  ((labels name).mapM ipv4Number?).bind ipv4OfNumbers?

/-- A group of an IPv6 address: one to four hexadecimal digits. -/
def ipv6Group? (cs : List Char) : Option Nat :=
  if cs.isEmpty ∨ 4 < cs.length then none else ofDigits? 16 cs

/-- A byte at the end of an IPv6 address: one to three decimal digits without a leading zero. -/
def ipv6Byte? (cs : List Char) : Option Nat :=
  if cs.isEmpty ∨ 3 < cs.length ∨ (cs.head? = some '0' ∧ 1 < cs.length) then none
  else (ofDigits? 10 cs).filter (· ≤ 255)

/-- The groups between colons; the last may be an IPv4 address, which makes two groups. -/
def ipv6Groups? (cs : List Char) : Option (List Nat) :=
  if cs.isEmpty then some []
  else
    let parts := cs.splitOn ':'
    match parts.getLast? with
    | some last =>
      if last.contains '.' then do
        let front ← parts.dropLast.mapM ipv6Group?
        match ← (last.splitOn '.').mapM ipv6Byte? with
        | [a, b, c, d] => some (front ++ [a * 256 + b, c * 256 + d])
        | _ => none
      else parts.mapM ipv6Group?
    | none => none

/-- The text split at the first double colon. -/
def splitDoubleColon : List Char → Option (List Char × List Char)
  | ':' :: ':' :: rest => some ([], rest)
  | c :: rest => (splitDoubleColon rest).map fun (a, b) => (c :: a, b)
  | [] => none

/-- The IPv6 address that a text between brackets writes; a double colon stands for at least one
group of zeros. -/
def ipv6? (cs : List Char) : Option (List Nat) :=
  match splitDoubleColon cs with
  | none => (ipv6Groups? cs).filter (·.length = 8)
  | some (front, back) => do
    let front ← if front.contains '.' then none else ipv6Groups? front
    let back ← ipv6Groups? back
    if front.length + back.length ≤ 7 then
      some (front ++ List.replicate (8 - front.length - back.length) 0 ++ back)
    else none

/-- The host that a text writes, where the scheme is special. -/
def ofSpecial? (cs : List Char) : Option Host :=
  match cs with
  | '[' :: rest =>
    if rest.getLast? = some ']' then (ipv6? rest.dropLast).map ipv6 else none
  | cs => do
    let name ← Domain.ofText? (Utf8.lossy (Percent.decode cs))
    if name.isEmpty then none
    else if endsInNumber name then (ipv4? name).map ipv4
    else some (domain name)

/-- Whether a text names a drive, such as `C:`. -/
def isDrive (cs : List Char) : Bool :=
  match cs with
  | [letter, mark] => letter.isAlpha && (mark = ':' || mark = '|')
  | _ => false

/-- The host that a text writes, where the scheme is not special. -/
def ofOpaque? (cs : List Char) : Option Host :=
  match cs with
  | '[' :: rest =>
    if rest.getLast? = some ']' then (ipv6? rest.dropLast).map ipv6 else none
  | cs =>
    if cs.any Domain.isForbiddenInHost then none else some (opaqueName (Percent.encode Percent.isControl cs))

end Host
end QueryConsole
