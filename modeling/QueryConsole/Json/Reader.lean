/-
# Reading JSON text

Arrays and objects are read element by element and member by member, so that a typed reader can stop
at the first element of a wrong type.  A text may open at most 127 arrays and objects inside each
other; a value that is skipped may be nested deeper.

Main functions: `value` reads any value, `skip` passes over one, `text`, `boolean`, `nullable` and
`sequence` read a value of one type, and `whole` requires that nothing but blank characters follows.
-/

import QueryConsole.Json.Token

namespace QueryConsole
namespace Json

open Utf8 (Piece)

/-- The number of arrays and objects that may be open at once. -/
def maxDepth : Nat := 127

/-- Where the next element of an array starts, or nothing before the closing bracket.  Every element
but the first has a comma in front. -/
def nextItem (first : Bool) (s : List Piece) : Except Problem (Option (List Piece)) :=
  match skipBlank s with
  | [] => .error .ended
  | .char c :: rest =>
    if c = ']' then .ok none
    else if first then .ok (some (.char c :: rest))
    else if c = ',' then
      match skipBlank rest with
      | [] => .error .ended
      | p :: rest => if p = .char ']' then .error .malformed else .ok (some (p :: rest))
    else .error .malformed
  | p :: rest => if first then .ok (some (p :: rest)) else .error .malformed

/-- What follows the opening quote of the next key of an object, or nothing before the closing
brace.  Every member but the first has a comma in front. -/
def nextKey (first : Bool) (s : List Piece) : Except Problem (Option (List Piece)) :=
  match skipBlank s with
  | [] => .error .ended
  | p :: rest =>
    if p = .char '\x7d' then .ok none
    else if first then if p = .char '"' then .ok (some rest) else .error .malformed
    else if p = .char ',' then
      match skipBlank rest with
      | [] => .error .ended
      | p :: rest => if p = .char '"' then .ok (some rest) else .error .malformed
    else .error .malformed

/-- The pieces after the colon between a key and its value. -/
def colon (s : List Piece) : Except Problem (List Piece) :=
  match skipBlank s with
  | [] => .error .ended
  | p :: rest => if p = .char ':' then .ok rest else .error .malformed

/-- The pieces after a closing bracket or brace. -/
def closing (close : Char) (s : List Piece) : Except Problem (List Piece) :=
  match skipBlank s with
  | [] => .error .ended
  | p :: rest => if p = .char close then .ok rest else .error .malformed

/-- The elements up to the closing bracket, which stays in the rest.  The number is at least the
number of pieces. -/
def items {α : Type} (item : List Piece → Read α) : Nat → Bool → List Piece → Read (List α)
  | 0, _, _ => .error .ended
  | n + 1, first, s =>
    match nextItem first s with
    | .error problem => .error problem
    | .ok none => .ok ([], s)
    | .ok (some s) =>
      match item s with
      | .error problem => .error problem
      | .ok (x, s) => (items item n false s).map fun (xs, s) => (x :: xs, s)

/-- The members up to the closing brace, which stays in the rest.  The number is at least the number
of pieces. -/
def members {α : Type} (item : List Piece → Read α) :
    Nat → Bool → List Piece → Read (List (String × α))
  | 0, _, _ => .error .ended
  | n + 1, first, s =>
    match nextKey first s with
    | .error problem => .error problem
    | .ok none => .ok ([], s)
    | .ok (some s) =>
      match string s with
      | .error problem => .error problem
      | .ok (key, s) =>
        match colon s with
        | .error problem => .error problem
        | .ok s =>
          match item s with
          | .error problem => .error problem
          | .ok (x, s) => (members item n false s).map fun (xs, s) => ((key, x) :: xs, s)

/-- An array from behind its opening bracket. -/
def array {α : Type} (item : List Piece → Read α) (s : List Piece) : Read (List α) :=
  match items item (s.length + 1) true s with
  | .error problem => .error problem
  | .ok (xs, s) => (closing ']' s).map fun s => (xs, s)

/-- An object from behind its opening brace. -/
def object {α : Type} (item : List Piece → Read α) (s : List Piece) : Read (List (String × α)) :=
  match members item (s.length + 1) true s with
  | .error problem => .error problem
  | .ok (xs, s) => (closing '\x7d' s).map fun s => (xs, s)

/-- A value that is no array and no object, given its first character and what follows. -/
def scalar (c : Char) (rest : List Piece) : Read Json :=
  if c = 'n' then (word ['u', 'l', 'l'] rest).map fun s => (.null, s)
  else if c = 't' then (word ['r', 'u', 'e'] rest).map fun s => (.bool true, s)
  else if c = 'f' then (word ['a', 'l', 's', 'e'] rest).map fun s => (.bool false, s)
  else if c = '"' then (string rest).map fun (text, s) => (.str text, s)
  else if c = '-' then number true rest
  else if '0' ≤ c ∧ c ≤ '9' then number false (.char c :: rest)
  else .error .malformed

/-- Any value, with the number of arrays and objects that may still be opened. -/
def value (depth : Nat) (s : List Piece) : Read Json :=
  match skipBlank s with
  | [] => .error .ended
  | .stray _ :: _ => .error .malformed
  | .char c :: rest =>
    if c = '[' then
      match depth with
      | 0 => .error .malformed
      | depth + 1 => (array (value depth) rest).map fun (xs, s) => (.arr xs, s)
    else if c = '\x7b' then
      match depth with
      | 0 => .error .malformed
      | depth + 1 => (object (value depth) rest).map fun (ms, s) => (ofMembers ms, s)
    else scalar c rest

/-- The pieces after the members of an object that is skipped, from behind its opening brace. -/
def skipMembers (item : List Piece → Except Problem (List Piece)) :
    Nat → Bool → List Piece → Except Problem (List Piece)
  | 0, _, _ => .error .ended
  | n + 1, first, s =>
    match nextKey first s with
    | .error problem => .error problem
    | .ok none => closing '\x7d' s
    | .ok (some s) =>
      match skipString s with
      | .error problem => .error problem
      | .ok s =>
        match colon s with
        | .error problem => .error problem
        | .ok s =>
          match item s with
          | .error problem => .error problem
          | .ok s => skipMembers item n false s

/-- The pieces after a value that is skipped.  The number is at least the nesting of the value. -/
def skipNested (depth : Nat) (s : List Piece) : Except Problem (List Piece) :=
  match skipBlank s with
  | [] => .error .ended
  | .stray _ :: _ => .error .malformed
  | .char c :: rest =>
    if c = '[' then
      match depth with
      | 0 => .error .ended
      | depth + 1 =>
        (array (fun s => (skipNested depth s).map fun s => ((), s)) rest).map (·.2)
    else if c = '\x7b' then
      match depth with
      | 0 => .error .ended
      | depth + 1 => skipMembers (skipNested depth) (rest.length + 1) true rest
    else if c = '"' then skipString rest
    else if c = '-' then skipNumber rest
    else if '0' ≤ c ∧ c ≤ '9' then skipNumber (.char c :: rest)
    else (scalar c rest).map (·.2)

/-- The pieces after a value that is skipped; it may be nested to any depth. -/
def skip (s : List Piece) : Except Problem (List Piece) := skipNested s.length s

/-- The problem of a value that is not what the reader wants.  A word, a number or a string has to
be well-formed first. -/
def mismatch (expected : Expected) (c : Char) (rest : List Piece) : Problem :=
  if c = '[' then .mismatch (.type .sequence expected)
  else if c = '\x7b' then .mismatch (.type .map expected)
  else
    match scalar c rest with
    | .ok (v, _) => .mismatch (.type (Found.ofValue v) expected)
    | .error problem => problem

/-- A value that starts with a character for which `start` answers; any other is a mismatch. -/
def typed {α : Type} (expected : Expected) (start : Char → List Piece → Option (Read α))
    (s : List Piece) : Read α :=
  match skipBlank s with
  | [] => .error .ended
  | .stray _ :: _ => .error .malformed
  | .char c :: rest => (start c rest).getD (.error (mismatch expected c rest))

/-- A string. -/
def text : List Piece → Read String :=
  typed .string fun c rest => if c = '"' then some (string rest) else none

/-- A truth value. -/
def boolean : List Piece → Read Bool :=
  typed .boolean fun c rest =>
    if c = 't' then some ((word ['r', 'u', 'e'] rest).map fun s => (true, s))
    else if c = 'f' then some ((word ['a', 'l', 's', 'e'] rest).map fun s => (false, s))
    else none

/-- An array whose elements are all of one type. -/
def sequence {α : Type} (item : List Piece → Read α) : List Piece → Read (List α) :=
  typed .sequence fun c rest => if c = '[' then some (array item rest) else none

/-- Either `null` or a value of one type. -/
def nullable {α : Type} (item : List Piece → Read α) (s : List Piece) : Read (Option α) :=
  match skipBlank s with
  | [] => .error .ended
  | p :: rest =>
    if p = .char 'n' then (word ['u', 'l', 'l'] rest).map fun s => (none, s)
    else (item (p :: rest)).map fun (x, s) => (some x, s)

/-- What a reader makes of a whole text: only blank characters may follow the value. -/
def whole {α : Type} (read : List Piece → Read α) (s : List Piece) : Except Problem α :=
  match read s with
  | .error problem => .error problem
  | .ok (x, rest) => if skipBlank rest = [] then .ok x else .error .malformed

/-- The value that a text writes. -/
def parsePieces (s : List Piece) : Except Problem Json := whole (value maxDepth) s

/-- The value that a text writes. -/
def parse (s : String) : Except Problem Json := parsePieces (Utf8.ofChars s.toList)

/-- The value that bytes write. -/
def parseBytes (bytes : List UInt8) : Except Problem Json := parsePieces (Utf8.pieces bytes)

/-- Members with the fields of a record: each known field once, read by the record's own reader;
the values of other keys are skipped.  The number is at least the number of pieces. -/
def recordMembers {σ : Type} (known : String → Bool)
    (field : String → σ → List Piece → Read σ) :
    Nat → Bool → List String → σ → List Piece → Read σ
  | 0, _, _, _, _ => .error .ended
  | n + 1, first, seen, record, s =>
    match nextKey first s with
    | .error problem => .error problem
    | .ok none => .ok (record, s)
    | .ok (some s) =>
      match string s with
      | .error problem => .error problem
      | .ok (key, s) =>
        if seen.contains key then .error (.mismatch (.repeatedField key))
        else
          match colon s with
          | .error problem => .error problem
          | .ok s =>
            if known key then
              match field key record s with
              | .error problem => .error problem
              | .ok (record, s) => recordMembers known field n false (key :: seen) record s
            else
              match skip s with
              | .error problem => .error problem
              | .ok s => recordMembers known field n false seen record s

/-- Elements with the fields of a record in order; fields may be missing at the end. -/
def recordItems {σ : Type} (field : String → σ → List Piece → Read σ) :
    List String → Bool → σ → List Piece → Read σ
  | [], _, record, s => .ok (record, s)
  | key :: keys, first, record, s =>
    match nextItem first s with
    | .error problem => .error problem
    | .ok none => .ok (record, s)
    | .ok (some s) =>
      match field key record s with
      | .error problem => .error problem
      | .ok (record, s) => recordItems field keys false record s

/-- A record, written as an object with some of its fields or as an array of its fields in order. -/
def record {σ : Type} (expected : Expected) (fields : List String)
    (field : String → σ → List Piece → Read σ) (blank : σ) : List Piece → Read σ :=
  typed expected fun c rest =>
    if c = '[' then
      some <|
        match recordItems field fields true blank rest with
        | .error problem => .error problem
        | .ok (x, s) => (closing ']' s).map fun s => (x, s)
    else if c = '\x7b' then
      some <|
        match recordMembers fields.contains field (rest.length + 1) true [] blank rest with
        | .error problem => .error problem
        | .ok (x, s) => (closing '\x7d' s).map fun s => (x, s)
    else none

end Json
end QueryConsole
