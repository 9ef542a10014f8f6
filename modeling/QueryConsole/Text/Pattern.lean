/-
# Patterns

Which texts are regular expressions.  A pattern is read from left to right:

| form | condition |
| --- | --- |
| `*` `+` `?` | something stands before it |
| `(…)` `(?:…)` `(?<name>…)` `(?P<name>…)` | closed; each name occurs once |
| `(?flags)` `(?flags:…)` | each flag once, at most one `-`, and a flag behind it |
| `[…]` `[^…]` | closed; ranges go up, and no range ends in a class |
| `\d` `\pL` `\x41` `\.` | a known escape |

Patterns match characters.  Under the flag `-u` they match bytes, and then a part that matches a
byte beyond ASCII alone is not allowed; word boundaries are allowed only there.  Look-around and
references to groups are no patterns.  Patterns stand between braces, so none has a count or a code
point in braces.
-/

import QueryConsole.Text.Alphanumeric
import QueryConsole.Text.Blank
import QueryConsole.Text.Hexadecimal

namespace QueryConsole
namespace Pattern

/-- How a part of a pattern is read: whether it matches characters or bytes, and whether blank
characters and comments in it are passed over. -/
structure Mode where
  unicode : Bool
  spaced : Bool
  deriving DecidableEq

/-- The number of blank characters and comments at the start; a comment goes from `#` to the end of
the line. -/
def blankLength (inComment : Bool) : List Char → Nat
  | [] => 0
  | c :: cs =>
    if inComment then 1 + blankLength (c ≠ '\n') cs
    else if Text.isBlank c then 1 + blankLength false cs
    else if c = '#' then 1 + blankLength true cs
    else 0

/-- The number of characters at the start that are passed over. -/
def Mode.skip (m : Mode) (cs : List Char) : Nat := if m.spaced then blankLength false cs else 0

/-- What an escape stands for: a character, perhaps written as a byte, a class, its complement, a
class of a Unicode property, a boundary of words, or the start or end of the text. -/
inductive Escape where
  | letter (code : Nat) (isByte : Bool)
  | kind (isComplement : Bool)
  | property
  | wordBoundary
  | edge

namespace Escape

/-- Whether an escape may stand outside brackets. -/
def isAllowed (m : Mode) : Escape → Bool
  | letter code isByte => m.unicode || !isByte || code < 0x80
  | kind isComplement => m.unicode || !isComplement
  | property => m.unicode
  | wordBoundary => !m.unicode
  | edge => true

/-- Whether an escape may stand in brackets. -/
def isMember (m : Mode) : Escape → Bool
  | letter code _ => m.unicode || code < 0x80
  | kind isComplement => m.unicode || !isComplement
  | property => m.unicode
  | wordBoundary | edge => false

end Escape

/-- The number that so many hexadecimal digits write, after `value`, and how many characters they
take. -/
def hexNumber? (m : Mode) : Nat → Nat → List Char → Option (Nat × Nat)
  | 0, value, _ => some (value, 0)
  | count + 1, value, cs =>
    let skipped := m.skip cs
    match cs.drop skipped with
    | [] => none
    | c :: rest =>
      (Text.hexDigit? c).bind fun d =>
        (hexNumber? m count (16 * value + d) rest).map fun (n, taken) => (n, skipped + 1 + taken)

/-- The character that so many hexadecimal digits write, behind the letter of the escape. -/
def hexLetter? (m : Mode) (digits : Nat) (cs : List Char) : Option (Escape × Nat) :=
  (hexNumber? m digits 0 cs).bind fun (code, taken) =>
    if code.isValidChar then some (.letter code (digits = 2), 1 + taken) else none

/-- The letters of the general categories. -/
def categories : List Char := ['c', 'l', 'm', 'n', 'p', 's', 'z']

/-- The escape behind a backslash and the number of its characters. -/
def escape? (m : Mode) : List Char → Option (Escape × Nat)
  | [] => none
  | c :: cs =>
    match c with
    | 'x' => hexLetter? m 2 cs
    | 'u' => hexLetter? m 4 cs
    | 'U' => hexLetter? m 8 cs
    | 'p' | 'P' =>
      match cs.drop (m.skip cs) with
      | category :: _ =>
        if categories.contains category.toLower then some (.property, 2 + m.skip cs) else none
      | [] => none
    | 'd' | 's' | 'w' => some (.kind false, 1)
    | 'D' | 'S' | 'W' => some (.kind true, 1)
    | 'b' | 'B' | '<' | '>' => some (.wordBoundary, 1)
    | 'A' | 'z' => some (.edge, 1)
    | 'a' | 'f' | 't' | 'n' | 'r' | 'v' => some (.letter 0 false, 1)
    | c =>
      if c.toNat < 0x80 ∧ !c.isAlphanum then some (.letter c.toNat false, 1) else none

/-- A member of a class in brackets that starts with `c`: its code if it is a character, and how
many of the characters behind `c` it takes. -/
def member? (m : Mode) (c : Char) (cs : List Char) : Option (Option Nat × Nat) :=
  if c = '\\' then
    (escape? m cs).bind fun (e, taken) =>
      if e.isMember m then
        some (match e with
          | .letter code _ => some code
          | _ => none, taken)
      else none
  else if m.unicode ∨ c.toNat < 0x80 then some (some c.toNat, 0)
  else none

/-- How many characters behind `c` a member or a range of members takes that starts with `c`. -/
def rangeLength? (m : Mode) (c : Char) (cs : List Char) : Option Nat :=
  (member? m c cs).bind fun (first, taken) =>
    let behind := cs.drop taken
    let gap := m.skip behind
    match behind.drop gap with
    | '-' :: rest =>
      match rest.drop (m.skip rest) with
      | ']' :: _ | '-' :: _ => some taken
      | [] => none
      | d :: rest' =>
        match first, member? m d rest' with
        | some low, some (some high, taken') =>
          if low ≤ high then some (taken + gap + 1 + m.skip rest + 1 + taken') else none
        | _, _ => none
    | _ => some taken

/-- The classes with a name between `[:` and `:]`. -/
def classNames : List String :=
  ["alnum", "alpha", "ascii", "blank", "cntrl", "digit", "graph", "lower", "print", "punct",
    "space", "upper", "word", "xdigit"]

/-- A class with a name, behind its bracket: whether it is a complement, and its length. -/
def namedClass? : List Char → Option (Bool × Nat)
  | ':' :: cs =>
    let isComplement := cs.head? = some '^'
    let cs := if isComplement then cs.drop 1 else cs
    let name := cs.takeWhile (· ≠ ':')
    if (cs.drop name.length).take 2 = [':', ']'] ∧ classNames.any (·.toList = name) then
      some (isComplement, name.length + if isComplement then 4 else 3)
    else none
  | _ => none

/-- The number of hyphens at the start of brackets, with what is passed over between them. -/
def hyphenLength (m : Mode) : List Char → Nat
  | '-' :: cs => 1 + m.skip cs + hyphenLength m (cs.drop (m.skip cs))
  | _ => 0
termination_by cs => cs.length
decreasing_by simp only [List.length_drop, List.length_cons]; omega

/-- How much stands at the start of brackets: a sign for the complement, then hyphens or a closing
bracket that are members. -/
def openLength? (m : Mode) (cs : List Char) : Option Nat :=
  let gap := m.skip cs
  let behind := cs.drop gap
  let isComplement := behind.head? = some '^'
  if isComplement ∧ !m.unicode then none
  else
    let sign := if isComplement then 1 + m.skip (behind.drop 1) else 0
    let behind := behind.drop sign
    let hyphens := hyphenLength m behind
    let closing := if hyphens = 0 ∧ behind.head? = some ']' then 1 else 0
    some (gap + sign + hyphens + closing)

/-- What opens a group: how much stands behind its parenthesis, and the name and the mode it sets;
or a mode alone, which holds to the end of the group around. -/
inductive Opening where
  | group (length : Nat) (name : Option (List Char)) (mode : Mode)
  | mode (length : Nat) (mode : Mode)

/-- Whether a text may name a group. -/
def isName : List Char → Bool
  | [] => false
  | c :: cs =>
    (c = '_' || (Text.alphanumeric.contains c && !c.isDigit)) &&
      cs.all fun d => d = '_' || d = '.' || d = '[' || d = ']' || Text.alphanumeric.contains d

/-- A group whose name follows, behind `length` characters. -/
def named? (m : Mode) (length : Nat) (cs : List Char) : Option Opening :=
  let name := cs.takeWhile (· ≠ '>')
  if isName name ∧ name.length < cs.length then
    some (.group (length + name.length + 1) (some name) m)
  else none

/-- Whether a text sets flags, or takes away those behind a hyphen. -/
def areFlags (cs : List Char) : Bool :=
  cs.all ("imsUuRx-".toList.contains ·) && cs.Nodup && cs.getLast? ≠ some '-'

/-- The mode with the flags set. -/
def Mode.set (m : Mode) (flags : List Char) : Mode :=
  let on := flags.takeWhile (· ≠ '-')
  let value (flag : Char) (old : Bool) : Bool :=
    if flags.contains flag then on.contains flag else old
  ⟨value 'u' m.unicode, value 'x' m.spaced⟩

/-- What a parenthesis opens, with the text behind it. -/
def opening? (m : Mode) (cs : List Char) : Option Opening :=
  let gap := m.skip cs
  match cs.drop gap with
  | '?' :: '=' :: _ | '?' :: '!' :: _ | '?' :: '<' :: '=' :: _ | '?' :: '<' :: '!' :: _ => none
  | '?' :: 'P' :: '<' :: rest => named? m (gap + 3) rest
  | '?' :: '<' :: rest => named? m (gap + 2) rest
  | '?' :: rest =>
    let flags := rest.takeWhile fun c => c ≠ ':' ∧ c ≠ ')'
    let length := gap + 1 + flags.length + 1
    if areFlags flags then
      match rest.drop flags.length with
      | ':' :: _ => some (.group length none (m.set flags))
      | ')' :: _ => if flags = [] then none else some (.mode length (m.set flags))
      | _ => none
    else none
  | _ => some (.group gap none m)

/-- What is read so far: the mode, the modes that come back behind the open groups, the number of
open brackets, whether a repetition may follow, and the names of groups. -/
structure State where
  mode : Mode
  groups : List Mode
  brackets : Nat
  repeatable : Bool
  names : List (List Char)

namespace State

/-- Nothing is read yet. -/
def start : State := ⟨⟨true, false⟩, [], 0, false, []⟩

/-- The state with a bracket opened. -/
def openBracket? (s : State) (cs : List Char) : Option (State × Nat) :=
  (openLength? s.mode cs).map fun taken => ({ s with brackets := s.brackets + 1 }, taken)

/-- One more piece in brackets. -/
def inBrackets? (s : State) (c : Char) (cs : List Char) : Option (State × Nat) :=
  if c = '[' then
    match namedClass? cs with
    | some (isComplement, taken) =>
      if isComplement ∧ !s.mode.unicode then none else some (s, taken)
    | none => s.openBracket? cs
  else if c = ']' then some ({ s with brackets := s.brackets - 1, repeatable := true }, 0)
  else if (c = '&' ∨ c = '-' ∨ c = '~') ∧ cs.head? = some c then some (s, 1)
  else (rangeLength? s.mode c cs).map fun taken => (s, taken)

/-- The state with a group opened or a mode set. -/
def openGroup? (s : State) (cs : List Char) : Option (State × Nat) :=
  match opening? s.mode cs with
  | none => none
  | some (.mode taken mode) => some ({ s with mode, repeatable := false }, taken)
  | some (.group taken name mode) =>
    if name.any s.names.contains then none
    else
      some ({ s with
        mode
        groups := s.mode :: s.groups
        repeatable := false
        names := name.toList ++ s.names }, taken)

/-- One more piece outside brackets. -/
def inSequence? (s : State) (c : Char) (cs : List Char) : Option (State × Nat) :=
  let part : State := { s with repeatable := true }
  match c with
  | '(' => s.openGroup? cs
  | ')' =>
    match s.groups with
    | [] => none
    | mode :: groups => some ({ part with mode, groups }, 0)
  | '|' => some ({ s with repeatable := false }, 0)
  | '[' => s.openBracket? cs
  | '*' | '+' | '?' => if s.repeatable then some (s, 0) else none
  | '\x7b' => none
  | '.' => if s.mode.unicode then some (part, 0) else none
  | '\\' =>
    (escape? s.mode cs).bind fun (e, taken) =>
      if e.isAllowed s.mode then some (part, taken) else none
  | _ => some (part, 0)

/-- One more piece, which starts with `c`: the state behind it, and how many of the characters that
follow `c` it takes. -/
def next? (s : State) (c : Char) (cs : List Char) : Option (State × Nat) :=
  match s.mode.skip (c :: cs) with
  | skipped + 1 => some (s, skipped)
  | 0 => if 0 < s.brackets then s.inBrackets? c cs else s.inSequence? c cs

/-- The state behind a text. -/
def read? (s : State) : List Char → Option State
  | [] => some s
  | c :: cs =>
    match s.next? c cs with
    | none => none
    | some (t, taken) => t.read? (cs.drop taken)
termination_by cs => cs.length
decreasing_by simp only [List.length_drop, List.length_cons]; omega

end State

/-- Whether a text is a pattern: all of it can be read, and nothing is left open. -/
def isPattern (cs : List Char) : Bool :=
  match State.start.read? cs with
  | some s => s.groups.isEmpty && s.brackets = 0
  | none => false

end Pattern
end QueryConsole
