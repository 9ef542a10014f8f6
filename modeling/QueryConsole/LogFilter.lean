/-
# Log filters

A log filter is a list of directives between commas; empty ones are passed over.  A directive names
a level, or a target, a span with fields, and a level:

    info    server=debug    server[query{id=7}]=trace    [query]    =

A target may stand without a level.  A level is one of the six words, in any case of ASCII letters,
or a number from 0 to 5; it may be left out behind the equals sign.  The value of a field is a
number or a pattern.

Models which filters `env_filter` accepts.
-/

import QueryConsole.Text.Pattern

namespace QueryConsole
namespace LogFilter

/-- The words for levels. -/
def levelWords : List String := ["error", "warn", "info", "debug", "trace", "off"]

/-- Digits, perhaps behind a plus sign, that write a number up to 5. -/
def isLevelNumber (cs : List Char) : Bool :=
  let ds := if cs.head? = some '+' then cs.drop 1 else cs
  !ds.isEmpty && ds.all Char.isDigit && Nat.ofDigitChars 10 ds 0 ≤ 5

/-- A level behind an equals sign; none at all is a level too. -/
def isLevel (cs : List Char) : Bool :=
  cs.isEmpty || isLevelNumber cs || levelWords.any fun w => w.toList = cs.map Char.toLower

/-- Digits, perhaps with a point among them. -/
def isDecimal (cs : List Char) : Bool :=
  cs.any Char.isDigit && (cs.filter fun c => !c.isDigit).length ≤ 1 &&
    cs.all fun c => c.isDigit || c = '.'

/-- The characters without a sign at the front. -/
def unsigned (cs : List Char) : List Char :=
  if cs.head? = some '+' ∨ cs.head? = some '-' then cs.drop 1 else cs

/-- Whether a text is a number: a decimal with an exponent or without, infinite, or none. -/
def isNumber (cs : List Char) : Bool :=
  let cs := (unsigned cs).map Char.toLower
  let mantissa := cs.takeWhile (· ≠ 'e')
  ["inf", "infinity", "nan"].any (·.toList = cs) ||
    (isDecimal mantissa &&
      match cs.dropWhile (· ≠ 'e') with
      | [] => true
      | _ :: exponent => !(unsigned exponent).isEmpty && (unsigned exponent).all Char.isDigit)

/-- Whether a text is a field of a span: a name, perhaps with a value between its first equals sign
and the next. -/
def isField (cs : List Char) : Bool :=
  match cs.splitOn '=' with
  | _ :: value :: _ => isNumber value || Pattern.isPattern value
  | _ => true

/-- The characters that start between two places, which count bytes of UTF-8. -/
def slice (cs : List Char) (first last : Nat) : List Char :=
  match cs with
  | [] => []
  | c :: rest =>
    if last = 0 then []
    else
      let rest := slice rest (first - c.utf8Size) (last - c.utf8Size)
      if first = 0 then c :: rest else rest

/-- Where a directive has got to: its start, a level or a target, the name of a span, a field that
begins at `first`, behind the fields, behind the span, and a level that begins at `first`. -/
inductive State where
  | start
  | levelOrTarget
  | span
  | field (first : Nat)
  | fields
  | target
  | level (first : Nat)

/-- The state after one more character, which stands at the given place, or none where the character
may not stand there.  Places count from behind the blank characters in front of the directive, but a
field is cut from the directive with them. -/
def State.next? (directive : List Char) : State → Char → Nat → Option State
  | .start, c, _ =>
    if c = '[' then some .span
    else if c = '-' ∨ c = ':' ∨ c = '_' ∨ Text.alphanumeric.contains c then some .levelOrTarget
    else none
  | .levelOrTarget, c, i =>
    some (if c = '=' then .level (i + 1) else if c = '[' then .span else .levelOrTarget)
  | .span, c, i => some (if c = ']' then .target else if c = '\x7b' then .field (i + 1) else .span)
  | .field first, c, i =>
    if c = '\x7d' then
      if first < i ∧ isField (slice directive first i) then some .fields else none
    else some (.field first)
  | .fields, c, _ => if c = ']' then some .target else none
  | .target, c, i => if c = '=' then some (.level (i + 1)) else none
  | .level first, _, _ => some (.level first)

/-- The state behind a text that stands at a place. -/
def State.read? (directive : List Char) (s : State) (place : Nat) : List Char → Option State
  | [] => some s
  | c :: cs =>
    match s.next? directive c place with
    | none => none
    | some t => t.read? directive (place + c.utf8Size) cs

/-- Whether a directive may end in a state.  A level, too, is cut from the directive with the blank
characters around it, so it has none. -/
def State.isEnd (directive : List Char) : State → Bool
  | .levelOrTarget | .target => true
  | .level first => isLevel (slice directive first (String.ofList directive).utf8ByteSize)
  | _ => false

/-- Whether a text between commas is a directive. -/
def isDirective (cs : List Char) : Bool :=
  match State.start.read? cs 0 (Text.trim cs) with
  | some state => state.isEnd cs
  | none => false

/-- Whether a text is a log filter. -/
def isValid (text : String) : Bool :=
  (text.toList.splitOn ',').all fun directive => directive.isEmpty || isDirective directive

/-- Why a log is not opened: its filter is not one, or the process has a log already. -/
inductive Failure where
  | invalidFilter
  | logInPlace
  deriving DecidableEq

/-- The wording of a failure. -/
def Failure.message : Failure → String
  | .invalidFilter => "Invalid log filter"
  | .logInPlace => "Failed to initialize logging"

/-- Why a log with a filter is not opened, if so; the filter is looked at first. -/
def failure? (text : String) (inPlace : Bool) : Option Failure :=
  if !isValid text then some .invalidFilter
  else if inPlace then some .logInPlace
  else none

end LogFilter
end QueryConsole
