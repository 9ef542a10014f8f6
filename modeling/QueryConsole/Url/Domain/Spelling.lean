/-
# Spelling of domain names

A domain name is compared by the spelling of its characters: capital letters are spelled small, wide
and styled ones plain, signs of several letters in letters, and invisible characters not at all.
-/

import QueryConsole.Text.Hexadecimal
import QueryConsole.Url.Domain.Spelling.Table

namespace QueryConsole
namespace Domain

/-- The spelling of every `step`-th character from `first` to `last`: for the first one as given,
for the others, if it is one character, as distant as that. -/
structure Spelling where
  first : Nat
  last : Nat
  step : Nat
  characters : List Nat

namespace Spelling

/-- The number that hexadecimal digits write. -/
def number (cs : List Char) : Nat :=
  cs.foldl (fun n c => 16 * n + (Text.hexDigit? c).getD 0) 0

/-- The spelling that a text gives as `first-last/step=characters`, with a point between two
characters. -/
def ofText (cs : List Char) : Spelling :=
  let sources := cs.takeWhile (· ≠ '=')
  let targets := cs.drop (sources.length + 1)
  let characters := if targets = [] then [] else (targets.splitOn '.').map number
  let range := sources.takeWhile (· ≠ '/')
  let step := if range = sources then 1 else number (sources.drop (range.length + 1))
  match range.splitOn '-' with
  | [first, last] => ⟨number first, number last, step, characters⟩
  | _ => ⟨number range, number range, step, characters⟩

/-- Whether a spelling is that of a code point. -/
def holds (s : Spelling) (n : Nat) : Bool :=
  s.first ≤ n && n ≤ s.last && (n - s.first) % s.step == 0

/-- The characters that spell a code point. -/
def apply (s : Spelling) (n : Nat) : List Char :=
  match s.characters with
  | [c] => [Char.ofNat (c + (n - s.first))]
  | cs => cs.map Char.ofNat

end Spelling

/-- The spellings in order of their characters. -/
def spellings : Array Spelling :=
  (((spellingText.toList.splitOnP fun c => c = ' ' ∨ c = '\n').filter (· ≠ [])).map
    Spelling.ofText).toArray

/-- The last spelling that starts no later than a code point, by halving between the indexes `low`
and `high`; the first number bounds the halvings. -/
def searchSpelling (n : Nat) : Nat → Nat → Nat → Option Spelling
  | 0, _, _ => none
  | steps + 1, low, high =>
    if low < high then
      let middle := (low + high) / 2
      match spellings[middle]? with
      | none => none
      | some s =>
        if n < s.first then searchSpelling n steps low middle
        else if s.last < n then searchSpelling n steps (middle + 1) high
        else some s
    else none

/-- The spelling of a character; none where it may not occur. -/
def spell? (c : Char) : Option (List Char) :=
  if c.toNat < 0x80 then some [c.toLower]
  else
    match (searchSpelling c.toNat spellings.size 0 spellings.size).filter (·.holds c.toNat) with
    | some s => some (s.apply c.toNat)
    | none => if excluded.contains c then none else some [c]

end Domain
end QueryConsole
