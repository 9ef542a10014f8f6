/-
# Punycode

A label of a domain name writes characters beyond ASCII behind `xn--`: first the ASCII characters
and a hyphen, then for each other character, in order of code points, how far it is from the one
before.  The distances are numbers of variable length in base 36, from the lowest digit up; a digit
below the threshold of its place ends the number, and the thresholds adapt to the distances so far.
-/

import QueryConsole.Text.Ranges

namespace QueryConsole
namespace Punycode

/-- The value of a digit: letters from 0 to 25, then the decimal digits. -/
def digit? (c : Char) : Option Nat :=
  if 'a' ≤ c ∧ c ≤ 'z' then some (c.toNat - 'a'.toNat)
  else if 'A' ≤ c ∧ c ≤ 'Z' then some (c.toNat - 'A'.toNat)
  else if '0' ≤ c ∧ c ≤ '9' then some (c.toNat - '0'.toNat + 26)
  else none

/-- The bias of a distance that was scaled down, at the place `k`. -/
def biasFrom (distance k : Nat) : Nat :=
  if 455 < distance then biasFrom (distance / 35) (k + 36)
  else k + 36 * distance / (distance + 38)
termination_by distance
decreasing_by omega

/-- The bias after a distance, with the number of characters then. -/
def adapt (distance count : Nat) (first : Bool) : Nat :=
  let distance := if first then distance / 700 else distance / 2
  biasFrom (distance + distance / count) 0

/-- The threshold of a place: at least 1 and at most 26. -/
def threshold (place bias : Nat) : Nat := min (max (place - bias) 1) 26

/-- What is read so far: the code points, the last one inserted, where it stands, the bias; and of
the distance that is being read the sum, the weight of the next digit and its place. -/
structure State where
  points : List Nat
  point : Nat
  position : Nat
  bias : Nat
  sum : Nat
  weight : Nat
  place : Nat

namespace State

/-- Only the ASCII characters are read. -/
def start (points : List Nat) : State := ⟨points, 128, 0, 72, 0, 1, 36⟩

/-- A distance is read: the next code point is inserted. -/
def insert (s : State) (sum : Nat) : State :=
  let count := s.points.length + 1
  let point := s.point + (s.position + sum) / count
  let position := (s.position + sum) % count
  { points := s.points.take position ++ point :: s.points.drop position
    point
    position := position + 1
    bias := adapt sum count (s.position = 0)
    sum := 0
    weight := 1
    place := 36 }

/-- The code points when all digits are read; none where the last distance does not end. -/
def finish : State → List Char → Option (List Nat)
  | s, [] => if s.place = 36 then some s.points else none
  | s, c :: cs =>
    match digit? c with
    | none => none
    | some d =>
      let sum := s.sum + d * s.weight
      let t := threshold s.place s.bias
      if d < t then finish (s.insert sum) cs
      else finish { s with sum, weight := s.weight * (36 - t), place := s.place + 36 } cs

end State

/-- The characters of a text in Punycode. -/
def decode? (cs : List Char) : Option (List Char) :=
  let digits := (cs.reverse.takeWhile (· ≠ '-')).reverse
  let plain := cs.take (cs.length - digits.length - 1)
  ((State.start (plain.map Char.toNat)).finish digits).bind fun points =>
    points.mapM fun n => if n.isValidChar then some (Char.ofNat n) else none

end Punycode
end QueryConsole
