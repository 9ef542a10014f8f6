/-
# Shortest decimals

The decimal text of a double shows the fewest digits that read back as the same double; of two such
decimals of equal length it shows the nearer one.  Two notations are written:

| notation | 1 | 1e21 | 1e-7 | -0 |
| --- | --- | --- | --- | --- |
| plain, never an exponent | `1` | 1 and 21 zeros | `0.0000001` | `-0` |
| marked as a fraction, with exponents below 1e-5 and from 1e16 | `1.0` | `1e+21` | `1e-7` | `-0.0` |

Where both decimals are as near, the first notation takes the larger and the second the even one.
-/

import QueryConsole.Number.Double

namespace QueryConsole

/-- The decimal `digits · 10 ^ exponent`. -/
structure Decimal where
  digits : Nat
  exponent : Int
  deriving DecidableEq

/-- Which of two decimals is written where both are as near. -/
inductive Tie where
  | larger
  | even
  deriving DecidableEq, Repr

namespace Decimal

/-- The magnitude bits nearest to a decimal. -/
def magnitude (d : Decimal) : Nat := Double.nearestDecimal d.digits d.exponent

/-- The decimal digits of a natural number. -/
def digitsOf (n : Nat) : List Char := Nat.toDigits 10 n

/-- A natural number in decimal. -/
def text (n : Nat) : String := String.ofList (digitsOf n)

/-- The least `k` with `num / den < 10 ^ k`, for a positive ratio. -/
def pointOf (num den : Nat) : Int :=
  if den ≤ num then (digitsOf (num / den)).length
  else
    let k := (digitsOf (den / num)).length
    if num * Nat.pow 10 (k - 1) = den then 2 - (k : Int) else 1 - (k : Int)

/-- The two neighbours of `num / den` among the multiples of `10 ^ exponent`, the preferred one
first. -/
def neighbours (tie : Tie) (num den : Nat) (exponent : Int) : List Decimal :=
  let num := if exponent < 0 then num * Nat.pow 10 (-exponent).toNat else num
  let den := if exponent < 0 then den else den * Nat.pow 10 exponent.toNat
  let below : Decimal := ⟨num / den, exponent⟩
  let above : Decimal := ⟨num / den + 1, exponent⟩
  let twice := 2 * (num % den)
  if twice < den ∨ (twice = den ∧ tie = .even ∧ below.digits % 2 = 0) then [below, above]
  else [above, below]

/-- The first decimal that reads back as the magnitude, from the given number of digits up, with at
most `more` further digits. -/
def readBackFrom (tie : Tie) (magnitude num den : Nat) (point : Int) :
    (digits more : Nat) → Option Decimal
  | digits, more =>
    match (neighbours tie num den (point - digits)).find? (·.magnitude = magnitude) with
    | some d => some d
    | none =>
      match more with
      | 0 => none
      | more + 1 => readBackFrom tie magnitude num den point (digits + 1) more

/-- The decimal without zeros at the end of its digits. -/
def dropZeros (digits : Nat) (exponent : Int) : Decimal :=
  if h : digits ≠ 0 ∧ digits % 10 = 0 then dropZeros (digits / 10) (exponent + 1)
  else ⟨digits, exponent⟩
termination_by digits
decreasing_by omega

/-- The exact value of magnitude bits. -/
def exact (magnitude : Nat) : Decimal :=
  ⟨Double.units magnitude * Nat.pow 5 Double.unitShift, -(Double.unitShift : Int)⟩

/-- The shortest decimal that reads back as the given finite magnitude bits. -/
def shortest (tie : Tie) (magnitude : Nat) : Decimal :=
  if magnitude = 0 then ⟨0, 0⟩
  else
    let num := Double.units magnitude
    let den := Nat.pow 2 Double.unitShift
    let d := (readBackFrom tie magnitude num den (pointOf num den) 1 16).getD (exact magnitude)
    dropZeros d.digits d.exponent

/-- Zeros. -/
def zeros (n : Nat) : List Char := List.replicate n '0'

/-- The digits with a point and no exponent; a whole number has no point. -/
def plain (d : Decimal) : List Char :=
  let ds := digitsOf d.digits
  if 0 ≤ d.exponent then ds ++ zeros d.exponent.toNat
  else
    let places := (-d.exponent).toNat
    if places < ds.length then
      ds.take (ds.length - places) ++ '.' :: ds.drop (ds.length - places)
    else '0' :: '.' :: zeros (places - ds.length) ++ ds

/-- One digit, a point and the other digits, and a signed exponent. -/
def scientific (d : Decimal) : List Char :=
  let ds := digitsOf d.digits
  let e : Int := d.exponent + ds.length - 1
  let fraction := if ds.length = 1 then [] else '.' :: ds.drop 1
  ds.take 1 ++ fraction ++ 'e' :: (if e < 0 then '-' else '+') :: digitsOf e.natAbs

/-- The decimal with a mark that it is a fraction: a point, or an exponent for magnitudes below
`10 ^ -5` and from `10 ^ 16`. -/
def marked (d : Decimal) : List Char :=
  let point : Int := d.exponent + (digitsOf d.digits).length
  if d.digits = 0 then "0.0".toList
  else if -5 < point ∧ point ≤ 16 then
    if 0 ≤ d.exponent then d.plain ++ ['.', '0'] else d.plain
  else d.scientific

end Decimal

namespace Double

/-- The sign of a number as text. -/
def signChars (d : Double) : List Char := if d.negative then ['-'] else []

/-- The double in plain notation. -/
def display (d : Double) : List Char :=
  if d.isNaN then "NaN".toList
  else if d.isFinite then d.signChars ++ (Decimal.shortest .larger d.magnitude).plain
  else d.signChars ++ "inf".toList

/-- A finite double, marked as a fraction. -/
def marked (d : Double) : List Char :=
  d.signChars ++ (Decimal.shortest .even d.magnitude).marked

end Double
end QueryConsole
