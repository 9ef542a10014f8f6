/-
# Double precision numbers

A 64-bit binary number by its bits, with exact arithmetic on natural numbers.  A finite magnitude is
`mantissa · 2 ^ scale` units of `2 ^ -1074`; its bits are `scale · 2 ^ 52 + mantissa`.

| bits of the magnitude | value |
| --- | --- |
| below `2 ^ 52` | a mantissa of scale 0 (subnormal) |
| below `2047 · 2 ^ 52` | a mantissa from `2 ^ 52` below `2 ^ 53` |
| `2047 · 2 ^ 52` | infinity |
| above | not a number |

A ratio is rounded to the nearest double; a tie goes to the even mantissa.
-/

namespace QueryConsole

/-- A double precision number, by its bits. -/
structure Double where
  bits : UInt64
  deriving DecidableEq

namespace Double

/-- The number of units of the last place below the magnitude 1. -/
def unitShift : Nat := 1074

/-- The bits of infinity. -/
def infinityBits : Nat := 2047 * Nat.pow 2 52

/-- The bits without the sign. -/
def magnitude (d : Double) : Nat := d.bits.toNat % Nat.pow 2 63

/-- Whether the sign bit is set. -/
def negative (d : Double) : Bool := Nat.pow 2 63 ≤ d.bits.toNat

def isFinite (d : Double) : Bool := d.magnitude < infinityBits

def isNaN (d : Double) : Bool := infinityBits < d.magnitude

/-- The double with the given magnitude bits and sign. -/
def ofMagnitude (negative : Bool) (magnitude : Nat) : Double :=
  ⟨UInt64.ofNat (magnitude + if negative then Nat.pow 2 63 else 0)⟩

/-- The power of two that scales the mantissa of magnitude bits. -/
def scaleOf (magnitude : Nat) : Nat := magnitude / Nat.pow 2 52 - 1

/-- The mantissa of magnitude bits. -/
def mantissaOf (magnitude : Nat) : Nat := magnitude - scaleOf magnitude * Nat.pow 2 52

/-- The number of units in finite magnitude bits. -/
def units (magnitude : Nat) : Nat := mantissaOf magnitude * Nat.pow 2 (scaleOf magnitude)

/-- The quotient rounded to the nearest natural number, a tie to the even one. -/
def roundHalfEven (num den : Nat) : Nat :=
  let q := num / den
  let r := num % den
  if den < 2 * r ∨ (2 * r = den ∧ q % 2 = 1) then q + 1 else q

/-- The quotient rounded to the nearest natural number, a tie to the larger one. -/
def roundHalfUp (num den : Nat) : Nat := (2 * num + den) / (2 * den)

/-- The magnitude bits nearest to `num / den`, infinity where the magnitude is too large. -/
def nearest (num den : Nat) : Nat :=
  let num := num * Nat.pow 2 unitShift
  let scale := (num / den).log2 - 52
  min (scale * Nat.pow 2 52 + roundHalfEven num (den * Nat.pow 2 scale)) infinityBits

/-- The magnitude bits nearest to `num · 10 ^ exponent`. -/
def nearestDecimal (num : Nat) (exponent : Int) : Nat :=
  if 0 ≤ exponent then nearest (num * Nat.pow 10 exponent.toNat) 1
  else nearest num (Nat.pow 10 (-exponent).toNat)

/-- The double nearest to an integer. -/
def ofInt (n : Int) : Double := ofMagnitude (n < 0) (nearest n.natAbs 1)

/-- The magnitude bits of the rounded product of two magnitudes. -/
def mulMagnitude (a b : Nat) : Nat :=
  nearest (units a * units b) (Nat.pow 2 (2 * unitShift))

/-- The magnitude bits of the rounded quotient of two magnitudes. -/
def divMagnitude (a b : Nat) : Nat := nearest (units a) (units b)

/-- The magnitude bits of the double nearest to `10 ^ k`. -/
def powerOfTen (k : Nat) : Nat := nearest (Nat.pow 10 k) 1

/-- The magnitude divided by `10 ^ k`, at most `10 ^ 308` in one step. -/
def divPowerOfTen (magnitude k : Nat) : Nat :=
  if k ≤ 308 then divMagnitude magnitude (powerOfTen k)
  else if magnitude = 0 then 0
  else divPowerOfTen (divMagnitude magnitude (powerOfTen 308)) (k - 308)
termination_by k

/-- The magnitude bits of a significand times a power of ten, rounded twice: the significand to a
double, and its product or quotient with the double of the power.  There is none above the range. -/
def scaleDecimal? (significand : Nat) (exponent : Int) : Option Nat :=
  let m := nearest significand 1
  if exponent < 0 then some (divPowerOfTen m (-exponent).toNat)
  else if exponent ≤ 308 then
    let product := mulMagnitude m (powerOfTen exponent.toNat)
    if product < infinityBits then some product else none
  else if m = 0 then some 0
  else none

/-- The integer nearest to a finite double times 100, the product rounded to a double first and a
half going away from zero; clamped to the 64-bit integers. -/
def roundedHundredfold (d : Double) : Int :=
  let limit := Nat.pow 2 63
  let product := nearest (units d.magnitude * 100) (Nat.pow 2 unitShift)
  let whole : Nat :=
    if product < infinityBits then roundHalfUp (units product) (Nat.pow 2 unitShift) else limit
  if d.negative then -(min whole limit : Nat) else (min whole (limit - 1) : Nat)

end Double
end QueryConsole
