/-
# Which doubles are finite

Rounding gives infinity only above the range of doubles (`nearest_lt_infinityBits`).  So the double of a
64-bit integer is finite (`isFinite_ofInt`), and so is the double that a decimal number is read as
(`lt_infinityBits_of_scaleDecimal?`): where the exponent is negative, a finite significand is divided by
a power of ten that is at least 2, and such a quotient stays in the range.
-/

import Mathlib.Algebra.Ring.Int.Defs
import Mathlib.Algebra.Ring.Nat
import QueryConsole.Number.Double

namespace QueryConsole
namespace Double

/-! ## The bits of a magnitude -/

/-- Bits below the sign bit are the magnitude of the double that is made of them. -/
theorem magnitude_ofMagnitude {m : Nat} (h : m < 2 ^ 63) (negative : Bool) :
    (ofMagnitude negative m).magnitude = m := by
  cases negative with
  | false =>
    simp only [magnitude, ofMagnitude, UInt64.toNat_ofNat', Nat.pow_eq, Bool.false_eq_true, if_false]
    omega
  | true =>
    simp only [magnitude, ofMagnitude, UInt64.toNat_ofNat', Nat.pow_eq, if_true]
    omega

/-- A double with magnitude bits below those of infinity is finite. -/
theorem isFinite_ofMagnitude {m : Nat} (h : m < infinityBits) (negative : Bool) :
    (ofMagnitude negative m).isFinite := by
  have hm : m < 2 ^ 63 := Nat.lt_trans h (by decide)
  rw [isFinite, magnitude_ofMagnitude hm]
  exact decide_eq_true h

/-- Bits of a scale have fewer units than a mantissa of 53 bits has in that scale. -/
theorem units_lt {m s : Nat} (h : m < (s + 2) * 2 ^ 52) : units m < 2 ^ (53 + s) := by
  have hscale : scaleOf m ≤ s := by
    simp only [scaleOf, Nat.pow_eq]
    omega
  have hmantissa : mantissaOf m < 2 ^ 53 := by
    simp only [mantissaOf, scaleOf, Nat.pow_eq]
    omega
  rw [Nat.pow_add]
  exact Nat.mul_lt_mul_of_lt_of_le hmantissa (Nat.pow_le_pow_right Nat.two_pos hscale)
    (Nat.two_pow_pos s)

/-- Bits of a scale have at least as many units as the least mantissa has in that scale. -/
theorem le_units {m s : Nat} (h : (s + 1) * 2 ^ 52 ≤ m) : 2 ^ (52 + s) ≤ units m := by
  have hscale : s ≤ scaleOf m := by
    simp only [scaleOf, Nat.pow_eq]
    omega
  have hmantissa : 2 ^ 52 ≤ mantissaOf m := by
    simp only [mantissaOf, scaleOf, Nat.pow_eq]
    omega
  rw [Nat.pow_add]
  exact Nat.mul_le_mul hmantissa (Nat.pow_le_pow_right Nat.two_pos hscale)

/-- Units of two scales differ by no larger a power of two than the scales allow. -/
theorem units_lt_units_mul {m m' s s' k : Nat} (hm : m < (s + 2) * 2 ^ 52)
    (hm' : (s' + 1) * 2 ^ 52 ≤ m') (hk : s + 1 ≤ s' + k) : units m < units m' * 2 ^ k :=
  calc units m < 2 ^ (53 + s) := units_lt hm
    _ ≤ 2 ^ (52 + s' + k) := Nat.pow_le_pow_right Nat.two_pos (by omega)
    _ = 2 ^ (52 + s') * 2 ^ k := Nat.pow_add 2 (52 + s') k
    _ ≤ units m' * 2 ^ k := Nat.mul_le_mul_right _ (le_units hm')

/-! ## Rounding -/

theorem roundHalfEven_le (num den : Nat) : roundHalfEven num den ≤ num / den + 1 := by
  simp only [roundHalfEven]
  split <;> omega

theorem le_roundHalfEven (num den : Nat) : num / den ≤ roundHalfEven num den := by
  simp only [roundHalfEven]
  split <;> omega

/-- **A ratio below `2 ^ 1023` is not rounded to infinity.** -/
theorem nearest_lt_infinityBits {num den k : Nat} (hk : k ≤ 1023) (h : num < den * 2 ^ k) :
    nearest num den < infinityBits := by
  have hquotient : num * 2 ^ unitShift / den < 2 ^ (k + unitShift) := by
    refine Nat.div_lt_of_lt_mul ?_
    rw [Nat.pow_add, ← Nat.mul_assoc]
    exact Nat.mul_lt_mul_of_pos_right h (Nat.two_pow_pos _)
  have hshift : unitShift = 1074 := rfl
  simp only [nearest, Nat.pow_eq]
  generalize num * 2 ^ unitShift = n at hquotient ⊢
  generalize hscale : (n / den).log2 - 52 = scale
  -- the quotient has at most 2097 binary digits, of which the scale leaves 53
  have hlog : (n / den).log2 ≤ 2096 := by
    by_cases hzero : n / den = 0
    · rw [hzero]
      decide
    · have hlt := (Nat.log2_lt hzero).mpr hquotient
      omega
  have hsignificand : n / (den * 2 ^ scale) < 2 ^ 53 := by
    rw [← Nat.div_div_eq_div_mul]
    refine Nat.div_lt_of_lt_mul ?_
    rw [← Nat.pow_add]
    refine Nat.lt_of_lt_of_le Nat.lt_log2_self (Nat.pow_le_pow_right Nat.two_pos ?_)
    omega
  have hround := roundHalfEven_le n (den * 2 ^ scale)
  refine Nat.lt_of_le_of_lt (Nat.min_le_left _ _) ?_
  simp only [infinityBits, Nat.pow_eq]
  omega

/-- A natural number from 2 is rounded to bits of at least the scale of 2. -/
theorem le_nearest {n : Nat} (h : 2 ≤ n) : (1023 + 1) * 2 ^ 52 ≤ nearest n 1 := by
  have hunits : 2 ^ (unitShift + 1) ≤ n * 2 ^ unitShift :=
    calc 2 ^ (unitShift + 1) = 2 * 2 ^ unitShift := Nat.pow_succ' (n := unitShift)
      _ ≤ n * 2 ^ unitShift := Nat.mul_le_mul_right _ h
  have hpos : n * 2 ^ unitShift ≠ 0 := Nat.ne_zero_of_lt (Nat.lt_of_lt_of_le (Nat.two_pow_pos _) hunits)
  have hshift : unitShift = 1074 := rfl
  simp only [nearest, Nat.pow_eq, Nat.div_one, Nat.one_mul]
  generalize n * 2 ^ unitShift = u at hunits hpos ⊢
  have hlog : unitShift + 1 ≤ u.log2 := (Nat.le_log2 hpos).mpr hunits
  generalize hscale : u.log2 - 52 = scale
  have hsignificand : 2 ^ 52 ≤ u / 2 ^ scale := by
    rw [Nat.le_div_iff_mul_le (Nat.two_pow_pos _), ← Nat.pow_add]
    refine Nat.le_trans (Nat.pow_le_pow_right Nat.two_pos ?_) (Nat.log2_self_le hpos)
    omega
  have hround := le_roundHalfEven u (2 ^ scale)
  refine Nat.le_min.mpr ⟨?_, by decide⟩
  omega

/-! ## Numbers that are read -/

/-- A natural number of 64 bits is not rounded to infinity. -/
theorem nearest_natural_lt_infinityBits {n : Nat} (h : n < 2 ^ 64) :
    nearest n 1 < infinityBits :=
  nearest_lt_infinityBits (k := 64) (by decide) (by rwa [Nat.one_mul])

/-- **The double of a 64-bit integer is finite**, signed or unsigned. -/
theorem isFinite_ofInt {n : Int} (lower : -2 ^ 63 ≤ n) (upper : n < 2 ^ 64) :
    (ofInt n).isFinite :=
  isFinite_ofMagnitude (nearest_natural_lt_infinityBits (by omega)) _

/-- A finite magnitude divided by a power of ten above 1 stays finite. -/
theorem divMagnitude_lt_infinityBits {m k : Nat} (hm : m < infinityBits) (hk : 1 ≤ k) :
    divMagnitude m (powerOfTen k) < infinityBits := by
  have hten : 2 ≤ 10 ^ k := Nat.le_trans (by decide) (Nat.pow_le_pow_right (by decide) hk)
  exact nearest_lt_infinityBits (k := 1023) (Nat.le_refl _)
    (units_lt_units_mul (s := 2045) (k := 1023) hm (le_nearest hten) (Nat.le_refl _))

theorem divPowerOfTen_lt_infinityBits {m k : Nat} (hm : m < infinityBits) (hk : 1 ≤ k) :
    divPowerOfTen m k < infinityBits := by
  induction m, k using divPowerOfTen.induct with
  | case1 m k hle =>
    rw [divPowerOfTen, if_pos hle]
    exact divMagnitude_lt_infinityBits hm hk
  | case2 k hgt =>
    rw [divPowerOfTen, if_neg hgt, if_pos rfl]
    exact hm
  | case3 m k hgt hne ih =>
    -- more than 308 places are left, so at least one remains after this step
    rw [divPowerOfTen, if_neg hgt, if_neg hne]
    exact ih (divMagnitude_lt_infinityBits hm (by decide)) (by omega)

/-- **A number that is read as a double is finite**, if its significand has 64 bits. -/
theorem lt_infinityBits_of_scaleDecimal? {significand m : Nat} {exponent : Int}
    (hfits : significand < 2 ^ 64) (h : scaleDecimal? significand exponent = some m) :
    m < infinityBits := by
  simp only [scaleDecimal?] at h
  split at h
  · obtain rfl := Option.some.inj h
    exact divPowerOfTen_lt_infinityBits (nearest_natural_lt_infinityBits hfits) (by omega)
  · split at h
    · obtain ⟨hlt, heq⟩ := Option.ite_none_right_eq_some.mp h
      exact Option.some.inj heq ▸ hlt
    · obtain ⟨-, heq⟩ := Option.ite_none_right_eq_some.mp h
      exact Option.some.inj heq ▸ (by decide)

end Double
end QueryConsole
