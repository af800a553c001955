/-
**How rounding behaves.**

Rounding a quotient of units to the nearest double keeps the order of quotients, leaves what is a
double already as it is, and is off by a small part of the quotient at most, unless the quotient is
very close to zero.

* `roundUnits_mono`: of two quotients the smaller one is not rounded to the larger double;
* `roundUnits_mul_self`: a number of units that a double can have is not changed;
* `le_roundUnits`, `roundUnits_le`: how far a quotient is rounded down or up at most.
-/

import EventFeed.Numeral.Binary64
import Mathlib.Algebra.Order.Field.Basic
import Mathlib.Data.Nat.Cast.Order.Field
import Mathlib.Data.Rat.Cast.Order
import Mathlib.Tactic.Linarith
import Mathlib.Tactic.Ring

namespace EventFeed.Numeral

/-! ### Whole numbers -/

section Whole

variable {num den other otherDen : Nat}

/-- The whole parts of quotients are in the order of the quotients. -/
theorem div_le_div_of_mul_le (positive : 0 < den) (otherPositive : 0 < otherDen)
    (le : num * otherDen ≤ other * den) : num / den ≤ other / otherDen := by
  rw [Nat.le_div_iff_mul_le otherPositive]
  refine Nat.le_of_mul_le_mul_right ?_ positive
  calc num / den * otherDen * den = num / den * den * otherDen := by ring
    _ ≤ num * otherDen := Nat.mul_le_mul_right _ (Nat.div_mul_le_self num den)
    _ ≤ other * den := le

theorem div_le_roundEven (num den : Nat) : num / den ≤ roundEven num den := by
  unfold roundEven
  dsimp only
  split
  · exact Nat.le_refl _
  · split <;> omega

/-- Of two quotients the smaller one is not rounded to the larger number. -/
theorem roundEven_mono (positive : 0 < den) (otherPositive : 0 < otherDen)
    (le : num * otherDen ≤ other * den) : roundEven num den ≤ roundEven other otherDen := by
  have quotients := div_le_div_of_mul_le positive otherPositive le
  rcases Nat.lt_or_eq_of_le quotients with less | same
  · exact (roundEven_le_succ num den).trans (less.trans_le (div_le_roundEven other otherDen))
  · -- the whole parts are equal, so the rests decide
    have rests : num % den * otherDen ≤ other % otherDen * den := by
      have split := Nat.div_add_mod num den
      have otherSplit := Nat.div_add_mod other otherDen
      rw [← same] at otherSplit
      rw [← split, ← otherSplit] at le
      have both : den * (num / den) * otherDen = otherDen * (num / den) * den := by ring
      rw [Nat.add_mul, Nat.add_mul, both] at le
      omega
    have half : den ≤ 2 * (num % den) → otherDen ≤ 2 * (other % otherDen) := by
      intro atLeast
      refine Nat.le_of_mul_le_mul_right ?_ positive
      calc otherDen * den = den * otherDen := Nat.mul_comm _ _
        _ ≤ 2 * (num % den) * otherDen := Nat.mul_le_mul_right _ atLeast
        _ = 2 * (num % den * otherDen) := Nat.mul_assoc _ _ _
        _ ≤ 2 * (other % otherDen * den) := Nat.mul_le_mul_left _ rests
        _ = 2 * (other % otherDen) * den := (Nat.mul_assoc _ _ _).symm
    have more : den < 2 * (num % den) → otherDen < 2 * (other % otherDen) := by
      intro exceeds
      refine Nat.lt_of_mul_lt_mul_right (a := den) ?_
      calc otherDen * den = den * otherDen := Nat.mul_comm _ _
        _ < 2 * (num % den) * otherDen := Nat.mul_lt_mul_of_pos_right exceeds otherPositive
        _ = 2 * (num % den * otherDen) := Nat.mul_assoc _ _ _
        _ ≤ 2 * (other % otherDen * den) := Nat.mul_le_mul_left _ rests
        _ = 2 * (other % otherDen) * den := (Nat.mul_assoc _ _ _).symm
    unfold roundEven
    dsimp only
    rw [← same]
    split
    · split
      · exact Nat.le_refl _
      · split <;> omega
    · rename_i notLess
      rw [if_neg (Nat.not_lt.mpr (half (Nat.not_lt.mp notLess)))]
      split
      · rename_i exceeds
        rw [if_pos (more exceeds)]
      · split <;> omega

/-- Rounding is off by half at most. -/
theorem roundEven_error (num : Nat) (positive : 0 < den) :
    2 * (den * roundEven num den) ≤ 2 * num + den ∧
      2 * num ≤ 2 * (den * roundEven num den) + den := by
  have split := Nat.div_add_mod num den
  have rest := Nat.mod_lt num positive
  unfold roundEven
  dsimp only
  split_ifs
  · omega
  · rw [Nat.mul_add]
    omega
  · rcases Nat.mod_two_eq_zero_or_one (num / den) with even | odd
    · rw [even, Nat.add_zero]
      omega
    · rw [odd, Nat.mul_add]
      omega

/-- What is nearer than half to a whole number is rounded to it. -/
theorem roundEven_eq_of_near {whole : Nat} (low : 2 * (den * whole) < 2 * num + den)
    (high : 2 * num < 2 * (den * whole) + den) : roundEven num den = whole := by
  have positive : 0 < den := by omega
  obtain ⟨below, above⟩ := roundEven_error num positive
  refine Nat.le_antisymm ?_ ?_
  · refine Nat.le_of_lt_succ (Nat.lt_of_mul_lt_mul_left (a := den) ?_)
    rw [Nat.succ_eq_add_one, Nat.mul_add]
    omega
  · refine Nat.le_of_lt_succ (Nat.lt_of_mul_lt_mul_left (a := den) ?_)
    rw [Nat.succ_eq_add_one, Nat.mul_add]
    omega

end Whole

/-! ### Doubles -/

section Units

variable {num den other otherDen units : Nat}

theorem log2_mono (le : units ≤ num) : units.log2 ≤ num.log2 := by
  by_cases isZero : units = 0
  · rw [isZero]
    exact Nat.zero_le _
  · have nonzero : num ≠ 0 := by omega
    exact (Nat.le_log2 nonzero).mpr ((Nat.log2_self_le isZero).trans le)

theorem spacing_pos (units : Nat) : 0 < spacing units :=
  Nat.two_pow_pos _

/-- A power of two that is not less than a number is a multiple of the spacing there. -/
theorem spacing_dvd_pow {exponent : Nat} (within : units.log2 ≤ exponent) :
    spacing units ∣ 2 ^ exponent :=
  Nat.pow_dvd_pow 2 (by omega)

/-- A quotient that is not above a multiple of the spacing is not rounded above it. -/
theorem roundUnits_le_of_dvd (positive : 0 < den) (le : num ≤ units * den)
    (spaced : spacing (num / den) ∣ units) : roundUnits num den ≤ units := by
  obtain ⟨count, rfl⟩ := spaced
  have step := spacing_pos (num / den)
  have rounded : roundEven num (den * spacing (num / den)) ≤ roundEven count 1 := by
    refine roundEven_mono (Nat.mul_pos positive step) Nat.one_pos ?_
    rw [Nat.mul_one]
    exact le.trans_eq (by ring)
  rw [roundEven_of_dvd Nat.one_pos (Nat.one_dvd count), Nat.div_one] at rounded
  unfold roundUnits
  dsimp only
  rw [Nat.mul_comm (spacing _)]
  exact Nat.mul_le_mul_right _ rounded

/-- A quotient that is not below a multiple of the spacing is not rounded below it. -/
theorem le_roundUnits_of_dvd (positive : 0 < den) (le : units * den ≤ num)
    (spaced : spacing (num / den) ∣ units) : units ≤ roundUnits num den := by
  obtain ⟨count, rfl⟩ := spaced
  have step := spacing_pos (num / den)
  have rounded : roundEven count 1 ≤ roundEven num (den * spacing (num / den)) := by
    refine roundEven_mono Nat.one_pos (Nat.mul_pos positive step) ?_
    rw [Nat.mul_one]
    exact le.trans' (Nat.le_of_eq (by ring))
  rw [roundEven_of_dvd Nat.one_pos (Nat.one_dvd count), Nat.div_one] at rounded
  unfold roundUnits
  dsimp only
  rw [Nat.mul_comm (spacing _)]
  exact Nat.mul_le_mul_right _ rounded

/-- **Of two quotients the smaller one is not rounded to the larger double.** -/
theorem roundUnits_mono (positive : 0 < den) (otherPositive : 0 < otherDen)
    (le : num * otherDen ≤ other * den) : roundUnits num den ≤ roundUnits other otherDen := by
  have quotients := div_le_div_of_mul_le positive otherPositive le
  rcases Nat.lt_or_ge (num / den).log2 (other / otherDen).log2 with less | ge
  · -- a power of two stands between the quotients, and is a double for both
    have large : other / otherDen ≠ 0 := by
      intro isZero
      rw [isZero] at less
      simp at less
    have above : num ≤ 2 ^ (other / otherDen).log2 * den := by
      refine Nat.le_of_lt ((Nat.div_lt_iff_lt_mul positive).mp ?_)
      by_cases zero : num / den = 0
      · rw [zero]
        exact Nat.two_pow_pos _
      · exact (Nat.log2_lt zero).mp less
    have below : 2 ^ (other / otherDen).log2 * otherDen ≤ other :=
      (Nat.le_div_iff_mul_le otherPositive).mp (Nat.log2_self_le large)
    exact (roundUnits_le_of_dvd positive above (spacing_dvd_pow less.le)).trans
      (le_roundUnits_of_dvd otherPositive below (spacing_dvd_pow le_rfl))
  · have same : spacing (num / den) = spacing (other / otherDen) := by
      have atMost : (num / den).log2 ≤ (other / otherDen).log2 := log2_mono quotients
      rw [spacing, spacing, Nat.le_antisymm atMost ge]
    unfold roundUnits
    dsimp only
    rw [same]
    refine Nat.mul_le_mul_right _ (roundEven_mono ?_ ?_ ?_)
    · exact Nat.mul_pos positive (spacing_pos _)
    · exact Nat.mul_pos otherPositive (spacing_pos _)
    · calc num * (otherDen * spacing (other / otherDen))
          = num * otherDen * spacing (other / otherDen) := by ring
        _ ≤ other * den * spacing (other / otherDen) := Nat.mul_le_mul_right _ le
        _ = other * (den * spacing (other / otherDen)) := by ring

/-- A number of units with few significant bits is a multiple of the spacing there. -/
theorem spacing_dvd_of_short {mantissa scale : Nat} (short : mantissa ≤ 2 ^ 53) :
    spacing (mantissa * 2 ^ scale) ∣ mantissa * 2 ^ scale := by
  by_cases isZero : mantissa = 0
  · rw [isZero, Nat.zero_mul]
    exact Nat.dvd_zero _
  have positive : mantissa * 2 ^ scale ≠ 0 :=
    Nat.mul_ne_zero isZero (Nat.two_pow_pos scale).ne'
  rcases Nat.lt_or_eq_of_le short with less | rfl
  · have within : (mantissa * 2 ^ scale).log2 < 53 + scale := by
      rw [Nat.log2_lt positive, Nat.pow_add]
      exact Nat.mul_lt_mul_of_pos_right less (Nat.two_pow_pos scale)
    have fits : spacing (mantissa * 2 ^ scale) ∣ 2 ^ scale := Nat.pow_dvd_pow 2 (by omega)
    exact fits.mul_left mantissa
  · rw [← Nat.pow_add]
    exact spacing_dvd_pow (Nat.log2_two_pow).le

/-- **A number of units that a double can have is not changed.** -/
theorem roundUnits_mul_self (positive : 0 < den)
    (short : ∃ mantissa scale, mantissa ≤ Nat.pow 2 53 ∧ units = mantissa * Nat.pow 2 scale) :
    roundUnits (units * den) den = units := by
  obtain ⟨mantissa, scale, small, rfl⟩ := short
  have quotient : mantissa * Nat.pow 2 scale * den / den = mantissa * Nat.pow 2 scale :=
    Nat.mul_div_cancel _ positive
  have spaced : spacing (mantissa * Nat.pow 2 scale * den / den) ∣ mantissa * Nat.pow 2 scale := by
    rw [quotient]
    exact spacing_dvd_of_short small
  exact Nat.le_antisymm (roundUnits_le_of_dvd positive le_rfl spaced)
    (le_roundUnits_of_dvd positive le_rfl spaced)

theorem roundUnits_zero (positive : 0 < den) : roundUnits 0 den = 0 := by
  have rounded : roundUnits (0 * den) den = 0 :=
    roundUnits_mul_self positive ⟨0, 0, Nat.zero_le _, by simp⟩
  rwa [Nat.zero_mul] at rounded

end Units

/-! ### How far rounding is off -/

/-- The largest part of a quotient by which rounding may be off. -/
def roundoff : ℚ :=
  1 / 2 ^ 53

section Errors

variable {num den : Nat}

/-- A quotient that is zero, or not so near to zero that doubles have fewer bits there. -/
def IsNormal (num den : Nat) : Prop :=
  num = 0 ∨ 2 ^ 52 * den ≤ num

/-- Rounding is off by half of the spacing at most, and that is a small part of the quotient. -/
theorem roundUnits_error (positive : 0 < den) (normal : IsNormal num den) :
    |(roundUnits num den : ℚ) - num / den| ≤ num / den * roundoff := by
  rcases normal with rfl | large
  · rw [roundUnits_zero positive]
    simp
  set step := spacing (num / den)
  have stepPositive : 0 < step := spacing_pos _
  have wide : 2 ^ 52 ≤ num / den := (Nat.le_div_iff_mul_le positive).mpr large
  have spread : 2 ^ 52 * step ≤ num / den := by
    have nonzero : num / den ≠ 0 := by omega
    have bits : 52 ≤ (num / den).log2 := (Nat.le_log2 nonzero).mpr wide
    calc 2 ^ 52 * step = 2 ^ (52 + ((num / den).log2 - 52)) := (Nat.pow_add ..).symm
      _ = 2 ^ (num / den).log2 := by rw [Nat.add_sub_cancel' bits]
      _ ≤ num / den := Nat.log2_self_le nonzero
  obtain ⟨below, above⟩ := roundEven_error num (Nat.mul_pos positive stepPositive)
  have units : roundUnits num den = roundEven num (den * step) * step := rfl
  have denPositive : (0 : ℚ) < den := by exact_mod_cast positive
  have half : (step : ℚ) / 2 ≤ num / den * roundoff := by
    have spread' : (2 ^ 52 * step : ℚ) ≤ num / den := by
      have floor : ((num / den : Nat) : ℚ) ≤ num / den := Nat.cast_div_le
      exact le_trans (by exact_mod_cast spread) floor
    rw [roundoff]
    linarith
  have low : 2 * (den * roundUnits num den : ℚ) ≤ 2 * num + den * step := by
    rw [units]
    have belowCast :
        (2 * (den * step * roundEven num (den * step)) : ℚ) ≤ 2 * num + den * step := by
      exact_mod_cast below
    push_cast
    linarith
  have high : (2 * num : ℚ) ≤ 2 * (den * roundUnits num den) + den * step := by
    rw [units]
    have aboveCast :
        (2 * num : ℚ) ≤ 2 * (den * step * roundEven num (den * step)) + den * step := by
      exact_mod_cast above
    push_cast
    linarith
  refine le_trans ?_ half
  rw [abs_le]
  constructor
  · rw [neg_le_sub_iff_le_add, div_le_iff₀ denPositive]
    linarith
  · rw [sub_le_iff_le_add', ← sub_le_iff_le_add, le_div_iff₀ denPositive]
    linarith

theorem le_roundUnits (positive : 0 < den) (normal : IsNormal num den) :
    num / den * (1 - roundoff) ≤ (roundUnits num den : ℚ) := by
  have error := (abs_le.mp (roundUnits_error positive normal)).1
  linarith

theorem roundUnits_le (positive : 0 < den) (normal : IsNormal num den) :
    (roundUnits num den : ℚ) ≤ num / den * (1 + roundoff) := by
  have error := (abs_le.mp (roundUnits_error positive normal)).2
  linarith

end Errors

end EventFeed.Numeral
