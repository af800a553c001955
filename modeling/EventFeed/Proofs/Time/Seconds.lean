/-
**Spans as counts of seconds.**

A span becomes a double count of seconds by three roundings: of the whole seconds, of the rest, and
of their sum. The count is finite, and off by a small part of the span at most; a span of a few days
comes back from it unchanged.

* `Span.toSeconds_near`: how far the count is off;
* `Span.ofSeconds?_toSeconds`: a span that is not too long comes back.
-/

import EventFeed.Proofs.Numeral.Powers
import EventFeed.Time.Span

namespace EventFeed

open EventFeed.Numeral

/-! ### Roundings of natural numbers -/

namespace Numeral

variable {num den units : Nat}

/-- What is not above a double is not rounded above it. -/
theorem roundUnits_le_of_short (positive : 0 < den) (le : num ≤ units * den)
    (short : ∃ mantissa scale, mantissa ≤ Nat.pow 2 53 ∧ units = mantissa * Nat.pow 2 scale) :
    roundUnits num den ≤ units := by
  rw [← roundUnits_mul_self positive short]
  exact roundUnits_mono positive positive (Nat.mul_le_mul_right den le)

/-- What is not zero and not too near to it is not rounded near to it. -/
theorem IsNormal.roundUnits (positive : 0 < den) (normal : IsNormal num den) :
    roundUnits num den = 0 ∨ 2 ^ 52 ≤ Numeral.roundUnits num den := by
  rcases normal with rfl | large
  · exact .inl (roundUnits_zero positive)
  · right
    have short : ∃ mantissa scale, mantissa ≤ Nat.pow 2 53 ∧
        2 ^ 52 = mantissa * Nat.pow 2 scale := ⟨1, 52, by decide, rfl⟩
    rw [← roundUnits_mul_self positive short]
    exact roundUnits_mono positive positive (Nat.mul_le_mul_right den large)

/-- How far a rounded quotient is off, both of them counted in ones. -/
theorem IsNormal.near (positive : 0 < den) (normal : IsNormal num den) {x : ℚ}
    (same : (num : ℚ) / den = x * unitsPerOne) :
    x * (1 - roundoff) ≤ (Numeral.roundUnits num den : ℚ) / unitsPerOne ∧
      (Numeral.roundUnits num den : ℚ) / unitsPerOne ≤ x * (1 + roundoff) := by
  have low := le_roundUnits positive normal
  have high := roundUnits_le positive normal
  rw [same] at low high
  rw [le_div_iff₀ unitsPerOne_cast_pos, div_le_iff₀ unitsPerOne_cast_pos]
  constructor <;> linarith

/-- Whether a double that is not negative is a number rounded once, and is not too near to zero. -/
structure Magnitude.IsNear (magnitude : Magnitude) (x : ℚ) : Prop where
  normal : magnitude.units = 0 ∨ 2 ^ 52 ≤ magnitude.units
  low : x * (1 - roundoff) ≤ magnitude.units / unitsPerOne
  high : (magnitude.units : ℚ) / unitsPerOne ≤ x * (1 + roundoff)

/-- What a quotient is rounded to is near to it. -/
theorem IsNormal.isNear (positive : 0 < den) (normal : IsNormal num den) {x : ℚ}
    (same : (num : ℚ) / den = x * unitsPerOne) {magnitude : Magnitude}
    (rounded : magnitude.units = Numeral.roundUnits num den) : magnitude.IsNear x := by
  obtain ⟨low, high⟩ := normal.near positive same
  have zeroOrLarge := normal.roundUnits positive
  rw [← rounded] at low high zeroOrLarge
  exact ⟨zeroOrLarge, low, high⟩

/-- A count of ones with few significant bits is a double. -/
theorem short_of_ones {count : Nat} (small : count ≤ 2 ^ 53) : ∃ mantissa scale,
    mantissa ≤ Nat.pow 2 53 ∧ count * unitsPerOne = mantissa * Nat.pow 2 scale := by
  have ones : unitsPerOne = Nat.pow 2 1074 := by decide +kernel
  exact ⟨count, 1074, small, by rw [ones]⟩

/-- A double that is rounded and finite. -/
theorem Binary64.exists_round (negative : Bool) (fits : roundUnits num den < unitsBound) :
    ∃ magnitude, Binary64.round negative num den = .finite negative magnitude ∧
      magnitude.units = roundUnits num den := by
  rw [Binary64.round, dif_pos fits]
  exact ⟨_, rfl, rfl⟩

/-- A natural number that is not too large is a double, or is rounded to one. -/
theorem Binary64.exists_ofNat {number : Nat} (small : number ≤ 2 ^ 64) :
    ∃ magnitude, Binary64.ofNat number = .finite false magnitude ∧
      magnitude.units = roundUnits (number * unitsPerOne) 1 ∧
      magnitude.units ≤ 2 ^ 64 * unitsPerOne := by
  have below : roundUnits (number * unitsPerOne) 1 ≤ 2 ^ 64 * unitsPerOne := by
    refine roundUnits_le_of_short Nat.one_pos ?_ ⟨1, 1138, by decide +kernel, by decide +kernel⟩
    rw [Nat.mul_one]
    exact Nat.mul_le_mul_right _ small
  have inside : 2 ^ 64 * unitsPerOne < unitsBound := by decide +kernel
  obtain ⟨magnitude, same, units⟩ := exists_round false (below.trans_lt inside)
  exact ⟨magnitude, by rw [ofNat, ofRatio, same], units, units.trans_le below⟩

/-- It is rounded to one that is near to it. -/
theorem Binary64.isNear_of_ofNat {number : Nat} {magnitude : Magnitude}
    (rounded : magnitude.units = roundUnits (number * unitsPerOne) 1) :
    magnitude.IsNear number := by
  have normal : IsNormal (number * unitsPerOne) 1 := by
    rcases Nat.eq_zero_or_pos number with rfl | positive
    · exact .inl (Nat.zero_mul _)
    · refine .inr (le_trans ?_ (Nat.le_mul_of_pos_left unitsPerOne positive))
      decide +kernel
  exact normal.isNear Nat.one_pos (by rw [Nat.cast_mul, Nat.cast_one, div_one]) rounded

/-- A number of few bits is a double itself. -/
theorem Binary64.exists_ofNat_short {number : Nat} (small : number ≤ 2 ^ 53) :
    ∃ magnitude, Binary64.ofNat number = .finite false magnitude ∧
      magnitude.units = number * unitsPerOne := by
  obtain ⟨magnitude, same, units, -⟩ := exists_ofNat (small.trans (by decide))
  refine ⟨magnitude, same, units.trans ?_⟩
  have kept := roundUnits_mul_self Nat.one_pos (short_of_ones small)
  rwa [Nat.mul_one] at kept

/-- The sum of two doubles that are not negative, if it is not too large. -/
theorem Binary64.exists_add {left right : Magnitude} {x y : ℚ} (leftNear : left.IsNear x)
    (rightNear : right.IsNear y) (fits : left.units + right.units ≤ 2 ^ 65 * unitsPerOne) :
    ∃ magnitude, Binary64.add (.finite false left) (.finite false right) =
        .finite false magnitude ∧
      magnitude.IsNear (left.units / unitsPerOne + right.units / unitsPerOne) := by
  have sum : signedUnits false left + signedUnits false right =
      ((left.units + right.units : Nat) : Int) := by
    simp [signedUnits]
  have added : Binary64.add (.finite false left) (.finite false right) =
      Binary64.round false (left.units + right.units) 1 := by
    unfold Binary64.add
    dsimp only
    rw [sum, Int.natAbs_natCast]
    congr 1
    split
    · rfl
    · exact decide_eq_false (by omega)
  have below : roundUnits (left.units + right.units) 1 ≤ 2 ^ 65 * unitsPerOne := by
    refine roundUnits_le_of_short Nat.one_pos ?_ ⟨1, 1139, by decide +kernel, by decide +kernel⟩
    rw [Nat.mul_one]
    exact fits
  have inside : 2 ^ 65 * unitsPerOne < unitsBound := by decide +kernel
  obtain ⟨magnitude, isRounded, units⟩ := exists_round false (below.trans_lt inside)
  have normal : IsNormal (left.units + right.units) 1 := by
    have leftNormal := leftNear.normal
    have rightNormal := rightNear.normal
    unfold IsNormal
    omega
  have onePositive := unitsPerOne_cast_pos
  refine ⟨magnitude, added.trans isRounded, normal.isNear Nat.one_pos ?_ units⟩
  push_cast
  field_simp

end Numeral

namespace Time.Span

/-! ### The roundings of a span -/

/-- The rest of a span that is less than a second, as a double. -/
theorem exists_rest {rest : Nat} (small : rest < nanosPerSecond) : ∃ magnitude,
    Binary64.div (.ofNat rest) (.ofNat nanosPerSecond) = .finite false magnitude ∧
      magnitude.IsNear (rest / nanosPerSecond) ∧ magnitude.units ≤ unitsPerOne := by
  have few : nanosPerSecond ≤ 2 ^ 53 := by decide
  obtain ⟨dividend, isDividend, dividendUnits⟩ :=
    Binary64.exists_ofNat_short (small.le.trans few)
  obtain ⟨divisor, isDivisor, divisorUnits⟩ := Binary64.exists_ofNat_short few
  have positive : 0 < nanosPerSecond * unitsPerOne := by decide +kernel
  have below : roundUnits (rest * unitsPerOne * unitsPerOne) (nanosPerSecond * unitsPerOne) ≤
      unitsPerOne := by
    refine roundUnits_le_of_short positive ?_ unitsPerOne_short
    rw [Nat.mul_comm unitsPerOne]
    exact Nat.mul_le_mul_right _ (Nat.mul_le_mul_right _ small.le)
  have normal : IsNormal (rest * unitsPerOne * unitsPerOne) (nanosPerSecond * unitsPerOne) := by
    rcases Nat.eq_zero_or_pos rest with rfl | positiveRest
    · exact .inl (by rw [Nat.zero_mul, Nat.zero_mul])
    · have large : 2 ^ 52 * (nanosPerSecond * unitsPerOne) ≤ unitsPerOne * unitsPerOne := by
        decide +kernel
      have more : unitsPerOne ≤ rest * unitsPerOne :=
        Nat.le_mul_of_pos_left unitsPerOne positiveRest
      exact .inr (large.trans (Nat.mul_le_mul_right _ more))
  rw [isDividend, isDivisor, Binary64.div, if_neg (by omega), dividendUnits, divisorUnits]
  obtain ⟨magnitude, same, units⟩ :=
    Binary64.exists_round false (below.trans_lt unitsPerOne_lt_unitsBound)
  have onePositive := unitsPerOne_cast_pos
  refine ⟨magnitude, same, normal.isNear positive ?_ units, units.trans_le below⟩
  push_cast
  field_simp

/-- The whole seconds of a span and the rest make up the span. -/
theorem seconds_add_rest (span : Span) : ((span.nanos / nanosPerSecond : Nat) : ℚ) +
    (span.nanos % nanosPerSecond : Nat) / nanosPerSecond =
      (span.nanos : ℚ) / nanosPerSecond := by
  have split := Nat.div_add_mod span.nanos nanosPerSecond
  have positive : (nanosPerSecond : ℚ) ≠ 0 := by norm_num [nanosPerSecond]
  rw [eq_div_iff positive, add_mul, div_mul_cancel₀ _ positive, mul_comm]
  exact_mod_cast split

/-- **How far a count of seconds is off**: it is finite, and each of its parts was rounded twice. -/
theorem toSeconds_near (span : Span) : ∃ magnitude, span.toSeconds = .finite false magnitude ∧
    (magnitude.units = 0 ∨ 2 ^ 52 ≤ magnitude.units) ∧
    (span.nanos : ℚ) / nanosPerSecond * (1 - roundoff) ^ 2 ≤ magnitude.units / unitsPerOne ∧
    (magnitude.units : ℚ) / unitsPerOne ≤
      (span.nanos : ℚ) / nanosPerSecond * (1 + roundoff) ^ 2 := by
  have small := span.nanos_lt
  have seconds : span.nanos / nanosPerSecond ≤ 2 ^ 64 := by
    unfold nanosBound at small
    unfold nanosPerSecond
    omega
  obtain ⟨whole, isWhole, wholeUnits, wholeSmall⟩ := Binary64.exists_ofNat seconds
  have wholeNear := Binary64.isNear_of_ofNat wholeUnits
  obtain ⟨rest, isRest, restNear, restSmall⟩ :=
    exists_rest (Nat.mod_lt span.nanos (by decide : 0 < nanosPerSecond))
  obtain ⟨magnitude, isSum, near⟩ := Binary64.exists_add wholeNear restNear (by omega)
  have parts := span.seconds_add_rest
  generalize ((span.nanos / nanosPerSecond : Nat) : ℚ) = ones at wholeNear parts
  generalize ((span.nanos % nanosPerSecond : Nat) : ℚ) / nanosPerSecond = part at restNear parts
  have positive := roundoff_pos
  have less := roundoff_lt_one
  refine ⟨magnitude, by rw [toSeconds, isWhole, isRest, isSum], near.normal, ?_, ?_⟩
  · rw [← parts]
    calc (ones + part) * (1 - roundoff) ^ 2
        = (ones * (1 - roundoff) + part * (1 - roundoff)) * (1 - roundoff) := by ring
      _ ≤ (whole.units / unitsPerOne + rest.units / unitsPerOne) * (1 - roundoff) :=
          mul_le_mul_of_nonneg_right (add_le_add wholeNear.low restNear.low) (by linarith)
      _ ≤ magnitude.units / unitsPerOne := near.low
  · rw [← parts]
    calc (magnitude.units : ℚ) / unitsPerOne
        ≤ (whole.units / unitsPerOne + rest.units / unitsPerOne) * (1 + roundoff) := near.high
      _ ≤ (ones * (1 + roundoff) + part * (1 + roundoff)) * (1 + roundoff) :=
          mul_le_mul_of_nonneg_right (add_le_add wholeNear.high restNear.high) (by linarith)
      _ = (ones + part) * (1 + roundoff) ^ 2 := by ring

theorem exists_nanos {nanos : Nat} (fits : nanos < nanosBound) :
    ∃ span : Span, span.nanos = nanos :=
  ⟨⟨nanos, fits⟩, rfl⟩

/-- The span nearest to a count of seconds that is not negative. -/
theorem ofSeconds?_eq_some_iff {magnitude : Magnitude} {span : Span} :
    ofSeconds? (.finite false magnitude) = some span ↔
      span.nanos = roundEven (magnitude.units * nanosPerSecond) unitsPerOne := by
  unfold ofSeconds?
  dsimp only
  rw [if_neg fun negative => absurd negative.1 Bool.false_ne_true]
  generalize roundEven (magnitude.units * nanosPerSecond) unitsPerOne = nanos
  by_cases fits : nanos < nanosBound
  · rw [dif_pos fits, Option.some.injEq]
    exact ⟨fun same => same ▸ rfl, fun same => nanos_injective same.symm⟩
  · rw [dif_neg fits]
    exact iff_of_false nofun fun same => fits (same ▸ span.nanos_lt)

/-- **A span of a few days comes back** from its count of seconds. -/
theorem ofSeconds?_toSeconds {span : Span} (short : span.nanos ≤ 2 ^ 50) :
    ofSeconds? span.toSeconds = some span := by
  obtain ⟨magnitude, isSeconds, -, low, high⟩ := span.toSeconds_near
  have perSecond : (nanosPerSecond : ℚ) = 1000000000 := by norm_num [nanosPerSecond]
  have few : (span.nanos : ℚ) ≤ 2 ^ 50 := by exact_mod_cast short
  have onePositive := unitsPerOne_cast_pos
  have inNanos : (magnitude.units * nanosPerSecond : ℚ) / unitsPerOne =
      magnitude.units / unitsPerOne * nanosPerSecond := by ring
  have near : |(magnitude.units * nanosPerSecond : ℚ) / unitsPerOne - span.nanos| < 1 / 2 := by
    rw [inNanos, perSecond, abs_lt]
    rw [perSecond] at low high
    generalize (magnitude.units : ℚ) / unitsPerOne = seconds at low high
    norm_num [roundoff] at low high
    constructor <;> linarith
  have kept : roundEven (magnitude.units * nanosPerSecond) unitsPerOne = span.nanos := by
    rw [abs_lt, lt_sub_iff_add_lt, sub_lt_iff_lt_add, lt_div_iff₀ onePositive,
      div_lt_iff₀ onePositive] at near
    obtain ⟨below, above⟩ := near
    refine roundEven_eq_of_near ?_ ?_
    · have inRationals : (2 * (unitsPerOne * span.nanos) : ℚ) <
          2 * (magnitude.units * nanosPerSecond) + unitsPerOne := by linarith
      exact_mod_cast inRationals
    · have inRationals : (2 * (magnitude.units * nanosPerSecond) : ℚ) <
          2 * (unitsPerOne * span.nanos) + unitsPerOne := by linarith
      exact_mod_cast inRationals
  rw [isSeconds, ofSeconds?_eq_some_iff, kept]

end Time.Span

end EventFeed
