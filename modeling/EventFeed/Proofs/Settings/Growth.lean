/-
**How delays grow.**

The delay before an attempt is computed in doubles. The power of the factor is a product of rounded
products and may become infinite, the base delay is rounded when it becomes a count of seconds, and
the delay is rounded again when it becomes a span. All the same the delays grow with the attempts
and never exceed the longest delay, and they reach it where the exact ones do, with room for the
roundings.

The exponent is not larger than 63, though, so the delay after 63 attempts is that of all attempts
that follow, and with a factor close to one it may be less than the longest delay. And without a
base delay there is no delay only as long as the power is finite.

* `Reconnection.delay_grows`: how delays grow;
* `Reconnection.delay_stops_short`: a factor with which they never reach the longest delay, and one
  with which they reach it from nothing.
-/

import EventFeed.Proofs.Time.Seconds
import EventFeed.Settings.Backoff

namespace EventFeed

open EventFeed.Numeral EventFeed.Time

/-! ### Doubles that are not negative -/

namespace Numeral.Binary64

/-- The number that a finite double is. -/
def value : Binary64 → ℚ
  | .finite negative magnitude => signedUnits negative magnitude / unitsPerOne
  | _ => 0

theorem exists_zero : ∃ magnitude, zero = .finite false magnitude ∧ magnitude.units = 0 := by
  obtain ⟨magnitude, same, units⟩ := exists_ofNat_short (by decide : 0 ≤ 2 ^ 53)
  exact ⟨magnitude, same, units.trans (Nat.zero_mul _)⟩

theorem exists_one : ∃ magnitude, one = .finite false magnitude ∧
    magnitude.units = unitsPerOne := by
  obtain ⟨magnitude, same, units⟩ := exists_ofNat_short (by decide : 1 ≤ 2 ^ 53)
  exact ⟨magnitude, same, units.trans (Nat.one_mul _)⟩

/-- A finite double that is not below one is a gain. -/
theorem isGain_of_not_lt {factor : Binary64} (finite : factor.isFinite = true)
    (large : factor.lt one = false) : factor.IsGain ∧ factor.value = factor.reach := by
  obtain ⟨unit, isOne, units⟩ := exists_one
  cases factor with
  | nan | infinite => cases finite
  | finite negative magnitude =>
    rw [isOne, lt, decide_eq_false_iff_not] at large
    cases negative with
    | true =>
      have positive := unitsPerOne_pos
      simp only [signedUnits, if_true, Bool.false_eq_true, if_false, units] at large
      omega
    | false =>
      simp only [signedUnits, Bool.false_eq_true, if_false, units] at large
      refine ⟨.finite (by omega), ?_⟩
      rw [value, reach, extent, signedUnits, if_neg Bool.false_ne_true, Int.cast_natCast]

/-- The larger one of zero and a double that is not negative. -/
theorem max_zero (magnitude : Magnitude) :
    (Binary64.finite false magnitude).max zero = .finite false magnitude := by
  obtain ⟨nothing, isZero, units⟩ := exists_zero
  have notLess : (Binary64.finite false magnitude).lt zero = false := by
    rw [isZero, lt]
    simp [signedUnits, units]
  simp [Binary64.max, isNan, notLess]

/-- The smaller one of two doubles that are not negative. -/
theorem min_unsigned (left right : Magnitude) : ∃ magnitude,
    (Binary64.finite false left).min (.finite false right) = .finite false magnitude ∧
      magnitude.units = Nat.min left.units right.units := by
  have less : (Binary64.finite false right).lt (.finite false left) =
      decide (right.units < left.units) := by
    rw [lt]
    simp [signedUnits]
  by_cases smaller : right.units < left.units
  · refine ⟨right, ?_, (Nat.min_eq_right smaller.le).symm⟩
    simp [Binary64.min, isNan, less, smaller]
  · refine ⟨left, ?_, (Nat.min_eq_left (Nat.not_lt.mp smaller)).symm⟩
    simp [Binary64.min, isNan, less, smaller]

theorem min_infinite (right : Magnitude) :
    (Binary64.infinite false).min (.finite false right) = .finite false right :=
  rfl

end Numeral.Binary64

namespace Reconnection

/-! ### The delay in units -/

/-- The delay in units, given the units of the base delay, of the longest delay and of the power: if
the power is infinite, it is the longest. -/
def heldUnits (base longest power : Nat) : Nat :=
  if unitsBound ≤ power then longest
  else min (roundUnits (base * power) unitsPerOne) longest

theorem heldUnits_le (base longest power : Nat) : heldUnits base longest power ≤ longest := by
  unfold heldUnits
  split
  · exact le_rfl
  · exact Nat.min_le_right _ _

/-- The delay grows with the power. -/
theorem heldUnits_mono {power more : Nat} (le : power ≤ more) (base longest : Nat) :
    heldUnits base longest power ≤ heldUnits base longest more := by
  by_cases infinite : unitsBound ≤ more
  · rw [heldUnits, heldUnits, if_pos infinite]
    exact heldUnits_le base longest power
  · rw [heldUnits, heldUnits, if_neg infinite, if_neg fun large => infinite (large.trans le)]
    refine min_le_min_right _ (roundUnits_mono unitsPerOne_pos unitsPerOne_pos ?_)
    exact Nat.mul_le_mul_right _ (Nat.mul_le_mul_left _ le)

/-- The seconds of the base delay times the power, but not more than the longest delay, have as many
units. -/
theorem exists_capped (base longest : Magnitude) {power : Binary64} (gain : power.IsGain) :
    ∃ magnitude, ((Binary64.mul (.finite false base) power).min (.finite false longest)).max .zero =
      .finite false magnitude ∧
        magnitude.units = heldUnits base.units longest.units power.extent := by
  have spent {seconds : Binary64} (cut : seconds.min (.finite false longest) =
      .finite false longest) (all : heldUnits base.units longest.units power.extent =
        longest.units) : ∃ magnitude, (seconds.min (.finite false longest)).max .zero =
      .finite false magnitude ∧
        magnitude.units = heldUnits base.units longest.units power.extent := by
    rw [cut, Binary64.max_zero]
    exact ⟨longest, rfl, all.symm⟩
  cases gain with
  | infinite =>
    have all : heldUnits base.units longest.units (Binary64.infinite false).extent =
        longest.units := by
      rw [heldUnits, Binary64.extent, if_pos le_rfl]
    refine spent ?_ all
    rw [Binary64.mul]
    split <;> rfl
  | @finite size large =>
    have finite : ¬unitsBound ≤ size.units := Nat.not_le.mpr size.units_lt
    have held : heldUnits base.units longest.units (Binary64.finite false size).extent =
        min (roundUnits (base.units * size.units) unitsPerOne) longest.units := by
      rw [heldUnits, Binary64.extent, if_neg finite]
    by_cases fits : roundUnits (base.units * size.units) unitsPerOne < unitsBound
    · obtain ⟨product, isProduct, units⟩ := Binary64.exists_round false fits
      have multiplied : Binary64.mul (.finite false base) (.finite false size) =
          .finite false product := isProduct
      obtain ⟨least, isLeast, leastUnits⟩ := Binary64.min_unsigned product longest
      refine ⟨least, ?_, ?_⟩
      · rw [multiplied, isLeast, Binary64.max_zero]
      · rw [leastUnits, held, units]
    · have multiplied : Binary64.mul (.finite false base) (.finite false size) =
          .infinite false := by
        rw [Binary64.mul, Binary64.round, dif_neg fits]
        rfl
      refine spent ?_ ?_
      · rw [multiplied, Binary64.min_infinite]
      · rw [held]
        exact Nat.min_eq_right (longest.units_lt.le.trans (Nat.not_lt.mp fits))

section Accepted

/-- Of two counts of seconds the smaller one does not make more nanoseconds. -/
theorem roundEven_nanos_le {units more : Nat} (le : units ≤ more) :
    roundEven (units * nanosPerSecond) unitsPerOne ≤
      roundEven (more * nanosPerSecond) unitsPerOne := by
  refine roundEven_mono unitsPerOne_pos unitsPerOne_pos (Nat.mul_le_mul_right _ ?_)
  exact Nat.mul_le_mul_right _ le

variable {reconnection : Reconnection}

/-- What is known of settings that are in range. -/
theorem of_accepted (accepted : reconnection.defect? = none) : reconnection.factor.IsGain ∧
    reconnection.factor.value = reconnection.factor.reach ∧
    reconnection.longestDelay.nanos ≤ day.nanos := by
  unfold defect? at accepted
  split at accepted
  · cases accepted
  · rename_i factor
    split at accepted
    · cases accepted
    · split at accepted
      · cases accepted
      · rename_i short
        rw [Bool.not_eq_true, Bool.or_eq_false_iff, Bool.not_eq_false'] at factor
        obtain ⟨gain, value⟩ := Binary64.isGain_of_not_lt factor.1 factor.2
        exact ⟨gain, value, Nat.not_lt.mp short⟩

/-- The base delay and the longest delay as counts of seconds, how far these are off, and the delay
before an attempt that follows from them. -/
structure IsCounted (reconnection : Reconnection) (base longest : Magnitude) : Prop where
  baseNormal : base.units = 0 ∨ 2 ^ 52 ≤ base.units
  baseLow : (reconnection.baseDelay.nanos : ℚ) / nanosPerSecond * (1 - roundoff) ^ 2 ≤
    base.units / unitsPerOne
  baseHigh : (base.units : ℚ) / unitsPerOne ≤
    (reconnection.baseDelay.nanos : ℚ) / nanosPerSecond * (1 + roundoff) ^ 2
  longestHigh : (longest.units : ℚ) / unitsPerOne ≤
    (reconnection.longestDelay.nanos : ℚ) / nanosPerSecond * (1 + roundoff) ^ 2
  longestNanos : reconnection.longestDelay.nanos =
    roundEven (longest.units * nanosPerSecond) unitsPerOne
  delayNanos (before : Nat) : (reconnection.delayBase before).nanos =
    roundEven (heldUnits base.units longest.units
      (reconnection.factor.power (min before largestExponent)).extent * nanosPerSecond) unitsPerOne

theorem exists_isCounted (accepted : reconnection.defect? = none) :
    ∃ base longest, reconnection.IsCounted base longest := by
  obtain ⟨gain, -, short⟩ := of_accepted accepted
  obtain ⟨base, isBase, baseNormal, baseLow, baseHigh⟩ := reconnection.baseDelay.toSeconds_near
  obtain ⟨longest, isLongest, -, -, longestHigh⟩ := reconnection.longestDelay.toSeconds_near
  have longestNanos := Span.ofSeconds?_toSeconds (short.trans (by decide : day.nanos ≤ 2 ^ 50))
  rw [isLongest, Span.ofSeconds?_eq_some_iff] at longestNanos
  refine ⟨base, longest, baseNormal, baseLow, baseHigh, longestHigh, longestNanos, fun before => ?_⟩
  obtain ⟨magnitude, isCapped, units⟩ := exists_capped base longest
    (Binary64.isGain_power gain (min before largestExponent))
  have fits : roundEven (magnitude.units * nanosPerSecond) unitsPerOne < nanosBound := by
    refine lt_of_le_of_lt ?_ reconnection.longestDelay.nanos_lt
    rw [longestNanos, units]
    exact roundEven_nanos_le (heldUnits_le _ _ _)
  obtain ⟨span, nanos⟩ := Span.exists_nanos fits
  have found : reconnection.delayBase before = span := by
    unfold delayBase
    dsimp only
    rw [isBase, isLongest, isCapped, Span.ofSeconds?_eq_some_iff.mpr nanos, Option.getD_some]
  rw [found, nanos, units]

end Accepted

/-! ### How near the delay is to the exact one -/

/-- A power that is less than half of what a double cannot reach is finite. -/
theorem isFinite_power {factor : Binary64} (gain : factor.IsGain) {exponent : Nat}
    (few : exponent ≤ largestExponent) (small : factor.reach ^ exponent < 2 ^ 1023) :
    (factor.power exponent).isFinite = true := by
  refine (Binary64.isGain_power gain exponent).isFinite_iff.mpr ?_
  have off : (1 + roundoff) ^ exponent ≤ 2 := by
    calc (1 + roundoff) ^ exponent ≤ (1 + roundoff) ^ largestExponent :=
          pow_le_pow_right₀ (by linarith [roundoff_pos]) few
      _ ≤ 2 := by norm_num [roundoff, largestExponent]
  have least : 0 ≤ factor.reach ^ exponent := pow_nonneg (zero_le_one.trans gain.one_le_reach) _
  have bound : (unitsBound : ℚ) = 2 ^ 1023 * 2 * unitsPerOne := by
    have whole : unitsBound = 2 ^ 1023 * 2 * unitsPerOne := by decide +kernel
    rw [whole, Nat.cast_mul, Nat.cast_mul, Nat.cast_pow, Nat.cast_ofNat]
  have reach : (factor.power exponent).reach < 2 ^ 1023 * 2 := by
    generalize (2 : ℚ) ^ 1023 = half at small ⊢
    calc (factor.power exponent).reach
        ≤ (factor.reach * (1 + roundoff)) ^ exponent := Binary64.reach_power_le gain exponent
      _ = factor.reach ^ exponent * (1 + roundoff) ^ exponent := mul_pow _ _ _
      _ ≤ factor.reach ^ exponent * 2 := mul_le_mul_of_nonneg_left off least
      _ < half * 2 := by linarith
  rw [Binary64.reach, div_lt_iff₀ unitsPerOne_cast_pos, ← bound] at reach
  exact_mod_cast reach

namespace IsCounted

variable {reconnection : Reconnection} {base longest : Magnitude}

/-- A delay that would be twice as long as the longest is the longest, however it is rounded. -/
theorem le_roundUnits (counted : reconnection.IsCounted base longest) {power : Nat} {x : ℚ}
    (large : unitsPerOne ≤ power) (positive : 0 ≤ x)
    (low : x * (1 - roundoff) ^ largestExponent ≤ power / unitsPerOne)
    (twice : 2 * (reconnection.longestDelay.nanos : ℚ) ≤ reconnection.baseDelay.nanos * x) :
    longest.units ≤ roundUnits (base.units * power) unitsPerOne := by
  have normal : IsNormal (base.units * power) unitsPerOne := by
    rcases counted.baseNormal with isZero | wide
    · exact .inl (by rw [isZero, Nat.zero_mul])
    · exact .inr (Nat.mul_le_mul wide large)
  have onePositive := unitsPerOne_cast_pos
  obtain ⟨rounded, -⟩ := normal.near unitsPerOne_pos
    (x := base.units / unitsPerOne * (power / unitsPerOne)) (by push_cast; field_simp)
  have off := roundoff_pos
  have left : 0 ≤ 1 - roundoff := sub_nonneg.mpr roundoff_lt_one.le
  have room : (1 + roundoff) ^ 2 ≤ 2 * (1 - roundoff) ^ 66 := by norm_num [roundoff]
  have perSecond : (0 : ℚ) < nanosPerSecond := by norm_num [nanosPerSecond]
  have twiceInSeconds : (reconnection.longestDelay.nanos : ℚ) / nanosPerSecond * 2 ≤
      reconnection.baseDelay.nanos / nanosPerSecond * x := by
    rw [div_mul_eq_mul_div, div_mul_eq_mul_div, mul_comm _ (2 : ℚ),
      div_le_div_iff_of_pos_right perSecond]
    exact twice
  have least : 0 ≤ (reconnection.longestDelay.nanos : ℚ) / nanosPerSecond :=
    div_nonneg (Nat.cast_nonneg _) perSecond.le
  have inOnes : (longest.units : ℚ) / unitsPerOne ≤
      Numeral.roundUnits (base.units * power) unitsPerOne / unitsPerOne := by
    calc (longest.units : ℚ) / unitsPerOne
        ≤ reconnection.longestDelay.nanos / nanosPerSecond * (1 + roundoff) ^ 2 :=
          counted.longestHigh
      _ ≤ reconnection.longestDelay.nanos / nanosPerSecond * (2 * (1 - roundoff) ^ 66) :=
          mul_le_mul_of_nonneg_left room least
      _ = reconnection.longestDelay.nanos / nanosPerSecond * 2 * (1 - roundoff) ^ 66 := by ring
      _ ≤ reconnection.baseDelay.nanos / nanosPerSecond * x * (1 - roundoff) ^ 66 :=
          mul_le_mul_of_nonneg_right twiceInSeconds (pow_nonneg left _)
      _ = reconnection.baseDelay.nanos / nanosPerSecond * (1 - roundoff) ^ 2 *
            (x * (1 - roundoff) ^ largestExponent) * (1 - roundoff) := by
          rw [largestExponent]
          ring
      _ ≤ base.units / unitsPerOne * (power / unitsPerOne) * (1 - roundoff) := by
          refine mul_le_mul_of_nonneg_right (mul_le_mul counted.baseLow low ?_ ?_) left
          · exact mul_nonneg positive (pow_nonneg left _)
          · exact div_nonneg (Nat.cast_nonneg _) onePositive.le
      _ ≤ Numeral.roundUnits (base.units * power) unitsPerOne / unitsPerOne := rounded
  rw [div_le_div_iff_of_pos_right onePositive] at inOnes
  exact_mod_cast inOnes

theorem mono (counted : reconnection.IsCounted base longest) (gain : reconnection.factor.IsGain)
    {few more : Nat} (le : few ≤ more) :
    (reconnection.delayBase few).nanos ≤ (reconnection.delayBase more).nanos := by
  rw [counted.delayNanos, counted.delayNanos]
  exact roundEven_nanos_le
    (heldUnits_mono (Binary64.power_mono gain (min_le_min_right _ le)) _ _)

theorem bounded (counted : reconnection.IsCounted base longest) (before : Nat) :
    (reconnection.delayBase before).nanos ≤ reconnection.longestDelay.nanos := by
  rw [counted.delayNanos, counted.longestNanos]
  exact roundEven_nanos_le (heldUnits_le _ _ _)

theorem reaches (counted : reconnection.IsCounted base longest)
    (gain : reconnection.factor.IsGain) {before : Nat}
    (twice : 2 * (reconnection.longestDelay.nanos : ℚ) ≤ reconnection.baseDelay.nanos *
      reconnection.factor.reach ^ min before largestExponent) :
    (reconnection.delayBase before).nanos = reconnection.longestDelay.nanos := by
  have powerGain := Binary64.isGain_power gain (min before largestExponent)
  suffices all : heldUnits base.units longest.units
      (reconnection.factor.power (min before largestExponent)).extent = longest.units by
    rw [counted.delayNanos, counted.longestNanos, all]
  unfold heldUnits
  split
  · rfl
  · rename_i finite
    have least : 0 ≤ reconnection.factor.reach ^ min before largestExponent :=
      pow_nonneg (zero_le_one.trans gain.one_le_reach) _
    refine Nat.min_eq_right (counted.le_roundUnits powerGain.le_extent least ?_ twice)
    calc reconnection.factor.reach ^ min before largestExponent * (1 - roundoff) ^ largestExponent
        ≤ reconnection.factor.reach ^ min before largestExponent *
            (1 - roundoff) ^ min before largestExponent := by
          refine mul_le_mul_of_nonneg_left (pow_le_pow_of_le_one ?_ ?_ (min_le_right _ _)) least
          · exact sub_nonneg.mpr roundoff_lt_one.le
          · exact sub_le_self 1 roundoff_pos.le
      _ = (reconnection.factor.reach * (1 - roundoff)) ^ min before largestExponent :=
          (mul_pow _ _ _).symm
      _ ≤ (reconnection.factor.power (min before largestExponent)).reach :=
          Binary64.le_reach_power gain (Nat.not_le.mp finite)

theorem idle (counted : reconnection.IsCounted base longest)
    (gain : reconnection.factor.IsGain) {before : Nat} (noBase : reconnection.baseDelay.nanos = 0)
    (finite : (reconnection.factor.power (min before largestExponent)).isFinite = true) :
    (reconnection.delayBase before).nanos = 0 := by
  have powerGain := Binary64.isGain_power gain (min before largestExponent)
  have nothing : base.units = 0 := by
    have high := counted.baseHigh
    rw [noBase, Nat.cast_zero, zero_div, zero_mul, div_le_iff₀ unitsPerOne_cast_pos, zero_mul]
      at high
    exact Nat.le_zero.mp (by exact_mod_cast high)
  rw [counted.delayNanos, heldUnits,
    if_neg (Nat.not_le.mpr (powerGain.isFinite_iff.mp finite)), nothing, Nat.zero_mul,
    roundUnits_zero unitsPerOne_pos, Nat.min_eq_left (Nat.zero_le _), Nat.zero_mul,
    roundEven_of_dvd unitsPerOne_pos (Nat.dvd_zero _), Nat.zero_div]

end IsCounted

/-! ### How delays grow -/

/-- How the delays of a reconnection grow with the attempts before. -/
structure IsGrowing (reconnection : Reconnection) : Prop where
  /-- Later attempts are not delayed for less. -/
  mono {few more : Nat} (le : few ≤ more) :
    (reconnection.delayBase few).nanos ≤ (reconnection.delayBase more).nanos
  /-- No delay is longer than the longest. -/
  bounded (before : Nat) : (reconnection.delayBase before).nanos ≤ reconnection.longestDelay.nanos
  /-- A delay that would be twice as long as the longest is the longest. -/
  reaches {before : Nat} (twice : 2 * (reconnection.longestDelay.nanos : ℚ) ≤
    reconnection.baseDelay.nanos * reconnection.factor.value ^ min before largestExponent) :
    reconnection.delayBase before = reconnection.longestDelay
  /-- From the largest exponent on the delays stay the same. -/
  stays {before : Nat} (late : largestExponent ≤ before) :
    reconnection.delayBase before = reconnection.delayBase largestExponent
  /-- Without a base delay there is none, as long as the power is finite. -/
  idle {before : Nat} (noBase : reconnection.baseDelay.nanos = 0)
    (finite : (reconnection.factor.power (min before largestExponent)).isFinite = true) :
    (reconnection.delayBase before).nanos = 0
  /-- The power is finite if the exact one is less than half of what no double reaches. -/
  finite {before : Nat}
    (small : reconnection.factor.value ^ min before largestExponent < 2 ^ 1023) :
    (reconnection.factor.power (min before largestExponent)).isFinite = true

/-- The exponent is not larger than the largest one. -/
theorem delayBase_of_late {reconnection : Reconnection} {before : Nat}
    (late : largestExponent ≤ before) :
    reconnection.delayBase before = reconnection.delayBase largestExponent := by
  rw [delayBase, delayBase, min_eq_right late, min_self]

/-- **How delays grow**, if the settings are in range. -/
theorem delay_grows {reconnection : Reconnection} (accepted : reconnection.defect? = none) :
    reconnection.IsGrowing := by
  obtain ⟨gain, value, -⟩ := of_accepted accepted
  obtain ⟨base, longest, counted⟩ := exists_isCounted accepted
  constructor
  case mono => exact counted.mono gain
  case bounded => exact counted.bounded
  case reaches =>
    intro before twice
    rw [value] at twice
    exact Span.nanos_injective (counted.reaches gain twice)
  case stays => exact delayBase_of_late
  case idle => exact counted.idle gain
  case finite =>
    intro before small
    rw [value] at small
    exact isFinite_power gain (min_le_right _ _) small

/-- A reconnection like the one unless something else is set, but without a base delay. -/
def instant : Reconnection :=
  { standard with baseDelay := .zero }

/-- Unless something else is set, the eighth attempt waits for the longest delay, and without a base
delay no attempt waits. -/
theorem standard_delay_grows :
    standard.IsGrowing ∧ standard.delayBase 7 = standard.longestDelay ∧
      ∀ before, (instant.delayBase before).nanos = 0 := by
  have grows := delay_grows (by decide +kernel : standard.defect? = none)
  have instantGrows := delay_grows (by decide +kernel : instant.defect? = none)
  have factor : standard.factor.value = 2 := by decide +kernel
  have instantFactor : instant.factor.value = 2 := by decide +kernel
  have base : standard.baseDelay.nanos = 500000000 := by decide +kernel
  have longest : standard.longestDelay.nanos = 30000000000 := by decide +kernel
  refine ⟨grows, grows.reaches ?_, fun before => instantGrows.idle (by decide +kernel) ?_⟩
  · rw [factor, base, longest]
    norm_num [largestExponent]
  · refine instantGrows.finite ?_
    have bounded : min before largestExponent < 1023 := by
      unfold largestExponent
      omega
    rw [instantFactor]
    exact pow_lt_pow_right₀ one_lt_two bounded

/-- A reconnection whose delays grow by an eighth, up to a day. -/
def gentle : Reconnection :=
  { standard with longestDelay := day, factor := .ofRatio false 9 8, jitter := .zero }

/-- A reconnection without a base delay, whose power is soon infinite. -/
def steep : Reconnection :=
  { standard with baseDelay := .zero, factor := .ofNat (10 ^ 300), jitter := .zero }

/-- **Delays may remain short or become long**: those that grow gently never reach the longest delay
although the exact ones do, and without a base delay the longest delay follows on an infinite
power. -/
theorem delay_stops_short :
    (gentle.defect? = none ∧
      2 * (gentle.longestDelay.nanos : ℚ) ≤ gentle.baseDelay.nanos * gentle.factor.value ^ 120 ∧
      ∀ before, gentle.delayBase before ≠ gentle.longestDelay) ∧
    (steep.defect? = none ∧ steep.baseDelay.nanos = 0 ∧
      steep.delayBase 2 = steep.longestDelay ∧ steep.longestDelay.nanos ≠ 0) := by
  have accepted : gentle.defect? = none := by decide +kernel
  refine ⟨⟨accepted, ?_, fun before same => ?_⟩, by decide +kernel⟩
  · have factor : gentle.factor.value = 9 / 8 := by decide +kernel
    have base : gentle.baseDelay.nanos = 500000000 := by decide +kernel
    have longest : gentle.longestDelay.nanos = 86400000000000 := by decide +kernel
    rw [factor, base, longest]
    norm_num
  · obtain ⟨gain, -⟩ := of_accepted accepted
    obtain ⟨base, longest, counted⟩ := exists_isCounted accepted
    have late : largestExponent ≤ max before largestExponent := le_max_right _ _
    have most := counted.mono gain (le_max_left before largestExponent)
    rw [delayBase_of_late late, same] at most
    revert most
    decide +kernel

end Reconnection

end EventFeed
