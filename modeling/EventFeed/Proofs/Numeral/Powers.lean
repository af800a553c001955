/-
**Powers by repeated squaring.**

A power of a double that is not below one is a product of rounded products, and each of them may
become infinite. The power grows with the exponent all the same, and however often it is rounded on
the way, it is near the exact power: each factor counts as if it were off by one rounding.

* `power_mono`: the power grows with the exponent;
* `reach_power_le`, `le_reach_power`: how far a power is from the exact one.
-/

import EventFeed.Proofs.Numeral.Rounding
import Mathlib.Tactic.FieldSimp
import Mathlib.Tactic.GCongr
import Mathlib.Tactic.NormNum

namespace EventFeed.Numeral

theorem unitsPerOne_pos : 0 < unitsPerOne := by
  decide +kernel

theorem unitsPerOne_lt_unitsBound : unitsPerOne < unitsBound := by
  decide +kernel

theorem unitsPerOne_short :
    ∃ mantissa scale, mantissa ≤ Nat.pow 2 53 ∧ unitsPerOne = mantissa * Nat.pow 2 scale :=
  ⟨1, 1074, by decide +kernel, by decide +kernel⟩

theorem unitsBound_short :
    ∃ mantissa scale, mantissa ≤ Nat.pow 2 53 ∧ unitsBound = mantissa * Nat.pow 2 scale :=
  ⟨1, 2098, by decide +kernel, by decide +kernel⟩

theorem unitsPerOne_cast_pos : (0 : ℚ) < unitsPerOne := by
  exact_mod_cast unitsPerOne_pos

theorem roundoff_pos : 0 < roundoff := by
  norm_num [roundoff]

theorem roundoff_lt_one : roundoff < 1 := by
  norm_num [roundoff]

namespace Binary64

/-- The number of units of a double; that which no finite double reaches if it is infinite. -/
def extent : Binary64 → Nat
  | .nan | .infinite _ => unitsBound
  | .finite _ magnitude => magnitude.units

/-- Whether a double is not below one, perhaps infinite. -/
inductive IsGain : Binary64 → Prop where
  | infinite : IsGain (.infinite false)
  | finite {magnitude : Magnitude} (large : unitsPerOne ≤ magnitude.units) :
      IsGain (.finite false magnitude)

/-! ### Products -/

section Products

variable {left right : Binary64}

theorem extent_round (negative : Bool) (num den : Nat) :
    (round negative num den).extent = Nat.min (roundUnits num den) unitsBound := by
  unfold round
  split
  · rename_i fits
    exact (Nat.min_eq_left fits.le).symm
  · rename_i large
    exact (Nat.min_eq_right (Nat.not_lt.mp large)).symm

/-- The number of units of a double has few significant bits, also if it is infinite. -/
theorem extent_short (double : Binary64) :
    ∃ mantissa scale, mantissa ≤ Nat.pow 2 53 ∧ double.extent = mantissa * Nat.pow 2 scale := by
  cases double with
  | nan | infinite => exact unitsBound_short
  | finite negative magnitude => exact magnitude.short

theorem extent_le (double : Binary64) : double.extent ≤ unitsBound := by
  cases double with
  | nan | infinite => exact le_rfl
  | finite negative magnitude => exact magnitude.units_lt.le

theorem IsGain.le_extent (gain : left.IsGain) : unitsPerOne ≤ left.extent := by
  cases gain with
  | infinite => exact unitsPerOne_lt_unitsBound.le
  | finite large => exact large

/-- A double is not rounded down when it grows. -/
theorem extent_le_roundUnits (double : Binary64) {factor : Nat} (large : unitsPerOne ≤ factor) :
    double.extent ≤ roundUnits (double.extent * factor) unitsPerOne := by
  calc double.extent = roundUnits (double.extent * unitsPerOne) unitsPerOne :=
        (roundUnits_mul_self unitsPerOne_pos double.extent_short).symm
    _ ≤ roundUnits (double.extent * factor) unitsPerOne := by
        refine roundUnits_mono unitsPerOne_pos unitsPerOne_pos ?_
        exact Nat.mul_le_mul_right _ (Nat.mul_le_mul_left _ large)

/-- The product of two doubles that are not below one, infinite or not, is the rounded product of
their units. -/
theorem isGain_mul (leftGain : left.IsGain) (rightGain : right.IsGain) :
    (left.mul right).IsGain ∧ (left.mul right).extent =
      Nat.min (roundUnits (left.extent * right.extent) unitsPerOne) unitsBound := by
  have overflow {factor : Nat} (large : unitsPerOne ≤ factor) :
      unitsBound = Nat.min (roundUnits (unitsBound * factor) unitsPerOne) unitsBound := by
    have grows := extent_le_roundUnits (.infinite false) large
    rw [extent] at grows
    exact (Nat.min_eq_right grows).symm
  have unzero {magnitude : Magnitude} (large : unitsPerOne ≤ magnitude.units) :
      magnitude.units ≠ 0 := by
    have positive := unitsPerOne_pos
    omega
  cases leftGain with
  | infinite =>
    cases rightGain with
    | infinite =>
      simp only [mul, extent]
      exact ⟨.infinite, overflow unitsPerOne_lt_unitsBound.le⟩
    | finite large =>
      simp only [mul, if_neg (unzero large), extent]
      exact ⟨.infinite, overflow large⟩
  | finite large =>
    cases rightGain with
    | infinite =>
      simp only [mul, if_neg (unzero large), extent]
      rw [Nat.mul_comm]
      exact ⟨.infinite, overflow large⟩
    | @finite size largeToo =>
      refine ⟨?_, extent_round _ _ _⟩
      rw [mul, round]
      split
      · exact .finite (large.trans (extent_le_roundUnits (.finite false _) largeToo))
      · exact .infinite

theorem IsGain.mul (leftGain : left.IsGain) (rightGain : right.IsGain) :
    (left.mul right).IsGain :=
  (isGain_mul leftGain rightGain).1

theorem extent_mul (leftGain : left.IsGain) (rightGain : right.IsGain) :
    (left.mul right).extent =
      Nat.min (roundUnits (left.extent * right.extent) unitsPerOne) unitsBound :=
  (isGain_mul leftGain rightGain).2

/-- Products of larger doubles are larger. -/
theorem mul_le_mul {more other : Binary64} (leftGain : left.IsGain) (rightGain : right.IsGain)
    (moreGain : more.IsGain) (otherGain : other.IsGain) (le : left.extent ≤ more.extent)
    (leToo : right.extent ≤ other.extent) :
    (left.mul right).extent ≤ (more.mul other).extent := by
  rw [extent_mul leftGain rightGain, extent_mul moreGain otherGain]
  refine min_le_min_right _ (roundUnits_mono unitsPerOne_pos unitsPerOne_pos ?_)
  exact Nat.mul_le_mul_right _ (Nat.mul_le_mul le leToo)

theorem le_mul (leftGain : left.IsGain) (rightGain : right.IsGain) :
    left.extent ≤ (left.mul right).extent := by
  rw [extent_mul leftGain rightGain]
  exact le_min (extent_le_roundUnits left rightGain.le_extent) left.extent_le

theorem le_mul' (leftGain : left.IsGain) (rightGain : right.IsGain) :
    right.extent ≤ (left.mul right).extent := by
  have same : (left.mul right).extent = (right.mul left).extent := by
    rw [extent_mul leftGain rightGain, extent_mul rightGain leftGain, Nat.mul_comm]
  rw [same]
  exact le_mul rightGain leftGain

end Products

/-- One has as many units as one has. -/
theorem isGain_one : one.IsGain ∧ one.extent = unitsPerOne := by
  have units : roundUnits (1 * unitsPerOne) 1 = unitsPerOne := by
    have kept := roundUnits_mul_self Nat.one_pos unitsPerOne_short
    rwa [Nat.mul_comm] at kept
  have fits : roundUnits (1 * unitsPerOne) 1 < unitsBound := by
    rw [units]
    exact unitsPerOne_lt_unitsBound
  rw [one, ofNat, ofRatio, round, dif_pos fits]
  exact ⟨.finite units.ge, units⟩

/-! ### Repeated squaring -/

theorem powerFrom_zero (power base : Binary64) : powerFrom power base 0 = power := by
  rw [powerFrom]
  rfl

/-- What the power becomes that is multiplied up, when the next bit of the exponent is looked at. -/
def taken (power base : Binary64) (exponent : Nat) : Binary64 :=
  if exponent % 2 = 1 then mul power base else power

/-- One round of repeated squaring. -/
theorem powerFrom_eq (power base : Binary64) (exponent : Nat) : powerFrom power base exponent =
    powerFrom (taken power base exponent) (mul base base) (exponent / 2) := by
  rw [powerFrom]
  split
  · rename_i last
    rw [last, powerFrom_zero]
    rfl
  · rfl

section Powers

variable {power base : Binary64}

theorem IsGain.taken (powerGain : power.IsGain) (baseGain : base.IsGain) (exponent : Nat) :
    (taken power base exponent).IsGain := by
  unfold Binary64.taken
  split
  · exact powerGain.mul baseGain
  · exact powerGain

theorem le_taken (powerGain : power.IsGain) (baseGain : base.IsGain) (exponent : Nat) :
    power.extent ≤ (taken power base exponent).extent := by
  unfold taken
  split
  · exact le_mul powerGain baseGain
  · exact le_rfl

theorem isGain_powerFrom (powerGain : power.IsGain) (baseGain : base.IsGain) (exponent : Nat) :
    (powerFrom power base exponent).IsGain := by
  induction exponent using Nat.strongRecOn generalizing power base with
  | _ exponent ih =>
    by_cases zero : exponent = 0
    · rw [zero, powerFrom_zero]
      exact powerGain
    · rw [powerFrom_eq]
      exact ih _ (Nat.div_lt_self (Nat.pos_of_ne_zero zero) (by decide))
        (powerGain.taken baseGain exponent) (baseGain.mul baseGain)

/-- Larger doubles have larger powers. -/
theorem powerFrom_le {more other : Binary64} (powerGain : power.IsGain) (baseGain : base.IsGain)
    (moreGain : more.IsGain) (otherGain : other.IsGain) (le : power.extent ≤ more.extent)
    (leToo : base.extent ≤ other.extent) (exponent : Nat) :
    (powerFrom power base exponent).extent ≤ (powerFrom more other exponent).extent := by
  induction exponent using Nat.strongRecOn generalizing power base more other with
  | _ exponent ih =>
    by_cases zero : exponent = 0
    · rw [zero, powerFrom_zero, powerFrom_zero]
      exact le
    · have taken_le : (taken power base exponent).extent ≤ (taken more other exponent).extent := by
        unfold taken
        split
        · exact mul_le_mul powerGain baseGain moreGain otherGain le leToo
        · exact le
      rw [powerFrom_eq power, powerFrom_eq more]
      exact ih _ (Nat.div_lt_self (Nat.pos_of_ne_zero zero) (by decide))
        (powerGain.taken baseGain exponent) (baseGain.mul baseGain)
        (moreGain.taken otherGain exponent) (otherGain.mul otherGain) taken_le
        (mul_le_mul baseGain baseGain otherGain otherGain leToo leToo)

theorem le_powerFrom (powerGain : power.IsGain) (baseGain : base.IsGain) (exponent : Nat) :
    power.extent ≤ (powerFrom power base exponent).extent := by
  induction exponent using Nat.strongRecOn generalizing power base with
  | _ exponent ih =>
    by_cases zero : exponent = 0
    · rw [zero, powerFrom_zero]
    · rw [powerFrom_eq]
      exact (le_taken powerGain baseGain exponent).trans
        (ih _ (Nat.div_lt_self (Nat.pos_of_ne_zero zero) (by decide))
          (powerGain.taken baseGain exponent) (baseGain.mul baseGain))

theorem base_le_powerFrom (powerGain : power.IsGain) (baseGain : base.IsGain) {exponent : Nat}
    (positive : 0 < exponent) : base.extent ≤ (powerFrom power base exponent).extent := by
  induction exponent using Nat.strongRecOn generalizing power base with
  | _ exponent ih =>
    have squareGain := baseGain.mul baseGain
    have takenGain := powerGain.taken baseGain exponent
    rw [powerFrom_eq]
    rcases Nat.mod_two_eq_zero_or_one exponent with even | odd
    · exact (le_mul baseGain baseGain).trans (ih _ (by omega) takenGain squareGain (by omega))
    · have takes : base.extent ≤ (taken power base exponent).extent := by
        unfold taken
        rw [if_pos odd]
        exact le_mul' powerGain baseGain
      exact takes.trans (le_powerFrom takenGain squareGain _)

/-- A power that is begun with no more than the base is not above the next power. -/
theorem powerFrom_le_succ (powerGain : power.IsGain) (baseGain : base.IsGain)
    (le : power.extent ≤ base.extent) (exponent : Nat) :
    (powerFrom power base exponent).extent ≤ (powerFrom one base (exponent + 1)).extent := by
  induction exponent using Nat.strongRecOn generalizing power base with
  | _ exponent ih =>
    obtain ⟨oneGain, -⟩ := isGain_one
    have squareGain := baseGain.mul baseGain
    rw [powerFrom_eq power, powerFrom_eq one]
    rcases Nat.mod_two_eq_zero_or_one exponent with even | odd
    · -- the next exponent has the same bits but for the last, and there takes the base itself
      have half : (exponent + 1) / 2 = exponent / 2 := by omega
      have last : taken one base (exponent + 1) = one.mul base := if_pos (by omega)
      have here : taken power base exponent = power := if_neg (by omega)
      rw [half, last, here]
      exact powerFrom_le powerGain squareGain (oneGain.mul baseGain) squareGain
        (le.trans (le_mul' oneGain baseGain)) le_rfl _
    · have half : (exponent + 1) / 2 = exponent / 2 + 1 := by omega
      have last : taken one base (exponent + 1) = one := if_neg (by omega)
      have here : taken power base exponent = power.mul base := if_pos odd
      rw [half, last, here]
      exact ih _ (by omega) (powerGain.mul baseGain) squareGain
        (mul_le_mul powerGain baseGain baseGain baseGain le le_rfl)

theorem isGain_power (baseGain : base.IsGain) (exponent : Nat) : (base.power exponent).IsGain :=
  isGain_powerFrom isGain_one.1 baseGain exponent

/-- **The power grows with the exponent.** -/
theorem power_mono (baseGain : base.IsGain) {exponent more : Nat} (le : exponent ≤ more) :
    (base.power exponent).extent ≤ (base.power more).extent := by
  obtain ⟨oneGain, units⟩ := isGain_one
  induction le with
  | refl => exact le_rfl
  | step _ ih =>
    exact ih.trans (powerFrom_le_succ oneGain baseGain (units.le.trans baseGain.le_extent) _)

end Powers

/-! ### How near a power is -/

/-- How many ones a double makes up; as many as no finite double reaches if it is infinite. -/
def reach (double : Binary64) : ℚ :=
  double.extent / unitsPerOne

section Errors

variable {left right power base : Binary64}

theorem IsGain.one_le_reach (gain : left.IsGain) : 1 ≤ left.reach := by
  rw [reach, one_le_div unitsPerOne_cast_pos]
  exact_mod_cast gain.le_extent

/-- The exact product, in units of the rounded one. -/
theorem reach_mul_reach (left right : Binary64) :
    ((left.extent * right.extent : Nat) : ℚ) / unitsPerOne =
      left.reach * right.reach * unitsPerOne := by
  have positive := unitsPerOne_cast_pos
  rw [reach, reach, Nat.cast_mul]
  field_simp

theorem isNormal_mul (leftGain : left.IsGain) (rightGain : right.IsGain) :
    IsNormal (left.extent * right.extent) unitsPerOne := by
  refine .inr (Nat.mul_le_mul (le_trans ?_ leftGain.le_extent) rightGain.le_extent)
  decide +kernel

theorem reach_mul_le (leftGain : left.IsGain) (rightGain : right.IsGain) :
    (left.mul right).reach ≤ left.reach * right.reach * (1 + roundoff) := by
  have rounded := roundUnits_le unitsPerOne_pos (isNormal_mul leftGain rightGain)
  rw [reach_mul_reach] at rounded
  have least : ((left.mul right).extent : ℚ) ≤
      roundUnits (left.extent * right.extent) unitsPerOne := by
    rw [extent_mul leftGain rightGain]
    exact_mod_cast Nat.min_le_left _ _
  rw [reach, div_le_iff₀ unitsPerOne_cast_pos]
  linarith

/-- A product is not rounded down by much, unless it is infinite. -/
theorem le_reach_mul (leftGain : left.IsGain) (rightGain : right.IsGain)
    (finite : (left.mul right).extent < unitsBound) :
    left.reach * right.reach * (1 - roundoff) ≤ (left.mul right).reach := by
  have rounded := le_roundUnits unitsPerOne_pos (isNormal_mul leftGain rightGain)
  rw [reach_mul_reach] at rounded
  have units := extent_mul leftGain rightGain
  have same : (left.mul right).extent =
      roundUnits (left.extent * right.extent) unitsPerOne := by
    rw [units] at finite ⊢
    exact Nat.min_eq_left (le_of_not_ge fun ge => finite.ne (Nat.min_eq_right ge))
  have inUnits : (left.mul right).reach * unitsPerOne =
      roundUnits (left.extent * right.extent) unitsPerOne := by
    rw [reach, same, div_mul_cancel₀ _ unitsPerOne_cast_pos.ne']
  rw [← inUnits] at rounded
  refine le_of_mul_le_mul_right ?_ unitsPerOne_cast_pos
  linarith

/-- **A power is not above the exact one by much**: every factor counts as if it were off by one
rounding. -/
theorem reach_powerFrom_le (powerGain : power.IsGain) (baseGain : base.IsGain) (exponent : Nat) :
    (powerFrom power base exponent).reach ≤
      power.reach * (base.reach * (1 + roundoff)) ^ exponent := by
  induction exponent using Nat.strongRecOn generalizing power base with
  | _ exponent ih =>
    by_cases zero : exponent = 0
    · rw [zero, powerFrom_zero, pow_zero, mul_one]
    · have small := roundoff_pos
      have least := baseGain.one_le_reach
      have leastToo := powerGain.one_le_reach
      have half : exponent / 2 < exponent :=
        Nat.div_lt_self (Nat.pos_of_ne_zero zero) (by decide)
      have takes : (taken power base exponent).reach ≤
          power.reach * (base.reach * (1 + roundoff)) ^ (exponent % 2) := by
        unfold taken
        rcases Nat.mod_two_eq_zero_or_one exponent with even | odd
        · rw [if_neg (by omega), even, pow_zero, mul_one]
        · rw [if_pos odd, odd, pow_one, ← mul_assoc]
          exact reach_mul_le powerGain baseGain
      have square : (base.mul base).reach * (1 + roundoff) ≤
          (base.reach * (1 + roundoff)) ^ 2 := by
        calc (base.mul base).reach * (1 + roundoff)
            ≤ base.reach * base.reach * (1 + roundoff) * (1 + roundoff) :=
              mul_le_mul_of_nonneg_right (reach_mul_le baseGain baseGain) (by linarith)
          _ = (base.reach * (1 + roundoff)) ^ 2 := by ring
      have bits : exponent = exponent % 2 + 2 * (exponent / 2) := by omega
      rw [powerFrom_eq]
      calc (powerFrom (taken power base exponent) (mul base base) (exponent / 2)).reach
          ≤ (taken power base exponent).reach *
              ((base.mul base).reach * (1 + roundoff)) ^ (exponent / 2) :=
            ih _ half (powerGain.taken baseGain exponent) (baseGain.mul baseGain)
        _ ≤ power.reach * (base.reach * (1 + roundoff)) ^ (exponent % 2) *
              ((base.reach * (1 + roundoff)) ^ 2) ^ (exponent / 2) := by
            have squareLeast := (baseGain.mul baseGain).one_le_reach
            gcongr
        _ = power.reach * (base.reach * (1 + roundoff)) ^ exponent := by
            rw [mul_assoc, ← pow_mul, ← pow_add, ← bits]

/-- **A power is not below the exact one by much**, unless it is infinite. -/
theorem le_reach_powerFrom (powerGain : power.IsGain) (baseGain : base.IsGain) (exponent : Nat)
    (finite : (powerFrom power base exponent).extent < unitsBound) :
    power.reach * (base.reach * (1 - roundoff)) ^ exponent ≤
      (powerFrom power base exponent).reach := by
  induction exponent using Nat.strongRecOn generalizing power base with
  | _ exponent ih =>
    by_cases zero : exponent = 0
    · rw [zero, powerFrom_zero, pow_zero, mul_one]
    · have small := roundoff_lt_one
      have least := baseGain.one_le_reach
      have leastToo := powerGain.one_le_reach
      have half : exponent / 2 < exponent :=
        Nat.div_lt_self (Nat.pos_of_ne_zero zero) (by decide)
      rw [powerFrom_eq] at finite ⊢
      have takenGain := powerGain.taken baseGain exponent
      have squareGain := baseGain.mul baseGain
      -- what the power is made of is finite as well
      have finiteTaken : (taken power base exponent).extent < unitsBound :=
        (le_powerFrom takenGain squareGain (exponent / 2)).trans_lt finite
      have takes : power.reach * (base.reach * (1 - roundoff)) ^ (exponent % 2) ≤
          (taken power base exponent).reach := by
        unfold taken at finiteTaken ⊢
        rcases Nat.mod_two_eq_zero_or_one exponent with even | odd
        · rw [if_neg (by omega), even, pow_zero, mul_one]
        · rw [if_pos odd] at finiteTaken ⊢
          rw [odd, pow_one, ← mul_assoc]
          exact le_reach_mul powerGain baseGain finiteTaken
      by_cases last : exponent / 2 = 0
      · have single : exponent % 2 = exponent := by omega
        rw [last, powerFrom_zero]
        rwa [single] at takes
      · have finiteSquare : (base.mul base).extent < unitsBound :=
          (base_le_powerFrom takenGain squareGain (Nat.pos_of_ne_zero last)).trans_lt finite
        have left : 0 ≤ 1 - roundoff := sub_nonneg.mpr small.le
        have below : 0 ≤ base.reach * (1 - roundoff) := mul_nonneg (zero_le_one.trans least) left
        have square : (base.reach * (1 - roundoff)) ^ 2 ≤
            (base.mul base).reach * (1 - roundoff) := by
          calc (base.reach * (1 - roundoff)) ^ 2
              = base.reach * base.reach * (1 - roundoff) * (1 - roundoff) := by ring
            _ ≤ (base.mul base).reach * (1 - roundoff) :=
              mul_le_mul_of_nonneg_right (le_reach_mul baseGain baseGain finiteSquare) left
        have bits : exponent = exponent % 2 + 2 * (exponent / 2) := by omega
        calc power.reach * (base.reach * (1 - roundoff)) ^ exponent
            = power.reach * (base.reach * (1 - roundoff)) ^ (exponent % 2) *
                ((base.reach * (1 - roundoff)) ^ 2) ^ (exponent / 2) := by
              rw [mul_assoc, ← pow_mul, ← pow_add, ← bits]
          _ ≤ (taken power base exponent).reach *
                ((base.mul base).reach * (1 - roundoff)) ^ (exponent / 2) := by
              have takenLeast := takenGain.one_le_reach
              gcongr
          _ ≤ (powerFrom (taken power base exponent) (mul base base) (exponent / 2)).reach :=
              ih _ half takenGain squareGain finite

theorem reach_one : one.reach = 1 := by
  rw [reach, isGain_one.2, div_self unitsPerOne_cast_pos.ne']

theorem reach_power_le (baseGain : base.IsGain) (exponent : Nat) :
    (base.power exponent).reach ≤ (base.reach * (1 + roundoff)) ^ exponent := by
  have near := reach_powerFrom_le isGain_one.1 baseGain exponent
  rwa [reach_one, one_mul] at near

theorem le_reach_power (baseGain : base.IsGain) {exponent : Nat}
    (finite : (base.power exponent).extent < unitsBound) :
    (base.reach * (1 - roundoff)) ^ exponent ≤ (base.power exponent).reach := by
  have near := le_reach_powerFrom isGain_one.1 baseGain exponent finite
  rwa [reach_one, one_mul] at near

theorem IsGain.isFinite_iff (gain : left.IsGain) :
    left.isFinite = true ↔ left.extent < unitsBound := by
  cases gain with
  | infinite => exact iff_of_false Bool.false_ne_true (lt_irrefl unitsBound)
  | @finite magnitude large => exact iff_of_true rfl magnitude.units_lt

end Errors

end Binary64

end EventFeed.Numeral
