/-
**The shortest decimal text of a double.**

A double is written with the fewest significant digits that read back as the same double, and of
those the nearest to its value. `shortest` searches the decimal grids from the coarsest on for a
point among the reals that round to the double; those reals reach half a spacing to either side, the
ends included when the significand is even. Two points of a grid may be equally near, and then a
`Tie` says which one is taken.

Two layouts of the digits are in use: `plain` never writes an exponent and takes the larger of two
equally near points, and `scientific` writes one for very large and very small numbers and takes the
even point.

* `reaches_self`: every double lies among the reals that round to it;
* `nearest_eq_roundEven`: the rule for ties matters only halfway between two whole numbers.
-/

import EventFeed.Numeral.Decimal

namespace EventFeed.Numeral

/-- Which of two equally near points is taken: the even one or the larger one. -/
inductive Tie where
  | even
  | larger
  deriving DecidableEq, Repr

/-- The whole number nearest to a quotient. -/
def Tie.nearest : Tie → Nat → Nat → Nat
  | .even, num, den => roundEven num den
  | .larger, num, den => if 2 * (num % den) < den then num / den else num / den + 1

/-- The rule for ties matters only halfway between two whole numbers. -/
theorem Tie.nearest_eq_roundEven (tie : Tie) {num den : Nat} (apart : 2 * (num % den) ≠ den) :
    tie.nearest num den = roundEven num den := by
  cases tie with
  | even => rfl
  | larger =>
    unfold nearest roundEven
    dsimp only
    split
    · rfl
    · rw [if_pos (by omega)]

/-- The reals that round to a double, in quarters of a unit. -/
structure Neighbourhood where
  units : Nat
  low : Nat
  high : Nat
  closed : Bool
  deriving DecidableEq, Repr

namespace Neighbourhood

/-- Half the distance to the next smaller double, in quarters of a unit. Below a power of two the
doubles lie twice as close as above it. -/
def halfGapBelow (units : Nat) : Nat :=
  if units / spacing units = Nat.pow 2 52 ∧ 1 < spacing units then spacing units
  else 2 * spacing units

/-- The neighbourhood of a positive number of units. -/
def ofUnits (units : Nat) : Neighbourhood where
  units := units
  low := 4 * units - halfGapBelow units
  high := 4 * units + 2 * spacing units
  closed := units / spacing units % 2 = 0

/-- Whether a quotient of units lies in the neighbourhood. -/
def reaches (around : Neighbourhood) (num den : Nat) : Bool :=
  if around.closed then around.low * den ≤ 4 * num && 4 * num ≤ around.high * den
  else around.low * den < 4 * num && 4 * num < around.high * den

/-- The doubles on either side of a positive one are apart from it. -/
theorem halfGapBelow_pos (units : Nat) : 0 < halfGapBelow units := by
  have apart : 0 < spacing units := Nat.two_pow_pos _
  unfold halfGapBelow
  split <;> omega

/-- Every double lies among the reals that round to it. -/
theorem reaches_self {units : Nat} (positive : 0 < units) :
    (ofUnits units).reaches units 1 = true := by
  have apart : 0 < spacing units := Nat.two_pow_pos _
  have below := halfGapBelow_pos units
  by_cases even : units / spacing units % 2 = 0
  · simp [reaches, ofUnits, even]
  · simp [reaches, ofUnits, even]
    omega

/-- The point nearest to the double on the grid of multiples of 10 ^ `exponent`, if one of its two
neighbours there lies in the neighbourhood. -/
def onGrid (around : Neighbourhood) (tie : Tie) (exponent : Int) : Option Decimal :=
  let multiplier := if exponent < 0 then 1 else Nat.pow 10 exponent.toNat
  let divisor := if exponent < 0 then Nat.pow 10 (-exponent).toNat else 1
  let num := around.units * divisor
  let den := unitsPerOne * multiplier
  let floor := num / den
  let hits (digits : Nat) : Bool := around.reaches (digits * den) divisor
  match hits floor, hits (floor + 1) with
  | true, true => some ⟨tie.nearest num den, exponent⟩
  | true, false => some ⟨floor, exponent⟩
  | false, true => some ⟨floor + 1, exponent⟩
  | false, false => none

/-- The exponents of the grids, from the coarsest that a finite double can meet to the finest that
is ever needed. -/
def exponents : List Int :=
  (List.range 652).map fun index : Nat => 310 - (index : Int)

end Neighbourhood

/-- The shortest decimal number that reads back as a positive number of units. -/
def shortest (tie : Tie) (units : Nat) : Decimal :=
  let around := Neighbourhood.ofUnits units
  (Neighbourhood.exponents.findSome? (around.onGrid tie)).getD ⟨0, 0⟩

/-- The text of digits with the point after the first `point` of them, zeros filling the gap. -/
def pointed (digits : List Char) (point : Int) : List Char :=
  if point ≤ 0 then '0' :: '.' :: List.replicate (-point).toNat '0' ++ digits
  else if digits.length ≤ point then digits ++ List.replicate (point.toNat - digits.length) '0'
  else digits.take point.toNat ++ '.' :: digits.drop point.toNat

/-- The text of digits with the point after the first of them and the exponent behind. -/
def exponential (digits : List Char) (exponent : Int) : List Char :=
  let mantissa := match digits with
    | first :: [] => [first]
    | first :: rest => first :: '.' :: rest
    | [] => []
  mantissa ++ 'e' :: (if exponent < 0 then '-' else '+') :: Nat.toDigits 10 exponent.natAbs

namespace Binary64

/-- A double in a message: its shortest digits without an exponent, the larger of two equally near
ones, a whole number without a point. -/
def plain : Binary64 → String
  | .nan => "NaN"
  | .infinite negative => if negative then "-inf" else "inf"
  | .finite negative magnitude =>
    let decimal := shortest .larger magnitude.units
    let digits := Nat.toDigits 10 decimal.digits
    let text := if magnitude.units = 0 then ['0']
      else pointed digits (digits.length + decimal.exponent)
    String.ofList (if negative then '-' :: text else text)

/-- A finite double in a document: its shortest digits, the even ones of two equally near ones, with
a point, or with an exponent when the first digit stands for less than 10 ^ (-5) or for more than
10 ^ 15. -/
def scientific : Binary64 → String
  | .nan | .infinite _ => "null"
  | .finite negative magnitude =>
    let decimal := shortest .even magnitude.units
    let digits := Nat.toDigits 10 decimal.digits
    let point : Int := digits.length + decimal.exponent
    let text :=
      if magnitude.units = 0 then ['0', '.', '0']
      else if point - 1 < -5 ∨ 15 < point - 1 then exponential digits (point - 1)
      else
        let fixed := pointed digits point
        if fixed.contains '.' then fixed else fixed ++ ['.', '0']
    String.ofList (if negative then '-' :: text else text)

end Binary64

end EventFeed.Numeral
