/-
**Numbers of double precision.**

A finite double is a whole number of units of 2 ^ (-1074), the least positive double. `units` is
that number, so sums and comparisons of doubles are sums and comparisons of natural numbers, and
every operation is the exact result rounded once to the nearest double, a half going to the even
neighbour.

* `roundUnits_short`: what rounding gives has at most 53 significant bits;
* `roundEven_of_dvd`: a quotient that is whole is not changed by rounding.
-/

namespace EventFeed.Numeral

def unitsPerOne : Nat := Nat.pow 2 1074

/-- The least number of units that no finite double reaches. -/
def unitsBound : Nat := Nat.pow 2 2098

/-- The whole number nearest to a quotient, a half going to the even neighbour. -/
def roundEven (num den : Nat) : Nat :=
  let whole := num / den
  let rest := num % den
  if 2 * rest < den then whole
  else if den < 2 * rest then whole + 1
  else whole + whole % 2

/-- The distance in units between neighbouring doubles from `units` on. -/
def spacing (units : Nat) : Nat :=
  Nat.pow 2 (units.log2 - 52)

/-- The number of units of the double nearest to a quotient of units, if it is finite. -/
def roundUnits (num den : Nat) : Nat :=
  let step := spacing (num / den)
  roundEven num (den * step) * step

/-- The size of a finite double: a number of units with at most 53 significant bits. -/
structure Magnitude where
  units : Nat
  units_lt : units < unitsBound
  short : ∃ mantissa scale, mantissa ≤ Nat.pow 2 53 ∧ units = mantissa * Nat.pow 2 scale
  deriving DecidableEq

/-- A double: no number, an infinity, or a finite number with its sign. Zero has both signs. -/
inductive Binary64 where
  | nan
  | infinite (negative : Bool)
  | finite (negative : Bool) (magnitude : Magnitude)
  deriving DecidableEq

/-- A quotient that is whole is not changed by rounding. -/
theorem roundEven_of_dvd {num den : Nat} (positive : 0 < den) (whole : den ∣ num) :
    roundEven num den = num / den := by
  have rest : num % den = 0 := Nat.mod_eq_zero_of_dvd whole
  simp [roundEven, rest, positive]

/-- Rounding moves a quotient up to the next whole number at most. -/
theorem roundEven_le_succ (num den : Nat) : roundEven num den ≤ num / den + 1 := by
  unfold roundEven
  dsimp only
  split
  · omega
  · split <;> omega

/-- A number divided by the spacing of the doubles around it has at most 53 bits. -/
theorem div_spacing_lt (units : Nat) : units / spacing units < Nat.pow 2 53 := by
  rw [spacing, Nat.pow_eq, Nat.pow_eq, Nat.div_lt_iff_lt_mul (Nat.two_pow_pos _), ← Nat.pow_add]
  exact Nat.lt_of_lt_of_le Nat.lt_log2_self (Nat.pow_le_pow_right (by decide) (by omega))

/-- What rounding gives has at most 53 significant bits. -/
theorem roundUnits_short (num den : Nat) :
    ∃ mantissa scale, mantissa ≤ Nat.pow 2 53 ∧
      roundUnits num den = mantissa * Nat.pow 2 scale := by
  refine ⟨roundEven num (den * spacing (num / den)), (num / den).log2 - 52, ?_, rfl⟩
  have step := roundEven_le_succ num (den * spacing (num / den))
  have bound := div_spacing_lt (num / den)
  rw [Nat.div_div_eq_div_mul] at bound
  omega

namespace Binary64

/-- The double nearest to a quotient of units, with the given sign. -/
def round (negative : Bool) (num den : Nat) : Binary64 :=
  if fits : roundUnits num den < unitsBound then
    .finite negative ⟨roundUnits num den, fits, roundUnits_short num den⟩
  else
    .infinite negative

/-- The double nearest to a quotient of natural numbers. -/
def ofRatio (negative : Bool) (num den : Nat) : Binary64 :=
  round negative (num * unitsPerOne) den

/-- The double nearest to a natural number. -/
def ofNat (number : Nat) : Binary64 :=
  ofRatio false number 1

def zero : Binary64 :=
  ofNat 0

def one : Binary64 :=
  ofNat 1

def neg : Binary64 → Binary64
  | .nan => .nan
  | .infinite negative => .infinite (!negative)
  | .finite negative magnitude => .finite (!negative) magnitude

/-- The number of units of a finite double, with its sign. -/
def signedUnits (negative : Bool) (magnitude : Magnitude) : Int :=
  if negative then -(magnitude.units : Int) else magnitude.units

/-- The rounded sum. Opposite infinities have none; a sum of zero is negative only if both parts
are. -/
def add : Binary64 → Binary64 → Binary64
  | .nan, _ => .nan
  | _, .nan => .nan
  | .infinite left, .infinite right => if left = right then .infinite left else .nan
  | .infinite left, .finite _ _ => .infinite left
  | .finite _ _, .infinite right => .infinite right
  | .finite left leftSize, .finite right rightSize =>
    let sum := signedUnits left leftSize + signedUnits right rightSize
    let negative := if sum = 0 then left && right else decide (sum < 0)
    round negative sum.natAbs 1

/-- The rounded product. Zero times infinity is no number. -/
def mul : Binary64 → Binary64 → Binary64
  | .nan, _ => .nan
  | _, .nan => .nan
  | .infinite left, .infinite right => .infinite (left != right)
  | .infinite left, .finite right size => if size.units = 0 then .nan else .infinite (left != right)
  | .finite left size, .infinite right => if size.units = 0 then .nan else .infinite (left != right)
  | .finite left leftSize, .finite right rightSize =>
    round (left != right) (leftSize.units * rightSize.units) unitsPerOne

/-- The rounded quotient. Zero by zero and infinity by infinity are no numbers. -/
def div : Binary64 → Binary64 → Binary64
  | .nan, _ => .nan
  | _, .nan => .nan
  | .infinite _, .infinite _ => .nan
  | .infinite left, .finite right _ => .infinite (left != right)
  | .finite left _, .infinite right => round (left != right) 0 1
  | .finite left leftSize, .finite right rightSize =>
    if rightSize.units = 0 then
      if leftSize.units = 0 then .nan else .infinite (left != right)
    else
      round (left != right) (leftSize.units * unitsPerOne) rightSize.units

def isNan : Binary64 → Bool
  | .nan => true
  | _ => false

def isFinite : Binary64 → Bool
  | .finite _ _ => true
  | _ => false

/-- Whether the first double is the smaller one. What is no number is neither smaller nor larger. -/
def lt : Binary64 → Binary64 → Bool
  | .nan, _ => false
  | _, .nan => false
  | .infinite left, .infinite right => left && !right
  | .infinite left, .finite _ _ => left
  | .finite _ _, .infinite right => !right
  | .finite left leftSize, .finite right rightSize =>
    signedUnits left leftSize < signedUnits right rightSize

/-- Whether the two doubles are equal numbers. The two zeros are. -/
def eq : Binary64 → Binary64 → Bool
  | .nan, _ => false
  | _, .nan => false
  | .infinite left, .infinite right => left == right
  | .infinite _, .finite _ _ => false
  | .finite _ _, .infinite _ => false
  | .finite left leftSize, .finite right rightSize =>
    signedUnits left leftSize = signedUnits right rightSize

/-- Whether the first double is the smaller one or equal. -/
def le (left right : Binary64) : Bool :=
  lt left right || eq left right

/-- The smaller double; if one is no number, the other. -/
def min (left right : Binary64) : Binary64 :=
  if left.isNan then right else if lt right left then right else left

/-- The larger double; if one is no number, the other. -/
def max (left right : Binary64) : Binary64 :=
  if left.isNan then right else if lt left right then right else left

/-- The double moved into the range from `low` to `high`. What is no number stays so. -/
def clamp (low high value : Binary64) : Binary64 :=
  if lt value low then low else if lt high value then high else value

/-- The power by repeated squaring: `power` times `base` to the `exponent`. -/
def powerFrom (power base : Binary64) (exponent : Nat) : Binary64 :=
  let power := if exponent % 2 = 1 then mul power base else power
  if exponent / 2 = 0 then power else powerFrom power (mul base base) (exponent / 2)
  termination_by exponent

/-- The power by repeated squaring, each product rounded. -/
def power (base : Binary64) (exponent : Nat) : Binary64 :=
  powerFrom one base exponent

/-! ### Bit patterns -/

/-- The 64 bits that store a double: sign, eleven bits of exponent, 52 bits of fraction. There is
one pattern for what is no number. -/
def toBits : Binary64 → Nat
  | .nan => 0x7FF8000000000000
  | .infinite negative => (if negative then Nat.pow 2 63 else 0) + 0x7FF0000000000000
  | .finite negative magnitude =>
    let sign := if negative then Nat.pow 2 63 else 0
    let units := magnitude.units
    if units < Nat.pow 2 52 then sign + units
    else
      let scale := units.log2 - 52
      sign + (scale + 1) * Nat.pow 2 52 + (units / Nat.pow 2 scale - Nat.pow 2 52)

def ofBits (bits : Nat) : Binary64 :=
  let negative := bits / Nat.pow 2 63 % 2 = 1
  let exponent := bits / Nat.pow 2 52 % Nat.pow 2 11
  let fraction := bits % Nat.pow 2 52
  if exponent = 2047 then if fraction = 0 then .infinite negative else .nan
  else if exponent = 0 then round negative fraction 1
  else round negative ((Nat.pow 2 52 + fraction) * Nat.pow 2 (exponent - 1)) 1

end Binary64

end EventFeed.Numeral
