/-
**JSON numbers.**

A number is an optional minus sign, digits without a needless leading zero, and then a fraction and
an exponent, each of them optional. One without fraction and exponent that fits 64 bits is an
integer. Any other is a double, got in two steps: the leading digits that make a number below
2 ^ 64 are rounded to a double, and that is multiplied or divided by the power of ten that is left,
each time rounding. A number too large for a double is refused.

* `scaled_zero_of_large`: zero stays zero however large the power of ten that goes with it;
* `numeral_rest_lt`: a number takes at least one byte.
-/

import EventFeed.Document.Value

namespace EventFeed.Document

open EventFeed.Numeral

/-- Why bytes are no JSON value: they break its rules, or they end before it does. -/
inductive ReadError where
  | malformed
  | cutShort
  deriving DecidableEq, Repr

def isDigitByte (byte : UInt8) : Bool :=
  0x30 ≤ byte && byte ≤ 0x39

def digitOf (byte : UInt8) : Nat :=
  byte.toNat - 0x30

/-- A number as written: its sign, the digits before the point, those behind it, and the exponent
with its sign, if there is one. -/
structure Numeral where
  negative : Bool
  whole : List UInt8
  places : Option (List UInt8)
  exponent : Option (Bool × List UInt8)
  deriving DecidableEq, Repr

/-- Digits, one of them at least, and what follows them. -/
def someDigits (bytes : List UInt8) : Except ReadError (List UInt8 × List UInt8) :=
  match bytes.takeWhile isDigitByte, bytes.dropWhile isDigitByte with
  | [], [] => .error .cutShort
  | [], _ => .error .malformed
  | digits, rest => .ok (digits, rest)

/-- The digits before the point, which begin with a zero only if that is all. -/
def wholeDigits (bytes : List UInt8) : Except ReadError (List UInt8 × List UInt8) :=
  match someDigits bytes with
  | .error error => .error error
  | .ok (0x30 :: _ :: _, _) => .error .malformed
  | .ok found => .ok found

/-- The digits behind a point, if a point comes first. -/
def fraction (bytes : List UInt8) : Except ReadError (Option (List UInt8) × List UInt8) :=
  match bytes with
  | 0x2E :: rest => (someDigits rest).map fun (digits, rest) => (some digits, rest)
  | _ => .ok (none, bytes)

/-- The sign of an exponent and what follows it. -/
def exponentSign : List UInt8 → Bool × List UInt8
  | 0x2B :: rest => (false, rest)
  | 0x2D :: rest => (true, rest)
  | bytes => (false, bytes)

/-- The exponent, if the letter for it comes first. -/
def exponent (bytes : List UInt8) : Except ReadError (Option (Bool × List UInt8) × List UInt8) :=
  match bytes with
  | letter :: rest =>
    if letter = 0x65 ∨ letter = 0x45 then
      let (negative, rest) := exponentSign rest
      (someDigits rest).map fun (digits, rest) => (some (negative, digits), rest)
    else .ok (none, bytes)
  | [] => .ok (none, [])

/-- The number that bytes begin with, and what follows it. -/
def numeral (bytes : List UInt8) : Except ReadError (Numeral × List UInt8) := do
  let (negative, unsigned) := match bytes with
    | 0x2D :: rest => (true, rest)
    | _ => (false, bytes)
  let (whole, rest) ← wholeDigits unsigned
  let (places, rest) ← fraction rest
  let (exponent, rest) ← exponent rest
  .ok (⟨negative, whole, places, exponent⟩, rest)

/-- The number below 2 ^ 64 that the leading digits make, and the count of the digits left over from
the first that does not fit. -/
def leading : List UInt8 → Nat → Nat × Nat
  | [], number => (number, 0)
  | digit :: digits, number =>
    let next := number * 10 + digitOf digit
    if next < wordBound then leading digits next else (number, digits.length + 1)

/-- A double times a power of ten, or divided by one; none if it is too large. Powers beyond 308 are
divided away in steps of 308. -/
def scaled (value : Binary64) (power : Int) : Option Binary64 :=
  if power < -308 then
    if value.eq .zero then some value
    else scaled (value.div (.ofNat (Nat.pow 10 308))) (power + 308)
  else if power < 0 then some (value.div (.ofNat (Nat.pow 10 (-power).toNat)))
  else if power ≤ 308 then
    let product := value.mul (.ofNat (Nat.pow 10 power.toNat))
    if product.isFinite then some product else none
  else if value.eq .zero then some value
  else none
  termination_by (-power).toNat
  decreasing_by omega

/-- The largest power of ten that is looked at. -/
def powerBound : Nat := Nat.pow 2 31

namespace Numeral

/-- The double that a number with a fraction, an exponent or too many digits is read as. -/
def real? (numeral : Numeral) : Option Binary64 :=
  let (whole, dropped) := leading numeral.whole 0
  let places := numeral.places.getD []
  let (significand, ignored) := leading places whole
  let shift : Int := dropped - (places.length - ignored : Nat)
  let unsigned := match numeral.exponent with
    | none => scaled (.ofNat significand) shift
    | some (negative, digits) =>
      let size := grown powerBound (digits.map digitOf)
      if size < powerBound then
        scaled (.ofNat significand) (if negative then shift - size else shift + size)
      else if significand = 0 ∨ negative then some .zero
      else none
  unsigned.map fun value => if numeral.negative then value.neg else value

/-- The value of a number: an integer where 64 bits hold it, minus zero and all others doubles. -/
def value? (numeral : Numeral) : Option Value :=
  match numeral.places, numeral.exponent, leading numeral.whole 0 with
  | none, none, (size, 0) =>
    if !numeral.negative then some (.integer size)
    else if 0 < size ∧ size ≤ Nat.pow 2 63 then some (.integer (-(size : Int)))
    else some (.real (Binary64.ofNat size).neg)
  | _, _, _ => numeral.real?.map .real

end Numeral

/-- Zero stays zero however large the power of ten that goes with it. -/
theorem scaled_zero_of_large {power : Int} (large : 308 < power) :
    scaled .zero power = some .zero := by
  have notSmall : ¬ power < -308 := by omega
  have notNegative : ¬ power < 0 := by omega
  have notFit : ¬ power ≤ 308 := by omega
  have zero : Binary64.eq .zero .zero = true := by decide +kernel
  rw [scaled]
  simp [notSmall, notNegative, notFit, zero]

/-! ### What is left is no longer than what was there -/

theorem someDigits_rest_lt {bytes digits rest : List UInt8}
    (found : someDigits bytes = .ok (digits, rest)) : rest.length < bytes.length := by
  have parts := List.takeWhile_append_dropWhile (p := isDigitByte) (l := bytes)
  unfold someDigits at found
  generalize bytes.takeWhile isDigitByte = taken at *
  generalize bytes.dropWhile isDigitByte = dropped at *
  split at found
  · cases found
  · cases found
  · cases found
    rw [← parts, List.length_append]
    have : 0 < digits.length := by
      cases digits with
      | nil => simp_all
      | cons _ _ => simp
    omega

theorem wholeDigits_rest_lt {bytes digits rest : List UInt8}
    (found : wholeDigits bytes = .ok (digits, rest)) : rest.length < bytes.length := by
  unfold wholeDigits at found
  split at found
  · cases found
  · cases found
  · rename_i pair _ digitsFound
    cases found
    exact someDigits_rest_lt digitsFound

theorem fraction_rest_le {bytes rest : List UInt8} {places : Option (List UInt8)}
    (found : fraction bytes = .ok (places, rest)) : rest.length ≤ bytes.length := by
  unfold fraction at found
  split at found
  · rename_i tail
    cases digits : someDigits tail with
    | error error => simp [digits, Except.map] at found
    | ok pair =>
      obtain ⟨taken, left⟩ := pair
      simp only [digits, Except.map, Except.ok.injEq, Prod.mk.injEq] at found
      obtain ⟨-, rfl⟩ := found
      have := someDigits_rest_lt digits
      simp only [List.length_cons]
      omega
  · cases found
    exact Nat.le_refl _

theorem exponentSign_rest_le (bytes : List UInt8) :
    (exponentSign bytes).2.length ≤ bytes.length := by
  unfold exponentSign
  split <;> simp

theorem exponent_rest_le {bytes rest : List UInt8} {power : Option (Bool × List UInt8)}
    (found : exponent bytes = .ok (power, rest)) : rest.length ≤ bytes.length := by
  unfold exponent at found
  split at found
  · rename_i letter tail
    split at found
    · have signed := exponentSign_rest_le tail
      dsimp only at found
      cases digits : someDigits (exponentSign tail).2 with
      | error error => simp [digits, Except.map] at found
      | ok pair =>
        obtain ⟨taken, left⟩ := pair
        simp only [digits, Except.map, Except.ok.injEq, Prod.mk.injEq] at found
        obtain ⟨-, rfl⟩ := found
        have := someDigits_rest_lt digits
        simp only [List.length_cons]
        omega
    · cases found
      exact Nat.le_refl _
  · cases found
    exact Nat.le_refl _

theorem numeral_rest_lt {bytes rest : List UInt8} {read : Numeral}
    (found : numeral bytes = .ok (read, rest)) : rest.length < bytes.length := by
  have unsigned : ∀ tail : List UInt8, tail.length ≤ bytes.length → ∀ negative,
      (do
        let (whole, rest) ← wholeDigits tail
        let (places, rest) ← fraction rest
        let (exponent, rest) ← exponent rest
        .ok (⟨negative, whole, places, exponent⟩, rest) : Except ReadError (Numeral × List UInt8)) =
        .ok (read, rest) → rest.length < bytes.length := by
    intro tail shorter negative found
    cases first : wholeDigits tail with
    | error error => simp [first, bind, Except.bind] at found
    | ok pair =>
      obtain ⟨whole, afterWhole⟩ := pair
      have := wholeDigits_rest_lt first
      cases second : fraction afterWhole with
      | error error => simp [first, second, bind, Except.bind] at found
      | ok pair =>
        obtain ⟨places, afterPlaces⟩ := pair
        have := fraction_rest_le second
        cases third : exponent afterPlaces with
        | error error => simp [first, second, third, bind, Except.bind] at found
        | ok pair =>
          obtain ⟨power, afterPower⟩ := pair
          have := exponent_rest_le third
          simp only [first, second, third, bind, Except.bind, Except.ok.injEq,
            Prod.mk.injEq] at found
          obtain ⟨-, rfl⟩ := found
          omega
  unfold numeral at found
  split at found
  rename_i negative tail split
  refine unsigned tail ?_ negative found
  split at split <;> cases split <;> simp

end EventFeed.Document
