/-
**Doubles read from decimal text.**

A setting writes a double as an optional sign and either a word for infinity or for no number, in
any case, or digits with at most one point and an optional exponent. There is at least one digit
before or after the point. The value is the double nearest to the decimal number. An exponent takes
digits only until it has reached 65536, so that a text of any length has an exponent of bounded
size.

* `nearest_zero`: no digit but zeros is zero, whatever the exponent.
-/

import EventFeed.Numeral.Digits
import EventFeed.Numeral.Binary64

namespace EventFeed.Numeral

/-- A decimal number: its digits as a natural number, and the power of ten they are multiplied
by. -/
structure Decimal where
  digits : Nat
  exponent : Int
  deriving DecidableEq, Repr

namespace Decimal

/-- The double nearest to a decimal number, with the given sign. A number of `bits` binary places
lies from 10 ^ (`bits` / 4) on and below 10 ^ (`bits` / 3 + 1), so numbers that are surely infinite
or zero are told from the others without a power of ten. -/
def nearest (negative : Bool) (decimal : Decimal) : Binary64 :=
  let bits := decimal.digits.log2
  if decimal.digits = 0 then Binary64.ofRatio negative 0 1
  else if 400 < decimal.exponent + bits / 4 then .infinite negative
  else if decimal.exponent + bits / 3 + 1 < -400 then Binary64.ofRatio negative 0 1
  else if 0 ≤ decimal.exponent then
    Binary64.ofRatio negative (decimal.digits * Nat.pow 10 decimal.exponent.toNat) 1
  else
    Binary64.ofRatio negative decimal.digits (Nat.pow 10 (-decimal.exponent).toNat)

/-- No digit but zeros is zero, whatever the exponent. -/
theorem nearest_zero (negative : Bool) (exponent : Int) :
    nearest negative ⟨0, exponent⟩ = Binary64.ofRatio negative 0 1 := by
  simp [nearest]

/-- The sign before a number and what follows it. -/
def splitSign : List Char → Bool × List Char
  | '-' :: chars => (true, chars)
  | '+' :: chars => (false, chars)
  | chars => (false, chars)

/-- Whether a character is a decimal digit. -/
def isDigit (char : Char) : Bool :=
  (digit? char).isSome

/-- The size from which on an exponent takes no more digits. -/
def exponentLimit : Nat := Nat.pow 2 16

/-- The value of an exponent, from the letter on; zero if nothing is written. -/
def exponent? : List Char → Option Int
  | [] => some 0
  | letter :: chars =>
    if letter = 'e' ∨ letter = 'E' then
      match splitSign chars with
      | (_, []) => none
      | (negative, digits) =>
        (digits? digits).map fun digits =>
          let size := grown exponentLimit digits
          if negative then -(size : Int) else size
    else none

/-- The decimal number written without a sign. -/
def unsigned? (chars : List Char) : Option Decimal :=
  let whole := chars.takeWhile isDigit
  let afterWhole := chars.dropWhile isDigit
  let (places, rest) := match afterWhole with
    | '.' :: tail => (tail.takeWhile isDigit, tail.dropWhile isDigit)
    | tail => ([], tail)
  if whole.isEmpty && places.isEmpty then none
  else do
    let digits ← digits? (whole ++ places)
    let exponent ← exponent? rest
    some ⟨gathered digits, exponent - places.length⟩

end Decimal

def Binary64.read? (text : String) : Option Binary64 :=
  let (negative, chars) := Decimal.splitSign text.toList
  let word := String.ofList (chars.map Char.toLower)
  if word = "inf" ∨ word = "infinity" then some (.infinite negative)
  else if word = "nan" then some .nan
  else (Decimal.unsigned? chars).map (Decimal.nearest negative)

end EventFeed.Numeral
