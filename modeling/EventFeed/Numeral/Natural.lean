/-
**Natural numbers in decimal digits.**

A natural number in a header or a setting is one or more of the digits 0 to 9, with at most one plus
sign before them; leading zeros count for nothing. A number that reaches the bound is refused, and
so is every sign but one plus.

* `decimal_injective`, `padded_injective`: different numbers have different digits, also with zeros
  before them;
* `grown_lt_iff`, `grown_eq_valueOf`: digits need not be read any further once the bound is reached;
* `read?_lt`: what is read lies below the bound.
-/

namespace EventFeed.Numeral

/-- The digits of a natural number, most significant first. -/
def decimal (number : Nat) : String :=
  String.ofList (Nat.toDigits 10 number)

theorem decimal_injective {first second : Nat} (same : decimal first = decimal second) :
    first = second := by
  have digits : Nat.toDigits 10 first = Nat.toDigits 10 second := String.ofList_injective same
  have read := congrArg (Nat.ofDigitChars 10 · 0) digits
  simpa [Nat.ofDigitChars_toDigits] using read

/-- The digits of a natural number with zeros before them, so that there are at least `width`. -/
def padded (width number : Nat) : List Char :=
  let digits := Nat.toDigits 10 number
  List.replicate (width - digits.length) '0' ++ digits

/-- Zeros before the digits count for nothing. -/
theorem ofDigitChars_padded (width number : Nat) :
    Nat.ofDigitChars 10 (padded width number) 0 = number := by
  simp [padded, Nat.ofDigitChars_append, Nat.ofDigitChars_toDigits]

/-- Different numbers have different digits, also with zeros before them. -/
theorem padded_injective {width first second : Nat}
    (same : padded width first = padded width second) : first = second := by
  rw [← ofDigitChars_padded width first, same, ofDigitChars_padded]

def digit? (char : Char) : Option Nat :=
  if '0' ≤ char ∧ char ≤ '9' then some (char.toNat - '0'.toNat) else none

/-- The values of decimal digits; none if a character is no digit. -/
def digits? (chars : List Char) : Option (List Nat) :=
  chars.mapM digit?

/-- The number that digits write, most significant first. -/
def valueOf (digits : List Nat) : Nat :=
  digits.foldl (fun number digit => number * 10 + digit) 0

/-- A number with one more digit behind it, if it lies below the bound; else it stays. -/
def grow (bound number digit : Nat) : Nat :=
  if number < bound then number * 10 + digit else number

/-- The number that digits write, as far as it goes until the bound is reached. -/
def grown (bound : Nat) (digits : List Nat) : Nat :=
  digits.foldl (grow bound) 0

/-- The natural number below `bound` that a text writes. -/
def read? (bound : Nat) (text : String) : Option Nat :=
  let unsigned := match text.toList with
    | '+' :: chars => chars
    | chars => chars
  match unsigned with
  | [] => none
  | chars => ((digits? chars).map (grown bound)).filter (· < bound)

/-- One more than the largest count of milliseconds, deliveries or bytes. -/
def wordBound : Nat := Nat.pow 2 64

/-- One more than the largest count of attempts. -/
def attemptBound : Nat := Nat.pow 2 32

/-- A number that has reached the bound stays. -/
theorem foldl_grow_of_le {bound number : Nat} (reached : bound ≤ number) (digits : List Nat) :
    digits.foldl (grow bound) number = number := by
  induction digits with
  | nil => rfl
  | cons digit digits step => rw [List.foldl_cons, grow, if_neg (Nat.not_lt.mpr reached), step]

/-- A number does not get smaller by digits behind it. -/
theorem le_foldl_digits (number : Nat) (digits : List Nat) :
    number ≤ digits.foldl (fun number digit => number * 10 + digit) number := by
  induction digits generalizing number with
  | nil => exact Nat.le_refl _
  | cons digit digits step => exact Nat.le_trans (by omega) (step (number * 10 + digit))

/-- Stopping at the bound tells apart what lies below it from what does not. -/
theorem grown_lt_iff (bound : Nat) (digits : List Nat) :
    grown bound digits < bound ↔ valueOf digits < bound := by
  unfold grown valueOf
  generalize (0 : Nat) = number
  induction digits generalizing number with
  | nil => rfl
  | cons digit digits step =>
    by_cases below : number < bound
    · rw [List.foldl_cons, List.foldl_cons, grow, if_pos below]
      exact step _
    · have reached := Nat.not_lt.mp below
      have above := le_foldl_digits number (digit :: digits)
      rw [foldl_grow_of_le reached]
      omega

/-- What lies below the bound is read as it is written. -/
theorem grown_eq_valueOf {bound : Nat} {digits : List Nat} (below : valueOf digits < bound) :
    grown bound digits = valueOf digits := by
  unfold grown valueOf at *
  revert below
  generalize (0 : Nat) = number
  induction digits generalizing number with
  | nil => intro _; rfl
  | cons digit digits step =>
    intro below
    have first := Nat.lt_of_le_of_lt (le_foldl_digits number (digit :: digits)) below
    rw [List.foldl_cons, List.foldl_cons, grow, if_pos first]
    exact step _ below

theorem read?_lt {bound number : Nat} {text : String} (read : read? bound text = some number) :
    number < bound := by
  unfold read? at read
  dsimp only at read
  split at read
  · cases read
  · simpa using (Option.filter_eq_some_iff.mp read).2

end EventFeed.Numeral
