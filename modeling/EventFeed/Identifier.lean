/-
**Identifiers.**

A name on the wire and the receipt of a farewell are identifiers: 36 characters, five groups of
digits with dashes between them. The groups in front come from a seed, which the surroundings choose
so that a server cannot guess it. One digit tells what the identifier is for, and the last group is
the number of the identifier among those for the same purpose.

* `identifier_injective`: identifiers of one seed differ in their purpose or in their number.
-/

import EventFeed.Numeral.Natural

namespace EventFeed

open EventFeed.Numeral

/-- What an identifier is for. -/
inductive Purpose where
  | subscription
  | farewell
  deriving DecidableEq, Repr

/-- The digit that tells what an identifier is for. -/
def Purpose.digit : Purpose → Char
  | .subscription => '8'
  | .farewell => '9'

def seedDigits (seed : Nat) : List Char :=
  padded 18 (seed % Nat.pow 10 18)

/-- What stands before the digit for the purpose. -/
def identifierHead (seed : Nat) : List Char :=
  let digits := seedDigits seed
  digits.take 8 ++ ['-'] ++ (digits.drop 8).take 4 ++ ['-', '4'] ++ (digits.drop 12).take 3 ++ ['-']

def identifier (seed : Nat) (purpose : Purpose) (number : Nat) : String :=
  String.ofList (identifierHead seed ++
    purpose.digit :: ((seedDigits seed).drop 15 ++ '-' :: padded 12 number))

/-- Identifiers of one seed differ in their purpose or in their number. -/
theorem identifier_injective {seed : Nat} {first second : Purpose} {low high : Nat}
    (same : identifier seed first low = identifier seed second high) :
    first = second ∧ low = high := by
  have chars := List.append_cancel_left (String.ofList_injective same)
  rw [List.cons.injEq] at chars
  have numbers := List.append_cancel_left chars.2
  rw [List.cons.injEq] at numbers
  refine ⟨?_, padded_injective numbers.2⟩
  have digit := chars.1
  cases first <;> cases second <;> first | rfl | simp [Purpose.digit] at digit

end EventFeed
