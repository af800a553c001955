/-
**Numbers of many digits.**

The digits of a long number are put together in pairs, then the pairs in pairs, and so on, so that
few of the products are long.

* `gather_eq`: whatever the order of the products, the number is the one that the digits write;
* `gathered_eq_valueOf`: the same with the most significant digit first.
-/

import EventFeed.Numeral.Natural

namespace EventFeed.Numeral

/-- The number that digits write in a base, least significant first. -/
def weighted (base : Nat) (digits : List Nat) : Nat :=
  digits.foldr (fun digit number => digit + base * number) 0

/-- Neighbouring digits put together, behind what is `done` already, the latest first. -/
def paired (base : Nat) (done : List Nat) : List Nat → List Nat
  | low :: high :: digits => paired base ((low + base * high) :: done) digits
  | digits => done.reverse ++ digits

theorem length_paired_le (base : Nat) (done digits : List Nat) :
    2 * (paired base done digits).length ≤ 2 * done.length + digits.length + 1 := by
  fun_induction paired base done digits with
  | case1 done low high digits step =>
    simp only [List.length_cons] at step ⊢
    omega
  | case2 done digits short =>
    have few : digits.length ≤ 1 := by
      match digits, short with
      | [], _ => simp
      | [_], _ => simp
      | low :: high :: rest, short => exact (short low high rest rfl).elim
    simp only [List.length_append, List.length_reverse]
    omega

/-- The number that digits write in a base, least significant first, with few long products. -/
def gather (base : Nat) (digits : List Nat) : Nat :=
  match digits with
  | [] => 0
  | [digit] => digit
  | low :: high :: rest => gather (base * base) (paired base [] (low :: high :: rest))
  termination_by digits.length
  decreasing_by
    have := length_paired_le base [] (low :: high :: rest)
    simp only [List.length_cons, List.length_nil] at this ⊢
    omega

theorem weighted_append (base : Nat) (low high : List Nat) :
    weighted base (low ++ high) =
      weighted base low + Nat.pow base low.length * weighted base high := by
  induction low with
  | nil => simp [weighted]
  | cons digit low step =>
    simp only [weighted, List.cons_append, List.foldr_cons, List.length_cons] at step ⊢
    rw [step, Nat.mul_add, Nat.pow_eq, Nat.pow_eq, Nat.pow_succ,
      Nat.mul_comm (base ^ low.length) base, Nat.mul_assoc, Nat.add_assoc]

/-- Putting neighbours together changes the base and not the number. -/
theorem weighted_paired (base : Nat) (done digits : List Nat) :
    weighted (base * base) (paired base done digits) =
      weighted (base * base) done.reverse +
        Nat.pow (base * base) done.length * weighted base digits := by
  fun_induction paired base done digits with
  | case1 done low high digits step =>
    rw [step, List.reverse_cons, weighted_append, List.length_reverse, List.length_cons]
    simp only [weighted, List.foldr_cons, List.foldr_nil, Nat.pow_eq, Nat.pow_succ, Nat.mul_add,
      Nat.mul_zero, Nat.add_zero, Nat.mul_assoc, Nat.add_assoc]
  | case2 done digits short =>
    rw [weighted_append, List.length_reverse]
    match digits, short with
    | [], _ => rfl
    | [_], _ => rfl
    | low :: high :: rest, short => exact (short low high rest rfl).elim

/-- Whatever the order of the products, the number is the one that the digits write. -/
theorem gather_eq (base : Nat) (digits : List Nat) : gather base digits = weighted base digits := by
  fun_induction gather base digits with
  | case1 base => rfl
  | case2 base digit => simp [weighted]
  | case3 base low high rest step =>
    rw [step, weighted_paired]
    simp [weighted]

/-- The number that digits write, most significant first, with few long products. -/
def gathered (digits : List Nat) : Nat :=
  gather 10 digits.reverse

/-- The number is the one that the digits write. -/
theorem gathered_eq_valueOf (digits : List Nat) : gathered digits = valueOf digits := by
  rw [gathered, gather_eq, weighted, List.foldr_reverse, valueOf]
  congr 1
  funext number digit
  omega

end EventFeed.Numeral
