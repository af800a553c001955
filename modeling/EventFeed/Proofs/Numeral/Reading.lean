/-
**Numbers that are written come back.**

The digits that write a natural number are read as that number, if it lies below the bound, and
there is nothing blank around them, nor around any other text that is read as a number.

* `read?_decimal`: a number is read as it was written;
* `trim_of_read?`: trimming leaves alone whatever is read as a number;
* `trim_decimal`: so it leaves alone a number that was written.
-/

import EventFeed.Numeral.Natural
import EventFeed.Text.Blank

namespace EventFeed.Numeral

/-- A character that writes a digit. -/
theorem digit?_of_isDigit {char : Char} (isDigit : char.isDigit = true) :
    digit? char = some (char.toNat - '0'.toNat) := by
  unfold Char.isDigit at isDigit
  rw [Bool.and_eq_true, decide_eq_true_eq, decide_eq_true_eq] at isDigit
  exact if_pos isDigit

theorem not_blank_of_isDigit {char : Char} (isDigit : char.isDigit = true) :
    Text.isBlank char = false := by
  unfold Char.isDigit at isDigit
  rw [Bool.and_eq_true, decide_eq_true_eq, decide_eq_true_eq] at isDigit
  have low : 48 ≤ char.toNat := isDigit.1
  have high : char.toNat ≤ 57 := isDigit.2
  simp only [Text.isBlank, Bool.or_eq_false_iff, Bool.and_eq_false_iff, decide_eq_false_iff_not]
  omega

theorem digits?_of_isDigit {chars : List Char} (digits : ∀ char ∈ chars, char.isDigit = true) :
    digits? chars = some (chars.map fun char => char.toNat - '0'.toNat) := by
  unfold digits?
  induction chars with
  | nil => rfl
  | cons char chars ih =>
    have later := ih fun other member => digits other (List.mem_cons_of_mem _ member)
    rw [List.mapM_cons, digit?_of_isDigit (digits char List.mem_cons_self), later]
    rfl

/-- The digits of a number have its value. -/
theorem valueOf_toDigits (number : Nat) :
    valueOf ((Nat.toDigits 10 number).map fun char => char.toNat - '0'.toNat) = number := by
  have read : Nat.ofDigitChars 10 (Nat.toDigits 10 number) 0 = number :=
    Nat.ofDigitChars_toDigits (by decide) (by decide)
  unfold valueOf
  rw [List.foldl_map]
  simpa only [Nat.ofDigitChars, Nat.mul_comm 10] using read

theorem isDigit_of_mem_decimal (number : Nat) :
    ∀ char ∈ (decimal number).toList, char.isDigit = true := by
  intro char member
  rw [decimal, String.toList_ofList] at member
  exact Nat.isDigit_of_mem_toDigits (by decide) (by decide) member

/-- **A number is read as it was written.** -/
theorem read?_decimal {bound number : Nat} (fits : number < bound) :
    read? bound (decimal number) = some number := by
  have value := valueOf_toDigits number
  have digits : digits? (decimal number).toList =
      some ((Nat.toDigits 10 number).map fun char => char.toNat - '0'.toNat) := by
    rw [digits?_of_isDigit (isDigit_of_mem_decimal number), decimal, String.toList_ofList]
  have notEmpty : (decimal number).toList ≠ [] := by
    rw [decimal, String.toList_ofList]
    exact Nat.toDigits_ne_nil
  have below : valueOf ((Nat.toDigits 10 number).map fun char => char.toNat - '0'.toNat) < bound :=
    value.symm ▸ fits
  unfold read?
  dsimp only
  cases chars : (decimal number).toList with
  | nil => exact absurd chars notEmpty
  | cons first later =>
    have isDigit : first.isDigit = true :=
      isDigit_of_mem_decimal number first (chars ▸ List.mem_cons_self)
    have noSign : ∀ rest, first :: later ≠ '+' :: rest := by
      intro rest same
      obtain ⟨rfl, -⟩ := List.cons.inj same
      exact absurd isDigit (by decide)
    rw [chars] at digits
    split
    · rename_i same
      split at same
      · exact absurd ‹_› (noSign _)
      · cases same
    · rename_i same
      split at same
      · exact absurd ‹_› (noSign _)
      · rw [digits, Option.map_some, grown_eq_valueOf below, value]
        simp [fits]

/-! ### Texts that are read as numbers -/

theorem isDigit_of_digit? {char : Char} {value : Nat} (read : digit? char = some value) :
    char.isDigit = true := by
  unfold digit? at read
  split at read
  · rename_i range
    unfold Char.isDigit
    rw [Bool.and_eq_true, decide_eq_true_eq, decide_eq_true_eq]
    exact range
  · cases read

theorem isDigit_of_digits? {chars : List Char} {values : List Nat}
    (read : digits? chars = some values) : ∀ char ∈ chars, char.isDigit = true := by
  unfold digits? at read
  induction chars generalizing values with
  | nil => exact fun char member => nomatch member
  | cons first chars ih =>
    rw [List.mapM_cons] at read
    obtain ⟨value, readFirst, read⟩ := Option.bind_eq_some_iff.mp read
    obtain ⟨later, readLater, -⟩ := Option.bind_eq_some_iff.mp read
    rw [List.forall_mem_cons]
    exact ⟨isDigit_of_digit? readFirst, ih readLater⟩

/-- A text that is read as a number is digits, with at most a sign before them. -/
theorem exists_digits_of_read? {bound number : Nat} {text : String}
    (read : read? bound text = some number) :
    ∃ digits, (text.toList = digits ∨ text.toList = '+' :: digits) ∧
      ∀ char ∈ digits, char.isDigit = true := by
  unfold read? at read
  dsimp only at read
  split at read
  · cases read
  · obtain ⟨counted, -⟩ := Option.filter_eq_some_iff.mp read
    obtain ⟨values, readDigits, -⟩ := Option.map_eq_some_iff.mp counted
    refine ⟨_, ?_, isDigit_of_digits? readDigits⟩
    split
    · rename_i signed
      exact .inr signed
    · exact .inl rfl

/-- **Trimming leaves alone whatever is read as a number.** -/
theorem trim_of_read? {bound number : Nat} {text : String}
    (read : read? bound text = some number) : Text.trim text = text := by
  obtain ⟨digits, parts, areDigits⟩ := exists_digits_of_read? read
  have solid : ∀ char ∈ text.toList, Text.isBlank char = false := by
    have unsigned : ∀ char ∈ digits, Text.isBlank char = false :=
      fun char member => not_blank_of_isDigit (areDigits char member)
    rcases parts with plain | signed
    · rwa [plain]
    · rw [signed, List.forall_mem_cons]
      exact ⟨by decide, unsigned⟩
  have plain := Text.trimChars_eq_of_not_blank
    (fun char member => solid char (List.mem_of_mem_head? member))
    (fun char member => solid char (List.mem_of_mem_getLast? member))
  rw [Text.trim, plain, String.ofList_toList]

/-- There is nothing blank around the digits of a number. -/
theorem trim_decimal (number : Nat) : Text.trim (decimal number) = decimal number :=
  trim_of_read? (read?_decimal (Nat.lt_succ_self number))

end EventFeed.Numeral
