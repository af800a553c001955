/-
**Ascii characters among the bytes of a text.**

A character below 128 is one byte, and every byte of any other character is 128 or more. So the
bytes of a text show where its ascii characters stand: lines and colons can be looked for in the
bytes, and what is found there is in the text.

* `mem_toBytes_iff`: an ascii character is in the text exactly if its byte is among the bytes;
* `getLast?_toBytes_iff`: it is the last character exactly if its byte is the last byte;
* `lossyChars_of_ascii`: bytes below 128 are shown as the characters that they are.
-/

import EventFeed.Text.Utf8

namespace EventFeed.Text

/-- The byte of an ascii character. -/
def asciiByte (char : Char) : UInt8 :=
  UInt8.ofNat char.toNat

/-- Different ascii characters have different bytes. -/
theorem asciiByte_injective {first second : Char} (low : first.toNat < 128)
    (low' : second.toNat < 128) (same : asciiByte first = asciiByte second) : first = second := by
  have numbers := congrArg UInt8.toNat same
  simp only [asciiByte, UInt8.toNat_ofNat'] at numbers
  exact Char.toNat_inj.mp (by omega)

/-- A character is one byte below 128, or bytes that are all 128 or more. -/
theorem utf8EncodeChar_cases (char : Char) :
    char.toNat < 128 ∧ String.utf8EncodeChar char = [asciiByte char] ∨
      128 ≤ char.toNat ∧ ∀ byte ∈ String.utf8EncodeChar char, 128 ≤ byte.toNat := by
  have code : char.val.toNat = char.toNat := rfl
  by_cases low : char.toNat < 128
  · refine .inl ⟨low, ?_⟩
    rw [String.utf8EncodeChar, if_pos (by omega)]
    rfl
  · refine .inr ⟨by omega, fun byte member => ?_⟩
    rw [String.utf8EncodeChar, if_neg (by omega)] at member
    split at member
    · simp only [List.mem_cons, List.not_mem_nil, or_false] at member
      rcases member with rfl | rfl <;> rw [UInt8.toNat_ofNat'] <;> omega
    · split at member
      · simp only [List.mem_cons, List.not_mem_nil, or_false] at member
        rcases member with rfl | rfl | rfl <;> rw [UInt8.toNat_ofNat'] <;> omega
      · simp only [List.mem_cons, List.not_mem_nil, or_false] at member
        rcases member with rfl | rfl | rfl | rfl <;> rw [UInt8.toNat_ofNat'] <;> omega

/-- The byte of an ascii character is among the bytes of no other character. -/
theorem asciiByte_mem_utf8EncodeChar_iff {char : Char} (low : char.toNat < 128) (other : Char) :
    asciiByte char ∈ String.utf8EncodeChar other ↔ char = other := by
  have small : (asciiByte char).toNat < 128 := by
    rw [asciiByte, UInt8.toNat_ofNat']
    omega
  constructor
  · intro member
    rcases utf8EncodeChar_cases other with ⟨low', single⟩ | ⟨-, high⟩
    · rw [single, List.mem_singleton] at member
      exact asciiByte_injective low low' member
    · exact absurd (high _ member) (by omega)
  · rintro rfl
    rcases utf8EncodeChar_cases char with ⟨-, single⟩ | ⟨high, -⟩
    · rw [single]
      exact List.mem_singleton_self _
    · omega

theorem toBytes_eq_flatMap (text : String) :
    toBytes text = text.toList.flatMap String.utf8EncodeChar := by
  have whole : text.toByteArray = text.toList.utf8Encode := String.utf8Encode_toList.symm
  rw [toBytes, whole, List.utf8Encode, List.data_toByteArray]

@[simp] theorem toBytes_append (first second : String) :
    toBytes (first ++ second) = toBytes first ++ toBytes second := by
  simp [toBytes_eq_flatMap]

/-- **An ascii character is in a text exactly if its byte is among the bytes.** -/
theorem mem_toBytes_iff {char : Char} (low : char.toNat < 128) (text : String) :
    asciiByte char ∈ toBytes text ↔ char ∈ text.toList := by
  rw [toBytes_eq_flatMap, List.mem_flatMap]
  constructor
  · rintro ⟨other, member, found⟩
    rw [(asciiByte_mem_utf8EncodeChar_iff low other).mp found]
    exact member
  · exact fun member => ⟨char, member, (asciiByte_mem_utf8EncodeChar_iff low char).mpr rfl⟩

/-- **An ascii character is the last of a text exactly if its byte is the last byte.** -/
theorem getLast?_toBytes_iff {char : Char} (low : char.toNat < 128) (text : String) :
    (toBytes text).getLast? = some (asciiByte char) ↔ text.toList.getLast? = some char := by
  rw [toBytes_eq_flatMap]
  rcases List.eq_nil_or_concat text.toList with empty | ⟨front, last, parts⟩
  · simp [empty]
  · have bytes : (text.toList.flatMap String.utf8EncodeChar).getLast? =
        (String.utf8EncodeChar last).getLast? := by
      obtain ⟨byte, found⟩ := Option.ne_none_iff_exists'.mp
        (mt List.getLast?_eq_none_iff.mp (String.utf8EncodeChar_ne_nil (c := last)))
      rw [parts, List.concat_eq_append, List.flatMap_append, List.flatMap_singleton,
        List.getLast?_append, found]
      rfl
    rw [bytes, parts, List.concat_eq_append, List.getLast?_concat, Option.some.injEq]
    constructor
    · intro ends
      exact ((asciiByte_mem_utf8EncodeChar_iff low last).mp (List.mem_of_getLast? ends)).symm
    · rintro rfl
      rcases utf8EncodeChar_cases last with ⟨-, single⟩ | ⟨high, -⟩
      · rw [single, List.getLast?_singleton]
      · omega

/-- Bytes below 128 are shown as the characters that they are. -/
theorem lossyChars_of_ascii {bytes : List UInt8} (low : ∀ byte ∈ bytes, byte < 0x80) :
    lossyChars bytes = bytes.map fun byte => Char.ofNat byte.toNat := by
  induction bytes with
  | nil => rw [lossyChars, List.map_nil]
  | cons lead bytes step =>
    have small : lead < 0x80 := low lead List.mem_cons_self
    have alone : continuations lead = some [] := if_pos small
    have value : scalar lead [] = lead.toNat := Nat.mod_eq_of_lt (UInt8.lt_iff_toNat_lt.mp small)
    have later := step fun byte member => low byte (List.mem_cons_of_mem _ member)
    rw [lossyChars, alone]
    simp [fitting, value, later]

end EventFeed.Text
