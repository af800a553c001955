/-
**Quoted texts.**

A message quotes a text between double quotes so that it stays on one line and shows what it holds.
A quote and a backslash get a backslash; tab, line feed, carriage return and the null character have
a letter; a character that cannot be shown or that extends the one before is written by its number
in lowercase hexadecimal digits; every other character stands for itself.

* `quoteChar_of_plain`: a plain character stands for itself.
-/

import EventFeed.Text.Unprintable
import EventFeed.Text.Combining

namespace EventFeed.Text

/-- The lowercase hexadecimal digits of a number, without leading zeros. -/
def hexDigits (number : Nat) : List Char :=
  Nat.toDigits 16 number

/-- How a quoted text writes one character. -/
def quoteChar (char : Char) : List Char :=
  if char = '"' then ['\\', '"']
  else if char = '\\' then ['\\', '\\']
  else if char = '\t' then ['\\', 't']
  else if char = '\n' then ['\\', 'n']
  else if char = '\r' then ['\\', 'r']
  else if char.toNat = 0 then ['\\', '0']
  else if isUnprintable char || isCombining char then
    ['\\', 'u', '\x7b'] ++ hexDigits char.toNat ++ ['\x7d']
  else [char]

/-- The text between double quotes, on one line. -/
def quote (text : String) : String :=
  String.ofList ('"' :: text.toList.flatMap quoteChar ++ ['"'])

/-- A character that can be shown, is no mark and is neither quote nor backslash stands for
itself. -/
theorem quoteChar_of_plain {char : Char} (notQuote : char ≠ '"') (notBackslash : char ≠ '\\')
    (shown : isUnprintable char = false) (alone : isCombining char = false) :
    quoteChar char = [char] := by
  have control : ∀ other : Char, isUnprintable other = true → char ≠ other := by
    rintro other hidden rfl
    simp [shown] at hidden
  have tab := control '\t' (by decide)
  have lineFeed := control '\n' (by decide)
  have carriageReturn := control '\r' (by decide)
  have null : char.toNat ≠ 0 := by
    intro zero
    apply control (Char.ofNat 0) (by decide)
    rw [← zero, Char.ofNat_toNat]
  simp [quoteChar, *]

end EventFeed.Text
