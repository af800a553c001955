/-
**The compact text of a JSON value.**

Nothing stands between the parts of a value but the marks that JSON asks for, and members come in
the order of their keys. A text escapes the quote, the backslash and the characters below the space,
those with a letter by it and the others by four hexadecimal digits.

* `escapeChar_of_plain`: every other character stands for itself.
-/

import EventFeed.Document.Value

namespace EventFeed.Document

open EventFeed.Numeral

/-- How a text between quotes writes one character. -/
def escapeChar (char : Char) : List Char :=
  if char = '"' then ['\\', '"']
  else if char = '\\' then ['\\', '\\']
  else if char = '\n' then ['\\', 'n']
  else if char = '\r' then ['\\', 'r']
  else if char = '\t' then ['\\', 't']
  else if char.toNat = 8 then ['\\', 'b']
  else if char.toNat = 12 then ['\\', 'f']
  else if char.toNat < 0x20 then
    let digits := Nat.toDigits 16 char.toNat
    ['\\', 'u'] ++ List.replicate (4 - digits.length) '0' ++ digits
  else [char]

def quoted (text : String) : List Char :=
  '"' :: text.toList.flatMap escapeChar ++ ['"']

def commaSeparated (parts : List (List Char)) : List Char :=
  (parts.intersperse [',']).flatten

namespace Value

mutual

def chars : Value → List Char
  | .null => ['n', 'u', 'l', 'l']
  | .boolean true => ['t', 'r', 'u', 'e']
  | .boolean false => ['f', 'a', 'l', 's', 'e']
  | .integer value =>
    if value < 0 then '-' :: Nat.toDigits 10 value.natAbs else Nat.toDigits 10 value.natAbs
  | .real value => value.scientific.toList
  | .text value => quoted value
  | .list items => '[' :: commaSeparated (itemChars items) ++ [']']
  | .object members => '\x7b' :: commaSeparated (memberChars members) ++ ['\x7d']

def itemChars : List Value → List (List Char)
  | [] => []
  | item :: items => item.chars :: itemChars items

def memberChars : List (String × Value) → List (List Char)
  | [] => []
  | (key, value) :: members => (quoted key ++ ':' :: value.chars) :: memberChars members

end

def print (value : Value) : String :=
  String.ofList value.chars

end Value

/-- A character from the space on that is neither quote nor backslash stands for itself. -/
theorem escapeChar_of_plain {char : Char} (notQuote : char ≠ '"') (notBackslash : char ≠ '\\')
    (shown : 0x20 ≤ char.toNat) : escapeChar char = [char] := by
  have above : ∀ other : Char, other.toNat < 0x20 → char ≠ other := by
    rintro other below rfl
    omega
  have lineFeed := above '\n' (by decide)
  have carriageReturn := above '\r' (by decide)
  have tab := above '\t' (by decide)
  have backspace : char.toNat ≠ 8 := by omega
  have formFeed : char.toNat ≠ 12 := by omega
  have visible : ¬ char.toNat < 0x20 := by omega
  simp [escapeChar, *]

end EventFeed.Document
