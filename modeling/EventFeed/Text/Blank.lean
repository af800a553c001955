/-
**Blank characters.**

A character is blank when Unicode gives it the property White_Space. Settings, heart-beat values and
lengths are read with the blank characters at both ends taken off.

* `trimChars_eq_of_not_blank`: a text whose ends are not blank is left as it is.
-/

namespace EventFeed.Text

/-- The characters with the property White_Space. -/
def isBlank (char : Char) : Bool :=
  let code := char.toNat
  (0x09 ≤ code && code ≤ 0x0D) || code = 0x20 || code = 0x85 || code = 0xA0 || code = 0x1680 ||
    (0x2000 ≤ code && code ≤ 0x200A) || code = 0x2028 || code = 0x2029 || code = 0x202F ||
    code = 0x205F || code = 0x3000

/-- The characters without the blank ones at either end. -/
def trimChars (chars : List Char) : List Char :=
  ((chars.dropWhile isBlank).reverse.dropWhile isBlank).reverse

/-- The text without the blank characters at either end. -/
def trim (text : String) : String :=
  String.ofList (trimChars text.toList)

/-- Whether a text has no character but blank ones. -/
def allBlank (text : String) : Bool :=
  text.toList.all isBlank

/-- Characters whose first and last are not blank are left as they are. -/
theorem trimChars_eq_of_not_blank {chars : List Char}
    (first : ∀ char ∈ chars.head?, isBlank char = false)
    (last : ∀ char ∈ chars.getLast?, isBlank char = false) : trimChars chars = chars := by
  have keepsHead : ∀ {list : List Char}, (∀ char ∈ list.head?, isBlank char = false) →
      list.dropWhile isBlank = list := by
    intro list head
    cases list with
    | nil => rfl
    | cons char rest => simp [head char (by simp)]
  rw [trimChars, keepsHead first, keepsHead (by simpa using last), List.reverse_reverse]

end EventFeed.Text
