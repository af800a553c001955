/-
**Texts and their bytes.**

Frames travel as octets and carry texts in UTF-8. A text has exactly one byte form (`toBytes`), and
`ofBytes?` accepts exactly those forms:

* `ofBytes?_toBytes`: reading the bytes of a text gives the text back;
* `toBytes_of_ofBytes?`: bytes that read as a text are the bytes of that text.

Bytes that no text has are still shown to people, so `lossy` reads any bytes: each longest start of
a well-formed sequence that is not completed becomes one replacement character.
-/

namespace EventFeed.Text

def toBytes (text : String) : List UInt8 :=
  text.toByteArray.data.toList

/-- The text with the given UTF-8 bytes, if they are well formed. -/
def ofBytes? (bytes : List UInt8) : Option String :=
  String.fromUTF8? ⟨bytes.toArray⟩

/-- Reading the bytes of a text gives the text back. -/
theorem ofBytes?_toBytes (text : String) : ofBytes? (toBytes text) = some text := by
  have bytes : (⟨(toBytes text).toArray⟩ : ByteArray) = text.toByteArray := by
    simp [toBytes]
  rw [ofBytes?, bytes, String.fromUTF8?]
  have valid : text.toByteArray.IsValidUTF8 := text.isValidUTF8
  simp [valid, String.fromUTF8]

/-- Bytes that read as a text are the bytes of that text. -/
theorem toBytes_of_ofBytes? {bytes : List UInt8} {text : String}
    (read : ofBytes? bytes = some text) : toBytes text = bytes := by
  unfold ofBytes? String.fromUTF8? at read
  split at read
  · cases read
    simp [toBytes, String.fromUTF8]
  · cases read

/-- The character shown in place of bytes that are no character. -/
def replacement : Char := '\uFFFD'

/-- The ranges that the bytes after a leading byte have to lie in, first to last; nothing for a
byte that starts no character. -/
def continuations (lead : UInt8) : Option (List (UInt8 × UInt8)) :=
  let any := (0x80, 0xBF)
  if lead < 0x80 then some []
  else if lead < 0xC2 then none
  else if lead < 0xE0 then some [any]
  else if lead = 0xE0 then some [(0xA0, 0xBF), any]
  else if lead = 0xED then some [(0x80, 0x9F), any]
  else if lead < 0xF0 then some [any, any]
  else if lead = 0xF0 then some [(0x90, 0xBF), any, any]
  else if lead < 0xF4 then some [any, any, any]
  else if lead = 0xF4 then some [(0x80, 0x8F), any, any]
  else none

/-- The longest start of `bytes` that fits the ranges, one byte each. -/
def fitting : List (UInt8 × UInt8) → List UInt8 → List UInt8
  | (low, high) :: ranges, byte :: bytes =>
    if low ≤ byte ∧ byte ≤ high then byte :: fitting ranges bytes else []
  | _, _ => []

/-- The number written by a leading byte and its continuation: the leading byte keeps the bits
below its length mark, each later byte its low six. -/
def scalar (lead : UInt8) (rest : List UInt8) : Nat :=
  let mark := match rest.length with
    | 0 => 0x80
    | 1 => 0x20
    | 2 => 0x10
    | _ => 0x08
  rest.foldl (fun value byte => value * 64 + byte.toNat % 64) (lead.toNat % mark)

/-- The characters of any bytes, with a replacement character for each longest start of a
character that is not completed and for each byte that starts none. -/
def lossyChars : List UInt8 → List Char
  | [] => []
  | lead :: bytes =>
    match continuations lead with
    | none => replacement :: lossyChars bytes
    | some ranges =>
      let rest := fitting ranges bytes
      let char := if rest.length = ranges.length then Char.ofNat (scalar lead rest) else replacement
      char :: lossyChars (bytes.drop rest.length)
  termination_by bytes => bytes.length
  decreasing_by all_goals simp only [List.length_cons, List.length_drop]; omega

/-- The text of any bytes, as `lossyChars` reads them. -/
def lossy (bytes : List UInt8) : String :=
  String.ofList (lossyChars bytes)

end EventFeed.Text
