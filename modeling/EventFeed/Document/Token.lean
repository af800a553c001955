/-
**The tokens of JSON text.**

`tokens` cuts bytes into marks, texts and scalars. It never fails: a text or a scalar that breaks a
rule is a token that says which, and it is the last one. So the reader meets the faults of the bytes
in their order.

A text is read in two passes. `pieces` finds its end and undoes the escapes; `joined` then joins the
halves of characters that two escapes write, and refuses a half that stands alone. A text that
nobody looks at is only asked for its end.

* `pieces_rest_lt`: a text leaves less than there was, so there are no more tokens than bytes.
-/

import EventFeed.Document.Number
import EventFeed.Text.Utf8

namespace EventFeed.Document

/-- A part of a text between quotes: a byte that stands for itself, a character with a letter for
it, or a 16-bit unit written in hexadecimal. -/
inductive Piece where
  | byte (byte : UInt8)
  | char (char : Char)
  | unit (unit : Nat)
  deriving DecidableEq, Repr

/-- How a text between quotes ends: with its quote, and what follows, or with a fault. -/
inductive TextEnd where
  | closed (rest : List UInt8)
  | failed (error : ReadError)
  deriving DecidableEq, Repr

/-- The character that a letter stands for behind a backslash. -/
def escapedChar? (letter : UInt8) : Option Char :=
  if letter = 0x22 then some '"'
  else if letter = 0x5C then some '\\'
  else if letter = 0x2F then some '/'
  else if letter = 0x62 then some (Char.ofNat 8)
  else if letter = 0x66 then some (Char.ofNat 12)
  else if letter = 0x6E then some '\n'
  else if letter = 0x72 then some '\r'
  else if letter = 0x74 then some '\t'
  else none

def hexDigit? (byte : UInt8) : Option Nat :=
  if 0x30 ≤ byte ∧ byte ≤ 0x39 then some (byte.toNat - 0x30)
  else if 0x61 ≤ byte ∧ byte ≤ 0x66 then some (byte.toNat - 0x61 + 10)
  else if 0x41 ≤ byte ∧ byte ≤ 0x46 then some (byte.toNat - 0x41 + 10)
  else none

/-- The unit that four hexadecimal digits write. -/
def hexUnit? (a b c d : UInt8) : Option Nat := do
  let a ← hexDigit? a
  let b ← hexDigit? b
  let c ← hexDigit? c
  let d ← hexDigit? d
  some (((a * 16 + b) * 16 + c) * 16 + d)

/-- The pieces of a text from behind its first quote, and how it ends. -/
def pieces : List UInt8 → List Piece × TextEnd
  | [] => ([], .failed .cutShort)
  | 0x22 :: rest => ([], .closed rest)
  | 0x5C :: 0x75 :: a :: b :: c :: d :: rest =>
    match hexUnit? a b c d with
    | none => ([], .failed .malformed)
    | some unit =>
      let (found, ended) := pieces rest
      (.unit unit :: found, ended)
  | 0x5C :: 0x75 :: _ => ([], .failed .cutShort)
  | 0x5C :: letter :: rest =>
    match escapedChar? letter with
    | none => ([], .failed .malformed)
    | some char =>
      let (found, ended) := pieces rest
      (.char char :: found, ended)
  | 0x5C :: [] => ([], .failed .cutShort)
  | byte :: rest =>
    if byte < 0x20 then ([], .failed .malformed)
    else
      let (found, ended) := pieces rest
      (.byte byte :: found, ended)

/-- Whether a unit is the first half of a character. -/
def isFirstHalf (unit : Nat) : Bool :=
  0xD800 ≤ unit && unit < 0xDC00

/-- Whether a unit is the second half of a character. -/
def isSecondHalf (unit : Nat) : Bool :=
  0xDC00 ≤ unit && unit < 0xE000

def charBytes (char : Char) : List UInt8 :=
  Text.toBytes (String.singleton char)

/-- The bytes of a text, with the halves of characters joined. The fault at its end counts only if
no half stands alone before. -/
def joined (fault : Option ReadError) : List Piece → Except ReadError (List UInt8)
  | [] => match fault with
    | none => .ok []
    | some error => .error error
  | .byte byte :: found => (joined fault found).map (byte :: ·)
  | .char char :: found => (joined fault found).map (charBytes char ++ ·)
  | .unit first :: found =>
    if isSecondHalf first then .error .malformed
    else if isFirstHalf first then
      match found with
      | .unit second :: found =>
        if isSecondHalf second then
          let code := 0x10000 + (first - 0xD800) * 0x400 + (second - 0xDC00)
          (joined fault found).map (charBytes (Char.ofNat code) ++ ·)
        else .error .malformed
      | [] => match fault with
        | some .cutShort => .error .cutShort
        | _ => .error .malformed
      | _ => .error .malformed
    else (joined fault found).map (charBytes (Char.ofNat first) ++ ·)

def content (found : List Piece) (fault : Option ReadError) : Except ReadError String := do
  let bytes ← joined fault found
  match Text.ofBytes? bytes with
  | some text => .ok text
  | none => .error .malformed

/-- A token: a mark, a text or a scalar with what it is worth and whether its form alone is right, a
byte that begins no token, or the end of the bytes. -/
inductive Token where
  | openList
  | closeList
  | openObject
  | closeObject
  | comma
  | colon
  | text (content : Except ReadError String) (closed : Bool)
  | scalar (value : Except ReadError Value) (formed : Bool)
  | stray
  | finish

/-- What follows a word that the bytes have to begin with. -/
def afterWord : List UInt8 → List UInt8 → Except ReadError (List UInt8)
  | [], rest => .ok rest
  | _ :: _, [] => .error .cutShort
  | letter :: word, byte :: rest =>
    if letter = byte then afterWord word rest else .error .malformed

def words : List (Value × List UInt8) :=
  [(.boolean true, [0x74, 0x72, 0x75, 0x65]), (.boolean false, [0x66, 0x61, 0x6C, 0x73, 0x65]),
    (.null, [0x6E, 0x75, 0x6C, 0x6C])]

/-- The word that begins with a letter: its value, and the letters after the first. -/
def wordFrom? (letter : UInt8) : Option (Value × List UInt8) :=
  (words.find? fun word => word.2.head? = some letter).map fun word => (word.1, word.2.drop 1)

def mark? (byte : UInt8) : Option Token :=
  if byte = 0x5B then some .openList
  else if byte = 0x5D then some .closeList
  else if byte = 0x7B then some .openObject
  else if byte = 0x7D then some .closeObject
  else if byte = 0x2C then some .comma
  else if byte = 0x3A then some .colon
  else none

/-- Whether a byte may stand between tokens. -/
def isGap (byte : UInt8) : Bool :=
  byte = 0x20 || byte = 0x09 || byte = 0x0A || byte = 0x0D

theorem pieces_rest_lt {bytes rest : List UInt8} (ended : (pieces bytes).2 = .closed rest) :
    rest.length < bytes.length := by
  fun_induction pieces bytes <;> simp_all <;> omega

theorem afterWord_rest_le {word bytes rest : List UInt8} (found : afterWord word bytes = .ok rest) :
    rest.length ≤ bytes.length := by
  fun_induction afterWord word bytes <;> simp_all
  omega

def tokens : List UInt8 → List Token
  | [] => [.finish]
  | byte :: bytes =>
    if isGap byte then tokens bytes
    else match mark? byte with
    | some mark => mark :: tokens bytes
    | none =>
      if byte = 0x22 then
        match _ended : (pieces bytes).2 with
        | .closed rest => .text (content (pieces bytes).1 none) true :: tokens rest
        | .failed error => [.text (content (pieces bytes).1 (some error)) false]
      else if byte = 0x2D || isDigitByte byte then
        match _found : numeral (byte :: bytes) with
        | .error error => [.scalar (.error error) false]
        | .ok (number, rest) =>
          let value := match number.value? with
            | some value => .ok value
            | none => .error .malformed
          .scalar value true :: tokens rest
      else match wordFrom? byte with
      | none => [.stray]
      | some (value, letters) =>
        match _found : afterWord letters bytes with
        | .error error => [.scalar (.error error) false]
        | .ok rest => .scalar (.ok value) true :: tokens rest
  termination_by bytes => bytes.length
  decreasing_by
    · simp
    · simp
    · have := pieces_rest_lt _ended
      simp only [List.length_cons]
      omega
    · exact numeral_rest_lt _found
    · have := afterWord_rest_le _found
      simp only [List.length_cons]
      omega

end EventFeed.Document
