/-
**The grammar of frames.**

What the bytes of a frame have to be, said without a reader: a command line, header lines, a blank
line, a body and a zero byte. A line ends at its first line feed. A header line is text, and its
name ends at its first colon; what its name and its value mean hangs on the command. Of headers that
mean one name the first counts, and the content length says where the body ends, if there is one.

* `IsFrame`, `Spells`: the bytes are those of a frame, or of a heartbeat;
* `FirstFault`: the bytes break a rule, and no line before the place breaks one;
* `IsUnfinished`: neither a frame nor a fault is all there.
-/

import EventFeed.Wire.Decoder

namespace EventFeed.Wire

open EventFeed.Numeral

/-! ### Lines -/

/-- A line as it is written, and its text: the line ends at its first line feed and loses one
carriage return right before it. -/
inductive IsLine : List UInt8 → List UInt8 → Prop
  | short {text : List UInt8} (unbroken : lineFeed ∉ text)
      (noReturn : text.getLast? ≠ some carriageReturn) : IsLine (text ++ [lineFeed]) text
  | long {text : List UInt8} (unbroken : lineFeed ∉ text) :
      IsLine (text ++ [carriageReturn, lineFeed]) text

theorem IsLine.unbroken {line text : List UInt8} (isLine : IsLine line text) : lineFeed ∉ text := by
  cases isLine with
  | short unbroken noReturn => exact unbroken
  | long unbroken => exact unbroken

/-- A line begins with its text. -/
theorem IsLine.exists_end {line text : List UInt8} (isLine : IsLine line text) :
    ∃ ending, line = text ++ ending := by
  cases isLine with
  | short => exact ⟨_, rfl⟩
  | long => exact ⟨_, rfl⟩

/-! ### Header lines -/

/-- What may stand behind a backslash, with the character that both are written for. -/
def escapeLetters : List (Char × Char) :=
  [('\\', '\\'), ('n', '\n'), ('r', '\r'), ('c', ':')]

/-- Escaped characters and what they mean, from the left: a backslash and a letter behind it are one
character, and every other character is itself. -/
inductive Escaped : List Char → List Char → Prop
  | nil : Escaped [] []
  | plain {char : Char} {text meant : List Char} (isPlain : char ≠ '\\')
      (later : Escaped text meant) : Escaped (char :: text) (char :: meant)
  | pair {letter char : Char} {text meant : List Char} (known : (letter, char) ∈ escapeLetters)
      (later : Escaped text meant) : Escaped ('\\' :: letter :: text) (char :: meant)

/-- What the frames of a command mean by a text in a header line. -/
def Means (command : Command) (text meant : String) : Prop :=
  if command.escapes then Escaped text.toList meant.toList else text = meant

/-- Header lines one after the other: their bytes, the names and values that stand in them, and the
headers that these mean. -/
inductive HeaderLines (command : Command) :
    List UInt8 → List (String × String) → List (String × String) → Prop
  | nil : HeaderLines command [] [] []
  | cons {line lines : List UInt8} {name value meantName meantValue : String}
      {written meant : List (String × String)}
      (isLine : IsLine line (Text.toBytes (name ++ ":" ++ value)))
      (firstColon : ':' ∉ name.toList) (means : Means command name meantName)
      (means' : Means command value meantValue) (later : HeaderLines command lines written meant) :
      HeaderLines command (line ++ lines) ((name, value) :: written)
        ((meantName, meantValue) :: meant)

/-- Pairs of which only the first with each name is kept. -/
def firstOfEach (pairs : List (String × String)) : List (String × String) :=
  pairs.eraseDupsBy fun one other => one.1 == other.1

/-! ### Frames -/

/-- Whether a body ends where it should: it is as long as declared, or has no zero byte. -/
def IsBody : Option String → List UInt8 → Prop
  | some declared, body => read? wordBound (Text.trim declared) = some body.length
  | none, body => terminator ∉ body

/-- The lines at the head of a frame: their bytes, the names and values that stand in the header
lines, and the headers that these mean. -/
structure Head where
  commandLine : List UInt8
  headerLines : List UInt8
  blankLine : List UInt8
  written : List (String × String)
  meant : List (String × String)

namespace Head

def bytes (head : Head) : List UInt8 :=
  head.commandLine ++ head.headerLines ++ head.blankLine

/-- Whether the lines are the head of a frame with the command. -/
structure Opens (head : Head) (command : Command) : Prop where
  isWritten : command ∈ Command.written
  commandLine : IsLine head.commandLine (Text.toBytes command.token)
  headerLines : HeaderLines command head.headerLines head.written head.meant
  blankLine : IsLine head.blankLine []

/-- The content length that a head declares. -/
def declared? (head : Head) : Option String :=
  head.meant.lookup Header.contentLength

/-- Whether the lines are the head of the frame: its headers are those that the lines mean, the
first of each name, and its body ends where they say. -/
structure IsOf (head : Head) (frame : Frame) : Prop where
  opens : head.Opens frame.command
  headers : frame.headers.pairs = firstOfEach head.meant
  body : IsBody head.declared? frame.body

end Head

/-- **The grammar of frames**: the lines of the head, the body and a zero byte. -/
def IsFrame (bytes : List UInt8) (frame : Frame) : Prop :=
  ∃ head : Head, head.IsOf frame ∧ bytes = head.bytes ++ frame.body ++ [terminator]

/-- What is taken for a heartbeat: a line end in either form, or a zero byte. -/
inductive IsBeat : List UInt8 → Prop
  | short : IsBeat [lineFeed]
  | long : IsBeat [carriageReturn, lineFeed]
  | stray : IsBeat [terminator]

/-- Whether the bytes are those of the frame, a heartbeat or one with a command line. -/
def Spells (bytes : List UInt8) (frame : Frame) : Prop :=
  frame = .heartbeat ∧ IsBeat bytes ∨ IsFrame bytes frame

/-! ### Broken rules -/

/-- What is wrong with the text of a command line, the first rule first. -/
inductive CommandFault : List UInt8 → Fault → Prop
  | notText {text : List UInt8} (noText : ∀ token, Text.toBytes token ≠ text) :
      CommandFault text .notText
  | empty : CommandFault [] .emptyCommand
  | unknown {token : String} (nonempty : token ≠ "")
      (unknown : ∀ command ∈ Command.written, command.token ≠ token) :
      CommandFault (Text.toBytes token) (.unknownCommand token)

/-- What is wrong with the text of a header line, the first rule first. -/
inductive HeaderFault (command : Command) : List UInt8 → Fault → Prop
  | notText {text : List UInt8} (noText : ∀ line, Text.toBytes line ≠ text) :
      HeaderFault command text .notText
  | missingColon {text : String} (noColon : ':' ∉ text.toList) :
      HeaderFault command (Text.toBytes text) .missingColon
  | undefinedEscape {name value : String} (firstColon : ':' ∉ name.toList)
      (undefined : (∀ meant, ¬ Means command name meant) ∨ ∀ meant, ¬ Means command value meant) :
      HeaderFault command (Text.toBytes (name ++ ":" ++ value)) .undefinedEscape

/-- What is wrong with a declared length, before the bytes behind the blank line. -/
inductive LengthFault (declared : String) (bytes : List UInt8) : Fault → Prop
  | notNumber (noNumber : read? wordBound (Text.trim declared) = none) :
      LengthFault declared bytes (.badLength declared)
  | unterminated {length : Nat} {byte : UInt8}
      (counted : read? wordBound (Text.trim declared) = some length)
      (behind : bytes[length]? = some byte) (noEnd : byte ≠ terminator) :
      LengthFault declared bytes (.unterminatedBody length)

/-- The first rule of the grammar that the bytes break, with complete lines before it. -/
inductive FirstFault : List UInt8 → Fault → Prop
  | command {line text rest : List UInt8} {fault : Fault} (isLine : IsLine line text)
      (wrong : CommandFault text fault) : FirstFault (line ++ rest) fault
  | header {command : Command} {commandLine lines line text rest : List UInt8}
      {written meant : List (String × String)} {fault : Fault}
      (isWritten : command ∈ Command.written)
      (isCommandLine : IsLine commandLine (Text.toBytes command.token))
      (isLines : HeaderLines command lines written meant) (isLine : IsLine line text)
      (nonblank : text ≠ []) (wrong : HeaderFault command text fault) :
      FirstFault (commandLine ++ lines ++ line ++ rest) fault
  | length {command : Command} {head : Head} {declared : String} {rest : List UInt8}
      {fault : Fault} (opens : head.Opens command) (asked : head.declared? = some declared)
      (wrong : LengthFault declared rest fault) : FirstFault (head.bytes ++ rest) fault

/-- Whether the bytes neither begin with a frame nor break a rule in lines that are all there. -/
def IsUnfinished (bytes : List UInt8) : Prop :=
  (∀ frame written rest, IsFrame written frame → bytes ≠ written ++ rest) ∧
    ∀ fault, ¬ FirstFault bytes fault

end EventFeed.Wire
