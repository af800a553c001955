/-
**Decoding frames from a stream.**

The bytes of a stream come in pieces that have nothing to do with frames. `decode` takes the frame
that the bytes begin with; as long as the frame is not all there it asks for more and takes nothing,
and a fault takes nothing either. A line ends at its line feed and loses one carriage return before
it. The body is as long as the first content length says, or ends before the first zero byte.

* `decode_rest_lt`: a frame takes at least one byte, so a finite stream has finitely many frames;
* `next_fault`: a fault leaves the decoder as it was.
-/

import EventFeed.Wire.Frame

namespace EventFeed.Wire

open EventFeed.Numeral

/-- What is wrong with the bytes of a frame. -/
inductive Fault where
  | emptyCommand
  | unknownCommand (token : String)
  | missingColon
  | undefinedEscape
  | notText
  | badLength (declared : String)
  | unterminatedBody (declared : Nat)
  | tooLarge (limit : Nat)
  deriving DecidableEq, Repr

namespace Fault

def message : Fault → String
  | .emptyCommand => "empty command line"
  | .unknownCommand token => "unrecognized command " ++ Text.quote token
  | .missingColon => "header line without ':' separator"
  | .undefinedEscape => "undefined escape sequence in header"
  | .notText => "frame is not valid UTF-8 before the body"
  | .badLength declared => "invalid content-length " ++ Text.quote declared
  | .unterminatedBody declared =>
    "declared content-length " ++ decimal declared ++ " not followed by NUL terminator"
  | .tooLarge limit => "frame exceeds " ++ decimal limit ++ " bytes without a terminator"

end Fault

/-- The number of bytes that an error shows. -/
def shownBytes : Nat := 1024

/-- A fault with the first of the bytes in which it was found. -/
structure DecodeError where
  fault : Fault
  shown : List UInt8
  deriving DecidableEq, Repr

namespace DecodeError

def message (error : DecodeError) : String :=
  "protocol decode error: " ++ error.fault.message ++ " (raw: " ++
    Text.quote (Text.lossy error.shown) ++ ")"

end DecodeError

/-- What reading from the front of the bytes gives: a value and what follows it, a wish for more
bytes, or a fault. -/
inductive Reading (α : Type) where
  | done (value : α) (rest : List UInt8)
  | more
  | failed (fault : Fault)
  deriving DecidableEq

namespace Reading

def andThen {α β : Type} (reading : Reading α) (next : α → List UInt8 → Reading β) : Reading β :=
  match reading with
  | .done value rest => next value rest
  | .more => .more
  | .failed fault => .failed fault

end Reading

def stripReturn (line : List UInt8) : List UInt8 :=
  if line.getLast? = some carriageReturn then line.dropLast else line

/-- The first line and what follows it, if the line has its end. -/
def splitLine (bytes : List UInt8) : Option (List UInt8 × List UInt8) :=
  match bytes.dropWhile (· ≠ lineFeed) with
  | [] => none
  | _ :: rest => some (stripReturn (bytes.takeWhile (· ≠ lineFeed)), rest)

theorem splitLine_rest_lt {bytes line rest : List UInt8}
    (found : splitLine bytes = some (line, rest)) : rest.length < bytes.length := by
  have parts := (List.dropWhile_suffix (l := bytes) (· ≠ lineFeed)).length_le
  unfold splitLine at found
  split at found
  · cases found
  · rename_i cut
    cases found
    rw [cut] at parts
    exact parts

def readCommand (bytes : List UInt8) : Reading Command :=
  match splitLine bytes with
  | none => .more
  | some (line, rest) =>
    match Text.ofBytes? line with
    | none => .failed .notText
    | some token =>
      if token.isEmpty then .failed .emptyCommand
      else match Command.ofToken? token with
      | none => .failed (.unknownCommand token)
      | some command => .done command rest

/-- A name or a value as it was before the command's frames wrote it. -/
def headerValue? (command : Command) (text : String) : Option String :=
  if command.escapes then unescape text else some text

/-- The name and the value on either side of the first colon. -/
def splitColon (text : String) : Option (String × String) :=
  match text.toList.dropWhile (· ≠ ':') with
  | [] => none
  | _ :: value => some (String.ofList (text.toList.takeWhile (· ≠ ':')), String.ofList value)

def readHeader (command : Command) (line : List UInt8) : Except Fault (String × String) :=
  match Text.ofBytes? line with
  | none => .error .notText
  | some text =>
    match splitColon text with
    | none => .error .missingColon
    | some (name, value) =>
      match headerValue? command name, headerValue? command value with
      | some name, some value => .ok (name, value)
      | _, _ => .error .undefinedEscape

/-- The header lines up to the empty line, added to the headers before them. Of headers with one
name the first counts. -/
def readHeaders (command : Command) (headers : Headers) (bytes : List UInt8) : Reading Headers :=
  match _found : splitLine bytes with
  | none => .more
  | some (line, rest) =>
    if line.isEmpty then .done headers rest
    else match readHeader command line with
    | .error fault => .failed fault
    | .ok (name, value) => readHeaders command (headers.insertFirst name value) rest
  termination_by bytes.length
  decreasing_by exact splitLine_rest_lt _found

/-- The body and its end: as long as declared and followed by the terminator, or up to the first
one. -/
def readBody (headers : Headers) (bytes : List UInt8) : Reading (List UInt8) :=
  match headers.get? Header.contentLength with
  | none =>
    match bytes.dropWhile (· ≠ terminator) with
    | [] => .more
    | _ :: rest => .done (bytes.takeWhile (· ≠ terminator)) rest
  | some declared =>
    match read? wordBound (Text.trim declared) with
    | none => .failed (.badLength declared)
    | some length =>
      match bytes.drop length with
      | [] => .more
      | byte :: rest =>
        if byte = terminator then .done (bytes.take length) rest
        else .failed (.unterminatedBody length)

/-- The frame with a command line that the bytes begin with. -/
def readFrame (bytes : List UInt8) : Reading Frame :=
  (readCommand bytes).andThen fun command rest =>
    (readHeaders command .empty rest).andThen fun headers rest =>
      (readBody headers rest).andThen fun body rest => .done ⟨command, headers, body⟩ rest

/-- The frame that the bytes begin with, whatever their number. A line end between frames is a
heartbeat, and so is a single zero byte. -/
def decodeUnbounded : List UInt8 → Reading Frame
  | [] => .more
  | byte :: rest =>
    if byte = lineFeed ∨ byte = terminator then .done .heartbeat rest
    else if byte = carriageReturn then
      match rest with
      | [] => .more
      | next :: rest => if next = lineFeed then .done .heartbeat rest else .failed .emptyCommand
    else readFrame (byte :: rest)

/-- The frame that the bytes begin with; more bytes than the limit without one are a fault. -/
def decode (limit : Nat) (bytes : List UInt8) : Reading Frame :=
  match decodeUnbounded bytes with
  | .more =>
    -- Nothing and a lone carriage return may always be the start of a heartbeat.
    if bytes = [] ∨ bytes = [carriageReturn] then .more
    else if limit < bytes.length then .failed (.tooLarge limit)
    else .more
  | reading => reading

/-- A decoder: the bytes that have come and are in no frame yet, and the limit on their number. -/
structure Decoder where
  buffer : List UInt8
  limit : Nat
  deriving DecidableEq, Repr

namespace Decoder

def fresh (limit : Nat) : Decoder where
  buffer := []
  limit := limit

def feed (decoder : Decoder) (bytes : List UInt8) : Decoder :=
  { decoder with buffer := decoder.buffer ++ bytes }

/-- The next frame, if it is all there. A fault changes nothing, so it is found again and again. -/
def next (decoder : Decoder) : Except DecodeError (Option Frame) × Decoder :=
  match decode decoder.limit decoder.buffer with
  | .done frame rest => (.ok (some frame), { decoder with buffer := rest })
  | .more => (.ok none, decoder)
  | .failed fault => (.error ⟨fault, decoder.buffer.take shownBytes⟩, decoder)

end Decoder

/-! ### What is left is no longer than what was there -/

theorem readCommand_rest_lt {bytes rest : List UInt8} {command : Command}
    (found : readCommand bytes = .done command rest) : rest.length < bytes.length := by
  unfold readCommand at found
  split at found
  · cases found
  · rename_i line tail cut
    have shorter := splitLine_rest_lt cut
    split at found
    · cases found
    · split at found
      · cases found
      · split at found
        · cases found
        · cases found
          exact shorter

theorem readHeaders_rest_lt {command : Command} {headers read : Headers} {bytes rest : List UInt8}
    (found : readHeaders command headers bytes = .done read rest) : rest.length < bytes.length := by
  fun_induction readHeaders command headers bytes with
  | case1 => cases found
  | case2 headers bytes line tail cut empty =>
    cases found
    exact splitLine_rest_lt cut
  | case3 => cases found
  | case4 headers bytes line tail cut notEmpty name value header step =>
    have := step found
    have := splitLine_rest_lt cut
    omega

theorem readBody_rest_lt {headers : Headers} {bytes body rest : List UInt8}
    (found : readBody headers bytes = .done body rest) : rest.length < bytes.length := by
  unfold readBody at found
  split at found
  · have parts := (List.dropWhile_suffix (l := bytes) (· ≠ terminator)).length_le
    split at found
    · cases found
    · rename_i cut
      cases found
      rw [cut] at parts
      exact parts
  · split at found
    · cases found
    · rename_i length _
      have parts := List.length_drop (i := length) (l := bytes)
      split at found
      · cases found
      · rename_i cut
        split at found
        · cases found
          rw [cut] at parts
          simp only [List.length_cons] at parts
          omega
        · cases found

theorem readFrame_rest_lt {bytes rest : List UInt8} {frame : Frame}
    (found : readFrame bytes = .done frame rest) : rest.length < bytes.length := by
  unfold readFrame at found
  cases first : readCommand bytes with
  | more => simp [first, Reading.andThen] at found
  | failed fault => simp [first, Reading.andThen] at found
  | done command afterCommand =>
    have := readCommand_rest_lt first
    cases second : readHeaders command .empty afterCommand with
    | more => simp [first, second, Reading.andThen] at found
    | failed fault => simp [first, second, Reading.andThen] at found
    | done headers afterHeaders =>
      have := readHeaders_rest_lt second
      cases third : readBody headers afterHeaders with
      | more => simp [first, second, third, Reading.andThen] at found
      | failed fault => simp [first, second, third, Reading.andThen] at found
      | done body afterBody =>
        have := readBody_rest_lt third
        simp only [first, second, third, Reading.andThen, Reading.done.injEq] at found
        obtain ⟨-, rfl⟩ := found
        omega

theorem decodeUnbounded_rest_lt {bytes rest : List UInt8} {frame : Frame}
    (found : decodeUnbounded bytes = .done frame rest) : rest.length < bytes.length := by
  unfold decodeUnbounded at found
  split at found
  · cases found
  · split at found
    · cases found
      simp
    · split at found
      · split at found
        · cases found
        · split at found
          · cases found
            simp only [List.length_cons]
            omega
          · cases found
      · exact readFrame_rest_lt found

theorem decode_rest_lt {limit : Nat} {bytes rest : List UInt8} {frame : Frame}
    (found : decode limit bytes = .done frame rest) : rest.length < bytes.length := by
  unfold decode at found
  split at found
  · split at found
    · cases found
    · split at found <;> cases found
  · exact decodeUnbounded_rest_lt found

namespace Decoder

/-- A frame leaves the decoder with fewer bytes. -/
theorem next_buffer_lt {decoder after : Decoder} {frame : Frame}
    (found : decoder.next = (.ok (some frame), after)) :
    after.buffer.length < decoder.buffer.length := by
  unfold next at found
  split at found
  · rename_i decoded
    cases found
    exact decode_rest_lt decoded
  · cases found
  · cases found

theorem next_fault {decoder after : Decoder} {error : DecodeError}
    (found : decoder.next = (.error error, after)) : after = decoder := by
  unfold next at found
  split at found <;> cases found
  rfl

/-- All frames that are there, the fault that ends them if there is one, and the decoder after
them. -/
def drain (decoder : Decoder) : List Frame × Option DecodeError × Decoder :=
  match _found : decoder.next with
  | (.ok (some frame), after) =>
    let (frames, error, last) := drain after
    (frame :: frames, error, last)
  | (.ok none, after) => ([], none, after)
  | (.error error, after) => ([], some error, after)
  termination_by decoder.buffer.length
  decreasing_by exact next_buffer_lt _found

/-- The frames of pieces that come one after the other, each looked through before the next; a fault
leaves the later pieces unfed. -/
def run (decoder : Decoder) : List (List UInt8) → List Frame × Option DecodeError × Decoder
  | [] => ([], none, decoder)
  | piece :: pieces =>
    match (decoder.feed piece).drain with
    | (frames, some error, after) => (frames, some error, after)
    | (frames, none, after) =>
      let (later, error, last) := after.run pieces
      (frames ++ later, error, last)

end Decoder

end EventFeed.Wire
