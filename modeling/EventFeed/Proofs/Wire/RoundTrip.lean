/-
**Frames that are written are read back.**

A frame is representable when its bytes tell it: the body's length is declared, or its end is the
first zero byte, and the headers of a command that does not escape them keep to their lines.
Whatever follows the bytes of such a frame, reading takes exactly the frame; so frames written one
after the other come back one by one, and nothing of what stands behind them is touched.

* `readHeaders_written`: header lines give back the headers in their order;
* `decode_encode_append`: one frame, with any bytes behind it and any limit;
* `frames_come_back`: a row of frames, and the bytes behind them.
-/

import EventFeed.Proofs.Text.Ascii
import EventFeed.Proofs.Wire.Stability

namespace EventFeed.Wire

open EventFeed.Numeral

/-! ### Lines -/

theorem lineFeed_mem_toBytes_iff (text : String) :
    lineFeed ∈ Text.toBytes text ↔ '\n' ∈ text.toList :=
  Text.mem_toBytes_iff (show '\n'.toNat < 128 by decide) text

theorem getLast?_toBytes_return_iff (text : String) :
    (Text.toBytes text).getLast? = some carriageReturn ↔ text.toList.getLast? = some '\r' :=
  Text.getLast?_toBytes_iff (show '\r'.toNat < 128 by decide) text

/-- A list is cut at the first of its members that is the stop. -/
theorem cut_at {α : Type} [DecidableEq α] {stop : α} {front : List α} (before : stop ∉ front)
    (rest : List α) :
    (front ++ stop :: rest).dropWhile (· ≠ stop) = stop :: rest ∧
      (front ++ stop :: rest).takeWhile (· ≠ stop) = front := by
  have others : ∀ member ∈ front, decide (member ≠ stop) = true := by
    intro member found
    rw [decide_eq_true_iff]
    rintro rfl
    exact before found
  constructor
  · rw [List.dropWhile_append_of_pos others, List.dropWhile_cons_of_neg (by simp)]
  · rw [List.takeWhile_append_of_pos others, List.takeWhile_cons_of_neg (by simp),
      List.append_nil]

/-- A line that neither holds its end nor ends with a carriage return is read as it is. -/
theorem splitLine_written {line : List UInt8} (inside : lineFeed ∉ line)
    (noReturn : line.getLast? ≠ some carriageReturn) (rest : List UInt8) :
    splitLine (line ++ lineFeed :: rest) = some (line, rest) := by
  obtain ⟨dropped, taken⟩ := cut_at inside rest
  unfold splitLine
  rw [dropped, taken]
  simp only [stripReturn, if_neg noReturn]

theorem splitLine_blank (rest : List UInt8) : splitLine (lineFeed :: rest) = some ([], rest) :=
  splitLine_written List.not_mem_nil (by simp) rest

/-! ### The command line -/

/-- **The token of a command is read as the command.** -/
theorem readCommand_written {command : Command} (isWritten : command ≠ .heartbeat)
    (rest : List UInt8) :
    readCommand (Text.toBytes command.token ++ lineFeed :: rest) = .done command rest := by
  have inside : lineFeed ∉ Text.toBytes command.token := by
    rw [lineFeed_mem_toBytes_iff]
    cases command <;> decide
  have noReturn : (Text.toBytes command.token).getLast? ≠ some carriageReturn := by
    rw [ne_eq, getLast?_toBytes_return_iff]
    cases command <;> decide
  have nonempty : command.token.isEmpty = false := by
    cases command <;> first | rfl | exact absurd rfl isWritten
  unfold readCommand
  rw [splitLine_written inside noReturn]
  simp only [Text.ofBytes?_toBytes, nonempty, Bool.false_eq_true, if_false,
    Command.ofToken?_token isWritten]

/-- A token begins neither with an end of line nor with a zero byte. -/
theorem toBytes_token {command : Command} (isWritten : command ≠ .heartbeat) :
    ∃ first rest, Text.toBytes command.token = first :: rest ∧ first ≠ lineFeed ∧
      first ≠ terminator ∧ first ≠ carriageReturn := by
  cases command <;>
    first
      | exact absurd rfl isWritten
      | exact ⟨_, _, rfl, by decide, by decide, by decide⟩

/-! ### Header lines -/

/-- Whether the line of a header that is written as it is tells the header: the first colon ends
the name, and the line ends behind the value. -/
def IsTold (name value : String) : Prop :=
  ':' ∉ name.toList ∧ '\n' ∉ name.toList ∧ '\n' ∉ value.toList ∧ value.toList.getLast? ≠ some '\r'

instance (name value : String) : Decidable (IsTold name value) :=
  inferInstanceAs (Decidable (_ ∧ _ ∧ _ ∧ _))

/-- Escaped texts are always told. -/
theorem isTold_escape (name value : String) : IsTold (escape name) (escape value) := by
  refine ⟨?_, ?_, ?_, ?_⟩
  · exact fun found => (escape_no_separator name ':' found).2.2 rfl
  · exact fun found => (escape_no_separator name '\n' found).1 rfl
  · exact fun found => (escape_no_separator value '\n' found).1 rfl
  · exact fun ends => (escape_no_separator value '\r' (List.mem_of_getLast? ends)).2.1 rfl

theorem headerValue?_headerText (command : Command) (text : String) :
    headerValue? command (Frame.headerText command text) = some text := by
  unfold headerValue? Frame.headerText
  split
  · exact unescape_escape text
  · rfl

theorem splitColon_written {name : String} (inside : ':' ∉ name.toList) (value : String) :
    splitColon (name ++ ":" ++ value) = some (name, value) := by
  have chars : (name ++ ":" ++ value).toList = name.toList ++ ':' :: value.toList := by simp
  obtain ⟨dropped, taken⟩ := cut_at inside value.toList
  unfold splitColon
  rw [chars, dropped, taken]
  simp only [String.ofList_toList]

theorem headerLine_eq (command : Command) (name value : String) :
    Frame.headerLine command name value =
      Text.toBytes (Frame.headerText command name ++ ":" ++ Frame.headerText command value) ++
        [lineFeed] := by
  have colonByte : Text.toBytes ":" = [colon] := by decide
  simp [Frame.headerLine, colonByte]

/-- **A header line gives back its header.** -/
theorem readHeader_written {command : Command} {name : String} (value : String)
    (inside : ':' ∉ (Frame.headerText command name).toList) :
    readHeader command
        (Text.toBytes (Frame.headerText command name ++ ":" ++ Frame.headerText command value)) =
      .ok (name, value) := by
  unfold readHeader
  simp only [Text.ofBytes?_toBytes, splitColon_written inside, headerValue?_headerText]

/-- The line of a header that is told ends where it should. -/
theorem splitLine_headerLine {command : Command} {name value : String}
    (told : IsTold (Frame.headerText command name) (Frame.headerText command value))
    (rest : List UInt8) :
    splitLine (Frame.headerLine command name value ++ rest) =
      some (Text.toBytes (Frame.headerText command name ++ ":" ++ Frame.headerText command value),
        rest) := by
  obtain ⟨-, inName, inValue, ends⟩ := told
  rw [headerLine_eq, List.append_assoc, List.singleton_append]
  refine splitLine_written ?_ ?_ rest
  · rw [lineFeed_mem_toBytes_iff]
    simpa [inName] using inValue
  · rw [ne_eq, getLast?_toBytes_return_iff]
    simp only [String.toList_append, List.getLast?_append]
    -- The value decides, unless it is empty; then the colon is last.
    cases last : (Frame.headerText command value).toList.getLast? with
    | none => simp
    | some char =>
      rw [last] at ends
      simpa using ends

theorem toBytes_line_isEmpty (name value : String) :
    (Text.toBytes (name ++ ":" ++ value)).isEmpty = false := by
  have colonByte : Text.toBytes ":" = [colon] := by decide
  simp [colonByte]

/-- **Header lines give back the headers in their order**, up to the empty line. -/
theorem readHeaders_written {command : Command} {pairs : List (String × String)}
    (told : ∀ pair ∈ pairs,
      IsTold (Frame.headerText command pair.1) (Frame.headerText command pair.2))
    (headers : Headers) (rest : List UInt8) :
    readHeaders command headers
        (pairs.flatMap (fun pair => Frame.headerLine command pair.1 pair.2) ++ lineFeed :: rest) =
      .done (pairs.foldl (fun headers pair => headers.insertFirst pair.1 pair.2) headers) rest := by
  induction pairs generalizing headers with
  | nil =>
    rw [List.flatMap_nil, List.nil_append, readHeaders, splitLine_blank]
    rfl
  | cons pair pairs step =>
    obtain ⟨name, value⟩ := pair
    have first := told (name, value) List.mem_cons_self
    rw [List.flatMap_cons, List.append_assoc, readHeaders, splitLine_headerLine first]
    simp only [toBytes_line_isEmpty, readHeader_written value first.1, Bool.false_eq_true, if_false]
    exact step (fun pair member => told pair (List.mem_cons_of_mem _ member)) _

/-! ### The headers as a whole -/

theorem putPair_of_new {name : String} (value : String) {pairs : List (String × String)}
    (new : name ∉ pairs.map Prod.fst) : putPair name value pairs = pairs ++ [(name, value)] := by
  induction pairs with
  | nil => rfl
  | cons pair pairs step =>
    rw [List.map_cons, List.mem_cons, not_or] at new
    rw [putPair, if_neg (Ne.symm new.1), step new.2, List.cons_append]

/-- Pairs with new names come behind the headers that are there. -/
theorem pairs_foldl_insertFirst {pairs : List (String × String)} {headers : Headers}
    (distinct : ((headers.pairs ++ pairs).map Prod.fst).Nodup) :
    (pairs.foldl (fun headers pair => headers.insertFirst pair.1 pair.2) headers).pairs =
      headers.pairs ++ pairs := by
  induction pairs generalizing headers with
  | nil => rw [List.foldl_nil, List.append_nil]
  | cons pair pairs step =>
    obtain ⟨name, value⟩ := pair
    have new : name ∉ headers.names := by
      rw [List.map_append, List.map_cons, List.nodup_append] at distinct
      exact fun found => distinct.2.2 name found name List.mem_cons_self rfl
    have added : (headers.insertFirst name value).pairs = headers.pairs ++ [(name, value)] := by
      rw [Headers.insertFirst_eq, if_neg (fun found => new (Headers.contains_iff.mp found))]
      exact putPair_of_new value new
    rw [List.foldl_cons, step (by rwa [added, List.append_assoc, List.singleton_append]), added,
      List.append_assoc, List.singleton_append]

/-- **Headers are what their pairs make.** -/
theorem ofPairs_pairs (headers : Headers) : Headers.ofPairs headers.pairs = headers := by
  have same : (Headers.ofPairs headers.pairs).pairs = headers.pairs :=
    pairs_foldl_insertFirst (show ((Headers.empty.pairs ++ headers.pairs).map _).Nodup from
      headers.distinct)
  rcases headers with ⟨pairs, distinct⟩
  rcases found : Headers.ofPairs pairs with ⟨read, distinct'⟩
  rw [found] at same
  subst same
  rfl

/-! ### The body -/

namespace Frame

/-- Whether the bytes tell where the body ends: its length is declared, or it has no zero byte. -/
def IsMeasured (frame : Frame) : Prop :=
  (∀ declared ∈ frame.header? Header.contentLength,
    read? wordBound (Text.trim declared) = some frame.body.length) ∧
  (frame.header? Header.contentLength = none → terminator ∉ frame.body)

instance (frame : Frame) : Decidable frame.IsMeasured :=
  inferInstanceAs (Decidable (_ ∧ _))

/-- Whether the bytes of a frame tell the frame. -/
def IsRepresentable (frame : Frame) : Prop :=
  frame = .heartbeat ∨
    frame.command ≠ .heartbeat ∧ frame.IsMeasured ∧
      (frame.command.escapes = false → ∀ pair ∈ frame.headers.pairs, IsTold pair.1 pair.2)

instance (frame : Frame) : Decidable frame.IsRepresentable :=
  inferInstanceAs (Decidable (_ ∨ _ ∧ _ ∧ _))

end Frame

/-- **The body is as long as declared, or ends before the first zero byte.** -/
theorem readBody_written {frame : Frame} (measured : frame.IsMeasured) (rest : List UInt8) :
    readBody frame.headers (frame.body ++ terminator :: rest) = .done frame.body rest := by
  obtain ⟨counted, ends⟩ := measured
  unfold readBody
  unfold Frame.header? at counted ends
  cases declared : frame.headers.get? Header.contentLength with
  | none =>
    obtain ⟨dropped, taken⟩ := cut_at (ends declared) rest
    dsimp only
    rw [dropped, taken]
  | some text =>
    dsimp only
    rw [counted text declared]
    dsimp only
    rw [List.drop_left, List.take_left]
    rfl

/-! ### Frames -/

/-- The bytes of a frame with a command line, part by part. -/
theorem encode_append {frame : Frame} (isWritten : frame.command ≠ .heartbeat)
    (rest : List UInt8) :
    frame.encode ++ rest =
      Text.toBytes frame.command.token ++ lineFeed ::
        (frame.headers.pairs.flatMap
            (fun pair => Frame.headerLine frame.command pair.1 pair.2) ++
          lineFeed :: (frame.body ++ terminator :: rest)) := by
  simp [Frame.encode, Frame.isHeartbeat, isWritten]

theorem readFrame_encode {frame : Frame} (isWritten : frame.command ≠ .heartbeat)
    (measured : frame.IsMeasured)
    (told : frame.command.escapes = false → ∀ pair ∈ frame.headers.pairs, IsTold pair.1 pair.2)
    (rest : List UInt8) : readFrame (frame.encode ++ rest) = .done frame rest := by
  have lines : ∀ pair ∈ frame.headers.pairs, IsTold (Frame.headerText frame.command pair.1)
      (Frame.headerText frame.command pair.2) := by
    intro pair member
    cases escapes : frame.command.escapes with
    | true => simpa [Frame.headerText, escapes] using isTold_escape pair.1 pair.2
    | false => simpa [Frame.headerText, escapes] using told escapes pair member
  have headers := readHeaders_written lines .empty (frame.body ++ terminator :: rest)
  have same := ofPairs_pairs frame.headers
  unfold Headers.ofPairs at same
  rw [same] at headers
  rw [encode_append isWritten, readFrame, readCommand_written isWritten]
  simp only [Reading.andThen, headers, readBody_written measured]

/-- **The bytes of a representable frame are read as the frame**, whatever comes behind them. -/
theorem decodeUnbounded_encode_append {frame : Frame} (told : frame.IsRepresentable)
    (rest : List UInt8) : decodeUnbounded (frame.encode ++ rest) = .done frame rest := by
  rcases told with rfl | ⟨isWritten, measured, plain⟩
  · rfl
  · have read := readFrame_encode isWritten measured plain rest
    obtain ⟨first, tail, token, noFeed, noEnd, noReturn⟩ := toBytes_token isWritten
    have bytes : ∃ later, frame.encode ++ rest = first :: later := by
      simp [Frame.encode, Frame.isHeartbeat, isWritten, token]
    obtain ⟨later, bytes⟩ := bytes
    rw [bytes] at read ⊢
    simp only [decodeUnbounded, noFeed, noEnd, noReturn, or_self, if_false]
    exact read

/-- The same with any limit: a limit matters only to frames that are not all there. -/
theorem decode_encode_append {frame : Frame} (told : frame.IsRepresentable) (limit : Nat)
    (rest : List UInt8) : decode limit (frame.encode ++ rest) = .done frame rest := by
  unfold decode
  rw [decodeUnbounded_encode_append told]

namespace Decoder

/-- The next frames, as many as asked for, if they are all there. -/
def take? : Nat → Decoder → Option (List Frame × Decoder)
  | 0, decoder => some ([], decoder)
  | count + 1, decoder =>
    match decoder.next with
    | (.ok (some frame), after) =>
      (take? count after).map fun (frames, last) => (frame :: frames, last)
    | _ => none

theorem next_encode_append {frame : Frame} (told : frame.IsRepresentable) (limit : Nat)
    (rest : List UInt8) :
    next ⟨frame.encode ++ rest, limit⟩ = (.ok (some frame), ⟨rest, limit⟩) := by
  unfold next
  dsimp only
  rw [decode_encode_append told]

/-- Frames written one after the other come back one by one. -/
theorem take?_encoded {frames : List Frame} (told : ∀ frame ∈ frames, frame.IsRepresentable)
    (limit : Nat) (trailing : List UInt8) :
    take? frames.length ⟨frames.flatMap Frame.encode ++ trailing, limit⟩ =
      some (frames, ⟨trailing, limit⟩) := by
  induction frames with
  | nil => rfl
  | cons frame frames step =>
    have first := told frame List.mem_cons_self
    have later := step fun frame member => told frame (List.mem_cons_of_mem _ member)
    rw [List.flatMap_cons, List.append_assoc, List.length_cons, take?, next_encode_append first]
    dsimp only
    rw [later]
    rfl

theorem drain_of_frame {decoder after : Decoder} {frame : Frame}
    (found : decoder.next = (.ok (some frame), after)) :
    decoder.drain = (frame :: after.drain.1, after.drain.2) := by
  rw [drain]
  split
  · rename_i same
    cases found.symm.trans same
    rfl
  · rename_i same
    cases found.symm.trans same
  · rename_i same
    cases found.symm.trans same

theorem drain_of_nothing {decoder after : Decoder} (found : decoder.next = (.ok none, after)) :
    decoder.drain = ([], none, after) := by
  rw [drain]
  split
  · rename_i same
    cases found.symm.trans same
  · rename_i same
    cases found.symm.trans same
    rfl
  · rename_i same
    cases found.symm.trans same

theorem drain_of_error {decoder after : Decoder} {error : DecodeError}
    (found : decoder.next = (.error error, after)) : decoder.drain = ([], some error, after) := by
  rw [drain]
  split
  · rename_i same
    cases found.symm.trans same
  · rename_i same
    cases found.symm.trans same
  · rename_i same
    cases found.symm.trans same
    rfl

theorem drain_empty (limit : Nat) : drain ⟨[], limit⟩ = ([], none, ⟨[], limit⟩) :=
  drain_of_nothing rfl

/-- A decoder that is looked through finds them before all that comes behind. -/
theorem drain_encoded {frames : List Frame} (told : ∀ frame ∈ frames, frame.IsRepresentable)
    (limit : Nat) (trailing : List UInt8) :
    drain ⟨frames.flatMap Frame.encode ++ trailing, limit⟩ =
      (frames ++ (drain ⟨trailing, limit⟩).1, (drain ⟨trailing, limit⟩).2) := by
  induction frames with
  | nil => rfl
  | cons frame frames step =>
    have first := next_encode_append (told frame List.mem_cons_self) limit
      (frames.flatMap Frame.encode ++ trailing)
    have later := step fun frame member => told frame (List.mem_cons_of_mem _ member)
    rw [List.flatMap_cons, List.append_assoc, drain_of_frame first, later, List.cons_append]

/-- **Frames written one after the other come back in their order**, with their commands, headers
and bodies, and exactly what stands behind them is left; so a decoder that is looked through finds
them, and then what it finds in the rest. -/
theorem frames_come_back {frames : List Frame} (told : ∀ frame ∈ frames, frame.IsRepresentable)
    (limit : Nat) (trailing : List UInt8) :
    take? frames.length ⟨frames.flatMap Frame.encode ++ trailing, limit⟩ =
        some (frames, ⟨trailing, limit⟩) ∧
      drain ⟨frames.flatMap Frame.encode ++ trailing, limit⟩ =
        (frames ++ (drain ⟨trailing, limit⟩).1, (drain ⟨trailing, limit⟩).2) :=
  ⟨take?_encoded told limit trailing, drain_encoded told limit trailing⟩

/-- Frames with separators in names, values and bodies, and blanks around a length. -/
def awkwardFrames : List Frame :=
  [{ Frame.ofCommand .send with body := [0x00, 0x0A, 0xFF] }
      |>.withHeader ":\\\n\r" "" |>.withHeader "" "a\r" |>.withHeader "content-length" " +3\t",
    .heartbeat, (Frame.ofCommand .connected).withHeader "\r\\c" "é:\\n\r ", .heartbeat]

/-- They come back in front of a frame that is not all there, whatever the limit. -/
theorem awkwardFrames_come_back :
    (∀ frame ∈ awkwardFrames, frame.IsRepresentable) ∧
      take? awkwardFrames.length
          ⟨awkwardFrames.flatMap Frame.encode ++ Text.toBytes "MESSAGE\r", 0⟩ =
        some (awkwardFrames, ⟨Text.toBytes "MESSAGE\r", 0⟩) :=
  ⟨by decide +kernel, (frames_come_back (by decide +kernel) 0 (Text.toBytes "MESSAGE\r")).1⟩

end Decoder

end EventFeed.Wire
