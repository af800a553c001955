/-
**Headers that are written as they are.**

The commands that open a session do not escape their headers, so the lines of their headers have to
keep themselves together. A line feed breaks the line that it stands in, and a carriage return at
the end of a value is taken for a part of the line's end; nothing else in a value does any harm.

* `readHeaders_verbatim`: lines that no line feed breaks give back the headers in their order, each
  value without a carriage return at its end;
* `no_lineFeed_of_readHeaders`: no value that is read has a line feed;
* `drain_encode_iff`: so the bytes of such a frame are read as the frame exactly if every header is
  told.
-/

import EventFeed.Proofs.Wire.RoundTrip

namespace EventFeed.Wire

open EventFeed.Numeral

/-! ### What the end of a line takes -/

/-- The text without a carriage return at its end. -/
def dropReturn (text : String) : String :=
  if text.toList.getLast? = some '\r' then String.ofList text.toList.dropLast else text

theorem dropReturn_eq_self_iff (text : String) :
    dropReturn text = text ↔ text.toList.getLast? ≠ some '\r' := by
  unfold dropReturn
  split
  · rename_i ends
    refine iff_of_false (fun same => ?_) (fun other => other ends)
    have shorter := congrArg (fun other => other.toList.length) same
    have nonempty := List.length_pos_of_mem (List.mem_of_getLast? ends)
    simp only [String.toList_ofList, List.length_dropLast] at shorter
    omega
  · rename_i other
    exact iff_of_true rfl other

/-- Only the value of a header line can lose its end. -/
theorem dropReturn_line (name value : String) :
    dropReturn (name ++ ":" ++ value) = name ++ ":" ++ dropReturn value := by
  have chars : (name ++ ":" ++ value).toList = name.toList ++ ':' :: value.toList := by simp
  unfold dropReturn
  rw [chars, List.getLast?_append, List.getLast?_cons]
  rcases List.eq_nil_or_concat value.toList with empty | ⟨front, last, parts⟩
  · simp [empty]
  · simp only [parts, List.concat_eq_append, List.getLast?_concat, Option.getD_some,
      Option.some_or, Option.some.injEq]
    split
    · rw [← List.cons_append, ← List.append_assoc, List.dropLast_concat, List.dropLast_concat]
      exact String.toList_inj.mp (by simp)
    · rfl

theorem stripReturn_toBytes (text : String) :
    stripReturn (Text.toBytes text) = Text.toBytes (dropReturn text) := by
  unfold stripReturn dropReturn
  simp only [getLast?_toBytes_return_iff]
  split
  · rename_i ends
    obtain ⟨front, parts⟩ := List.getLast?_eq_some_iff.mp ends
    have whole : text = String.ofList front ++ "\r" := String.toList_inj.mp (by simp [parts])
    have returnByte : Text.toBytes "\r" = [carriageReturn] := by decide
    rw [whole, Text.toBytes_append, returnByte, List.dropLast_concat]
    simp
  · rfl

/-- A text in which no line feed stands is one line, which loses a carriage return at its end. -/
theorem splitLine_verbatim {text : String} (inside : '\n' ∉ text.toList) (rest : List UInt8) :
    splitLine (Text.toBytes text ++ lineFeed :: rest) =
      some (Text.toBytes (dropReturn text), rest) := by
  obtain ⟨dropped, taken⟩ := cut_at (mt (lineFeed_mem_toBytes_iff text).mp inside) rest
  unfold splitLine
  rw [dropped, taken]
  simp only [stripReturn_toBytes]

/-! ### Header lines -/

section

variable {command : Command} (plain : command.escapes = false)
include plain

theorem headerText_of_plain (text : String) : Frame.headerText command text = text := by
  simp [Frame.headerText, plain]

/-- **Lines that no line feed breaks give back the headers in their order**, each value without a
carriage return at its end. -/
theorem readHeaders_verbatim {pairs : List (String × String)}
    (named : ∀ pair ∈ pairs, ':' ∉ pair.1.toList ∧ '\n' ∉ pair.1.toList)
    (unbroken : ∀ pair ∈ pairs, '\n' ∉ pair.2.toList) (headers : Headers) (rest : List UInt8) :
    readHeaders command headers
        (pairs.flatMap (fun pair => Frame.headerLine command pair.1 pair.2) ++ lineFeed :: rest) =
      .done ((pairs.map fun pair => (pair.1, dropReturn pair.2)).foldl
        (fun headers pair => headers.insertFirst pair.1 pair.2) headers) rest := by
  induction pairs generalizing headers with
  | nil =>
    rw [List.flatMap_nil, List.nil_append, readHeaders, splitLine_blank]
    rfl
  | cons pair pairs step =>
    obtain ⟨name, value⟩ := pair
    obtain ⟨noColon, noFeed⟩ := named (name, value) List.mem_cons_self
    have inside : '\n' ∉ (name ++ ":" ++ value).toList := by
      simpa [noFeed] using unbroken (name, value) List.mem_cons_self
    have line := headerLine_eq command name value
    have clear : ':' ∉ (Frame.headerText command name).toList := by
      rwa [headerText_of_plain plain]
    have read := readHeader_written (dropReturn value) clear
    simp only [headerText_of_plain plain] at line read
    rw [List.flatMap_cons, line, List.append_assoc, List.append_assoc, List.singleton_append,
      readHeaders, splitLine_verbatim inside, dropReturn_line]
    simp only [toBytes_line_isEmpty, read, Bool.false_eq_true, if_false]
    exact step (fun pair member => named pair (List.mem_cons_of_mem _ member))
      (fun pair member => unbroken pair (List.mem_cons_of_mem _ member)) _

end

theorem lineFeed_not_mem_of_splitLine {bytes line rest : List UInt8}
    (found : splitLine bytes = some (line, rest)) : lineFeed ∉ line := by
  have inside : lineFeed ∉ bytes.takeWhile (· ≠ lineFeed) := by
    intro member
    simpa using List.all_eq_true.mp List.all_takeWhile lineFeed member
  unfold splitLine at found
  split at found
  · cases found
  · cases found
    unfold stripReturn
    split
    · exact fun member => inside (List.dropLast_subset _ member)
    · exact inside

/-- The value of a header stands in the header's line. -/
theorem no_lineFeed_of_readHeader {command : Command} (plain : command.escapes = false)
    {line : List UInt8} (inside : lineFeed ∉ line) {name value : String}
    (read : readHeader command line = .ok (name, value)) : '\n' ∉ value.toList := by
  have asWritten : ∀ text, headerValue? command text = some text := by
    intro text
    simp [headerValue?, plain]
  unfold readHeader at read
  split at read
  · cases read
  · rename_i text isText
    unfold splitColon at read
    split at read
    · cases read
    · rename_i cut
      split at cut
      · cases cut
      · rename_i parts
        cases cut
        simp only [asWritten, Except.ok.injEq, Prod.mk.injEq] at read
        obtain ⟨-, rfl⟩ := read
        have whole := List.dropWhile_suffix (l := text.toList) (· ≠ ':')
        rw [← Text.toBytes_of_ofBytes? isText, lineFeed_mem_toBytes_iff] at inside
        intro member
        rw [String.toList_ofList] at member
        exact inside (whole.subset (parts ▸ List.mem_cons_of_mem _ member))

theorem mem_pairs_insertFirst {headers : Headers} {name value : String} {pair : String × String}
    (member : pair ∈ (headers.insertFirst name value).pairs) :
    pair ∈ headers.pairs ∨ pair = (name, value) := by
  rw [Headers.insertFirst_eq] at member
  split at member
  · exact .inl member
  · rename_i absent
    have new : name ∉ headers.names := fun found => absent (Headers.contains_iff.mpr found)
    have added : (headers.insert name value).pairs = headers.pairs ++ [(name, value)] :=
      putPair_of_new value new
    simpa [added] using member

/-- **No value that is read has a line feed**, if the command's frames do not escape it. -/
theorem no_lineFeed_of_readHeaders {command : Command} (plain : command.escapes = false)
    {headers read : Headers} {bytes rest : List UInt8}
    (found : readHeaders command headers bytes = .done read rest)
    (before : ∀ pair ∈ headers.pairs, '\n' ∉ pair.2.toList) :
    ∀ pair ∈ read.pairs, '\n' ∉ pair.2.toList := by
  fun_induction readHeaders command headers bytes with
  | case1 => cases found
  | case2 =>
    cases found
    exact before
  | case3 => cases found
  | case4 headers bytes line tail cut notEmpty name value header step =>
    refine step found fun pair member => ?_
    rcases mem_pairs_insertFirst member with held | rfl
    · exact before pair held
    · exact no_lineFeed_of_readHeader plain (lineFeed_not_mem_of_splitLine cut) header

/-! ### Frames -/

/-- A frame that is read has the headers that its lines give. -/
theorem readHeaders_of_decode {limit : Nat} {frame : Frame} {bytes rest : List UInt8}
    (isWritten : frame.command ≠ .heartbeat)
    (read : decode limit (Text.toBytes frame.command.token ++ lineFeed :: bytes) =
      .done frame rest) :
    ∃ body, readHeaders frame.command .empty bytes = .done frame.headers body := by
  obtain ⟨first, tail, token, noFeed, noEnd, noReturn⟩ := toBytes_token isWritten
  have unbounded : decodeUnbounded (Text.toBytes frame.command.token ++ lineFeed :: bytes) =
      .done frame rest := by
    unfold decode at read
    split at read
    · split at read
      · cases read
      · split at read <;> cases read
    · exact read
  have whole : readFrame (Text.toBytes frame.command.token ++ lineFeed :: bytes) =
      .done frame rest := by
    rw [token, List.cons_append] at unbounded ⊢
    simpa only [decodeUnbounded, noFeed, noEnd, noReturn, or_self, if_false] using unbounded
  rw [readFrame, readCommand_written isWritten] at whole
  simp only [Reading.andThen] at whole
  cases headers : readHeaders frame.command .empty bytes with
  | more => simp [headers] at whole
  | failed fault => simp [headers] at whole
  | done read body =>
    simp only [headers] at whole
    split at whole
    · rw [← (Reading.done.inj whole).1]
      exact ⟨body, rfl⟩
    · cases whole
    · cases whole

section

variable {frame : Frame} (isWritten : frame.command ≠ .heartbeat)
  (plain : frame.command.escapes = false)
  (named : ∀ pair ∈ frame.headers.pairs, ':' ∉ pair.1.toList ∧ '\n' ∉ pair.1.toList)
include isWritten plain named

/-- The headers of a frame that is read from its own bytes are told. -/
theorem isTold_of_decode_encode {limit : Nat} {rest left : List UInt8}
    (read : decode limit (frame.encode ++ rest) = .done frame left) :
    ∀ pair ∈ frame.headers.pairs, IsTold pair.1 pair.2 := by
  rw [encode_append isWritten] at read
  obtain ⟨body, headers⟩ := readHeaders_of_decode isWritten read
  have unbroken := no_lineFeed_of_readHeaders plain headers (by simp [Headers.empty])
  rw [readHeaders_verbatim plain named unbroken] at headers
  -- What is read are the values without their returns, and they are the values.
  have kept : frame.headers.pairs =
      frame.headers.pairs.map fun pair => (pair.1, dropReturn pair.2) := by
    have read := congrArg Headers.pairs (Reading.done.inj headers).1
    rw [pairs_foldl_insertFirst (by
      simpa [Headers.empty, Function.comp_def] using frame.headers.distinct)] at read
    exact read.symm
  intro pair member
  have same : pair = (pair.1, dropReturn pair.2) :=
    List.map_inj_left.mp ((List.map_id _).trans kept) pair member
  exact ⟨(named pair member).1, (named pair member).2, unbroken pair member,
    (dropReturn_eq_self_iff pair.2).mp (congrArg Prod.snd same).symm⟩

/-- **The bytes of a frame that is written as it is are read as the frame and nothing else exactly
if every header is told**: no line feed breaks a line, and no value ends with a carriage return. -/
theorem drain_encode_iff (measured : frame.IsMeasured) (limit : Nat) :
    ((Decoder.fresh limit).feed frame.encode).drain = ([frame], none, .fresh limit) ↔
      ∀ pair ∈ frame.headers.pairs, IsTold pair.1 pair.2 := by
  have bytes : (Decoder.fresh limit).feed frame.encode = ⟨frame.encode ++ [], limit⟩ := by
    simp [Decoder.fresh, Decoder.feed]
  rw [bytes]
  constructor
  · intro read
    rw [Decoder.drain] at read
    split at read
    · rename_i first after found
      obtain ⟨rfl, -⟩ := List.cons.inj (Prod.mk.inj read).1
      unfold Decoder.next at found
      split at found
      · rename_i whole
        cases found
        exact isTold_of_decode_encode isWritten plain named whole
      · cases found
      · cases found
    · cases read
    · cases read
  · intro told
    have first := Decoder.next_encode_append (.inr ⟨isWritten, measured, fun _ => told⟩) limit []
    rw [Decoder.drain_of_frame first, Decoder.drain_empty]
    rfl

end

end EventFeed.Wire
