/-
**Decoding accepts exactly the grammar.**

What the readers of the parts know, the reader of frames knows of the whole: a frame is read exactly
if the bytes begin with one, and a fault is that of the first broken rule.

* `readFrame_eq_done_iff`, `readFrame_eq_failed_iff`, `readFrame_eq_more_iff`: the three answers;
* `decode_iff_grammar`: the same with a limit, for bytes that begin like no heartbeat.
-/

import EventFeed.Proofs.Wire.Recognition

namespace EventFeed.Wire

open EventFeed.Numeral

/-! ### One reader after the other -/

theorem andThen_eq_done_iff {α β : Type} {reading : Reading α} {next : α → List UInt8 → Reading β}
    {value : β} {rest : List UInt8} :
    reading.andThen next = .done value rest ↔
      ∃ first middle, reading = .done first middle ∧ next first middle = .done value rest := by
  cases reading with
  | done first middle =>
    constructor
    · exact fun read => ⟨first, middle, rfl, read⟩
    · rintro ⟨_, _, same, read⟩
      cases same
      exact read
  | more => simp [Reading.andThen]
  | failed fault => simp [Reading.andThen]

theorem andThen_eq_failed_iff {α β : Type} {reading : Reading α}
    {next : α → List UInt8 → Reading β} {fault : Fault} :
    reading.andThen next = .failed fault ↔
      reading = .failed fault ∨
        ∃ first middle, reading = .done first middle ∧ next first middle = .failed fault := by
  cases reading with
  | done first middle =>
    constructor
    · exact fun read => .inr ⟨first, middle, rfl, read⟩
    · rintro (wrong | ⟨_, _, same, read⟩)
      · cases wrong
      · cases same
        exact read
  | more => simp [Reading.andThen]
  | failed fault => simp [Reading.andThen]

/-! ### Frames -/

/-- Lines that are read as a command and headers are the head of a frame. -/
theorem exists_head {command : Command} {headers : Headers} {bytes middle rest : List UInt8}
    (first : readCommand bytes = .done command middle)
    (second : readHeaders command .empty middle = .done headers rest) :
    ∃ head : Head, head.Opens command ∧ headers = .ofPairs head.meant ∧
      bytes = head.bytes ++ rest := by
  obtain ⟨commandLine, isCommandLine, isWritten, rfl⟩ := readCommand_eq_done_iff.mp first
  obtain ⟨lines, blank, written, meant, isLines, isBlank, same, rfl⟩ :=
    readHeaders_eq_done_iff.mp second
  exact ⟨⟨commandLine, lines, blank, written, meant⟩,
    ⟨isWritten, isCommandLine, isLines, isBlank⟩, same, by simp [Head.bytes]⟩

/-- Behind a head the body is read. -/
theorem Head.Opens.readFrame_append {head : Head} {command : Command} (opens : head.Opens command)
    (rest : List UInt8) :
    readFrame (head.bytes ++ rest) =
      (readBody (.ofPairs head.meant) rest).andThen fun body rest =>
        .done ⟨command, .ofPairs head.meant, body⟩ rest := by
  have first : readCommand (head.bytes ++ rest) =
      .done command (head.headerLines ++ head.blankLine ++ rest) :=
    readCommand_eq_done_iff.mpr
      ⟨head.commandLine, opens.commandLine, opens.isWritten, by simp [Head.bytes]⟩
  have second : readHeaders command .empty (head.headerLines ++ head.blankLine ++ rest) =
      .done (.ofPairs head.meant) rest :=
    readHeaders_eq_done_iff.mpr
      ⟨_, _, _, _, opens.headerLines, opens.blankLine, rfl, rfl⟩
  simp only [readFrame, first, second, Reading.andThen]

theorem Headers.eq_of_pairs {first second : Headers} (same : first.pairs = second.pairs) :
    first = second := by
  cases first
  cases second
  cases same
  rfl

/-- The headers of a frame are those that its lines come to. -/
theorem Head.IsOf.headers_eq {head : Head} {frame : Frame} (isOf : head.IsOf frame) :
    frame.headers = .ofPairs head.meant :=
  Headers.eq_of_pairs (isOf.headers.trans (pairs_ofPairs head.meant).symm)

/-- **A frame is read exactly if the bytes begin with one.** -/
theorem readFrame_eq_done_iff {bytes rest : List UInt8} {frame : Frame} :
    readFrame bytes = .done frame rest ↔
      ∃ written, IsFrame written frame ∧ bytes = written ++ rest := by
  constructor
  · intro read
    obtain ⟨command, middle, first, read⟩ := andThen_eq_done_iff.mp read
    obtain ⟨headers, behind, second, read⟩ := andThen_eq_done_iff.mp read
    obtain ⟨body, left, third, read⟩ := andThen_eq_done_iff.mp read
    cases read
    obtain ⟨head, opens, rfl, rfl⟩ := exists_head first second
    obtain ⟨isBody, rfl⟩ := readBody_eq_done_iff.mp third
    rw [get?_ofPairs] at isBody
    exact ⟨head.bytes ++ body ++ [terminator],
      ⟨head, ⟨opens, pairs_ofPairs head.meant, isBody⟩, rfl⟩, by simp⟩
  · rintro ⟨_, ⟨head, isOf, rfl⟩, rfl⟩
    have body : readBody (.ofPairs head.meant) (frame.body ++ terminator :: rest) =
        .done frame.body rest :=
      readBody_eq_done_iff.mpr ⟨by rw [get?_ofPairs]; exact isOf.body, rfl⟩
    rw [List.append_assoc, List.append_assoc, List.singleton_append, isOf.opens.readFrame_append,
      body, ← isOf.headers_eq]
    rfl

/-- **Reading a frame fails exactly with the first rule that the bytes break.** -/
theorem readFrame_eq_failed_iff {bytes : List UInt8} {fault : Fault} :
    readFrame bytes = .failed fault ↔ FirstFault bytes fault := by
  constructor
  · intro read
    rcases andThen_eq_failed_iff.mp read with failed | ⟨command, middle, first, read⟩
    · obtain ⟨line, text, rest, isLine, wrong, rfl⟩ := readCommand_eq_failed_iff.mp failed
      exact .command isLine wrong
    rcases andThen_eq_failed_iff.mp read with failed | ⟨headers, behind, second, read⟩
    · obtain ⟨commandLine, isCommandLine, isWritten, rfl⟩ := readCommand_eq_done_iff.mp first
      obtain ⟨lines, written, meant, line, text, rest, isLines, isLine, nonblank, wrong, rfl⟩ :=
        readHeaders_eq_failed_iff.mp failed
      rw [← List.append_assoc, ← List.append_assoc]
      exact .header isWritten isCommandLine isLines isLine nonblank wrong
    rcases andThen_eq_failed_iff.mp read with failed | ⟨body, left, third, read⟩
    · obtain ⟨head, opens, rfl, rfl⟩ := exists_head first second
      obtain ⟨declared, asked, wrong⟩ := readBody_eq_failed_iff.mp failed
      exact .length opens (by rwa [get?_ofPairs] at asked) wrong
    · cases read
  · intro wrong
    cases wrong with
    | @command line text rest fault isLine wrong =>
      have failed := readCommand_eq_failed_iff.mpr ⟨line, text, rest, isLine, wrong, rfl⟩
      exact andThen_eq_failed_iff.mpr (.inl failed)
    | header isWritten isCommandLine isLines isLine nonblank wrong =>
      rw [List.append_assoc, List.append_assoc]
      refine andThen_eq_failed_iff.mpr (.inr ⟨_, _, readCommand_eq_done_iff.mpr
        ⟨_, isCommandLine, isWritten, rfl⟩, andThen_eq_failed_iff.mpr (.inl ?_)⟩)
      exact readHeaders_eq_failed_iff.mpr
        ⟨_, _, _, _, _, _, isLines, isLine, nonblank, wrong, (List.append_assoc _ _ _).symm⟩
    | length opens asked wrong =>
      rw [opens.readFrame_append]
      refine andThen_eq_failed_iff.mpr (.inl (readBody_eq_failed_iff.mpr ⟨_, ?_, wrong⟩))
      rwa [get?_ofPairs]

theorem readFrame_eq_more_iff {bytes : List UInt8} :
    readFrame bytes = .more ↔ IsUnfinished bytes := by
  constructor
  · intro waits
    constructor
    · rintro frame written rest isFrame rfl
      cases waits.symm.trans (readFrame_eq_done_iff.mpr ⟨written, isFrame, rfl⟩)
    · intro fault wrong
      cases waits.symm.trans (readFrame_eq_failed_iff.mpr wrong)
  · rintro ⟨noFrame, noFault⟩
    cases read : readFrame bytes with
    | more => rfl
    | done frame rest =>
      obtain ⟨written, isFrame, parts⟩ := readFrame_eq_done_iff.mp read
      exact absurd parts (noFrame frame written rest isFrame)
    | failed fault => exact absurd (readFrame_eq_failed_iff.mp read) (noFault fault)

/-! ### Decoding -/

/-- No line says that a frame is a heartbeat. -/
theorem Head.Opens.ne_heartbeat {head : Head} {command : Command} (opens : head.Opens command) :
    command ≠ .heartbeat := by
  rintro rfl
  exact absurd opens.isWritten (by decide)

/-- A frame begins with the token of its command. -/
theorem Head.Opens.exists_bytes {head : Head} {command : Command} (opens : head.Opens command) :
    ∃ first later, head.bytes = first :: later ∧ first ≠ lineFeed ∧ first ≠ terminator ∧
      first ≠ carriageReturn := by
  obtain ⟨first, later, token, noFeed, noEnd, noReturn⟩ := toBytes_token opens.ne_heartbeat
  obtain ⟨ending, line⟩ := opens.commandLine.exists_end
  exact ⟨first, later ++ ending ++ head.headerLines ++ head.blankLine,
    by simp [Head.bytes, line, token], noFeed, noEnd, noReturn⟩

/-- **What is taken are the bytes of the frame**, whatever stands behind them. -/
theorem decodeUnbounded_eq_done_iff {bytes rest : List UInt8} {frame : Frame} :
    decodeUnbounded bytes = .done frame rest ↔
      ∃ taken, Spells taken frame ∧ bytes = taken ++ rest := by
  constructor
  · intro decoded
    unfold decodeUnbounded at decoded
    split at decoded
    · cases decoded
    · rename_i byte tail
      split at decoded
      · rename_i beats
        cases decoded
        rcases beats with rfl | rfl
        · exact ⟨[lineFeed], .inl ⟨rfl, .short⟩, rfl⟩
        · exact ⟨[terminator], .inl ⟨rfl, .stray⟩, rfl⟩
      · split at decoded
        · rename_i returns
          split at decoded
          · cases decoded
          · split at decoded
            · rename_i feeds
              cases decoded
              subst returns feeds
              exact ⟨[carriageReturn, lineFeed], .inl ⟨rfl, .long⟩, rfl⟩
            · cases decoded
        · obtain ⟨taken, isFrame, parts⟩ := readFrame_eq_done_iff.mp decoded
          exact ⟨taken, .inr isFrame, parts⟩
  · rintro ⟨taken, ⟨rfl, isBeat⟩ | isFrame, rfl⟩
    · cases isBeat <;> rfl
    · have read : readFrame (taken ++ rest) = .done frame rest :=
        readFrame_eq_done_iff.mpr ⟨taken, isFrame, rfl⟩
      obtain ⟨head, isOf, rfl⟩ := isFrame
      obtain ⟨first, later, bytes, noFeed, noEnd, noReturn⟩ := isOf.opens.exists_bytes
      simp only [bytes, List.cons_append] at read ⊢
      simpa only [decodeUnbounded, noFeed, noEnd, noReturn, or_self, if_false] using read

/-- The limit has no part in it. -/
theorem decode_eq_done_iff {limit : Nat} {bytes rest : List UInt8} {frame : Frame} :
    decode limit bytes = .done frame rest ↔
      ∃ taken, Spells taken frame ∧ bytes = taken ++ rest := by
  rw [← decodeUnbounded_eq_done_iff]
  rcases decode_eq limit bytes with large | same
  · constructor
    · intro decoded
      cases large.symm.trans decoded
    · intro decoded
      rw [decode, decoded]
  · rw [same]

section

variable {bytes : List UInt8}
  (begun : ∀ byte ∈ bytes.head?, byte ∉ [lineFeed, carriageReturn, terminator])
include begun

/-- What begins like no heartbeat is read as a frame. -/
theorem decodeUnbounded_eq_readFrame : decodeUnbounded bytes = readFrame bytes := by
  cases bytes with
  | nil => rfl
  | cons byte rest =>
    have first := begun byte rfl
    simp only [List.mem_cons, List.not_mem_nil, or_false, not_or] at first
    simp only [decodeUnbounded, first, or_self, if_false]

/-- The limit turns a wish for more bytes into a fault, if there are more than the limit. -/
theorem decode_of_begun (limit : Nat) :
    decode limit bytes =
      if readFrame bytes = .more ∧ limit < bytes.length then .failed (.tooLarge limit)
      else readFrame bytes := by
  have noReturn : bytes ≠ [carriageReturn] := by
    rintro rfl
    exact begun carriageReturn rfl (by decide)
  unfold decode
  rw [decodeUnbounded_eq_readFrame begun]
  cases readFrame bytes with
  | done frame rest => simp
  | failed fault => simp
  | more =>
    by_cases nothing : bytes = []
    · simp [nothing]
    · simp [nothing, noReturn]

/-- **Decoding accepts exactly the grammar.** Bytes that begin with no line end and no zero byte are
decoded as a frame exactly if they begin with the bytes of one, and these are taken. A fault is that
of the first rule that complete lines break, or the limit is passed; and more bytes are asked for
exactly if there is neither a frame nor a broken rule, and no more bytes than the limit. -/
theorem decode_iff_grammar (limit : Nat) :
    (∀ frame rest, decode limit bytes = .done frame rest ↔
      ∃ written, IsFrame written frame ∧ bytes = written ++ rest) ∧
    (∀ fault, decode limit bytes = .failed fault ↔
      FirstFault bytes fault ∨
        fault = .tooLarge limit ∧ limit < bytes.length ∧ IsUnfinished bytes) ∧
    (decode limit bytes = .more ↔ bytes.length ≤ limit ∧ IsUnfinished bytes) := by
  rw [decode_of_begun begun]
  simp only [← readFrame_eq_done_iff, ← readFrame_eq_failed_iff, ← readFrame_eq_more_iff]
  cases readFrame bytes with
  | done frame rest => simp
  | failed fault => simp
  | more =>
    by_cases large : limit < bytes.length
    · simp [large, eq_comm]
    · simp [large, Nat.not_lt.mp large]

end

/-- A frame whose lines end in both ways, with names that are the same only once they are read, a
length with blanks and a sign, and a zero byte in the body. -/
def crowdedFrame : Frame where
  command := .message
  headers := .ofPairs [("a:b", "1\n"), (Header.contentLength, " +3\t")]
  body := [0x78, 0x00, 0x79]

/-- It is read from its bytes, so they are those of a frame; and of two broken rules the first is
told. -/
theorem crowdedFrame_is_grammatical :
    let bytes := Text.toBytes
      "MESSAGE\r\na\\cb:1\\n\r\na\\cb:2\ncontent-length: +3\t\ncontent-length:9\r\n\r\nx\x00y\x00\n"
    let broken := Text.toBytes "MESSAGE\r\nnothing\nx:\\q\n"
    (∀ byte ∈ bytes.head?, byte ∉ [lineFeed, carriageReturn, terminator]) ∧
      (∃ written, IsFrame written crowdedFrame ∧ bytes = written ++ [lineFeed]) ∧
      (∀ byte ∈ broken.head?, byte ∉ [lineFeed, carriageReturn, terminator]) ∧
      FirstFault broken .missingColon := by
  intro bytes broken
  have begun : ∀ byte ∈ bytes.head?, byte ∉ [lineFeed, carriageReturn, terminator] := by
    decide +kernel
  have begun' : ∀ byte ∈ broken.head?, byte ∉ [lineFeed, carriageReturn, terminator] := by
    decide +kernel
  have isFrame := ((decode_iff_grammar begun 4).1 crowdedFrame [lineFeed]).mp (by decide +kernel)
  have isWrong := ((decode_iff_grammar begun' 4).2.1 .missingColon).mp (by decide +kernel)
  exact ⟨begun, isFrame, begun', isWrong.resolve_right fun large => by cases large.1⟩

end EventFeed.Wire
