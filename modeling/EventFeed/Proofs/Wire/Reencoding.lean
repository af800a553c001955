/-
**Frames that were read are written again.**

A reader takes bytes that no writer gives: line ends with a carriage return, names that come twice,
colons that should have been escaped. What is written for a frame that was read has none of these.

* `encode_of_canonical`: bytes without them are written again as they were;
* `decode_encode_of_decoded`: whatever the bytes were, what is written for the frame is read, to its
  end, as the frame that was read; only a value that is written as it is loses a carriage return at
  its end.
-/

import EventFeed.Proofs.Wire.Acceptance
import EventFeed.Proofs.Wire.Verbatim

namespace EventFeed.Wire

open EventFeed.Numeral

/-! ### Bytes that a writer could have written -/

theorem IsLine.eq_of_no_return {line text : List UInt8} (isLine : IsLine line text)
    (noReturn : carriageReturn ∉ line) : line = text ++ [lineFeed] := by
  cases isLine with
  | short => rfl
  | long => exact absurd (by simp) noReturn

/-- Escaped characters among which nothing stands that should be escaped are those that a writer
escapes. -/
theorem escapeChars_of_escaped {text meant : List Char} (escaped : Escaped text meant)
    (clean : ∀ char ∈ text, char ≠ '\n' ∧ char ≠ '\r' ∧ char ≠ ':') : escapeChars meant = text := by
  induction escaped with
  | nil => rfl
  | @plain char text meant isPlain later step =>
    obtain ⟨noFeed, noReturn, noColon⟩ := clean char List.mem_cons_self
    have itself : escapeHeaderChar char = [char] := by
      simp [escapeHeaderChar, isPlain, noFeed, noReturn, noColon]
    have rest := step fun other member => clean other (List.mem_cons_of_mem _ member)
    rw [escapeChars, List.flatMap_cons, itself, ← escapeChars, rest, List.singleton_append]
  | @pair letter char text meant known later step =>
    have pair : escapeHeaderChar char = ['\\', letter] := by
      simp only [escapeLetters, List.mem_cons, Prod.mk.injEq, List.not_mem_nil, or_false] at known
      rcases known with ⟨rfl, rfl⟩ | ⟨rfl, rfl⟩ | ⟨rfl, rfl⟩ | ⟨rfl, rfl⟩ <;> rfl
    have rest := step fun other member =>
      clean other (List.mem_cons_of_mem _ (List.mem_cons_of_mem _ member))
    rw [escapeChars, List.flatMap_cons, pair, ← escapeChars, rest]
    rfl

section

variable {command : Command}

/-- What a writer writes for what a text means is the text, if nothing stands in it that should be
escaped. -/
theorem headerText_of_means {text meant : String} (means : Means command text meant)
    (clean : command.escapes = true →
      ∀ char ∈ text.toList, char ≠ '\n' ∧ char ≠ '\r' ∧ char ≠ ':') :
    Frame.headerText command meant = text := by
  unfold Means at means
  unfold Frame.headerText
  cases escapes : command.escapes with
  | true =>
    rw [escapes, if_pos rfl] at means
    rw [if_pos rfl, escape, escapeChars_of_escaped means (clean escapes), String.ofList_toList]
  | false =>
    rw [escapes, if_neg Bool.false_ne_true] at means
    rw [if_neg Bool.false_ne_true, means]

theorem carriageReturn_mem_toBytes_iff (text : String) :
    carriageReturn ∈ Text.toBytes text ↔ '\r' ∈ text.toList :=
  Text.mem_toBytes_iff (show '\r'.toNat < 128 by decide) text

/-- **Header lines without carriage returns and raw colons are those that a writer writes.** -/
theorem HeaderLines.eq_flatMap {lines : List UInt8} {written meant : List (String × String)}
    (isLines : HeaderLines command lines written meant) (noReturn : carriageReturn ∉ lines)
    (noColon : command.escapes = true → ∀ header ∈ written, ':' ∉ header.2.toList) :
    lines = meant.flatMap fun pair => Frame.headerLine command pair.1 pair.2 := by
  induction isLines with
  | nil => rfl
  | @cons line lines name value meantName meantValue written meant isLine firstColon means means'
      later step =>
    rw [List.mem_append, not_or] at noReturn
    have rest := step noReturn.2 fun escapes header member =>
      noColon escapes header (List.mem_cons_of_mem _ member)
    have whole := isLine.eq_of_no_return noReturn.1
    have noFeed := isLine.unbroken
    have noReturn' := noReturn.1
    rw [whole, List.mem_append, not_or, carriageReturn_mem_toBytes_iff] at noReturn'
    rw [lineFeed_mem_toBytes_iff] at noFeed
    simp only [String.toList_append, List.mem_append, not_or] at noFeed noReturn'
    have name' := headerText_of_means means fun _ char member =>
      ⟨fun same => noFeed.1.1 (same ▸ member), fun same => noReturn'.1.1.1 (same ▸ member),
        fun same => firstColon (same ▸ member)⟩
    have value' := headerText_of_means means' fun escapes char member =>
      ⟨fun same => noFeed.2 (same ▸ member), fun same => noReturn'.1.2 (same ▸ member),
        fun same => noColon escapes (name, value) List.mem_cons_self (same ▸ member)⟩
    rw [List.flatMap_cons, ← rest, headerLine_eq, name', value', ← whole]

end

/-- Names that come once are all kept. -/
theorem firstOfEach_of_nodup {pairs : List (String × String)}
    (distinct : (pairs.map Prod.fst).Nodup) : firstOfEach pairs = pairs := by
  rw [← pairs_ofPairs]
  exact pairs_foldl_insertFirst (show ((Headers.empty.pairs ++ pairs).map _).Nodup from distinct)

/-- Whether lines are such as a writer writes: no carriage return ends them or stands in them, no
name comes twice, and no colon stands as it is in a value that is escaped. -/
structure Head.IsClean (head : Head) (command : Command) : Prop where
  noReturn : carriageReturn ∉ head.bytes
  distinct : (head.meant.map Prod.fst).Nodup
  noColon : command.escapes = true → ∀ header ∈ head.written, ':' ∉ header.2.toList

/-- Whether the bytes of a frame are canonical: the lines before the body are clean, and a heartbeat
has no carriage return either and is no zero byte. -/
def IsCanonical (taken : List UInt8) (frame : Frame) : Prop :=
  frame = .heartbeat ∧ carriageReturn ∉ taken ∧ taken ≠ [terminator] ∨
    ∃ head : Head, head.IsOf frame ∧ head.IsClean frame.command ∧
      taken = head.bytes ++ frame.body ++ [terminator]

theorem Head.IsOf.encode_eq {head : Head} {frame : Frame} (isOf : head.IsOf frame)
    (clean : head.IsClean frame.command) :
    frame.encode = head.bytes ++ frame.body ++ [terminator] := by
  have isWritten := isOf.opens.ne_heartbeat
  have noReturn := clean.noReturn
  simp only [Head.bytes, List.mem_append, not_or] at noReturn
  have first := isOf.opens.commandLine.eq_of_no_return noReturn.1.1
  have lines := isOf.opens.headerLines.eq_flatMap noReturn.1.2 clean.noColon
  have last := isOf.opens.blankLine.eq_of_no_return noReturn.2
  rw [← firstOfEach_of_nodup clean.distinct, ← isOf.headers] at lines
  simp [Frame.encode, Frame.isHeartbeat, isWritten, Head.bytes, first, ← lines, last]

/-- **Canonical bytes are written again as they were**, with the order of the headers, the escapes,
the body and its end. -/
theorem encode_of_canonical {limit : Nat} {taken rest : List UInt8} {frame : Frame}
    (decoded : decode limit (taken ++ rest) = .done frame rest)
    (canonical : IsCanonical taken frame) : frame.encode = taken := by
  rcases canonical with ⟨rfl, noReturn, noStray⟩ | ⟨head, isOf, clean, rfl⟩
  · obtain ⟨taken', spelled, parts⟩ := decode_eq_done_iff.mp decoded
    obtain rfl := List.append_cancel_right parts
    rcases spelled with ⟨-, isBeat⟩ | ⟨head, isOf, -⟩
    · cases isBeat with
      | short => rfl
      | long => exact absurd (by simp) noReturn
      | stray => exact absurd rfl noStray
    · exact absurd rfl isOf.opens.ne_heartbeat
  · exact isOf.encode_eq clean

/-- A frame with a colon and a line feed in its headers and a zero byte in its body. -/
def separatedFrame : Frame where
  command := .message
  headers := .ofPairs [("a:b", "x\ny"), (Header.contentLength, "3")]
  body := [0x78, 0x00, 0x79]

/-- Its bytes are canonical, so they are written again. -/
theorem separatedFrame_is_written_again :
    let taken := Text.toBytes "MESSAGE\na\\cb:x\\ny\ncontent-length:3\n\nx\x00y\x00"
    decode 4 (taken ++ [lineFeed]) = .done separatedFrame [lineFeed] ∧
      IsCanonical taken separatedFrame ∧ separatedFrame.encode = taken := by
  intro taken
  let head : Head :=
    { commandLine := Text.toBytes "MESSAGE" ++ [lineFeed]
      headerLines := (Text.toBytes ("a\\cb" ++ ":" ++ "x\\ny") ++ [lineFeed]) ++
        ((Text.toBytes ("content-length" ++ ":" ++ "3") ++ [lineFeed]) ++ [])
      blankLine := [] ++ [lineFeed]
      written := [("a\\cb", "x\\ny"), ("content-length", "3")]
      meant := [("a:b", "x\ny"), ("content-length", "3")] }
  have lines : HeaderLines .message head.headerLines head.written head.meant :=
    .cons (.short (by decide) (by decide)) (by decide)
      (headerValue?_eq_some_iff.mp (by decide)) (headerValue?_eq_some_iff.mp (by decide)) <|
    .cons (.short (by decide) (by decide)) (by decide)
      (headerValue?_eq_some_iff.mp (by decide)) (headerValue?_eq_some_iff.mp (by decide)) .nil
  have opens : head.Opens .message :=
    ⟨by decide, .short (by decide) (by decide), lines, .short (by decide) (by decide)⟩
  have isOf : head.IsOf separatedFrame :=
    ⟨opens, by decide, show read? wordBound (Text.trim "3") = some 3 by decide⟩
  have canonical : IsCanonical taken separatedFrame :=
    .inr ⟨head, isOf, ⟨by decide, by decide, by decide⟩, by decide⟩
  have decoded : decode 4 (taken ++ [lineFeed]) = .done separatedFrame [lineFeed] := by
    decide +kernel
  exact ⟨decoded, canonical, encode_of_canonical decoded canonical⟩

/-! ### Frames that come back -/

/-- The headers with other values. -/
def Headers.mapValues (headers : Headers) (change : String → String) : Headers where
  pairs := headers.pairs.map fun pair => (pair.1, change pair.2)
  distinct := by simpa [Function.comp_def] using headers.distinct

theorem Headers.get?_mapValues (headers : Headers) (change : String → String) (name : String) :
    (headers.mapValues change).get? name = (headers.get? name).map change := by
  simp [Headers.get?, Headers.mapValues, List.find?_map, Function.comp_def]

/-- What is read when a frame is written: a value that is not escaped loses a carriage return at its
end. -/
def Frame.settled (frame : Frame) : Frame :=
  if frame.command.escapes then frame
  else { frame with headers := frame.headers.mapValues dropReturn }

theorem Headers.mapValues_eq_self_iff (headers : Headers) (change : String → String) :
    headers.mapValues change = headers ↔ ∀ pair ∈ headers.pairs, change pair.2 = pair.2 := by
  have asPairs : headers.mapValues change = headers ↔
      headers.pairs.map (fun pair => (pair.1, change pair.2)) = headers.pairs :=
    ⟨congrArg Headers.pairs, fun same => Headers.eq_of_pairs same⟩
  rw [asPairs]
  constructor
  · intro same pair member
    exact congrArg Prod.snd (List.map_inj_left.mp (same.trans (List.map_id _).symm) pair member)
  · intro same
    refine Eq.trans (List.map_inj_left.mpr fun pair member => ?_) (List.map_id _)
    exact Prod.ext rfl (same pair member)

theorem Frame.settled_eq_self_iff (frame : Frame) :
    frame.settled = frame ↔
      (frame.command.escapes = false →
        ∀ pair ∈ frame.headers.pairs, pair.2.toList.getLast? ≠ some '\r') := by
  unfold Frame.settled
  cases escapes : frame.command.escapes with
  | true => simp
  | false =>
    have asHeaders : { frame with headers := frame.headers.mapValues dropReturn } = frame ↔
        frame.headers.mapValues dropReturn = frame.headers :=
      ⟨congrArg Frame.headers, fun same => by rw [same]⟩
    simp only [Bool.false_eq_true, if_false, asHeaders, Headers.mapValues_eq_self_iff,
      dropReturn_eq_self_iff, forall_const]

/-- A carriage return at the end is blank, so trimming takes it anyway. -/
theorem trim_dropReturn (text : String) : Text.trim (dropReturn text) = Text.trim text := by
  unfold dropReturn
  split
  · rename_i ends
    obtain ⟨front, parts⟩ := List.getLast?_eq_some_iff.mp ends
    have blank : Text.isBlank '\r' = true := by decide
    simp only [Text.trim, parts, List.dropLast_concat, String.toList_ofList, Text.trimChars,
      List.dropWhile_append]
    by_cases allBlank : (front.dropWhile Text.isBlank).isEmpty = true
    · simp [blank, List.isEmpty_iff.mp allBlank]
    · simp [blank, allBlank]
  · rfl

/-- A carriage return at the end of a declared length makes no difference. -/
theorem isBody_map_dropReturn_iff (declared? : Option String) (body : List UInt8) :
    IsBody (declared?.map dropReturn) body ↔ IsBody declared? body := by
  cases declared? with
  | none => rfl
  | some declared => simp only [Option.map_some, IsBody, trim_dropReturn]

theorem isMeasured_iff_isBody (frame : Frame) :
    frame.IsMeasured ↔ IsBody (frame.header? Header.contentLength) frame.body := by
  unfold Frame.IsMeasured
  cases frame.header? Header.contentLength <;> simp [IsBody]

/-- The headers of a head are among those that its lines mean. -/
theorem mem_of_mem_firstOfEach {pairs : List (String × String)} {pair : String × String}
    (member : pair ∈ firstOfEach pairs) : pair ∈ pairs := by
  rw [← pairs_ofPairs] at member
  have all : ∀ headers : Headers,
      pair ∈ (pairs.foldl (fun headers pair => headers.insertFirst pair.1 pair.2) headers).pairs →
        pair ∈ headers.pairs ∨ pair ∈ pairs := by
    clear member
    induction pairs with
    | nil => exact fun headers held => .inl held
    | cons first pairs step =>
      intro headers held
      rcases step _ held with held | later
      · rcases mem_pairs_insertFirst held with held | rfl
        · exact .inl held
        · exact .inr List.mem_cons_self
      · exact .inr (List.mem_cons_of_mem _ later)
  exact (all .empty member).resolve_left List.not_mem_nil

section

variable {command : Command} (plain : command.escapes = false)
include plain

/-- The headers of a command that does not escape them keep to their lines. -/
theorem HeaderLines.unbroken {lines : List UInt8} {written meant : List (String × String)}
    (isLines : HeaderLines command lines written meant) :
    ∀ pair ∈ meant, (':' ∉ pair.1.toList ∧ '\n' ∉ pair.1.toList) ∧ '\n' ∉ pair.2.toList := by
  induction isLines with
  | nil => simp
  | @cons line lines name value meantName meantValue written meant isLine firstColon means means'
      later step =>
    have noFeed := isLine.unbroken
    rw [lineFeed_mem_toBytes_iff] at noFeed
    simp only [String.toList_append, List.mem_append, not_or] at noFeed
    rw [Means, plain, if_neg Bool.false_ne_true] at means means'
    subst means means'
    intro pair member
    rcases List.mem_cons.mp member with rfl | member
    · exact ⟨⟨firstColon, noFeed.1.1⟩, noFeed.2⟩
    · exact step pair member

end

section

variable {head : Head} {frame : Frame} (isOf : head.IsOf frame)
include isOf

/-- The bytes of a frame that was read tell where its body ends. -/
theorem Head.IsOf.isBody : IsBody (frame.header? Header.contentLength) frame.body := by
  rw [Frame.header?, isOf.headers_eq, get?_ofPairs]
  exact isOf.body

/-- What is written for a frame with lines is read as the settled frame. -/
theorem Head.IsOf.readFrame_encode_append (behind : List UInt8) :
    readFrame (frame.encode ++ behind) = .done frame.settled behind := by
  have isWritten := isOf.opens.ne_heartbeat
  cases escapes : frame.command.escapes with
  | true =>
    rw [Frame.settled, if_pos escapes]
    exact readFrame_encode isWritten ((isMeasured_iff_isBody frame).mpr isOf.isBody)
      (by simp [escapes]) behind
  | false =>
    have told : ∀ pair ∈ frame.headers.pairs, _ := fun pair member =>
      isOf.opens.headerLines.unbroken escapes pair
        (mem_of_mem_firstOfEach (isOf.headers ▸ member))
    have lines : readHeaders frame.command .empty
        (frame.headers.pairs.flatMap (fun pair => Frame.headerLine frame.command pair.1 pair.2) ++
          lineFeed :: (frame.body ++ terminator :: behind)) =
        .done (frame.headers.mapValues dropReturn) (frame.body ++ terminator :: behind) :=
      (readHeaders_verbatim escapes (fun pair member => (told pair member).1)
        (fun pair member => (told pair member).2) .empty _).trans
        (congrArg (Reading.done · _) (ofPairs_pairs (frame.headers.mapValues dropReturn)))
    have body : readBody (frame.headers.mapValues dropReturn) (frame.body ++ terminator :: behind) =
        .done frame.body behind := by
      refine readBody_eq_done_iff.mpr ⟨?_, rfl⟩
      rw [Headers.get?_mapValues, isBody_map_dropReturn_iff]
      exact isOf.isBody
    rw [encode_append isWritten, readFrame, readCommand_written isWritten, Frame.settled,
      if_neg (by simp [escapes])]
    simp only [Reading.andThen, lines, body]

end

/-- **What is written for a frame that was read is read as the settled frame, to its end**, whatever
comes behind; and that is the frame that was read, but for carriage returns at the ends of values
that are not escaped. -/
theorem decode_encode_of_decoded {limit : Nat} {bytes rest : List UInt8} {frame : Frame}
    (decoded : decode limit bytes = .done frame rest) :
    (∀ limit' behind, decode limit' (frame.encode ++ behind) = .done frame.settled behind) ∧
      (frame.settled = frame ↔ (frame.command.escapes = false →
        ∀ pair ∈ frame.headers.pairs, pair.2.toList.getLast? ≠ some '\r')) := by
  refine ⟨fun limit' behind => ?_, frame.settled_eq_self_iff⟩
  obtain ⟨taken, ⟨rfl, -⟩ | ⟨head, isOf, -⟩, -⟩ := decode_eq_done_iff.mp decoded
  · exact decode_eq_done_iff.mpr ⟨[lineFeed], .inl ⟨rfl, .short⟩, rfl⟩
  · obtain ⟨written, isFrame, parts⟩ :=
      readFrame_eq_done_iff.mp (isOf.readFrame_encode_append behind)
    exact decode_eq_done_iff.mpr ⟨written, .inr isFrame, parts⟩

/-- A frame with a carriage return at the end of a value. -/
def returningFrame (command : Command) : Frame where
  command := command
  headers := .ofPairs [("version", "1.2\r")]
  body := []

/-- A command that escapes it keeps it. -/
theorem return_is_kept :
    decode 4 (Text.toBytes "MESSAGE\nversion:1.2\r\r\n\n\x00") =
        .done (returningFrame .message) [] ∧
      ∀ limit behind, decode limit ((returningFrame .message).encode ++ behind) =
        .done (returningFrame .message) behind := by
  have decoded : decode 4 (Text.toBytes "MESSAGE\nversion:1.2\r\r\n\n\x00") =
      .done (returningFrame .message) [] := by
    decide +kernel
  obtain ⟨comesBack, same⟩ := decode_encode_of_decoded decoded
  rw [same.mpr (by decide)] at comesBack
  exact ⟨decoded, comesBack⟩

/-- A command that writes it as it is loses it, so what is read again is another frame. -/
theorem return_is_lost :
    decode defaultFrameLimit (Text.toBytes "CONNECTED\nversion:1.2\r\r\n\n\x00") =
        .done (returningFrame .connected) [] ∧
      decode defaultFrameLimit (returningFrame .connected).encode ≠
        .done (returningFrame .connected) [] := by
  decide +kernel

end EventFeed.Wire
