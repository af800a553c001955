/-
**How much a decoder holds.**

A decoder has a limit on the bytes that are in no frame yet. The limit is compared with everything
that is held, but only when no frame is all there; so it is the unfinished frame alone that counts,
whatever came with it. A decoder that asks for more holds no more bytes than the limit. A frame may
have one byte more than the limit, as it is never held without its last byte, and one that is longer
than that can be cut so that it is refused.

* `decodeUnbounded_of_part`: a part of a frame is asked to go on;
* `drain_of_frames`, `run_of_frames`: frames that are short enough come out one by one;
* `limit_is_exact`: what is held, what always passes, and what need not.
-/

import EventFeed.Proofs.Wire.Pieces
import EventFeed.Proofs.Wire.RoundTrip

namespace EventFeed.Wire

/-! ### Parts of a frame -/

/-- What is decoded under a limit is decoded without one. -/
theorem decodeUnbounded_of_decode {limit : Nat} {bytes rest : List UInt8} {frame : Frame}
    (decoded : decode limit bytes = .done frame rest) :
    decodeUnbounded bytes = .done frame rest := by
  rcases decode_eq limit bytes with large | same
  · cases large.symm.trans decoded
  · exact same.symm.trans decoded

/-- **A part of a frame is asked to go on**: it is no frame itself, and it breaks no rule. -/
theorem decodeUnbounded_of_part {front back : List UInt8} {frame : Frame}
    (whole : decodeUnbounded (front ++ back) = .done frame []) (isPart : back ≠ []) :
    decodeUnbounded front = .more := by
  have settles (settled : decodeUnbounded front ≠ .more) :
      .done frame [] = (decodeUnbounded front).before back :=
    whole.symm.trans (stable_decodeUnbounded front back settled)
  cases read : decodeUnbounded front with
  | more => rfl
  | failed fault =>
    rw [read] at settles
    cases settles nofun
  | done other rest =>
    rw [read] at settles
    obtain ⟨-, left⟩ := Reading.done.inj (settles nofun)
    exact absurd (List.append_eq_nil_iff.mp left.symm).2 isPart

/-- A limit of at least one byte cuts between what may be held and what may not. -/
theorem decode_of_more {limit : Nat} (positive : 1 ≤ limit) {bytes : List UInt8}
    (waits : decodeUnbounded bytes = .more) :
    decode limit bytes = if limit < bytes.length then .failed (.tooLarge limit) else .more := by
  have beats : bytes = [] ∨ bytes = [carriageReturn] → ¬ limit < bytes.length := by
    rintro (rfl | rfl)
    · exact Nat.not_lt_zero limit
    · exact Nat.not_lt.mpr positive
  rw [decode, waits]
  dsimp only
  split
  · rename_i beat
    rw [if_neg (beats beat)]
  · rfl

namespace Decoder

/-! ### Frames that are short enough -/

/-- Whether the bytes are those of the frame and no more. -/
def IsWhole (written : List UInt8 × Frame) : Prop :=
  ∃ limit, decode limit written.1 = .done written.2 []

theorem IsWhole.read {written : List UInt8 × Frame} (whole : IsWhole written) :
    decodeUnbounded written.1 = .done written.2 [] :=
  whole.elim fun _ decoded => decodeUnbounded_of_decode decoded

variable {limit : Nat}

/-- A frame that is all there is the next, and what stands behind it is left. -/
theorem next_of_whole {written : List UInt8 × Frame} (whole : IsWhole written)
    (behind : List UInt8) :
    next ⟨written.1 ++ behind, limit⟩ = (.ok (some written.2), ⟨behind, limit⟩) := by
  have grown := stable_decodeUnbounded written.1 behind (by simp [whole.read])
  rw [whole.read] at grown
  have decoded : decode limit (written.1 ++ behind) = .done written.2 behind := by
    rw [decode, grown]
    rfl
  rw [next, decoded]

/-- A part of a frame that is short enough is held. -/
theorem next_of_part (positive : 1 ≤ limit) {held : List UInt8}
    (waits : decodeUnbounded held = .more) (short : held.length ≤ limit) :
    next ⟨held, limit⟩ = (.ok none, ⟨held, limit⟩) := by
  have decoded : decode limit held = .more := by
    rw [decode_of_more positive waits, if_neg (Nat.not_lt.mpr short)]
  rw [next, decoded]

section

variable (positive : 1 ≤ limit) {written : List (List UInt8 × Frame)}
  (within : ∀ whole ∈ written, IsWhole whole ∧ whole.1.length ≤ limit + 1)
include positive within

/-- **Frames that are short enough come out one by one** as far as they are all there, and what is
held then is a part of the next. -/
theorem drain_of_frames {held coming : List UInt8}
    (stream : held ++ coming = written.flatMap Prod.fst) :
    ∃ earlier later left, written = earlier ++ later ∧
      drain ⟨held, limit⟩ = (earlier.map Prod.snd, none, ⟨left, limit⟩) ∧
      left ++ coming = later.flatMap Prod.fst ∧ decodeUnbounded left = .more := by
  induction written generalizing held with
  | nil =>
    obtain ⟨rfl, -⟩ := List.append_eq_nil_iff.mp stream
    exact ⟨[], [], [], rfl, drain_empty limit, stream, rfl⟩
  | cons whole written step =>
    obtain ⟨isWhole, short⟩ := within whole List.mem_cons_self
    rw [List.flatMap_cons] at stream
    by_cases all : whole.1 <+: held
    · obtain ⟨behind, rfl⟩ := all
      rw [List.append_assoc] at stream
      obtain ⟨earlier, later, left, rfl, drained, parts, waits⟩ :=
        step (fun other member => within other (List.mem_cons_of_mem _ member))
          (List.append_cancel_left stream)
      refine ⟨whole :: earlier, later, left, rfl, ?_, parts, waits⟩
      rw [drain_of_frame (next_of_whole isWhole behind), drained]
      rfl
    · -- Not all of the first frame is there, so what is held is a part of it.
      have isPart : held <+: whole.1 :=
        (List.prefix_or_prefix_of_prefix (List.prefix_append held coming)
          (stream ▸ List.prefix_append whole.1 _)).resolve_right all
      obtain ⟨missing, parts⟩ := isPart
      have more : missing ≠ [] := by
        rintro rfl
        exact all ⟨[], by rw [← parts, List.append_nil, List.append_nil]⟩
      have waits : decodeUnbounded held = .more :=
        decodeUnbounded_of_part (parts.symm ▸ isWhole.read) more
      have fits : held.length ≤ limit := by
        have total := congrArg List.length parts
        have lacks := List.length_pos_iff.mpr more
        rw [List.length_append] at total
        omega
      refine ⟨[], whole :: written, held, rfl, ?_, ?_, waits⟩
      · exact drain_of_nothing (next_of_part positive waits fits)
      · rw [stream, List.flatMap_cons]

/-- **However they are cut.** -/
theorem run_of_frames {held : List UInt8} (waits : decodeUnbounded held = .more)
    {pieces : List (List UInt8)} (stream : held ++ pieces.flatten = written.flatMap Prod.fst) :
    run ⟨held, limit⟩ pieces = (written.map Prod.snd, none, ⟨[], limit⟩) := by
  induction pieces generalizing held written with
  | nil =>
    rw [List.flatten_nil, List.append_nil] at stream
    cases written with
    | nil =>
      rw [stream]
      rfl
    | cons whole written =>
      -- What is held would be a frame that is all there.
      have read := (within whole List.mem_cons_self).1.read
      have grown := stable_decodeUnbounded whole.1 (written.flatMap Prod.fst) (by simp [read])
      rw [← List.flatMap_cons, ← stream, waits, read] at grown
      cases grown
  | cons piece pieces step =>
    rw [List.flatten_cons, ← List.append_assoc] at stream
    obtain ⟨earlier, later, left, rfl, drained, parts, waits⟩ :=
      drain_of_frames positive within stream
    have withinLater := fun whole member => within whole (List.mem_append_right _ member)
    have rest := step withinLater waits parts
    rw [run, feed, drained]
    dsimp only
    rw [rest, List.map_append]

end

/-! ### The limit -/

/-- A decoder that asks for more holds no more bytes than its limit. -/
theorem length_le_of_next_nothing {decoder after : Decoder} (positive : 1 ≤ decoder.limit)
    (asks : decoder.next = (.ok none, after)) : after.buffer.length ≤ decoder.limit := by
  obtain ⟨nothing, same⟩ := framesOf_of_next_nothing asks
  have decoded := decode_of_more positive (decodeUnbounded_left nothing)
  rw [same]
  refine Nat.not_lt.mp fun long => ?_
  rw [if_pos long] at decoded
  rw [next, decoded] at asks
  cases asks

/-- A frame with more than one byte more than the limit is refused if it comes in the wrong
pieces. -/
theorem isOutgrown_of_long (positive : 1 ≤ limit) {whole : List UInt8 × Frame}
    (isWhole : IsWhole whole) (long : limit + 1 < whole.1.length) :
    (fresh limit).IsOutgrown [whole.1.take (limit + 1), whole.1.drop (limit + 1)] := by
  have read := isWhole.read
  rw [← List.take_append_drop (limit + 1) whole.1] at read
  have waits : decodeUnbounded (whole.1.take (limit + 1)) = .more := by
    refine decodeUnbounded_of_part read (List.ne_nil_of_length_pos ?_)
    rw [List.length_drop]
    omega
  have stopped : decode limit (whole.1.take (limit + 1)) = .failed (.tooLarge limit) := by
    rw [decode_of_more positive waits, if_pos]
    rw [List.length_take]
    omega
  have found : next ⟨whole.1.take (limit + 1), limit⟩ =
      (.error ⟨.tooLarge limit, (whole.1.take (limit + 1)).take shownBytes⟩,
        ⟨whole.1.take (limit + 1), limit⟩) := by
    rw [next, stopped]
  have drained : ((fresh limit).feed (whole.1.take (limit + 1))).drain = _ := drain_of_error found
  rw [IsOutgrown, run, drained]
  rfl

/-- **The limit is exact.** A decoder that asks for more holds no more bytes than its limit. Frames
of at most one byte more than the limit all come out, in their order and with nothing left, however
their bytes are cut. And every frame that is longer can be cut so that the limit stops it. -/
theorem limit_is_exact (positive : 1 ≤ limit) :
    (∀ decoder : Decoder, decoder.limit = limit → decoder.next.1 = .ok none →
      decoder.next.2.buffer.length ≤ limit) ∧
    (∀ written : List (List UInt8 × Frame),
      (∀ whole ∈ written, IsWhole whole ∧ whole.1.length ≤ limit + 1) →
      ∀ pieces : List (List UInt8), pieces.flatten = written.flatMap Prod.fst →
        (fresh limit).run pieces = (written.map Prod.snd, none, fresh limit)) ∧
    ∀ whole : List UInt8 × Frame, IsWhole whole → limit + 1 < whole.1.length →
      (fresh limit).IsOutgrown [whole.1.take (limit + 1), whole.1.drop (limit + 1)] := by
  refine ⟨?_, fun written within pieces stream => ?_, fun whole isWhole long => ?_⟩
  · rintro decoder rfl asks
    exact length_le_of_next_nothing positive (Prod.ext asks rfl)
  · exact run_of_frames positive within rfl stream
  · exact isOutgrown_of_long positive isWhole long

/-- Frames of ten bytes pass a limit of nine with heartbeats between them and pieces that hold nine
bytes of a frame, or the end of one and all of the next; a frame of eleven bytes need not. -/
theorem ten_bytes_pass_nine :
    let receipt : List UInt8 × Frame := (Text.toBytes "RECEIPT\n\n\x00", .ofCommand .receipt)
    let beat : List UInt8 × Frame := (Text.toBytes "\r\n", .heartbeat)
    let written := [beat, receipt, receipt, beat]
    let pieces := [Text.toBytes "\r", Text.toBytes "\nRECEIPT\n\n",
      Text.toBytes "\x00RECEIPT\n\n\x00\r", [], Text.toBytes "\n"]
    let long : List UInt8 × Frame :=
      (Text.toBytes "RECEIPT\n\nx\x00", { Frame.ofCommand .receipt with body := [0x78] })
    (1 ≤ 9 ∧ (∀ whole ∈ written, IsWhole whole ∧ whole.1.length ≤ 9 + 1) ∧
        pieces.flatten = written.flatMap Prod.fst ∧
        (fresh 9).run pieces = (written.map Prod.snd, none, fresh 9)) ∧
      IsWhole long ∧ 9 + 1 < long.1.length ∧
        (fresh 9).IsOutgrown [long.1.take (9 + 1), long.1.drop (9 + 1)] := by
  intro receipt beat written pieces long
  have isReceipt : IsWhole receipt := ⟨0, by decide +kernel⟩
  have isBeat : IsWhole beat := ⟨0, by decide +kernel⟩
  have isLong : IsWhole long := ⟨0, by decide +kernel⟩
  have within : ∀ whole ∈ written, IsWhole whole ∧ whole.1.length ≤ 9 + 1 := by
    simp only [written, List.forall_mem_cons, List.not_mem_nil, false_implies, implies_true,
      and_true]
    exact ⟨⟨isBeat, by decide⟩, ⟨isReceipt, by decide⟩, ⟨isReceipt, by decide⟩, isBeat, by decide⟩
  obtain ⟨-, passes, stops⟩ := @limit_is_exact 9 (by decide)
  exact ⟨⟨by decide, within, by decide, passes written within pieces (by decide)⟩, isLong,
    by decide, stops long isLong (by decide)⟩

end Decoder

end EventFeed.Wire
