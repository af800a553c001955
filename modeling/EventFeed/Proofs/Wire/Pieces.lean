/-
**A stream may be cut anywhere.**

The pieces in which the bytes of a stream come have nothing to do with its frames. `framesOf` reads
bytes that are all there at once and knows no limit; a decoder that is fed piece by piece and looked
through after each comes to the same frames and the same fault, or to the same bytes left, unless
its limit stops it on the way.

* `framesOf_append`: bytes that come later go behind what earlier ones left;
* `run_eq_framesOf`: a decoder's run is one reading of all its pieces;
* `run_eq_of_flatten_eq`: two ways of cutting the same bytes come to the same.
-/

import EventFeed.Proofs.Wire.Stability

namespace EventFeed.Wire

/-! ### Bytes that are all there -/

/-- All frames that the bytes begin with, the fault behind them if there is one, and the bytes that
are left. -/
def framesOf (bytes : List UInt8) : List Frame × Option Fault × List UInt8 :=
  match _found : decodeUnbounded bytes with
  | .done frame rest =>
    let (frames, fault, left) := framesOf rest
    (frame :: frames, fault, left)
  | .more => ([], none, bytes)
  | .failed fault => ([], some fault, bytes)
  termination_by bytes.length
  decreasing_by exact decodeUnbounded_rest_lt _found

theorem framesOf_of_done {bytes rest : List UInt8} {frame : Frame}
    (found : decodeUnbounded bytes = .done frame rest) :
    framesOf bytes = (frame :: (framesOf rest).1, (framesOf rest).2) := by
  rw [framesOf]
  split
  · rename_i same
    cases found.symm.trans same
    rfl
  · rename_i same
    cases found.symm.trans same
  · rename_i same
    cases found.symm.trans same

theorem framesOf_of_more {bytes : List UInt8} (waits : decodeUnbounded bytes = .more) :
    framesOf bytes = ([], none, bytes) := by
  rw [framesOf]
  split
  · rename_i same
    cases waits.symm.trans same
  · rfl
  · rename_i same
    cases waits.symm.trans same

theorem framesOf_of_failed {bytes : List UInt8} {fault : Fault}
    (failed : decodeUnbounded bytes = .failed fault) :
    framesOf bytes = ([], some fault, bytes) := by
  rw [framesOf]
  split
  · rename_i same
    cases failed.symm.trans same
  · rename_i same
    cases failed.symm.trans same
  · rename_i same
    cases failed.symm.trans same
    rfl

/-- What is left without a fault is the start of a frame that is not all there. -/
theorem decodeUnbounded_left {bytes left : List UInt8} {frames : List Frame}
    (read : framesOf bytes = (frames, none, left)) : decodeUnbounded left = .more := by
  fun_induction framesOf bytes generalizing frames with
  | case1 bytes frame rest found later fault tail reading step =>
    cases read
    exact step reading
  | case2 bytes waits =>
    cases read
    exact waits
  | case3 => cases read

/-- **Bytes behind a fault change nothing.** -/
theorem framesOf_append_of_fault {bytes left : List UInt8} {frames : List Frame} {fault : Fault}
    (read : framesOf bytes = (frames, some fault, left)) (more : List UInt8) :
    framesOf (bytes ++ more) = (frames, some fault, left ++ more) := by
  fun_induction framesOf bytes generalizing frames with
  | case1 bytes frame rest found later found' tail reading step =>
    cases read
    have grown := stable_decodeUnbounded bytes more (by simp [found])
    rw [found] at grown
    rw [framesOf_of_done grown, step reading]
  | case2 => cases read
  | case3 bytes found failed =>
    have grown := stable_decodeUnbounded bytes more (by simp [failed])
    rw [failed] at grown
    cases read
    exact framesOf_of_failed grown

/-- **Bytes that come later go behind what earlier ones left.** -/
theorem framesOf_append {bytes left : List UInt8} {frames : List Frame}
    (read : framesOf bytes = (frames, none, left)) (more : List UInt8) :
    framesOf (bytes ++ more) =
      (frames ++ (framesOf (left ++ more)).1, (framesOf (left ++ more)).2) := by
  fun_induction framesOf bytes generalizing frames with
  | case1 bytes frame rest found later fault tail reading step =>
    cases read
    have grown := stable_decodeUnbounded bytes more (by simp [found])
    rw [found] at grown
    rw [framesOf_of_done grown, step reading, List.cons_append]
  | case2 bytes waits =>
    cases read
    rfl
  | case3 => cases read

/-! ### A decoder that is fed piece by piece -/

namespace Decoder

/-- Whether the limit stops a decoder while it is fed. -/
def IsOutgrown (decoder : Decoder) (pieces : List (List UInt8)) : Prop :=
  (decoder.run pieces).2.1.map DecodeError.fault = some (.tooLarge decoder.limit)

instance (decoder : Decoder) (pieces : List (List UInt8)) :
    Decidable (decoder.IsOutgrown pieces) :=
  inferInstanceAs (Decidable (_ = _))

section Next

variable {decoder after : Decoder}

/-- A frame that a decoder finds is the first of what has come. -/
theorem framesOf_of_next_frame {frame : Frame}
    (found : decoder.next = (.ok (some frame), after)) :
    framesOf decoder.buffer = (frame :: (framesOf after.buffer).1, (framesOf after.buffer).2) ∧
      after.limit = decoder.limit := by
  unfold next at found
  split at found <;> cases found
  rename_i decoded
  rcases decode_eq decoder.limit decoder.buffer with large | equal
  · cases large.symm.trans decoded
  · exact ⟨framesOf_of_done (equal.symm.trans decoded), rfl⟩

/-- When a decoder finds nothing, no frame is all there. -/
theorem framesOf_of_next_nothing (found : decoder.next = (.ok none, after)) :
    framesOf decoder.buffer = ([], none, decoder.buffer) ∧ after = decoder := by
  unfold next at found
  split at found <;> cases found
  rename_i decoded
  rcases decode_eq decoder.limit decoder.buffer with large | equal
  · cases large.symm.trans decoded
  · exact ⟨framesOf_of_more (equal.symm.trans decoded), rfl⟩

/-- A fault that a decoder finds, other than that its limit is passed, stands before any frame. -/
theorem framesOf_of_next_error {error : DecodeError}
    (found : decoder.next = (.error error, after))
    (fits : error.fault ≠ .tooLarge decoder.limit) :
    framesOf decoder.buffer = ([], some error.fault, decoder.buffer) := by
  unfold next at found
  split at found <;> cases found
  rename_i fault decoded
  rcases decode_eq decoder.limit decoder.buffer with large | equal
  · cases large.symm.trans decoded
    exact absurd rfl fits
  · exact framesOf_of_failed (equal.symm.trans decoded)

end Next

/-- A decoder that is looked through reads what is there, unless its limit stops it. -/
theorem drain_eq_framesOf {decoder after : Decoder} {frames : List Frame}
    {error : Option DecodeError} (drained : decoder.drain = (frames, error, after))
    (fits : ∀ found, error = some found → found.fault ≠ .tooLarge decoder.limit) :
    framesOf decoder.buffer = (frames, error.map DecodeError.fault, after.buffer) ∧
      after.limit = decoder.limit := by
  fun_induction drain decoder generalizing frames error after with
  | case1 decoder frame rest found later last left reading step =>
    cases drained
    obtain ⟨first, sameLimit⟩ := framesOf_of_next_frame found
    rw [sameLimit] at step
    obtain ⟨same, limit⟩ := step reading fits
    rw [first, same]
    exact ⟨rfl, limit⟩
  | case2 decoder after found =>
    cases drained
    obtain ⟨nothing, rfl⟩ := framesOf_of_next_nothing found
    exact ⟨nothing, rfl⟩
  | case3 decoder error after found =>
    cases drained
    obtain rfl := next_fault found
    exact ⟨framesOf_of_next_error found (fits error rfl), rfl⟩

/-- **A decoder's run is one reading of all its pieces**, unless its limit stops it. -/
theorem run_eq_framesOf {decoder : Decoder} (pieces : List (List UInt8))
    (waits : decodeUnbounded decoder.buffer = .more) (fits : ¬ decoder.IsOutgrown pieces) :
    let result := decoder.run pieces
    let whole := framesOf (decoder.buffer ++ pieces.flatten)
    result.1 = whole.1 ∧ result.2.1.map DecodeError.fault = whole.2.1 ∧
      (result.2.1 = none → result.2.2.buffer = whole.2.2) := by
  induction pieces generalizing decoder with
  | nil => simp [run, framesOf_of_more waits]
  | cons piece pieces step =>
    unfold IsOutgrown at fits
    unfold run at fits ⊢
    rcases drained : (decoder.feed piece).drain with ⟨frames, found, after⟩
    have pass : decoder.buffer ++ (piece :: pieces).flatten =
        (decoder.feed piece).buffer ++ pieces.flatten := by
      rw [List.flatten_cons, feed, List.append_assoc]
    rw [pass]
    cases found with
    | some error =>
      simp only [drained] at fits ⊢
      obtain ⟨read, -⟩ := drain_eq_framesOf drained fun found same large => by
        cases same
        exact fits (congrArg some large)
      rw [framesOf_append_of_fault read pieces.flatten]
      exact ⟨rfl, rfl, nofun⟩
    | none =>
      simp only [drained] at fits ⊢
      obtain ⟨read, limit⟩ := drain_eq_framesOf drained nofun
      rw [← show after.limit = decoder.limit from limit] at fits
      obtain ⟨later, fault, left⟩ := step (decodeUnbounded_left read) fits
      rw [framesOf_append read pieces.flatten, later, fault]
      exact ⟨rfl, rfl, left⟩

/-- **Two ways of cutting the same bytes come to the same**: the same frames in the same order, and
the same fault or the same bytes left. -/
theorem run_eq_of_flatten_eq (limit : Nat) {first second : List (List UInt8)}
    (same : first.flatten = second.flatten) (firstFits : ¬ (fresh limit).IsOutgrown first)
    (secondFits : ¬ (fresh limit).IsOutgrown second) :
    let one := (fresh limit).run first
    let other := (fresh limit).run second
    one.1 = other.1 ∧ one.2.1.map DecodeError.fault = other.2.1.map DecodeError.fault ∧
      (one.2.1 = none → one.2.2.buffer = other.2.2.buffer) := by
  obtain ⟨frames, fault, left⟩ := run_eq_framesOf first rfl firstFits
  obtain ⟨frames', fault', left'⟩ := run_eq_framesOf second rfl secondFits
  rw [same] at frames fault left
  refine ⟨frames.trans frames'.symm, fault.trans fault'.symm, fun quiet => ?_⟩
  have quiet' : ((fresh limit).run second).2.1 = none := by
    have sameFault := fault.trans fault'.symm
    rw [quiet] at sameFault
    simpa using sameFault.symm
  exact (left quiet).trans (left' quiet').symm

/-- A cut between a carriage return and its line feed, and one before the byte that makes a fault of
the next, change nothing. -/
theorem run_eq_at_carriage_returns :
    let first := [Text.toBytes "\r", Text.toBytes "\nRECEIPT\r", [],
      Text.toBytes "\nreceipt-id:1\r\n\n", Text.toBytes "\x00\r", Text.toBytes "X\n"]
    let second := [Text.toBytes "\r\nRECEIPT\r\nreceipt-id:1\r\n\n\x00\rX\n"]
    let one := (fresh 64).run first
    let other := (fresh 64).run second
    first.flatten = second.flatten ∧ ¬ (fresh 64).IsOutgrown first ∧
      ¬ (fresh 64).IsOutgrown second ∧ one.2.1.map DecodeError.fault = some .emptyCommand ∧
      one.1 = other.1 ∧ one.2.1.map DecodeError.fault = other.2.1.map DecodeError.fault ∧
      (one.2.1 = none → one.2.2.buffer = other.2.2.buffer) :=
  ⟨by decide, by decide +kernel, by decide +kernel, by decide +kernel,
    run_eq_of_flatten_eq 64 (by decide) (by decide +kernel) (by decide +kernel)⟩

end Decoder

end EventFeed.Wire
