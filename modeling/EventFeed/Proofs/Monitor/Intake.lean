/-
**What has come in and is not handled yet.**

An intake is a decoder with the knowledge whether it may hold another frame. `Heard` relates it to
all bytes that went into it: the frames that were found are the first ones in those bytes, and the
intake holds all that stands behind them. So frames that are found one by one, while bytes come in
chunks, are the frames that one reading of all the bytes finds.

* `Heard.frame`, `Heard.feed`: a frame that is found is the next one, and bytes go behind;
* `Heard.all`, `Heard.fault`: those were all frames, or all before a fault;
* `connects_of_prefix`, `connects_of_answer`: the first frame that is no heart-beat decides whether
  a session gets connected.
-/

import EventFeed.Monitor.Keeper
import EventFeed.Proofs.Wire.Pieces

namespace EventFeed

open EventFeed.Wire (Frame Decoder DecodeError framesOf)

/-! ### One look at what came in -/

namespace Intake

variable {intake rest : Intake}

/-- A frame that is found is the first of those that came in. -/
theorem framesOf_of_frame {frame : Frame} (found : intake.next = (.ok (some frame), rest)) :
    rest.drained = false ∧ framesOf intake.decoder.buffer =
      (frame :: (framesOf rest.decoder.buffer).1, (framesOf rest.decoder.buffer).2) := by
  unfold next at found
  rcases next : intake.decoder.next with ⟨result, decoder⟩
  rw [next] at found
  cases found
  exact ⟨rfl, (Decoder.framesOf_of_next_frame next).1⟩

/-- A frame that is found leaves fewer bytes. -/
theorem shrinks_of_frame {frame : Frame} (found : intake.next = (.ok (some frame), rest)) :
    rest.decoder.buffer.length < intake.decoder.buffer.length := by
  unfold next at found
  rcases next : intake.decoder.next with ⟨result, decoder⟩
  rw [next] at found
  cases found
  exact Decoder.next_buffer_lt next

theorem drained_of_nothing (found : intake.next = (.ok none, rest)) : rest.drained = true := by
  unfold next at found
  rcases next : intake.decoder.next with ⟨result, decoder⟩
  rw [next] at found
  cases found
  rfl

/-- When nothing is found, what came in stays as it is. -/
theorem decoder_of_nothing (found : intake.next = (.ok none, rest)) :
    rest.decoder = intake.decoder ∧ rest.decoder.next.1 = .ok none := by
  unfold next at found
  rcases next : intake.decoder.next with ⟨result, decoder⟩
  rw [next] at found
  cases found
  obtain ⟨-, rfl⟩ := Decoder.framesOf_of_next_nothing next
  exact ⟨rfl, congrArg Prod.fst next⟩

/-- A fault that is found, other than that a limit is passed, is the first thing that came in. -/
theorem framesOf_of_error {error : DecodeError} (found : intake.next = (.error error, rest))
    (fits : ∀ limit, error.fault ≠ .tooLarge limit) :
    framesOf intake.decoder.buffer = ([], some error.fault, intake.decoder.buffer) := by
  unfold next at found
  rcases next : intake.decoder.next with ⟨result, decoder⟩
  rw [next] at found
  cases found
  exact Decoder.framesOf_of_next_error next (fits _)

/-- When a decoder finds nothing, no frame that came in is all there. -/
theorem framesOf_of_nothing {decoder : Decoder} (nothing : decoder.next.1 = .ok none) :
    framesOf decoder.buffer = ([], none, decoder.buffer) := by
  rcases next : decoder.next with ⟨result, after⟩
  rw [next] at nothing
  cases nothing
  exact (Decoder.framesOf_of_next_nothing next).1

end Intake

/-- Frames that were read stay the first ones when more bytes come. -/
theorem framesOf_grows (bytes more : List UInt8) :
    (framesOf bytes).1 <+: (framesOf (bytes ++ more)).1 := by
  rcases read : framesOf bytes with ⟨frames, fault, left⟩
  cases fault with
  | none =>
    rw [Wire.framesOf_append read more]
    exact List.prefix_append _ _
  | some fault =>
    have same := congrArg Prod.fst (Wire.framesOf_append_of_fault read more)
    exact same ▸ List.prefix_refl _

/-- Whether the given frames are the first ones in the bytes, and what came in holds all that comes
behind them. -/
def Heard (bytes : List UInt8) (frames : List Frame) (intake : Intake) : Prop :=
  framesOf bytes =
    (frames ++ (framesOf intake.decoder.buffer).1, (framesOf intake.decoder.buffer).2)

namespace Heard

variable {bytes : List UInt8} {frames : List Frame} {intake rest : Intake}

/-- At first nothing has come. -/
theorem fresh (limit : Nat) : Heard [] [] (.fresh limit) := by
  simp [Heard, Intake.fresh, Decoder.fresh]

/-- A frame that is found is the next one. -/
theorem frame (heard : Heard bytes frames intake) {frame : Frame}
    (found : intake.next = (.ok (some frame), rest)) : Heard bytes (frames ++ [frame]) rest := by
  have first := (Intake.framesOf_of_frame found).2
  unfold Heard at heard ⊢
  rw [heard, first, List.append_assoc]
  rfl

theorem nothing (heard : Heard bytes frames intake) (found : intake.next = (.ok none, rest)) :
    Heard bytes frames rest := by
  unfold Heard
  rw [(Intake.decoder_of_nothing found).1]
  exact heard

/-- When nothing is found any more, those were all frames. -/
theorem all (heard : Heard bytes frames intake) (nothing : intake.decoder.next.1 = .ok none) :
    framesOf bytes = (frames, none, intake.decoder.buffer) := by
  unfold Heard at heard
  rw [heard, Intake.framesOf_of_nothing nothing, List.append_nil]

/-- A fault that is found stands behind those frames. -/
theorem fault (heard : Heard bytes frames intake) {error : DecodeError}
    (found : intake.next = (.error error, rest)) (fits : ∀ limit, error.fault ≠ .tooLarge limit) :
    framesOf bytes = (frames, some error.fault, intake.decoder.buffer) := by
  unfold Heard at heard
  rw [heard, Intake.framesOf_of_error found fits, List.append_nil]

/-- When nothing is found any more, what comes then goes behind those frames. -/
theorem feed (heard : Heard bytes frames intake) (nothing : intake.decoder.next.1 = .ok none)
    (chunk : List UInt8) : Heard (bytes ++ chunk) frames (intake.feed chunk) :=
  Wire.framesOf_append (heard.all nothing) chunk

/-- Those frames stay the first ones, whatever comes behind. -/
theorem prefix_stream (heard : Heard bytes frames intake) {stream : List UInt8}
    (isPrefix : bytes <+: stream) : frames <+: (framesOf stream).1 := by
  obtain ⟨more, rfl⟩ := isPrefix
  refine List.IsPrefix.trans ?_ (framesOf_grows bytes more)
  unfold Heard at heard
  rw [heard]
  exact List.prefix_append _ _

end Heard

/-! ### The answer of the server -/

/-- Whether the first frame that is no heart-beat is the answer that connects a session. -/
def connects (frames : List Frame) : Bool :=
  (frames.dropWhile Frame.isHeartbeat).head?.any fun frame => frame.command = .connected

section Answer

variable {beats frames later : List Frame} {frame answer : Frame}

/-- Heart-beats are passed over. -/
theorem dropWhile_beats (areBeats : ∀ beat ∈ beats, beat.command = .heartbeat)
    (frames : List Frame) :
    (beats ++ frames).dropWhile Frame.isHeartbeat = frames.dropWhile Frame.isHeartbeat :=
  List.dropWhile_append_of_pos fun beat member => decide_eq_true (areBeats beat member)

/-- The answer is the first frame that is no heart-beat. -/
theorem dropWhile_answer (areBeats : ∀ beat ∈ beats, beat.command = .heartbeat)
    (answers : answer.command = .connected) :
    (beats ++ answer :: frames).dropWhile Frame.isHeartbeat = answer :: frames := by
  rw [dropWhile_beats areBeats]
  simp [Frame.isHeartbeat, answers]

/-- Frames of which the first one that is no heart-beat is the answer connect a session. -/
theorem connects_of_answer (areBeats : ∀ beat ∈ beats, beat.command = .heartbeat)
    (answers : answer.command = .connected) (isPrefix : beats ++ answer :: frames <+: later) :
    connects later = true := by
  obtain ⟨more, rfl⟩ := isPrefix
  rw [connects, List.append_assoc, List.cons_append, dropWhile_answer areBeats answers]
  exact decide_eq_true answers

/-- Frames of which the first one that is no heart-beat is no answer connect nothing. -/
theorem connects_of_prefix (areBeats : ∀ beat ∈ beats, beat.command = .heartbeat)
    (noBeat : frame.command ≠ .heartbeat) (noAnswer : frame.command ≠ .connected)
    (isPrefix : beats ++ [frame] <+: later) : connects later = false := by
  obtain ⟨more, rfl⟩ := isPrefix
  rw [connects, List.append_assoc, dropWhile_beats areBeats]
  simp [Frame.isHeartbeat, noBeat, noAnswer]

/-- Heart-beats alone connect nothing. -/
theorem connects_of_beats (areBeats : ∀ beat ∈ beats, beat.command = .heartbeat) :
    connects beats = false := by
  rw [connects, ← List.append_nil beats, dropWhile_beats areBeats]
  rfl

end Answer

end EventFeed
