/-
**What a client queues can be sent, and comes back.**

The frames that wait for a writer are made by few functions, from any texts and any values. Each has
the headers that its command asks for, so the writer leaves none of them out, and its bytes tell the
frame, whatever characters its texts have. Only a body longer than a machine word can count would be
different, and there is none in memory.

* `isValid_of_errand`, `isValid_farewell`: the writer leaves none of them out;
* `isRepresentable_of_errand`, `isRepresentable_farewell`: the server reads each as it was made.
-/

import EventFeed.Proofs.Monitor.Errands
import EventFeed.Proofs.Numeral.Reading
import EventFeed.Proofs.Wire.RoundTrip

namespace EventFeed

open EventFeed.Numeral
open EventFeed.Wire (Frame)

section Frames

variable {frame : Frame}

/-- A frame whose command escapes its texts is told by its bytes, if they tell where its body
ends. -/
theorem isRepresentable_of_measured (escapes : frame.command.escapes = true)
    (measured : frame.IsMeasured) : frame.IsRepresentable := by
  refine .inr ⟨?_, measured, fun plain => ?_⟩
  · intro beat
    rw [beat] at escapes
    cases escapes
  · rw [escapes] at plain
    cases plain

/-- A frame without a body need not say how long it is. -/
theorem isMeasured_of_bare (unsaid : frame.header? Wire.Header.contentLength = none)
    (bare : frame.body = []) : frame.IsMeasured := by
  refine ⟨fun declared member => ?_, fun _ => ?_⟩
  · rw [unsaid] at member
    cases member
  · rw [bare]
    exact List.not_mem_nil

/-- A frame that was given a body is as long as it says. -/
theorem isMeasured_withBody {body : List UInt8} (fits : body.length < wordBound) :
    (frame.withBody body).IsMeasured := by
  have declared := Frame.header?_withBody frame body
  refine ⟨fun text member => ?_, fun unsaid => ?_⟩
  · rw [declared] at member
    rw [← Option.mem_some.mp member, trim_decimal]
    exact read?_decimal fits
  · rw [declared] at unsaid
    cases unsaid

end Frames

/-! ### The frames of a client -/

/-- What the consumer sends has the header that its command asks for, and is as long as it says. -/
theorem isValid_parcel {destination : String} {body : Document.Value}
    (fits : (World.parcel destination body).body.length < wordBound) :
    (World.parcel destination body).isValid = true := by
  have asked : (World.parcel destination body).command.required.find?
      (fun name => !(World.parcel destination body).headers.contains name) = none := rfl
  have declared : (World.parcel destination body).header? Wire.Header.contentLength =
      some (decimal (World.parcel destination body).body.length) :=
    Frame.header?_withBody _ _
  unfold Frame.isValid Frame.defect?
  rw [asked]
  dsimp only
  rw [declared]
  simp [read?_decimal fits]

/-- **The writer leaves out no errand.** -/
theorem isValid_of_errand {frame : Frame} (errand : IsErrand frame)
    (fits : frame.body.length < wordBound) : frame.isValid = true := by
  cases errand with
  | subscribe wireName destination => rfl
  | unsubscribe wireName => rfl
  | send destination body => exact isValid_parcel fits
  | beat => rfl

/-- **The server reads an errand as it was made.** -/
theorem isRepresentable_of_errand {frame : Frame} (errand : IsErrand frame)
    (fits : frame.body.length < wordBound) : frame.IsRepresentable := by
  cases errand with
  | subscribe wireName destination =>
    exact isRepresentable_of_measured rfl (isMeasured_of_bare rfl rfl)
  | unsubscribe wireName => exact isRepresentable_of_measured rfl (isMeasured_of_bare rfl rfl)
  | send destination body => exact isRepresentable_of_measured rfl (isMeasured_withBody fits)
  | beat => exact .inl rfl

theorem isValid_farewell (receipt : String) : (farewell receipt).isValid = true :=
  rfl

theorem isRepresentable_farewell (receipt : String) : (farewell receipt).IsRepresentable :=
  isRepresentable_of_measured rfl (isMeasured_of_bare rfl rfl)

/-- The request for a subscription is an errand. -/
theorem isErrand_request {κ : Type} (entry : Subscription κ) :
    IsErrand (Registry.request entry) :=
  .subscribe _ _

end EventFeed
