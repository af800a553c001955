/-
**From messages to events.**

A message becomes an event if it names a destination, someone is subscribed to it, nothing speaks
against its being JSON, and its body is a JSON object. Events are numbered for each destination from
one on, across all sessions; a message that becomes no event takes no number.

* `count_advance`: an event takes the next number of its destination and of no other;
* `sequence_dispatch`: an event carries the number that it takes.
-/

import EventFeed.Subscription.Registry

namespace EventFeed

open EventFeed.Wire (Frame)

/-- An event for a consumer. -/
structure Event where
  destination : String
  payload : Document.Value
  sequence : Nat
  messageId : Option String

/-- How many events each destination had so far. -/
structure Sequences where
  counts : List (String × Nat)
  deriving DecidableEq, Repr

namespace Sequences

def empty : Sequences := ⟨[]⟩

/-- The number of events of a destination so far. -/
def count (sequences : Sequences) (destination : String) : Nat :=
  ((sequences.counts.find? fun pair => pair.1 = destination).map Prod.snd).getD 0

def advance (sequences : Sequences) (destination : String) : Sequences :=
  ⟨(destination, sequences.count destination + 1) ::
    sequences.counts.filter fun pair => pair.1 ≠ destination⟩

/-- An event takes the next number of its destination and of no other. -/
theorem count_advance (sequences : Sequences) (destination other : String) :
    (sequences.advance destination).count other =
      if destination = other then sequences.count destination + 1 else sequences.count other := by
  by_cases same : destination = other
  · simp [advance, count, same]
  · simp only [advance, count, same, if_false, List.find?_cons, decide_false]
    congr 2
    rw [List.find?_filter]
    congr 1
    funext pair
    by_cases held : pair.1 = other
    · simpa [held] using fun equal : other = destination => same equal.symm
    · simp [held]

end Sequences

/-- An event with the subscriptions that it reaches, in the order in which they were made. -/
structure Delivery (κ : Type) where
  event : Event
  targets : List (Subscription κ)

namespace Delivery

variable {κ : Type}

def destination? (frame : Frame) : Option String :=
  (frame.header? Wire.Header.destination).filter fun destination => !destination.isEmpty

def payload (frame : Frame) : Except PayloadError Document.Value :=
  if !frame.isJson then
    .error (.contentType ((frame.header? Wire.Header.contentType).getD ""))
  else match frame.json with
  | .error error => .error (.unreadable error)
  | .ok value => if value.isObject then .ok value else .error .notAnObject

/-- What a message delivers: an event, nothing because nobody is subscribed, or a reason why it is
no event. -/
def dispatch (registry : Registry κ) (sequences : Sequences) (frame : Frame) :
    Except PayloadError (Option (Delivery κ)) :=
  match destination? frame with
  | none => .error .missingDestination
  | some destination =>
    match registry.route (frame.header? Wire.Header.subscription) destination with
    | [] => .ok none
    | targets =>
      match payload frame with
      | .error error => .error error
      | .ok payload =>
        let sequence := sequences.count destination + 1
        let messageId := frame.header? Wire.Header.messageId
        .ok (some ⟨⟨destination, payload, sequence, messageId⟩, targets⟩)

/-- The numbers after a message: only an event takes one. -/
def sequencesAfter (sequences : Sequences) :
    Except PayloadError (Option (Delivery κ)) → Sequences
  | .ok (some delivery) => sequences.advance delivery.event.destination
  | _ => sequences

/-- An event carries the number that it takes. -/
theorem sequence_dispatch {registry : Registry κ} {sequences : Sequences} {frame : Frame}
    {delivery : Delivery κ} (delivered : dispatch registry sequences frame = .ok (some delivery)) :
    delivery.event.sequence =
      (sequencesAfter sequences (dispatch registry sequences frame)).count
        delivery.event.destination := by
  have taken : delivery.event.sequence = sequences.count delivery.event.destination + 1 := by
    unfold dispatch at delivered
    split at delivered
    · cases delivered
    · split at delivered
      · cases delivered
      · split at delivered
        · cases delivered
        · cases delivered
          rfl
  rw [delivered, taken]
  simp [sequencesAfter, Sequences.count_advance]

end Delivery

end EventFeed
