/-
**What the server's frames have no part in.**

A frame of the server, and whatever the callbacks do that it reaches, has to do with the
subscriptions, the counts of the destinations, the state of the connection, the mailbox, the writers
and the consumer's names. The rest of a world are its surroundings: the clock, the channels, the
keepers, the calls to stop, and what was seen before. Frames are handled the same way in any
surroundings, and leave them as they are.

* `among`: a world in the surroundings of another;
* `handle_among`: a frame is handled there as it is at home;
* `heed_among`: and so are all frames, one after the other;
* `heed_note`: something that was seen before makes no difference.
-/

import EventFeed.Monitor.World

namespace EventFeed.World

open EventFeed.Wire (Frame)

/-- A world in the surroundings of another. What was seen in it comes after what was seen there. -/
def among (world outer : World) : World :=
  { outer with
    registry := world.registry
    sequences := world.sequences
    state := world.state
    mailbox := world.mailbox
    desks := world.desks
    names := world.names
    log := outer.log ++ world.log }

/-- A world in which nothing was seen yet. -/
def unseen (world : World) : World :=
  { world with log := #[] }

/-- The server says something, and more after it. -/
def heed (world : World) (frames : List Frame) : World :=
  frames.foldl handle world

theorem heed_append (world : World) (front later : List Frame) :
    world.heed (front ++ later) = (world.heed front).heed later :=
  List.foldl_append

variable (world outer : World)

section Parts

@[simp] theorem registry_among : (world.among outer).registry = world.registry := rfl

@[simp] theorem sequences_among : (world.among outer).sequences = world.sequences := rfl

@[simp] theorem state_among : (world.among outer).state = world.state := rfl

@[simp] theorem mailbox_among : (world.among outer).mailbox = world.mailbox := rfl

@[simp] theorem names_among : (world.among outer).names = world.names := rfl

@[simp] theorem isAttached_among : (world.among outer).isAttached = world.isAttached := rfl

@[simp] theorem unseen_among : world.unseen.among world = world := by
  unfold unseen among
  rw [Array.append_empty]

end Parts

theorem note_among (occurrence : Occurrence) :
    (world.among outer).note occurrence = (world.note occurrence).among outer := by
  unfold note among
  rw [Array.append_push]

theorem notify_among (notice : Notice) :
    (world.among outer).notify notice = (world.notify notice).among outer := by
  unfold notify
  rw [mailbox_among, note_among]
  split <;> rfl

theorem queue_among (index : Option Nat) (frames : List Frame) :
    (world.among outer).queue index frames = (world.queue index frames).among outer := by
  cases index <;> rfl

theorem subscribe_among (consumer : Consumer) (destination : String) :
    (world.among outer).subscribe consumer destination =
      ((world.subscribe consumer destination).1,
        (world.subscribe consumer destination).2.among outer) := by
  unfold subscribe
  rw [registry_among, isAttached_among]
  cases world.registry.subscribe world.isAttached destination consumer with
  | error error => rfl
  | ok made =>
    dsimp only [withRegistry]
    rw [← queue_among]
    rfl

theorem unsubscribe_among (name : String) :
    (world.among outer).unsubscribe name =
      ((world.unsubscribe name).1, (world.unsubscribe name).2.among outer) := by
  unfold unsubscribe
  rw [names_among]
  cases world.names.lookup name with
  | none => rfl
  | some id =>
    dsimp only [withRegistry]
    rw [← queue_among]
    rfl

theorem send_among (destination : String) (body : Except String Document.Value) :
    (world.among outer).send destination body =
      ((world.send destination body).1, (world.send destination body).2.among outer) := by
  unfold send
  rw [state_among, isAttached_among, registry_among]
  split
  · rfl
  · split
    · rfl
    · cases body with
      | error cause => rfl
      | ok body =>
        dsimp only
        rw [queue_among]
        split <;> rfl

theorem react_among (consumer : Consumer) (event : Event) :
    (world.among outer).react consumer event = (world.react consumer event).among outer := by
  unfold react
  cases consumer.reaction with
  | ignore => rfl
  | note | read names => exact note_among _ _ _
  | crash => dsimp only; rw [note_among, note_among]
  | unsubscribe name => dsimp only; rw [note_among, unsubscribe_among, note_among]
  | reply destination => dsimp only; rw [note_among, send_among, note_among]
  | subscribe destination => dsimp only; rw [note_among, subscribe_among, note_among]

theorem foldl_react_among (targets : List (Subscription Consumer)) (event : Event) :
    targets.foldl (fun world target => world.react target.callback event) (world.among outer) =
      (targets.foldl (fun world target => world.react target.callback event) world).among
        outer := by
  induction targets generalizing world with
  | nil => rfl
  | cons target targets ih => rw [List.foldl_cons, react_among, ih, List.foldl_cons]

theorem deliver_among (frame : Frame) :
    (world.among outer).deliver frame = (world.deliver frame).among outer := by
  unfold deliver
  rw [registry_among, sequences_among]
  generalize Delivery.dispatch world.registry world.sequences frame = result
  cases result with
  | error error => exact note_among { world with sequences := _ } outer _
  | ok delivery? =>
    cases delivery? with
    | none => rfl
    | some delivery =>
      let counted : World :=
        { world with
          sequences := Delivery.sequencesAfter world.sequences (.ok (some delivery)) }
      exact foldl_react_among counted outer delivery.targets delivery.event

theorem confirm_among (frame : Frame) :
    (world.among outer).confirm frame = (world.confirm frame).among outer := by
  unfold confirm
  rw [registry_among]
  dsimp only
  split
  · rfl
  · rw [← notify_among]
    rfl

theorem reject_among (frame : Frame) :
    (world.among outer).reject frame = (world.reject frame).among outer := by
  unfold reject
  split
  · rfl
  · rw [registry_among]
    dsimp only
    split
    · rfl
    · rw [← notify_among]
      rfl

/-- **A frame is handled in any surroundings as it is at home.** -/
theorem handle_among (frame : Frame) :
    (world.among outer).handle frame = (world.handle frame).among outer := by
  unfold handle
  cases frame.command with
  | message => exact deliver_among world outer frame
  | receipt => exact confirm_among world outer frame
  | error => exact reject_among world outer frame
  | _ => rfl

theorem heed_among (frames : List Frame) :
    (world.among outer).heed frames = (world.heed frames).among outer := by
  induction frames generalizing world with
  | nil => rfl
  | cons frame frames ih =>
    rw [heed, List.foldl_cons, handle_among]
    exact ih (world.handle frame)

/-- **Frames are heeded alike in worlds that differ in their surroundings**, and leave these as they
are. -/
theorem heed_of_among {world other : World} (same : world.unseen.among other = other)
    (frames : List Frame) : other.heed frames = (world.unseen.heed frames).among other := by
  rw [← heed_among, same]

/-- Something that was seen before makes no difference to what comes of frames. -/
theorem heed_note (occurrence : Occurrence) (frames : List Frame) :
    ∃ seen, (world.heed frames).log = world.log ++ seen ∧
      (world.note occurrence).heed frames =
        { world.heed frames with log := world.log.push occurrence ++ seen } := by
  have home : world.heed frames = (world.unseen.heed frames).among world :=
    heed_of_among (unseen_among world) frames
  have noted : (world.note occurrence).heed frames =
      (world.unseen.heed frames).among (world.note occurrence) := by
    refine heed_of_among ?_ frames
    unfold unseen among note
    rw [Array.append_empty]
  rw [home, noted]
  exact ⟨(world.unseen.heed frames).log, rfl, rfl⟩

end EventFeed.World
