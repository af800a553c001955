/-
**The numbers of events.**

Each destination has a count of its own, and only an event takes a number from it. So the events of
a destination, with their numbers and the subscriptions that they reach, are told by the messages
that become events of it and by the subscriptions as those messages meet them; no other message has
a part in it, wherever it comes in between.

Subscriptions stand in the order in which they were made, whatever is done with the registry and
however sessions begin and end in between, so a message never meets one subscription twice.

* `Registry.IsNumbered`: the order of the subscriptions, kept by every operation;
* `eventsAt_dispatchAll`: the events of a destination and their numbers, told from the messages that
  become events of it.
-/

import EventFeed.Proofs.Subscription.Bookkeeping
import EventFeed.Subscription.Delivery

namespace EventFeed

open EventFeed.Wire (Frame)

variable {κ : Type}

/-! ### The order of subscriptions -/

namespace Registry

/-- The subscriptions stand in the order of their numbers, and the next number is a new one. -/
structure IsNumbered (registry : Registry κ) : Prop where
  ordered : (registry.entries.map Subscription.id).Pairwise (· < ·)
  made : ∀ id ∈ registry.entries.map Subscription.id, id < registry.made

variable {registry after : Registry κ}

theorem isNumbered_empty (seed : Nat) : (empty seed : Registry κ).IsNumbered :=
  ⟨List.Pairwise.nil, nofun⟩

/-- No number is given twice. -/
theorem IsNumbered.ids (numbered : registry.IsNumbered) :
    (registry.entries.map Subscription.id).Nodup :=
  numbered.ordered.imp Nat.ne_of_lt

/-- What takes subscriptions away and gives no number keeps the order. -/
theorem IsNumbered.shrink (numbered : registry.IsNumbered)
    (fewer : (after.entries.map Subscription.id).Sublist (registry.entries.map Subscription.id))
    (sameMade : after.made = registry.made) : after.IsNumbered where
  ordered := numbered.ordered.sublist fewer
  made := fun id member => sameMade ▸ numbered.made id (fewer.subset member)

theorem ids_eq_of_list (same : after.list = registry.list) :
    after.entries.map Subscription.id = registry.entries.map Subscription.id := by
  have ids : ∀ registry : Registry κ,
      registry.list.map Prod.fst = registry.entries.map Subscription.id := by
    intro registry
    rw [list, List.map_map]
    rfl
  rw [← ids, ← ids, same]

theorem IsNumbered.keep (numbered : registry.IsNumbered) (same : after.list = registry.list)
    (sameMade : after.made = registry.made) : after.IsNumbered :=
  numbered.shrink (ids_eq_of_list same ▸ List.Sublist.refl _) sameMade

theorem made_flush (registry : Registry κ) (isOpen : Bool) (entry : Subscription κ) :
    (registry.flush isOpen entry).1.made = registry.made := by
  cases isOpen <;> rfl

theorem made_flushAll (isOpen : Bool) (registry : Registry κ) (entries : List (Subscription κ)) :
    (flushAll isOpen registry entries).1.made = registry.made := by
  induction entries generalizing registry with
  | nil => rfl
  | cons entry entries ih => rw [flushAll_cons, ih, made_flush]

theorem IsNumbered.flush (numbered : registry.IsNumbered) (isOpen : Bool)
    (entry : Subscription κ) : (registry.flush isOpen entry).1.IsNumbered :=
  numbered.keep (list_flush registry isOpen entry) (made_flush registry isOpen entry)

theorem IsNumbered.attach (numbered : registry.IsNumbered) (isOpen : Bool) (writer : Nat) :
    (registry.attach isOpen writer).1.IsNumbered :=
  numbered.keep (list_attach registry isOpen writer) (made_flushAll isOpen _ _)

theorem IsNumbered.detach (numbered : registry.IsNumbered) : registry.detach.IsNumbered :=
  numbered.keep (list_detach registry) rfl

theorem IsNumbered.subscribe (numbered : registry.IsNumbered) {isOpen : Bool}
    {destination : String} {callback : κ} {id : Nat} {frames : List Frame}
    (made : registry.subscribe isOpen destination callback = .ok (id, after, frames)) :
    after.IsNumbered := by
  let entry : Subscription κ := ⟨registry.made, destination, callback, none, false⟩
  let grown := { registry with entries := registry.entries ++ [entry], made := registry.made + 1 }
  have numberedGrown : grown.IsNumbered := by
    constructor
    · show ((registry.entries ++ [entry]).map Subscription.id).Pairwise (· < ·)
      rw [List.map_append, List.pairwise_append]
      refine ⟨numbered.ordered, List.pairwise_singleton _ _, fun old member new isNew => ?_⟩
      rw [List.mem_singleton.mp isNew]
      exact numbered.made old member
    · show ∀ id ∈ (registry.entries ++ [entry]).map Subscription.id, id < registry.made + 1
      intro id member
      rw [List.map_append, List.mem_append] at member
      rcases member with old | new
      · exact Nat.lt_succ_of_lt (numbered.made id old)
      · rw [List.mem_singleton.mp new]
        exact Nat.lt_succ_self _
  obtain ⟨-, -, ⟨-, rfl, -⟩ | ⟨-, rfl, -⟩⟩ := subscribe_cases made
  · exact numberedGrown
  · exact numberedGrown.flush isOpen entry

theorem ids_without (entries : List (Subscription κ)) (id : Nat) :
    ((without entries id).map Subscription.id).Sublist (entries.map Subscription.id) :=
  List.filter_sublist.map _

/-- Only a blank destination is refused. -/
theorem allBlank_of_subscribe {isOpen : Bool} {destination : String} {callback : κ}
    {error : SubscriptionError}
    (refused : registry.subscribe isOpen destination callback = .error error) :
    Text.allBlank destination = true := by
  unfold Registry.subscribe at refused
  split at refused
  · assumption
  · dsimp only at refused
    split at refused <;> cases refused

/-- One more subscription is made if its destination is not blank. -/
theorem made_subscribe {isOpen : Bool} {destination : String} {callback : κ} {id : Nat}
    {frames : List Frame}
    (made : registry.subscribe isOpen destination callback = .ok (id, after, frames)) :
    ¬Text.allBlank destination = true ∧ after.made = registry.made + 1 := by
  obtain ⟨named, -, ⟨-, rfl, -⟩ | ⟨-, rfl, -⟩⟩ := subscribe_cases made
  · exact ⟨named, rfl⟩
  · exact ⟨named, made_flush _ _ _⟩

theorem made_unsubscribe (registry : Registry κ) (isOpen : Bool) (id : Nat) :
    (registry.unsubscribe isOpen id).2.1.made = registry.made := by
  unfold Registry.unsubscribe
  split
  · rfl
  · dsimp only
    split <;> rfl

theorem made_confirm (registry : Registry κ) (receipt : String) :
    (registry.confirm receipt).2.made = registry.made := by
  unfold Registry.confirm
  split <;> rfl

theorem made_reject (registry : Registry κ) (receipt : String) :
    (registry.reject receipt).2.made = registry.made := by
  unfold Registry.reject
  split <;> rfl

theorem list_without (entries : List (Subscription κ)) (id : Nat) :
    (without entries id).map (fun entry => (entry.id, entry.destination)) =
      (entries.map fun entry => (entry.id, entry.destination)).filter fun pair => pair.1 ≠ id := by
  rw [without, List.filter_map]
  rfl

/-- A confirmation changes no number and no destination. -/
theorem list_confirm (registry : Registry κ) (receipt : String) :
    (registry.confirm receipt).2.list = registry.list := by
  unfold Registry.confirm
  split
  · rfl
  · simp only [list, change, List.map_map]
    refine List.map_congr_left fun entry _ => ?_
    rw [Function.comp_apply]
    split <;> rfl

/-- A removal takes out exactly the subscription with the number. -/
theorem list_unsubscribe (registry : Registry κ) (isOpen : Bool) (id : Nat) :
    (registry.unsubscribe isOpen id).2.1.list = registry.list.filter fun pair => pair.1 ≠ id := by
  rw [list, entries_unsubscribe, list_without]
  rfl

/-- A refusal takes out exactly the subscription that it is about. -/
theorem list_reject (registry : Registry κ) (receipt : String) :
    (registry.reject receipt).2.list = match registry.unconfirmed? receipt with
      | none => registry.list
      | some entry => registry.list.filter fun pair => pair.1 ≠ entry.id := by
  unfold Registry.reject
  cases registry.unconfirmed? receipt with
  | none => rfl
  | some entry => exact list_without registry.entries entry.id

theorem IsNumbered.unsubscribe (numbered : registry.IsNumbered) (isOpen : Bool) (id : Nat) :
    (registry.unsubscribe isOpen id).2.1.IsNumbered := by
  refine numbered.shrink ?_ (made_unsubscribe registry isOpen id)
  rw [entries_unsubscribe]
  exact ids_without _ _

theorem IsNumbered.confirm (numbered : registry.IsNumbered) (receipt : String) :
    (registry.confirm receipt).2.IsNumbered :=
  numbered.keep (list_confirm registry receipt) (made_confirm registry receipt)

theorem IsNumbered.reject (numbered : registry.IsNumbered) (receipt : String) :
    (registry.reject receipt).2.IsNumbered := by
  refine numbered.shrink ?_ (made_reject registry receipt)
  unfold Registry.reject
  split
  · exact List.Sublist.refl _
  · exact ids_without _ _

/-- What a message reaches are subscriptions in their order. -/
theorem route_sublist (registry : Registry κ) (wireName : Option String) (destination : String) :
    (registry.route wireName destination).Sublist registry.entries := by
  unfold route
  split
  · rename_i entry found
    obtain ⟨name, -, found⟩ := Option.bind_eq_some_iff.mp found
    obtain ⟨pair, -, found⟩ := Option.bind_eq_some_iff.mp found
    exact List.singleton_sublist.mpr (List.mem_of_find?_eq_some found)
  · split
    · exact List.nil_sublist _
    · exact List.filter_sublist

end Registry

/-! ### Messages and their events -/

/-- A message, with the subscriptions as it meets them. -/
structure Meeting (κ : Type) where
  registry : Registry κ
  frame : Frame

namespace Meeting

/-- The subscriptions that a message reaches at a destination. -/
def targets (meeting : Meeting κ) (destination : String) : List (Subscription κ) :=
  meeting.registry.route (meeting.frame.header? Wire.Header.subscription) destination

/-- The payload of a message, if it is a JSON object and nothing speaks against its being JSON. -/
def payload? (meeting : Meeting κ) : Option Document.Value :=
  if meeting.frame.isJson then meeting.frame.json.toOption.filter Document.Value.isObject else none

/-- Whether a message becomes an event of a destination: it names it, somebody is subscribed, and
there is a payload. -/
def becomes (destination : String) (meeting : Meeting κ) : Bool :=
  meeting.frame.header? Wire.Header.destination = some destination && !destination.isEmpty &&
    !(meeting.targets destination).isEmpty && meeting.payload?.isSome

/-- The event that a message becomes, with a number, and the subscriptions that it reaches. -/
def delivery (destination : String) (number : Nat) (meeting : Meeting κ) : Delivery κ where
  event :=
    { destination := destination
      payload := meeting.payload?.getD .null
      sequence := number
      messageId := meeting.frame.header? Wire.Header.messageId }
  targets := meeting.targets destination

end Meeting

namespace Delivery

/-- What comes of messages that are met one after the other. -/
def dispatchAll (sequences : Sequences) :
    List (Meeting κ) → List (Except PayloadError (Option (Delivery κ)))
  | [] => []
  | meeting :: later =>
    let result := dispatch meeting.registry sequences meeting.frame
    result :: dispatchAll (sequencesAfter sequences result) later

/-- What is delivered, if something is. -/
def delivered? : Except PayloadError (Option (Delivery κ)) → Option (Delivery κ)
  | .ok delivery => delivery
  | .error _ => none

/-- What is delivered of a destination. -/
def eventsAt (destination : String) (results : List (Except PayloadError (Option (Delivery κ)))) :
    List (Delivery κ) :=
  (results.filterMap delivered?).filter fun delivery => delivery.event.destination = destination

variable {sequences : Sequences} {destination : String} {meeting : Meeting κ}

/-- A payload is there if nothing is wrong with it. -/
theorem payload?_eq (meeting : Meeting κ) :
    meeting.payload? = (payload meeting.frame).toOption := by
  unfold Meeting.payload? payload
  cases isJson : meeting.frame.isJson with
  | false => rfl
  | true =>
    cases meeting.frame.json with
    | error error => rfl
    | ok value => cases isObject : value.isObject <;> simp [Except.toOption, isObject]

/-- When a message becomes an event, in the terms in which it is looked at. -/
theorem becomes_iff : meeting.becomes destination = true ↔
    destination? meeting.frame = some destination ∧ meeting.targets destination ≠ [] ∧
      ∃ payload, Delivery.payload meeting.frame = .ok payload := by
  have named : destination? meeting.frame = some destination ↔
      meeting.frame.header? Wire.Header.destination = some destination ∧
        destination.isEmpty = false := by
    simp [destination?, Option.filter_eq_some_iff]
  have readable : meeting.payload?.isSome = true ↔
      ∃ payload, Delivery.payload meeting.frame = .ok payload := by
    rw [payload?_eq]
    cases Delivery.payload meeting.frame <;> simp [Except.toOption]
  simp [Meeting.becomes, named, readable, and_assoc]

/-- A message that becomes an event of a destination takes the destination's next number. -/
theorem delivered_of_becomes (becomes : meeting.becomes destination = true) :
    delivered? (dispatch meeting.registry sequences meeting.frame) =
      some (meeting.delivery destination (sequences.count destination + 1)) := by
  obtain ⟨named, reached, payload, readable⟩ := becomes_iff.mp becomes
  have given : meeting.payload?.getD .null = payload := by
    rw [payload?_eq, readable]
    rfl
  unfold dispatch
  rw [named]
  dsimp only
  split
  · exact absurd ‹_› reached
  · rw [readable]
    simp [delivered?, Meeting.delivery, Meeting.targets, given]

/-- Nothing is delivered but what a message becomes. -/
theorem becomes_of_delivered {delivery : Delivery κ}
    (delivered : delivered? (dispatch meeting.registry sequences meeting.frame) = some delivery) :
    meeting.becomes delivery.event.destination = true := by
  unfold dispatch at delivered
  split at delivered
  · cases delivered
  · rename_i destination named
    split at delivered
    · cases delivered
    · rename_i reached
      split at delivered
      · cases delivered
      · rename_i payload readable
        cases delivered
        exact becomes_iff.mpr ⟨named, reached, payload, readable⟩

/-- What a message delivers of a destination. -/
theorem eventsAt_dispatch (destination : String) (sequences : Sequences) (meeting : Meeting κ) :
    eventsAt destination [dispatch meeting.registry sequences meeting.frame] =
      if meeting.becomes destination then
        [meeting.delivery destination (sequences.count destination + 1)] else [] := by
  split
  · rename_i becomes
    simp [eventsAt, delivered_of_becomes becomes, Meeting.delivery]
  · rename_i never
    unfold eventsAt
    cases delivered : delivered? (dispatch meeting.registry sequences meeting.frame) with
    | none => simp [delivered]
    | some delivery =>
      have other : delivery.event.destination ≠ destination := by
        rintro rfl
        exact never (becomes_of_delivered delivered)
      simp [delivered, other]

theorem eventsAt_append (destination : String)
    (first second : List (Except PayloadError (Option (Delivery κ)))) :
    eventsAt destination (first ++ second) =
      eventsAt destination first ++ eventsAt destination second := by
  rw [eventsAt, List.filterMap_append, List.filter_append]
  rfl

/-- Only what is delivered takes a number, and only of its own destination. -/
theorem count_sequencesAfter (sequences : Sequences)
    (result : Except PayloadError (Option (Delivery κ))) (destination : String) :
    (sequencesAfter sequences result).count destination =
      sequences.count destination + (eventsAt destination [result]).length := by
  rcases result with error | _ | delivery
  · rfl
  · rfl
  · rw [sequencesAfter, Sequences.count_advance]
    by_cases same : delivery.event.destination = destination <;>
      simp [eventsAt, delivered?, same]

/-- The count of a destination after messages is larger by their number that became events of it. -/
theorem count_foldl_sequencesAfter (destination : String) (sequences : Sequences)
    (results : List (Except PayloadError (Option (Delivery κ)))) :
    (results.foldl sequencesAfter sequences).count destination =
      sequences.count destination + (eventsAt destination results).length := by
  induction results generalizing sequences with
  | nil => rfl
  | cons result results ih =>
    have split := eventsAt_append destination [result] results
    rw [List.singleton_append] at split
    rw [List.foldl_cons, ih, count_sequencesAfter, split, List.length_append, Nat.add_assoc]

/-- One more message meets the numbers that those before it left. -/
theorem dispatchAll_concat (sequences : Sequences) (meetings : List (Meeting κ))
    (meeting : Meeting κ) :
    dispatchAll sequences (meetings ++ [meeting]) =
      dispatchAll sequences meetings ++ [dispatch meeting.registry
        ((dispatchAll sequences meetings).foldl sequencesAfter sequences) meeting.frame] := by
  induction meetings generalizing sequences with
  | nil => rfl
  | cons first meetings ih => rw [List.cons_append, dispatchAll, ih]; rfl

/-- **The events of a destination are those that its messages become, numbered from its count on.**
No other message has a part in them. -/
theorem eventsAt_dispatchAll (destination : String) (sequences : Sequences)
    (meetings : List (Meeting κ)) :
    eventsAt destination (dispatchAll sequences meetings) =
      (meetings.filter (Meeting.becomes destination)).mapIdx fun index meeting =>
        meeting.delivery destination (sequences.count destination + (index + 1)) := by
  induction meetings generalizing sequences with
  | nil => rfl
  | cons meeting meetings ih =>
    let result := dispatch meeting.registry sequences meeting.frame
    have split : eventsAt destination (dispatchAll sequences (meeting :: meetings)) =
        eventsAt destination [result] ++
          eventsAt destination (dispatchAll (sequencesAfter sequences result) meetings) :=
      eventsAt_append destination [result] _
    have head : eventsAt destination [result] = _ := eventsAt_dispatch destination sequences meeting
    rw [split, ih, count_sequencesAfter, head]
    by_cases becomes : meeting.becomes destination = true
    · rw [if_pos becomes, List.filter_cons_of_pos becomes, List.mapIdx_cons]
      simp only [List.singleton_append, List.length_singleton, Nat.zero_add, Nat.add_assoc,
        Nat.add_comm 1]
    · rw [if_neg becomes, List.filter_cons_of_neg becomes]
      rfl

/-- What holds of every message with what comes of it, whatever the counts are, holds of all. -/
theorem forall₂_dispatchAll
    {property : Meeting κ → Except PayloadError (Option (Delivery κ)) → Prop}
    (holds : ∀ sequences (meeting : Meeting κ),
      property meeting (dispatch meeting.registry sequences meeting.frame))
    (sequences : Sequences) (meetings : List (Meeting κ)) :
    List.Forall₂ property meetings (dispatchAll sequences meetings) := by
  induction meetings generalizing sequences with
  | nil => exact .nil
  | cons meeting meetings ih => exact .cons (holds sequences meeting) (ih _)

/-- A message that becomes no event delivers nothing and takes no number. -/
theorem silent_of_never (never : ∀ destination, meeting.becomes destination = false)
    (sequences : Sequences) :
    delivered? (dispatch meeting.registry sequences meeting.frame) = none ∧
      ∀ counts, sequencesAfter counts (dispatch meeting.registry sequences meeting.frame) =
        counts := by
  rcases result : dispatch meeting.registry sequences meeting.frame with error | _ | delivery
  · exact ⟨rfl, fun _ => rfl⟩
  · exact ⟨rfl, fun _ => rfl⟩
  · have delivered : delivered? (dispatch meeting.registry sequences meeting.frame) =
        some delivery := by rw [result]; rfl
    have becomes := becomes_of_delivered delivered
    rw [never] at becomes
    cases becomes

/-- Events of a destination follow one another in the order of their numbers. -/
theorem pairwise_eventsAt (destination : String) (sequences : Sequences)
    (meetings : List (Meeting κ)) :
    (eventsAt destination (dispatchAll sequences meetings)).Pairwise
      fun first second => first.event.sequence < second.event.sequence := by
  rw [eventsAt_dispatchAll, List.pairwise_iff_getElem]
  intro first second _ _ earlier
  simpa [Meeting.delivery] using earlier

end Delivery

end EventFeed
