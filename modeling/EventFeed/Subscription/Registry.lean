/-
**The registry of subscriptions.**

The registry holds the consumer's subscriptions in the order in which they were made. While a
session is connected it is attached to the session's writer: then every subscription has a name on
the wire, drawn anew for each session, and every change queues a frame. The server's answers and
messages name subscriptions by their wire names. A name whose subscription was removed is retired
for the rest of the session, so that a late message for it reaches nobody.

Every operation is told whether the attached writer still takes frames, and gives back the frames
that it queues.

* `subscribe_cases`: what comes of a new subscription;
* `list_subscribe`: a new subscription comes last and has a new number;
* `entries_unsubscribe`: a removal takes out exactly the subscription with the number;
* `entries_detach`: after a session nothing is left of its wire names.
-/

import EventFeed.Failure
import EventFeed.Identifier
import EventFeed.Text.Blank

namespace EventFeed

open EventFeed.Wire (Frame)

/-- A subscription: its number, where its events come from, what is done with them, its name on the
wire of the current session, and whether the server confirmed it there. -/
structure Subscription (κ : Type) where
  id : Nat
  destination : String
  callback : κ
  wireName : Option String
  confirmed : Bool
  deriving DecidableEq

/-- The subscriptions, the numbers of those that have wire names, the names retired in this session,
the writer of the session, the seed of the wire names, and how many subscriptions were made and wire
names drawn so far. -/
structure Registry (κ : Type) where
  entries : List (Subscription κ)
  byWire : List (String × Nat)
  retired : List String
  writer : Option Nat
  seed : Nat
  made : Nat
  drawn : Nat
  deriving DecidableEq

namespace Registry

variable {κ : Type}

def empty (seed : Nat) : Registry κ where
  entries := []
  byWire := []
  retired := []
  writer := none
  seed := seed
  made := 0
  drawn := 0

/-- The frame that asks for a subscription. Its receipt is the wire name. -/
def subscribeFrame (wireName destination : String) : Frame :=
  (Frame.ofCommand .subscribe).withHeader Wire.Header.id wireName
    |>.withHeader Wire.Header.destination destination
    |>.withHeader Wire.Header.ack "auto"
    |>.withHeader Wire.Header.receipt wireName

def unsubscribeFrame (wireName : String) : Frame :=
  (Frame.ofCommand .unsubscribe).withHeader Wire.Header.id wireName

def find? (registry : Registry κ) (id : Nat) : Option (Subscription κ) :=
  registry.entries.find? fun entry => entry.id = id

/-- The subscription that has the wire name in this session. -/
def live? (registry : Registry κ) (wireName : String) : Option (Subscription κ) := do
  let (_, id) ← registry.byWire.find? fun pair => pair.1 = wireName
  registry.find? id

/-- The subscriptions with one of them changed. -/
def change (entries : List (Subscription κ)) (id : Nat)
    (update : Subscription κ → Subscription κ) : List (Subscription κ) :=
  entries.map fun entry => if entry.id = id then update entry else entry

def without (entries : List (Subscription κ)) (id : Nat) : List (Subscription κ) :=
  entries.filter fun entry => entry.id ≠ id

/-- A subscription gets a wire name and is asked for, if the writer takes the frame. A name is drawn
in either case. -/
def flush (registry : Registry κ) (isOpen : Bool) (entry : Subscription κ) :
    Registry κ × List Frame :=
  let wireName := identifier registry.seed .subscription registry.drawn
  let drawn := registry.drawn + 1
  if isOpen then
    ({ registry with
        entries := change registry.entries entry.id fun entry =>
          { entry with wireName := some wireName, confirmed := false }
        byWire := (wireName, entry.id) :: registry.byWire
        drawn },
      [subscribeFrame wireName entry.destination])
  else ({ registry with drawn }, [])

/-- A new subscription, asked for at once if a session is attached. -/
def subscribe (registry : Registry κ) (isOpen : Bool) (destination : String) (callback : κ) :
    Except SubscriptionError (Nat × Registry κ × List Frame) :=
  if Text.allBlank destination then .error .blankDestination
  else
    let id := registry.made
    let entry : Subscription κ := ⟨id, destination, callback, none, false⟩
    let grown := { registry with entries := registry.entries ++ [entry], made := id + 1 }
    match registry.writer with
    | none => .ok (id, grown, [])
    | some _ => .ok (id, grown.flush isOpen entry)

/-- A subscription is removed; its wire name is retired and the server is told. -/
def unsubscribe (registry : Registry κ) (isOpen : Bool) (id : Nat) :
    Bool × Registry κ × List Frame :=
  match registry.find? id with
  | none => (false, registry, [])
  | some entry =>
    let entries := without registry.entries id
    match entry.wireName with
    | none => (true, { registry with entries }, [])
    | some wireName =>
      let byWire := registry.byWire.filter fun pair => pair.1 ≠ wireName
      let retired := wireName :: registry.retired
      let frames := if registry.writer.isSome && isOpen then [unsubscribeFrame wireName] else []
      (true, { registry with entries, byWire, retired }, frames)

/-- Each of the given subscriptions gets a wire name and is asked for. -/
def flushAll (isOpen : Bool) : Registry κ → List (Subscription κ) → Registry κ × List Frame
  | registry, [] => (registry, [])
  | registry, entry :: entries =>
    let (flushed, frames) := registry.flush isOpen entry
    let (last, later) := flushAll isOpen flushed entries
    (last, frames ++ later)

/-- A session is connected: every subscription is asked for, in order, under a new wire name. -/
def attach (registry : Registry κ) (isOpen : Bool) (writer : Nat) : Registry κ × List Frame :=
  flushAll isOpen { registry with byWire := [], retired := [], writer := some writer }
    registry.entries

/-- The session is over, and its wire names with it. -/
def detach (registry : Registry κ) : Registry κ :=
  { registry with
    entries := registry.entries.map fun entry => { entry with wireName := none, confirmed := false }
    byWire := []
    retired := []
    writer := none }

/-- The subscription that a receipt is about, if the server has not confirmed it yet. -/
def unconfirmed? (registry : Registry κ) (receipt : String) : Option (Subscription κ) :=
  (registry.live? receipt).filter fun entry => !entry.confirmed

/-- The server confirmed what the receipt is about: the subscription, if it was waiting for that. -/
def confirm (registry : Registry κ) (receipt : String) :
    Option (Subscription κ) × Registry κ :=
  match registry.unconfirmed? receipt with
  | none => (none, registry)
  | some entry =>
    (some entry,
      { registry with
        entries := change registry.entries entry.id fun entry => { entry with confirmed := true } })

/-- The server refused what the receipt is about: the subscription, if it was still waiting, which
is removed. -/
def reject (registry : Registry κ) (receipt : String) :
    Option (Subscription κ) × Registry κ :=
  match registry.unconfirmed? receipt with
  | none => (none, registry)
  | some entry =>
    (some entry,
      { registry with
        entries := without registry.entries entry.id
        byWire := registry.byWire.filter fun pair => pair.1 ≠ receipt
        retired := receipt :: registry.retired })

/-- The subscriptions that a message reaches: the one with the wire name that it gives, none if that
name is retired, and else all at its destination. -/
def route (registry : Registry κ) (wireName : Option String) (destination : String) :
    List (Subscription κ) :=
  match wireName.bind registry.live? with
  | some entry => [entry]
  | none =>
    if wireName.any registry.retired.contains then []
    else registry.entries.filter fun entry => entry.destination = destination

/-- The number and the destination of every subscription, in order. -/
def list (registry : Registry κ) : List (Nat × String) :=
  registry.entries.map fun entry => (entry.id, entry.destination)

/-! ### What the operations do to the list of subscriptions -/

/-- A wire name changes no number and no destination. -/
theorem list_flush (registry : Registry κ) (isOpen : Bool) (entry : Subscription κ) :
    (registry.flush isOpen entry).1.list = registry.list := by
  cases isOpen
  · rfl
  · simp only [flush, list, change, if_true, List.map_map]
    refine List.map_congr_left fun held _ => ?_
    by_cases same : held.id = entry.id <;> simp [same]

/-- Wire names for several subscriptions change no number and no destination. -/
theorem list_flushAll (isOpen : Bool) (registry : Registry κ) (entries : List (Subscription κ)) :
    (flushAll isOpen registry entries).1.list = registry.list := by
  induction entries generalizing registry with
  | nil => rfl
  | cons entry entries step => simp only [flushAll, step, list_flush]

/-- A session changes no number and no destination. -/
theorem list_attach (registry : Registry κ) (isOpen : Bool) (writer : Nat) :
    (registry.attach isOpen writer).1.list = registry.list :=
  list_flushAll isOpen _ _

/-- The end of a session changes no number and no destination. -/
theorem list_detach (registry : Registry κ) : registry.detach.list = registry.list := by
  simp [detach, list, Function.comp_def]

/-- What comes of a new subscription: it has the next number and comes last, and it is asked for if
there is a session. -/
theorem subscribe_cases {registry after : Registry κ} {isOpen : Bool} {destination : String}
    {callback : κ} {id : Nat} {frames : List Frame}
    (made : registry.subscribe isOpen destination callback = .ok (id, after, frames)) :
    let entry : Subscription κ := ⟨registry.made, destination, callback, none, false⟩
    let grown : Registry κ :=
      { registry with entries := registry.entries ++ [entry], made := registry.made + 1 }
    ¬Text.allBlank destination = true ∧ id = registry.made ∧
      (registry.writer = none ∧ after = grown ∧ frames = [] ∨
        registry.writer ≠ none ∧ after = (grown.flush isOpen entry).1 ∧
          frames = (grown.flush isOpen entry).2) := by
  intro entry grown
  unfold subscribe at made
  split at made
  · cases made
  · rename_i named
    dsimp only at made
    split at made
    · rename_i free
      cases made
      exact ⟨named, rfl, .inl ⟨free, rfl, rfl⟩⟩
    · rename_i writer attached
      obtain ⟨rfl, flushed⟩ := Prod.mk.inj (Except.ok.inj made)
      have isAttached : registry.writer ≠ none := by
        rw [attached]
        exact Option.some_ne_none writer
      exact ⟨named, rfl, .inr ⟨isAttached, (congrArg Prod.fst flushed).symm,
        (congrArg Prod.snd flushed).symm⟩⟩

/-- A new subscription comes last, with a number of its own. -/
theorem list_subscribe {registry after : Registry κ} {isOpen : Bool} {destination : String}
    {callback : κ} {id : Nat} {frames : List Frame}
    (made : registry.subscribe isOpen destination callback = .ok (id, after, frames)) :
    id = registry.made ∧ after.list = registry.list ++ [(registry.made, destination)] := by
  obtain ⟨-, rfl, ⟨-, rfl, -⟩ | ⟨-, rfl, -⟩⟩ := subscribe_cases made
  · exact ⟨rfl, by simp [list]⟩
  · refine ⟨rfl, (list_flush _ _ _).trans ?_⟩
    simp [list]

/-- A removal takes out exactly the subscription with the number. -/
theorem entries_unsubscribe (registry : Registry κ) (isOpen : Bool) (id : Nat) :
    (registry.unsubscribe isOpen id).2.1.entries = without registry.entries id := by
  unfold unsubscribe
  cases found : registry.find? id with
  | some entry => cases name : entry.wireName <;> simp [name]
  | none =>
    simp only [without]
    symm
    rw [List.filter_eq_self]
    intro entry member
    simpa [find?] using List.find?_eq_none.mp found entry member

/-- After a session nothing is left of its wire names. -/
theorem entries_detach (registry : Registry κ) {entry : Subscription κ}
    (member : entry ∈ registry.detach.entries) :
    entry.wireName = none ∧ entry.confirmed = false := by
  simp only [detach, List.mem_map] at member
  obtain ⟨held, -, rfl⟩ := member
  exact ⟨rfl, rfl⟩

end Registry

end EventFeed
