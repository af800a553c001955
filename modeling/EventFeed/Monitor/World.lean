/-
**A monitor and the world around it.**

A monitor shares one registry of subscriptions, one published state and one mailbox among everything
that runs on its behalf: keepers, the writers of their sessions, and calls to stop. Around it are
the network, which answers attempts to open a channel in the order of a plan, the channels, and the
clock.

Here are the parts, and what a consumer's calls and a server's frames do to them. What happens to
one part leaves the others alone, and all that can be seen is put down in a log.

* `state_publish`: what is published is the state from then on;
* `registry_publish`, `registry_queue`: notices and frames leave the subscriptions alone;
* `send_of_unconnected`: nothing is sent while there is no connection.
-/

import EventFeed.Channel.Network
import EventFeed.Monitor.Consumer
import EventFeed.Monitor.Keeper
import EventFeed.Session.Writer
import EventFeed.Time.Alarm

namespace EventFeed

open EventFeed.Numeral EventFeed.Time
open EventFeed.Wire (Frame)

/-- An attempt to open a channel: its number, when it is answered, and how. -/
structure Attempt where
  number : Nat
  answeredAt : Nat
  answer : Answer
  deriving DecidableEq

/-- A keeper at work: whether it is told to stop, and its session's attempt to open a channel, its
channel and its writer. -/
structure Tenure where
  keeper : Keeper
  stopping : Bool
  attempt : Option Attempt
  channel : Option Nat
  writer : Option Nat

/-- A writer at work: the channel that it writes to, and whether its session may still give it
frames. -/
structure Desk where
  writer : Writer
  channel : Nat
  kept : Bool
  deriving DecidableEq

/-- How far a call to stop is. -/
inductive StopStage where
  | called
  | waiting (keeper : Nat)
  | returned
  deriving DecidableEq, Repr

/-- A monitor with everything around it. `held` tells that the consumer still has the monitor,
`slot` is the keeper that was started last unless a stop took it, `alarms` are those of the keepers,
told by their numbers, `fallback` is what becomes of attempts that are not in the plan, and `names`
are the consumer's names of its subscriptions, the latest first. -/
structure World where
  settings : Settings
  now : Nat
  alarms : AlarmClock (Nat × Wait)
  registry : Registry Consumer
  sequences : Sequences
  state : ConnectionState
  mailbox : Mailbox
  held : Bool
  slot : Option Nat
  tenures : List Tenure
  desks : List Desk
  channels : List Channel
  stops : List StopStage
  plan : List Outcome
  fallback : Outcome
  attempts : Nat
  names : List (String × Nat)
  log : Array Occurrence

/-- Why there is no monitor: its settings are refused, or making it crashes. -/
inductive MakeFault where
  | refused (error : SettingError)
  | crashed (cause : String)
  deriving DecidableEq, Repr

namespace World

/-- A monitor that was just made; whether it can be is for `make` to say. The seed is that of its
identifiers. -/
def fresh (settings : Settings) (fallback : Outcome) (seed : Nat) : World where
  settings := settings
  now := 0
  alarms := []
  registry := .empty seed
  sequences := .empty
  state := .disconnected
  mailbox := .fresh settings.eventCapacity
  held := true
  slot := none
  tenures := []
  desks := []
  channels := []
  stops := []
  plan := []
  fallback := fallback
  attempts := 0
  names := []
  log := #[]

/-- A monitor with the given settings, if all of them are in range and its mailbox can be made. -/
def make (settings : Settings) (fallback : Outcome) (seed : Nat) : Except MakeFault World :=
  match settings.checked with
  | .error error => .error (.refused error)
  | .ok checked =>
    match Mailbox.make checked.eventCapacity with
    | .error cause => .error (.crashed cause)
    | .ok mailbox => .ok { fresh checked fallback seed with mailbox }

def note (world : World) (occurrence : Occurrence) : World :=
  { world with log := world.log.push occurrence }

/-! ### States and notices -/

/-- The consumer is told something, if there is room. -/
def notify (world : World) (notice : Notice) : World :=
  if world.mailbox.isFull then world.note .lost
  else { world with mailbox := world.mailbox.offer notice }

/-- The state of the connection is this one now; the consumer is told if it was another. -/
def publish (world : World) (state : ConnectionState) : World :=
  if world.state = state then world
  else { world with state }.notify (.stateChanged state)

/-! ### Frames for writers -/

def atDesk (world : World) (index : Nat) (change : Desk → Desk) : World :=
  { world with desks := world.desks.modify index change }

/-- Frames wait for a writer, if it still takes them. -/
def queue (world : World) (index : Option Nat) (frames : List Frame) : World :=
  match index with
  | none => world
  | some index => world.atDesk index fun desk => { desk with writer := desk.writer.push frames }

def takesFrames (world : World) (index : Option Nat) : Bool :=
  (index.bind fun index => world.desks[index]?).any fun desk => desk.writer.isOpen

/-- Whether the writer that the registry is attached to takes frames. -/
def isAttached (world : World) : Bool :=
  world.takesFrames world.registry.writer

/-- The registry changes, and frames wait for the writer that it is attached to. -/
def withRegistry (world : World) (registry : Registry Consumer) (frames : List Frame) : World :=
  { world with registry }.queue registry.writer frames

/-! ### What a consumer calls -/

def subscribe (world : World) (consumer : Consumer) (destination : String) :
    Except SubscriptionError Unit × World :=
  match world.registry.subscribe world.isAttached destination consumer with
  | .error error => (.error error, world)
  | .ok (id, registry, frames) =>
    let named := { world with names := (consumer.name, id) :: world.names }
    (.ok (), named.withRegistry registry frames)

/-- The consumer gives up the subscription that it made last under a name; none if there never was
one. -/
def unsubscribe (world : World) (name : String) : Option Bool × World :=
  match world.names.lookup name with
  | none => (none, world)
  | some id =>
    let (found, registry, frames) := world.registry.unsubscribe world.isAttached id
    (some found, world.withRegistry registry frames)

/-- The frame that carries a value to a destination. -/
def parcel (destination : String) (body : Document.Value) : Frame :=
  ((Frame.ofCommand .send).withHeader Wire.Header.destination destination).withJson body

/-- The consumer sends a value, or something that is no value, to a destination. -/
def send (world : World) (destination : String) (body : Except String Document.Value) :
    Except MonitorError Unit × World :=
  if Text.allBlank destination then (.error (.subscription .blankDestination), world)
  else if world.state ≠ .connected then (.error .notConnected, world)
  else match body with
  | .error cause => (.error (.unserializable cause), world)
  | .ok body =>
    if world.isAttached then
      (.ok (), world.queue world.registry.writer [parcel destination body])
    else (.error .notConnected, world)

/-! ### What a server's frames do -/

def react (world : World) (consumer : Consumer) (event : Event) : World :=
  let noted := world.note (.delivered consumer event)
  match consumer.reaction with
  | .ignore => world
  | .note | .read _ => noted
  | .crash => noted.note (.crashed event.destination event.sequence)
  | .unsubscribe name =>
    let (found, after) := noted.unsubscribe name
    after.note (.gaveUp consumer.name found)
  | .reply destination =>
    let (result, after) := noted.send destination (.ok (Consumer.answer event))
    after.note (.sent consumer.name result)
  | .subscribe destination =>
    let child := consumer.child event
    let (result, after) := noted.subscribe ⟨child, .ignore⟩ destination
    after.note (.subscribed consumer.name (result.map fun _ => child))

def deliver (world : World) (frame : Frame) : World :=
  let result := Delivery.dispatch world.registry world.sequences frame
  let counted := { world with sequences := Delivery.sequencesAfter world.sequences result }
  match result with
  | .error error =>
    counted.note (.refused error ((frame.header? Wire.Header.destination).getD "")
      ((frame.header? Wire.Header.messageId).getD ""))
  | .ok none => counted
  | .ok (some delivery) =>
    delivery.targets.foldl (fun world target => world.react target.callback delivery.event) counted

/-- The server confirms what a receipt is about. -/
def confirm (world : World) (frame : Frame) : World :=
  let (entry, registry) :=
    world.registry.confirm ((frame.header? Wire.Header.receiptId).getD "")
  match entry with
  | none => world
  | some entry => { world with registry }.notify (.confirmed entry.id entry.destination)

/-- The server refuses what an error is about. -/
def reject (world : World) (frame : Frame) : World :=
  match frame.header? Wire.Header.receiptId with
  | none => world
  | some receipt =>
    let (entry, registry) := world.registry.reject receipt
    match entry with
    | none => world
    | some entry =>
      let message := (frame.header? Wire.Header.message).getD "subscription refused"
      { world with registry }.notify (.rejected entry.id (.rejected entry.destination message))

def handle (world : World) (frame : Frame) : World :=
  match frame.command with
  | .message => world.deliver frame
  | .receipt => world.confirm frame
  | .error => world.reject frame
  | _ => world

/-! ### What is left alone -/

/-- What is published is the state from then on. -/
theorem state_publish (world : World) (state : ConnectionState) :
    (world.publish state).state = state := by
  unfold publish notify note
  split
  · assumption
  · split <;> rfl

theorem registry_publish (world : World) (state : ConnectionState) :
    (world.publish state).registry = world.registry := by
  unfold publish notify note
  split
  · rfl
  · split <;> rfl

theorem registry_queue (world : World) (index : Option Nat) (frames : List Frame) :
    (world.queue index frames).registry = world.registry := by
  unfold queue atDesk
  split <;> rfl

/-- Nothing is sent while there is no connection. -/
theorem send_of_unconnected {world : World} (unconnected : world.state ≠ .connected)
    (destination : String) (body : Except String Document.Value) :
    (world.send destination body).2 = world := by
  unfold send
  simp only [unconnected, ne_eq, not_false_eq_true, if_true]
  split <;> rfl

end World

end EventFeed
