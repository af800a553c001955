/-
**What happens in a world.**

A world changes in steps: a keeper, a writer or a call to stop does the next thing that it can do,
the consumer calls, the server or the network does something, or time passes. Each step is a
function here, and an interleaving is a list of steps.

* `slot_start`: a keeper that was started is the one that a stop takes;
* `start_of_running`: a start that is refused changes nothing.
-/

import EventFeed.Monitor.World

namespace EventFeed

open EventFeed.Numeral EventFeed.Time
open EventFeed.Wire (Frame)

namespace World

/-! ### Keepers -/

def atTenure (world : World) (index : Nat) (change : Tenure → Tenure) : World :=
  { world with tenures := world.tenures.modify index change }

def atChannel (world : World) (index : Nat) (change : Channel → Channel) : World :=
  { world with channels := world.channels.modify index change }

/-- How a keeper's attempt to open a channel stands. -/
def dialOf (world : World) (tenure : Tenure) : Dial :=
  match tenure.attempt with
  | none => .pending
  | some attempt =>
    if isDue world.now attempt.answeredAt then
      match attempt.answer with
      | .accept _ => .opened
      | .refuse error => .failed error
      | .never => .pending
      | .crash cause => .crashed cause
    else .pending

/-- The receipt that the farewell of a session asks for. -/
def receiptOf (world : World) (tenure : Tenure) : String :=
  "disconnect-" ++
    identifier world.registry.seed .farewell ((tenure.attempt.map Attempt.number).getD 0)

/-- What a keeper sees. Without jitter it does not matter what is drawn. -/
def viewOf (world : World) (tenure : Tenure) : View :=
  let channel := tenure.channel.bind fun index => world.channels[index]?
  let desk := tenure.writer.bind fun index => world.desks[index]?
  { now := world.now
    stopping := tenure.stopping
    stopFirst := true
    dial := world.dialOf tenure
    sink := (channel.map Channel.sink).getD .stalled
    arrival := channel.bind Channel.next?
    writerOpen := world.takesFrames tenure.writer
    writerEnd := desk.bind fun desk => desk.writer.end?
    awaits := fun receipt => (world.registry.unconfirmed? receipt).isSome
    receipt := world.receiptOf tenure
    drawn := .zero }

def dial (world : World) (index : Nat) (url : String) : World :=
  let number := world.attempts + 1
  let outcome := world.plan.headD world.fallback
  let attempt : Attempt := ⟨number, world.now + outcome.delay.nanos, outcome.answer⟩
  let asked := { world with attempts := number, plan := world.plan.tail }
  let dialing := asked.atTenure index fun tenure => { tenure with attempt := some attempt }
  dialing.note (.dialed number url)

/-- The channel that a keeper asked for is there. -/
def accept (world : World) (index : Nat) (attempt : Option Attempt) : World :=
  match attempt.map Attempt.answer with
  | some (.accept sink) =>
    let opened := { world with channels := world.channels ++ [Channel.fresh sink] }
    opened.atTenure index fun tenure => { tenure with channel := some world.channels.length }
  | _ => world

def appoint (world : World) (index : Nat) (channel : Option Nat) : World :=
  match channel with
  | none => world
  | some channel =>
    let desk : Desk := ⟨.fresh, channel, true⟩
    let appointed := { world with desks := world.desks ++ [desk] }
    appointed.atTenure index fun tenure => { tenure with writer := some world.desks.length }

/-- The subscriptions are asked for through a writer. -/
def attach (world : World) (writer : Option Nat) : World :=
  match writer with
  | none => world
  | some writer =>
    let (registry, frames) := world.registry.attach (world.takesFrames (some writer)) writer
    world.withRegistry registry frames

def perform (index : Nat) (world : World) (effect : Effect) : World :=
  match world.tenures[index]? with
  | none => world
  | some tenure =>
    match effect with
    | .happened _ => world
    | .publish state => world.publish state
    | .notify notice => world.notify notice
    | .dial => world.dial index tenure.keeper.endpoint.url
    | .accept => world.accept index tenure.attempt
    | .write chunk => world.note (.wrote (tenure.channel.getD 0) chunk)
    | .close => world.note (.closed (tenure.channel.getD 0))
    | .take => match tenure.channel with
      | none => world
      | some channel => world.atChannel channel Channel.rest
    | .appoint => world.appoint index tenure.channel
    | .attach => world.attach tenure.writer
    | .detach => { world with registry := world.registry.detach }
    | .handle frame => world.handle frame
    | .queue frame => world.queue tenure.writer [frame]
    | .dismiss => match tenure.writer with
      | none => world
      | some writer => world.atDesk writer fun desk => { desk with kept := false }
    | .abort => match tenure.writer with
      | none => world
      | some writer =>
        world.atDesk writer fun desk => { desk with writer := desk.writer.abort, kept := false }
    | .release =>
      let released := match tenure.channel with
        | none => world
        | some channel => world.atChannel channel Channel.release
      released.atTenure index fun tenure =>
        { tenure with attempt := none, channel := none, writer := none }

/-- The alarms that a keeper wants: for the deadlines that it has set, and for the answer of the
network. -/
def alarmsOf (index : Nat) (tenure : Tenure) : List ((Nat × Wait) × Nat) :=
  let answer := tenure.attempt.toList.map fun attempt => (Wait.answer, attempt.answeredAt)
  (tenure.keeper.deadlines ++ answer).map fun (wait, deadline) => ((index, wait), tick deadline)

/-- A keeper's alarms are the ones that it wants. -/
def setAlarms (world : World) (index : Nat) : World :=
  let wanted := (world.tenures[index]?.map (alarmsOf index)).getD []
  { world with alarms := world.alarms.set (tick world.now) (·.1 = index) wanted }

def keeperMove? (world : World) (index : Nat) : Option Keeper.Step := do
  let tenure ← world.tenures[index]?
  tenure.keeper.step world.settings (world.viewOf tenure)

def keeperStep? (world : World) (index : Nat) : Option World :=
  (world.keeperMove? index).map fun (keeper, effects) =>
    let moved := world.atTenure index fun tenure => { tenure with keeper }
    (effects.foldl (perform index) moved).setAlarms index

/-! ### Writers -/

/-- A writer does the next thing. A writer is deserted when neither its session nor the registry can
give it frames. -/
def writerStep? (world : World) (index : Nat) : Option World := do
  let desk ← world.desks[index]?
  let channel ← world.channels[desk.channel]?
  let deserted := !desk.kept && world.registry.writer ≠ some index
  let (writer, act) ← desk.writer.step channel.sink deserted
  let moved := world.atDesk index fun desk => { desk with writer }
  some (match act with
    | none => moved
    | some (.wrote chunk) => moved.note (.wrote desk.channel chunk)
    | some .closed => moved.note (.closed desk.channel))

/-! ### Starting and stopping -/

/-- What a keeper finished with, if it has finished. -/
def result? (world : World) (index : Nat) : Option (Except MonitorError Unit) := do
  (← world.tenures[index]?).keeper.result?

/-- Whether the keeper that was started last is at work and not yet taken by a stop. -/
def isRunning (world : World) : Bool :=
  world.slot.any fun index => (world.result? index).isNone

def cancel (world : World) (index : Nat) : World :=
  world.atTenure index fun tenure => { tenure with stopping := true }

def start (world : World) (endpoint : Endpoint) (credentials : Credentials) :
    Except MonitorError Unit × World :=
  if world.isRunning then (.error .alreadyRunning, world)
  else
    let tenure : Tenure := ⟨.fresh endpoint credentials, false, none, none, none⟩
    (.ok (), { world with
      tenures := world.tenures ++ [tenure]
      slot := some world.tenures.length })

def stop (world : World) : World :=
  { world with stops := world.stops ++ [.called] }

/-- When neither the consumer nor a stop has the monitor any more, its keeper is told to stop. -/
def settleOwnership (world : World) : World :=
  if world.held || world.stops.any (· ≠ .returned) then world
  else match world.slot with
  | none => world
  | some index => { world with slot := none }.cancel index

def letGo (world : World) : World :=
  { world with held := false }.settleOwnership

def stopReturns (world : World) (index : Nat) (result : Except MonitorError Unit) : World :=
  let returned := { world with stops := world.stops.set index .returned }
  (returned.note (.stopped (index + 1) result)).settleOwnership

/-- A call to stop does the next thing: it takes the keeper and tells it to stop, or returns what
the keeper finished with. -/
def stopStep? (world : World) (index : Nat) : Option World := do
  match ← world.stops[index]? with
  | .called =>
    match world.slot with
    | none => some (world.stopReturns index (.ok ()))
    | some keeper =>
      let taken := { world with slot := none, stops := world.stops.set index (.waiting keeper) }
      some (taken.cancel keeper)
  | .waiting keeper =>
    let result ← world.result? keeper
    let published := match result with
      | .ok () => world.publish .disconnected
      | .error _ => world
    some (published.stopReturns index result)
  | .returned => none

/-! ### The server and the consumer's receiver -/

/-- The server does something to a channel; the answer tells whether the channel is still heard. -/
def receive (world : World) (index : Nat) (arrival : Arrival) : Bool × World :=
  match world.channels[index]? with
  | none => (false, world)
  | some channel => (channel.isHeard, world.atChannel index fun channel => channel.offer arrival)

/-- The server ends a channel; the answer tells whether it had not ended before. -/
def finishChannel (world : World) (index : Nat) : Bool × World :=
  match world.channels[index]? with
  | none => (false, world)
  | some channel => (!channel.ended, world.atChannel index Channel.finish)

/-- The sink of a channel changes; the answer tells whether there is such a channel. -/
def changeSink (world : World) (index : Nat) (sink : SinkMode) : Bool × World :=
  (index < world.channels.length, world.atChannel index fun channel => { channel with sink })

/-- The network will answer more attempts in a planned way. -/
def planMore (world : World) (outcomes : List Outcome) : World :=
  { world with plan := world.plan ++ outcomes }

def takeNotices (world : World) : List Notice × World :=
  let (notices, mailbox) := world.mailbox.drain
  (notices, { world with mailbox })

def closeMailbox (world : World) : World :=
  { world with mailbox := world.mailbox.close }

/-! ### Small facts -/

/-- A keeper that was started is the one that a stop takes. -/
theorem slot_start {world after : World} {endpoint : Endpoint} {credentials : Credentials}
    (started : world.start endpoint credentials = (.ok (), after)) :
    after.slot = some world.tenures.length := by
  unfold start at started
  split at started
  · cases started
  · cases started
    rfl

theorem start_of_running {world : World} (running : world.isRunning = true) (endpoint : Endpoint)
    (credentials : Credentials) :
    world.start endpoint credentials = (.error .alreadyRunning, world) := by
  simp [start, running]

end World

end EventFeed
