/-
**Channels.**

A channel carries bytes both ways. What the server sends waits in order, chunks and read errors, and
behind the last of them stands the end, once the server has ended the channel. What the client sends
meets the sink, which accepts it, stalls, fails or crashes.

* `receive?_of_waiting`: what waits is received in the order in which it came;
* `receive?_at_end`: past the end there is only the error that the channel is closed;
* `waiting_offer`: what comes goes behind all that waits, unless nobody receives it any more.
-/

import EventFeed.Failure

namespace EventFeed

/-- What a sink does with what is written to it. -/
inductive SinkMode where
  | accepting
  | stalled
  | faulty (error : ChannelError)
  | crashing (cause : String)
  deriving DecidableEq, Repr

/-- A sink whose peer cannot be reached any more. -/
def SinkMode.failing (cause : String) : SinkMode :=
  .faulty (.unreachable cause)

/-- What is done to a sink that accepts it. -/
inductive SinkAct where
  | wrote (chunk : List UInt8)
  | closed
  deriving DecidableEq, Repr

abbrev Arrival := Except ChannelError (List UInt8)

/-- A channel: what waits to be received, whether the server has ended the channel behind that, what
the sink does, and whether the client has let go of the channel. -/
structure Channel where
  waiting : List Arrival
  ended : Bool
  sink : SinkMode
  released : Bool

namespace Channel

/-- A channel on which nothing has happened. -/
def fresh (sink : SinkMode) : Channel where
  waiting := []
  ended := false
  sink := sink
  released := false

/-- What the next read gives, if it does not have to wait. -/
def next? (channel : Channel) : Option Arrival :=
  match channel.waiting with
  | arrival :: _ => some arrival
  | [] => if channel.ended then some (.error .closed) else none

def rest (channel : Channel) : Channel :=
  { channel with waiting := channel.waiting.tail }

def receive? (channel : Channel) : Option (Arrival × Channel) :=
  channel.next?.map fun arrival => (arrival, channel.rest)

/-- What becomes of a chunk that is sent, if the sink answers. -/
def send? (channel : Channel) (chunk : List UInt8) : Option (Except ChannelError SinkAct) :=
  match channel.sink with
  | .accepting => some (.ok (.wrote chunk))
  | .faulty error => some (.error error)
  | .stalled | .crashing _ => none

/-- What is done to the sink when the channel is closed, if the sink answers. That it cannot be
closed does not matter. -/
def close? (channel : Channel) : Option (Option SinkAct) :=
  match channel.sink with
  | .accepting => some (some .closed)
  | .faulty _ => some none
  | .stalled | .crashing _ => none

/-- Whether something that comes now can still be received. -/
def isHeard (channel : Channel) : Bool :=
  !channel.released && !channel.ended

def offer (channel : Channel) (arrival : Arrival) : Channel :=
  if channel.isHeard then { channel with waiting := channel.waiting ++ [arrival] } else channel

/-- The server ends the channel behind all that waits. -/
def finish (channel : Channel) : Channel :=
  { channel with ended := true }

def release (channel : Channel) : Channel :=
  { channel with released := true }

/-- What waits is received in the order in which it came. -/
theorem receive?_of_waiting {channel : Channel} {arrival : Arrival} {later : List Arrival}
    (waits : channel.waiting = arrival :: later) :
    channel.receive? = some (arrival, { channel with waiting := later }) := by
  simp [receive?, next?, rest, waits]

/-- Past the end there is only the error that the channel is closed. -/
theorem receive?_at_end {channel : Channel} (empty : channel.waiting = [])
    (ended : channel.ended = true) : channel.receive? = some (.error .closed, channel) := by
  obtain ⟨waiting, finished, sink, released⟩ := channel
  subst empty ended
  rfl

/-- What comes goes behind all that waits, unless nobody receives it any more. -/
theorem waiting_offer (channel : Channel) (arrival : Arrival) :
    (channel.offer arrival).waiting =
      channel.waiting ++ (if channel.isHeard then [arrival] else []) := by
  unfold offer
  split <;> simp

end Channel

end EventFeed
