/-
**The keeper.**

A keeper keeps a session alive. It opens a channel, shakes hands and reads; when the session fails
it waits and starts the next one, until it is stopped or has no attempts left.

`step` is the smallest thing that a keeper does. It depends only on what the keeper sees, and tells
what is done as a list of effects; it is nothing while the keeper has to wait. Whatever happens
around a keeper, a run of it is a run of such steps.

* `step_of_finished`: a keeper that has finished does nothing more;
* `result?_fail`: a session that fails while the keeper is told to stop is its last.
-/

import EventFeed.Channel.Basic
import EventFeed.Monitor.Notice
import EventFeed.Session.Handshake
import EventFeed.Session.Lifecycle
import EventFeed.Settings.Backoff
import EventFeed.Time.Clock

namespace EventFeed

open EventFeed.Numeral EventFeed.Time
open EventFeed.Wire (Frame Decoder DecodeError HeartBeat)

/-- How the opening of a channel stands. -/
inductive Dial where
  | pending
  | opened
  | failed (error : ChannelError)
  | crashed (cause : String)
  deriving DecidableEq

/-- What a keeper sees: the time; whether it is told to stop, and whether it notices that before
whatever else is there at once; how the opening of its channel, the channel's sink and the next read
stand; whether its writer takes frames, and the error at which it ended; which receipts a
subscription waits for; the receipt that a farewell would ask for; and the number between -1 and 1
drawn for a delay. -/
structure View where
  now : Nat
  stopping : Bool
  stopFirst : Bool
  dial : Dial
  sink : SinkMode
  arrival : Option Arrival
  writerOpen : Bool
  writerEnd : Option ChannelError
  awaits : String → Bool
  receipt : String
  drawn : Binary64

/-- What a keeper does. -/
inductive Effect where
  | happened (happening : Happening)
  /-- The state of the connection is this one now. -/
  | publish (state : ConnectionState)
  | notify (notice : Notice)
  | dial
  /-- The channel that was opened is the session's. -/
  | accept
  | write (chunk : List UInt8)
  | close
  /-- One read of the channel is over. -/
  | take
  /-- The sink goes to a writer. -/
  | appoint
  /-- The subscriptions are asked for. -/
  | attach
  /-- The subscriptions are no longer this session's. -/
  | detach
  | handle (frame : Frame)
  | queue (frame : Frame)
  /-- The writer gets no more frames from the session. -/
  | dismiss
  | abort
  /-- The channel, opened or not, is let go. -/
  | release
  deriving DecidableEq

/-- What came in and is not handled yet. `drained` tells that no whole frame is left in it. -/
structure Intake where
  decoder : Decoder
  drained : Bool

namespace Intake

def fresh (limit : Nat) : Intake :=
  ⟨.fresh limit, false⟩

def feed (intake : Intake) (chunk : List UInt8) : Intake :=
  ⟨intake.decoder.feed chunk, false⟩

/-- The next frame, and what is left after it. -/
def next (intake : Intake) : Except DecodeError (Option Frame) × Intake :=
  let (result, decoder) := intake.decoder.next
  let drained := match result with
    | .ok none => true
    | _ => false
  (result, ⟨decoder, drained⟩)

end Intake

/-- A connected session: what came in; how long the server may be silent, and until when; the
interval of our heart-beats, and when the next is due; and since when the session is connected. -/
structure Watch where
  intake : Intake
  silence : Option (Span × Nat)
  beat : Option (Span × Nat)
  since : Nat

namespace Watch

/-- The watch over a session that is connected from now on, with the agreed heart-beats. -/
def start (pulse : Pulse) (agreed : HeartBeat) (intake : Intake) (now : Nat) : Watch where
  intake := intake
  silence := (pulse.deadline? agreed.incoming).map fun span =>
    let limit := span.min day
    (limit, now + limit.nanos)
  beat :=
    if agreed.outgoing.isZero then none
    else
      let period := agreed.outgoing.min day
      some (period, now + period.nanos)
  since := now

/-- A chunk comes in, and the server has all its time again. -/
def feed (watch : Watch) (chunk : List UInt8) (now : Nat) : Watch :=
  { watch with
    intake := watch.intake.feed chunk
    silence := watch.silence.map fun (limit, _) => (limit, now + limit.nanos) }

/-- How long the server was allowed to be silent, if it was silent for longer. -/
def silent? (watch : Watch) (now : Nat) : Option Span :=
  (watch.silence.filter fun silence => isDue now silence.2).map Prod.fst

/-- How late a heart-beat may be without the later ones moving: five milliseconds. -/
def slack : Nat := 5 * nanosPerMilli

/-- The watch after a heart-beat that is due. -/
def beat? (watch : Watch) (now : Nat) : Option Watch :=
  (watch.beat.filter fun beat => isDue now beat.2).map fun (period, due) =>
    let base := if due + slack < now then now else due
    { watch with beat := some (period, base + period.nanos) }

end Watch

/-- What a deadline is set for: the answer of the network, the opening of a channel, the answer to
the greeting, the silence of the server, a heart-beat, the receipt for the farewell, the last frames
of the writer, and the delay before the next session. -/
inductive Wait where
  | answer
  | opening
  | awaiting
  | silence
  | beat
  | parting
  | draining
  | pausing
  deriving DecidableEq, Repr

/-- How far a keeper is. -/
inductive Phase where
  | starting
  | opening (deadline : Nat)
  | greeting
  /-- The answer to the greeting is awaited. -/
  | awaiting (intake : Intake) (deadline : Nat)
  /-- The sink is being closed before there was an answer. -/
  | hangingUp
  | reading (watch : Watch)
  /-- The receipt for the farewell is awaited. -/
  | parting (intake : Intake) (receipt : String) (deadline : Nat)
  | draining (deadline : Nat)
  /-- The delay before the next session is running. -/
  | pausing (deadline : Nat)
  | finished (result : Except MonitorError Unit)

/-- A keeper: where it connects, as whom, how many sessions failed in a row, the session, and how
far it is. -/
structure Keeper where
  endpoint : Endpoint
  credentials : Credentials
  attempt : Nat
  session : Session
  phase : Phase

namespace Keeper

/-- A step: the keeper after it, and what is done in it. -/
abbrev Step := Keeper × List Effect

def fresh (endpoint : Endpoint) (credentials : Credentials) : Keeper where
  endpoint := endpoint
  credentials := credentials
  attempt := 0
  session := .fresh
  phase := .starting

/-- What the keeper finished with, if it has finished. -/
def result? (keeper : Keeper) : Option (Except MonitorError Unit) :=
  match keeper.phase with
  | .finished result => some result
  | _ => none

def enter (keeper : Keeper) (phase : Phase) : Keeper :=
  { keeper with phase }

def advance (keeper : Keeper) (happening : Happening) : Keeper :=
  { keeper with session := keeper.session.advance happening }

/-! ### The ends of sessions and of keepers -/

/-- The keeper finishes because it was told to. -/
def finish (keeper : Keeper) : Step :=
  (keeper.enter (.finished (.ok ())), [.publish .disconnected])

/-- A session ends because the keeper was told to stop, and the keeper finishes. -/
def conclude (keeper : Keeper) (happening : Happening) : Step :=
  let (after, effects) := (keeper.advance happening).finish
  (after, [.happened happening, .release] ++ effects)

def crash (keeper : Keeper) (cause : String) : Step :=
  (keeper.enter (.finished (.error (.broken cause))), [.release, .publish (.failed cause)])

/-- How many sessions failed in a row before this one, which was connected for the given time, if it
was connected: a session that was connected for long enough begins a new row. -/
def failuresBefore (reconnection : Reconnection) (attempt : Nat) (uptime : Option Nat) : Nat :=
  if uptime.any fun uptime => reconnection.stabilityWindow.nanos ≤ uptime then 0 else attempt

/-- After a failed session: the delay before the next one, or the end if no attempts are left. -/
def retry (settings : Settings) (view : View) (keeper : Keeper) (error : SessionError)
    (uptime : Option Nat) : Step :=
  let reconnection := settings.reconnection
  let before := failuresBefore reconnection keeper.attempt uptime
  if reconnection.mostAttempts.any fun most => most ≤ before then
    let cause : GaveUp := ⟨before, error.message⟩
    ({ keeper with attempt := before, phase := .finished (.error (.gaveUp cause)) },
      [.publish (.failed cause.message)])
  else
    let delay := reconnection.delay before view.drawn
    let attempt := min (before + 1) (attemptBound - 1)
    ({ keeper with attempt, phase := .pausing (view.now + delay.nanos) },
      [.publish (.reconnecting attempt), .notify (.retrying attempt delay)])

def fail (settings : Settings) (view : View) (keeper : Keeper) (error : SessionError)
    (uptime : Option Nat) : Step :=
  let failed := keeper.advance .fault
  let report := error.serverMessage?.toList.map fun message => Effect.notify (.serverError message)
  let (after, effects) :=
    if view.stopping then failed.finish else failed.retry settings view error uptime
  (after, .happened .fault :: report ++ .release :: effects)

def lose (settings : Settings) (view : View) (keeper : Keeper) (watch : Watch)
    (error : SessionError) : Step :=
  let (after, effects) := keeper.fail settings view error (some (view.now - watch.since))
  (after, .detach :: .abort :: effects)

def after (effect : Effect) (step : Step) : Step :=
  (step.1, effect :: step.2)

/-- What there is to do, unless the keeper notices first that it is told to stop. -/
def unlessStopped (view : View) (stopped : Step) (other : Option Step) : Option Step :=
  if view.stopping && (view.stopFirst || other.isNone) then some stopped else other

/-! ### Opening a channel -/

def begin (settings : Settings) (view : View) (keeper : Keeper) : Step :=
  let session := Session.fresh.advance .start
  ({ keeper with session, phase := .opening (view.now + settings.connectTimeout.nanos) },
    [.happened .start, .publish .connecting, .dial])

/-- The channel is there, or it will not be; an answer that comes at the last moment counts. -/
def dialed (settings : Settings) (view : View) (keeper : Keeper) (deadline : Nat) : Option Step :=
  match view.dial with
  | .opened =>
    some ((keeper.advance .channelReady).enter .greeting, [.accept, .happened .channelReady])
  | .failed error => some (keeper.fail settings view (.channel error) none)
  | .crashed cause => some (keeper.crash cause)
  | .pending =>
    if isDue view.now deadline then some (keeper.fail settings view (.channel .timedOut) none)
    else none

def onOpening (settings : Settings) (view : View) (keeper : Keeper) (deadline : Nat) :
    Option Step :=
  unlessStopped view (keeper.conclude .teardownRequested) (keeper.dialed settings view deadline)

/-! ### Shaking hands -/

/-- While the greeting is being written, which nothing cuts short. -/
def onGreeting (settings : Settings) (view : View) (keeper : Keeper) : Option Step :=
  match view.sink with
  | .accepting =>
    let hello := EventFeed.greeting keeper.endpoint keeper.credentials settings.pulse.offer
    let deadline := view.now + settings.handshakeTimeout.nanos
    some (keeper.enter (.awaiting (.fresh settings.frameLimit) deadline), [.write hello.encode])
  | .stalled => none
  | .faulty error => some (keeper.fail settings view (.channel error) none)
  | .crashing cause => some (keeper.crash cause)

/-- The server's answer connects the session. -/
def connect (settings : Settings) (view : View) (keeper : Keeper) (answer : Frame)
    (intake : Intake) : Step :=
  let offer := settings.pulse.offer
  let session := { keeper.session.advance .handshakeAcknowledged with
    name := answer.header? Wire.Header.session }
  let watch := Watch.start settings.pulse (agreed offer answer) intake view.now
  ({ keeper with session, phase := .reading watch },
    [.happened .handshakeAcknowledged, .appoint, .attach, .publish .connected])

/-- The next frame before the session is connected. -/
def awaitFrame (settings : Settings) (view : View) (keeper : Keeper) (intake : Intake)
    (deadline : Nat) : Step :=
  match intake.next with
  | (.error error, _) => keeper.fail settings view (.undecodable error) none
  | (.ok none, rest) => (keeper.enter (.awaiting rest deadline), [])
  | (.ok (some frame), rest) =>
    match frame.command with
    | .heartbeat => (keeper.enter (.awaiting rest deadline), [])
    | .connected => keeper.connect settings view frame rest
    | .error => keeper.fail settings view (.ofServer frame) none
    | command => keeper.fail settings view (.unexpectedFrame command) none

/-- The next read before the session is connected. -/
def awaitArrival (settings : Settings) (view : View) (keeper : Keeper) (intake : Intake)
    (deadline : Nat) : Option Step :=
  match view.arrival with
  | some (.ok chunk) => some (keeper.enter (.awaiting (intake.feed chunk) deadline), [.take])
  | some (.error error) => some (after .take (keeper.fail settings view (.channel error) none))
  | none =>
    if isDue view.now deadline then
      some (keeper.fail settings view (.handshakeTimeout settings.handshakeTimeout) none)
    else none

/-- While the answer to the greeting is awaited. -/
def onAwaiting (settings : Settings) (view : View) (keeper : Keeper) (intake : Intake)
    (deadline : Nat) : Option Step :=
  if intake.drained then
    unlessStopped view (keeper.enter .hangingUp, [])
      (keeper.awaitArrival settings view intake deadline)
  else some (keeper.awaitFrame settings view intake deadline)

/-- While the sink is being closed before there was an answer. -/
def onHangingUp (view : View) (keeper : Keeper) : Option Step :=
  match view.sink with
  | .accepting => some (after .close (keeper.conclude .teardownRequested))
  | .stalled => none
  | .faulty _ => some (keeper.conclude .teardownRequested)
  | .crashing cause => some (keeper.crash cause)

/-! ### The connected session -/

/-- Whether a frame ends the session: an error that refuses no subscription that still waits for an
answer. -/
def isFatal (view : View) (frame : Frame) : Bool :=
  frame.command = .error && !(frame.header? Wire.Header.receiptId).any view.awaits

def readFrame (settings : Settings) (view : View) (keeper : Keeper) (watch : Watch) : Step :=
  match watch.intake.next with
  | (.error error, _) => keeper.lose settings view watch (.undecodable error)
  | (.ok none, intake) => (keeper.enter (.reading { watch with intake }), [])
  | (.ok (some frame), intake) =>
    if isFatal view frame then
      after (.handle frame) (keeper.lose settings view watch (.ofServer frame))
    else (keeper.enter (.reading { watch with intake }), [.handle frame])

/-- The session is told to end: a farewell asks for a receipt, if it can still be written. -/
def part (settings : Settings) (view : View) (keeper : Keeper) (intake : Intake) : Step :=
  let parted := keeper.advance .teardownRequested
  let deadline := view.now + settings.disconnectTimeout.nanos
  if view.writerOpen then
    (parted.enter (.parting intake view.receipt deadline),
      [.detach, .happened .teardownRequested, .queue (farewell view.receipt)])
  else (parted.enter (.draining deadline), [.detach, .happened .teardownRequested, .dismiss])

/-- What else a connected session meets, and in this order: the next read, the end of the server's
time, a heart-beat that is due, the end of the writer. -/
def attend (settings : Settings) (view : View) (keeper : Keeper) (watch : Watch) : Option Step :=
  match view.arrival with
  | some (.ok chunk) =>
    let session := { keeper.session with lastReceived := some view.now }
    some ({ keeper with session, phase := .reading (watch.feed chunk view.now) }, [.take])
  | some (.error error) => some (after .take (keeper.lose settings view watch (.channel error)))
  | none =>
    match watch.silent? view.now with
    | some limit => some (keeper.lose settings view watch (.silence limit))
    | none =>
      match watch.beat? view.now with
      | some later =>
        if view.writerOpen then
          let session := { keeper.session with lastSent := some view.now }
          some ({ keeper with session, phase := .reading later }, [.queue .heartbeat])
        else some (keeper.lose settings view watch (.channel .closed))
      | none => view.writerEnd.map fun error => keeper.lose settings view watch (.channel error)

/-- While the session is connected. Frames that came in are handled before anything else is looked
at, and then a stop comes first. -/
def onReading (settings : Settings) (view : View) (keeper : Keeper) (watch : Watch) :
    Option Step :=
  if !watch.intake.drained then some (keeper.readFrame settings view watch)
  else if view.stopping then some (keeper.part settings view watch.intake)
  else keeper.attend settings view watch

/-! ### Taking leave -/

/-- There is nothing more to wait for but the writer. -/
def drain (settings : Settings) (view : View) (keeper : Keeper) : Step :=
  (keeper.enter (.draining (view.now + settings.disconnectTimeout.nanos)), [.dismiss])

/-- The next frame while the receipt is awaited. -/
def partFrame (settings : Settings) (view : View) (keeper : Keeper) (intake : Intake)
    (receipt : String) (deadline : Nat) : Step :=
  match intake.next with
  | (.error _, _) => keeper.drain settings view
  | (.ok none, rest) => (keeper.enter (.parting rest receipt deadline), [])
  | (.ok (some frame), rest) =>
    if isReceipt receipt frame then keeper.drain settings view
    else (keeper.enter (.parting rest receipt deadline), [])

/-- While the receipt for the farewell is awaited. -/
def onParting (settings : Settings) (view : View) (keeper : Keeper) (intake : Intake)
    (receipt : String) (deadline : Nat) : Option Step :=
  if !intake.drained then some (keeper.partFrame settings view intake receipt deadline)
  else match view.arrival with
  | some (.ok chunk) =>
    some (keeper.enter (.parting (intake.feed chunk) receipt deadline), [.take])
  | some (.error _) => some (after .take (keeper.drain settings view))
  | none => if isDue view.now deadline then some (keeper.drain settings view) else none

def onDraining (view : View) (keeper : Keeper) (deadline : Nat) : Option Step :=
  if view.writerEnd.isSome then some (keeper.conclude .closeComplete)
  else if isDue view.now deadline then some (after .abort (keeper.conclude .closeComplete))
  else none

/-- While the delay before the next session is running. -/
def onPausing (view : View) (keeper : Keeper) (deadline : Nat) : Option Step :=
  unlessStopped view keeper.finish
    (if isDue view.now deadline then some (keeper.enter .starting, []) else none)

/-! ### Steps -/

/-- The next thing that the keeper does, if it does not have to wait. -/
def step (settings : Settings) (view : View) (keeper : Keeper) : Option Step :=
  match keeper.phase with
  | .starting => some (keeper.begin settings view)
  | .opening deadline => keeper.onOpening settings view deadline
  | .greeting => keeper.onGreeting settings view
  | .awaiting intake deadline => keeper.onAwaiting settings view intake deadline
  | .hangingUp => keeper.onHangingUp view
  | .reading watch => keeper.onReading settings view watch
  | .parting intake receipt deadline => keeper.onParting settings view intake receipt deadline
  | .draining deadline => keeper.onDraining view deadline
  | .pausing deadline => keeper.onPausing view deadline
  | .finished _ => none

/-- The deadlines that the keeper has set, and what each is for. -/
def deadlines (keeper : Keeper) : List (Wait × Nat) :=
  match keeper.phase with
  | .opening deadline => [(.opening, deadline)]
  | .awaiting _ deadline => [(.awaiting, deadline)]
  | .reading watch =>
    watch.silence.toList.map (fun silence => (.silence, silence.2)) ++
      watch.beat.toList.map fun beat => (.beat, beat.2)
  | .parting _ _ deadline => [(.parting, deadline)]
  | .draining deadline => [(.draining, deadline)]
  | .pausing deadline => [(.pausing, deadline)]
  | .starting | .greeting | .hangingUp | .finished _ => []

/-- Whether the keeper has nothing left to do of its own, so that it looks at what comes from
outside next. -/
def listens (keeper : Keeper) : Bool :=
  match keeper.phase with
  | .awaiting intake _ | .parting intake _ _ => intake.drained
  | .reading watch => watch.intake.drained
  | .opening _ | .draining _ | .pausing _ => true
  | .starting | .greeting | .hangingUp | .finished _ => false

/-- A keeper that has finished does nothing more. -/
theorem step_of_finished {keeper : Keeper} {result : Except MonitorError Unit}
    (done : keeper.result? = some result) (settings : Settings) (view : View) :
    keeper.step settings view = none := by
  unfold result? at done
  split at done
  · rename_i phase
    simp [step, phase]
  · cases done

/-- A session that fails while the keeper is told to stop is its last. -/
theorem result?_fail {view : View} (stopping : view.stopping = true) (settings : Settings)
    (keeper : Keeper) (error : SessionError) (uptime : Option Nat) :
    (keeper.fail settings view error uptime).1.result? = some (.ok ()) := by
  simp [fail, stopping, finish, enter, result?]

end Keeper

end EventFeed
