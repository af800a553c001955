/-
**What a keeper does in one step.**

A step depends on the phase of the keeper, on what came in and on what the keeper sees. `Deed` lists
what can come of that: each case tells in which phase the keeper was, what it saw, and what the step
is. A fact about all steps is proved by going through the cases, and nothing else has to open
`Keeper.step`.

* `Keeper.deed_of_step`: every step of a keeper is one of the deeds.
-/

import EventFeed.Monitor.Keeper

namespace EventFeed

open EventFeed.Time
open EventFeed.Wire (Frame DecodeError)

/-- Whether an effect only tells the consumer something. -/
def Effect.tells : Effect → Bool
  | .publish _ | .notify _ => true
  | _ => false

/-- A heart-beat changes no more than when the next one is due. -/
theorem Watch.eq_of_beat? {watch later : Watch} {now : Nat}
    (due : watch.beat? now = some later) : ∃ beat, later = { watch with beat } := by
  obtain ⟨beat, -, rfl⟩ := Option.map_eq_some_iff.mp due
  exact ⟨_, rfl⟩

namespace Keeper

/-- Why a session fails before it is connected, and what is done before it is told to fail. -/
inductive FailsBy (settings : Settings) (view : View) (keeper : Keeper) :
    SessionError → List Effect → Prop where
  /-- The network refuses the channel. -/
  | refused {deadline : Nat} {error : ChannelError} (phase : keeper.phase = .opening deadline)
      (answer : view.dial = .failed error) : FailsBy settings view keeper (.channel error) []
  /-- The network does not answer in time. -/
  | unanswered {deadline : Nat} (phase : keeper.phase = .opening deadline)
      (late : isDue view.now deadline = true) : FailsBy settings view keeper (.channel .timedOut) []
  /-- The greeting cannot be written. -/
  | unwritten {error : ChannelError} (phase : keeper.phase = .greeting)
      (sink : view.sink = .faulty error) : FailsBy settings view keeper (.channel error) []
  | undecodable {intake rest : Intake} {deadline : Nat} {error : DecodeError}
      (phase : keeper.phase = .awaiting intake deadline) (undrained : intake.drained = false)
      (found : intake.next = (.error error, rest)) :
      FailsBy settings view keeper (.undecodable error) []
  /-- The server answers the greeting with an error. -/
  | rejected {intake rest : Intake} {deadline : Nat} {frame : Frame}
      (phase : keeper.phase = .awaiting intake deadline) (undrained : intake.drained = false)
      (found : intake.next = (.ok (some frame), rest)) (isError : frame.command = .error) :
      FailsBy settings view keeper (.ofServer frame) []
  /-- The server answers the greeting with something that is no answer. -/
  | unexpected {intake rest : Intake} {deadline : Nat} {frame : Frame}
      (phase : keeper.phase = .awaiting intake deadline) (undrained : intake.drained = false)
      (found : intake.next = (.ok (some frame), rest)) (noBeat : frame.command ≠ .heartbeat)
      (noAnswer : frame.command ≠ .connected) :
      FailsBy settings view keeper (.unexpectedFrame frame.command) []
  /-- The channel breaks or ends before there is an answer. -/
  | broken {intake : Intake} {deadline : Nat} {error : ChannelError}
      (phase : keeper.phase = .awaiting intake deadline) (drained : intake.drained = true)
      (arrival : view.arrival = some (.error error)) :
      FailsBy settings view keeper (.channel error) [.take]
  /-- The server does not answer the greeting in time. -/
  | late {intake : Intake} {deadline : Nat} (phase : keeper.phase = .awaiting intake deadline)
      (drained : intake.drained = true) (silent : view.arrival = none)
      (late : isDue view.now deadline = true) :
      FailsBy settings view keeper (.handshakeTimeout settings.handshakeTimeout) []

/-- Why a connected session fails, and what is done before it is told to fail. -/
inductive LosesBy (view : View) (watch : Watch) : SessionError → List Effect → Prop where
  | undecodable {error : DecodeError} {rest : Intake} (undrained : watch.intake.drained = false)
      (found : watch.intake.next = (.error error, rest)) :
      LosesBy view watch (.undecodable error) []
  /-- A frame came that ends the session. -/
  | fatal {frame : Frame} {rest : Intake} (undrained : watch.intake.drained = false)
      (found : watch.intake.next = (.ok (some frame), rest)) (fatal : isFatal view frame = true) :
      LosesBy view watch (.ofServer frame) [.handle frame]
  /-- The channel breaks or ends. -/
  | broken {error : ChannelError} (drained : watch.intake.drained = true)
      (arrival : view.arrival = some (.error error)) : LosesBy view watch (.channel error) [.take]
  /-- The server is silent for too long. -/
  | silent {limit : Span} (drained : watch.intake.drained = true) (silent : view.arrival = none)
      (late : watch.silent? view.now = some limit) : LosesBy view watch (.silence limit) []
  /-- The writer is found closed when a heart-beat is due. -/
  | closed (drained : watch.intake.drained = true) (silent : view.arrival = none)
      (closed : view.writerOpen = false) : LosesBy view watch (.channel .closed) []
  /-- The writer has ended. -/
  | ended {error : ChannelError} (drained : watch.intake.drained = true)
      (silent : view.arrival = none) (ended : view.writerEnd = some error) :
      LosesBy view watch (.channel error) []

/-- What a keeper does in one step, with the phase in which it is and what it sees. -/
inductive Deed (settings : Settings) (view : View) (keeper : Keeper) : Step → Prop where
  | begins (phase : keeper.phase = .starting) :
      Deed settings view keeper (keeper.begin settings view)
  /-- The channel is there. -/
  | opens {deadline : Nat} (phase : keeper.phase = .opening deadline)
      (answer : view.dial = .opened) :
      Deed settings view keeper
        ((keeper.advance .channelReady).enter .greeting, [.accept, .happened .channelReady])
  /-- The greeting is written. -/
  | greets (phase : keeper.phase = .greeting) (sink : view.sink = .accepting) :
      Deed settings view keeper
        (keeper.enter (.awaiting (.fresh settings.frameLimit)
            (view.now + settings.handshakeTimeout.nanos)),
          [.write (EventFeed.greeting keeper.endpoint keeper.credentials
            settings.pulse.offer).encode])
  /-- Something comes in before the session is connected. -/
  | hears {intake : Intake} {deadline : Nat} {chunk : List UInt8}
      (phase : keeper.phase = .awaiting intake deadline) (drained : intake.drained = true)
      (arrival : view.arrival = some (.ok chunk)) :
      Deed settings view keeper (keeper.enter (.awaiting (intake.feed chunk) deadline), [.take])
  /-- What came in before the session is connected holds a heart-beat, or no frame any more. -/
  | looks {intake rest : Intake} {deadline : Nat} {found : Option Frame}
      (phase : keeper.phase = .awaiting intake deadline) (undrained : intake.drained = false)
      (next : intake.next = (.ok found, rest))
      (beat : ∀ frame, found = some frame → frame.command = .heartbeat) :
      Deed settings view keeper (keeper.enter (.awaiting rest deadline), [])
  | connects {intake rest : Intake} {deadline : Nat} {answer : Frame}
      (phase : keeper.phase = .awaiting intake deadline) (undrained : intake.drained = false)
      (found : intake.next = (.ok (some answer), rest)) (answers : answer.command = .connected) :
      Deed settings view keeper (keeper.connect settings view answer rest)
  /-- The keeper is told to stop before the session is connected. -/
  | hangsUp {intake : Intake} {deadline : Nat} (phase : keeper.phase = .awaiting intake deadline)
      (drained : intake.drained = true) (stopping : view.stopping = true) :
      Deed settings view keeper (keeper.enter .hangingUp, [])
  /-- A session fails before it is connected. -/
  | fails {error : SessionError} {earlier : List Effect}
      (reason : FailsBy settings view keeper error earlier) :
      Deed settings view keeper ((keeper.fail settings view error none).1,
        earlier ++ (keeper.fail settings view error none).2)
  /-- What came in holds no frame any more. -/
  | reads {watch : Watch} {rest : Intake} (phase : keeper.phase = .reading watch)
      (undrained : watch.intake.drained = false) (next : watch.intake.next = (.ok none, rest)) :
      Deed settings view keeper (keeper.enter (.reading { watch with intake := rest }), [])
  /-- A frame is handled that does not end the session. -/
  | handles {watch : Watch} {rest : Intake} {frame : Frame}
      (phase : keeper.phase = .reading watch) (undrained : watch.intake.drained = false)
      (found : watch.intake.next = (.ok (some frame), rest))
      (harmless : isFatal view frame = false) :
      Deed settings view keeper
        (keeper.enter (.reading { watch with intake := rest }), [.handle frame])
  /-- Something comes in while the session is connected. -/
  | takes {watch : Watch} {chunk : List UInt8} (phase : keeper.phase = .reading watch)
      (drained : watch.intake.drained = true) (going : view.stopping = false)
      (arrival : view.arrival = some (.ok chunk)) :
      Deed settings view keeper
        ({ keeper with
            session := { keeper.session with lastReceived := some view.now }
            phase := .reading (watch.feed chunk view.now) }, [.take])
  /-- A heart-beat is due. -/
  | beats {watch later : Watch} (phase : keeper.phase = .reading watch)
      (drained : watch.intake.drained = true) (going : view.stopping = false)
      (due : watch.beat? view.now = some later) :
      Deed settings view keeper
        ({ keeper with
            session := { keeper.session with lastSent := some view.now }
            phase := .reading later }, [.queue .heartbeat])
  /-- A connected session fails. -/
  | loses {watch : Watch} {error : SessionError} {earlier : List Effect}
      (phase : keeper.phase = .reading watch)
      (going : watch.intake.drained = true → view.stopping = false)
      (reason : LosesBy view watch error earlier) :
      Deed settings view keeper ((keeper.lose settings view watch error).1,
        earlier ++ (keeper.lose settings view watch error).2)
  /-- A connected session is told to end. -/
  | parts {watch : Watch} (phase : keeper.phase = .reading watch)
      (drained : watch.intake.drained = true) (stopping : view.stopping = true) :
      Deed settings view keeper (keeper.part settings view watch.intake)
  /-- The receipt for the farewell is still awaited, after something came in or was looked at. -/
  | lingers {intake rest : Intake} {receipt : String} {deadline : Nat} {effects : List Effect}
      (phase : keeper.phase = .parting intake receipt deadline)
      (quiet : effects = [] ∨ effects = [.take]) :
      Deed settings view keeper (keeper.enter (.parting rest receipt deadline), effects)
  /-- There is nothing more to wait for but the writer. -/
  | drains {intake : Intake} {receipt : String} {deadline : Nat} (earlier : List Effect)
      (phase : keeper.phase = .parting intake receipt deadline)
      (quiet : earlier = [] ∨ earlier = [.take]) :
      Deed settings view keeper ((keeper.drain settings view).1,
        earlier ++ (keeper.drain settings view).2)
  /-- A session ends because the keeper was told to stop. -/
  | concludes {happening : Happening} (earlier : List Effect)
      (phase : (∃ deadline, keeper.phase = .opening deadline) ∨ keeper.phase = .hangingUp ∨
        ∃ deadline, keeper.phase = .draining deadline)
      (ends : happening = .teardownRequested ∨ happening = .closeComplete)
      (quiet : earlier = [] ∨ earlier = [.close] ∨ earlier = [.abort])
      (fits : happening = .closeComplete ↔ ∃ deadline, keeper.phase = .draining deadline) :
      Deed settings view keeper ((keeper.conclude happening).1,
        earlier ++ (keeper.conclude happening).2)
  | crashes {cause : String}
      (phase : (∃ deadline, keeper.phase = .opening deadline) ∨ keeper.phase = .greeting ∨
        keeper.phase = .hangingUp) :
      Deed settings view keeper (keeper.crash cause)
  /-- The keeper is told to stop between two sessions. -/
  | rests {deadline : Nat} (phase : keeper.phase = .pausing deadline)
      (stopping : view.stopping = true) : Deed settings view keeper keeper.finish
  /-- The delay before the next session is over. -/
  | wakes {deadline : Nat} (phase : keeper.phase = .pausing deadline)
      (due : isDue view.now deadline = true) :
      Deed settings view keeper (keeper.enter .starting, [])

section Phases

variable {settings : Settings} {view : View} {keeper : Keeper} {step : Step}

/-- What is done unless the keeper is told to stop first is one thing or the other. -/
theorem unlessStopped_eq_some {stopped : Step} {other : Option Step}
    (stepped : unlessStopped view stopped other = some step) :
    view.stopping = true ∧ step = stopped ∨ other = some step := by
  unfold unlessStopped at stepped
  split at stepped
  · rename_i noticed
    exact .inl ⟨(Bool.and_eq_true_iff.mp noticed).1, (Option.some.inj stepped).symm⟩
  · exact .inr stepped

theorem deed_onOpening {deadline : Nat} (phase : keeper.phase = .opening deadline)
    (stepped : keeper.onOpening settings view deadline = some step) :
    Deed settings view keeper step := by
  rcases unlessStopped_eq_some stepped with ⟨-, rfl⟩ | dialing
  · exact .concludes [] (.inl ⟨deadline, phase⟩) (.inl rfl) (.inl rfl) (by simp [phase])
  · unfold dialed at dialing
    split at dialing
    · cases dialing
      exact .opens phase ‹_›
    · cases dialing
      exact .fails (.refused phase ‹_›)
    · cases dialing
      exact .crashes (.inl ⟨deadline, phase⟩)
    · split at dialing <;> cases dialing
      exact .fails (.unanswered phase ‹_›)

theorem deed_onGreeting (phase : keeper.phase = .greeting)
    (stepped : keeper.onGreeting settings view = some step) : Deed settings view keeper step := by
  unfold onGreeting at stepped
  split at stepped <;> cases stepped
  · exact .greets phase ‹_›
  · exact .fails (.unwritten phase ‹_›)
  · exact .crashes (.inr (.inl phase))

theorem deed_onAwaiting {intake : Intake} {deadline : Nat}
    (phase : keeper.phase = .awaiting intake deadline)
    (stepped : keeper.onAwaiting settings view intake deadline = some step) :
    Deed settings view keeper step := by
  unfold onAwaiting at stepped
  split at stepped
  · rename_i drained
    rcases unlessStopped_eq_some stepped with ⟨stopping, rfl⟩ | arriving
    · exact .hangsUp phase drained stopping
    · unfold awaitArrival at arriving
      split at arriving
      · cases arriving
        exact .hears phase drained ‹_›
      · cases arriving
        exact .fails (.broken phase drained ‹_›)
      · split at arriving <;> cases arriving
        exact .fails (.late phase drained ‹_› ‹_›)
  · rename_i notDrained
    have undrained : intake.drained = false := Bool.not_eq_true _ ▸ notDrained
    cases stepped
    unfold awaitFrame
    split
    · exact .fails (.undecodable phase undrained ‹_›)
    · rename_i nothing
      exact .looks phase undrained nothing nofun
    · rename_i frame rest found
      split
      · rename_i beat
        exact .looks phase undrained found fun frame same => Option.some.inj same ▸ beat
      · exact .connects phase undrained found ‹_›
      · exact .fails (.rejected phase undrained found ‹_›)
      · exact .fails (.unexpected phase undrained found ‹_› ‹_›)

theorem deed_onHangingUp (phase : keeper.phase = .hangingUp)
    (stepped : keeper.onHangingUp view = some step) : Deed settings view keeper step := by
  unfold onHangingUp at stepped
  split at stepped <;> cases stepped
  · exact .concludes [.close] (.inr (.inl phase)) (.inl rfl) (.inr (.inl rfl)) (by simp [phase])
  · exact .concludes [] (.inr (.inl phase)) (.inl rfl) (.inl rfl) (by simp [phase])
  · exact .crashes (.inr (.inr phase))

/-- What a keeper does about a connected session from which it has nothing left to handle. -/
theorem deed_attend {watch : Watch} (phase : keeper.phase = .reading watch)
    (drained : watch.intake.drained = true) (going : view.stopping = false)
    (stepped : keeper.attend settings view watch = some step) : Deed settings view keeper step := by
  have goes : watch.intake.drained = true → view.stopping = false := fun _ => going
  unfold attend at stepped
  split at stepped
  · cases stepped
    exact .takes phase drained going ‹_›
  · cases stepped
    exact .loses phase goes (.broken drained ‹_›)
  · rename_i silent
    split at stepped
    · cases stepped
      exact .loses phase goes (.silent drained silent ‹_›)
    · split at stepped
      · split at stepped
        · cases stepped
          exact .beats phase drained going ‹_›
        · rename_i closed
          cases stepped
          exact .loses phase goes (.closed drained silent (Bool.not_eq_true _ ▸ closed))
      · rw [Option.map_eq_some_iff] at stepped
        obtain ⟨error, ended, rfl⟩ := stepped
        exact .loses phase goes (.ended drained silent ended)

theorem deed_onReading {watch : Watch} (phase : keeper.phase = .reading watch)
    (stepped : keeper.onReading settings view watch = some step) :
    Deed settings view keeper step := by
  unfold onReading at stepped
  split at stepped
  · rename_i notDrained
    have undrained : watch.intake.drained = false := by simpa using notDrained
    have goes : watch.intake.drained = true → view.stopping = false := fun drained =>
      nomatch undrained.symm.trans drained
    cases stepped
    unfold readFrame
    split
    · exact .loses phase goes (.undecodable undrained ‹_›)
    · exact .reads phase undrained ‹_›
    · rename_i found
      split
      · exact .loses phase goes (.fatal undrained found ‹_›)
      · rename_i notFatal
        exact .handles phase undrained found (Bool.not_eq_true _ ▸ notFatal)
  · rename_i drained
    split at stepped
    · cases stepped
      exact .parts phase (by simpa using drained) ‹_›
    · rename_i going
      exact deed_attend phase (by simpa using drained) (Bool.not_eq_true _ ▸ going) stepped

theorem deed_onParting {intake : Intake} {receipt : String} {deadline : Nat}
    (phase : keeper.phase = .parting intake receipt deadline)
    (stepped : keeper.onParting settings view intake receipt deadline = some step) :
    Deed settings view keeper step := by
  unfold onParting at stepped
  split at stepped
  · cases stepped
    unfold partFrame
    split
    · exact .drains [] phase (.inl rfl)
    · exact .lingers phase (.inl rfl)
    · split
      · exact .drains [] phase (.inl rfl)
      · exact .lingers phase (.inl rfl)
  · split at stepped
    · cases stepped
      exact .lingers phase (.inr rfl)
    · cases stepped
      exact .drains [.take] phase (.inr rfl)
    · split at stepped <;> cases stepped
      exact .drains [] phase (.inl rfl)

theorem deed_onDraining {deadline : Nat} (phase : keeper.phase = .draining deadline)
    (stepped : keeper.onDraining view deadline = some step) : Deed settings view keeper step := by
  unfold onDraining at stepped
  split at stepped
  · cases stepped
    exact .concludes [] (.inr (.inr ⟨deadline, phase⟩)) (.inr rfl) (.inl rfl) (by simp [phase])
  · split at stepped <;> cases stepped
    exact .concludes [.abort] (.inr (.inr ⟨deadline, phase⟩)) (.inr rfl) (.inr (.inr rfl))
      (by simp [phase])

theorem deed_onPausing {deadline : Nat} (phase : keeper.phase = .pausing deadline)
    (stepped : keeper.onPausing view deadline = some step) : Deed settings view keeper step := by
  rcases unlessStopped_eq_some stepped with ⟨stopping, rfl⟩ | waking
  · exact .rests phase stopping
  · split at waking <;> cases waking
    exact .wakes phase ‹_›

/-- **Every step of a keeper is one of its deeds.** -/
theorem deed_of_step (stepped : keeper.step settings view = some step) :
    Deed settings view keeper step := by
  unfold Keeper.step at stepped
  split at stepped
  · cases stepped
    exact .begins ‹_›
  · exact deed_onOpening ‹_› stepped
  · exact deed_onGreeting ‹_› stepped
  · exact deed_onAwaiting ‹_› stepped
  · exact deed_onHangingUp ‹_› stepped
  · exact deed_onReading ‹_› stepped
  · exact deed_onParting ‹_› stepped
  · exact deed_onDraining ‹_› stepped
  · exact deed_onPausing ‹_› stepped
  · cases stepped

/-- A keeper whose session failed has finished, or waits for its next attempt. -/
theorem phase_fail (settings : Settings) (view : View) (keeper : Keeper) (error : SessionError)
    (uptime : Option Nat) :
    (∃ result, (keeper.fail settings view error uptime).1.phase = .finished result) ∨
      ∃ deadline, (keeper.fail settings view error uptime).1.phase = .pausing deadline := by
  unfold fail
  cases view.stopping with
  | true => exact .inl ⟨_, rfl⟩
  | false =>
    simp only [Bool.false_eq_true, if_false]
    unfold retry
    dsimp only
    split
    · exact .inl ⟨_, rfl⟩
    · exact .inr ⟨_, rfl⟩

/-- When a session fails, the consumer is told, the channel is let go, and the consumer is told what
comes next. -/
theorem exists_effects_fail (settings : Settings) (view : View) (keeper : Keeper)
    (error : SessionError) (uptime : Option Nat) :
    ∃ report told : List Effect, report.all Effect.tells = true ∧ told.all Effect.tells = true ∧
      (keeper.fail settings view error uptime).2 =
        .happened .fault :: (report ++ .release :: told) := by
  let report := error.serverMessage?.toList.map fun message => Effect.notify (.serverError message)
  have reports : report.all Effect.tells = true := by simp [report, Effect.tells]
  unfold fail
  cases view.stopping with
  | true => exact ⟨report, _, reports, rfl, rfl⟩
  | false =>
    refine ⟨report, _, reports, ?_, rfl⟩
    simp only [Bool.false_eq_true, if_false]
    unfold retry
    dsimp only
    split <;> rfl

/-- What holds of the few effects with which a session fails holds of all that is done then. -/
theorem forall_mem_fail {property : Effect → Prop} (fault : property (.happened .fault))
    (release : property .release) (tells : ∀ effect : Effect, effect.tells = true → property effect)
    (settings : Settings) (view : View) (keeper : Keeper) (error : SessionError)
    (uptime : Option Nat) :
    ∀ effect ∈ (keeper.fail settings view error uptime).2, property effect := by
  obtain ⟨report, told, reports, tell, same⟩ :=
    exists_effects_fail settings view keeper error uptime
  rw [same]
  simp only [List.mem_cons, List.mem_append]
  rintro effect (rfl | member | rfl | member)
  · exact fault
  · exact tells effect (List.all_eq_true.mp reports effect member)
  · exact release
  · exact tells effect (List.all_eq_true.mp tell effect member)

end Phases

end Keeper

end EventFeed
