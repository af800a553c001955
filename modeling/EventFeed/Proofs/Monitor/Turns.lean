/-
**What moves do to outlines.**

The outline of a world changes in few ways, whatever the rest of the world is like: a keeper takes a
step, a start is accepted, the consumer calls for a stop or lets go, and a stop takes the keeper,
finds none, or returns. `Outline.Turn` lists them with what each can change, so that what holds in
all interleavings is proved by going through these few cases.

* `World.turn_act`: every move does one of these to the outline, or nothing.
-/

import EventFeed.Proofs.Monitor.Interleaving
import EventFeed.Proofs.Monitor.Outline

namespace EventFeed

open EventFeed.Time

namespace Outline

/-- An outline when nobody but its keeper may be left to hold the monitor: then a stop can take the
keeper no more. -/
def settled (outline : Outline) : Outline :=
  if outline.held || outline.stops.any (· ≠ .returned) then outline
  else { outline with slot := none }

/-- What a keeper finished with, if it has finished. -/
def result? (outline : Outline) (index : Nat) : Option (Except MonitorError Unit) :=
  outline.keepers[index]?.bind Keeper.result?

/-- Whether a start is accepted. -/
def accepts (outline : Outline) : Bool :=
  outline.held && !outline.slot.any fun index => (outline.result? index).isNone

/-- The outline after a start that is accepted. -/
def started (outline : Outline) (endpoint : Endpoint) (credentials : Credentials) : Outline :=
  { outline with
    keepers := outline.keepers ++ [.fresh endpoint credentials]
    writers := outline.writers ++ [none]
    slot := some outline.keepers.length }

/-- What moves do to outlines: every other move leaves the outline alone. -/
inductive Turn (before : Outline) : Move → Outline → Prop where
  /-- Nothing in the outline changes. -/
  | quiet (move : Move) : Turn before move before
  | steps {index : Nat} {stopFirst : Bool} {drawn : Numeral.Binary64} {keeper : Keeper}
      {step : Keeper.Step} {after : Outline} (present : before.keepers[index]? = some keeper)
      (working : keeper.result? = none) (course : keeper.Course step)
      (alters : Alters index step.2
        { before with keepers := before.keepers.modify index fun _ => step.1 } after)
      (joined : step.1.isReading = true → keeper.isReading = false →
        ∀ writer, after.attached = some writer →
          before.attached = some writer ∨ after.writers[index]? = some (some writer)) :
      Turn before (.keeper index stopFirst drawn) after
  | starts {endpoint : Endpoint} {credentials : Credentials} (accepted : before.accepts = true) :
      Turn before (.start endpoint credentials) (before.started endpoint credentials)
  | calls (held : before.held = true) :
      Turn before .stop { before with stops := before.stops ++ [.called] }
  | letsGo (held : before.held = true) : Turn before .letGo { before with held := false }.settled
  | takes {index keeper : Nat} (called : before.stops[index]? = some .called)
      (taken : before.slot = some keeper) :
      Turn before (.stopping index)
        { before with slot := none, stops := before.stops.set index (.waiting keeper) }
  /-- A stop finds no keeper to take. -/
  | misses {index : Nat} (called : before.stops[index]? = some .called)
      (free : before.slot = none) :
      Turn before (.stopping index)
        { before with stops := before.stops.set index .returned }.settled
  /-- A stop returns what its keeper finished with. -/
  | returns {index keeper : Nat} {result : Except MonitorError Unit} {state : ConnectionState}
      (waiting : before.stops[index]? = some (.waiting keeper))
      (finished : before.result? keeper = some result) :
      Turn before (.stopping index)
        { before with stops := before.stops.set index .returned, state }.settled

end Outline

namespace World

theorem result?_outline (world : World) (index : Nat) :
    world.outline.result? index = world.result? index := by
  unfold Outline.result? result? outline
  rw [List.getElem?_map]
  cases world.tenures[index]? <;> rfl

/-- The outline when nobody may be left to hold the monitor. -/
theorem outline_settleOwnership (world : World) :
    world.settleOwnership.outline = world.outline.settled := by
  unfold settleOwnership Outline.settled
  have same : (world.outline.held || world.outline.stops.any (· ≠ .returned)) =
      (world.held || world.stops.any (· ≠ .returned)) := rfl
  rw [same]
  split
  · rfl
  · split
    · rename_i free
      unfold outline
      rw [free]
    · rw [outline_cancel]
      rfl

theorem outline_stopReturns (world : World) (index : Nat) (result : Except MonitorError Unit) :
    (world.stopReturns index result).outline =
      { world.outline with stops := world.outline.stops.set index .returned }.settled := by
  unfold stopReturns
  dsimp only
  rw [outline_settleOwnership, outline_note]
  rfl

/-- A start is accepted as long as the consumer has the monitor and no keeper is at work that no
stop took. -/
theorem accepts_outline (world : World) :
    world.outline.accepts = (world.held && !world.isRunning) := by
  unfold Outline.accepts isRunning
  simp only [result?_outline]
  rfl

/-- The outline after a start that is not refused. -/
theorem outline_start {world : World} (idle : world.isRunning = false) (endpoint : Endpoint)
    (credentials : Credentials) : (world.start endpoint credentials).2.outline =
      world.outline.started endpoint credentials := by
  simp [start, idle, outline, Outline.started]

/-- What a keeper's move does to the outline. -/
theorem turn_keeper (world : World) (index : Nat) (stopFirst : Bool) (drawn : Numeral.Binary64) :
    Outline.Turn world.outline (.keeper index stopFirst drawn)
      (world.act (.keeper index stopFirst drawn)).outline := by
  rw [act]
  cases moved : world.keeperMoveBy? index stopFirst drawn with
  | none => exact .quiet _
  | some step =>
    rw [Option.map_some, Option.getD_some]
    unfold keeperMoveBy? at moved
    rw [Option.bind_eq_bind, Option.bind_eq_some_iff] at moved
    obtain ⟨tenure, present, stepped⟩ := moved
    have alters := outline_foldl_perform index
      (world.atTenure index fun tenure => { tenure with keeper := step.1 }) step.2
    rw [outline_replace] at alters
    have presentKeeper : world.outline.keepers[index]? = some tenure.keeper := by
      unfold outline
      rw [List.getElem?_map, present, Option.map_some]
    have working : tenure.keeper.result? = none := by
      cases done : tenure.keeper.result? with
      | none => rfl
      | some result =>
        rw [Keeper.step_of_finished done] at stepped
        cases stepped
    refine .steps presentKeeper working (Keeper.course_of_step stepped) alters ?_
    · intro after before writer attached
      rcases Keeper.course_of_step stepped with ⟨_, apart, _⟩ | ⟨_, _, effects⟩ | ⟨reading, _⟩ |
        ⟨reading, _⟩
      · rw [apart] at after
        cases after
      · unfold afterStep at attached ⊢
        rw [effects] at attached ⊢
        have bound := attached_joining attached
        rw [outline_replace] at bound
        exact bound
      · rw [before] at reading
        cases reading
      · rw [before] at reading
        cases reading

/-- What a stop's move does to the outline. -/
theorem turn_stopping (world : World) (index : Nat) :
    Outline.Turn world.outline (.stopping index) (world.act (.stopping index)).outline := by
  rw [act]
  cases moved : world.stopStep? index with
  | none => exact .quiet _
  | some after =>
    rw [Option.getD_some]
    unfold stopStep? at moved
    rw [Option.bind_eq_bind, Option.bind_eq_some_iff] at moved
    obtain ⟨stage, called, moved⟩ := moved
    cases stage with
    | called =>
      dsimp only at moved
      split at moved
      · cases moved
        rename_i free
        rw [outline_stopReturns]
        exact .misses called free
      · cases moved
        rename_i keeper taken
        rw [outline_cancel]
        exact .takes called taken
    | waiting keeper =>
      dsimp only at moved
      rw [Option.bind_eq_bind, Option.bind_eq_some_iff] at moved
      obtain ⟨result, finished, moved⟩ := moved
      rw [← result?_outline] at finished
      cases result with
      | ok done =>
        cases moved
        rw [outline_stopReturns, outline_publish]
        exact .returns called finished
      | error error =>
        cases moved
        rw [outline_stopReturns]
        exact .returns called finished
    | returned => cases moved

/-- What is possible only while the consumer has the monitor leaves the outline alone unless it
changes it by itself. -/
theorem turn_ifHeld {world after : World} {move : Move}
    (turn : world.held = true → Outline.Turn world.outline move after.outline) :
    Outline.Turn world.outline move (world.ifHeld after).outline := by
  unfold ifHeld
  split
  · rename_i held
    exact turn held
  · exact .quiet move

/-- **Every move does one of these to the outline, or nothing.** -/
theorem turn_act (world : World) (move : Move) :
    Outline.Turn world.outline move (world.act move).outline := by
  have quiet : (world.act move).outline = world.outline →
      Outline.Turn world.outline move (world.act move).outline := by
    intro same
    rw [same]
    exact .quiet move
  cases move with
  | keeper index stopFirst drawn => exact turn_keeper world index stopFirst drawn
  | stopping index => exact turn_stopping world index
  | writer index =>
    refine quiet ?_
    rw [act]
    cases moved : world.writerStep? index with
    | none => rfl
    | some after => exact outline_writerStep moved
  | start endpoint credentials =>
    refine turn_ifHeld fun held => ?_
    cases running : world.isRunning with
    | true =>
      rw [start_of_running running]
      exact .quiet _
    | false =>
      have accepted : world.outline.accepts = true := by
        rw [accepts_outline, held, running]
        rfl
      rw [outline_start running]
      exact .starts accepted
  | stop => exact turn_ifHeld fun held => .calls held
  | letGo =>
    refine turn_ifHeld fun held => ?_
    unfold letGo
    rw [outline_settleOwnership]
    exact .letsGo held
  | subscribe consumer destination =>
    refine turn_ifHeld fun _ => ?_
    rw [outline_subscribe]
    exact .quiet _
  | unsubscribe name =>
    refine turn_ifHeld fun _ => ?_
    rw [outline_unsubscribe]
    exact .quiet _
  | send destination body =>
    refine turn_ifHeld fun _ => ?_
    rw [outline_send]
    exact .quiet _
  | receive channel arrival =>
    refine quiet ?_
    rw [act, outline_receive]
  | finishChannel channel =>
    refine quiet ?_
    rw [act, outline_finishChannel]
  | changeSink channel sink => exact quiet rfl
  | planMore outcomes => exact quiet rfl
  | takeNotices => exact quiet rfl
  | closeMailbox => exact quiet rfl
  | pass nanos => exact quiet rfl

end World

end EventFeed
