/-
**Interleavings of a monitor's world.**

Keepers, writers and calls to stop move one at a time, in any order, and between their moves come
the consumer's calls, the server's frames, the network's changes and the clock. A `Move` is one of
these; a list of moves is an interleaving, and `World.play` gives the world after it. A keeper's
move also says what is left open in `Keeper.step`: whether a stop is noticed before anything else,
and the number drawn for a delay.

* `exists_play_settle`, `exists_play_moveTo`: what the schedule of the runtime does is one of the
  interleavings;
* `outline_…`: which moves leave alone who runs on behalf of a monitor.
-/

import EventFeed.Monitor.Schedule
import EventFeed.Proofs.Subscription.Bookkeeping

namespace EventFeed

open EventFeed.Numeral EventFeed.Time
open EventFeed.Wire (Frame)

/-- Something that happens to a world. What does not fit the world changes nothing. -/
inductive Move where
  /-- A keeper does the next thing. -/
  | keeper (index : Nat) (stopFirst : Bool) (drawn : Binary64)
  | writer (index : Nat)
  /-- A call to stop does the next thing. -/
  | stopping (index : Nat)
  | start (endpoint : Endpoint) (credentials : Credentials)
  | stop
  /-- The consumer lets go of the monitor. -/
  | letGo
  | subscribe (consumer : Consumer) (destination : String)
  | unsubscribe (name : String)
  | send (destination : String) (body : Except String Document.Value)
  | receive (channel : Nat) (arrival : Arrival)
  | finishChannel (channel : Nat)
  | changeSink (channel : Nat) (sink : SinkMode)
  | planMore (outcomes : List Outcome)
  /-- The consumer takes all notices. -/
  | takeNotices
  | closeMailbox
  | pass (nanos : Nat)

namespace World

/-! ### Moves -/

/-- What a keeper does next, with what is left open. -/
def keeperMoveBy? (world : World) (index : Nat) (stopFirst : Bool) (drawn : Binary64) :
    Option Keeper.Step := do
  let tenure ← world.tenures[index]?
  tenure.keeper.step world.settings { world.viewOf tenure with stopFirst, drawn }

/-- The world after something that a keeper does. -/
def afterStep (world : World) (index : Nat) (step : Keeper.Step) : World :=
  let moved := world.atTenure index fun tenure => { tenure with keeper := step.1 }
  (step.2.foldl (perform index) moved).setAlarms index

/-- What the consumer can do only as long as it has the monitor. -/
def ifHeld (world : World) (after : World) : World :=
  if world.held then after else world

def pass (world : World) (nanos : Nat) : World :=
  let time := world.now + nanos
  { world with now := time, alarms := world.alarms.pass (tick world.now) (tick time) }

def act (world : World) : Move → World
  | .keeper index stopFirst drawn =>
    ((world.keeperMoveBy? index stopFirst drawn).map (world.afterStep index)).getD world
  | .writer index => (world.writerStep? index).getD world
  | .stopping index => (world.stopStep? index).getD world
  | .start endpoint credentials => world.ifHeld (world.start endpoint credentials).2
  | .stop => world.ifHeld world.stop
  | .letGo => world.ifHeld world.letGo
  | .subscribe consumer destination => world.ifHeld (world.subscribe consumer destination).2
  | .unsubscribe name => world.ifHeld (world.unsubscribe name).2
  | .send destination body => world.ifHeld (world.send destination body).2
  | .receive channel arrival => (world.receive channel arrival).2
  | .finishChannel channel => (world.finishChannel channel).2
  | .changeSink channel sink => (world.changeSink channel sink).2
  | .planMore outcomes => world.planMore outcomes
  | .takeNotices => world.takeNotices.2
  | .closeMailbox => world.closeMailbox
  | .pass nanos => world.pass nanos

def play (world : World) (moves : List Move) : World :=
  moves.foldl act world

/-- Interleavings follow each other. -/
theorem play_append (world : World) (before after : List Move) :
    world.play (before ++ after) = (world.play before).play after :=
  List.foldl_append

theorem play_concat (world : World) (before : List Move) (move : Move) :
    world.play (before ++ [move]) = (world.play before).act move :=
  play_append world before [move]

/-- What a call to stop does: it finds no keeper, takes the keeper, or returns, and before it
returns it may publish that there is no connection any more. -/
theorem stopStep_cases {world after : World} {index : Nat}
    (moved : world.stopStep? index = some after) :
    (∃ keeper, after =
      { world with slot := none, stops := world.stops.set index (.waiting keeper) }.cancel keeper) ∨
    ∃ before result, (before = world ∨ before = world.publish .disconnected) ∧
      after = before.stopReturns index result := by
  unfold stopStep? at moved
  rw [Option.bind_eq_bind, Option.bind_eq_some_iff] at moved
  obtain ⟨stage, -, moved⟩ := moved
  cases stage with
  | called =>
    dsimp only at moved
    split at moved
    · cases moved
      exact .inr ⟨world, _, .inl rfl, rfl⟩
    · cases moved
      exact .inl ⟨_, rfl⟩
  | waiting keeper =>
    dsimp only at moved
    rw [Option.bind_eq_bind, Option.bind_eq_some_iff] at moved
    obtain ⟨result, -, moved⟩ := moved
    cases result with
    | ok done =>
      cases moved
      exact .inr ⟨_, _, .inr rfl, rfl⟩
    | error error =>
      cases moved
      exact .inr ⟨world, _, .inl rfl, rfl⟩
  | returned => cases moved

end World

/-! ### The schedule is an interleaving -/

/-- The move that a task makes in its turn. -/
def Task.move : Task → Move
  | .keeper index => .keeper index true .zero
  | .writer index => .writer index
  | .stop index => .stopping index

namespace World

/-- What a task does in its turn is a move. -/
theorem act_of_run? {world after : World} {task : Task} (ran : world.run? task = some after) :
    world.act task.move = after := by
  cases task with
  | keeper index =>
    have moved : world.keeperStep? index =
        (world.keeperMoveBy? index true .zero).map (world.afterStep index) := rfl
    rw [run?, moved] at ran
    rw [Task.move, act, ran, Option.getD_some]
  | writer index => rw [Task.move, act, show world.writerStep? index = some after from ran,
      Option.getD_some]
  | stop index => rw [Task.move, act, show world.stopStep? index = some after from ran,
      Option.getD_some]

end World

namespace Agenda

/-- Waking changes nothing but the queue. -/
theorem world_wake (agenda : Agenda) (first : List Task) :
    (agenda.wake first).world = agenda.world := by
  unfold wake
  generalize first ++ agenda.world.tasks = candidates
  induction candidates generalizing agenda with
  | nil => rfl
  | cons candidate candidates ih =>
    rw [List.foldl_cons, ih]
    unfold enqueue
    split <;> rfl

/-- One step of the schedule is a move, or changes no more than whose turn it is. -/
theorem exists_play_step {agenda after : Agenda} (moved : agenda.step? = some after) :
    ∃ moves, after.world = agenda.world.play moves := by
  unfold step? at moved
  split at moved
  · split at moved
    · cases moved
    · cases moved
      exact ⟨[], rfl⟩
  · rename_i task later _
    split at moved
    · cases moved
      exact ⟨[], rfl⟩
    · split at moved
      · cases moved
        exact ⟨[], rfl⟩
      · rename_i world ran
        cases moved
        refine ⟨[task.move], ?_⟩
        rw [world_wake]
        exact (World.act_of_run? ran).symm

/-- What runs by itself runs as an interleaving. -/
theorem exists_play_settle (steps : Nat) (agenda : Agenda) :
    ∃ moves, (agenda.settle steps).world = agenda.world.play moves := by
  induction steps generalizing agenda with
  | zero => exact ⟨[], rfl⟩
  | succ steps ih =>
    unfold settle
    split
    · exact ⟨[], rfl⟩
    · rename_i after moved
      obtain ⟨first, firstWorld⟩ := exists_play_step moved
      obtain ⟨rest, restWorld⟩ := ih after
      refine ⟨first ++ rest, ?_⟩
      rw [restWorld, firstWorld, World.play_append]

/-- What happens when the clock shows a later time is an interleaving. -/
theorem exists_play_moveTo {agenda : Agenda} {time : Nat} (later : agenda.world.now ≤ time) :
    ∃ moves, (agenda.moveTo time).world = agenda.world.play moves := by
  let world := agenda.world
  let passed := world.pass (time - world.now)
  let rung := (passed.alarms.ringing (tick world.now) (tick time)).map fun name =>
    Task.keeper name.1
  have moved : agenda.moveTo time =
      settle patience (wake { agenda with world := passed } rung) := by
    simp only [moveTo, rung, passed, World.pass, world, Nat.add_sub_cancel' later]
  obtain ⟨moves, settled⟩ := exists_play_settle patience (wake { agenda with world := passed } rung)
  refine ⟨.pass (time - world.now) :: moves, ?_⟩
  rw [moved, settled, world_wake]
  rfl

end Agenda

end EventFeed
