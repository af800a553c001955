/-
**What runs when.**

Keepers, writers and calls to stop run one at a time. Those that can go on wait in a queue, in the
order in which they became able to; the first of them has its turn until it has to wait, or until
it has taken 128 of the things that wait for it. A task whose turn was ended like this goes on when
the queue is empty, the latest first. Time passes only when nobody can go on, and stops at every
alarm on its way; keepers whose alarms ring together go on in the order of the row of alarms.

* `canRun_of_mem_wake`: what is put into the queue can go on;
* `settle_of_idle`: nothing happens by itself when nobody is waiting for a turn;
* `isTurnOver_of_lt`: a task whose turn has not reached its limit goes on.
-/

import EventFeed.Monitor.Control

namespace EventFeed

open EventFeed.Time

/-- Something that runs. -/
inductive Task where
  | keeper (index : Nat)
  | writer (index : Nat)
  | stop (index : Nat)
  deriving DecidableEq, Repr

namespace World

def tasks (world : World) : List Task :=
  (List.range world.tenures.length).map Task.keeper ++
    (List.range world.desks.length).map Task.writer ++
      (List.range world.stops.length).map Task.stop

/-- A task does the next thing, if it does not have to wait. -/
def run? (world : World) : Task → Option World
  | .keeper index => world.keeperStep? index
  | .writer index => world.writerStep? index
  | .stop index => world.stopStep? index

def canRun (world : World) (task : Task) : Bool :=
  (world.run? task).isSome

/-- Whether a task looks next at what comes from outside. -/
def listens (world : World) : Task → Bool
  | .keeper index => world.tenures[index]?.any (·.keeper.listens)
  | .writer index => world.desks[index]?.any (·.writer.listens)
  | .stop _ => false

/-- Whether a task takes something in the next thing that it does: a keeper what was read, a writer
a frame. -/
def takes (world : World) (task : Task) : Bool :=
  world.listens task && match task with
    | .keeper index => (world.keeperMove? index).any (·.2.contains .take)
    | .writer index => world.desks[index]?.any (!·.writer.queue.isEmpty)
    | .stop _ => false

end World

/-- A world with the tasks that can go on: those in the queue, those whose turn was ended, the
latest first, and how many things the first in the queue took in its turn. -/
structure Agenda where
  world : World
  queue : List Task
  rested : List Task
  taken : Nat

namespace Agenda

def ofWorld (world : World) : Agenda :=
  ⟨world, [], [], 0⟩

/-- A task is put into the queue if it has become able to go on. -/
def enqueue (agenda : Agenda) (task : Task) : Agenda :=
  if !agenda.queue.contains task && !agenda.rested.contains task && agenda.world.canRun task then
    { agenda with queue := agenda.queue ++ [task] }
  else agenda

/-- Tasks that have become able to go on are put into the queue, the given ones first. -/
def wake (agenda : Agenda) (first : List Task) : Agenda :=
  (first ++ agenda.world.tasks).foldl enqueue agenda

/-- Something happens to the world from outside. -/
def update (agenda : Agenda) (world : World) : Agenda :=
  wake { agenda with world } []

/-- How many things a task takes in one turn. -/
def turnLimit : Nat := 128

/-- Whether the turn of the first task in the queue ends although it could go on. -/
def isTurnOver (agenda : Agenda) (task : Task) : Bool :=
  turnLimit ≤ agenda.taken && agenda.world.listens task

/-- One step: the first task in the queue does the next thing, or its turn ends; once the queue is
empty, those whose turn was ended are put into it. Nothing is left to do if there are none. -/
def step? (agenda : Agenda) : Option Agenda :=
  match agenda.queue with
  | [] =>
    if agenda.rested.isEmpty then none
    else some { agenda with queue := agenda.rested, rested := [], taken := 0 }
  | task :: later =>
    if agenda.isTurnOver task then
      some { agenda with queue := later, rested := task :: agenda.rested, taken := 0 }
    else match agenda.world.run? task with
    | none => some { agenda with queue := later, taken := 0 }
    | some world =>
      let taken := if agenda.world.takes task then agenda.taken + 1 else agenda.taken
      some (wake { agenda with world, taken } [])

/-- Tasks run until nobody can go on, for at most as many steps as given. -/
def settle : Nat → Agenda → Agenda
  | 0, agenda => agenda
  | steps + 1, agenda =>
    match agenda.step? with
    | none => agenda
    | some after => settle steps after

/-- How many steps there are at most between two moments. -/
def patience : Nat := 1000000

/-- The clock shows a later time, the keepers whose alarms ring go on in the order in which these
ring, and everything runs that can. -/
def moveTo (agenda : Agenda) (time : Nat) : Agenda :=
  let world := agenda.world
  let alarms := world.alarms.pass (tick world.now) (tick time)
  let rung := alarms.ringing (tick world.now) (tick time)
  settle patience
    (wake { agenda with world := { world with now := time, alarms } }
      (rung.map fun name => .keeper name.1))

def nextTimer? (agenda : Agenda) : Option Nat :=
  (agenda.world.alarms.nextRing? (tick agenda.world.now)).map (· * nanosPerMilli)

/-- Time passes up to a given time, by way of at most as many timers as given. -/
def passTo (time : Nat) : Nat → Agenda → Agenda
  | 0, agenda => agenda.moveTo time
  | timers + 1, agenda =>
    match agenda.nextTimer?.filter (· ≤ time) with
    | none => agenda.moveTo time
    | some next => passTo time timers (agenda.moveTo next)

/-- Time passes. Timers fire at whole milliseconds, and so many of them can be on the way. -/
def advance (agenda : Agenda) (span : Span) : Agenda :=
  let time := firing (agenda.world.now + span.nanos)
  passTo time ((time - agenda.world.now) / nanosPerMilli) agenda

/-- Time passes until something holds, by way of at most as many timers as given; nothing if it
never does. -/
def await? (holds : World → Bool) : Nat → Agenda → Option Agenda
  | 0, agenda => if holds agenda.world then some agenda else none
  | timers + 1, agenda =>
    if holds agenda.world then some agenda
    else match agenda.nextTimer? with
    | none => none
    | some next => await? holds timers (agenda.moveTo next)

theorem canRun_of_mem_wake {agenda : Agenda} {first : List Task} {task : Task}
    (waits : task ∈ (agenda.wake first).queue) :
    task ∈ agenda.queue ∨ agenda.world.canRun task = true := by
  unfold wake at waits
  generalize first ++ agenda.world.tasks = candidates at waits
  induction candidates generalizing agenda with
  | nil => exact .inl waits
  | cons candidate candidates step =>
    rw [List.foldl_cons] at waits
    have sameWorld : (agenda.enqueue candidate).world = agenda.world := by
      unfold enqueue
      split <;> rfl
    rcases step waits with queued | able
    · unfold enqueue at queued
      split at queued
      · rename_i enqueued
        rcases List.mem_append.mp queued with before | new
        · exact .inl before
        · rw [List.mem_singleton.mp new]
          exact .inr (Bool.and_eq_true_iff.mp enqueued).2
      · exact .inl queued
    · exact .inr (sameWorld ▸ able)

/-- Nothing happens by itself when nobody is waiting for a turn. -/
theorem settle_of_idle {agenda : Agenda} (idle : agenda.queue = []) (rested : agenda.rested = [])
    (steps : Nat) : agenda.settle steps = agenda := by
  cases steps with
  | zero => rfl
  | succ steps => simp [settle, step?, idle, rested]

/-- A task whose turn has not reached its limit goes on. -/
theorem isTurnOver_of_lt {agenda : Agenda} (early : agenda.taken < turnLimit) (task : Task) :
    agenda.isTurnOver task = false := by
  simp [isTurnOver, Nat.not_le.mpr early]

end Agenda

end EventFeed
