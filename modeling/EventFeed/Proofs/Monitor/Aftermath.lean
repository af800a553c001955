/-
**What a finished keeper leaves.**

A keeper that finishes has published in its last step the state that it leaves: that there is no
connection, if it was told to stop, or else that it failed, with the reason that is in its result.
As long as nobody but the newest keeper is at work or awaited, nobody publishes anything after it,
and the stop that waited for it returns its result and leaves the state as it is.

* `World.state_afterStep`: the state after a keeper's step;
* `World.Returns`: how a call to stop returns, and when it does;
* `World.leaves_act`: the state is the one that the newest keeper left, once it has finished.
-/

import EventFeed.Proofs.Monitor.Publications

namespace EventFeed

open EventFeed.Numeral

/-- What a keeper finishes with, and the state that it leaves. -/
inductive Leaves : Except MonitorError Unit → ConnectionState → Prop where
  | ended : Leaves (.ok ()) .disconnected
  | failed {error : MonitorError} {reason : String} (fails : Mark.Fails error reason) :
      Leaves (.error error) (.failed reason)

/-- A keeper that finishes publishes in its last step the state that it leaves. -/
theorem Mark.Utters.leaves {mark : Mark} {states : List ConnectionState}
    {result : Except MonitorError Unit} (utters : mark.Utters states (.finished result)) :
    ∃ state, states = [state] ∧ Leaves result state := by
  generalize last : Mark.finished result = next at utters
  cases utters with
  | goesOn live => rcases live with rfl | rfl <;> cases last
  | fails live fails =>
    cases last
    exact ⟨_, rfl, .failed fails⟩
  | stops going =>
    cases last
    exact ⟨_, rfl, .ended⟩
  | begins | connects | retries | wakes => cases last

namespace World

/-! ### The state after a step -/

/-- What a keeper's effect publishes is the state from then on; no other effect changes it. -/
theorem state_perform {index : Nat} {world : World} (present : index < world.tenures.length)
    (effect : Effect) :
    (perform index world effect).state = (Effect.states [effect]).getLast?.getD world.state := by
  have quiet : effect.publishes = false → (perform index world effect).state = world.state :=
    fun unpublished => (alters_perform index world effect).state (by simpa using unpublished)
  cases effect with
  | publish state =>
    unfold perform
    rw [List.getElem?_eq_getElem present]
    exact state_publish world state
  | _ => exact quiet rfl

theorem tenures_length (world : World) :
    world.outline.keepers.length = world.tenures.length :=
  List.length_map _

/-- After effects the state is the one that they published last. -/
theorem state_foldl_perform {index : Nat} {world : World} (effects : List Effect)
    (present : index < world.tenures.length) :
    (effects.foldl (perform index) world).state =
      (Effect.states effects).getLast?.getD world.state := by
  induction effects generalizing world with
  | nil => rfl
  | cons effect effects ih =>
    have still : index < (perform index world effect).tenures.length := by
      rw [← tenures_length, (alters_perform index world effect).keepers, tenures_length]
      exact present
    have both : Effect.states (effect :: effects) =
        Effect.states [effect] ++ Effect.states effects := Effect.states_append [effect] effects
    rw [List.foldl_cons, ih still, state_perform present, both, List.getLast?_append]
    cases (Effect.states effects).getLast? <;> rfl

/-- **The state after a keeper's step** is the one that the step published last. -/
theorem state_afterStep {index : Nat} {world : World} (present : index < world.tenures.length)
    (step : Keeper.Step) :
    (world.afterStep index step).state = (Effect.states step.2).getLast?.getD world.state := by
  have still : index < (world.atTenure index fun tenure =>
      { tenure with keeper := step.1 }).tenures.length := by
    rw [atTenure, List.length_modify]
    exact present
  exact state_foldl_perform step.2 still

/-! ### What a call to stop does -/

section Stopping

variable {world : World} {index keeper : Nat} {result : Except MonitorError Unit}

theorem stops_settleOwnership (world : World) : world.settleOwnership.stops = world.stops :=
  (congrArg Outline.stops world.outline_settleOwnership).trans (Outline.stops_settled _)

theorem state_settleOwnership (world : World) : world.settleOwnership.state = world.state :=
  (congrArg Outline.state world.outline_settleOwnership).trans (Outline.state_settled _)

theorem log_settleOwnership (world : World) : world.settleOwnership.log = world.log := by
  unfold settleOwnership
  split
  · rfl
  · split <;> rfl

theorem result?_settleOwnership (world : World) (keeper : Nat) :
    world.settleOwnership.result? keeper = world.result? keeper := by
  rw [← result?_outline, ← result?_outline, outline_settleOwnership, Outline.result?,
    Outline.keepers_settled]
  rfl

/-- A stop that finds no keeper returns. -/
theorem act_stopping_of_free (called : world.stops[index]? = some .called)
    (free : world.slot = none) :
    world.act (.stopping index) = world.stopReturns index (.ok ()) := by
  simp [act, stopStep?, called, free]

theorem act_stopping_of_taken (called : world.stops[index]? = some .called)
    (taken : world.slot = some keeper) : world.act (.stopping index) =
      { world with
        slot := none
        stops := world.stops.set index (.waiting keeper) }.cancel keeper := by
  simp [act, stopStep?, called, taken]

/-- What a stop publishes before it returns. -/
def concluded (world : World) : Except MonitorError Unit → World
  | .ok () => world.publish .disconnected
  | .error _ => world

/-- A stop whose keeper has finished returns. -/
theorem act_stopping_of_finished (waiting : world.stops[index]? = some (.waiting keeper))
    (finished : world.result? keeper = some result) :
    world.act (.stopping index) = (world.concluded result).stopReturns index result := by
  cases result <;> simp [act, stopStep?, waiting, finished, concluded]

/-- A stop waits for its keeper. -/
theorem act_stopping_of_unfinished (waiting : world.stops[index]? = some (.waiting keeper))
    (working : world.result? keeper = none) : world.act (.stopping index) = world := by
  simp [act, stopStep?, waiting, working]

theorem stops_stopReturns (world : World) (index : Nat) (result : Except MonitorError Unit) :
    (world.stopReturns index result).stops = world.stops.set index .returned := by
  unfold stopReturns
  dsimp only
  rw [stops_settleOwnership]
  rfl

theorem state_stopReturns (world : World) (index : Nat) (result : Except MonitorError Unit) :
    (world.stopReturns index result).state = world.state := by
  unfold stopReturns
  dsimp only
  rw [state_settleOwnership]
  rfl

theorem log_stopReturns (world : World) (index : Nat) (result : Except MonitorError Unit) :
    (world.stopReturns index result).log = world.log.push (.stopped (index + 1) result) := by
  unfold stopReturns
  dsimp only
  rw [log_settleOwnership]
  rfl

theorem result?_stopReturns (world : World) (index keeper : Nat)
    (result : Except MonitorError Unit) :
    (world.stopReturns index result).result? keeper = world.result? keeper := by
  unfold stopReturns
  dsimp only
  rw [result?_settleOwnership]
  rfl

theorem outline_concluded (world : World) (result : Except MonitorError Unit) :
    ∃ state, (world.concluded result).outline = { world.outline with state } := by
  cases result with
  | ok done => exact ⟨.disconnected, outline_publish world .disconnected⟩
  | error error => exact ⟨world.state, rfl⟩

/-- A stop that publishes the state that its keeper left changes nothing. -/
theorem state_concluded (leaves : Leaves result world.state) :
    (world.concluded result).state = world.state := by
  cases result with
  | ok done =>
    rw [concluded, state_publish]
    generalize world.state = state at leaves
    cases leaves
    rfl
  | error error => rfl

/-- A call to stop returns with a result. Before, it had only been made, or had taken a keeper. -/
structure Returns (world : World) (index : Nat) (stage : StopStage)
    (result : Except MonitorError Unit) : Prop where
  before : world.stops[index]? = some stage
  unreturned : stage ≠ .returned
  after : (world.act (.stopping index)).stops[index]? = some .returned
  answer : (world.act (.stopping index)).log.back? = some (.stopped (index + 1) result)

theorem returns_of_free (called : world.stops[index]? = some .called) (free : world.slot = none) :
    world.Returns index .called (.ok ()) := by
  have bound := (List.getElem?_eq_some_iff.mp called).1
  refine ⟨called, by simp, ?_, ?_⟩
  · rw [act_stopping_of_free called free, stops_stopReturns, List.getElem?_set_self bound]
  · rw [act_stopping_of_free called free, log_stopReturns, Array.back?_push]

theorem stops_of_taken (called : world.stops[index]? = some .called)
    (taken : world.slot = some keeper) :
    (world.act (.stopping index)).stops[index]? = some (.waiting keeper) := by
  have bound := (List.getElem?_eq_some_iff.mp called).1
  rw [act_stopping_of_taken called taken]
  exact List.getElem?_set_self bound

theorem returns_of_finished (waiting : world.stops[index]? = some (.waiting keeper))
    (finished : world.result? keeper = some result) :
    world.Returns index (.waiting keeper) result := by
  have bound := (List.getElem?_eq_some_iff.mp waiting).1
  have sameStops : (world.concluded result).stops = world.stops := by
    obtain ⟨state, same⟩ := outline_concluded world result
    exact congrArg Outline.stops same
  refine ⟨waiting, by simp, ?_, ?_⟩
  · rw [act_stopping_of_finished waiting finished, stops_stopReturns, sameStops,
      List.getElem?_set_self bound]
  · rw [act_stopping_of_finished waiting finished, log_stopReturns, Array.back?_push]

/-- A stop that returns without a keeper found none. -/
theorem Returns.free (returns : world.Returns index .called result) :
    world.slot = none ∧ result = .ok () := by
  cases taken : world.slot with
  | some keeper => cases (stops_of_taken returns.before taken).symm.trans returns.after
  | none =>
    have answer := (returns_of_free returns.before taken).answer
    rw [returns.answer] at answer
    cases answer
    exact ⟨rfl, rfl⟩

/-- A stop returns what its keeper finished with. -/
theorem Returns.finished (returns : world.Returns index (.waiting keeper) result) :
    world.result? keeper = some result := by
  cases finished : world.result? keeper with
  | none =>
    have after := returns.after
    rw [act_stopping_of_unfinished returns.before finished, returns.before] at after
    cases after
  | some given =>
    have answer := (returns_of_finished returns.before finished).answer
    rw [returns.answer] at answer
    cases answer
    rfl

end Stopping

/-! ### The state that the newest keeper left -/

/-- Whether the state is the one that the newest keeper left, if it has finished. -/
def IsLeft (world : World) : Prop :=
  ∀ keeper result, world.IsNewest keeper → world.result? keeper = some result →
    Leaves result world.state

/-- A keeper's step leaves the state that it publishes, and it is the newest keeper's. -/
theorem leaves_keeper {world : World} (lone : world.outline.OnlyNewestWorks)
    (left : world.IsLeft) (index : Nat) (stopFirst : Bool) (drawn : Binary64) :
    (world.act (.keeper index stopFirst drawn)).IsLeft := by
  rw [act]
  cases moved : world.keeperMoveBy? index stopFirst drawn with
  | none => exact left
  | some step =>
    rw [Option.map_some, Option.getD_some]
    intro keeper result newest finished
    unfold keeperMoveBy? at moved
    rw [Option.bind_eq_bind, Option.bind_eq_some_iff] at moved
    obtain ⟨tenure, present, stepped⟩ := moved
    have bound : index < world.tenures.length := (List.getElem?_eq_some_iff.mp present).1
    have presentKeeper : world.outline.keepers[index]? = some tenure.keeper := by
      rw [outline, List.getElem?_map, present, Option.map_some]
    have own : world.outline.IsNewest index :=
      lone index ⟨tenure.keeper, presentKeeper, Keeper.result?_of_step stepped⟩
    obtain rfl : keeper = index := by
      rw [IsNewest, ← tenures_length, keepers_afterStep, List.length_modify] at newest
      exact Nat.succ_inj.mp (newest.trans own.symm)
    rw [← result?_outline, Outline.result?, keepers_afterStep, List.getElem?_modify_eq,
      presentKeeper] at finished
    have utters := Keeper.utters_of_step stepped
    rw [Keeper.result?_of_mark.mpr finished] at utters
    obtain ⟨state, states, leaves⟩ := utters.leaves
    rw [state_afterStep bound, states]
    exact leaves

/-- **The state is the one that the newest keeper left**, as long as nobody else is at work or
awaited. -/
theorem leaves_act {world : World} (lone : world.outline.OnlyNewestWorks)
    (prompt : world.outline.OnlyNewestAwaited) (left : world.IsLeft) (move : Move) :
    (world.act move).IsLeft := by
  have turn := turn_act world move
  rcases turn.keepers_cases with
    ⟨index, stopFirst, drawn, rfl⟩ | ⟨endpoint, credentials, more⟩ | same
  · exact leaves_keeper lone left index stopFirst drawn
  · -- the newest keeper has just been added
    intro keeper result newest finished
    rw [IsNewest, ← tenures_length, more, List.length_append, List.length_singleton] at newest
    obtain rfl := Nat.succ_inj.mp newest
    rw [← result?_outline, Outline.result?, more, List.getElem?_concat_length] at finished
    cases finished
  · intro keeper result newest finished
    rw [IsNewest, ← tenures_length, same, tenures_length] at newest
    rw [← result?_outline, Outline.result?, same] at finished
    have finishedBefore : world.result? keeper = some result := by
      rw [← result?_outline]
      exact finished
    have leaves := left keeper result newest finishedBefore
    have stateAfter : (world.act move).state = world.state := by
      rcases turn.state with same | ⟨index, stopFirst, drawn, rfl, works⟩ |
        ⟨index, awaited, rfl, waiting⟩
      · exact same
      · -- the keeper that moves is the newest, and that has finished
        obtain rfl : index = keeper := by
          have own := isNewest_outline.mp (lone index works)
          exact Nat.succ_inj.mp (own.trans newest.symm)
        exact absurd (isUnfinished_outline.mp works).2 (by simp [finishedBefore])
      · obtain rfl : awaited = keeper := by
          have own := isNewest_outline.mp (prompt awaited (List.mem_of_getElem? waiting))
          exact Nat.succ_inj.mp (own.trans newest.symm)
        rw [act_stopping_of_finished waiting finishedBefore, state_stopReturns,
          state_concluded leaves]
    rw [stateAfter]
    exact leaves

end World

end EventFeed
