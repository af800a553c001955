/-
**Why connected sessions are lost.**

A connected session looks through all that came in before it looks at anything else, and meets what
it looks at in a fixed order; the first thing that goes wrong ends it. `Watch.loss?` tells what that
is. A step of the session's keeper depends on it alone: either the session fails for that reason, or
it goes on, or it ends because the keeper was told to stop.

* `Keeper.step_of_loss`: a session that has a reason to fail fails for it;
* `Keeper.goesOn_of_no_loss`: one that has none stays connected, unless it is told to end;
* `Watch.loss?_of_drained`: a session that has looked through all that came in fails for no frame;
* `Keeper.step_of_drained`: what such a session does next.
-/

import EventFeed.Proofs.Monitor.Course

namespace EventFeed

open EventFeed.Time
open EventFeed.Wire (Frame DecodeError)

namespace Watch

/-- Why a session that has looked through all that came in fails next, if it does: its channel, the
silence of the server, or its writer. -/
def loneliness? (view : View) (watch : Watch) : Option SessionError :=
  match view.arrival with
  | some (.ok _) => none
  | some (.error error) => some (.channel error)
  | none =>
    match watch.silent? view.now with
    | some limit => some (.silence limit)
    | none =>
      match watch.beat? view.now with
      | some _ => if view.writerOpen then none else some (.channel .closed)
      | none => view.writerEnd.map .channel

/-- Why a session that has not looked through all that came in fails next, if it does: bytes that
are no frame, or a frame that ends the session. -/
def offence? (view : View) (watch : Watch) : Option SessionError :=
  match watch.intake.next.1 with
  | .error error => some (.undecodable error)
  | .ok (some frame) => if Keeper.isFatal view frame then some (.ofServer frame) else none
  | .ok none => none

/-- **Why a connected session fails next**, if it does. -/
def loss? (view : View) (watch : Watch) : Option SessionError :=
  if !watch.intake.drained then watch.offence? view
  else if view.stopping then none
  else watch.loneliness? view

variable {view : View} {watch : Watch} {error : SessionError}

/-- What a session fails for that has looked through all that came in. -/
theorem loss?_of_drained (drained : watch.intake.drained = true)
    (lost : watch.loss? view = some error) :
    (∃ cause, error = .channel cause) ∨ ∃ limit, error = .silence limit := by
  rw [loss?, drained] at lost
  simp only [Bool.not_true, Bool.false_eq_true, if_false] at lost
  split at lost
  · cases lost
  · unfold loneliness? at lost
    split at lost
    · cases lost
    · exact .inl ⟨_, (Option.some.inj lost).symm⟩
    · split at lost
      · exact .inr ⟨_, (Option.some.inj lost).symm⟩
      · split at lost
        · split at lost <;> cases lost
          exact .inl ⟨_, rfl⟩
        · obtain ⟨cause, -, rfl⟩ := Option.map_eq_some_iff.mp lost
          exact .inl ⟨cause, rfl⟩

/-- A session is lost for silence exactly if it has looked through all that came in, is not told to
end, has nothing to read, and the server's time is over. -/
theorem loss?_eq_silence_iff {limit : Span} : watch.loss? view = some (.silence limit) ↔
    watch.intake.drained = true ∧ view.stopping = false ∧ view.arrival = none ∧
      watch.silent? view.now = some limit := by
  constructor
  · intro lost
    cases drained : watch.intake.drained with
    | false =>
      rw [loss?, drained, offence?] at lost
      simp only [Bool.not_false, if_true] at lost
      split at lost
      · cases lost
      · split at lost <;> cases lost
      · cases lost
    | true =>
      rw [loss?, drained] at lost
      simp only [Bool.not_true, Bool.false_eq_true, if_false] at lost
      split at lost
      · cases lost
      · rename_i going
        refine ⟨rfl, Bool.not_eq_true _ ▸ going, ?_⟩
        unfold loneliness? at lost
        split at lost
        · cases lost
        · cases lost
        · rename_i nothing
          split at lost
          · rename_i late
            cases lost
            exact ⟨nothing, late⟩
          · split at lost
            · split at lost <;> cases lost
            · obtain ⟨_, -, other⟩ := Option.map_eq_some_iff.mp lost
              cases other
  · rintro ⟨drained, going, nothing, late⟩
    simp [loss?, loneliness?, drained, going, nothing, late]

end Watch

namespace Keeper

/-- Why the keeper's session fails next, if it is connected and does. -/
def loss? (view : View) (keeper : Keeper) : Option SessionError :=
  match keeper.phase with
  | .reading watch => watch.loss? view
  | _ => none

variable {settings : Settings} {view : View} {keeper : Keeper} {watch : Watch}
  {error : SessionError} {step : Step}

theorem exists_reading_of_loss (lost : keeper.loss? view = some error) :
    ∃ watch, keeper.phase = .reading watch ∧ watch.loss? view = some error := by
  unfold loss? at lost
  split at lost
  · exact ⟨_, ‹_›, lost⟩
  · cases lost

/-- What is done in the step in which a session fails, before it does: the frame that ends it is
handled, or the read that failed is over. -/
def lastDeeds (view : View) (watch : Watch) : List Effect :=
  if !watch.intake.drained then
    match watch.intake.next.1 with
    | .ok (some frame) => [.handle frame]
    | _ => []
  else if view.arrival.isSome then [.take] else []

theorem readFrame_of_offence (undrained : watch.intake.drained = false)
    (lost : watch.offence? view = some error) :
    keeper.readFrame settings view watch = ((keeper.lose settings view watch error).1,
      lastDeeds view watch ++ (keeper.lose settings view watch error).2) := by
  unfold Watch.offence? at lost
  unfold readFrame lastDeeds
  rw [undrained]
  generalize watch.intake.next = next at lost ⊢
  rcases next with ⟨fault | _ | frame, rest⟩
  · cases lost
    rfl
  · cases lost
  · dsimp only at lost ⊢
    split at lost <;> cases lost
    rename_i fatal
    rw [if_pos fatal]
    rfl

theorem attend_of_loneliness (drained : watch.intake.drained = true)
    (lost : watch.loneliness? view = some error) :
    keeper.attend settings view watch = some ((keeper.lose settings view watch error).1,
      lastDeeds view watch ++ (keeper.lose settings view watch error).2) := by
  unfold Watch.loneliness? at lost
  unfold attend lastDeeds
  rw [drained]
  generalize view.arrival = arrival, watch.silent? view.now = silent,
    watch.beat? view.now = beat at lost ⊢
  rcases arrival with _ | cause | chunk
  · rcases silent with _ | limit
    · rcases beat with _ | later
      · obtain ⟨cause, ended, rfl⟩ := Option.map_eq_some_iff.mp lost
        dsimp only
        rw [ended]
        rfl
      · dsimp only at lost ⊢
        split at lost <;> cases lost
        rename_i closed
        rw [if_neg closed]
        rfl
    · cases lost
      rfl
  · cases lost
    rfl
  · cases lost

/-- **A session that has a reason to fail fails for it.** -/
theorem step_of_loss (phase : keeper.phase = .reading watch)
    (lost : watch.loss? view = some error) :
    keeper.step settings view = some ((keeper.lose settings view watch error).1,
      lastDeeds view watch ++ (keeper.lose settings view watch error).2) := by
  unfold Watch.loss? at lost
  rw [Keeper.step, phase]
  dsimp only [onReading]
  cases drained : watch.intake.drained with
  | false =>
    rw [drained] at lost
    exact congrArg some (readFrame_of_offence drained lost)
  | true =>
    rw [drained] at lost
    simp only [Bool.not_true, Bool.false_eq_true, if_false] at lost ⊢
    split at lost
    · cases lost
    · rename_i going
      rw [if_neg going]
      exact attend_of_loneliness drained lost

theorem isReading_readFrame (kept : watch.offence? view = none) :
    (keeper.readFrame settings view watch).1.isReading = true := by
  unfold Watch.offence? at kept
  unfold readFrame
  generalize watch.intake.next = next at kept ⊢
  rcases next with ⟨fault | _ | frame, rest⟩
  · cases kept
  · rfl
  · dsimp only at kept ⊢
    split at kept
    · cases kept
    · rename_i harmless
      rw [if_neg harmless]
      rfl

theorem isReading_attend (kept : watch.loneliness? view = none)
    (attends : keeper.attend settings view watch = some step) : step.1.isReading = true := by
  unfold Watch.loneliness? at kept
  unfold attend at attends
  generalize view.arrival = arrival, watch.silent? view.now = silent,
    watch.beat? view.now = beat at kept attends
  rcases arrival with _ | cause | chunk
  · rcases silent with _ | limit
    · rcases beat with _ | later
      · dsimp only at kept attends
        rw [Option.map_eq_none_iff.mp kept] at attends
        cases attends
      · dsimp only at kept attends
        split at kept
        · rename_i isOpen
          rw [if_pos isOpen] at attends
          cases attends
          rfl
        · cases kept
    · cases kept
  · cases kept
  · cases attends
    rfl

/-- **A session that has no reason to fail stays connected**, unless it has looked through all that
came in and is told to end. -/
theorem goesOn_of_no_loss (phase : keeper.phase = .reading watch)
    (kept : watch.loss? view = none) (stepped : keeper.step settings view = some step) :
    step.1.isReading = true ∨ watch.intake.drained = true ∧ view.stopping = true := by
  unfold Watch.loss? at kept
  rw [Keeper.step, phase] at stepped
  dsimp only [onReading] at stepped
  cases drained : watch.intake.drained with
  | false =>
    rw [drained] at kept stepped
    have reads := Option.some.inj stepped
    exact .inl (reads ▸ isReading_readFrame kept)
  | true =>
    rw [drained] at kept stepped
    simp only [Bool.not_true, Bool.false_eq_true, if_false] at kept stepped
    cases stopping : view.stopping with
    | true => exact .inr ⟨rfl, rfl⟩
    | false =>
      rw [stopping] at kept stepped
      simp only [Bool.false_eq_true, if_false] at kept stepped
      exact .inl (isReading_attend kept stepped)

/-- A session that has looked through all that came in stays connected, is told to end, or is left
alone. -/
theorem step_of_drained (phase : keeper.phase = .reading watch)
    (drained : watch.intake.drained = true) (stepped : keeper.step settings view = some step) :
    step.1.isReading = true ∨ view.stopping = true ∨
      ∃ error, step.1 = (keeper.lose settings view watch error).1 ∧
        ((∃ cause, error = .channel cause) ∨ ∃ limit, error = .silence limit) := by
  cases lost : watch.loss? view with
  | none => exact (goesOn_of_no_loss phase lost stepped).imp_right fun stops => .inl stops.2
  | some error =>
    have fails := stepped.symm.trans (step_of_loss phase lost)
    have after := congrArg Prod.fst (Option.some.inj fails)
    exact .inr (.inr ⟨error, after, Watch.loss?_of_drained drained lost⟩)

end Keeper

end EventFeed
