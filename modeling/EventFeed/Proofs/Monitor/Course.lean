/-
**The course of a keeper's sessions.**

Every step that a keeper takes is one of four: apart from the registry, before a session is
connected or after it; joining the registry, when a session becomes connected; staying connected;
and leaving the registry, when a connected session ends. Only a keeper that joins attaches the
registry, and only one that leaves detaches it.

* `Keeper.course_of_step`: every step of a keeper is one of the four.
-/

import EventFeed.Proofs.Monitor.Deeds

namespace EventFeed

open EventFeed.Time
open EventFeed.Wire (Frame)

namespace Effect

/-- Whether an effect publishes a state. -/
def publishes : Effect → Bool
  | .publish _ => true
  | _ => false

/-- Whether an effect gives the session a writer, or takes it away. -/
def seats : Effect → Bool
  | .appoint | .release => true
  | _ => false

/-- Whether an effect attaches the registry, or detaches it. -/
def binds : Effect → Bool
  | .attach | .detach => true
  | _ => false

/-- Effects that do not bind the registry do not attach it. -/
theorem attach_not_mem {effects : List Effect} (unbound : effects.any binds = false) :
    .attach ∉ effects := by
  intro member
  exact absurd rfl (List.any_eq_false.mp unbound _ member)

end Effect

namespace Keeper

/-- Whether the keeper's session is connected. -/
def isReading (keeper : Keeper) : Bool :=
  match keeper.phase with
  | .reading _ => true
  | _ => false

/-- What is done when a session becomes connected. -/
def joining : List Effect :=
  [.happened .handshakeAcknowledged, .appoint, .attach, .publish .connected]

/-- The four kinds of steps. -/
inductive Course (keeper : Keeper) (step : Step) : Prop where
  /-- Without the registry, before and after. -/
  | apart (before : keeper.isReading = false) (after : step.1.isReading = false)
      (unbound : step.2.any Effect.binds = false)
  /-- A session becomes connected. -/
  | joins (before : keeper.isReading = false) (after : step.1.isReading = true)
      (effects : step.2 = joining)
  /-- A session stays connected. -/
  | stays (before : keeper.isReading = true) (after : step.1.isReading = true)
      (unbound : step.2.any Effect.binds = false) (unseated : step.2.any Effect.seats = false)
      (unpublished : step.2.any Effect.publishes = false)
  /-- A connected session ends. -/
  | leaves (before : keeper.isReading = true) (after : step.1.isReading = false)
      (detaches : .detach ∈ step.2) (never : .attach ∉ step.2)

/-- A step to where no session is connected, that does not touch the registry. -/
structure IsApart (step : Step) : Prop where
  after : step.1.isReading = false
  unbound : step.2.any Effect.binds = false

/-! ### The ends of sessions -/

theorem isApart_finish (keeper : Keeper) : IsApart keeper.finish :=
  ⟨rfl, rfl⟩

theorem isApart_conclude (keeper : Keeper) (happening : Happening) :
    IsApart (keeper.conclude happening) :=
  ⟨rfl, rfl⟩

theorem isApart_crash (keeper : Keeper) (cause : String) : IsApart (keeper.crash cause) :=
  ⟨rfl, rfl⟩

theorem isApart_retry (settings : Settings) (view : View) (keeper : Keeper) (error : SessionError)
    (uptime : Option Nat) : IsApart (keeper.retry settings view error uptime) := by
  unfold retry
  dsimp only
  split <;> exact ⟨rfl, rfl⟩

theorem isApart_fail (settings : Settings) (view : View) (keeper : Keeper) (error : SessionError)
    (uptime : Option Nat) : IsApart (keeper.fail settings view error uptime) := by
  have ended : IsApart (if view.stopping then (keeper.advance .fault).finish
      else (keeper.advance .fault).retry settings view error uptime) := by
    split
    · exact isApart_finish _
    · exact isApart_retry _ _ _ _ _
  refine ⟨ended.after, ?_⟩
  have unbound := ended.unbound
  unfold fail
  cases error.serverMessage? <;> simpa [Effect.binds] using unbound

theorem isApart_drain (settings : Settings) (view : View) (keeper : Keeper) :
    IsApart (keeper.drain settings view) :=
  ⟨rfl, rfl⟩

/-- More effects that do not touch the registry. -/
theorem isApart_append {earlier : List Effect} {step : Step}
    (unbound : earlier.any Effect.binds = false) (apart : IsApart step) :
    IsApart (step.1, earlier ++ step.2) :=
  ⟨apart.after, by rw [List.any_append, unbound, apart.unbound]; rfl⟩

/-- What is done before a session is told to fail touches no registry. -/
theorem unbound_of_failsBy {settings : Settings} {view : View} {keeper : Keeper}
    {error : SessionError} {earlier : List Effect}
    (reason : FailsBy settings view keeper error earlier) :
    keeper.isReading = false ∧ earlier.any Effect.binds = false := by
  cases reason <;> exact ⟨by rw [isReading, ‹keeper.phase = _›], rfl⟩

/-- A connected session that fails leaves the registry, whatever else is done first. -/
theorem course_lose {keeper : Keeper} (before : keeper.isReading = true) (settings : Settings)
    {view : View} {watch : Watch} {error : SessionError} {earlier : List Effect}
    (reason : LosesBy view watch error earlier) :
    Course keeper ((keeper.lose settings view watch error).1,
      earlier ++ (keeper.lose settings view watch error).2) := by
  have unbound : earlier.any Effect.binds = false := by cases reason <;> rfl
  have apart := isApart_fail settings view keeper error (some (view.now - watch.since))
  have never := Effect.attach_not_mem unbound
  have neverLater := Effect.attach_not_mem apart.unbound
  refine .leaves before apart.after ?_ ?_
  · exact List.mem_append_right _ List.mem_cons_self
  · unfold lose
    simp [never, neverLater]

/-- A connected session that is told to end leaves the registry. -/
theorem course_part {keeper : Keeper} (before : keeper.isReading = true) (settings : Settings)
    (view : View) (intake : Intake) : Course keeper (keeper.part settings view intake) := by
  unfold part
  dsimp only
  split <;> exact .leaves before rfl (by simp) (by simp)

/-! ### Every step -/

/-- **Every step of a keeper is one of the four.** -/
theorem course_of_step {settings : Settings} {view : View} {keeper : Keeper} {step : Step}
    (stepped : keeper.step settings view = some step) : Course keeper step := by
  have apart : keeper.isReading = false → IsApart step → Course keeper step :=
    fun before apart => .apart before apart.after apart.unbound
  cases deed_of_step stepped with
  | begins phase => exact apart (by rw [isReading, phase]) ⟨rfl, rfl⟩
  | opens phase => exact apart (by rw [isReading, phase]) ⟨rfl, rfl⟩
  | greets phase => exact apart (by rw [isReading, phase]) ⟨rfl, rfl⟩
  | hears phase => exact apart (by rw [isReading, phase]) ⟨rfl, rfl⟩
  | looks phase => exact apart (by rw [isReading, phase]) ⟨rfl, rfl⟩
  | connects phase => exact .joins (by rw [isReading, phase]) rfl rfl
  | hangsUp phase => exact apart (by rw [isReading, phase]) ⟨rfl, rfl⟩
  | fails reason =>
    obtain ⟨before, unbound⟩ := unbound_of_failsBy reason
    exact apart before (isApart_append unbound (isApart_fail _ _ _ _ _))
  | reads phase => exact .stays (by rw [isReading, phase]) rfl rfl rfl rfl
  | handles phase => exact .stays (by rw [isReading, phase]) rfl rfl rfl rfl
  | takes phase => exact .stays (by rw [isReading, phase]) rfl rfl rfl rfl
  | beats phase => exact .stays (by rw [isReading, phase]) rfl rfl rfl rfl
  | loses phase _ reason => exact course_lose (by rw [isReading, phase]) settings reason
  | parts phase => exact course_part (by rw [isReading, phase]) settings view _
  | lingers phase quiet =>
    exact apart (by rw [isReading, phase]) (by rcases quiet with rfl | rfl <;> exact ⟨rfl, rfl⟩)
  | drains _ phase quiet =>
    refine apart (by rw [isReading, phase]) (isApart_append ?_ (isApart_drain _ _ _))
    rcases quiet with rfl | rfl <;> rfl
  | concludes _ phase _ quiet =>
    have before : keeper.isReading = false := by
      rcases phase with ⟨_, phase⟩ | phase | ⟨_, phase⟩ <;> rw [isReading, phase]
    refine apart before (isApart_append ?_ (isApart_conclude _ _))
    rcases quiet with rfl | rfl | rfl <;> rfl
  | crashes phase =>
    have before : keeper.isReading = false := by
      rcases phase with ⟨_, phase⟩ | phase | phase <;> rw [isReading, phase]
    exact apart before (isApart_crash _ _)
  | rests phase => exact apart (by rw [isReading, phase]) (isApart_finish _)
  | wakes phase => exact apart (by rw [isReading, phase]) ⟨rfl, rfl⟩

end Keeper

end EventFeed
