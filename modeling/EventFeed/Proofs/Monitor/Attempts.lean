/-
**How often a keeper tries again.**

What a keeper owes after a session that failed depends on the sessions before it: a session that was
connected for long enough begins a new row of failures, every other one makes the row longer. The
row is told here from the diary alone, from what happened to the sessions and when, and the keeper's
own count is proved to agree with it at every failure.

* `Diary.Tally`: how long each session that failed was connected, told from a diary;
* `failureRow_concat`: how one more failure makes the row longer, or begins a new one;
* `Diary.countsRight_follow`: the keeper's count is the one told from its diary;
* `Diary.failures_answered`: a keeper gives up when as many attempts as it may make failed in a row,
  and after every other failure it waits for the delay of the row and begins a new session.
-/

import EventFeed.Proofs.Monitor.Diary
import Mathlib.Data.Nat.Find

namespace EventFeed

open EventFeed.Numeral EventFeed.Time
open EventFeed.Wire (Frame DecodeError)

/-! ### Rows of failures -/

section Rows

variable {window : Nat} {uptimes : List (Option Nat)} {uptime : Option Nat}

/-- Whether a session that was connected for the given time, if at all, was connected for long
enough. -/
def isStable (window : Nat) (uptime : Option Nat) : Bool :=
  uptime.any fun uptime => window ≤ uptime

/-- Whether the session of the given number was stable, the first being number one. -/
def isStableAt (window : Nat) (uptimes : List (Option Nat)) (number : Nat) : Bool :=
  uptimes[number - 1]?.any (isStable window)

/-- The number of the latest session that was stable, or of the first session if none was. -/
def latestStable (window : Nat) (uptimes : List (Option Nat)) : Nat :=
  max 1 (Nat.findGreatest (isStableAt window uptimes ·) uptimes.length)

/-- How many sessions failed since the latest one that was stable, as far as it can be counted. -/
def failureRow (window : Nat) (uptimes : List (Option Nat)) : Nat :=
  min (uptimes.length - latestStable window uptimes) (attemptBound - 1)

/-- The row that the next failure makes, unless the session before it is stable. -/
def nextRow (window : Nat) (uptimes : List (Option Nat)) : Nat :=
  if uptimes.isEmpty then 0 else min (failureRow window uptimes + 1) (attemptBound - 1)

theorem isStableAt_concat (window : Nat) (uptimes : List (Option Nat)) (uptime : Option Nat) :
    isStableAt window (uptimes ++ [uptime]) (uptimes.length + 1) = isStable window uptime := by
  simp [isStableAt]

theorem isStableAt_append {number : Nat} (inside : number - 1 < uptimes.length)
    (later : List (Option Nat)) :
    isStableAt window (uptimes ++ later) number = isStableAt window uptimes number := by
  rw [isStableAt, isStableAt, List.getElem?_append_left inside]

theorem latestStable_concat_of_stable (stable : isStable window uptime = true) :
    latestStable window (uptimes ++ [uptime]) = uptimes.length + 1 := by
  have last : isStableAt window (uptimes ++ [uptime]) (uptimes.length + 1) = true :=
    (isStableAt_concat window uptimes uptime).trans stable
  rw [latestStable, List.length_append, List.length_singleton, Nat.findGreatest_eq last]
  omega

theorem latestStable_concat_of_unstable (unstable : isStable window uptime = false) :
    latestStable window (uptimes ++ [uptime]) = latestStable window uptimes := by
  have last : ¬ isStableAt window (uptimes ++ [uptime]) (uptimes.length + 1) = true := by
    rw [isStableAt_concat, unstable]
    exact Bool.false_ne_true
  have same : Nat.findGreatest (isStableAt window (uptimes ++ [uptime]) ·) uptimes.length =
      Nat.findGreatest (isStableAt window uptimes ·) uptimes.length := by
    rw [Nat.findGreatest_eq_iff]
    refine ⟨Nat.findGreatest_le _, fun notZero => ?_, fun number above below => ?_⟩
    · have inside := Nat.findGreatest_le (P := (isStableAt window uptimes ·)) uptimes.length
      rw [isStableAt_append (by omega)]
      exact Nat.findGreatest_of_ne_zero rfl notZero
    · rw [isStableAt_append (by omega)]
      exact Nat.findGreatest_is_greatest above below
  rw [latestStable, latestStable, List.length_append, List.length_singleton,
    Nat.findGreatest_of_not last, same]

theorem latestStable_le (window : Nat) (notEmpty : uptimes ≠ []) :
    latestStable window uptimes ≤ uptimes.length :=
  max_le (List.length_pos_iff.mpr notEmpty) (Nat.findGreatest_le _)

/-- **A failure after a stable session begins a new row; every other one makes the row longer.** -/
theorem failureRow_concat (window : Nat) (uptimes : List (Option Nat)) (uptime : Option Nat) :
    failureRow window (uptimes ++ [uptime]) =
      if isStable window uptime then 0 else nextRow window uptimes := by
  unfold failureRow nextRow
  rw [List.length_append, List.length_singleton]
  split
  · rw [latestStable_concat_of_stable ‹_›, Nat.sub_self, Nat.zero_min]
  · rename_i notStable
    rw [latestStable_concat_of_unstable (Bool.not_eq_true _ ▸ notStable)]
    cases uptimes with
    | nil => rfl
    | cons first rest =>
      have inside := latestStable_le window (List.cons_ne_nil first rest)
      rw [List.isEmpty_cons, if_neg Bool.false_ne_true, failureRow]
      omega

example : failureRow 30 [none, some 40, some 10, none] = 2 := by
  decide

end Rows

/-! ### The tally -/

namespace Diary

/-- Since when the session is connected, if it is, and how long each session that failed was
connected, if it was. -/
structure Tally where
  since : Option Nat
  uptimes : List (Option Nat)

namespace Tally

/-- Something is done about a session at the given time. -/
def hear (now : Nat) (tally : Tally) : Effect → Tally
  | .happened .start => { tally with since := none }
  | .happened .handshakeAcknowledged => { tally with since := some now }
  | .happened .fault => { tally with uptimes := tally.uptimes ++ [tally.since.map (now - ·)] }
  | _ => tally

def note (tally : Tally) (entry : Entry) : Tally :=
  entry.effects.foldl (hear entry.view.now) tally

def ofEntries (entries : List Entry) : Tally :=
  entries.foldl note ⟨none, []⟩

theorem ofEntries_concat (entries : List Entry) (entry : Entry) :
    ofEntries (entries ++ [entry]) = (ofEntries entries).note entry :=
  List.foldl_append

end Tally

end Diary

/-- Whether something begins a session, connects it or makes it fail. -/
def Effect.marks : Effect → Bool
  | .happened .start | .happened .handshakeAcknowledged | .happened .fault => true
  | _ => false

/-- The states that are published, in order. -/
def Effect.states (effects : List Effect) : List ConnectionState :=
  effects.filterMap fun effect => match effect with
    | .publish state => some state
    | _ => none

theorem Effect.states_append (earlier later : List Effect) :
    Effect.states (earlier ++ later) = Effect.states earlier ++ Effect.states later :=
  List.filterMap_append

theorem Effect.states_eq_nil {effects : List Effect}
    (unpublished : ∀ state, .publish state ∉ effects) : Effect.states effects = [] := by
  refine List.filterMap_eq_nil_iff.mpr fun effect member => ?_
  split
  · exact absurd member (unpublished _)
  · rfl

open Diary (Tally)

theorem Diary.Tally.hear_of_unmarked {now : Nat} {tally : Tally} {effect : Effect}
    (unmarked : effect.marks = false) : tally.hear now effect = tally := by
  unfold Tally.hear
  split
  · cases unmarked
  · cases unmarked
  · cases unmarked
  · rfl

theorem Diary.Tally.foldl_hear_of_unmarked {now : Nat} {effects : List Effect}
    (unmarked : effects.any Effect.marks = false) (tally : Tally) :
    effects.foldl (Tally.hear now) tally = tally := by
  induction effects with
  | nil => rfl
  | cons effect effects ih =>
    rw [List.any_cons, Bool.or_eq_false_iff] at unmarked
    rw [List.foldl_cons, hear_of_unmarked unmarked.1, ih unmarked.2]

/-- Only a failure adds to the sessions that failed. -/
theorem Diary.Tally.uptimes_foldl_of_no_fault {now : Nat} {effects : List Effect}
    (noFault : .happened .fault ∉ effects) (tally : Tally) :
    (effects.foldl (Tally.hear now) tally).uptimes = tally.uptimes := by
  induction effects generalizing tally with
  | nil => rfl
  | cons effect effects ih =>
    rw [List.mem_cons, not_or] at noFault
    rw [List.foldl_cons, ih noFault.2]
    unfold Tally.hear
    split
    · rfl
    · rfl
    · exact absurd rfl noFault.1
    · rfl

/-! ### What a step does to the count -/

/-- Whether a keeper that is so far has a session that is connected since then, if at all. A keeper
that has no session, or leaves it, is not asked. -/
def Phase.IsSince (since : Option Nat) : Phase → Prop
  | .reading watch => since = some watch.since
  | .opening _ | .greeting | .awaiting _ _ => since = none
  | _ => True

namespace Keeper

variable {settings : Settings} {view : View} {keeper : Keeper} {step : Step} {since : Option Nat}

/-- What a step does to the count: a session fails, or the count stays as it is. -/
inductive Account (settings : Settings) (view : View) (keeper : Keeper) (since : Option Nat)
    (step : Step) : Prop where
  | fails (error : SessionError) (earlier : List Effect)
      (unmarked : earlier.any Effect.marks = false)
      (unpublished : ∀ state, .publish state ∉ earlier)
      (after : step.1 = (keeper.fail settings view error (since.map (view.now - ·))).1)
      (effects : step.2 = earlier ++ (keeper.fail settings view error (since.map (view.now - ·))).2)
  | goes (counted : step.1.attempt = keeper.attempt)
      (noFault : .happened .fault ∉ step.2)
      (connected : ∀ uptimes,
        step.1.phase.IsSince (step.2.foldl (Tally.hear view.now) ⟨since, uptimes⟩).since)
      (keeps : ∀ cause, step.1.result? ≠ some (.error (.gaveUp cause)))
      (unpublished : ∀ attempt, .publish (.reconnecting attempt) ∉ step.2)

theorem account_of_failsBy {error : SessionError} {earlier : List Effect}
    (reason : FailsBy settings view keeper error earlier) (connected : keeper.phase.IsSince since) :
    Account settings view keeper since ((keeper.fail settings view error none).1,
      earlier ++ (keeper.fail settings view error none).2) := by
  have notYet : since = none := by
    cases reason <;> simpa only [‹keeper.phase = _›, Phase.IsSince] using connected
  subst notYet
  exact .fails error earlier (by cases reason <;> rfl) (by cases reason <;> simp) rfl rfl

theorem account_of_losesBy {watch : Watch} {error : SessionError} {earlier : List Effect}
    (phase : keeper.phase = .reading watch) (reason : LosesBy view watch error earlier)
    (connected : keeper.phase.IsSince since) :
    Account settings view keeper since ((keeper.lose settings view watch error).1,
      earlier ++ (keeper.lose settings view watch error).2) := by
  have sinceThen : since = some watch.since := by
    simpa only [phase, Phase.IsSince] using connected
  subst sinceThen
  have unmarked : (earlier ++ [Effect.detach, Effect.abort]).any Effect.marks = false := by
    cases reason <;> rfl
  have unpublished : ∀ state, Effect.publish state ∉ earlier ++ [Effect.detach, Effect.abort] := by
    cases reason <;> simp
  refine .fails error _ unmarked unpublished rfl ?_
  rw [List.append_assoc]
  rfl

/-- **Every step is a failure, or leaves the count as it is.** -/
theorem account_of_step (stepped : keeper.step settings view = some step)
    (connected : keeper.phase.IsSince since) : Account settings view keeper since step := by
  have same : ∀ {phase : Phase}, keeper.phase = phase → phase.IsSince since := fun phase =>
    phase ▸ connected
  have goesOn : ∀ {after : Keeper}, after.result? = none →
      ∀ cause, after.result? ≠ some (.error (.gaveUp cause)) := by
    intro after unfinished cause gaveUp
    rw [unfinished] at gaveUp
    cases gaveUp
  cases deed_of_step stepped with
  | begins phase => exact .goes rfl (by simp [begin]) (fun _ => rfl) (goesOn rfl) (by simp [begin])
  | opens phase => exact .goes rfl (by simp) (fun _ => (same phase :)) (goesOn rfl) (by simp)
  | greets phase => exact .goes rfl (by simp) (fun _ => (same phase :)) (goesOn rfl) (by simp)
  | hears phase => exact .goes rfl (by simp) (fun _ => (same phase :)) (goesOn rfl) (by simp)
  | looks phase => exact .goes rfl (by simp) (fun _ => (same phase :)) (goesOn rfl) (by simp)
  | connects phase =>
    exact .goes rfl (by simp [connect]) (fun _ => rfl) (goesOn rfl) (by simp [connect])
  | hangsUp phase => exact .goes rfl (by simp) (fun _ => trivial) (goesOn rfl) (by simp)
  | fails reason => exact account_of_failsBy reason connected
  | reads phase => exact .goes rfl (by simp) (fun _ => (same phase :)) (goesOn rfl) (by simp)
  | handles phase => exact .goes rfl (by simp) (fun _ => (same phase :)) (goesOn rfl) (by simp)
  | takes phase => exact .goes rfl (by simp) (fun _ => (same phase :)) (goesOn rfl) (by simp)
  | beats phase _ _ due =>
    obtain ⟨beat, rfl⟩ := Watch.eq_of_beat? due
    exact .goes rfl (by simp) (fun _ => (same phase :)) (goesOn rfl) (by simp)
  | loses phase _ reason => exact account_of_losesBy phase reason connected
  | parts =>
    unfold part
    dsimp only
    split <;> exact .goes rfl (by simp) (fun _ => trivial) (goesOn rfl) (by simp)
  | lingers _ quiet =>
    rcases quiet with rfl | rfl <;>
      exact .goes rfl (by simp) (fun _ => trivial) (goesOn rfl) (by simp)
  | drains _ _ quiet =>
    rcases quiet with rfl | rfl <;>
      exact .goes rfl (by simp [drain]) (fun _ => trivial) (goesOn rfl) (by simp [drain])
  | concludes _ _ ends quiet =>
    rcases ends with rfl | rfl <;> rcases quiet with rfl | rfl | rfl <;>
      exact .goes rfl (by simp [conclude, finish]) (fun _ => trivial)
        (fun _ gaveUp => by cases gaveUp) (by simp [conclude, finish])
  | crashes =>
    exact .goes rfl (by simp [crash]) (fun _ => trivial) (fun _ gaveUp => by cases gaveUp)
      (by simp [crash])
  | rests =>
    exact .goes rfl (by simp [finish]) (fun _ => trivial) (fun _ gaveUp => by cases gaveUp)
      (by simp [finish])
  | wakes => exact .goes rfl (by simp) (fun _ => trivial) (goesOn rfl) (by simp)

/-- What a keeper does about a failure that is the given one in a row: it gives up if no attempt is
left, and tries again if one is. -/
inductive Retried (settings : Settings) (view : View) (keeper : Keeper) (error : SessionError)
    (row : Nat) : Step → Prop where
  | spent {most : Nat} (budget : settings.reconnection.mostAttempts = some most)
      (reached : most ≤ row) :
      Retried settings view keeper error row
        ({ keeper with
            attempt := row
            phase := .finished (.error (.gaveUp ⟨row, error.message⟩)) },
          [.publish (.failed (GaveUp.message ⟨row, error.message⟩))])
  | left (left : ∀ most, settings.reconnection.mostAttempts = some most → row < most) :
      Retried settings view keeper error row
        ({ keeper with
            attempt := min (row + 1) (attemptBound - 1)
            phase := .pausing
              (view.now + (settings.reconnection.delay row view.drawn).nanos) },
          [.publish (.reconnecting (min (row + 1) (attemptBound - 1))),
            .notify (.retrying (min (row + 1) (attemptBound - 1))
              (settings.reconnection.delay row view.drawn))])

theorem retried_retry (settings : Settings) (view : View) (keeper : Keeper) (error : SessionError)
    (uptime : Option Nat) :
    Retried settings view keeper error
      (failuresBefore settings.reconnection keeper.attempt uptime)
      (keeper.retry settings view error uptime) := by
  unfold retry
  dsimp only
  split
  · rename_i spent
    obtain ⟨most, budget, reached⟩ := (Option.any_eq_true _ _).mp spent
    exact .spent budget (of_decide_eq_true reached)
  · rename_i notSpent
    refine .left fun most budget => ?_
    rw [budget, Option.any_some, decide_eq_true_eq, not_le] at notSpent
    exact notSpent

theorem Retried.unmarked {error : SessionError} {row : Nat}
    (retried : Retried settings view keeper error row step) :
    step.2.any Effect.marks = false := by
  cases retried <;> rfl

/-- What a keeper does about a session that failed, once the failure is reported. -/
def ended (settings : Settings) (view : View) (keeper : Keeper) (error : SessionError)
    (uptime : Option Nat) : Step :=
  if view.stopping then (keeper.advance .fault).finish
  else (keeper.advance .fault).retry settings view error uptime

/-- A session that fails is reported, and then its keeper does what it does about the failure. -/
theorem exists_fail_eq_ended (settings : Settings) (view : View) (keeper : Keeper)
    (error : SessionError) (uptime : Option Nat) :
    ∃ report : List Effect, report.any Effect.marks = false ∧
      (∀ state, .publish state ∉ report) ∧
      keeper.fail settings view error uptime =
        ((keeper.ended settings view error uptime).1,
          .happened .fault :: (report ++ (keeper.ended settings view error uptime).2)) := by
  let report := error.serverMessage?.toList.map fun message => Effect.notify (.serverError message)
  refine ⟨report ++ [.release], ?_, ?_, ?_⟩
  · rw [List.any_append, List.any_map, List.any_eq_false.mpr (by simp [Effect.marks])]
    rfl
  · simp [report]
  · rw [List.append_assoc]
    rfl

/-- Without a stop that is to give up, or to try again. -/
theorem exists_fail_eq (going : view.stopping = false) (settings : Settings) (keeper : Keeper)
    (error : SessionError) (uptime : Option Nat) :
    ∃ report : List Effect, report.any Effect.marks = false ∧
      (∀ state, .publish state ∉ report) ∧
      keeper.fail settings view error uptime =
        (((keeper.advance .fault).retry settings view error uptime).1,
          .happened .fault ::
            (report ++ ((keeper.advance .fault).retry settings view error uptime).2)) := by
  obtain ⟨report, unmarked, unpublished, failed⟩ :=
    exists_fail_eq_ended settings view keeper error uptime
  refine ⟨report, unmarked, unpublished, ?_⟩
  rw [failed, ended, going]
  rfl

/-- The row that a keeper counts is the one that the failure makes. -/
theorem failuresBefore_of_counted {reconnection : Reconnection} {uptimes : List (Option Nat)}
    (counted : keeper.attempt = nextRow reconnection.stabilityWindow.nanos uptimes)
    (uptime : Option Nat) :
    failuresBefore reconnection keeper.attempt uptime =
      failureRow reconnection.stabilityWindow.nanos (uptimes ++ [uptime]) := by
  rw [failureRow_concat, ← counted]
  rfl

/-- A keeper that takes a step has not finished. -/
theorem result?_of_step (stepped : keeper.step settings view = some step) :
    keeper.result? = none := by
  cases result : keeper.result? with
  | none => rfl
  | some result =>
    rw [step_of_finished ‹_›] at stepped
    cases stepped

end Keeper

/-! ### What is owed after a failure -/

namespace Entry

/-- Whether a session fails. -/
def Fails (entry : Entry) : Prop :=
  .happened .fault ∈ entry.effects

/-- The keeper gives up after so many attempts in a row. -/
structure GivesUp (entry : Entry) (row : Nat) : Prop where
  finishes : ∃ lastError, entry.after.result? = some (.error (.gaveUp ⟨row, lastError⟩)) ∧
    Effect.states entry.effects = [.failed (GaveUp.message ⟨row, lastError⟩)]

/-- The keeper tells of its next attempt, waits for the delay of the row, neither shorter nor
longer, and then begins a new session. -/
structure TriesAgain (settings : Settings) (entry : Entry) (row : Nat) : Prop where
  published : Effect.states entry.effects = [.reconnecting (min (row + 1) (attemptBound - 1))]
  told : .notify (.retrying (min (row + 1) (attemptBound - 1))
    (settings.reconnection.delay row entry.view.drawn)) ∈ entry.effects
  waits : ∀ view, view.stopping = false →
    isDue view.now
      (entry.view.now + (settings.reconnection.delay row entry.view.drawn).nanos) = false →
    entry.after.step settings view = none
  begins : ∀ view, view.stopping = false →
    isDue view.now
      (entry.view.now + (settings.reconnection.delay row entry.view.drawn).nanos) = true →
    ∃ rested, entry.after.step settings view = some (rested, []) ∧
      ∀ later, ∃ begun, rested.step settings later =
        some (begun, [.happened .start, .publish .connecting, .dial])

end Entry

namespace Diary

/-- The row of failures that a diary with one more entry tells of, if a session fails in it. -/
def rowAt (settings : Settings) (front : List Entry) (entry : Entry) : Nat :=
  failureRow settings.reconnection.stabilityWindow.nanos
    (Tally.ofEntries (front ++ [entry])).uptimes

/-- How long the session was connected at the time of an entry, if it was, as the diary before the
entry tells. -/
def uptimeAt (front : List Entry) (entry : Entry) : Option Nat :=
  (Tally.ofEntries front).since.map (entry.view.now - ·)

/-- What a keeper owes at an entry of its diary. -/
structure IsAnswered (settings : Settings) (front : List Entry) (entry : Entry)
    (back : List Entry) : Prop where
  /-- When as many attempts as the keeper may make failed in a row, it gives up. -/
  givesUp : entry.Fails → settings.reconnection.mostAttempts = some (rowAt settings front entry) →
    entry.GivesUp (rowAt settings front entry) ∧ back = []
  /-- After every other failure it tries again. -/
  triesAgain : entry.Fails →
    settings.reconnection.mostAttempts ≠ some (rowAt settings front entry) →
    entry.TriesAgain settings (rowAt settings front entry)
  /-- A session that was never connected, or not for long enough, makes the row longer. -/
  grows : entry.Fails →
    isStable settings.reconnection.stabilityWindow.nanos (uptimeAt front entry) = false →
    rowAt settings front entry =
      nextRow settings.reconnection.stabilityWindow.nanos (Tally.ofEntries front).uptimes
  /-- No other attempt is told of, and none beyond the most. -/
  bounded : ∀ attempt, .publish (.reconnecting attempt) ∈ entry.effects → entry.Fails ∧
    ∀ most, settings.reconnection.mostAttempts = some most → attempt ≤ most
  /-- The keeper gives up only then. -/
  only : ∀ cause, entry.after.result? = some (.error (.gaveUp cause)) → entry.Fails ∧
    settings.reconnection.mostAttempts = some cause.attempts

variable {settings : Settings} {endpoint : Endpoint} {credentials : Credentials}
  {views : List View}

/-! ### The keeper's count -/

/-- The keeper's count is the one told from its diary, and there is an attempt left for it. -/
structure CountsRight (settings : Settings) (diary : Diary) : Prop where
  since : diary.keeper.phase.IsSince (Tally.ofEntries diary.entries).since
  attempt : diary.keeper.result? = none → diary.keeper.attempt =
    nextRow settings.reconnection.stabilityWindow.nanos (Tally.ofEntries diary.entries).uptimes
  budget : diary.keeper.result? = none → ∀ most,
    settings.reconnection.mostAttempts = some most → diary.keeper.attempt ≤ most

theorem countsRight_start (settings : Settings) (endpoint : Endpoint) (credentials : Credentials) :
    CountsRight settings (start (.fresh endpoint credentials)) where
  since := trivial
  attempt := fun _ => rfl
  budget := fun _ _ _ => Nat.zero_le _

/-- The count of a keeper that has finished does not matter any more. -/
theorem countsRight_of_finished {diary : Diary} {result : Except MonitorError Unit}
    (finished : diary.keeper.result? = some result) : CountsRight settings diary where
  since := by
    unfold Keeper.result? at finished
    split at finished
    · rename_i phase
      rw [phase]
      trivial
    · cases finished
  attempt := fun unfinished => nomatch unfinished.symm.trans finished
  budget := fun unfinished => nomatch unfinished.symm.trans finished

/-- The tally of a failure is one more time for which a session was connected. -/
theorem note_fail {entry : Entry} {error : SessionError} {uptime : Option Nat}
    {earlier : List Effect} (going : entry.view.stopping = false)
    (unmarked : earlier.any Effect.marks = false)
    (effects : entry.effects =
      earlier ++ (entry.before.fail settings entry.view error uptime).2) (tally : Tally) :
    tally.note entry =
      { tally with uptimes := tally.uptimes ++ [tally.since.map (entry.view.now - ·)] } := by
  obtain ⟨report, unmarkedReport, -, failed⟩ :=
    Keeper.exists_fail_eq going settings entry.before error uptime
  have unmarkedRest := (Keeper.retried_retry settings entry.view (entry.before.advance .fault)
    error uptime).unmarked
  rw [Tally.note, effects, failed, List.foldl_append, Tally.foldl_hear_of_unmarked unmarked,
    List.foldl_cons, List.foldl_append, Tally.foldl_hear_of_unmarked unmarkedReport,
    Tally.foldl_hear_of_unmarked unmarkedRest]
  rfl

/-- A failure without a stop: the tally has one more time, and the keeper does what it does about a
failure of the row that the diary tells of, after which it is as `ended` says. -/
structure Failure (settings : Settings) (front : List Entry) (entry : Entry)
    (error : SessionError) (ended : Keeper.Step) : Prop where
  uptimes : (Tally.ofEntries (front ++ [entry])).uptimes =
    (Tally.ofEntries front).uptimes ++ [uptimeAt front entry]
  within : ∀ most, settings.reconnection.mostAttempts = some most →
    rowAt settings front entry ≤ most
  after : entry.after = ended.1
  done : ended.2 <:+ entry.effects
  states : Effect.states entry.effects = Effect.states ended.2
  retried : Keeper.Retried settings entry.view (entry.before.advance .fault) error
    (rowAt settings front entry) ended

theorem exists_failure {front : List Entry} {entry : Entry} {error : SessionError}
    {earlier : List Effect} (right : CountsRight settings ⟨entry.before, front⟩)
    (unfinished : entry.before.result? = none) (going : entry.view.stopping = false)
    (unmarked : earlier.any Effect.marks = false) (unpublished : ∀ state, .publish state ∉ earlier)
    (after : entry.after =
      (entry.before.fail settings entry.view error (uptimeAt front entry)).1)
    (effects : entry.effects =
      earlier ++ (entry.before.fail settings entry.view error (uptimeAt front entry)).2) :
    ∃ ended, Failure settings front entry error ended := by
  have uptimes : (Tally.ofEntries (front ++ [entry])).uptimes =
      (Tally.ofEntries front).uptimes ++ [uptimeAt front entry] := by
    rw [Tally.ofEntries_concat, note_fail going unmarked effects]
    rfl
  have row : Keeper.failuresBefore settings.reconnection (entry.before.advance .fault).attempt
      (uptimeAt front entry) = rowAt settings front entry := by
    rw [rowAt, uptimes]
    exact Keeper.failuresBefore_of_counted (right.attempt unfinished) _
  obtain ⟨report, -, unpublishedReport, failed⟩ := Keeper.exists_fail_eq going settings entry.before
    error (uptimeAt front entry)
  have unpublishedBefore : ∀ state, .publish state ∉ earlier ++ .happened .fault :: report := by
    simp [unpublished, unpublishedReport]
  have split : entry.effects = (earlier ++ .happened .fault :: report) ++
      ((entry.before.advance .fault).retry settings entry.view error (uptimeAt front entry)).2 := by
    rw [effects, failed, List.append_assoc]
    rfl
  have retried := Keeper.retried_retry settings entry.view (entry.before.advance .fault) error
    (uptimeAt front entry)
  rw [row] at retried
  have within : ∀ most, settings.reconnection.mostAttempts = some most →
      rowAt settings front entry ≤ most := by
    intro most isMost
    have inside := right.budget unfinished most isMost
    rw [← row]
    unfold Keeper.failuresBefore
    split
    · exact Nat.zero_le _
    · exact inside
  refine ⟨(entry.before.advance .fault).retry settings entry.view error (uptimeAt front entry),
    uptimes, within, by rw [after, failed], ⟨_, split.symm⟩, ?_, retried⟩
  rw [split, Effect.states_append, Effect.states_eq_nil unpublishedBefore, List.nil_append]

/-- One more step keeps the count right. -/
theorem countsRight_concat {front : List Entry} {entry : Entry}
    (right : CountsRight settings ⟨entry.before, front⟩)
    (stepped : entry.before.step settings entry.view = some (entry.after, entry.effects)) :
    CountsRight settings ⟨entry.after, front ++ [entry]⟩ := by
  have unfinished := Keeper.result?_of_step stepped
  cases Keeper.account_of_step stepped right.since with
  | goes counted noFault connected =>
    have uptimes : (Tally.ofEntries (front ++ [entry])).uptimes =
        (Tally.ofEntries front).uptimes := by
      rw [Tally.ofEntries_concat]
      exact Tally.uptimes_foldl_of_no_fault noFault _
    refine ⟨?_, fun _ => ?_, fun _ => ?_⟩
    · rw [Tally.ofEntries_concat]
      exact connected _
    · rw [uptimes]
      exact counted.trans (right.attempt unfinished)
    · exact counted ▸ right.budget unfinished
  | fails error earlier unmarked unpublished after effects =>
    cases going : entry.view.stopping with
    | true =>
      have finished := Keeper.result?_fail going settings entry.before error (uptimeAt front entry)
      exact countsRight_of_finished ((congrArg Keeper.result? after).trans finished)
    | false =>
      obtain ⟨ended, uptimes, -, same, -, -, retried⟩ :=
        exists_failure right unfinished going unmarked unpublished after effects
      cases retried with
      | spent => exact countsRight_of_finished (congrArg Keeper.result? same)
      | left left =>
        refine ⟨?_, fun _ => ?_, fun _ most isMost => ?_⟩
        · rw [same]
          trivial
        · rw [same, uptimes, nextRow, if_neg (by simp), ← uptimes]
          rfl
        · have inside := left most isMost
          rw [same]
          exact le_trans (Nat.min_le_left _ _) inside

/-- **The keeper's count is the one told from its diary.** -/
theorem countsRight_follow (settings : Settings) (endpoint : Endpoint) (credentials : Credentials)
    (views : List View) :
    CountsRight settings (follow settings (.fresh endpoint credentials) views) := by
  induction views using List.reverseRecOn with
  | nil => exact countsRight_start settings endpoint credentials
  | append_singleton views view ih =>
    rw [follow_concat]
    generalize follow settings (.fresh endpoint credentials) views = diary at ih ⊢
    cases stepped : diary.keeper.step settings view with
    | none => rwa [turn_of_none stepped]
    | some step =>
      rw [turn_of_some stepped]
      let entry : Entry := ⟨view, diary.keeper, step.1, step.2⟩
      have right : CountsRight settings ⟨entry.before, diary.entries⟩ := ih
      exact countsRight_concat right stepped

/-- Nothing is written in a diary after its keeper has finished. -/
theorem follow_append_of_finished {keeper : Keeper} {result : Except MonitorError Unit}
    (finished : (follow settings keeper views).keeper.result? = some result) (later : List View) :
    follow settings keeper (views ++ later) = follow settings keeper views := by
  induction later using List.reverseRecOn with
  | nil => rw [List.append_nil]
  | append_singleton later view ih =>
    rw [← List.append_assoc, follow_concat, ih,
      turn_of_none (Keeper.step_of_finished finished settings view)]

/-- What a keeper owes after a failure without a stop. -/
theorem isAnswered_of_failure {front back : List Entry} {entry : Entry} {error : SessionError}
    {ended : Keeper.Step} (fails : entry.Fails)
    (failure : Failure settings front entry error ended)
    (last : (∃ result, entry.after.result? = some result) → back = []) :
    IsAnswered settings front entry back := by
  obtain ⟨uptimes, within, after, done, states, retried⟩ := failure
  have grows : isStable settings.reconnection.stabilityWindow.nanos (uptimeAt front entry) =
      false → rowAt settings front entry =
        nextRow settings.reconnection.stabilityWindow.nanos (Tally.ofEntries front).uptimes := by
    intro unstable
    rw [rowAt, uptimes, failureRow_concat, unstable]
    rfl
  have isPublished : ∀ {state}, .publish state ∈ entry.effects →
      state ∈ Effect.states entry.effects := fun published =>
    List.mem_filterMap.mpr ⟨_, published, rfl⟩
  rw [states] at isPublished
  cases retried with
  | @spent most budget reached =>
    have same : most = rowAt settings front entry := le_antisymm reached (within most budget)
    have finished : entry.after.result? =
        some (.error (.gaveUp ⟨rowAt settings front entry, error.message⟩)) :=
      congrArg Keeper.result? after
    refine ⟨fun _ _ => ⟨⟨error.message, finished, states⟩, last ⟨_, finished⟩⟩,
      fun _ other => absurd (same ▸ budget) other, fun _ => grows, fun attempt told => ?_, ?_⟩
    · have among := isPublished told
      simp [Effect.states] at among
    · intro cause result
      cases result.symm.trans finished
      exact ⟨fails, same ▸ budget⟩
  | left left =>
    refine ⟨fun _ most => absurd (left _ most) (lt_irrefl _), fun _ _ => ?_, fun _ => grows,
      fun attempt told => ⟨fails, fun most isMost => ?_⟩, fun cause result => ?_⟩
    · refine ⟨states, done.subset (by simp), fun view going early => ?_, fun view going due => ?_⟩
      · rw [after]
        simp [Keeper.step, Keeper.onPausing, Keeper.unlessStopped, going, early]
      · rw [after]
        simp only [Keeper.step, Keeper.onPausing, Keeper.unlessStopped, going, due]
        exact ⟨_, rfl, fun later => ⟨_, rfl⟩⟩
    · have among := isPublished told
      have inside := left most isMost
      simp only [Effect.states, List.filterMap_cons, List.filterMap_nil, List.mem_singleton,
        ConnectionState.reconnecting.injEq] at among
      omega
    · rw [after] at result
      cases result

/-- **A keeper gives up when as many attempts as it may make failed in a row, and after every other
failure it tries again.** The row begins anew with each session that was connected for long enough,
and with nothing else. -/
theorem failures_answered {front back : List Entry} {entry : Entry}
    (written : (follow settings (.fresh endpoint credentials) views).entries =
      front ++ entry :: back)
    (going : entry.view.stopping = false) : IsAnswered settings front entry back := by
  obtain ⟨early, ⟨later, rfl⟩, moment, stepped, next⟩ := exists_follow_of_entries written
  have right := countsRight_follow settings endpoint credentials early
  rw [moment] at right
  have unfinished := Keeper.result?_of_step stepped
  cases Keeper.account_of_step stepped right.since with
  | goes counted noFault connected keeps unpublished =>
    exact ⟨fun fails => absurd fails noFault, fun fails => absurd fails noFault,
      fun fails => absurd fails noFault, fun attempt told => absurd told (unpublished attempt),
      fun cause result => absurd result (keeps cause)⟩
  | fails error earlier unmarked unpublished after effects =>
    obtain ⟨ended, failure⟩ :=
      exists_failure right unfinished going unmarked unpublished after effects
    have fails : entry.Fails := by
      show Effect.happened .fault ∈ entry.effects
      rw [show entry.effects = _ from effects]
      exact List.mem_append_right _ (by simp [Keeper.fail])
    refine isAnswered_of_failure fails failure fun finishes => ?_
    obtain ⟨result, finished⟩ := finishes
    have atEnd : (follow settings (.fresh endpoint credentials)
        (early ++ [entry.view])).keeper.result? = some result := by
      rw [next]
      exact finished
    rw [follow_append_of_finished atEnd later, next] at written
    simpa using written

/-- Settings with which a keeper makes one more attempt. -/
def onceMore : Settings :=
  { Settings.standard with reconnection := { Reconnection.standard with mostAttempts := some 1 } }

/-- What a keeper sees after so many milliseconds while the network refuses its channel. -/
def refusedAt (millis : Nat) : View where
  now := millis * nanosPerMilli
  stopping := false
  stopFirst := true
  dial := .failed .closed
  sink := .stalled
  arrival := none
  writerOpen := false
  writerEnd := none
  awaits := fun _ => false
  receipt := ""
  drawn := .zero

/-- What a keeper sees after so many milliseconds while the network gives it a channel. -/
def openAt (millis : Nat) (arrival : Option Arrival) : View :=
  { refusedAt millis with dial := .opened, sink := .accepting, arrival, writerOpen := true }

/-- The keeper is refused. Half a second later it is connected, and it loses the session after forty
seconds. Half a second after that it is refused again. -/
def setbacks : List View :=
  [refusedAt 0, refusedAt 0, refusedAt 499, refusedAt 500,
    openAt 500 none, openAt 500 none, openAt 500 none, openAt 500 none,
    openAt 500 (some (.ok (Text.toBytes "CONNECTED\n\n\x00"))), openAt 500 none, openAt 500 none,
    openAt 40500 (some (.error .closed)), refusedAt 41000, refusedAt 41000, refusedAt 41000]

/-- The steps of a keeper that may make one more attempt. -/
def setbackEntries : List Entry :=
  (follow onceMore (.fresh ⟨"wss://feed", "feed", true⟩ .empty) setbacks).entries

/-- A keeper that may make one more attempt makes it after a refusal. The session that follows is
stable, so its loss is the first failure of a new row and the keeper tries again; it gives up at the
refusal after that, which is the second one of the row. -/
theorem setbacks_answered : ∃ refused lost last : Entry,
    setbackEntries[1]? = some refused ∧ setbackEntries[10]? = some lost ∧
    setbackEntries[13]? = some last ∧ setbackEntries.length = 14 ∧
    refused.Fails ∧ refused.TriesAgain onceMore 0 ∧
    lost.Fails ∧ uptimeAt (setbackEntries.take 10) lost = some (40 * nanosPerSecond) ∧
    lost.TriesAgain onceMore 0 ∧ last.Fails ∧ last.GivesUp 1 := by
  have failing (place row : Nat)
      (found : setbackEntries[place]?.map (fun entry =>
        (entry.view.stopping, decide (Effect.happened .fault ∈ entry.effects),
          rowAt onceMore (setbackEntries.take place) entry)) = some (false, true, row)) :
      ∃ entry, setbackEntries[place]? = some entry ∧ entry.Fails ∧
        rowAt onceMore (setbackEntries.take place) entry = row ∧
        IsAnswered onceMore (setbackEntries.take place) entry
          (setbackEntries.drop (place + 1)) := by
    obtain ⟨entry, there, facts⟩ := Option.map_eq_some_iff.mp found
    simp only [Prod.mk.injEq, decide_eq_true_eq] at facts
    obtain ⟨going, fails, row⟩ := facts
    obtain ⟨inside, same⟩ := List.getElem?_eq_some_iff.mp there
    have written : setbackEntries =
        setbackEntries.take place ++ entry :: setbackEntries.drop (place + 1) := by
      rw [← same, ← List.drop_eq_getElem_cons inside, List.take_append_drop]
    exact ⟨entry, there, fails, row, failures_answered written going⟩
  obtain ⟨refused, isRefused, refusedFails, refusedRow, refusedAnswered⟩ :=
    failing 1 0 (by decide +kernel)
  obtain ⟨lost, isLost, lostFails, lostRow, lostAnswered⟩ := failing 10 0 (by decide +kernel)
  obtain ⟨last, isLast, lastFails, lastRow, lastAnswered⟩ := failing 13 1 (by decide +kernel)
  have uptime : setbackEntries[10]?.map (uptimeAt (setbackEntries.take 10)) =
      some (some (40 * nanosPerSecond)) := by decide +kernel
  rw [isLost, Option.map_some, Option.some.injEq] at uptime
  have oneLeft : onceMore.reconnection.mostAttempts ≠ some 0 := by decide
  refine ⟨refused, lost, last, isRefused, isLost, isLast, by decide +kernel, refusedFails, ?_,
    lostFails, uptime, ?_, lastFails, ?_⟩
  · exact refusedRow ▸ refusedAnswered.triesAgain refusedFails (refusedRow.symm ▸ oneLeft)
  · exact lostRow ▸ lostAnswered.triesAgain lostFails (lostRow.symm ▸ oneLeft)
  · exact lastRow ▸ (lastAnswered.givesUp lastFails (lastRow.symm ▸ rfl)).1

end Diary

end EventFeed
