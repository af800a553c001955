/-
**Alarms.**

An alarm is set for a millisecond and rings when it comes. Alarms stand in a row: one that is set
stands behind all others, and those that ring together ring in the order of the row.

An alarm that is put off goes on standing for its old millisecond. Time is divided into blocks of 1,
64, 64 ^ 2 and so on milliseconds. When the widest block begins that holds the millisecond for which
the alarm stands and does not hold the present, all alarms that stand for a millisecond of the block
go behind the others, in their order, and the alarm that was put off stands for its new millisecond.

* `lt_blockStart`, `blockStart_le`: such a block begins later than now, and in time;
* `ringTime_of_pass`: no alarm is lost or changed by time that passes;
* `nextRing?_earliest`: the next alarm is the earliest of those that lie ahead.
-/

import EventFeed.Time.Clock

namespace EventFeed.Time

/-! ### Blocks of time -/

/-- When the widest block of time begins that holds `due` and does not hold `now`. -/
def blockStart (now due : Nat) : Nat :=
  if now / 64 = due / 64 then due else 64 * blockStart (now / 64) (due / 64)
  termination_by now + due

theorem blockStart_le (now due : Nat) : blockStart now due ≤ due := by
  fun_induction blockStart now due with
  | case1 now due same => exact Nat.le_refl _
  | case2 now due other step => omega

theorem lt_blockStart {now due : Nat} (ahead : now < due) : now < blockStart now due := by
  fun_induction blockStart now due with
  | case1 now due same => exact ahead
  | case2 now due other step =>
    have := step (by omega)
    omega

/-! ### The row of alarms -/

/-- An alarm: what it is called, the millisecond at which it rings, and the one for which it stands
in the row. -/
structure Alarm (κ : Type) where
  name : κ
  ringsAt : Nat
  standsFor : Nat
  deriving DecidableEq, Repr

namespace Alarm

variable {κ : Type}

/-- Whether the alarm was put off and stands for its old millisecond. -/
def isPutOff (alarm : Alarm κ) : Bool :=
  alarm.standsFor ≠ alarm.ringsAt

/-- What becomes of an alarm that is wanted for some millisecond or not at all: it stays, or it is
put off if it has not rung yet, or it is taken away. -/
def keep? (alarm : Alarm κ) (now : Nat) (wanted : Option Nat) : Option (Alarm κ) :=
  match wanted with
  | none => none
  | some ringsAt =>
    if ringsAt = alarm.ringsAt then some alarm
    else if now < alarm.ringsAt ∧ alarm.ringsAt < ringsAt then some { alarm with ringsAt }
    else none

/-- When the block begins in which the alarm goes behind the others. -/
def movesAt (alarm : Alarm κ) (now : Nat) : Nat :=
  blockStart now alarm.standsFor

end Alarm

/-- The alarms that are set, in the order of the row. -/
abbrev AlarmClock (κ : Type) := List (Alarm κ)

namespace AlarmClock

variable {κ : Type}

/-- The alarms of one owner are the wanted ones from now on. -/
def set [BEq κ] (clock : AlarmClock κ) (now : Nat) (owned : κ → Bool) (wanted : List (κ × Nat)) :
    AlarmClock κ :=
  let kept := clock.filterMap fun alarm =>
    if owned alarm.name then alarm.keep? now (wanted.lookup alarm.name) else some alarm
  kept ++ (wanted.filter fun pair => !kept.any (·.name == pair.1)).map fun pair =>
    ⟨pair.1, pair.2, pair.2⟩

/-- The row when a block begins: the alarms that stand for it go behind the others. -/
def regroup (clock : AlarmClock κ) (now start : Nat) : AlarmClock κ :=
  (clock.filter fun alarm => alarm.movesAt now ≠ start) ++
    (clock.filter fun alarm => alarm.movesAt now = start).map fun alarm =>
      { alarm with standsFor := alarm.ringsAt }

/-- The first block up to the given time at whose beginning an alarm that was put off goes behind
the others. -/
def nextStart? (clock : AlarmClock κ) (now time : Nat) : Option Nat :=
  (((clock.filter Alarm.isPutOff).map (·.movesAt now)).filter (· ≤ time)).min?

/-- The row after time has passed, in which at most the given number of blocks begin. -/
def passBlocks (now time : Nat) : Nat → AlarmClock κ → AlarmClock κ
  | 0, clock => clock
  | blocks + 1, clock =>
    match clock.nextStart? now time with
    | none => clock
    | some start => passBlocks now time blocks (clock.regroup now start)

/-- The row after time has passed. Every block has an alarm that was put off. -/
def pass (clock : AlarmClock κ) (now time : Nat) : AlarmClock κ :=
  passBlocks now time clock.length clock

/-- What rings after one time and not after another, in the order of the row. -/
def ringing (clock : AlarmClock κ) (now time : Nat) : List κ :=
  (clock.filter fun alarm => now < alarm.ringsAt && alarm.ringsAt ≤ time).map Alarm.name

def nextRing? (clock : AlarmClock κ) (now : Nat) : Option Nat :=
  ((clock.map Alarm.ringsAt).filter (now < ·)).min?

/-- No alarm is lost or changed when a block begins. -/
theorem ringTime_of_regroup (clock : AlarmClock κ) (now start : Nat) {alarm : Alarm κ}
    (held : alarm ∈ clock) :
    ∃ later ∈ clock.regroup now start,
      later.name = alarm.name ∧ later.ringsAt = alarm.ringsAt := by
  by_cases moves : alarm.movesAt now = start
  · refine ⟨{ alarm with standsFor := alarm.ringsAt }, ?_, rfl, rfl⟩
    exact List.mem_append_right _ (List.mem_map.mpr ⟨alarm, by simp [held, moves], rfl⟩)
  · exact ⟨alarm, List.mem_append_left _ (by simp [held, moves]), rfl, rfl⟩

/-- No alarm is lost or changed by time that passes. -/
theorem ringTime_of_pass (clock : AlarmClock κ) (now time : Nat) {alarm : Alarm κ}
    (held : alarm ∈ clock) :
    ∃ later ∈ clock.pass now time, later.name = alarm.name ∧ later.ringsAt = alarm.ringsAt := by
  unfold pass
  generalize clock.length = blocks
  induction blocks generalizing clock alarm with
  | zero => exact ⟨alarm, held, rfl, rfl⟩
  | succ blocks step =>
    rw [passBlocks]
    split
    · exact ⟨alarm, held, rfl, rfl⟩
    · rename_i start _
      obtain ⟨moved, inRow, sameName, sameTime⟩ := clock.ringTime_of_regroup now start held
      obtain ⟨later, atEnd, name, time⟩ := step (clock.regroup now start) inRow
      exact ⟨later, atEnd, name.trans sameName, time.trans sameTime⟩

/-- The next alarm lies ahead, and none that lies ahead rings before it. -/
theorem nextRing?_earliest {clock : AlarmClock κ} {now next : Nat}
    (found : clock.nextRing? now = some next) :
    now < next ∧ ∀ alarm ∈ clock, now < alarm.ringsAt → next ≤ alarm.ringsAt := by
  rw [nextRing?, List.min?_eq_some_iff] at found
  obtain ⟨member, earliest⟩ := found
  rw [List.mem_filter, decide_eq_true_eq] at member
  refine ⟨member.2, fun alarm held ahead => earliest alarm.ringsAt ?_⟩
  rw [List.mem_filter, decide_eq_true_eq]
  exact ⟨List.mem_map_of_mem held, ahead⟩

end AlarmClock

end EventFeed.Time
