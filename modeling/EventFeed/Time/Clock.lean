/-
**Timers.**

Time is counted in nanoseconds from some start. A timer is set for a deadline and fires at the first
whole millisecond that is not before it, its tick.

* `le_of_isDue`: no timer fires early;
* `isDue_of_le`: at a whole millisecond every timer whose deadline has come fires;
* `firing_lt`: a timer is late by less than a millisecond.
-/

import EventFeed.Time.Span

namespace EventFeed.Time

/-- The millisecond at which a timer with the given deadline fires. -/
def tick (deadline : Nat) : Nat :=
  (deadline + (nanosPerMilli - 1)) / nanosPerMilli

/-- When a timer with the given deadline fires. -/
def firing (deadline : Nat) : Nat :=
  tick deadline * nanosPerMilli

/-- Whether a timer with the given deadline has fired. -/
def isDue (now deadline : Nat) : Bool :=
  firing deadline ≤ now

/-- A timer does not fire before its deadline. -/
theorem le_firing (deadline : Nat) : deadline ≤ firing deadline := by
  unfold firing tick nanosPerMilli
  omega

/-- A timer is late by less than a millisecond. -/
theorem firing_lt (deadline : Nat) : firing deadline < deadline + nanosPerMilli := by
  unfold firing tick nanosPerMilli
  omega

theorem le_of_isDue {now deadline : Nat} (due : isDue now deadline = true) : deadline ≤ now :=
  Nat.le_trans (le_firing deadline) (by simpa [isDue] using due)

/-- At a whole millisecond every timer whose deadline has come fires. -/
theorem isDue_of_le {now deadline : Nat} (whole : nanosPerMilli ∣ now) (passed : deadline ≤ now) :
    isDue now deadline = true := by
  obtain ⟨millis, rfl⟩ := whole
  rw [isDue, decide_eq_true_eq]
  unfold firing tick nanosPerMilli at *
  omega

end EventFeed.Time
