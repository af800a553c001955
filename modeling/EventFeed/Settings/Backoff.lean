/-
**Delays between attempts.**

The delay before an attempt is the base delay times a power of the factor, as long as that is not
longer than the longest delay; the exponent is the number of attempts before it, at most 63. Around
it the delay is varied by a part of it, the jitter, times a number between -1 and 1 that is drawn
anew each time.

* `delay_of_no_jitter`: without jitter what is drawn does not matter.
-/

import EventFeed.Settings.Basic

namespace EventFeed.Reconnection

open EventFeed.Numeral EventFeed.Time

def largestExponent : Nat := 63

/-- The delay before an attempt, by the number of attempts before it, without any jitter. -/
def delayBase (reconnection : Reconnection) (before : Nat) : Span :=
  let power := reconnection.factor.power (min before largestExponent)
  let seconds := reconnection.baseDelay.toSeconds.mul power
  let capped := seconds.min reconnection.longestDelay.toSeconds
  (Span.ofSeconds? (capped.max .zero)).getD reconnection.longestDelay

/-- The part of a delay that is varied, between zero and one. -/
def spread (reconnection : Reconnection) : Binary64 :=
  Binary64.clamp .zero .one reconnection.jitter

/-- The delay before an attempt, given the number between -1 and 1 that was drawn for it. -/
def delay (reconnection : Reconnection) (before : Nat) (drawn : Binary64) : Span :=
  let seconds := (reconnection.delayBase before).toSeconds
  if reconnection.spread.eq .zero then
    (Span.ofSeconds? seconds).getD reconnection.longestDelay
  else
    let varied := seconds.add ((seconds.mul reconnection.spread).mul drawn)
    (Span.ofSeconds? (varied.max .zero)).getD day

/-- Without jitter what is drawn does not matter. -/
theorem delay_of_no_jitter {reconnection : Reconnection}
    (still : reconnection.spread.eq .zero = true) (before : Nat) (first second : Binary64) :
    reconnection.delay before first = reconnection.delay before second := by
  simp [delay, still]

end EventFeed.Reconnection
