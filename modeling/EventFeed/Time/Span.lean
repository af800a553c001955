/-
**Spans of time.**

A span is a whole number of nanoseconds below 2 ^ 64 seconds. It becomes a double count of seconds
and comes back from one, both times rounded to the nearest, a half to the even neighbour; a
negative count of seconds, one of 2 ^ 64 and more, and no number are no spans.

* `ofNanos_nanos`: a count that fits is kept;
* `ofMillis_millis`: a span of whole milliseconds has that many.
-/

import EventFeed.Numeral.Binary64
import EventFeed.Numeral.Natural

namespace EventFeed.Time

open EventFeed.Numeral

def nanosPerSecond : Nat := 1000000000

/-- The number of nanoseconds in a millisecond. -/
def nanosPerMilli : Nat := 1000000

/-- The number of nanoseconds in a microsecond. -/
def nanosPerMicro : Nat := 1000

/-- One more than the number of nanoseconds in the longest span. -/
def nanosBound : Nat := 18446744073709551616000000000

/-- A span of time in nanoseconds. -/
structure Span where
  nanos : Nat
  nanos_lt : nanos < nanosBound
  deriving DecidableEq

namespace Span

/-- The span of that many nanoseconds, or the longest one. -/
def ofNanos (nanos : Nat) : Span where
  nanos := min nanos (nanosBound - 1)
  nanos_lt := by unfold nanosBound; omega

/-- The span of that many milliseconds, or the longest one. -/
def ofMillis (millis : Nat) : Span :=
  ofNanos (millis * nanosPerMilli)

/-- The span of that many seconds, or the longest one. -/
def ofSeconds (seconds : Nat) : Span :=
  ofNanos (seconds * nanosPerSecond)

def zero : Span :=
  ofNanos 0

def longest : Span :=
  ofNanos nanosBound

def millis (span : Span) : Nat :=
  span.nanos / nanosPerMilli

def isZero (span : Span) : Bool :=
  span.nanos = 0

def min (left right : Span) : Span :=
  if left.nanos ≤ right.nanos then left else right

def max (left right : Span) : Span :=
  if left.nanos ≤ right.nanos then right else left

/-- The number of seconds as a double: the whole seconds and the rest, rounded one by one and
added. -/
def toSeconds (span : Span) : Binary64 :=
  let whole := Binary64.ofNat (span.nanos / nanosPerSecond)
  let rest := Binary64.ofNat (span.nanos % nanosPerSecond)
  Binary64.add whole (Binary64.div rest (Binary64.ofNat nanosPerSecond))

/-- The span nearest to a count of seconds. -/
def ofSeconds? : Binary64 → Option Span
  | .nan | .infinite _ => none
  | .finite negative magnitude =>
    let nanos := roundEven (magnitude.units * nanosPerSecond) unitsPerOne
    if negative ∧ magnitude.units ≠ 0 then none
    else if fits : nanos < nanosBound then some ⟨nanos, fits⟩
    else none

/-- A count in a unit of `scale` parts: the whole units, and the parts as a decimal fraction without
zeros at its end. `places` is the number of digits that `scale` parts have. -/
def inUnit (parts scale places : Nat) (unit : String) : String :=
  let fraction := Nat.toDigits 10 (parts % scale)
  let padded := List.replicate (places - fraction.length) '0' ++ fraction
  let shown := (padded.reverse.dropWhile (· == '0')).reverse
  let point := if shown.isEmpty then [] else '.' :: shown
  decimal (parts / scale) ++ String.ofList point ++ unit

/-- A span in a message: in the largest of second, millisecond, microsecond and nanosecond that it
reaches. -/
def text (span : Span) : String :=
  if nanosPerSecond ≤ span.nanos then inUnit span.nanos nanosPerSecond 9 "s"
  else if nanosPerMilli ≤ span.nanos then inUnit span.nanos nanosPerMilli 6 "ms"
  else if nanosPerMicro ≤ span.nanos then inUnit span.nanos nanosPerMicro 3 "µs"
  else decimal span.nanos ++ "ns"

/-- Spans of as many nanoseconds are the same. -/
theorem nanos_injective {first second : Span} (same : first.nanos = second.nanos) :
    first = second := by
  cases first
  cases second
  cases same
  rfl

/-- A count of nanoseconds that fits is kept. -/
theorem ofNanos_nanos {nanos : Nat} (fits : nanos < nanosBound) :
    (ofNanos nanos).nanos = nanos := by
  simp only [ofNanos]
  omega

/-- A span of whole milliseconds has that many. -/
theorem ofMillis_millis {millis : Nat} (fits : millis < wordBound) :
    (ofMillis millis).millis = millis := by
  rw [wordBound, Nat.pow_eq] at fits
  have small : millis * nanosPerMilli < nanosBound := by
    unfold nanosPerMilli nanosBound
    omega
  rw [Span.millis, ofMillis, ofNanos_nanos small]
  exact Nat.mul_div_cancel _ (by decide)

end Span

end EventFeed.Time
