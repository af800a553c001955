/-
**Settings.**

What a monitor can be told: how long it waits for what, how large a frame may be, which heart-beats
it offers, how it reconnects, and how many events it keeps for its consumer. `defect?` is the first
setting that is out of its range.

* `defect?_standard`: the settings in force unless others are given are in range.
-/

import EventFeed.Numeral.Shortest
import EventFeed.Text.Quoted
import EventFeed.Wire.Frame
import EventFeed.Wire.HeartBeat

namespace EventFeed

open EventFeed.Numeral EventFeed.Time

/-- Why settings are refused: one that is needed is missing, or one has a value that it cannot
have. -/
inductive SettingError where
  | missing (key : String)
  | invalid (key value : String)
  deriving DecidableEq, Repr

namespace SettingError

def message : SettingError → String
  | .missing key => "missing required setting " ++ key
  | .invalid key value => "invalid value " ++ Text.quote value ++ " for " ++ key

end SettingError

/-- The heart-beats that are offered, and how many times longer than agreed the server may be
silent. -/
structure Pulse where
  outgoing : Span
  incoming : Span
  grace : Binary64
  deriving DecidableEq

/-- How the monitor reconnects: the delay before the first attempt, the longest delay, the factor
between delays, the part of a delay that is varied at random, the most attempts in a row, and how
long a session has to last for the attempts to be counted anew. -/
structure Reconnection where
  baseDelay : Span
  longestDelay : Span
  factor : Binary64
  jitter : Binary64
  mostAttempts : Option Nat
  stabilityWindow : Span
  deriving DecidableEq

/-- All settings of a monitor. -/
structure Settings where
  connectTimeout : Span
  handshakeTimeout : Span
  disconnectTimeout : Span
  frameLimit : Nat
  pulse : Pulse
  reconnection : Reconnection
  eventCapacity : Nat
  deriving DecidableEq

/-- The longest time that anything waits: a day. -/
def day : Span :=
  .ofSeconds 86400

namespace Pulse

/-- The heart-beats that are offered unless others are set. -/
def standard : Pulse where
  outgoing := .ofMillis 5000
  incoming := .ofMillis 5000
  grace := .ofNat 2

def offer (pulse : Pulse) : Wire.HeartBeat :=
  ⟨pulse.outgoing, pulse.incoming⟩

/-- How long the server may be silent at an agreed interval: never too long if there is none, and
else the interval times the grace, but never less than the interval. -/
def deadline? (pulse : Pulse) (agreed : Span) : Option Span :=
  if agreed.isZero then none
  else
    let seconds := agreed.toSeconds.mul (pulse.grace.max .one)
    some ((Span.ofSeconds? seconds).getD .longest)

/-- The grace is a finite number and not below one. -/
def defect? (pulse : Pulse) : Option SettingError :=
  if pulse.grace.isFinite && !pulse.grace.lt .one then none
  else some (.invalid "grace_multiplier" pulse.grace.plain)

end Pulse

namespace Reconnection

/-- How the monitor reconnects unless something else is set. -/
def standard : Reconnection where
  baseDelay := .ofMillis 500
  longestDelay := .ofSeconds 30
  factor := .ofNat 2
  jitter := .ofRatio false 2 10
  mostAttempts := none
  stabilityWindow := .ofSeconds 30

/-- The factor is a finite number and not below one, the jitter is below one and not negative, and
no delay is longer than a day. -/
def defect? (reconnection : Reconnection) : Option SettingError :=
  if !reconnection.factor.isFinite || reconnection.factor.lt .one then
    some (.invalid "backoff_factor" reconnection.factor.plain)
  else if !(Binary64.zero.le reconnection.jitter && reconnection.jitter.lt .one) then
    some (.invalid "jitter" reconnection.jitter.plain)
  else if day.nanos < reconnection.longestDelay.nanos then
    some (.invalid "max_delay" reconnection.longestDelay.text)
  else none

end Reconnection

namespace Settings

/-- The settings in force unless others are given. -/
def standard : Settings where
  connectTimeout := .ofSeconds 10
  handshakeTimeout := .ofSeconds 10
  disconnectTimeout := .ofSeconds 5
  frameLimit := Wire.defaultFrameLimit
  pulse := .standard
  reconnection := .standard
  eventCapacity := 64

/-- The first setting that is out of its range. -/
def defect? (settings : Settings) : Option SettingError :=
  if settings.eventCapacity = 0 then some (.invalid "event_buffer" "0")
  else if settings.frameLimit = 0 then some (.invalid "max_frame_size" "0")
  else settings.pulse.defect?.or settings.reconnection.defect?

/-- The settings if all of them are in range. -/
def checked (settings : Settings) : Except SettingError Settings :=
  match settings.defect? with
  | none => .ok settings
  | some error => .error error

/-- The settings in force unless others are given are in range. -/
theorem defect?_standard : standard.defect? = none := by
  decide +kernel

end Settings

end EventFeed
