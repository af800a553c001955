/-
**One setting at a time.**

There are fourteen settings, each of one of four kinds. A knob stands for one of them: it can be
looked at and turned, and a text can be read as a value of its kind.

* `get_put`: a setting is what it was turned to;
* `get_put_of_ne`: turning one knob leaves the others alone;
* `put_get`: turning a knob to where it stands changes nothing.
-/

import EventFeed.Numeral.Decimal
import EventFeed.Settings.Basic
import EventFeed.Text.Blank

namespace EventFeed

open EventFeed.Numeral EventFeed.Time

/-- The kinds of settings: a time, a size, a factor, and a limit that may be absent. -/
inductive Kind where
  | span
  | size
  | factor
  | limit
  deriving DecidableEq, Repr

namespace Kind

abbrev Value : Kind → Type
  | .span => Span
  | .size => Nat
  | .factor => Binary64
  | .limit => Option Nat

/-- The value of a kind that a text writes; times are written in milliseconds. -/
def read? (kind : Kind) (text : String) : Option kind.Value :=
  match kind with
  | .span => (Numeral.read? wordBound text).map .ofMillis
  | .size => Numeral.read? wordBound text
  | .factor => Binary64.read? text
  | .limit => (Numeral.read? attemptBound text).map some

end Kind

/-- One of the settings. -/
inductive Knob where
  | connectTimeout
  | handshakeTimeout
  | disconnectTimeout
  | frameLimit
  | eventCapacity
  | outgoing
  | incoming
  | grace
  | baseDelay
  | longestDelay
  | factor
  | jitter
  | mostAttempts
  | stabilityWindow
  deriving DecidableEq, Repr

namespace Knob

/-- All settings, in the order in which they are read. -/
def all : List Knob :=
  [.connectTimeout, .handshakeTimeout, .disconnectTimeout, .frameLimit, .eventCapacity, .outgoing,
    .incoming, .grace, .baseDelay, .longestDelay, .factor, .jitter, .mostAttempts, .stabilityWindow]

abbrev kind : Knob → Kind
  | .frameLimit | .eventCapacity => .size
  | .grace | .factor | .jitter => .factor
  | .mostAttempts => .limit
  | _ => .span

def get (knob : Knob) (settings : Settings) : knob.kind.Value :=
  match knob with
  | .connectTimeout => settings.connectTimeout
  | .handshakeTimeout => settings.handshakeTimeout
  | .disconnectTimeout => settings.disconnectTimeout
  | .frameLimit => settings.frameLimit
  | .eventCapacity => settings.eventCapacity
  | .outgoing => settings.pulse.outgoing
  | .incoming => settings.pulse.incoming
  | .grace => settings.pulse.grace
  | .baseDelay => settings.reconnection.baseDelay
  | .longestDelay => settings.reconnection.longestDelay
  | .factor => settings.reconnection.factor
  | .jitter => settings.reconnection.jitter
  | .mostAttempts => settings.reconnection.mostAttempts
  | .stabilityWindow => settings.reconnection.stabilityWindow

/-- The settings with another value of one of them. -/
def put (knob : Knob) (settings : Settings) (value : knob.kind.Value) : Settings :=
  let pulse := settings.pulse
  let reconnection := settings.reconnection
  match knob with
  | .connectTimeout => { settings with connectTimeout := value }
  | .handshakeTimeout => { settings with handshakeTimeout := value }
  | .disconnectTimeout => { settings with disconnectTimeout := value }
  | .frameLimit => { settings with frameLimit := value }
  | .eventCapacity => { settings with eventCapacity := value }
  | .outgoing => { settings with pulse := { pulse with outgoing := value } }
  | .incoming => { settings with pulse := { pulse with incoming := value } }
  | .grace => { settings with pulse := { pulse with grace := value } }
  | .baseDelay => { settings with reconnection := { reconnection with baseDelay := value } }
  | .longestDelay => { settings with reconnection := { reconnection with longestDelay := value } }
  | .factor => { settings with reconnection := { reconnection with factor := value } }
  | .jitter => { settings with reconnection := { reconnection with jitter := value } }
  | .mostAttempts => { settings with reconnection := { reconnection with mostAttempts := value } }
  | .stabilityWindow =>
    { settings with reconnection := { reconnection with stabilityWindow := value } }

theorem get_put (knob : Knob) (settings : Settings) (value : knob.kind.Value) :
    knob.get (knob.put settings value) = value := by
  cases knob <;> rfl

/-- Turning one knob leaves the others alone. -/
theorem get_put_of_ne {knob other : Knob} (different : other ≠ knob) (settings : Settings)
    (value : knob.kind.Value) : other.get (knob.put settings value) = other.get settings := by
  cases knob <;> cases other <;> first | rfl | exact absurd rfl different

/-- Turning a knob to where it stands changes nothing. -/
theorem put_get (knob : Knob) (settings : Settings) :
    knob.put settings (knob.get settings) = settings := by
  cases knob <;> rfl

end Knob

end EventFeed
