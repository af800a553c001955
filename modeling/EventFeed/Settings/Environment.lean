/-
**Settings from an environment.**

An environment gives texts to variables. Each setting has a variable of its own, and they are read
in the order of the settings; blanks around a value are left out. The first value that cannot be
read is the fault, and after that the first setting out of its range.

* `assign_of_absent`: a variable that is not there changes nothing.
-/

import EventFeed.Endpoint.Basic
import EventFeed.Settings.Knob

namespace EventFeed

open EventFeed.Numeral EventFeed.Time

/-- An environment: the text of each variable that is there. -/
abbrev Environment := String → Option String

namespace Knob

def variableName : Knob → String
  | .connectTimeout => "NETWORK_MONITOR_CONNECT_TIMEOUT_MS"
  | .handshakeTimeout => "NETWORK_MONITOR_HANDSHAKE_TIMEOUT_MS"
  | .disconnectTimeout => "NETWORK_MONITOR_DISCONNECT_TIMEOUT_MS"
  | .frameLimit => "NETWORK_MONITOR_MAX_FRAME_SIZE"
  | .eventCapacity => "NETWORK_MONITOR_EVENT_BUFFER"
  | .outgoing => "NETWORK_MONITOR_HEARTBEAT_OUTGOING_MS"
  | .incoming => "NETWORK_MONITOR_HEARTBEAT_INCOMING_MS"
  | .grace => "NETWORK_MONITOR_HEARTBEAT_GRACE"
  | .baseDelay => "NETWORK_MONITOR_RECONNECT_BASE_MS"
  | .longestDelay => "NETWORK_MONITOR_RECONNECT_MAX_MS"
  | .factor => "NETWORK_MONITOR_RECONNECT_FACTOR"
  | .jitter => "NETWORK_MONITOR_RECONNECT_JITTER"
  | .mostAttempts => "NETWORK_MONITOR_RECONNECT_MAX_ATTEMPTS"
  | .stabilityWindow => "NETWORK_MONITOR_STABILITY_WINDOW_MS"

/-- The settings with one of them as the environment has it. -/
def assign (environment : Environment) (settings : Settings) (knob : Knob) :
    Except SettingError Settings :=
  match environment knob.variableName with
  | none => .ok settings
  | some text =>
    match knob.kind.read? (Text.trim text) with
    | some value => .ok (knob.put settings value)
    | none => .error (.invalid knob.variableName text)

/-- A variable that is not there changes nothing. -/
theorem assign_of_absent {environment : Environment} {knob : Knob}
    (absent : environment knob.variableName = none) (settings : Settings) :
    assign environment settings knob = .ok settings := by
  simp [assign, absent]

end Knob

namespace Settings

/-- The settings with those that the environment gives, before their ranges are looked at. -/
def overlaid (environment : Environment) : Except SettingError Settings :=
  Knob.all.foldlM (Knob.assign environment) standard

/-- The settings that an environment gives. -/
def ofEnvironment (environment : Environment) : Except SettingError Settings := do
  (← overlaid environment).checked

end Settings

/-- What the client logs in with; nothing is sent for an empty text. -/
structure Credentials where
  login : String
  passcode : String
  deriving DecidableEq, Repr

namespace Credentials

def empty : Credentials := ⟨"", ""⟩

/-- The credentials that an environment gives. -/
def ofEnvironment (environment : Environment) : Credentials where
  login := (environment "NETWORK_MONITOR_USERNAME").getD ""
  passcode := (environment "NETWORK_MONITOR_PASSWORD").getD ""

end Credentials

namespace Endpoint

def variableName : String := "NETWORK_MONITOR_URL"

/-- The endpoint that an environment gives. -/
def ofEnvironment (environment : Environment) : Except SettingError Endpoint :=
  match environment variableName with
  | none => .error (.missing variableName)
  | some url =>
    match ofText? url with
    | .ok endpoint => .ok endpoint
    | .error _ => .error (.invalid variableName url)

end Endpoint

end EventFeed
