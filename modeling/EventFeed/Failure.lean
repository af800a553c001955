/-
**What can go wrong.**

Each part of the client has its own causes of failure, and `message` says what is told of each. A
channel fails, and then the session on it; a session fails for reasons of its own as well; a monitor
reports what its consumer asked for and did not get. A message that is no event is never more than
dropped.
-/

import EventFeed.Endpoint.Basic
import EventFeed.Wire.Decoder
import EventFeed.Time.Span

namespace EventFeed

open EventFeed.Numeral EventFeed.Time

/-- Why a channel cannot be opened or used. -/
inductive ChannelError where
  | badEndpoint (url reason : String)
  | unreachable (cause : String)
  | insecure (cause : String)
  | webSocket (cause : String)
  | timedOut
  | closed
  deriving DecidableEq, Repr

namespace ChannelError

def message : ChannelError → String
  | .badEndpoint url reason => "invalid endpoint " ++ Text.quote url ++ ": " ++ reason
  | .unreachable cause => "could not connect: " ++ cause
  | .insecure cause => "TLS handshake failed: " ++ cause
  | .webSocket cause => "WebSocket error: " ++ cause
  | .timedOut => "connection timed out"
  | .closed => "connection closed"

/-- The failure of a text that is no endpoint. -/
def ofEndpointFault (url : String) (fault : EndpointFault) : ChannelError :=
  .badEndpoint url fault.reason

end ChannelError

/-- Why a session failed. -/
inductive SessionError where
  | channel (error : ChannelError)
  | undecodable (error : Wire.DecodeError)
  | handshakeTimeout (limit : Span)
  | silence (limit : Span)
  | server (message : String) (body : String)
  | unexpectedFrame (command : Wire.Command)
  deriving DecidableEq

namespace SessionError

def message : SessionError → String
  | .channel error => error.message
  | .undecodable error => error.message
  | .handshakeTimeout limit => "no CONNECTED frame within " ++ limit.text
  | .silence limit => "no data from server within " ++ limit.text
  | .server message _ => "server error: " ++ message
  | .unexpectedFrame command => "unexpected " ++ command.token ++ " frame during handshake"

/-- What the server said when it ended the session, if it did. -/
def serverMessage? : SessionError → Option String
  | .server message _ => some message
  | _ => none

end SessionError

/-- Why a message is no event. -/
inductive PayloadError where
  | missingDestination
  | contentType (declared : String)
  | unreadable (error : Document.ReadError)
  | notAnObject
  deriving DecidableEq, Repr

namespace PayloadError

def message : PayloadError → String
  | .missingDestination => "MESSAGE frame without destination"
  | .contentType declared => "unexpected content type " ++ Text.quote declared
  | .unreadable _ => "malformed JSON payload"
  | .notAnObject => "payload is not a JSON object"

end PayloadError

/-- Why there is no subscription. -/
inductive SubscriptionError where
  | blankDestination
  | rejected (destination message : String)
  deriving DecidableEq, Repr

namespace SubscriptionError

def message : SubscriptionError → String
  | .blankDestination => "destination must not be empty"
  | .rejected destination message =>
    "server rejected subscription to " ++ destination ++ ": " ++ message

end SubscriptionError

/-- All attempts to reconnect are used up. -/
structure GaveUp where
  attempts : Nat
  lastError : String
  deriving DecidableEq, Repr

namespace GaveUp

/-- What is said when there are no attempts left. -/
def message (gaveUp : GaveUp) : String :=
  "gave up after " ++ decimal gaveUp.attempts ++ " reconnection attempts: " ++ gaveUp.lastError

end GaveUp

/-- Why a monitor did not do what was asked. -/
inductive MonitorError where
  | alreadyRunning
  | broken (cause : String)
  | notConnected
  | gaveUp (cause : GaveUp)
  | subscription (error : SubscriptionError)
  | unserializable (cause : String)
  deriving DecidableEq, Repr

namespace MonitorError

def message : MonitorError → String
  | .alreadyRunning => "monitor is already running"
  | .broken cause => "monitor task panicked: " ++ cause
  | .notConnected => "not connected"
  | .gaveUp cause => cause.message
  | .subscription error => error.message
  | .unserializable cause => "JSON error: " ++ cause

end MonitorError

end EventFeed
