/-
**Endpoints.**

The endpoint of a feed is an address with the scheme `ws`, or `wss` for a secure connection, and a
host. The host is told to the server.

* `ofText?_url`: an endpoint keeps the text it was read from.
-/

import EventFeed.Endpoint.Address
import EventFeed.Text.Utf8
import EventFeed.Text.Quoted

namespace EventFeed

/-- Why a text is no endpoint. -/
inductive EndpointFault where
  | malformed
  | missingScheme
  | foreignScheme
  | missingHost
  deriving DecidableEq, Repr

namespace EndpointFault

def reason : EndpointFault → String
  | .malformed => "malformed URL"
  | .missingScheme => "missing scheme"
  | .foreignScheme => "scheme must be ws or wss"
  | .missingHost => "missing host"

end EndpointFault

/-- The endpoint of a feed. -/
structure Endpoint where
  url : String
  host : String
  secure : Bool
  deriving DecidableEq, Repr

namespace Endpoint

/-- Whether a scheme is that of a secure feed; none for a scheme that is not a feed's. -/
def isSecureScheme? (scheme : List UInt8) : Option Bool :=
  if scheme = Text.toBytes "wss" then some true
  else if scheme = Text.toBytes "ws" then some false
  else none

def ofText? (url : String) : Except EndpointFault Endpoint :=
  match Address.ofBytes? (Text.toBytes url) with
  | none => .error .malformed
  | some address =>
    match address.scheme with
    | none => .error .missingScheme
    | some scheme =>
      match isSecureScheme? scheme with
      | none => .error .foreignScheme
      | some secure =>
        if address.host.isEmpty then .error .missingHost
        else .ok ⟨url, Text.lossy address.host, secure⟩

/-- An endpoint keeps the text it was read from. -/
theorem ofText?_url {url : String} {endpoint : Endpoint} (read : ofText? url = .ok endpoint) :
    endpoint.url = url := by
  unfold ofText? at read
  split at read
  · cases read
  split at read
  · cases read
  split at read
  · cases read
  split at read
  · cases read
  · cases read
    rfl

end Endpoint

end EventFeed
