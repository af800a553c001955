/-
**Frame commands.**

A frame begins with the token of its command. A heartbeat is a bare line end and has no token, so it
is never read from one. The frames that open a session carry their headers as they are; all others
escape them.

* `ofToken?_token`: every command but the heartbeat is read back from its token;
* `token_of_ofToken?`: a token is read as the command that writes it.
-/

import EventFeed.Text.Quoted

namespace EventFeed.Wire

/-- The command of a frame. -/
inductive Command where
  | connect
  | stomp
  | send
  | subscribe
  | unsubscribe
  | ack
  | nack
  | begin
  | commit
  | abort
  | disconnect
  | connected
  | message
  | receipt
  | error
  | heartbeat
  deriving DecidableEq, Repr

namespace Command

/-- The commands that have a token, those of clients first. -/
def written : List Command :=
  [.connect, .stomp, .send, .subscribe, .unsubscribe, .ack, .nack, .begin, .commit, .abort,
    .disconnect, .connected, .message, .receipt, .error]

/-- The token of a command; nothing for a heartbeat. -/
def token : Command → String
  | .connect => "CONNECT"
  | .stomp => "STOMP"
  | .send => "SEND"
  | .subscribe => "SUBSCRIBE"
  | .unsubscribe => "UNSUBSCRIBE"
  | .ack => "ACK"
  | .nack => "NACK"
  | .begin => "BEGIN"
  | .commit => "COMMIT"
  | .abort => "ABORT"
  | .disconnect => "DISCONNECT"
  | .connected => "CONNECTED"
  | .message => "MESSAGE"
  | .receipt => "RECEIPT"
  | .error => "ERROR"
  | .heartbeat => ""

def name (command : Command) : String :=
  if command = .heartbeat then "HEARTBEAT" else command.token

/-- Whether the headers of the command's frames are escaped. -/
def escapes : Command → Bool
  | .connect | .stomp | .connected | .heartbeat => false
  | _ => true

def ofToken? (token : String) : Option Command :=
  written.find? fun command => command.token = token

def unknownMessage (token : String) : String :=
  "unrecognized command: " ++ Text.quote token

/-- Every command but the heartbeat is read back from its token. -/
theorem ofToken?_token {command : Command} (isWritten : command ≠ .heartbeat) :
    ofToken? command.token = some command := by
  cases command <;> first | rfl | exact absurd rfl isWritten

/-- A token is read as the command that writes it. -/
theorem token_of_ofToken? {token : String} {command : Command}
    (read : ofToken? token = some command) : command.token = token := by
  simpa using List.find?_some read

end Command

end EventFeed.Wire
