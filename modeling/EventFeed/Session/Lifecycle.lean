/-
**The lifecycle of a session.**

A session opens a channel, shakes hands, is connected, disconnects and is closed; a fault makes it
fail from wherever it is. What does not fit the stage changes nothing. A session that is closed
or has failed is over.

* `next?_of_final`: nothing happens to a session that is over;
* `next?_fault`: a fault ends every session that is not over.
-/

namespace EventFeed

/-- The stage that a session has reached. -/
inductive Stage where
  | idle
  | opening
  | shakingHands
  | connected
  | disconnecting
  | closed
  | failed
  deriving DecidableEq, Repr

/-- What happens to a session. -/
inductive Happening where
  | start
  | channelReady
  | handshakeAcknowledged
  | teardownRequested
  | closeComplete
  | fault
  deriving DecidableEq, Repr

namespace Stage

def isFinal : Stage → Bool
  | .closed | .failed => true
  | _ => false

/-- The stage after a happening, if it fits. -/
def next? (stage : Stage) (happening : Happening) : Option Stage :=
  match stage, happening with
  | .idle, .start => some .opening
  | .opening, .channelReady => some .shakingHands
  | .shakingHands, .handshakeAcknowledged => some .connected
  | .connected, .teardownRequested => some .disconnecting
  | .disconnecting, .closeComplete => some .closed
  | .idle, .teardownRequested => some .closed
  | .opening, .teardownRequested => some .closed
  | .shakingHands, .teardownRequested => some .closed
  | stage, .fault => if stage.isFinal then none else some .failed
  | _, _ => none

/-- Nothing happens to a session that is over. -/
theorem next?_of_final {stage : Stage} (final : stage.isFinal = true) (happening : Happening) :
    stage.next? happening = none := by
  cases stage <;> cases happening <;> first | rfl | cases final

/-- A fault ends every session that is not over. -/
theorem next?_fault {stage : Stage} (live : stage.isFinal = false) :
    stage.next? .fault = some .failed := by
  cases stage <;> first | rfl | cases live

end Stage

/-- A session: its stage, the name that the server gave it, and when the last heart-beats were sent
and received, in nanoseconds. -/
structure Session where
  stage : Stage
  name : Option String
  lastSent : Option Nat
  lastReceived : Option Nat
  deriving DecidableEq

namespace Session

/-- A session to which nothing has happened. -/
def fresh : Session where
  stage := .idle
  name := none
  lastSent := none
  lastReceived := none

/-- The session after a happening, which changes nothing if it does not fit. -/
def advance (session : Session) (happening : Happening) : Session :=
  { session with stage := (session.stage.next? happening).getD session.stage }

end Session

end EventFeed
