/-
**Networks.**

An attempt to open a channel is answered after some time, or never. A network in which nothing can
be reached answers every attempt with the same failure; in any other it depends on whether someone
listens at the other end.

* `outcome_of_unreachable`: where nothing can be reached it does not matter who listens.
-/

import EventFeed.Channel.Basic

namespace EventFeed

open EventFeed.Time

/-- How an attempt to open a channel is answered. -/
inductive Answer where
  | accept (sink : SinkMode)
  | refuse (error : ChannelError)
  | never
  | crash (cause : String)
  deriving DecidableEq, Repr

/-- What becomes of an attempt to open a channel: an answer, after some time. -/
structure Outcome where
  delay : Span
  answer : Answer
  deriving DecidableEq

/-- A network: why nothing can be reached in it, if so, and whether someone listens at the other
end. -/
structure Network where
  unreachable : Option String
  listening : Bool
  deriving DecidableEq, Repr

namespace Network

def refusal : String := "Connection refused (os error 111)"

/-- What becomes of an attempt to open a channel. -/
def outcome (network : Network) : Outcome :=
  match network.unreachable with
  | some cause => ⟨.zero, .refuse (.unreachable cause)⟩
  | none =>
    ⟨.zero, if network.listening then .accept .accepting else .refuse (.unreachable refusal)⟩

/-- Where nothing can be reached it does not matter who listens. -/
theorem outcome_of_unreachable (cause : String) (first second : Bool) :
    (Network.mk (some cause) first).outcome = (Network.mk (some cause) second).outcome :=
  rfl

end Network

end EventFeed
