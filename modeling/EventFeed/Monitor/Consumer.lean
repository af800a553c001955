/-
**Consumers and what can be seen of a monitor.**

A consumer subscribes under names of its own and does something with each event that reaches it.
What can be seen from outside, by the consumer or on the network, is a list of occurrences in the
order in which they happen.

* `child_injective`: the subscriptions that a consumer makes for different events have different
  names.
-/

import EventFeed.Channel.Basic
import EventFeed.Subscription.Delivery

namespace EventFeed

open EventFeed.Numeral

/-- What is done with an event. -/
inductive Reaction where
  | ignore
  | note
  /-- It is noted, with the payload read as a record of the named texts. -/
  | read (names : List String)
  /-- It is noted, and then the callback crashes. -/
  | crash
  /-- It is noted, and then a subscription is given up. -/
  | unsubscribe (name : String)
  /-- It is noted, and then its number is sent somewhere. -/
  | reply (destination : String)
  /-- It is noted, and then one more subscription is made. -/
  | subscribe (destination : String)
  deriving DecidableEq, Repr

/-- A consumer's subscription: its name, and what is done with its events. -/
structure Consumer where
  name : String
  reaction : Reaction
  deriving DecidableEq, Repr

namespace Consumer

/-- The name of the subscription that a consumer makes for an event. -/
def child (consumer : Consumer) (event : Event) : String :=
  consumer.name ++ "/" ++ decimal event.sequence

def answer (event : Event) : Document.Value :=
  .object [("seq", .integer event.sequence)]

/-- The subscriptions that a consumer makes for different events have different names. -/
theorem child_injective (consumer : Consumer) {first second : Event}
    (same : consumer.child first = consumer.child second) : first.sequence = second.sequence := by
  have digits : decimal first.sequence = decimal second.sequence := by
    simpa [child, ← String.toList_inj] using same
  exact decimal_injective digits

end Consumer

/-- Something that can be seen. Channels are told by their numbers, the first being zero. -/
inductive Occurrence where
  | dialed (attempt : Nat) (url : String)
  | wrote (channel : Nat) (chunk : List UInt8)
  | closed (channel : Nat)
  | delivered (consumer : Consumer) (event : Event)
  /-- A consumer gave up a subscription; none if it never had one of that name. -/
  | gaveUp (name : String) (found : Option Bool)
  | sent (name : String) (result : Except MonitorError Unit)
  /-- A consumer made one more subscription. -/
  | subscribed (name : String) (result : Except SubscriptionError String)
  | refused (error : PayloadError) (destination messageId : String)
  | crashed (destination : String) (sequence : Nat)
  | lost
  | stopped (number : Nat) (result : Except MonitorError Unit)

end EventFeed
