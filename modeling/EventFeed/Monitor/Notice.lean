/-
**What a monitor tells its consumer.**

The consumer can look at the state of the connection at any time, and gets a notice of each change
and of what the server says about subscriptions. Notices wait in a mailbox of limited size; one that
finds it full is lost, and none is kept once the consumer has stopped receiving. There is no mailbox
beyond a certain size: the attempt to make one crashes.

* `make_of_capacity`: which mailboxes are made, and with what size;
* `waiting_offer`: a notice goes behind those that wait, or nowhere.
-/

import EventFeed.Failure

namespace EventFeed

open EventFeed.Numeral EventFeed.Time

/-- The state of the connection as the consumer sees it. -/
inductive ConnectionState where
  | disconnected
  | connecting
  | connected
  | reconnecting (attempt : Nat)
  | failed (reason : String)
  deriving DecidableEq, Repr

/-- A notice to the consumer. Subscriptions are told by their numbers. -/
inductive Notice where
  | stateChanged (state : ConnectionState)
  | retrying (attempt : Nat) (delay : Span)
  | confirmed (id : Nat) (destination : String)
  | rejected (id : Nat) (error : SubscriptionError)
  | serverError (message : String)
  deriving DecidableEq

/-- The notices that wait for the consumer, how many may wait, and whether the consumer still
receives. -/
structure Mailbox where
  waiting : List Notice
  capacity : Nat
  receiving : Bool
  deriving DecidableEq

namespace Mailbox

/-- An empty mailbox that holds so many notices, and one at least. Whether there can be one of that
size is for `make` to say. -/
def fresh (capacity : Nat) : Mailbox where
  waiting := []
  capacity := max capacity 1
  receiving := true

/-- The size of the largest mailbox: of the word that counts its free places three bits are used for
something else. -/
def largestCapacity : Nat :=
  wordBound / 8 - 1

/-- What is said of a mailbox that is too large. -/
def tooLarge : String :=
  "a semaphore may not have more than MAX_PERMITS permits (" ++ decimal largestCapacity ++ ")"

/-- A mailbox of the given size, or what is said when making it crashes. -/
def make (capacity : Nat) : Except String Mailbox :=
  if largestCapacity < max capacity 1 then .error tooLarge else .ok (fresh capacity)

/-- A mailbox is made exactly if it is not too large. -/
theorem make_of_capacity (capacity : Nat) :
    make capacity =
      if capacity ≤ largestCapacity then .ok (fresh capacity) else .error tooLarge := by
  have room : 1 ≤ largestCapacity := by decide
  unfold make
  by_cases fits : capacity ≤ largestCapacity
  · rw [if_pos fits, if_neg (Nat.not_lt.mpr (Nat.max_le.mpr ⟨fits, room⟩))]
  · have tooMany := Nat.lt_of_lt_of_le (Nat.lt_of_not_le fits) (Nat.le_max_left capacity 1)
    rw [if_neg fits, if_pos tooMany]

/-- Whether a notice that comes now is lost for want of room. -/
def isFull (mailbox : Mailbox) : Bool :=
  mailbox.receiving && mailbox.capacity ≤ mailbox.waiting.length

def offer (mailbox : Mailbox) (notice : Notice) : Mailbox :=
  if mailbox.receiving && !mailbox.isFull then
    { mailbox with waiting := mailbox.waiting ++ [notice] }
  else mailbox

def drain (mailbox : Mailbox) : List Notice × Mailbox :=
  (mailbox.waiting, { mailbox with waiting := [] })

def close (mailbox : Mailbox) : Mailbox :=
  { mailbox with waiting := [], receiving := false }

/-- A notice goes behind those that wait, or nowhere. -/
theorem waiting_offer (mailbox : Mailbox) (notice : Notice) :
    (mailbox.offer notice).waiting =
      if mailbox.receiving && !mailbox.isFull then mailbox.waiting ++ [notice]
      else mailbox.waiting := by
  unfold offer
  split <;> rfl

end Mailbox

end EventFeed
