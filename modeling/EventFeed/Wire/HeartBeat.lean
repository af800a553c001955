/-
**Heart-beats.**

Each side of a session says how often it can send something and how often it wants to receive
something, in milliseconds; zero stands for never. The sides agree on an interval for each
direction: never if one of them says never, and else the longer of the two.

* `negotiate_comm`: the other side, agreeing on the same two offers, gets the same intervals with
  the directions swapped.
-/

import EventFeed.Time.Span
import EventFeed.Text.Blank

namespace EventFeed.Wire

open EventFeed.Numeral EventFeed.Time

/-- What one side offers: the interval at which it can send, and that at which it wants to
receive. -/
structure HeartBeat where
  outgoing : Span
  incoming : Span
  deriving DecidableEq

namespace HeartBeat

def never : HeartBeat :=
  ⟨.zero, .zero⟩

/-- The value of the header that tells the offer: both intervals in whole milliseconds. -/
def headerValue (offer : HeartBeat) : String :=
  decimal offer.outgoing.millis ++ "," ++ decimal offer.incoming.millis

/-- The offer that a header value tells: two natural numbers on either side of the first comma,
blanks around them allowed. -/
def read? (value : String) : Option HeartBeat :=
  match value.toList.dropWhile (· ≠ ',') with
  | [] => none
  | _ :: second => do
    let first := value.toList.takeWhile (· ≠ ',')
    let outgoing ← Numeral.read? wordBound (Text.trim (String.ofList first))
    let incoming ← Numeral.read? wordBound (Text.trim (String.ofList second))
    some ⟨.ofMillis outgoing, .ofMillis incoming⟩

/-- The interval of one direction: never if either side says never, else the longer one. -/
def agree (ours theirs : Span) : Span :=
  if ours.isZero || theirs.isZero then .zero else ours.max theirs

/-- The intervals that our side uses, given what both sides offer. -/
def negotiate (ours theirs : HeartBeat) : HeartBeat where
  outgoing := agree ours.outgoing theirs.incoming
  incoming := agree ours.incoming theirs.outgoing

theorem agree_comm (ours theirs : Span) : agree ours theirs = agree theirs ours := by
  obtain ⟨left, leftLt⟩ := ours
  obtain ⟨right, rightLt⟩ := theirs
  unfold agree Span.max
  rw [Bool.or_comm]
  dsimp only
  split
  · rfl
  · by_cases less : left ≤ right
    · by_cases more : right ≤ left
      · have same : left = right := Nat.le_antisymm less more
        subst same
        rfl
      · simp [less, more]
    · have more : right ≤ left := by omega
      simp [less, more]

/-- The other side gets the same intervals with the directions swapped. -/
theorem negotiate_comm (ours theirs : HeartBeat) :
    negotiate theirs ours =
      ⟨(negotiate ours theirs).incoming, (negotiate ours theirs).outgoing⟩ := by
  simp only [negotiate]
  rw [agree_comm theirs.outgoing, agree_comm theirs.incoming]

end HeartBeat

end EventFeed.Wire
