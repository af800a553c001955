/-
**Messages.**

A channel over a WebSocket carries messages. Bytes are sent as one message, a text if they are one.
Of the messages that come, texts and binary ones are handed on as bytes, pings and pongs are passed
over, a closing message says that the channel is closed, and one that is longer than allowed is an
error.

* `bytes_ofBytes`: what is sent arrives as it was;
* `arrival?_ofBytes`: what is sent and not too long is handed on.
-/

import EventFeed.Channel.Basic
import EventFeed.Text.Utf8

namespace EventFeed

open EventFeed.Numeral

inductive Message where
  | text (content : String)
  | binary (content : List UInt8)
  | ping (content : List UInt8)
  | pong (content : List UInt8)
  | closing
  deriving DecidableEq, Repr

namespace Message

def ofBytes (bytes : List UInt8) : Message :=
  match Text.ofBytes? bytes with
  | some content => .text content
  | none => .binary bytes

def bytes : Message → List UInt8
  | .text content => Text.toBytes content
  | .binary content | .ping content | .pong content => content
  | .closing => []

def tooLong (length limit : Nat) : String :=
  "Space limit exceeded: Message too long: " ++ decimal length ++ " > " ++ decimal limit

/-- What a message is for the one who reads the channel, if it is anything. -/
def arrival? (limit : Nat) (message : Message) : Option Arrival :=
  match message with
  | .ping _ | .pong _ => none
  | .closing => some (.error .closed)
  | .text _ | .binary _ =>
    let length := message.bytes.length
    if limit < length then some (.error (.webSocket (tooLong length limit)))
    else some (.ok message.bytes)

theorem bytes_ofBytes (content : List UInt8) : (ofBytes content).bytes = content := by
  unfold ofBytes
  split
  · rename_i text valid
    exact Text.toBytes_of_ofBytes? valid
  · rfl

/-- What is sent and not too long is handed on. -/
theorem arrival?_ofBytes {limit : Nat} {content : List UInt8} (fits : content.length ≤ limit) :
    (ofBytes content).arrival? limit = some (.ok content) := by
  have carried := bytes_ofBytes content
  unfold ofBytes at carried ⊢
  split at carried <;> simp only [arrival?, carried] <;> rw [if_neg (by omega)]

end Message

end EventFeed
