/-
**Frames.**

A frame is a command, headers and a body of any bytes. `encode` writes it: the token and a line end,
a line for each header, an empty line, the body and a zero byte. A heartbeat is a line end and
nothing else. The commands that open a session write their headers as they are; the others escape
names and values.

* `header?_withBody`: a frame that is given a body tells its length.
-/

import EventFeed.Wire.Command
import EventFeed.Wire.Escape
import EventFeed.Wire.Headers
import EventFeed.Text.Utf8
import EventFeed.Text.Blank
import EventFeed.Document.Printer
import EventFeed.Document.Reader

namespace EventFeed.Wire

open EventFeed.Numeral

def lineFeed : UInt8 := 0x0A

/-- The byte that may stand before the end of a line. -/
def carriageReturn : UInt8 := 0x0D

def terminator : UInt8 := 0x00

/-- The byte between the name and the value of a header. -/
def colon : UInt8 := 0x3A

/-- The version of the protocol that is spoken. -/
def protocolVersion : String := "1.2"

/-- The content type of every event payload. -/
def jsonType : String := "application/json"

/-- The largest number of bytes that are kept for one frame unless another is set: 16 MiB. -/
def defaultFrameLimit : Nat := 16777216

/-! ### The names of the headers in use -/

namespace Header

def acceptVersion : String := "accept-version"
def ack : String := "ack"
def contentLength : String := "content-length"
def contentType : String := "content-type"
def destination : String := "destination"
def heartBeat : String := "heart-beat"
def host : String := "host"
def id : String := "id"
def login : String := "login"
def message : String := "message"
def messageId : String := "message-id"
def passcode : String := "passcode"
def receipt : String := "receipt"
def receiptId : String := "receipt-id"
def session : String := "session"
def subscription : String := "subscription"
def transaction : String := "transaction"
def server : String := "server"
def version : String := "version"

def all : List String :=
  [acceptVersion, ack, contentLength, contentType, destination, heartBeat, host, id, login, message,
    messageId, passcode, receipt, receiptId, session, subscription, transaction, server, version]

end Header

structure Frame where
  command : Command
  headers : Headers
  body : List UInt8
  deriving DecidableEq

namespace Frame

def ofCommand (command : Command) : Frame where
  command := command
  headers := .empty
  body := []

/-- The frame that only shows that its sender is alive. -/
def heartbeat : Frame :=
  ofCommand .heartbeat

def isHeartbeat (frame : Frame) : Bool :=
  frame.command = .heartbeat

def header? (frame : Frame) (name : String) : Option String :=
  frame.headers.get? name

/-- The frame with one more header, in the place of one with its name. -/
def withHeader (frame : Frame) (name value : String) : Frame :=
  { frame with headers := frame.headers.insert name value }

/-- The frame with another body, whose length a header tells. -/
def withBody (frame : Frame) (body : List UInt8) : Frame :=
  { frame.withHeader Header.contentLength (decimal body.length) with body := body }

/-- The frame with a JSON value as its body. -/
def withJson (frame : Frame) (value : Document.Value) : Frame :=
  (frame.withHeader Header.contentType jsonType).withBody (Text.toBytes value.print)

def json (frame : Frame) : Except Document.ReadError Document.Value :=
  Document.read frame.body

/-- Whether the body is meant to be JSON: nothing is said about its type, or the type before any
semicolon is that of JSON, in any case. -/
def isJson (frame : Frame) : Bool :=
  match frame.header? Header.contentType with
  | none => true
  | some declared =>
    let type := Text.trimChars (declared.toList.takeWhile (· ≠ ';'))
    String.ofList (type.map Char.toLower) = jsonType

/-- A name or a value as the command's frames write it. -/
def headerText (command : Command) (text : String) : String :=
  if command.escapes then escape text else text

def headerLine (command : Command) (name value : String) : List UInt8 :=
  Text.toBytes (headerText command name) ++
    colon :: Text.toBytes (headerText command value) ++ [lineFeed]

def encode (frame : Frame) : List UInt8 :=
  if frame.isHeartbeat then [lineFeed]
  else
    Text.toBytes frame.command.token ++ lineFeed ::
      frame.headers.pairs.flatMap (fun pair => headerLine frame.command pair.1 pair.2) ++
      lineFeed :: frame.body ++ [terminator]

/-- A frame that is given a body tells its length. -/
theorem header?_withBody (frame : Frame) (body : List UInt8) :
    (frame.withBody body).header? Header.contentLength = some (decimal body.length) := by
  simp [withBody, withHeader, header?, Headers.get?_insert]

end Frame

/-! ### What a frame has to have -/

/-- What a frame lacks: a header that its command asks for, or the right content length. -/
inductive Defect where
  | missingHeader (command : Command) (header : String)
  | lengthMismatch (declared : String) (actual : Nat)
  deriving DecidableEq, Repr

namespace Defect

def message : Defect → String
  | .missingHeader command header =>
    command.token ++ " frame missing required header " ++ Text.quote header
  | .lengthMismatch declared actual =>
    "content-length " ++ declared ++ " does not match body length " ++ decimal actual

end Defect

/-- The headers that a command asks for, in the order in which they are looked for. -/
def Command.required : Command → List String
  | .connect | .stomp => [Header.acceptVersion, Header.host]
  | .send => [Header.destination]
  | .subscribe => [Header.destination, Header.id]
  | .unsubscribe | .ack | .nack => [Header.id]
  | .begin | .commit | .abort => [Header.transaction]
  | .receipt => [Header.receiptId]
  | .message => [Header.destination, Header.messageId, Header.subscription]
  | .connected | .disconnect | .error | .heartbeat => []

namespace Frame

/-- The first defect of a frame, if it has one. A content length has to be exactly that of the body,
without blanks around it. -/
def defect? (frame : Frame) : Option Defect :=
  match frame.command.required.find? fun name => !frame.headers.contains name with
  | some missing => some (.missingHeader frame.command missing)
  | none =>
    match frame.header? Header.contentLength with
    | none => none
    | some declared =>
      if read? wordBound declared = some frame.body.length then none
      else some (.lengthMismatch declared frame.body.length)

def isValid (frame : Frame) : Bool :=
  frame.defect?.isNone

/-- A frame that may be sent has every header that its command asks for. -/
theorem contains_of_isValid {frame : Frame} (valid : frame.isValid = true) {name : String}
    (asked : name ∈ frame.command.required) : frame.headers.contains name = true := by
  unfold isValid defect? at valid
  cases found : frame.command.required.find? fun name => !frame.headers.contains name with
  | some missing => simp [found] at valid
  | none => simpa using List.find?_eq_none.mp found name asked

end Frame

end EventFeed.Wire
