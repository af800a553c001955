/-
**What a session says for itself.**

A session begins with a greeting that names the server's host, logs in if there is something to log
in with, and offers heart-beats; the server's answer settles the heart-beats of both. It ends with a
farewell that asks for a receipt, or with an error that the server reports.

* `agreed_of_silent`: a server that offers no heart-beats gets none.
-/

import EventFeed.Failure
import EventFeed.Settings.Environment

namespace EventFeed

open EventFeed.Wire (Frame HeartBeat)

/-- The frame with a header, unless its text is empty. -/
def withNonempty (frame : Frame) (name text : String) : Frame :=
  if text.isEmpty then frame else frame.withHeader name text

def greeting (endpoint : Endpoint) (credentials : Credentials) (offer : HeartBeat) : Frame :=
  let hello := (Frame.ofCommand .connect).withHeader Wire.Header.acceptVersion Wire.protocolVersion
    |>.withHeader Wire.Header.host endpoint.host
  let named := withNonempty hello Wire.Header.login credentials.login
  let proved := withNonempty named Wire.Header.passcode credentials.passcode
  proved.withHeader Wire.Header.heartBeat offer.headerValue

/-- The heart-beats that the server's answer offers; never if it offers none that can be read. -/
def offered (answer : Frame) : HeartBeat :=
  ((answer.header? Wire.Header.heartBeat).bind HeartBeat.read?).getD .never

/-- The heart-beats of a session, given our offer and the server's answer. -/
def agreed (offer : HeartBeat) (answer : Frame) : HeartBeat :=
  HeartBeat.negotiate offer (offered answer)

/-- The frame that ends a session, with the receipt that it asks for. -/
def farewell (receipt : String) : Frame :=
  (Frame.ofCommand .disconnect).withHeader Wire.Header.receipt receipt

/-- Whether a frame is the receipt of the given name. -/
def isReceipt (receipt : String) (frame : Frame) : Bool :=
  frame.command = .receipt && frame.header? Wire.Header.receiptId = some receipt

/-- The failure that an error of the server is. -/
def SessionError.ofServer (frame : Frame) : SessionError :=
  .server ((frame.header? Wire.Header.message).getD "server error") (Text.lossy frame.body)

/-- A server that offers no heart-beats gets none. -/
theorem agreed_of_silent {answer : Frame} (silent : answer.header? Wire.Header.heartBeat = none)
    (offer : HeartBeat) : agreed offer answer = .never := by
  have zero : Time.Span.zero.isZero = true := by decide
  simp [agreed, offered, silent, HeartBeat.negotiate, HeartBeat.agree, HeartBeat.never, zero]

end EventFeed
