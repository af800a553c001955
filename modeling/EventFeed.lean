import EventFeed.Channel.Basic
import EventFeed.Channel.Message
import EventFeed.Channel.Network
import EventFeed.Document.Number
import EventFeed.Document.Printer
import EventFeed.Document.Reader
import EventFeed.Document.Record
import EventFeed.Document.Token
import EventFeed.Document.Value
import EventFeed.Endpoint.Address
import EventFeed.Endpoint.Basic
import EventFeed.Failure
import EventFeed.Identifier
import EventFeed.Monitor.Consumer
import EventFeed.Monitor.Control
import EventFeed.Monitor.Keeper
import EventFeed.Monitor.Notice
import EventFeed.Monitor.Schedule
import EventFeed.Monitor.World
import EventFeed.Numeral.Binary64
import EventFeed.Numeral.Decimal
import EventFeed.Numeral.Digits
import EventFeed.Numeral.Natural
import EventFeed.Numeral.Shortest
import EventFeed.Proofs.Monitor.Absorption
import EventFeed.Proofs.Monitor.Aftermath
import EventFeed.Proofs.Monitor.Attempts
import EventFeed.Proofs.Monitor.Berths
import EventFeed.Proofs.Monitor.Calls
import EventFeed.Proofs.Monitor.Careers
import EventFeed.Proofs.Monitor.ClientFrames
import EventFeed.Proofs.Monitor.Course
import EventFeed.Proofs.Monitor.Deeds
import EventFeed.Proofs.Monitor.Departures
import EventFeed.Proofs.Monitor.Diary
import EventFeed.Proofs.Monitor.Discipline
import EventFeed.Proofs.Monitor.Errands
import EventFeed.Proofs.Monitor.Fanout
import EventFeed.Proofs.Monitor.Hearing
import EventFeed.Proofs.Monitor.Intake
import EventFeed.Proofs.Monitor.Interleaving
import EventFeed.Proofs.Monitor.Losses
import EventFeed.Proofs.Monitor.Moorings
import EventFeed.Proofs.Monitor.Outline
import EventFeed.Proofs.Monitor.Publications
import EventFeed.Proofs.Monitor.Roster
import EventFeed.Proofs.Monitor.Silence
import EventFeed.Proofs.Monitor.Staff
import EventFeed.Proofs.Monitor.Succession
import EventFeed.Proofs.Monitor.Timers
import EventFeed.Proofs.Monitor.Turns
import EventFeed.Proofs.Monitor.Verdicts
import EventFeed.Proofs.Monitor.Voyages
import EventFeed.Proofs.Numeral.Powers
import EventFeed.Proofs.Numeral.Reading
import EventFeed.Proofs.Numeral.Rounding
import EventFeed.Proofs.Session.Greeting
import EventFeed.Proofs.Session.HeartBeats
import EventFeed.Proofs.Session.Writing
import EventFeed.Proofs.Settings.Growth
import EventFeed.Proofs.Settings.Overlay
import EventFeed.Proofs.Subscription.Agreement
import EventFeed.Proofs.Subscription.Bookkeeping
import EventFeed.Proofs.Subscription.Consistency
import EventFeed.Proofs.Subscription.Detachment
import EventFeed.Proofs.Subscription.Naming
import EventFeed.Proofs.Subscription.Numbering
import EventFeed.Proofs.Subscription.Routing
import EventFeed.Proofs.Text.Ascii
import EventFeed.Proofs.Time.Seconds
import EventFeed.Proofs.Wire.Acceptance
import EventFeed.Proofs.Wire.Capacity
import EventFeed.Proofs.Wire.Escaping
import EventFeed.Proofs.Wire.Grammar
import EventFeed.Proofs.Wire.Insertion
import EventFeed.Proofs.Wire.Lengths
import EventFeed.Proofs.Wire.Offsets
import EventFeed.Proofs.Wire.Pieces
import EventFeed.Proofs.Wire.Recognition
import EventFeed.Proofs.Wire.Reencoding
import EventFeed.Proofs.Wire.RoundTrip
import EventFeed.Proofs.Wire.Stability
import EventFeed.Proofs.Wire.Verbatim
import EventFeed.Session.Handshake
import EventFeed.Session.Lifecycle
import EventFeed.Session.Writer
import EventFeed.Settings.Backoff
import EventFeed.Settings.Basic
import EventFeed.Settings.Environment
import EventFeed.Settings.Knob
import EventFeed.Subscription.Delivery
import EventFeed.Subscription.Registry
import EventFeed.Text.Blank
import EventFeed.Text.Combining
import EventFeed.Text.Quoted
import EventFeed.Text.Unprintable
import EventFeed.Text.Utf8
import EventFeed.Time.Alarm
import EventFeed.Time.Clock
import EventFeed.Time.Span
import EventFeed.Wire.Command
import EventFeed.Wire.Decoder
import EventFeed.Wire.Escape
import EventFeed.Wire.Frame
import EventFeed.Wire.Headers
import EventFeed.Wire.HeartBeat
