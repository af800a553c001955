/-
**Lengths that are read and lengths that are checked.**

A decoder and the check of a frame both read the content length, and not in the same way: the
decoder takes off the blanks around it, and the check does not. A number has no blanks in it, so
this is all in which they differ. Signs and zeros before the number are the same to both.

* `read?_trim_of_decoded`: without the blanks around it, a decoded length is that of the body;
* `lengthMismatch_iff`: a decoded frame is refused for its length exactly if there are blanks around
  it.
-/

import EventFeed.Proofs.Numeral.Reading
import EventFeed.Proofs.Wire.Reencoding

namespace EventFeed.Wire

open EventFeed.Numeral

variable {limit : Nat} {bytes rest : List UInt8} {frame : Frame}

/-- Without the blanks around it, a length that was decoded is that of the body. -/
theorem read?_trim_of_decoded (decoded : decode limit bytes = .done frame rest) {declared : String}
    (asked : frame.header? Header.contentLength = some declared) :
    read? wordBound (Text.trim declared) = some frame.body.length := by
  obtain ⟨taken, ⟨rfl, -⟩ | ⟨head, isOf, -⟩, -⟩ := decode_eq_done_iff.mp decoded
  · cases asked
  · have isBody := isOf.isBody
    rwa [asked] at isBody

/-- A check finds a wrong length only once all headers are there that the command asks for. -/
theorem Frame.defect?_eq_lengthMismatch_iff (frame : Frame) (declared : String) (actual : Nat) :
    frame.defect? = some (.lengthMismatch declared actual) ↔
      (∀ name ∈ frame.command.required, frame.headers.contains name = true) ∧
        frame.header? Header.contentLength = some declared ∧ actual = frame.body.length ∧
          read? wordBound declared ≠ some frame.body.length := by
  unfold Frame.defect?
  cases lacks : frame.command.required.find? fun name => !frame.headers.contains name with
  | some missing =>
    have absent : frame.headers.contains missing = false := by simpa using List.find?_some lacks
    refine ⟨nofun, fun ⟨complete, _⟩ => ?_⟩
    have held := complete missing (List.mem_of_find?_eq_some lacks)
    cases absent.symm.trans held
  | none =>
    have complete : ∀ name ∈ frame.command.required, frame.headers.contains name = true := by
      simpa using lacks
    cases asked : frame.header? Header.contentLength with
    | none => simp
    | some text =>
      dsimp only
      split
      · rename_i same
        refine ⟨nofun, ?_⟩
        rintro ⟨-, isDeclared, -, wrong⟩
        exact absurd (Option.some.inj isDeclared ▸ same) wrong
      · rename_i wrong
        constructor
        · intro found
          cases found
          exact ⟨complete, rfl, rfl, wrong⟩
        · rintro ⟨-, isDeclared, rfl, -⟩
          cases isDeclared
          rfl

/-- **A frame that was decoded is refused for its length exactly if there are blanks around it.**
Without them the length is that of the body, whatever sign and zeros stand before it. -/
theorem lengthMismatch_iff (decoded : decode limit bytes = .done frame rest) :
    (∀ declared, frame.header? Header.contentLength = some declared →
      read? wordBound (Text.trim declared) = some frame.body.length) ∧
    ∀ declared actual, frame.defect? = some (.lengthMismatch declared actual) ↔
      (∀ name ∈ frame.command.required, frame.headers.contains name = true) ∧
        frame.header? Header.contentLength = some declared ∧ actual = frame.body.length ∧
          Text.trim declared ≠ declared := by
  refine ⟨fun declared asked => read?_trim_of_decoded decoded asked, fun declared actual => ?_⟩
  rw [Frame.defect?_eq_lengthMismatch_iff]
  refine and_congr_right fun _ => and_congr_right fun asked => and_congr_right fun _ => ?_
  have counted := read?_trim_of_decoded decoded asked
  constructor
  · intro wrong same
    rw [same] at counted
    exact wrong counted
  · intro blank read
    exact blank (trim_of_read? read)

/-- A frame that is asked to go to a queue, with a length in some spelling. -/
def spelledFrame (length : String) : Frame where
  command := .send
  headers := .ofPairs [(Header.destination, "/queue/a"), (Header.contentLength, length)]
  body := Text.toBytes "hello"

/-- A sign and zeros before the length are no reason to refuse a frame that was decoded. -/
theorem signed_length_is_not_refused :
    decode 0 (Text.toBytes "SEND\ndestination:/queue/a\ncontent-length:+05\n\nhello\x00") =
        .done (spelledFrame "+05") [] ∧
      ∀ declared actual, (spelledFrame "+05").defect? ≠ some (.lengthMismatch declared actual) := by
  have decoded :
      decode 0 (Text.toBytes "SEND\ndestination:/queue/a\ncontent-length:+05\n\nhello\x00") =
        .done (spelledFrame "+05") [] := by
    decide +kernel
  refine ⟨decoded, fun declared actual refused => ?_⟩
  obtain ⟨-, asked, -, blank⟩ := ((lengthMismatch_iff decoded).2 declared actual).mp refused
  have isDeclared : declared = "+05" := by
    have held : (spelledFrame "+05").header? Header.contentLength = some "+05" := by decide +kernel
    exact Option.some.inj (asked.symm.trans held)
  rw [isDeclared] at blank
  exact blank (by decide +kernel)

/-- A blank before it is one: the frame is decoded, has all headers that its command asks for, and
is refused for a length that is that of its body. -/
theorem blank_length_is_refused :
    decode defaultFrameLimit
        (Text.toBytes "SEND\ndestination:/queue/a\ncontent-length: 5\n\nhello\x00") =
          .done (spelledFrame " 5") [] ∧
      (spelledFrame " 5").defect? = some (.lengthMismatch " 5" 5) := by
  decide +kernel

end EventFeed.Wire
