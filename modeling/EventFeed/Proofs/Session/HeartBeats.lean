/-
**Heart-beats as the headers tell them.**

The headers of a handshake tell heart-beats in whole milliseconds, and the rule of the protocol is
about those numbers: both sides read the same two headers and come to the same intervals. A session
however keeps its own offer to the nanosecond, and settles with that.

* `read?_text`: the numbers of a header are read as they were written;
* `agree_ofMillis_eq_iff`: when the nanoseconds of our side make no difference in one direction;
* `settled_swap`: the other side gets the mirrored pair by the rule;
* `agreed_eq_settled_iff`: a session uses the intervals of the rule exactly if the nanoseconds make
  no difference in either direction;
* `agreed_of_environment`: they never do under settings from an environment.
-/

import EventFeed.Proofs.Session.Greeting
import EventFeed.Settings.Environment

namespace EventFeed

open EventFeed.Numeral EventFeed.Time
open EventFeed.Wire (Frame HeartBeat)

/-- The two numbers of a heart-beat header, in milliseconds. -/
structure Beats where
  outgoing : Nat
  incoming : Nat
  deriving DecidableEq

namespace Beats

/-- The header value that tells the numbers. -/
def text (beats : Beats) : String :=
  decimal beats.outgoing ++ "," ++ decimal beats.incoming

def spans (beats : Beats) : HeartBeat :=
  ⟨.ofMillis beats.outgoing, .ofMillis beats.incoming⟩

/-- The same numbers from the other side. -/
def swap (beats : Beats) : Beats :=
  ⟨beats.incoming, beats.outgoing⟩

/-- The rule for one direction: never if either side says zero, and else the larger number. -/
def settle (ours theirs : Nat) : Nat :=
  if ours = 0 ∨ theirs = 0 then 0 else max ours theirs

/-- The rule of the protocol on the numbers of both headers. -/
def settled (ours theirs : Beats) : Beats where
  outgoing := settle ours.outgoing theirs.incoming
  incoming := settle ours.incoming theirs.outgoing

theorem settle_comm (ours theirs : Nat) : settle ours theirs = settle theirs ours := by
  simp only [settle, or_comm, Nat.max_comm]

/-- **The other side gets the mirrored pair.** -/
theorem settled_swap (ours theirs : Beats) : settled theirs ours = (settled ours theirs).swap := by
  rw [settled, settled, swap, settle_comm theirs.outgoing, settle_comm theirs.incoming]

end Beats

/-! ### Numbers on the wire -/

namespace Wire.HeartBeat

/-- The numbers that tell an offer. -/
def beats (offer : HeartBeat) : Beats :=
  ⟨offer.outgoing.millis, offer.incoming.millis⟩

theorem headerValue_eq_text (offer : HeartBeat) : offer.headerValue = offer.beats.text :=
  rfl

/-- **The numbers of a header are read as they were written.** -/
theorem read?_text {beats : Beats} (outgoing : beats.outgoing < wordBound)
    (incoming : beats.incoming < wordBound) : read? beats.text = some beats.spans := by
  have chars : beats.text.toList =
      (decimal beats.outgoing).toList ++ ',' :: (decimal beats.incoming).toList := by
    simp [Beats.text]
  have inside : ',' ∉ (decimal beats.outgoing).toList :=
    fun member => absurd (isDigit_of_mem_decimal _ _ member) (by decide)
  obtain ⟨dropped, taken⟩ := cut_at inside (decimal beats.incoming).toList
  unfold read?
  rw [chars, dropped, taken]
  simp only [String.ofList_toList, trim_decimal, read?_decimal outgoing, read?_decimal incoming]
  rfl

/-- What is read from a header are whole milliseconds that fit. -/
theorem spans_beats_of_read? {value : String} {offer : HeartBeat}
    (read : read? value = some offer) :
    offer.beats.outgoing < wordBound ∧ offer.beats.incoming < wordBound ∧
      offer.beats.spans = offer := by
  unfold read? at read
  split at read
  · cases read
  · simp only [Option.bind_eq_bind, Option.bind_eq_some_iff, Option.some.injEq] at read
    obtain ⟨outgoing, first, incoming, second, rfl⟩ := read
    have left := Span.ofMillis_millis (read?_lt first)
    have right := Span.ofMillis_millis (read?_lt second)
    simp only [beats, Beats.spans, left, right]
    exact ⟨read?_lt first, read?_lt second, trivial⟩

end Wire.HeartBeat

/-- What an answer offers are whole milliseconds that fit. -/
theorem spans_beats_offered (answer : Frame) :
    (offered answer).beats.outgoing < wordBound ∧ (offered answer).beats.incoming < wordBound ∧
      (offered answer).beats.spans = offered answer := by
  unfold offered
  cases read : (answer.header? Wire.Header.heartBeat).bind HeartBeat.read? with
  | none => decide
  | some offer =>
    obtain ⟨value, -, read⟩ := Option.bind_eq_some_iff.mp read
    exact HeartBeat.spans_beats_of_read? read

/-- The numbers of an answer are those of its header. -/
theorem beats_offered_of_text {answer : Frame} {beats : Beats}
    (outgoing : beats.outgoing < wordBound) (incoming : beats.incoming < wordBound)
    (told : answer.header? Wire.Header.heartBeat = some beats.text) :
    (offered answer).beats = beats := by
  have read : offered answer = beats.spans := by
    rw [offered, told, Option.bind_some, HeartBeat.read?_text outgoing incoming, Option.getD_some]
  rw [read, HeartBeat.beats, Beats.spans, Span.ofMillis_millis outgoing,
    Span.ofMillis_millis incoming]

/-- An answer without a header that can be read offers nothing. -/
theorem beats_offered_of_unreadable {answer : Frame}
    (unreadable : ∀ value ∈ answer.header? Wire.Header.heartBeat, HeartBeat.read? value = none) :
    (offered answer).beats = ⟨0, 0⟩ := by
  have nothing : (answer.header? Wire.Header.heartBeat).bind HeartBeat.read? = none :=
    Option.bind_eq_none_iff.mpr unreadable
  rw [offered, nothing]
  rfl

/-! ### One direction -/

theorem Time.Span.nanos_ofMillis {millis : Nat} (fits : millis < wordBound) :
    (Span.ofMillis millis).nanos = millis * nanosPerMilli := by
  rw [wordBound, Nat.pow_eq] at fits
  refine Span.ofNanos_nanos ?_
  unfold nanosPerMilli nanosBound
  omega

theorem Wire.HeartBeat.nanos_agree (ours theirs : Span) :
    (agree ours theirs).nanos =
      if ours.nanos = 0 ∨ theirs.nanos = 0 then 0 else max ours.nanos theirs.nanos := by
  have zero : Span.zero.nanos = 0 := rfl
  simp only [agree, Span.isZero, Bool.or_eq_true, decide_eq_true_eq]
  split
  · exact zero
  · rw [Span.max]
    split <;> omega

/-- Whether the nanoseconds of our side make no difference to what is agreed on with a number of the
other: the other side says never, or we have whole milliseconds, or at least one and not more than
the other side. -/
def IsImmaterial (ours : Span) (theirs : Nat) : Prop :=
  theirs = 0 ∨ nanosPerMilli ∣ ours.nanos ∨
    nanosPerMilli ≤ ours.nanos ∧ ours.nanos ≤ theirs * nanosPerMilli

instance (ours : Span) (theirs : Nat) : Decidable (IsImmaterial ours theirs) :=
  inferInstanceAs (Decidable (_ ∨ _ ∨ _ ∧ _))

/-- **In one direction the interval is that of the rule exactly if the nanoseconds make no
difference.** -/
theorem agree_ofMillis_eq_iff (ours : Span) {theirs : Nat} (fits : theirs < wordBound) :
    HeartBeat.agree ours (.ofMillis theirs) = .ofMillis (Beats.settle ours.millis theirs) ↔
      IsImmaterial ours theirs := by
  have ruled : (Span.ofMillis (Beats.settle ours.millis theirs)).nanos =
      Beats.settle ours.millis theirs * nanosPerMilli := by
    have short := ours.nanos_lt
    rw [wordBound, Nat.pow_eq] at fits
    unfold nanosBound at short
    refine Span.ofNanos_nanos ?_
    unfold Beats.settle Span.millis nanosPerMilli nanosBound
    split
    · decide
    · omega
  have asNumbers : HeartBeat.agree ours (.ofMillis theirs) =
        .ofMillis (Beats.settle ours.millis theirs) ↔
      (if ours.nanos = 0 ∨ theirs * nanosPerMilli = 0 then 0
        else max ours.nanos (theirs * nanosPerMilli)) =
        Beats.settle ours.millis theirs * nanosPerMilli := by
    rw [← Span.nanos_ofMillis fits, ← HeartBeat.nanos_agree, ← ruled]
    exact ⟨congrArg Span.nanos, Span.nanos_injective⟩
  rw [asNumbers]
  unfold IsImmaterial Beats.settle Span.millis nanosPerMilli
  split <;> split <;> omega

/-! ### Both directions -/

/-- What a session agrees on with numbers, direction by direction. -/
theorem agreed_eq (offer : HeartBeat) (answer : Frame) :
    agreed offer answer =
      ⟨HeartBeat.agree offer.outgoing (.ofMillis (offered answer).beats.incoming),
        HeartBeat.agree offer.incoming (.ofMillis (offered answer).beats.outgoing)⟩ := by
  have whole := (spans_beats_offered answer).2.2
  calc agreed offer answer
      = HeartBeat.negotiate offer (offered answer).beats.spans := by rw [whole, agreed]
    _ = _ := rfl

/-- In both directions the intervals are those of the rule exactly if the nanoseconds make no
difference. -/
theorem agreed_eq_spans_iff (pulse : Pulse) (answer : Frame) :
    agreed pulse.offer answer =
        (Beats.settled pulse.offer.beats (offered answer).beats).spans ↔
      IsImmaterial pulse.outgoing (offered answer).beats.incoming ∧
        IsImmaterial pulse.incoming (offered answer).beats.outgoing := by
  obtain ⟨outgoing, incoming, -⟩ := spans_beats_offered answer
  rw [← agree_ofMillis_eq_iff pulse.outgoing incoming,
    ← agree_ofMillis_eq_iff pulse.incoming outgoing, agreed_eq, Beats.spans, HeartBeat.mk.injEq]
  rfl

theorem header?_greeting (endpoint : Endpoint) (credentials : Credentials) (offer : HeartBeat) :
    (greeting endpoint credentials offer).header? Wire.Header.heartBeat =
      some offer.beats.text := by
  unfold greeting Frame.header? Frame.withHeader
  simp only [Wire.Headers.get?_insert, if_pos, HeartBeat.headerValue_eq_text]

/-- **A session uses the intervals that the rule gives on the numbers of the two headers exactly if
its own nanoseconds make no difference in either direction**, whatever the settings and the answer.
The greeting tells our numbers and the answer those of the other side; a header that cannot be read
says never. By the rule the other side gets the mirrored pair from the same headers. -/
theorem agreed_eq_settled_iff (endpoint : Endpoint) (credentials : Credentials)
    (settings : Settings) (answer : Frame) :
    (greeting endpoint credentials settings.pulse.offer).header? Wire.Header.heartBeat =
        some settings.pulse.offer.beats.text ∧
      (∀ beats : Beats, beats.outgoing < wordBound → beats.incoming < wordBound →
        answer.header? Wire.Header.heartBeat = some beats.text →
        (offered answer).beats = beats) ∧
      ((∀ value ∈ answer.header? Wire.Header.heartBeat, HeartBeat.read? value = none) →
        (offered answer).beats = ⟨0, 0⟩) ∧
      (agreed settings.pulse.offer answer =
          (Beats.settled settings.pulse.offer.beats (offered answer).beats).spans ↔
        IsImmaterial settings.pulse.outgoing (offered answer).beats.incoming ∧
          IsImmaterial settings.pulse.incoming (offered answer).beats.outgoing) ∧
      Beats.settled (offered answer).beats settings.pulse.offer.beats =
        (Beats.settled settings.pulse.offer.beats (offered answer).beats).swap :=
  ⟨header?_greeting endpoint credentials settings.pulse.offer,
    fun _ outgoing incoming told => beats_offered_of_text outgoing incoming told,
    beats_offered_of_unreadable, agreed_eq_spans_iff settings.pulse answer,
    Beats.settled_swap _ _⟩

/-- Settings that offer to receive every half millisecond. -/
def hastySettings : Settings :=
  { Settings.standard with pulse := { Pulse.standard with incoming := .ofNanos 500000 } }

/-- An answer that offers to send every second. -/
def beatingAnswer : Frame :=
  (Frame.ofCommand .connected).withHeader Wire.Header.heartBeat "1000,0"

/-- The greeting says never where half a millisecond is meant: by the rule the server need not send
anything, but the session expects something every second. -/
theorem hasty_expects_beats :
    hastySettings.defect? = none ∧
      (greeting exampleEndpoint .empty hastySettings.pulse.offer).header? Wire.Header.heartBeat =
        some "5000,0" ∧
      (Beats.settled hastySettings.pulse.offer.beats (offered beatingAnswer).beats).incoming = 0 ∧
      (agreed hastySettings.pulse.offer beatingAnswer).incoming = .ofMillis 1000 := by
  decide +kernel

/-! ### Settings from an environment -/

/-- Whether the intervals of a pulse are whole milliseconds. -/
def Pulse.IsWhole (pulse : Pulse) : Prop :=
  nanosPerMilli ∣ pulse.outgoing.nanos ∧ nanosPerMilli ∣ pulse.incoming.nanos

/-- A time that is read is whole milliseconds. -/
theorem Kind.dvd_of_read? {text : String} {span : Span} (read : Kind.span.read? text = some span) :
    nanosPerMilli ∣ span.nanos := by
  obtain ⟨millis, number, rfl⟩ := Option.map_eq_some_iff.mp read
  rw [Span.nanos_ofMillis (read?_lt number)]
  exact Nat.dvd_mul_left _ _

/-- Reading one setting keeps whole milliseconds whole. -/
theorem Knob.isWhole_assign {environment : Environment} {settings after : Settings} {knob : Knob}
    (assigned : assign environment settings knob = .ok after) (whole : settings.pulse.IsWhole) :
    after.pulse.IsWhole := by
  unfold assign at assigned
  split at assigned
  · cases assigned
    exact whole
  · split at assigned
    · rename_i value read
      cases assigned
      cases knob with
      | outgoing => exact ⟨Kind.dvd_of_read? read, whole.2⟩
      | incoming => exact ⟨whole.1, Kind.dvd_of_read? read⟩
      | _ => exact whole
    · cases assigned

theorem Knob.isWhole_foldlM {environment : Environment} {knobs : List Knob}
    {settings after : Settings}
    (assigned : knobs.foldlM (assign environment) settings = .ok after)
    (whole : settings.pulse.IsWhole) : after.pulse.IsWhole := by
  induction knobs generalizing settings with
  | nil =>
    cases assigned
    exact whole
  | cons knob knobs step =>
    rw [List.foldlM_cons] at assigned
    cases first : assign environment settings knob with
    | error error =>
      rw [first] at assigned
      cases assigned
    | ok next =>
      rw [first] at assigned
      exact step assigned (isWhole_assign first whole)

/-- Whole milliseconds make no difference, whatever the other side says. -/
theorem Pulse.IsWhole.isImmaterial {pulse : Pulse} (whole : pulse.IsWhole) (theirs : Beats) :
    IsImmaterial pulse.outgoing theirs.incoming ∧ IsImmaterial pulse.incoming theirs.outgoing :=
  ⟨.inr (.inl whole.1), .inr (.inl whole.2)⟩

/-- **Settings from an environment always lead to the intervals of the rule.** -/
theorem agreed_of_environment {environment : Environment} {settings : Settings}
    (given : Settings.ofEnvironment environment = .ok settings) (answer : Frame) :
    agreed settings.pulse.offer answer =
      (Beats.settled settings.pulse.offer.beats (offered answer).beats).spans := by
  have whole : settings.pulse.IsWhole := by
    unfold Settings.ofEnvironment at given
    cases overlaid : Settings.overlaid environment with
    | error error =>
      rw [overlaid] at given
      cases given
    | ok read =>
      rw [overlaid] at given
      have same : read = settings := by
        change read.checked = .ok settings at given
        unfold Settings.checked at given
        split at given <;> cases given
        rfl
      exact same ▸ Knob.isWhole_foldlM overlaid ⟨by decide, by decide⟩
  exact (agreed_eq_spans_iff settings.pulse answer).mpr (whole.isImmaterial (offered answer).beats)

end EventFeed
