/-
**Which frames end a session.**

What the server sends to a connected session may be anything: messages for nobody, messages that are
no events, messages whose callbacks crash, receipts and errors about any name, a second answer to
the greeting, frames that only clients send, heart-beats. Two things end the session: bytes that are
no frame, and an error that refuses no subscription that waits for an answer in this session. All
else is handled, and the session reads on; a frame that is dropped leaves no trace but a line in the
log.

* `ends`: whether a frame ends the session, by what the registry knows;
* `StillReads.act`: one frame that does not end it is handled, and the session reads on;
* `stillReads_play`: and so are all frames up to the first that does;
* `heed_of_drops`: a frame that is dropped makes no difference to those that come after it;
* `only_fatal_frames_end_sessions`: what this comes to, whatever happened before.
-/

import EventFeed.Proofs.Monitor.Losses
import EventFeed.Proofs.Monitor.Moorings
import EventFeed.Proofs.Monitor.Surroundings
import EventFeed.Proofs.Monitor.Verdicts
import EventFeed.Proofs.Wire.RoundTrip

namespace EventFeed

open EventFeed.Numeral
open EventFeed.Wire (Frame Decoder DecodeError)

/-! ### What is still to be looked through -/

namespace Intake

variable {intake : Intake} {frame : Frame} {later : List Frame} {fault : Option DecodeError}
  {error : DecodeError} {last : Decoder}

/-- The first of the frames that came in is found, and the others are left. -/
theorem next_of_drain_cons (drains : intake.decoder.drain = (frame :: later, fault, last)) :
    ∃ rest, intake.next = (.ok (some frame), rest) ∧ rest.drained = false ∧
      rest.decoder.drain = (later, fault, last) := by
  rcases found : intake.decoder.next with ⟨result, decoder⟩
  rcases result with error | _ | first
  · cases (Decoder.drain_of_error found).symm.trans drains
  · cases (Decoder.drain_of_nothing found).symm.trans drains
  · have same := (Decoder.drain_of_frame found).symm.trans drains
    obtain ⟨frames, rest⟩ := Prod.mk.inj same
    obtain ⟨rfl, laterSame⟩ := List.cons.inj frames
    refine ⟨⟨decoder, false⟩, by rw [next, found], rfl, ?_⟩
    exact Prod.ext laterSame rest

/-- Behind all frames that came in a fault is found, if there is one. -/
theorem next_of_drain_fault (drains : intake.decoder.drain = ([], some error, last)) :
    ∃ rest, intake.next = (.error error, rest) := by
  rcases found : intake.decoder.next with ⟨result, decoder⟩
  rcases result with other | _ | first
  · cases (Decoder.drain_of_error found).symm.trans drains
    exact ⟨⟨_, false⟩, by rw [next, found]⟩
  · cases (Decoder.drain_of_nothing found).symm.trans drains
  · cases (Decoder.drain_of_frame found).symm.trans drains

theorem next_of_drain_nothing (drains : intake.decoder.drain = ([], none, last)) :
    intake.next = (.ok none, ⟨last, true⟩) := by
  rcases found : intake.decoder.next with ⟨result, decoder⟩
  rcases result with error | _ | first
  · cases (Decoder.drain_of_error found).symm.trans drains
  · cases (Decoder.drain_of_nothing found).symm.trans drains
    rw [next, found]
  · cases (Decoder.drain_of_frame found).symm.trans drains

end Intake

namespace World

variable {world base after : World} {index : Nat} {tenure : Tenure} {watch : Watch} {frame : Frame}
  {stopFirst : Bool} {drawn : Binary64}

/-! ### Frames that end a session -/

/-- Whether a frame ends a session: an error that gives no verdict. -/
def ends (world : World) (frame : Frame) : Bool :=
  frame.command = .error && (world.verdict? frame).isNone

/-- What a keeper sees, with what is left open. -/
def sight (world : World) (tenure : Tenure) (stopFirst : Bool) (drawn : Binary64) : View :=
  { world.viewOf tenure with stopFirst, drawn }

/-- A keeper takes exactly these frames for the end of its session. -/
theorem isFatal_sight (world : World) (tenure : Tenure) (stopFirst : Bool) (drawn : Binary64)
    (frame : Frame) :
    Keeper.isFatal (world.sight tenure stopFirst drawn) frame = world.ends frame := by
  unfold Keeper.isFatal ends
  by_cases command : frame.command = .error
  · rw [verdict?, Verdict.about?, command]
    cases frame.header? Wire.Header.receiptId with
    | none => rfl
    | some receipt =>
      have awaits : (world.sight tenure stopFirst drawn).awaits receipt =
          (world.registry.unconfirmed? receipt).isSome := rfl
      dsimp only [Option.bind_eq_bind, Option.bind_some, Option.any_some]
      rw [awaits]
      cases world.registry.unconfirmed? receipt <;> rfl
  · simp [command]

/-! ### A session reads on -/

/-- Whether a world is another one but for its keepers and their alarms, and a keeper of it reads
while the others are as they were. -/
structure StillReads (base after : World) (index : Nat) (tenure : Tenure) (watch : Watch) :
    Prop where
  alike : ∃ tenures alarms, after = { base with tenures, alarms }
  reads : after.tenures[index]? =
    some { tenure with keeper := tenure.keeper.enter (.reading watch) }
  others : ∀ other, other ≠ index → after.tenures[other]? = base.tenures[other]?

theorem stillReads_refl (present : world.tenures[index]? = some tenure)
    (phase : tenure.keeper.phase = .reading watch) : StillReads world world index tenure watch := by
  refine ⟨⟨_, _, rfl⟩, ?_, fun _ _ => rfl⟩
  rw [present, Keeper.enter, ← phase]

/-- What a reading keeper does next. -/
theorem StillReads.keeperMoveBy? (reading : StillReads base after index tenure watch)
    (undrained : watch.intake.drained = false) :
    after.keeperMoveBy? index stopFirst drawn =
      let keeper := tenure.keeper.enter (.reading watch)
      some (keeper.readFrame after.settings (after.sight { tenure with keeper } stopFirst drawn)
        watch) := by
  have phase : (tenure.keeper.enter (.reading watch)).phase = .reading watch := rfl
  rw [World.keeperMoveBy?, reading.reads, Option.bind_eq_bind, Option.bind_some, Keeper.step, phase]
  dsimp only [Keeper.onReading]
  rw [undrained]
  rfl

/-- What ends its session for the keeper is what ends it in the other world. -/
theorem StillReads.isFatal_sight (reading : StillReads base after index tenure watch)
    (other : Tenure) (frame : Frame) :
    Keeper.isFatal (after.sight other stopFirst drawn) frame = base.ends frame := by
  obtain ⟨tenures, alarms, rfl⟩ := reading.alike
  exact World.isFatal_sight _ other stopFirst drawn frame

section Next

variable (reading : StillReads base after index tenure watch)
  (undrained : watch.intake.drained = false) {rest : Intake} {error : DecodeError}

include reading undrained

/-- A frame that ends the session is handled, and the session fails with what it says. -/
theorem StillReads.fails_of_frame (found : watch.intake.next = (.ok (some frame), rest))
    (fatal : base.ends frame = true) : after.keeperMoveBy? index stopFirst drawn =
      let keeper := tenure.keeper.enter (.reading watch)
      some (Keeper.after (.handle frame) (keeper.lose after.settings
        (after.sight { tenure with keeper } stopFirst drawn) watch (.ofServer frame))) := by
  refine (reading.keeperMoveBy? undrained).trans ?_
  dsimp only [Keeper.readFrame]
  rw [found]
  dsimp only
  rw [if_pos ((reading.isFatal_sight _ frame).trans fatal)]

/-- Bytes that are no frame end the session. -/
theorem StillReads.fails_of_fault (found : watch.intake.next = (.error error, rest)) :
    after.keeperMoveBy? index stopFirst drawn =
      let keeper := tenure.keeper.enter (.reading watch)
      some (keeper.lose after.settings (after.sight { tenure with keeper } stopFirst drawn) watch
        (.undecodable error)) := by
  refine (reading.keeperMoveBy? undrained).trans ?_
  dsimp only [Keeper.readFrame]
  rw [found]

/-- Another frame is handled. -/
theorem StillReads.handles_of_frame (found : watch.intake.next = (.ok (some frame), rest))
    (harmless : base.ends frame = false) : after.keeperMoveBy? index stopFirst drawn =
      some (tenure.keeper.enter (.reading { watch with intake := rest }), [.handle frame]) := by
  refine (reading.keeperMoveBy? undrained).trans ?_
  dsimp only [Keeper.readFrame]
  rw [found]
  dsimp only
  rw [if_neg (by rw [reading.isFatal_sight, harmless]; exact Bool.false_ne_true)]
  rfl

/-- When nothing is left of what came in, the session goes on to wait. -/
theorem StillReads.waits_of_nothing (found : watch.intake.next = (.ok none, rest)) :
    after.keeperMoveBy? index stopFirst drawn =
      some (tenure.keeper.enter (.reading { watch with intake := rest }), []) := by
  refine (reading.keeperMoveBy? undrained).trans ?_
  dsimp only [Keeper.readFrame]
  rw [found]
  rfl

end Next

/-- A frame is handled alike whoever works on behalf of the monitor. -/
theorem handle_with (base : World) (tenures : List Tenure)
    (alarms : Time.AlarmClock (Nat × Wait)) (frame : Frame) :
    { base with tenures, alarms }.handle frame = { base.handle frame with tenures, alarms } := by
  have same : base.unseen.among { base with tenures, alarms } = { base with tenures, alarms } := by
    rw [among, unseen, Array.append_empty]
  have there : { base with tenures, alarms }.handle frame =
      (base.unseen.handle frame).among { base with tenures, alarms } :=
    heed_of_among same [frame]
  have home : base.handle frame = (base.unseen.handle frame).among base :=
    heed_of_among (unseen_among base) [frame]
  rw [there, home]
  rfl

/-- What frames do to a world leaves its keepers alone. -/
theorem tenures_heed (world : World) (frames : List Frame) :
    (world.heed frames).tenures = world.tenures := by
  rw [heed_of_among (unseen_among world) frames]
  rfl

/-- **A frame that does not end the session is handled, and the session reads on.** -/
theorem StillReads.act (reading : StillReads base after index tenure watch)
    (undrained : watch.intake.drained = false) {rest : Intake}
    (found : watch.intake.next = (.ok (some frame), rest)) (harmless : base.ends frame = false)
    (stopFirst : Bool) (drawn : Binary64) :
    StillReads (base.handle frame) (after.act (.keeper index stopFirst drawn)) index tenure
      { watch with intake := rest } := by
  let later := tenure.keeper.enter (.reading { watch with intake := rest })
  have moved : after.keeperMoveBy? index stopFirst drawn = some (later, [.handle frame]) :=
    reading.handles_of_frame undrained found harmless
  have present := tenures_turned reading.reads later
  have acted : after.act (.keeper index stopFirst drawn) =
      ((after.turned index later).handle frame).setAlarms index := by
    rw [World.act, moved]
    show (perform index (after.turned index later) (.handle frame)).setAlarms index = _
    rw [perform, present]
  obtain ⟨tenures, alarms, rfl⟩ := reading.alike
  have handled : ({ base with tenures, alarms }.turned index later).handle frame =
      { base.handle frame with
        tenures := ({ base with tenures, alarms }.turned index later).tenures, alarms } :=
    handle_with base _ alarms frame
  rw [acted, handled]
  refine ⟨⟨_, _, rfl⟩, present, fun other different => ?_⟩
  have same : (base.handle frame).tenures = base.tenures := tenures_heed base [frame]
  rw [same, ← reading.others other different]
  exact List.getElem?_modify_ne _ _ (Ne.symm different)

/-- **Frames that do not end the session are handled one by one, and the session reads on.** -/
theorem stillReads_play (present : world.tenures[index]? = some tenure)
    (phase : tenure.keeper.phase = .reading watch) (undrained : watch.intake.drained = false)
    {front later : List Frame} {fault : Option DecodeError} {last : Decoder}
    (drains : watch.intake.decoder.drain = (front ++ later, fault, last))
    (harmless : ∀ early frame rest, front = early ++ frame :: rest →
      (world.heed early).ends frame = false)
    {choices : List (Bool × Binary64)} (length : choices.length = front.length) :
    ∃ intake, intake.drained = false ∧ intake.decoder.drain = (later, fault, last) ∧
      StillReads (world.heed front)
        (world.play (choices.map fun choice => .keeper index choice.1 choice.2)) index tenure
        { watch with intake } := by
  induction front using List.reverseRecOn generalizing later choices with
  | nil =>
    obtain rfl := List.eq_nil_of_length_eq_zero length
    exact ⟨watch.intake, undrained, drains, stillReads_refl present phase⟩
  | append_singleton front frame ih =>
    obtain ⟨earlier, choice, rfl⟩ : ∃ earlier choice, choices = earlier ++ [choice] := by
      rcases List.eq_nil_or_concat choices with rfl | ⟨earlier, choice, rfl⟩
      · simp at length
      · exact ⟨earlier, choice, List.concat_eq_append⟩
    have lengthBefore : earlier.length = front.length := by simpa using length
    rw [List.append_assoc] at drains
    obtain ⟨intake, intakeUndrained, intakeDrains, reading⟩ := ih drains
      (fun early other rest split => harmless early other (rest ++ [frame]) (by rw [split]; simp))
      lengthBefore
    obtain ⟨rest, found, restUndrained, restDrains⟩ := Intake.next_of_drain_cons intakeDrains
    refine ⟨rest, restUndrained, restDrains, ?_⟩
    have one := reading.act intakeUndrained found (harmless front frame [] rfl) choice.1 choice.2
    rw [List.map_append, List.map_singleton, play_concat, heed_append]
    exact one

/-! ### Frames that are dropped -/

/-- Whether a frame is dropped: a message that becomes no event, or something else that says nothing
about a subscription and ends no session. -/
def drops (world : World) (frame : Frame) : Bool :=
  if frame.command = .message then
    (Delivery.delivered? (Delivery.dispatch world.registry world.sequences frame)).isNone
  else frame.command ≠ .error && (world.verdict? frame).isNone

/-- A frame that is dropped ends no session. -/
theorem ends_of_drops (dropped : world.drops frame = true) : world.ends frame = false := by
  unfold drops at dropped
  rw [ends, Bool.and_eq_false_imp, decide_eq_true_iff]
  intro command
  simp [command] at dropped

/-- A frame that is dropped leaves no trace but a line in the log, if it is a message. -/
theorem handle_of_drops (dropped : world.drops frame = true) :
    world.handle frame = world ∨ ∃ error destination messageId,
      world.handle frame = world.note (.refused error destination messageId) := by
  unfold drops at dropped
  split at dropped
  · rename_i command
    rw [World.handle, command]
    dsimp only [deliver]
    generalize Delivery.dispatch world.registry world.sequences frame = result at dropped ⊢
    rcases result with error | _ | delivery
    · exact .inr ⟨_, _, _, rfl⟩
    · exact .inl rfl
    · cases dropped
  · rename_i noMessage
    rw [Bool.and_eq_true, Option.isNone_iff_eq_none] at dropped
    exact .inl (handle_of_no_verdict dropped.2 noMessage)

/-- **Frames that come after one that is dropped are handled as if it had not been sent.** What is
seen of them is the same, too. -/
theorem heed_of_drops (dropped : world.drops frame = true) (later : List Frame) :
    ∃ noted seen, (world.heed later).log = world.log ++ seen ∧
      world.heed (frame :: later) = { world.heed later with log := world.log ++ noted ++ seen } ∧
      (noted = #[] ∨
        ∃ error destination messageId, noted = #[.refused error destination messageId]) := by
  have first : world.heed (frame :: later) = (world.handle frame).heed later := rfl
  rcases handle_of_drops dropped with same | ⟨error, destination, messageId, noted⟩
  · have home := heed_of_among (unseen_among world) later
    refine ⟨#[], (world.unseen.heed later).log, congrArg World.log home, ?_, .inl rfl⟩
    rw [first, same, home, Array.append_empty]
    rfl
  · obtain ⟨seen, log, after⟩ := heed_note world (.refused error destination messageId) later
    refine ⟨#[.refused error destination messageId], seen, log, ?_, .inr ⟨_, _, _, rfl⟩⟩
    rw [first, noted, after, Array.append_singleton]

end World

/-! ### Whatever happened before -/

namespace Docket

variable {docket : Docket} {frame : Frame}

/-- The server says something, and more after it. -/
def heed (docket : Docket) (frames : List Frame) : Docket :=
  docket.run (frames.map .hear)

theorem world_heed (docket : Docket) (frames : List Frame) :
    (docket.heed frames).world = docket.world.heed frames := by
  induction frames generalizing docket with
  | nil => rfl
  | cons frame frames ih => exact ih (docket.meet (.hear frame))

/-- Whether a frame is to end a session: an error that has no receipt, or one for which no verdict
is due. -/
def IsFatal (docket : Docket) (frame : Frame) : Prop :=
  frame.command = .error ∧ ∀ name, frame.header? Wire.Header.receiptId = some name →
    ∀ id destination, ¬docket.IsDue name id destination

/-- The registry knows which frames these are. -/
theorem IsKept.isFatal_iff (kept : docket.IsKept) :
    docket.IsFatal frame ↔ docket.world.ends frame = true := by
  rw [World.ends, Bool.and_eq_true, decide_eq_true_iff, Option.isNone_iff_eq_none]
  refine and_congr_right fun command => ?_
  have about : Verdict.about? frame = frame.header? Wire.Header.receiptId := by
    rw [Verdict.about?, command]
  constructor
  · intro never
    refine Option.eq_none_iff_forall_not_mem.mpr fun verdict given => ?_
    obtain ⟨named, -, due⟩ := kept.verdict?_eq_some_iff.mp given
    exact never verdict.name (about.symm.trans named) _ _ due
  · intro noVerdict name named id destination due
    have given : docket.world.verdict? frame =
        some ⟨name, id, destination, Verdict.words? frame⟩ :=
      kept.verdict?_eq_some_iff.mpr ⟨about.trans named, rfl, due⟩
    rw [noVerdict] at given
    cases given

theorem IsKept.heed (kept : docket.IsKept) (frames : List Frame) : (docket.heed frames).IsKept := by
  induction frames generalizing docket with
  | nil => exact kept
  | cons frame frames ih => exact ih (kept.meet (.hear frame))

/-- So it does however much the server says. -/
theorem IsKept.isFatal_heed_iff (kept : docket.IsKept) (frames : List Frame) (frame : Frame) :
    (docket.heed frames).IsFatal frame ↔ (docket.world.heed frames).ends frame = true := by
  rw [(kept.heed frames).isFatal_iff, world_heed]

theorem IsKept.not_isFatal_heed_iff (kept : docket.IsKept) (frames : List Frame) (frame : Frame) :
    ¬(docket.heed frames).IsFatal frame ↔ (docket.world.heed frames).ends frame = false := by
  rw [kept.isFatal_heed_iff, Bool.not_eq_true]

/-- A frame that is dropped changes nothing of what the frames after it mean. -/
theorem IsKept.isFatal_of_drops (kept : docket.IsKept) {front later : List Frame}
    (dropped : (docket.world.heed front).drops frame = true) (next : Frame) :
    (docket.heed (front ++ frame :: later)).IsFatal next ↔
      (docket.heed (front ++ later)).IsFatal next := by
  obtain ⟨noted, seen, -, after, -⟩ := World.heed_of_drops dropped later
  have registry : (docket.world.heed (front ++ frame :: later)).registry =
      (docket.world.heed (front ++ later)).registry := by
    rw [World.heed_append, World.heed_append, after]
  rw [kept.isFatal_heed_iff, kept.isFatal_heed_iff, World.ends, World.ends, World.verdict?,
    World.verdict?, registry]

/-- **Only fatal input ends a session.** Whatever happened to the registry and to the rest of the
world before, for a keeper whose session is connected:

* while it has looked through all that came in, it stays connected, is told to end, or loses its
  channel or the server falls silent;
* of what came in it handles one frame after the other, and reads on, up to the first frame that is
  an error without a receipt or about nothing for which a verdict is due; there the session fails,
  with the message and the body of this frame. If there is none, it fails where the bytes are no
  frame, and else has looked through all of it;
* a frame that is dropped ends no session, and those after it are handled as if it had not been
  sent, but for a line in the log. -/
theorem only_fatal_frames_end_sessions (world : World) (seed : Nat) (incidents : List Incident)
    {index : Nat} {tenure : Tenure} {watch : Watch}
    (present : ((start world seed).run incidents).world.tenures[index]? = some tenure)
    (phase : tenure.keeper.phase = .reading watch) :
    let docket := (start world seed).run incidents
    (watch.intake.drained = true →
      ∀ settings view step, tenure.keeper.step settings view = some step →
        step.1.isReading = true ∨ view.stopping = true ∨
          ∃ error, step.1 = (tenure.keeper.lose settings view watch error).1 ∧
            ((∃ cause, error = .channel cause) ∨ ∃ limit, error = .silence limit)) ∧
    (watch.intake.drained = false →
      ∀ front later, watch.intake.decoder.drain.1 = front ++ later →
        (∀ early frame rest, front = early ++ frame :: rest → ¬(docket.heed early).IsFatal frame) →
        ∀ choices : List (Bool × Binary64), choices.length = front.length →
          let after :=
            docket.world.play (choices.map fun choice => .keeper index choice.1 choice.2)
          ∃ watching, World.StillReads (docket.world.heed front) after index tenure watching ∧
            ∀ stopFirst drawn,
              let keeper := tenure.keeper.enter (.reading watching)
              let view := after.sight { tenure with keeper } stopFirst drawn
              let next := after.keeperMoveBy? index stopFirst drawn
              (∀ frame rest, later = frame :: rest → (docket.heed front).IsFatal frame →
                next = some (Keeper.after (.handle frame) (keeper.lose after.settings view watching
                  (.server ((frame.header? Wire.Header.message).getD "server error")
                    (Text.lossy frame.body))))) ∧
              (∀ error, later = [] → watch.intake.decoder.drain.2.1 = some error →
                next = some (keeper.lose after.settings view watching (.undecodable error))) ∧
              (later = [] → watch.intake.decoder.drain.2.1 = none →
                ∃ intake, intake.drained = true ∧
                  next = some (keeper.enter (.reading { watching with intake }), []))) ∧
    ∀ front frame later, (docket.world.heed front).drops frame = true →
      ¬(docket.heed front).IsFatal frame ∧
      (∀ next, (docket.heed (front ++ frame :: later)).IsFatal next ↔
        (docket.heed (front ++ later)).IsFatal next) ∧
      ∃ noted seen,
        (docket.world.heed (front ++ later)).log = (docket.world.heed front).log ++ seen ∧
        docket.world.heed (front ++ frame :: later) =
          { docket.world.heed (front ++ later) with
            log := (docket.world.heed front).log ++ noted ++ seen } ∧
        (noted = #[] ∨
          ∃ error destination messageId, noted = #[.refused error destination messageId]) := by
  intro docket
  have kept : docket.IsKept := isKept_run world seed incidents
  refine ⟨fun drained settings view step => Keeper.step_of_drained phase drained,
    fun undrained front later split harmless choices length => ?_,
    fun front frame later dropped => ⟨?_, kept.isFatal_of_drops dropped, ?_⟩⟩
  · have drains : watch.intake.decoder.drain = (front ++ later, watch.intake.decoder.drain.2) :=
      Prod.ext split rfl
    obtain ⟨intake, intakeUndrained, intakeDrains, reading⟩ :=
      World.stillReads_play present phase undrained drains
        (fun early frame rest among =>
          (kept.not_isFatal_heed_iff early frame).mp (harmless early frame rest among)) length
    refine ⟨{ watch with intake }, reading, fun stopFirst drawn => ⟨?_, ?_, ?_⟩⟩
    · rintro frame rest rfl fatal
      obtain ⟨_, found, -⟩ := Intake.next_of_drain_cons intakeDrains
      exact reading.fails_of_frame intakeUndrained found ((kept.isFatal_heed_iff _ _).mp fatal)
    · rintro error rfl faulty
      rw [faulty] at intakeDrains
      obtain ⟨_, found⟩ := Intake.next_of_drain_fault intakeDrains
      exact reading.fails_of_fault intakeUndrained found
    · rintro rfl clean
      rw [clean] at intakeDrains
      have found := Intake.next_of_drain_nothing intakeDrains
      exact ⟨_, rfl, reading.waits_of_nothing intakeUndrained found⟩
  · exact (kept.not_isFatal_heed_iff front frame).mpr (World.ends_of_drops dropped)
  · rw [World.heed_append, World.heed_append]
    exact World.heed_of_drops dropped later

/-- A keeper whose session is connected, and what came in for it. -/
def reader (frames : List Frame) : Tenure where
  keeper := (Keeper.fresh ⟨"wss://feed", "feed", true⟩ .empty).enter
    (.reading ⟨⟨⟨frames.flatMap Frame.encode, 4096⟩, false⟩, none, none, 0⟩)
  stopping := false
  attempt := none
  channel := none
  writer := none

/-- A message whose callback crashes, one that is no event, a receipt about nothing and the refusal
of the only subscription leave a session connected; the same refusal once more ends it. -/
theorem session_ends_at_second_refusal :
    let message := (Frame.ofCommand .message).withHeader Wire.Header.destination "/a"
    let refusal := about .error (identifier 7 .subscription 0)
    let front := [message.withJson (.object []), message, about .receipt "nothing", refusal]
    let tenure := reader (front ++ [refusal])
    let world :=
      { World.fresh .standard ⟨.zero, .accept .accepting⟩ 0 with tenures := [tenure] }
    let docket := (start world 7).run [.subscribe true "/a" ⟨"a", .crash⟩, .attach 1 0]
    let choices := front.map fun _ => (true, Binary64.zero)
    let after := docket.world.play (choices.map fun choice => .keeper 0 choice.1 choice.2)
    ¬docket.IsFatal refusal ∧ (docket.heed front).IsFatal refusal ∧
      docket.world.tenures[0]? = some tenure ∧
      ∃ keeper watching, after.keeperMoveBy? 0 true .zero =
        some (Keeper.after (.handle refusal) (Keeper.lose after.settings
          (after.sight { tenure with keeper } true .zero) keeper watching
          (.server "server error" ""))) := by
  intro message refusal front tenure world docket choices after
  have kept : docket.IsKept := isKept_run world 7 _
  have fatal : (docket.heed front).IsFatal refusal := by
    rw [kept.isFatal_heed_iff]
    decide +kernel
  have each : ∀ place : Fin front.length,
      (docket.world.heed (front.take place)).ends front[place] = false := by decide +kernel
  have present : docket.world.tenures[0]? = some tenure := rfl
  obtain ⟨-, reads, -⟩ := only_fatal_frames_end_sessions world 7
    [.subscribe true "/a" ⟨"a", .crash⟩, .attach 1 0] present rfl
  obtain ⟨watching, -, next⟩ := reads rfl front [refusal] (by decide +kernel)
    (fun early frame rest split => by
      have inside : early.length < front.length := by rw [split]; simp
      have first : front.take early.length = early := by rw [split]; simp
      have here : front[early.length] = frame := by simp [split]
      have harmless := (kept.not_isFatal_heed_iff _ _).mpr (each ⟨early.length, inside⟩)
      rwa [first, show front[(⟨early.length, inside⟩ : Fin front.length)] = frame from here]
        at harmless)
    choices rfl
  refine ⟨(kept.not_isFatal_heed_iff [] refusal).mpr (by decide +kernel), fatal, present,
    tenure.keeper.enter (.reading watching), watching, ?_⟩
  have said : (refusal.header? Wire.Header.message).getD "server error" = "server error" := by
    decide +kernel
  have empty : Text.lossy refusal.body = "" := by decide +kernel
  have fails := (next true .zero).1 refusal [] rfl fatal
  rw [said, empty] at fails
  exact fails

end Docket

end EventFeed
