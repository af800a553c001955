/-
**What a session hears.**

The bytes of a server come in chunks that have nothing to do with its frames, and one decoder is
handed from the wait for the answer to the connected session, with whatever came behind the answer.
Here all chunks that a session took are put together again and read at once: the frames found that
way are, in order, heart-beats, the answer that connects the session, and the frames that it
handled. None is lost, repeated or out of place, wherever the chunks are cut.

* `Diary.hearing_of_awaits`, `Diary.hearing_of_listens`: what one step keeps of what was heard;
* `Diary.hearing_follow`: what was heard at every moment of a session;
* `Diary.session_heard`: when a session gets connected, which frames it handles, and that none is
  left when it ends by itself.
-/

import EventFeed.Proofs.Monitor.Diary
import EventFeed.Proofs.Monitor.Intake

namespace EventFeed

open EventFeed.Time
open EventFeed.Wire (Frame DecodeError framesOf)

/-! ### What a session takes and handles -/

/-- The frame that is handled, if one is. -/
def Effect.handled? : Effect → Option Frame
  | .handle frame => some frame
  | _ => none

namespace Keeper

/-- What came in and is not handled yet, while the answer is awaited or the session is connected. -/
def intake? (keeper : Keeper) : Option Intake :=
  match keeper.phase with
  | .awaiting intake _ => some intake
  | .reading watch => some watch.intake
  | _ => none

end Keeper

namespace Entry

/-- What is taken from the channel: a chunk, or the news that there will be none any more. -/
def taken? (entry : Entry) : Option Arrival :=
  if .take ∈ entry.effects then entry.view.arrival else none

def chunk? (entry : Entry) : Option (List UInt8) :=
  entry.taken?.bind Except.toOption

/-- Whether the channel breaks or ends. -/
def ends (entry : Entry) : Bool :=
  entry.taken?.any fun arrival => arrival.toOption.isNone

def handled (entry : Entry) : List Frame :=
  entry.effects.filterMap Effect.handled?

/-- Whether the session gets connected. -/
def Connects (entry : Entry) : Prop :=
  .happened .handshakeAcknowledged ∈ entry.effects

/-- Whether no frame is handled that ends the session. -/
def IsHarmless (entry : Entry) : Prop :=
  ∀ frame ∈ entry.handled, Keeper.isFatal entry.view frame = false

/-- Whether the frame that is handled ends the session. -/
def IsFatal (entry : Entry) : Prop :=
  ∃ frame, entry.handled = [frame] ∧ Keeper.isFatal entry.view frame = true

/-- Whether neither a stop nor its deadline ends the wait for the answer. -/
def isUndisturbed (entry : Entry) : Bool :=
  match entry.before.phase with
  | .awaiting intake deadline =>
    !intake.drained || !entry.view.stopping &&
      (entry.view.arrival.isSome || !isDue entry.view.now deadline)
  | _ => true

/-- Whether what came in passes no limit. -/
def fits (entry : Entry) : Bool :=
  match entry.before.intake? with
  | none => true
  | some intake =>
    match intake.next with
    | (.error ⟨.tooLarge _, _⟩, _) => false
    | _ => true

/-- Whether nothing gets in the way of a session but what comes in. -/
def isPlain (entry : Entry) : Bool :=
  entry.isUndisturbed && entry.fits

theorem going_of_isPlain {entry : Entry} (plain : entry.isPlain = true) {intake : Intake}
    {deadline : Nat} (phase : entry.before.phase = .awaiting intake deadline)
    (drained : intake.drained = true) : entry.view.stopping = false ∧
      (entry.view.arrival = none → isDue entry.view.now deadline = false) := by
  have undisturbed := (Bool.and_eq_true_iff.mp plain).1
  simp only [isUndisturbed, phase, drained, Bool.not_true, Bool.false_or, Bool.and_eq_true,
    Bool.not_eq_true', Bool.or_eq_true] at undisturbed
  exact ⟨undisturbed.1, fun silent => by simpa [silent] using undisturbed.2⟩

theorem fits_of_isPlain {entry : Entry} (plain : entry.isPlain = true) {intake rest : Intake}
    {error : DecodeError} (before : entry.before.intake? = some intake)
    (found : intake.next = (.error error, rest)) (limit : Nat) :
    error.fault ≠ .tooLarge limit := by
  have fits := (Bool.and_eq_true_iff.mp plain).2
  obtain ⟨fault, shown⟩ := error
  rintro rfl
  simp [Entry.fits, before, found] at fits

end Entry

namespace Diary

/-- The bytes that are taken from the channel. -/
def bytes (entries : List Entry) : List UInt8 :=
  (entries.filterMap Entry.chunk?).flatten

/-- The frames that are handled, in order. -/
def handled (entries : List Entry) : List Frame :=
  entries.flatMap Entry.handled

theorem bytes_concat (entries : List Entry) (entry : Entry) :
    bytes (entries ++ [entry]) = bytes entries ++ entry.chunk?.getD [] := by
  unfold bytes
  rw [List.filterMap_append, List.flatten_append]
  cases chunk : entry.chunk? <;> simp [chunk]

theorem handled_concat (entries : List Entry) (entry : Entry) :
    handled (entries ++ [entry]) = handled entries ++ entry.handled := by
  simp [handled]

/-! ### What was heard at a moment of a session -/

/-- While the answer is awaited, only heart-beats were heard. -/
structure Awaits (entries : List Entry) (intake : Intake) : Prop where
  unconnected : ∀ entry ∈ entries, ¬entry.Connects
  unhandled : handled entries = []
  unended : ∀ entry ∈ entries, entry.ends = false
  looked : intake.drained = true → intake.decoder.next.1 = .ok none
  heard : ∃ beats : List Frame, (∀ beat ∈ beats, beat.command = .heartbeat) ∧
    Heard (bytes entries) beats intake

/-- While the session is connected, heart-beats were heard, the answer, and the frames that were
handled. -/
structure Listens (entries : List Entry) (intake : Intake) : Prop where
  connected : ∃ entry ∈ entries, entry.Connects
  harmless : ∀ entry ∈ entries, entry.IsHarmless
  looked : intake.drained = true → intake.decoder.next.1 = .ok none
  heard : ∃ (beats : List Frame) (answer : Frame), (∀ beat ∈ beats, beat.command = .heartbeat) ∧
    answer.command = .connected ∧ Heard (bytes entries) (beats ++ answer :: handled entries) intake

/-- The session was over before it was connected, and no bytes that could still come would have
connected it. -/
structure Refused (entries : List Entry) : Prop where
  unconnected : ∀ entry ∈ entries, ¬entry.Connects
  unhandled : handled entries = []
  hopeless : ∀ stream, bytes entries <+: stream →
    ((∃ entry ∈ entries, entry.ends = true) → stream = bytes entries) →
    connects (framesOf stream).1 = false

/-- Why a connected session was over with the given step: its frame ended the session, or all frames
were handled that came before a fault, or all that came. -/
inductive EndsWith (entries : List Entry) (last : Entry) (later : List Frame) : Prop where
  | fatal (fatal : last.IsFatal)
  | faulty (harmless : last.IsHarmless) (all : later = []) {intake rest : Intake}
      {error : DecodeError} (before : last.before.intake? = some intake)
      (found : intake.next = (.error error, rest))
      (fault : (framesOf (bytes entries)).2.1 = some error.fault)
  | drained (harmless : last.IsHarmless) (all : later = []) {intake : Intake}
      (before : last.before.intake? = some intake) (nothing : intake.decoder.next.1 = .ok none)

/-- The session was connected and is over. -/
structure Ended (entries : List Entry) : Prop where
  connected : ∃ entry ∈ entries, entry.Connects
  heard : ∃ (beats later : List Frame) (answer : Frame),
    (∀ beat ∈ beats, beat.command = .heartbeat) ∧ answer.command = .connected ∧
    (framesOf (bytes entries)).1 = beats ++ answer :: (handled entries ++ later) ∧
    ∃ front last, entries = front ++ [last] ∧ (∀ entry ∈ front, entry.IsHarmless) ∧
      EndsWith entries last later

/-- What was heard so far, by how far the session is. -/
inductive Hearing (diary : Diary) : Prop where
  | awaits {intake : Intake} {deadline : Nat}
      (phase : diary.keeper.phase = .awaiting intake deadline)
      (awaits : Awaits diary.entries intake)
  | listens {watch : Watch} (phase : diary.keeper.phase = .reading watch)
      (listens : Listens diary.entries watch.intake)
  | refused (gone : diary.keeper.intake? = none) (refused : Refused diary.entries)
  | ended (gone : diary.keeper.intake? = none) (ended : Ended diary.entries)

variable {front : List Entry} {entry : Entry} {intake rest : Intake}

/-- A step in which the session does no more than to take a chunk or to look at what came in. -/
structure IsQuiet (entry : Entry) : Prop where
  unconnected : ¬entry.Connects
  unhandled : entry.handled = []
  unended : entry.ends = false

theorem Awaits.concat (awaits : Awaits front intake) (quiet : IsQuiet entry)
    (looked : rest.drained = true → rest.decoder.next.1 = .ok none)
    (heard : ∀ beats, Heard (bytes front) beats intake → ∃ more : List Frame,
      (∀ beat ∈ more, beat.command = .heartbeat) ∧
        Heard (bytes (front ++ [entry])) (beats ++ more) rest) :
    Awaits (front ++ [entry]) rest := by
  obtain ⟨unconnected, unhandled, unended, -, beats, areBeats, heardBefore⟩ := awaits
  obtain ⟨more, areBeatsToo, heardAfter⟩ := heard beats heardBefore
  refine ⟨?_, ?_, ?_, looked, beats ++ more, ?_, heardAfter⟩
  · intro other member
    rcases List.mem_append.mp member with old | new
    · exact unconnected other old
    · rw [List.mem_singleton.mp new]
      exact quiet.unconnected
  · rw [handled_concat, unhandled, quiet.unhandled]
    rfl
  · intro other member
    rcases List.mem_append.mp member with old | new
    · exact unended other old
    · rw [List.mem_singleton.mp new]
      exact quiet.unended
  · intro beat member
    exact (List.mem_append.mp member).elim (areBeats beat) (areBeatsToo beat)

section Steps

variable {settings : Settings} {view : View} {keeper : Keeper} {step : Keeper.Step}

theorem awaiting_unique {waiting : Intake} {deadline late : Nat}
    (phase : keeper.phase = .awaiting intake deadline)
    (same : keeper.phase = .awaiting waiting late) : waiting = intake ∧ late = deadline := by
  cases phase.symm.trans same
  exact ⟨rfl, rfl⟩

theorem reading_unique {watch watching : Watch} (phase : keeper.phase = .reading watch)
    (same : keeper.phase = .reading watching) : watching = watch := by
  cases phase.symm.trans same
  rfl

/-- A step that takes nothing takes no bytes. -/
theorem bytes_of_untaken (untaken : .take ∉ entry.effects) :
    bytes (front ++ [entry]) = bytes front := by
  rw [bytes_concat, Entry.chunk?, Entry.taken?, if_neg untaken]
  exact List.append_nil _

theorem ends_of_untaken (untaken : .take ∉ entry.effects) : entry.ends = false := by
  rw [Entry.ends, Entry.taken?, if_neg untaken]
  rfl

/-- A failure adds nothing to what was handled, takes nothing and connects nothing. -/
theorem tail_fail (settings : Settings) (view : View) (keeper : Keeper) (error : SessionError)
    (uptime : Option Nat) : ∀ effect ∈ (keeper.fail settings view error uptime).2,
      effect ≠ .take ∧ effect.handled? = none ∧ effect ≠ .happened .handshakeAcknowledged := by
  refine Keeper.forall_mem_fail (by simp [Effect.handled?]) (by simp [Effect.handled?])
    (fun effect tells => ?_) settings view keeper error uptime
  cases effect <;> first | (cases tells; done) | simp [Effect.handled?]

/-- What is done in a step that ends with such effects is what its first effects do. -/
theorem idle_tail {earlier tail : List Effect} (does : entry.effects = earlier ++ tail)
    (quiet : ∀ effect ∈ tail, effect ≠ .take ∧ effect.handled? = none ∧
      effect ≠ .happened .handshakeAcknowledged) :
    (entry.Connects ↔ .happened .handshakeAcknowledged ∈ earlier) ∧
      entry.handled = earlier.filterMap Effect.handled? ∧
      (.take ∈ entry.effects ↔ .take ∈ earlier) := by
  have noneHandled : tail.filterMap Effect.handled? = [] :=
    List.filterMap_eq_nil_iff.mpr fun effect member => (quiet effect member).2.1
  unfold Entry.Connects Entry.handled
  rw [does, List.filterMap_append, noneHandled, List.append_nil]
  simp only [List.mem_append, true_and]
  exact ⟨or_iff_left fun member => (quiet _ member).2.2 rfl,
    or_iff_left fun member => (quiet _ member).1 rfl⟩

theorem intake?_fail (settings : Settings) (view : View) (keeper : Keeper) (error : SessionError)
    (uptime : Option Nat) : (keeper.fail settings view error uptime).1.intake? = none := by
  rcases Keeper.phase_fail settings view keeper error uptime with ⟨_, phase⟩ | ⟨_, phase⟩ <;>
    rw [Keeper.intake?, phase]

/-- A session that is not connected yet and whose first frame that matters is no answer, or that can
get no more frames, was refused. -/
theorem Awaits.refused (awaits : Awaits front intake) (unconnected : ¬entry.Connects)
    (unhandled : entry.handled = [])
    (hopeless : ∀ stream, bytes (front ++ [entry]) <+: stream →
      (entry.ends = true → stream = bytes (front ++ [entry])) →
      connects (framesOf stream).1 = false) : Refused (front ++ [entry]) := by
  refine ⟨fun other member => ?_, ?_, fun stream grows atEnd => hopeless stream grows fun ends =>
    atEnd ⟨entry, List.mem_append_right _ List.mem_cons_self, ends⟩⟩
  · rcases List.mem_append.mp member with old | new
    · exact awaits.unconnected other old
    · exact List.mem_singleton.mp new ▸ unconnected
  · rw [handled_concat, awaits.unhandled, unhandled]
    rfl

/-- A session that fails while the answer is awaited was refused. -/
theorem refused_of_fails (awaits : Awaits front intake) {deadline : Nat}
    (phase : keeper.phase = .awaiting intake deadline) {error : SessionError}
    {earlier : List Effect} (reason : Keeper.FailsBy settings view keeper error earlier)
    (isFail : entry = ⟨view, keeper, (keeper.fail settings view error none).1,
      earlier ++ (keeper.fail settings view error none).2⟩)
    (plain : entry.isPlain = true) : Refused (front ++ [entry]) := by
  have isBefore : entry.before = keeper := congrArg Entry.before isFail
  have isView : entry.view = view := congrArg Entry.view isFail
  have doing : entry.effects = earlier ++ (keeper.fail settings view error none).2 :=
    congrArg Entry.effects isFail
  obtain ⟨connects, handled, takes⟩ := idle_tail doing (tail_fail settings view keeper error none)
  obtain ⟨beats, areBeats, heard⟩ := awaits.heard
  cases reason with
  | undecodable phase' undrained found =>
    obtain ⟨rfl, rfl⟩ := awaiting_unique phase phase'
    have kept : bytes (front ++ [entry]) = bytes front := bytes_of_untaken (by simp [takes])
    refine awaits.refused (by simp [connects]) handled fun stream grows _ => ?_
    have fits := Entry.fits_of_isPlain plain (by rw [isBefore, Keeper.intake?, phase]) found
    obtain ⟨more, rfl⟩ := kept ▸ grows
    rw [Wire.framesOf_append_of_fault (heard.fault found fits) more]
    exact connects_of_beats areBeats
  | rejected phase' undrained found isError =>
    obtain ⟨rfl, rfl⟩ := awaiting_unique phase phase'
    have kept : bytes (front ++ [entry]) = bytes front := bytes_of_untaken (by simp [takes])
    refine awaits.refused (by simp [connects]) handled fun stream grows _ => ?_
    exact connects_of_prefix areBeats (by simp [isError]) (by simp [isError])
      ((heard.frame found).prefix_stream (kept ▸ grows))
  | unexpected phase' undrained found noBeat noAnswer =>
    obtain ⟨rfl, rfl⟩ := awaiting_unique phase phase'
    have kept : bytes (front ++ [entry]) = bytes front := bytes_of_untaken (by simp [takes])
    refine awaits.refused (by simp [connects]) handled fun stream grows _ => ?_
    exact connects_of_prefix areBeats noBeat noAnswer
      ((heard.frame found).prefix_stream (kept ▸ grows))
  | @broken _ _ error phase' drained arrival =>
    obtain ⟨rfl, rfl⟩ := awaiting_unique phase phase'
    have taken : entry.taken? = some (.error error) := by
      rw [Entry.taken?, if_pos (by simp [takes]), isView, arrival]
    have ends : entry.ends = true := by
      rw [Entry.ends, taken]
      rfl
    have kept : bytes (front ++ [entry]) = bytes front := by
      rw [bytes_concat, Entry.chunk?, taken]
      exact List.append_nil _
    refine awaits.refused (by simp [connects]) handled fun stream _ atEnd => ?_
    rw [atEnd ends, kept, heard.all (awaits.looked drained)]
    exact connects_of_beats areBeats
  | late phase' drained silent late =>
    obtain ⟨rfl, rfl⟩ := awaiting_unique phase phase'
    have going := (Entry.going_of_isPlain plain (isBefore ▸ phase) drained).2 (isView ▸ silent)
    rw [isView] at going
    cases late.symm.trans going
  | refused phase' | unanswered phase' | unwritten phase' => cases phase.symm.trans phase'

/-- **What is heard in a step while the answer is awaited.** -/
theorem hearing_of_awaits (awaits : Awaits front intake) {deadline : Nat}
    (phase : keeper.phase = .awaiting intake deadline)
    (stepped : keeper.step settings view = some step)
    (plain : Entry.isPlain ⟨view, keeper, step.1, step.2⟩ = true) :
    Hearing ⟨step.1, front ++ [⟨view, keeper, step.1, step.2⟩]⟩ := by
  cases Keeper.deed_of_step stepped with
  | @hears _ _ chunk phase' drained arrival =>
    obtain ⟨rfl, rfl⟩ := awaiting_unique phase phase'
    have taken : ∀ after, Entry.taken? ⟨view, keeper, after, [.take]⟩ = some (.ok chunk) := by
      intro after
      rw [Entry.taken?, if_pos List.mem_cons_self, arrival]
    refine .awaits rfl (awaits.concat ⟨by simp [Entry.Connects], rfl, ?_⟩ nofun
      fun beats heard => ⟨[], nofun, ?_⟩)
    · rw [Entry.ends, taken]
      rfl
    · rw [bytes_concat, Entry.chunk?, taken, List.append_nil]
      exact heard.feed (awaits.looked drained) chunk
  | @looks _ rest _ found phase' undrained next beat =>
    obtain ⟨rfl, rfl⟩ := awaiting_unique phase phase'
    have untaken : Effect.take ∉ ([] : List Effect) := List.not_mem_nil
    refine .awaits rfl (awaits.concat ⟨List.not_mem_nil, rfl, ends_of_untaken untaken⟩ ?_
      fun beats heard => ?_)
    · cases found with
      | none => exact fun _ => (Intake.decoder_of_nothing next).2
      | some frame =>
        intro drained
        rw [(Intake.framesOf_of_frame next).1] at drained
        cases drained
    · rw [bytes_of_untaken untaken]
      cases found with
      | none => exact ⟨[], nofun, (List.append_nil beats).symm ▸ heard.nothing next⟩
      | some frame =>
        refine ⟨[frame], fun other member => ?_, heard.frame next⟩
        rw [List.mem_singleton.mp member]
        exact beat frame rfl
  | @connects _ rest _ answer phase' undrained found answers =>
    obtain ⟨rfl, rfl⟩ := awaiting_unique phase phase'
    obtain ⟨beats, areBeats, heard⟩ := awaits.heard
    have untaken : Effect.take ∉ (keeper.connect settings view answer rest).2 := by
      simp [Keeper.connect]
    have handledNow : handled (front ++ [⟨view, keeper,
        (keeper.connect settings view answer rest).1,
        (keeper.connect settings view answer rest).2⟩]) = [] := by
      rw [handled_concat, awaits.unhandled]
      rfl
    refine .listens rfl ⟨⟨_, List.mem_append_right _ List.mem_cons_self, ?_⟩,
      fun other member => ?_, fun drained => ?_, beats, answer, areBeats, answers, ?_⟩
    · exact List.mem_cons_self
    · intro frame among
      have inAll : frame ∈ handled _ := List.mem_flatMap.mpr ⟨other, member, among⟩
      rw [handledNow] at inAll
      cases inAll
    · have undrained' : rest.drained = false := (Intake.framesOf_of_frame found).1
      cases undrained'.symm.trans drained
    · rw [bytes_of_untaken untaken, handledNow]
      exact heard.frame found
  | hangsUp phase' drained stopping =>
    obtain ⟨rfl, rfl⟩ := awaiting_unique phase phase'
    have going := (Entry.going_of_isPlain plain phase drained).1
    cases stopping.symm.trans going
  | fails reason =>
    exact .refused (intake?_fail _ _ _ _ _) (refused_of_fails awaits phase reason rfl plain)
  | concludes _ phase' =>
    rcases phase' with ⟨_, other⟩ | other | ⟨_, other⟩ <;> cases phase.symm.trans other
  | crashes phase' =>
    rcases phase' with ⟨_, other⟩ | other | other <;> cases phase.symm.trans other
  | _ => cases phase.symm.trans ‹_›

/-- A connected session goes on. -/
theorem Listens.concat (listens : Listens front intake) (harmless : entry.IsHarmless)
    (looked : rest.drained = true → rest.decoder.next.1 = .ok none)
    (heard : ∀ frames, Heard (bytes front) frames intake →
      Heard (bytes (front ++ [entry])) (frames ++ entry.handled) rest) :
    Listens (front ++ [entry]) rest := by
  obtain ⟨⟨first, among, connects⟩, harmlessBefore, -, beats, answer, areBeats, answers, before⟩ :=
    listens
  refine ⟨⟨first, List.mem_append_left _ among, connects⟩, fun other member => ?_, looked,
    beats, answer, areBeats, answers, ?_⟩
  · rcases List.mem_append.mp member with old | new
    · exact harmlessBefore other old
    · exact List.mem_singleton.mp new ▸ harmless
  · have after := heard _ before
    rwa [List.append_assoc, List.cons_append, ← handled_concat] at after

/-- A connected session is over. -/
theorem Listens.ended (listens : Listens front intake) (later : List Frame)
    (heard : ∀ frames, Heard (bytes front) frames intake →
      (framesOf (bytes (front ++ [entry]))).1 = frames ++ entry.handled ++ later)
    (reason : EndsWith (front ++ [entry]) entry later) : Ended (front ++ [entry]) := by
  obtain ⟨⟨first, among, connects⟩, harmless, -, beats, answer, areBeats, answers, before⟩ :=
    listens
  refine ⟨⟨first, List.mem_append_left _ among, connects⟩, beats, later, answer, areBeats, answers,
    ?_, front, entry, rfl, harmless, reason⟩
  simp only [heard _ before, handled_concat, List.append_assoc, List.cons_append]

theorem harmless_of_unhandled (unhandled : entry.handled = []) : entry.IsHarmless := by
  intro frame among
  rw [unhandled] at among
  cases among

/-- A connected session that ends when nothing more is found has handled all that came. -/
theorem Listens.ended_of_drained (listens : Listens front intake)
    (before : entry.before.intake? = some intake) (drained : intake.drained = true)
    (kept : bytes (front ++ [entry]) = bytes front) (unhandled : entry.handled = []) :
    Ended (front ++ [entry]) := by
  have nothing := listens.looked drained
  refine listens.ended [] (fun frames heard => ?_)
    (.drained (harmless_of_unhandled unhandled) rfl before nothing)
  rw [kept, heard.all nothing, unhandled, List.append_nil, List.append_nil]

/-- A connected session that fails has handled all frames up to the one that ended it, or all that
came before a fault, or all that came. -/
theorem ended_of_loses {watch : Watch} (listens : Listens front watch.intake)
    (phase : keeper.phase = .reading watch) {error : SessionError} {earlier : List Effect}
    (reason : Keeper.LosesBy view watch error earlier)
    (isLoss : entry = ⟨view, keeper, (keeper.lose settings view watch error).1,
      earlier ++ (keeper.lose settings view watch error).2⟩)
    (plain : entry.isPlain = true) : Ended (front ++ [entry]) := by
  have isView : entry.view = view := congrArg Entry.view isLoss
  have before : entry.before.intake? = some watch.intake := by
    rw [show entry.before = keeper from congrArg Entry.before isLoss, Keeper.intake?, phase]
  have doing : entry.effects = earlier ++ (keeper.lose settings view watch error).2 :=
    congrArg Entry.effects isLoss
  have quiet : ∀ effect ∈ (keeper.lose settings view watch error).2,
      effect ≠ .take ∧ effect.handled? = none ∧ effect ≠ .happened .handshakeAcknowledged := by
    unfold Keeper.lose
    simp only [List.mem_cons]
    rintro effect (rfl | rfl | member)
    · simp [Effect.handled?]
    · simp [Effect.handled?]
    · exact tail_fail _ _ _ _ _ effect member
  obtain ⟨-, handled, takes⟩ := idle_tail doing quiet
  cases reason with
  | undecodable undrained found =>
    have kept : bytes (front ++ [entry]) = bytes front := bytes_of_untaken (by simp [takes])
    have fits := Entry.fits_of_isPlain plain before found
    obtain ⟨beats, answer, -, -, heard⟩ := listens.heard
    refine listens.ended [] (fun frames heard => ?_)
      (.faulty (harmless_of_unhandled handled) rfl before found ?_)
    · rw [kept, heard.fault found fits, handled]
      simp
    · rw [kept, heard.fault found fits]
  | @fatal frame rest undrained found fatal =>
    have kept : bytes (front ++ [entry]) = bytes front := bytes_of_untaken (by simp [takes])
    have handledNow : entry.handled = [frame] := handled
    refine listens.ended (framesOf rest.decoder.buffer).1 (fun frames heard => ?_)
      (.fatal ⟨frame, handledNow, isView ▸ fatal⟩)
    have next := heard.frame found
    unfold Heard at next
    rw [kept, next, handledNow]
  | broken drained arrival =>
    refine listens.ended_of_drained before drained ?_ handled
    rw [bytes_concat, Entry.chunk?, Entry.taken?, if_pos (by simp [takes]), isView, arrival]
    exact List.append_nil _
  | silent drained | closed drained | ended drained =>
    exact listens.ended_of_drained before drained (bytes_of_untaken (by simp [takes])) handled

/-- **What is heard in a step of a connected session.** -/
theorem hearing_of_listens {watch : Watch} (listens : Listens front watch.intake)
    (phase : keeper.phase = .reading watch) (stepped : keeper.step settings view = some step)
    (plain : Entry.isPlain ⟨view, keeper, step.1, step.2⟩ = true) :
    Hearing ⟨step.1, front ++ [⟨view, keeper, step.1, step.2⟩]⟩ := by
  cases Keeper.deed_of_step stepped with
  | reads phase' undrained next =>
    obtain rfl := reading_unique phase phase'
    have untaken : Effect.take ∉ ([] : List Effect) := List.not_mem_nil
    refine .listens rfl (listens.concat (harmless_of_unhandled rfl)
      (fun _ => (Intake.decoder_of_nothing next).2) fun frames heard => ?_)
    rw [bytes_of_untaken untaken]
    exact (List.append_nil frames).symm ▸ heard.nothing next
  | @handles _ rest frame phase' undrained found harmless =>
    obtain rfl := reading_unique phase phase'
    have untaken : Effect.take ∉ [Effect.handle frame] := by simp
    refine .listens rfl (listens.concat ?_ (fun drained => ?_) fun frames heard => ?_)
    · intro other among
      rwa [List.mem_singleton.mp among]
    · have undrained' : rest.drained = false := (Intake.framesOf_of_frame found).1
      cases undrained'.symm.trans drained
    · rw [bytes_of_untaken untaken]
      exact heard.frame found
  | @takes _ chunk phase' drained going arrival =>
    obtain rfl := reading_unique phase phase'
    have taken : ∀ after, Entry.taken? ⟨view, keeper, after, [.take]⟩ = some (.ok chunk) := by
      intro after
      rw [Entry.taken?, if_pos List.mem_cons_self, arrival]
    refine .listens rfl (listens.concat (harmless_of_unhandled rfl) nofun fun frames heard => ?_)
    rw [bytes_concat, Entry.chunk?, taken]
    exact (List.append_nil frames).symm ▸ heard.feed (listens.looked drained) chunk
  | beats phase' drained going due =>
    obtain rfl := reading_unique phase phase'
    have untaken : Effect.take ∉ [Effect.queue .heartbeat] := by simp
    obtain ⟨beat, rfl⟩ := Watch.eq_of_beat? due
    refine .listens rfl (listens.concat (harmless_of_unhandled rfl) listens.looked
      fun frames heard => ?_)
    rw [bytes_of_untaken untaken]
    exact (List.append_nil frames).symm ▸ heard
  | loses phase' going reason =>
    obtain rfl := reading_unique phase phase'
    exact .ended (intake?_fail _ _ _ _ _) (ended_of_loses listens phase reason rfl plain)
  | @parts watch phase' drained stopping =>
    obtain rfl := reading_unique phase phase'
    have gone : (keeper.part settings view watch.intake).1.intake? = none := by
      unfold Keeper.part
      dsimp only
      split <;> rfl
    have untaken : Effect.take ∉ (keeper.part settings view watch.intake).2 := by
      unfold Keeper.part
      dsimp only
      split <;> simp
    have unhandled : (keeper.part settings view watch.intake).2.filterMap Effect.handled? = [] := by
      unfold Keeper.part
      dsimp only
      split <;> rfl
    have before : keeper.intake? = some watch.intake := by rw [Keeper.intake?, phase]
    exact .ended gone
      (listens.ended_of_drained before drained (bytes_of_untaken untaken) unhandled)
  | fails reason => cases reason <;> cases phase.symm.trans ‹_›
  | concludes _ phase' =>
    rcases phase' with ⟨_, other⟩ | other | ⟨_, other⟩ <;> cases phase.symm.trans other
  | crashes phase' =>
    rcases phase' with ⟨_, other⟩ | other | other <;> cases phase.symm.trans other
  | _ => cases phase.symm.trans ‹_›

end Steps

/-! ### What is heard in a whole session -/

section Sessions

variable {settings : Settings} {keeper : Keeper} {views : List View} {limit deadline : Nat}

theorem awaits_start (limit : Nat) : Awaits [] (.fresh limit) where
  unconnected _ member := nomatch member
  unhandled := rfl
  unended _ member := nomatch member
  looked drained := nomatch drained
  heard := ⟨[], nofun, .fresh limit⟩

/-- **What was heard at every moment of a session** whose greeting was written. -/
theorem hearing_follow (greeted : keeper.phase = .awaiting (.fresh limit) deadline)
    (within : ∀ entry ∈ (follow settings keeper views).entries, entry.before.intake?.isSome = true)
    (plain : ∀ entry ∈ (follow settings keeper views).entries, entry.isPlain = true) :
    Hearing (follow settings keeper views) := by
  induction views using List.reverseRecOn with
  | nil => exact .awaits greeted (awaits_start limit)
  | append_singleton views view ih =>
    rw [follow_concat] at within plain ⊢
    generalize follow settings keeper views = diary at ih within plain ⊢
    obtain ⟨after, entries⟩ := diary
    cases stepped : after.step settings view with
    | none =>
      rw [turn_of_none stepped] at within plain ⊢
      exact ih within plain
    | some step =>
      rw [turn_of_some stepped] at within plain ⊢
      have atEnd := within _ (List.mem_append_right _ List.mem_cons_self)
      have plainNow := plain _ (List.mem_append_right _ List.mem_cons_self)
      cases ih (fun entry old => within entry (List.mem_append_left _ old))
        (fun entry old => plain entry (List.mem_append_left _ old)) with
      | awaits phase awaits => exact hearing_of_awaits awaits phase stepped plainNow
      | listens phase listens => exact hearing_of_listens listens phase stepped plainNow
      | refused gone | ended gone =>
        rw [show after.intake? = none from gone] at atEnd
        cases atEnd

end Sessions

end Diary

/-- Whether the session looks at what came in, for its answer, before it waits for more. -/
def Keeper.isLooking (keeper : Keeper) : Bool :=
  match keeper.phase with
  | .awaiting intake _ => !intake.drained
  | _ => false

namespace Diary

section Sessions

variable {settings : Settings} {keeper : Keeper} {views : List View} {limit deadline : Nat}

theorem isLooking_of_gone (gone : keeper.intake? = none) : keeper.isLooking = false := by
  unfold Keeper.intake? at gone
  unfold Keeper.isLooking
  split at gone <;> simp_all

/-- A session that looks at what came in goes on whatever it sees, and finds a frame or has nothing
more to look at. -/
theorem turn_of_looking {diary : Diary} {intake : Intake}
    (phase : diary.keeper.phase = .awaiting intake deadline) (undrained : intake.drained = false)
    (settings : Settings) (view : View) :
    (diary.turn settings view).keeper.isLooking = false ∨
      ∃ rest, (diary.turn settings view).keeper.phase = .awaiting rest deadline ∧
        rest.decoder.buffer.length < intake.decoder.buffer.length := by
  have goesOn : ∃ step, diary.keeper.step settings view = some step :=
    ⟨diary.keeper.awaitFrame settings view intake deadline, by
      simp [Keeper.step, phase, Keeper.onAwaiting, undrained]⟩
  obtain ⟨step, stepped⟩ := goesOn
  rw [turn_of_some stepped]
  cases Keeper.deed_of_step stepped with
  | @looks _ rest _ found phase' _ next =>
    obtain ⟨rfl, rfl⟩ := awaiting_unique phase phase'
    cases found with
    | none =>
      have drained : rest.drained = true := Intake.drained_of_nothing next
      exact .inl (by simp [Keeper.isLooking, Keeper.enter, drained])
    | some frame => exact .inr ⟨rest, rfl, Intake.shrinks_of_frame next⟩
  | connects => exact .inl rfl
  | fails => exact .inl (isLooking_of_gone (intake?_fail _ _ _ _ _))
  | hears phase' drained | hangsUp phase' drained =>
    obtain ⟨rfl, rfl⟩ := awaiting_unique phase phase'
    cases undrained.symm.trans drained
  | concludes _ phase' =>
    rcases phase' with ⟨_, other⟩ | other | ⟨_, other⟩ <;> cases phase.symm.trans other
  | crashes phase' =>
    rcases phase' with ⟨_, other⟩ | other | other <;> cases phase.symm.trans other
  | _ => cases phase.symm.trans ‹_›

/-- **A session does not look at what came in forever**: after as many steps as there are bytes, it
is connected or over, or waits for more. -/
theorem exists_looked_through {intake : Intake}
    (phase : (follow settings keeper views).keeper.phase = .awaiting intake deadline)
    {more : List View} (long : intake.decoder.buffer.length < more.length) :
    ∃ early, early <+: more ∧
      (follow settings keeper (views ++ early)).keeper.isLooking = false := by
  suffices looks : (∃ early, early <+: more ∧
      (follow settings keeper (views ++ early)).keeper.isLooking = false) ∨
      ∃ rest, (follow settings keeper (views ++ more)).keeper.phase = .awaiting rest deadline ∧
        rest.decoder.buffer.length + more.length ≤ intake.decoder.buffer.length by
    rcases looks with looked | ⟨rest, -, shorter⟩
    · exact looked
    · omega
  clear long
  induction more using List.reverseRecOn with
  | nil => exact .inr ⟨intake, by rwa [List.append_nil], Nat.le_refl _⟩
  | append_singleton more view ih =>
    rcases ih with ⟨early, isPrefix, looked⟩ | ⟨rest, phase, shorter⟩
    · exact .inl ⟨early, isPrefix.trans (List.prefix_append more [view]), looked⟩
    · cases drained : rest.drained with
      | true =>
        refine .inl ⟨more, List.prefix_append more [view], ?_⟩
        simp [Keeper.isLooking, phase, drained]
      | false =>
        rw [← List.append_assoc, follow_concat]
        rcases turn_of_looking phase drained settings view with looked | ⟨last, phase, less⟩
        · refine .inl ⟨more ++ [view], List.prefix_refl _, ?_⟩
          rwa [← List.append_assoc, follow_concat]
        · refine .inr ⟨last, phase, ?_⟩
          rw [List.length_append, List.length_singleton]
          omega

end Sessions

/-- **What a session hears**, from the moment on at which its greeting was written. -/
structure HearsAll (settings : Settings) (keeper : Keeper) (views : List View) (diary : Diary) :
    Prop where
  /-- A session that has taken a whole stream and looked through it is connected if, and only if,
  the stream begins with heart-beats and the answer; one that is over sooner would not have been
  connected by anything that could still come. -/
  settles : ∀ stream, bytes diary.entries <+: stream →
    ((∃ entry ∈ diary.entries, entry.ends = true) → stream = bytes diary.entries) →
    (∃ intake deadline, diary.keeper.phase = .awaiting intake deadline) ∧
      (diary.keeper.isLooking = true ∨ bytes diary.entries ≠ stream) ∨
    ((∃ entry ∈ diary.entries, entry.Connects) ↔ connects (framesOf stream).1 = true)
  /-- It does not look at what came in forever. -/
  looks : ∀ intake deadline, diary.keeper.phase = .awaiting intake deadline → ∀ more : List View,
    intake.decoder.buffer.length < more.length → ∃ early, early <+: more ∧
      (follow settings keeper (views ++ early)).keeper.isLooking = false
  unconnected : (∀ entry ∈ diary.entries, ¬entry.Connects) → handled diary.entries = []
  /-- What it handles are, in order, the first frames behind the answer: all that came when it has
  looked at everything, and all up to the first one that ends the session or up to a fault. -/
  connected : (∃ entry ∈ diary.entries, entry.Connects) → ∃ answer later,
    (framesOf (bytes diary.entries)).1.dropWhile Frame.isHeartbeat =
      answer :: (handled diary.entries ++ later) ∧ answer.command = .connected ∧
    ((∃ watch, diary.keeper.phase = .reading watch ∧ (watch.intake.drained = true → later = []) ∧
        ∀ entry ∈ diary.entries, entry.IsHarmless) ∨
      diary.keeper.intake? = none ∧ ∃ front last, diary.entries = front ++ [last] ∧
        (∀ entry ∈ front, entry.IsHarmless) ∧ EndsWith diary.entries last later)

section Sessions

variable {settings : Settings} {keeper : Keeper} {views : List View} {limit deadline : Nat}

/-- **No frame of the server is lost, repeated or out of place**, wherever its bytes are cut. -/
theorem session_heard (greeted : keeper.phase = .awaiting (.fresh limit) deadline)
    (within : ∀ entry ∈ (follow settings keeper views).entries, entry.before.intake?.isSome = true)
    (plain : ∀ entry ∈ (follow settings keeper views).entries, entry.isPlain = true) :
    HearsAll settings keeper views (follow settings keeper views) := by
  have hearing := hearing_follow greeted within plain
  have looks : ∀ intake deadline,
      (follow settings keeper views).keeper.phase = .awaiting intake deadline →
      ∀ more : List View, intake.decoder.buffer.length < more.length → ∃ early, early <+: more ∧
        (follow settings keeper (views ++ early)).keeper.isLooking = false :=
    fun intake deadline phase more long => exists_looked_through phase long
  generalize follow settings keeper views = diary at hearing looks ⊢
  cases hearing with
  | @awaits intake deadline phase awaits =>
    obtain ⟨unconnected, unhandled, -, looked, beats, areBeats, heard⟩ := awaits
    have notYet : ¬∃ entry ∈ diary.entries, entry.Connects := fun ⟨entry, among, connects⟩ =>
      unconnected entry among connects
    refine ⟨fun stream grows _ => ?_, looks, fun _ => unhandled, fun connected =>
      absurd connected notYet⟩
    by_cases whole : diary.keeper.isLooking = true ∨ bytes diary.entries ≠ stream
    · exact .inl ⟨⟨intake, deadline, phase⟩, whole⟩
    · obtain ⟨notLooking, same⟩ := not_or.mp whole
      have drained : intake.drained = true := by
        simpa [Keeper.isLooking, phase] using notLooking
      right
      rw [← not_ne_iff.mp same, heard.all (looked drained), connects_of_beats areBeats]
      exact iff_of_false notYet nofun
  | @listens watch phase listens =>
    obtain ⟨connected, harmless, looked, beats, answer, areBeats, answers, heard⟩ := listens
    refine ⟨fun stream grows _ => .inr (iff_of_true connected ?_), looks, fun unconnected => ?_,
      fun _ => ⟨answer, (framesOf watch.intake.decoder.buffer).1, ?_, answers,
        .inl ⟨watch, phase, fun drained => ?_, harmless⟩⟩⟩
    · exact connects_of_answer areBeats answers (heard.prefix_stream grows)
    · obtain ⟨entry, among, connects⟩ := connected
      exact absurd connects (unconnected entry among)
    · unfold Heard at heard
      rw [heard, List.append_assoc, List.cons_append, dropWhile_answer areBeats answers]
    · rw [Intake.framesOf_of_nothing (looked drained)]
  | refused gone refused =>
    obtain ⟨unconnected, unhandled, hopeless⟩ := refused
    have notYet : ¬∃ entry ∈ diary.entries, entry.Connects := fun ⟨entry, among, connects⟩ =>
      unconnected entry among connects
    refine ⟨fun stream grows atEnd => .inr (iff_of_false notYet ?_), looks, fun _ => unhandled,
      fun connected => absurd connected notYet⟩
    rw [hopeless stream grows atEnd]
    nofun
  | ended gone ended =>
    obtain ⟨connected, beats, later, answer, areBeats, answers, heard, reason⟩ := ended
    refine ⟨fun stream grows _ => .inr (iff_of_true connected ?_), looks, fun unconnected => ?_,
      fun _ => ⟨answer, later, ?_, answers, .inr ⟨gone, reason⟩⟩⟩
    · obtain ⟨more, rfl⟩ := grows
      have isPrefix := framesOf_grows (bytes diary.entries) more
      rw [heard] at isPrefix
      exact connects_of_answer areBeats answers isPrefix
    · obtain ⟨entry, among, connects⟩ := connected
      exact absurd connects (unconnected entry among)
    · rw [heard, dropWhile_answer areBeats answers]

/-- What a session sees while nothing happens. -/
def stillness : View where
  now := 0
  stopping := false
  stopFirst := true
  dial := .pending
  sink := .accepting
  arrival := none
  writerOpen := true
  writerEnd := none
  awaits := fun _ => false
  receipt := ""
  drawn := .zero

/-- A keeper that has written its greeting. -/
def greeted : Keeper :=
  (Keeper.fresh ⟨"wss://feed", "feed", true⟩ .empty).enter (.awaiting (.fresh 64) 1)

/-- A heart-beat, the answer and a message that come in one chunk. -/
def coalesced : View :=
  { stillness with
    arrival := some (.ok (Text.toBytes "\nCONNECTED\n\n\x00MESSAGE\n\nnews\x00")) }

/-- A message behind the answer in one chunk is handled. -/
theorem coalesced_heard :
    let views := [stillness, coalesced, stillness, stillness, stillness, stillness]
    let diary := follow .standard greeted views
    greeted.phase = .awaiting (.fresh 64) 1 ∧
    (∀ entry ∈ diary.entries, entry.before.intake?.isSome = true) ∧
    (∀ entry ∈ diary.entries, entry.isPlain = true) ∧ HearsAll .standard greeted views diary ∧
    (handled diary.entries).map Frame.body = [Text.toBytes "news"] :=
  ⟨rfl, by decide +kernel, by decide +kernel,
    session_heard rfl (by decide +kernel) (by decide +kernel), by decide +kernel⟩

end Sessions

end Diary

end EventFeed
