/-
**The silence of the server.**

A connected session fails when nothing was heard from the server for too long. How long that is
settles with the answer that connects the session; the time runs from that moment, and anew from
each chunk that is taken, whatever is in it. Heart-beats, frames that are handled, and steps that
come late or early do not move it.

* `Diary.isTimed_follow`: the deadline at every moment of a session is that of the last chunk;
* `Diary.loss?_eq_silence_iff`: when a session is given up for silence;
* `Diary.silence_is_real`: the server was silent for the whole time that it was allowed.
-/

import EventFeed.Proofs.Monitor.Hearing
import EventFeed.Proofs.Monitor.Losses

namespace EventFeed

open EventFeed.Time
open EventFeed.Wire (Frame)

namespace Entry

/-- The answer that connects the session, if it gets connected. -/
def answer? (entry : Entry) : Option Frame :=
  if .happened .handshakeAcknowledged ∈ entry.effects then
    match entry.before.intake?.map Intake.next with
    | some (.ok found, _) => found
    | _ => none
  else none

/-- Whether the server is heard: its answer connects the session, or a chunk is taken. -/
def hears (entry : Entry) : Bool :=
  entry.answer?.isSome || entry.chunk?.isSome

end Entry

namespace Diary

/-- The answer that connected the last session. -/
def answer? (entries : List Entry) : Option Frame :=
  (entries.filterMap Entry.answer?).getLast?

/-- When the server was heard last. -/
def heardAt? (entries : List Entry) : Option Nat :=
  (entries.filter Entry.hears).getLast?.map fun entry => entry.view.now

/-- How long the server may be silent, given its answer: as its heart-beats that were agreed on
tell, but never longer than a day. -/
def patience? (settings : Settings) (answer : Frame) : Option Span :=
  (settings.pulse.deadline? (agreed settings.pulse.offer answer).incoming).map fun deadline =>
    deadline.min day

/-- The watch over a session gives the server the time that its answer tells, from the moment on at
which it was heard last. -/
structure IsTimed (settings : Settings) (entries : List Entry) (watch : Watch) : Prop where
  timed : ∃ answer heard, answer? entries = some answer ∧ heardAt? entries = some heard ∧
    watch.silence = (patience? settings answer).map fun limit => (limit, heard + limit.nanos)

variable {settings : Settings} {entries : List Entry} {entry : Entry} {watch : Watch}

theorem answer?_concat (entries : List Entry) (entry : Entry) :
    answer? (entries ++ [entry]) = entry.answer?.or (answer? entries) := by
  unfold answer?
  rw [List.filterMap_append, List.getLast?_append]
  congr 1
  cases answer : entry.answer? <;> simp [answer]

theorem heardAt?_concat_of_heard (heard : entry.hears = true) (entries : List Entry) :
    heardAt? (entries ++ [entry]) = some entry.view.now := by
  simp [heardAt?, heard]

theorem heardAt?_concat_of_unheard (unheard : entry.hears = false) (entries : List Entry) :
    heardAt? (entries ++ [entry]) = heardAt? entries := by
  simp [heardAt?, unheard]

/-- A step in which the server is not heard leaves its time as it is. -/
theorem IsTimed.wait (timed : IsTimed settings entries watch) (unheard : entry.hears = false)
    {after : Watch} (silence : after.silence = watch.silence) :
    IsTimed settings (entries ++ [entry]) after := by
  obtain ⟨answer, heard, answers, last, time⟩ := timed
  have noAnswer : entry.answer? = none := by
    rw [Entry.hears, Bool.or_eq_false_iff] at unheard
    exact Option.isNone_iff_eq_none.mp (by simpa using unheard.1)
  refine ⟨answer, heard, ?_, ?_, silence.trans time⟩
  · rw [answer?_concat, noAnswer, answers]
    rfl
  · rw [heardAt?_concat_of_unheard unheard, last]

/-- A chunk gives the server all its time again. -/
theorem IsTimed.take (timed : IsTimed settings entries watch) {chunk : List UInt8}
    (noAnswer : entry.answer? = none) (taken : entry.chunk? = some chunk) :
    IsTimed settings (entries ++ [entry]) (watch.feed chunk entry.view.now) := by
  obtain ⟨answer, heard, answers, -, time⟩ := timed
  refine ⟨answer, entry.view.now, ?_, ?_, ?_⟩
  · rw [answer?_concat, noAnswer, answers]
    rfl
  · exact heardAt?_concat_of_heard (by simp [Entry.hears, taken]) entries
  · show watch.silence.map _ = _
    rw [time, Option.map_map]
    rfl

/-- A session begins with all the time that its answer tells. -/
theorem isTimed_start {answer : Frame} (answers : entry.answer? = some answer)
    (entries : List Entry) (intake : Intake) :
    IsTimed settings (entries ++ [entry])
      (Watch.start settings.pulse (agreed settings.pulse.offer answer) intake entry.view.now) := by
  refine ⟨answer, entry.view.now, ?_, ?_, ?_⟩
  · rw [answer?_concat, answers]
    rfl
  · exact heardAt?_concat_of_heard (by simp [Entry.hears, answers]) entries
  · show Option.map _ _ = _
    rw [patience?, Option.map_map]
    rfl

/-- A step that stays connected and takes nothing is one in which the server is not heard. -/
theorem hears_of_untaken (unconnected : .happened .handshakeAcknowledged ∉ entry.effects)
    (untaken : .take ∉ entry.effects) : entry.hears = false := by
  simp [Entry.hears, Entry.answer?, Entry.chunk?, Entry.taken?, unconnected, untaken]

/-- Every step that ends connected keeps the time. -/
theorem isTimed_of_step {view : View} {keeper : Keeper} {step : Keeper.Step}
    (timed : ∀ watch, keeper.phase = .reading watch → IsTimed settings entries watch)
    (stepped : keeper.step settings view = some step) (phase : step.1.phase = .reading watch) :
    IsTimed settings (entries ++ [⟨view, keeper, step.1, step.2⟩]) watch := by
  have reads : step.1.isReading = true := by rw [Keeper.isReading, phase]
  have gone {after : Keeper} (idle : after.isReading = false) (same : step.1 = after) : False := by
    rw [same, idle] at reads
    cases reads
  cases Keeper.deed_of_step stepped with
  | @connects intake rest _ answer awaiting undrained found answers =>
    cases phase
    refine isTimed_start ?_ entries rest
    simp [Entry.answer?, Keeper.connect, Keeper.intake?, awaiting, found]
  | reads before =>
    cases phase
    exact (timed _ before).wait (hears_of_untaken (by simp) (by simp)) rfl
  | handles before =>
    cases phase
    exact (timed _ before).wait (hears_of_untaken (by simp) (by simp)) rfl
  | takes before drained going arrival =>
    cases phase
    refine (timed _ before).take ?_ ?_
    · simp [Entry.answer?]
    · simp [Entry.chunk?, Entry.taken?, arrival, Except.toOption]
  | beats before drained going due =>
    cases phase
    obtain ⟨beat, rfl⟩ := Watch.eq_of_beat? due
    exact (timed _ before).wait (hears_of_untaken (by simp) (by simp)) rfl
  | fails | loses => exact (gone (Keeper.isApart_fail _ _ _ _ _).after rfl).elim
  | parts =>
    have parts (intake : Intake) : (keeper.part settings view intake).1.isReading = false := by
      unfold Keeper.part
      dsimp only
      split <;> rfl
    exact (gone (parts _) rfl).elim
  | begins | opens | greets | hears | looks | hangsUp | lingers | drains | concludes | crashes
  | rests | wakes => cases phase

/-- **The deadline at every moment of a session is that of the last chunk.** -/
theorem isTimed_follow {keeper : Keeper} (idle : keeper.isReading = false) (views : List View)
    (phase : (follow settings keeper views).keeper.phase = .reading watch) :
    IsTimed settings (follow settings keeper views).entries watch := by
  induction views using List.reverseRecOn generalizing watch with
  | nil =>
    rw [Keeper.isReading, show keeper.phase = .reading watch from phase] at idle
    cases idle
  | append_singleton views view ih =>
    rw [follow_concat] at phase ⊢
    cases stepped : (follow settings keeper views).keeper.step settings view with
    | none =>
      rw [turn_of_none stepped] at phase ⊢
      exact ih phase
    | some step =>
      rw [turn_of_some stepped] at phase ⊢
      exact isTimed_of_step (fun watch before => ih before) stepped phase

/-! ### Giving up -/

variable {keeper : Keeper} {views : List View}

/-- **When a session is given up for silence**: it has looked through all that came in, is not told
to end and has nothing to read, and the time that its answer allows has passed since the server was
heard. -/
theorem loss?_eq_silence_iff (idle : keeper.isReading = false)
    (phase : (follow settings keeper views).keeper.phase = .reading watch) :
    ∃ answer heard, answer? (follow settings keeper views).entries = some answer ∧
      heardAt? (follow settings keeper views).entries = some heard ∧
      ∀ view limit, watch.loss? view = some (.silence limit) ↔
        watch.intake.drained = true ∧ view.stopping = false ∧ view.arrival = none ∧
          patience? settings answer = some limit ∧
          isDue view.now (heard + limit.nanos) = true := by
  obtain ⟨answer, heard, answers, last, time⟩ := isTimed_follow idle views phase
  refine ⟨answer, heard, answers, last, fun view limit => ?_⟩
  have late : watch.silent? view.now = some limit ↔ patience? settings answer = some limit ∧
      isDue view.now (heard + limit.nanos) = true := by
    rw [Watch.silent?, time]
    cases patience? settings answer with
    | none => simp
    | some span =>
      rw [Option.map_some, Option.filter_some, Option.some.injEq]
      cases due : isDue view.now (heard + span.nanos) with
      | false =>
        refine iff_of_false nofun ?_
        rintro ⟨rfl, isDue⟩
        cases due.symm.trans isDue
      | true =>
        simp only [if_true, Option.map_some, Option.some.injEq]
        exact ⟨fun same => ⟨same, same ▸ due⟩, And.left⟩
  rw [Watch.loss?_eq_silence_iff, late]

/-- **A session is given up for silence only if the server was silent.** The time that it was
allowed is not without end, and it is that of the agreed heart-beats, or a day if that is less; all
of it has passed since the answer connected the session or since the last chunk, if one was taken;
and nothing waits to be read. -/
theorem silence_is_real (idle : keeper.isReading = false) {view : View} {limit : Span}
    (lost : (follow settings keeper views).keeper.loss? view = some (.silence limit)) :
    ∃ watch answer heard deadline,
      (follow settings keeper views).keeper.step settings view =
        some ((follow settings keeper views).keeper.lose settings view watch (.silence limit)) ∧
      answer? (follow settings keeper views).entries = some answer ∧
      heardAt? (follow settings keeper views).entries = some heard ∧
      (agreed settings.pulse.offer answer).incoming.isZero = false ∧
      settings.pulse.deadline? (agreed settings.pulse.offer answer).incoming = some deadline ∧
      limit = deadline.min day ∧ heard + limit.nanos ≤ view.now ∧ view.arrival = none := by
  obtain ⟨watch, phase, lost⟩ := Keeper.exists_reading_of_loss lost
  obtain ⟨answer, heard, answers, last, silent⟩ := loss?_eq_silence_iff idle phase
  obtain ⟨drained, -, nothing, patient, due⟩ := (silent view limit).mp lost
  obtain ⟨deadline, allowed, rfl⟩ := Option.map_eq_some_iff.mp patient
  refine ⟨watch, answer, heard, deadline, ?_, answers, last, ?_, allowed, rfl, le_of_isDue due,
    nothing⟩
  · have nothingElse : Keeper.lastDeeds view watch = [] := by
      simp [Keeper.lastDeeds, drained, nothing]
    rw [Keeper.step_of_loss phase lost, nothingElse]
    rfl
  · unfold Pulse.deadline? at allowed
    split at allowed
    · cases allowed
    · rename_i beating
      exact Bool.not_eq_true _ ▸ beating

/-- An answer that agrees on a sign of life every five seconds. -/
def lively : View :=
  { stillness with arrival := some (.ok (Text.toBytes "CONNECTED\nheart-beat:1000,1000\n\n\x00")) }

/-- The first byte of a frame, three seconds later. -/
def started : View :=
  { stillness with now := 3 * nanosPerSecond, arrival := some (.ok (Text.toBytes "M")) }

/-- A server that sends one byte after three seconds, and nothing after it, is given up when ten
seconds have passed since. -/
theorem silent_after_first_byte :
    let views := [stillness, lively, stillness, stillness, started, stillness]
    let late := { stillness with now := 13 * nanosPerSecond }
    let diary := follow .standard greeted views
    greeted.isReading = false ∧ diary.keeper.loss? late = some (.silence (.ofSeconds 10)) ∧
      heardAt? diary.entries = some (3 * nanosPerSecond) ∧
      diary.keeper.loss? { late with now := 13 * nanosPerSecond - 1 } = none ∧
      late.arrival = none := by
  intro views late diary
  have lost : diary.keeper.loss? late = some (.silence (.ofSeconds 10)) := by decide +kernel
  obtain ⟨-, -, -, -, -, -, -, -, -, -, -, nothing⟩ := silence_is_real rfl lost
  exact ⟨rfl, lost, by decide +kernel, by decide +kernel, nothing⟩

end Diary

end EventFeed
