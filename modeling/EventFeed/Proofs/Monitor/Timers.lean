/-
**The timers of a connected session.**

The answer of the server settles two timers: how long it may be silent, and how often we say
something. The numbers in it are the server's, and may be any at all; the timers that come of them
are in range all the same. Each runs for at most a day, the one for our heart-beats never for no
time, and neither is ever set for a time that the clock cannot show, as long as the clock itself is
a day away from its end.

* `Watch.isInRange_start`: the timers that an answer settles are in range;
* `Keeper.timing_of_step`: how the timers come about in one step;
* `Diary.timers_stay_in_range`: they stay in range through every session, and heart-beats are sent
  only if they were agreed on.
-/

import EventFeed.Proofs.Monitor.Silence

namespace EventFeed

open EventFeed.Time
open EventFeed.Wire (Frame HeartBeat)

/-! ### Timers in range -/

theorem Time.Span.nanos_min_le (left right : Span) : (left.min right).nanos ≤ right.nanos := by
  unfold Span.min
  split <;> omega

theorem Time.Span.isZero_eq_false_iff (span : Span) : span.isZero = false ↔ 0 < span.nanos := by
  simp [Span.isZero, Nat.pos_iff_ne_zero]

theorem day_pos : 0 < day.nanos := by
  decide

/-- There is a limit to the silence of the server exactly if it says that it will be heard. -/
theorem Pulse.deadline?_eq_none_iff (pulse : Pulse) (agreed : Span) :
    pulse.deadline? agreed = none ↔ agreed.isZero = true := by
  unfold deadline?
  split <;> simp [*]

namespace Watch

/-- How long the timer for the silence of the server runs: a day if it is switched off. -/
def limit (watch : Watch) : Span :=
  (watch.silence.map Prod.fst).getD day

/-- How long the timer for our heart-beats runs: a day if it is switched off. -/
def period (watch : Watch) : Span :=
  (watch.beat.map Prod.fst).getD day

/-- Whether the timers of a session are in range, given the heart-beats that were agreed on: they
are switched on exactly if something was agreed on, run for at most a day, that for our heart-beats
for some time at least, and are set for no time beyond the last one that the clock shows. -/
structure IsInRange (agreed : HeartBeat) (last : Nat) (watch : Watch) : Prop where
  silence : watch.silence = none ↔ agreed.incoming.isZero = true
  limit : watch.limit.nanos ≤ day.nanos
  silenceEnds : ∀ timer ∈ watch.silence, timer.2 ≤ last
  beat : watch.beat = none ↔ agreed.outgoing.isZero = true
  period : 0 < watch.period.nanos ∧ watch.period.nanos ≤ day.nanos
  beatComes : ∀ timer ∈ watch.beat, timer.2 ≤ last

variable {agreed : HeartBeat} {last now : Nat} {watch : Watch}

/-- **The timers that an answer settles are in range**, whatever the answer says. -/
theorem isInRange_start (timely : now + day.nanos ≤ last) (pulse : Pulse) (agreed : HeartBeat)
    (intake : Intake) : IsInRange agreed last (start pulse agreed intake now) := by
  have short (span : Span) : (span.min day).nanos ≤ day.nanos := span.nanos_min_le day
  have inTime (span : Span) : now + (span.min day).nanos ≤ last :=
    Nat.le_trans (Nat.add_le_add_left (short span) now) timely
  constructor
  · rw [start, Option.map_eq_none_iff, Pulse.deadline?_eq_none_iff]
  · unfold limit start
    cases pulse.deadline? agreed.incoming with
    | none => exact Nat.le_refl _
    | some span => exact short span
  · intro timer isSet
    obtain ⟨span, -, rfl⟩ := Option.map_eq_some_iff.mp isSet
    exact inTime span
  · cases off : agreed.outgoing.isZero <;> simp [start, off]
  · unfold period start
    cases off : agreed.outgoing.isZero with
    | true => exact ⟨day_pos, Nat.le_refl _⟩
    | false =>
      rw [Span.isZero_eq_false_iff] at off
      refine ⟨?_, short _⟩
      show 0 < (agreed.outgoing.min day).nanos
      unfold Span.min
      split
      · exact off
      · exact day_pos
  · intro timer isSet
    cases off : agreed.outgoing.isZero with
    | true => simp [start, off] at isSet
    | false =>
      simp only [start, off, Bool.false_eq_true, if_false, Option.mem_some_iff] at isSet
      rw [← isSet]
      exact inTime _

/-- What comes in sets the timer for the silence anew, for as long as before. -/
theorem IsInRange.feed (inRange : IsInRange agreed last watch)
    (timely : now + day.nanos ≤ last) (chunk : List UInt8) :
    IsInRange agreed last (watch.feed chunk now) := by
  have sameLimit : (watch.feed chunk now).limit = watch.limit := by
    unfold Watch.limit Watch.feed
    cases watch.silence <;> rfl
  refine ⟨?_, ?_, ?_, inRange.beat, inRange.period, inRange.beatComes⟩
  · rw [← inRange.silence, Watch.feed, Option.map_eq_none_iff]
  · rw [sameLimit]
    exact inRange.limit
  · intro timer isSet
    obtain ⟨before, on, rfl⟩ := Option.map_eq_some_iff.mp isSet
    have short : before.1.nanos ≤ day.nanos := by
      have limit := inRange.limit
      rwa [Watch.limit, on] at limit
    show now + before.1.nanos ≤ last
    omega

/-- A heart-beat sets its timer anew, for as long as before. -/
theorem IsInRange.beats (inRange : IsInRange agreed last watch) (timely : now + day.nanos ≤ last)
    {later : Watch} (due : watch.beat? now = some later) : IsInRange agreed last later := by
  obtain ⟨⟨span, deadline⟩, found, rfl⟩ := Option.map_eq_some_iff.mp due
  obtain ⟨on, passed⟩ := Option.filter_eq_some_iff.mp found
  have samePeriod : watch.period = span := by rw [Watch.period, on]; rfl
  have period := inRange.period
  rw [samePeriod] at period
  refine ⟨inRange.silence, inRange.limit, inRange.silenceEnds, ?_, period, ?_⟩
  · rw [← inRange.beat, on]
    simp
  · -- the timer is set from now on, or from when it was due, which is not later
    intro timer isSet
    have reached : deadline ≤ now := le_of_isDue passed
    rw [Option.mem_some_iff] at isSet
    rw [← isSet]
    dsimp only
    split <;> omega

/-- What is looked at of what came in leaves the timers as they are. -/
theorem IsInRange.look (inRange : IsInRange agreed last watch) (intake : Intake) :
    IsInRange agreed last { watch with intake } :=
  ⟨inRange.silence, inRange.limit, inRange.silenceEnds, inRange.beat, inRange.period,
    inRange.beatComes⟩

end Watch

/-! ### One step -/

namespace Keeper

variable {settings : Settings} {view : View} {keeper : Keeper} {step : Step}

/-- How the timers of a session that is connected after a step come about. -/
inductive Timing (settings : Settings) (view : View) (keeper : Keeper) (step : Step) :
    Watch → Prop where
  /-- The server's answer settles them. -/
  | settles {answer : Frame} (intake : Intake)
      (answers : (Entry.mk view keeper step.1 step.2).answer? = some answer) :
      Timing settings view keeper step
        (.start settings.pulse (agreed settings.pulse.offer answer) intake view.now)
  | looks {watch : Watch} (phase : keeper.phase = .reading watch) (intake : Intake)
      (unanswered : (Entry.mk view keeper step.1 step.2).answer? = none) :
      Timing settings view keeper step { watch with intake }
  | takes {watch : Watch} (phase : keeper.phase = .reading watch) (chunk : List UInt8)
      (unanswered : (Entry.mk view keeper step.1 step.2).answer? = none) :
      Timing settings view keeper step (watch.feed chunk view.now)
  | beats {watch later : Watch} (phase : keeper.phase = .reading watch)
      (due : watch.beat? view.now = some later)
      (unanswered : (Entry.mk view keeper step.1 step.2).answer? = none) :
      Timing settings view keeper step later

theorem isReading_part (settings : Settings) (view : View) (keeper : Keeper) (intake : Intake) :
    (keeper.part settings view intake).1.isReading = false := by
  unfold part
  dsimp only
  split <;> rfl

/-- **The timers after a step** are settled by an answer, or come of those before. -/
theorem timing_of_step (stepped : keeper.step settings view = some step) {watch : Watch}
    (phase : step.1.phase = .reading watch) : Timing settings view keeper step watch := by
  have reads : step.1.isReading = true := by rw [isReading, phase]
  have unread {after : Keeper} (idle : after.isReading = false) (same : step.1 = after) :
      Timing settings view keeper step watch := by
    rw [same, idle] at reads
    cases reads
  cases deed_of_step stepped with
  | @connects intake rest _ answer awaiting undrained found answers =>
    cases phase
    refine .settles rest ?_
    simp [Entry.answer?, connect, intake?, awaiting, found]
  | reads before =>
    cases phase
    exact .looks before _ (by simp [Entry.answer?])
  | handles before =>
    cases phase
    exact .looks before _ (by simp [Entry.answer?])
  | takes before =>
    cases phase
    exact .takes before _ (by simp [Entry.answer?])
  | beats before _ _ due =>
    cases phase
    exact .beats before due (by simp [Entry.answer?])
  | fails | loses => exact unread (isApart_fail _ _ _ _ _).after rfl
  | parts => exact unread (isReading_part _ _ _ _) rfl
  | begins | opens | greets | hears | looks | hangsUp | lingers | drains | concludes | crashes
  | rests | wakes => cases phase

/-- A heart-beat is sent by nobody but a connected session whose timer for it is on. -/
theorem beat?_of_queue (stepped : keeper.step settings view = some step)
    (sent : .queue .heartbeat ∈ step.2) :
    ∃ watch, keeper.phase = .reading watch ∧ watch.beat ≠ none := by
  have never (error : SessionError) (uptime : Option Nat) :
      .queue .heartbeat ∉ (keeper.fail settings view error uptime).2 := by
    have others : ∀ effect ∈ (keeper.fail settings view error uptime).2,
        effect ≠ .queue .heartbeat :=
      forall_mem_fail (by simp) (by simp) (by rintro effect tells rfl; cases tells) settings view
        keeper error uptime
    exact fun member => others _ member rfl
  cases deed_of_step stepped with
  | @beats watch later phase _ _ due =>
    refine ⟨watch, phase, fun off => ?_⟩
    rw [Watch.beat?, off] at due
    cases due
  | fails reason =>
    rcases List.mem_append.mp sent with early | late
    · cases reason <;> simp at early
    · exact absurd late (never _ _)
  | @loses watch error earlier phase going reason =>
    rcases List.mem_append.mp sent with early | late
    · cases reason <;> simp at early
    · have late : .queue .heartbeat ∈
          (keeper.fail settings view error (some (view.now - watch.since))).2 := by
        simpa [lose] using late
      exact absurd late (never _ _)
  | parts =>
    have farewellIsNone : Frame.heartbeat ≠ farewell view.receipt :=
      fun same => nomatch congrArg Frame.command same
    unfold part at sent
    dsimp only at sent
    split at sent
    · simp [farewellIsNone] at sent
    · simp at sent
  | lingers _ quiet => rcases quiet with rfl | rfl <;> simp at sent
  | drains _ _ quiet => rcases quiet with rfl | rfl <;> simp [drain] at sent
  | concludes _ _ _ quiet => rcases quiet with rfl | rfl | rfl <;> simp [conclude, finish] at sent
  | begins | opens | greets | hears | looks | connects | hangsUp | reads | handles | takes | crashes
  | rests | wakes => simp [begin, connect, crash, finish] at sent

end Keeper

/-! ### Whole sessions -/

namespace Diary

variable {settings : Settings} {last : Nat} {entries : List Entry} {watch : Watch}

/-- The timers are those that the last answer settled, and in range. -/
def IsRuled (settings : Settings) (last : Nat) (entries : List Entry) (watch : Watch) : Prop :=
  ∃ answer, answer? entries = some answer ∧
    watch.IsInRange (agreed settings.pulse.offer answer) last

/-- One step keeps the timers in range. -/
theorem isRuled_of_timing {view : View} {keeper : Keeper} {step : Keeper.Step}
    (timely : view.now + day.nanos ≤ last)
    (ruled : ∀ watch, keeper.phase = .reading watch → IsRuled settings last entries watch)
    (timing : Keeper.Timing settings view keeper step watch) :
    IsRuled settings last (entries ++ [⟨view, keeper, step.1, step.2⟩]) watch := by
  have kept {before after : Watch} (phase : keeper.phase = .reading before)
      (unanswered : (Entry.mk view keeper step.1 step.2).answer? = none)
      (keeps : ∀ agreed, before.IsInRange agreed last → after.IsInRange agreed last) :
      IsRuled settings last (entries ++ [⟨view, keeper, step.1, step.2⟩]) after := by
    obtain ⟨answer, answers, inRange⟩ := ruled before phase
    refine ⟨answer, ?_, keeps _ inRange⟩
    rw [answer?_concat, unanswered, answers]
    rfl
  cases timing with
  | @settles answer intake answers =>
    refine ⟨answer, ?_, Watch.isInRange_start timely settings.pulse _ intake⟩
    rw [answer?_concat, answers]
    rfl
  | looks phase intake unanswered =>
    exact kept phase unanswered fun _ inRange => inRange.look intake
  | takes phase chunk unanswered =>
    exact kept phase unanswered fun _ inRange => inRange.feed timely chunk
  | beats phase due unanswered =>
    exact kept phase unanswered fun _ inRange => inRange.beats timely due

/-- Whatever a session sees, its timers are in range. -/
theorem isRuled_follow {keeper : Keeper} (idle : keeper.isReading = false) {views : List View}
    (timely : ∀ view ∈ views, view.now + day.nanos ≤ last)
    (phase : (follow settings keeper views).keeper.phase = .reading watch) :
    IsRuled settings last (follow settings keeper views).entries watch := by
  induction views using List.reverseRecOn generalizing watch with
  | nil =>
    rw [Keeper.isReading, show keeper.phase = .reading watch from phase] at idle
    cases idle
  | append_singleton views view ih =>
    have earlier : ∀ watch, (follow settings keeper views).keeper.phase = .reading watch →
        IsRuled settings last (follow settings keeper views).entries watch :=
      fun watch before => ih (fun view old => timely view (List.mem_append_left _ old)) before
    rw [follow_concat] at phase ⊢
    cases stepped : (follow settings keeper views).keeper.step settings view with
    | none =>
      rw [turn_of_none stepped] at phase ⊢
      exact earlier watch phase
    | some step =>
      rw [turn_of_some stepped] at phase ⊢
      have timelyNow := timely view (List.mem_append_right _ List.mem_cons_self)
      exact isRuled_of_timing timelyNow earlier (Keeper.timing_of_step stepped phase)

/-- **The timers stay in range**, whatever the server answers, and heart-beats are sent only if they
were agreed on. -/
theorem timers_stay_in_range (settings : Settings) {keeper : Keeper}
    (idle : keeper.isReading = false) {views : List View} {last : Nat}
    (timely : ∀ view ∈ views, view.now + day.nanos ≤ last) :
    let diary := follow settings keeper views
    (∀ watch, diary.keeper.phase = .reading watch →
      ∃ answer, answer? diary.entries = some answer ∧
        watch.IsInRange (agreed settings.pulse.offer answer) last) ∧
    ∀ front entry back, diary.entries = front ++ entry :: back →
      .queue .heartbeat ∈ entry.effects → ∃ answer, answer? front = some answer ∧
        (agreed settings.pulse.offer answer).outgoing.isZero = false := by
  refine ⟨fun watch phase => isRuled_follow idle timely phase, ?_⟩
  intro front entry back written sent
  obtain ⟨early, isPrefix, moment, stepped, -⟩ := exists_follow_of_entries written
  obtain ⟨watch, phase, on⟩ := Keeper.beat?_of_queue stepped sent
  have phaseThen : (follow settings keeper early).keeper.phase = .reading watch := by
    rw [moment, phase]
  have timelyThen : ∀ view ∈ early, view.now + day.nanos ≤ last := fun view seen =>
    timely view (isPrefix.subset (List.mem_append_left _ seen))
  obtain ⟨answer, answers, inRange⟩ := isRuled_follow idle timelyThen phaseThen
  refine ⟨answer, by rwa [moment] at answers, Bool.eq_false_iff.mpr fun isZero => ?_⟩
  exact on (inRange.beat.mpr isZero)

/-- An answer with the longest intervals that can be written. -/
def enormous : View :=
  { stillness with
    arrival := some (.ok (Text.toBytes
      "CONNECTED\nheart-beat:18446744073709551615,18446744073709551615\n\n\x00")) }

/-- The longest intervals that a server can ask for end in timers of one day. -/
theorem enormous_answer_in_range :
    let views := [stillness, enormous, stillness, stillness]
    let diary := follow .standard greeted views
    greeted.isReading = false ∧ (∀ view ∈ views, view.now + day.nanos ≤ day.nanos) ∧
    ∃ watch answer, diary.keeper.phase = .reading watch ∧ answer? diary.entries = some answer ∧
      watch.IsInRange (agreed (Settings.standard).pulse.offer answer) day.nanos ∧
      (agreed (Settings.standard).pulse.offer answer).outgoing.nanos =
        18446744073709551615 * nanosPerMilli := by
  intro views diary
  have timely : ∀ view ∈ views, view.now + day.nanos ≤ day.nanos := by decide +kernel
  refine ⟨rfl, timely, ?_⟩
  have reads : diary.keeper.isReading = true := by decide +kernel
  cases phase : diary.keeper.phase with
  | reading watch =>
    obtain ⟨answer, answers, inRange⟩ := (timers_stay_in_range .standard rfl timely).1 watch phase
    refine ⟨watch, answer, rfl, answers, inRange, ?_⟩
    have long : (answer? diary.entries).map (fun answer =>
        (agreed (Settings.standard).pulse.offer answer).outgoing.nanos) =
          some (18446744073709551615 * nanosPerMilli) := by decide +kernel
    rw [show answer? diary.entries = some answer from answers] at long
    exact Option.some.inj long
  | _ => rw [Keeper.isReading, phase] at reads; cases reads

end Diary

end EventFeed
