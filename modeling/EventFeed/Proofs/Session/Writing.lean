/-
**What a writer writes.**

Frames are queued for a writer by any number of senders, until the last of them has left. The writer
takes one frame at a time and writes it as one chunk, as its sink allows, and it may be told to end
or be stopped at any moment. `Record` keeps what happened to one writer: the frames that were queued
for it, and what it did to its sink.

What is written is always the first of what may be sent, in the order in which it was queued. All of
it is written if the writer comes to the end of its queue, and it does when the senders have left
and the sink goes on accepting; a writer that is told to end earlier leaves the rest.

* `deed_of_step`: all that a writer can do in one step;
* `IsFaithful.run`: what was written and what waits are what was queued, in every run;
* `IsUndisturbed.run`: what a writer that nothing disturbs leaves unwritten is only what waits;
* `ended_of_patient`: such a writer comes to its end;
* `stage_run_eq_ended_iff`: a writer ends with an error exactly if a write met it;
* `written_in_order`: all this for a writer from its beginning on.
-/

import EventFeed.Session.Writer
import Mathlib.Data.List.Induction

namespace EventFeed

open EventFeed.Wire (Frame)

/-! ### What may be sent -/

/-- What a writer writes for frames: it leaves out those that may not be sent. -/
def sendable (frames : List Frame) : List (List UInt8) :=
  (frames.filter Frame.isValid).map Frame.encode

theorem sendable_append (first second : List Frame) :
    sendable (first ++ second) = sendable first ++ sendable second := by
  simp [sendable]

/-- A frame that is taken is written next, if it may be sent. -/
theorem sendable_cons (frame : Frame) (frames : List Frame) :
    sendable (frame :: frames) =
      (if frame.isValid then some frame.encode else none).toList ++ sendable frames := by
  unfold sendable
  by_cases valid : frame.isValid = true
  · rw [List.filter_cons_of_pos valid, if_pos valid]
    rfl
  · rw [List.filter_cons_of_neg valid, if_neg valid]
    rfl

/-- What an act writes to the sink. -/
def SinkAct.chunk? : SinkAct → Option (List UInt8)
  | .wrote chunk => some chunk
  | .closed => none

namespace Writer

/-- What a writer still writes if nothing more comes. -/
def pending (writer : Writer) : List (List UInt8) :=
  writer.chunk.toList ++ sendable writer.queue

/-! ### What a writer does in one step -/

/-- **What a writer does in one step**: it has written its chunk, or fails to, which ends it; it
takes the next frame, to write it if it may be sent; it turns to closing, once no frame waits and
nobody can queue one; it closes its sink or fails to, which ends it either way; or its sink
crashes. -/
inductive Deed (writer : Writer) (deserted : Bool) : SinkMode → Writer → Option SinkAct → Prop where
  | writes {chunk : List UInt8} (going : writer.stage = .writing)
      (busy : writer.chunk = some chunk) :
      Deed writer deserted .accepting { writer with chunk := none } (some (.wrote chunk))
  | fails {error : ChannelError} (going : writer.stage = .writing)
      (busy : writer.chunk ≠ none) :
      Deed writer deserted (.faulty error) { writer with stage := .ended (some error) } none
  | takes {sink : SinkMode} {frame : Frame} {queue : List Frame} (going : writer.stage = .writing)
      (free : writer.chunk = none) (waits : writer.queue = frame :: queue) :
      Deed writer deserted sink
        { writer with queue, chunk := if frame.isValid then some frame.encode else none } none
  | turns {sink : SinkMode} (going : writer.stage = .writing) (free : writer.chunk = none)
      (empty : writer.queue = []) (left : deserted = true) :
      Deed writer deserted sink { writer with stage := .closing } none
  | closes (closing : writer.stage = .closing) :
      Deed writer deserted .accepting { writer with stage := .ended none } (some .closed)
  | closesNot {error : ChannelError} (closing : writer.stage = .closing) :
      Deed writer deserted (.faulty error) { writer with stage := .ended none } none
  | crashes {cause : String} (going : writer.stage = .writing ∨ writer.stage = .closing) :
      Deed writer deserted (.crashing cause) { writer with stage := .crashed } none

variable {writer after : Writer} {sink : SinkMode} {deserted : Bool} {act : Option SinkAct}

/-- Every step of a writer is one of its deeds. -/
theorem deed_of_step (moved : writer.step sink deserted = some (after, act)) :
    Deed writer deserted sink after act := by
  unfold step at moved
  split at moved
  · rename_i going busy
    have occupied : writer.chunk ≠ none := by simp [busy]
    cases sink <;> cases moved
    · exact .writes going busy
    · exact .fails going occupied
    · exact .crashes (.inl going)
  · rename_i going free waits
    have taken : Deed writer deserted sink _ none := .takes going free waits
    split at moved <;> rename_i valid <;> cases moved
    · rwa [if_pos valid] at taken
    · rw [if_neg valid, ← free] at taken
      exact taken
  · rename_i going free empty
    split at moved <;> cases moved
    exact .turns going free empty ‹_›
  · rename_i closing
    cases sink <;> cases moved
    · exact .closes closing
    · exact .closesNot closing
    · exact .crashes (.inr closing)
  · cases moved

/-- A step changes what there is to write in one of two ways, or not at all. -/
theorem step_cases (moved : writer.step sink deserted = some (after, act)) :
    (∃ chunk, writer.chunk = some chunk ∧ after = { writer with chunk := none } ∧
      act = some (.wrote chunk)) ∨
    (∃ frame queue, writer.chunk = none ∧ writer.queue = frame :: queue ∧ after =
      { writer with queue, chunk := if frame.isValid then some frame.encode else none } ∧
      act = none) ∨
    (after.chunk = writer.chunk ∧ after.queue = writer.queue ∧
      (act = none ∨ act = some .closed)) := by
  cases deed_of_step moved with
  | writes _ busy => exact .inl ⟨_, busy, rfl, rfl⟩
  | takes _ free waits => exact .inr (.inl ⟨_, _, free, waits, rfl, rfl⟩)
  | closes => exact .inr (.inr ⟨rfl, rfl, .inr rfl⟩)
  | fails | turns | closesNot | crashes => exact .inr (.inr ⟨rfl, rfl, .inl rfl⟩)

theorem push_of_not_open (ended : writer.isOpen = false) (frames : List Frame) :
    writer.push frames = writer := by
  rw [push, ended]
  rfl

theorem stage_push (writer : Writer) (frames : List Frame) :
    (writer.push frames).stage = writer.stage := by
  rw [push]
  split <;> rfl

/-- A writer that is told to end turns to closing, if it has no chunk to write. -/
theorem cancel_cases (writer : Writer) : writer.cancel = writer ∨
    writer.stage = .writing ∧ writer.cancel = { writer with stage := .closing } := by
  unfold cancel
  split
  · rename_i idle
    rw [listens, Bool.and_eq_true, decide_eq_true_iff] at idle
    exact .inr ⟨idle.1, rfl⟩
  · exact .inl rfl

/-- A writer that is stopped at once does nothing more, if it had not ended. -/
theorem abort_cases (writer : Writer) : writer.abort = writer ∨
    (writer.stage = .writing ∨ writer.stage = .closing) ∧
      writer.abort = { writer with stage := .aborted } := by
  unfold abort
  split
  · exact .inr ⟨.inl ‹_›, rfl⟩
  · exact .inr ⟨.inr ‹_›, rfl⟩
  · exact .inl rfl

/-- Whether a write is under way. -/
def isWriting (writer : Writer) : Bool :=
  writer.stage = .writing && writer.chunk.isSome

/-- How many steps a writer has left if nobody queues anything more: two for each frame that waits,
one for a chunk, and two for its end. -/
def left (writer : Writer) : Nat :=
  match writer.stage with
  | .writing => 2 * writer.queue.length + writer.chunk.toList.length + 2
  | .closing => 1
  | .ended _ | .crashed | .aborted => 0

/-- Every step is one of those that are left. -/
theorem Deed.left_lt (deed : Deed writer deserted sink after act) : after.left < writer.left := by
  cases deed with
  | writes going busy => simp [left, going, busy]
  | fails going | turns going => simp [left, going]
  | takes going free waits =>
    simp only [left, going, free, waits, List.length_cons, Option.toList_none, List.length_nil]
    split <;> simp
    all_goals omega
  | closes closing | closesNot closing => simp [left, closing]
  | crashes going => rcases going with going | going <;> simp [left, going]

/-- A deserted writer whose sink accepts has a step to do as long as one is left. -/
theorem left_of_step_none (idle : writer.step .accepting true = none) : writer.left = 0 := by
  obtain ⟨queue, chunk, stage⟩ := writer
  cases stage with
  | writing =>
    cases chunk with
    | some chunk => cases idle
    | none =>
      cases queue with
      | nil => cases idle
      | cons frame queue =>
        simp only [step] at idle
        split at idle <;> cases idle
  | closing => cases idle
  | ended | crashed | aborted => rfl

/-! ### What happens to a writer -/

/-- Something that happens to a writer: one more can queue frames for it, or one can no more; one of
them queues a frame; the writer does its next thing, with the sink as it is then; it notices that it
is told to end; or it is stopped at once. -/
inductive Incident where
  | join
  | leave
  | queue (frame : Frame)
  | work (sink : SinkMode)
  | cancel
  | abort
  deriving DecidableEq

/-- Whether a writer can go on to its end in spite of what happens: it is not told to end before,
and its sink may stall but does not break. -/
def Incident.isPatient : Incident → Bool
  | .cancel | .abort | .work (.faulty _) | .work (.crashing _) => false
  | .join | .leave | .queue _ | .work .accepting | .work .stalled => true

/-- A writer with how many can queue frames for it, all frames that were queued, and all that it did
to its sink. -/
structure Record where
  writer : Writer
  senders : Nat
  queued : List Frame
  acts : List SinkAct

namespace Record

/-- A writer that has just begun, with one sender. -/
def fresh : Record where
  writer := .fresh
  senders := 1
  queued := []
  acts := []

def isDeserted (record : Record) : Bool :=
  record.senders = 0

/-- The chunks that were written. -/
def written (record : Record) : List (List UInt8) :=
  record.acts.filterMap SinkAct.chunk?

/-- Nobody becomes a sender, and no frame is queued, when no sender is left. -/
def meet (record : Record) : Incident → Record
  | .join => if record.isDeserted then record else { record with senders := record.senders + 1 }
  | .leave => { record with senders := record.senders - 1 }
  | .queue frame =>
    if record.isDeserted then record
    else { record with writer := record.writer.push [frame], queued := record.queued ++ [frame] }
  | .work sink =>
    match record.writer.step sink record.isDeserted with
    | none => record
    | some (writer, act) => { record with writer, acts := record.acts ++ act.toList }
  | .cancel => { record with writer := record.writer.cancel }
  | .abort => { record with writer := record.writer.abort }

def run (record : Record) (incidents : List Incident) : Record :=
  incidents.foldl meet record

variable {record : Record}

theorem run_append (record : Record) (earlier later : List Incident) :
    record.run (earlier ++ later) = (record.run earlier).run later :=
  List.foldl_append

theorem run_concat (record : Record) (earlier : List Incident) (incident : Incident) :
    record.run (earlier ++ [incident]) = (record.run earlier).meet incident := by
  rw [run_append]
  rfl

theorem meet_queue_of_deserted (deserted : record.isDeserted = true) (frame : Frame) :
    record.meet (.queue frame) = record :=
  if_pos deserted

theorem meet_join_of_deserted (deserted : record.isDeserted = true) :
    record.meet .join = record :=
  if_pos deserted

/-- Work either is a deed of the writer or comes to nothing. -/
theorem meet_work_cases (record : Record) (sink : SinkMode) :
    (record.writer.step sink record.isDeserted = none ∧ record.meet (.work sink) = record) ∨
      ∃ after act, Deed record.writer record.isDeserted sink after act ∧
        record.meet (.work sink) =
          { record with writer := after, acts := record.acts ++ act.toList } := by
  cases moved : record.writer.step sink record.isDeserted with
  | none => exact .inl ⟨rfl, by rw [meet, moved]⟩
  | some step => exact .inr ⟨step.1, step.2, deed_of_step moved, by rw [meet, moved]⟩

theorem written_concat (record : Record) (writer : Writer) (act : Option SinkAct) :
    ({ record with writer, acts := record.acts ++ act.toList } : Record).written =
      record.written ++ (act.bind SinkAct.chunk?).toList := by
  rw [written, written, List.filterMap_append]
  congr 1
  rcases act with _ | _ | _ <;> rfl

/-! ### In order -/

/-- **What was written is what was queued.** What was written and what is being written is the first
of what may be sent, and as long as the writer takes frames, what waits is all the rest. -/
structure IsFaithful (record : Record) : Prop where
  ordered : record.written ++ record.writer.chunk.toList <+: sendable record.queued
  whole : record.writer.isOpen = true →
    record.written ++ record.writer.pending = sendable record.queued

theorem isFaithful_fresh : fresh.IsFaithful :=
  ⟨List.prefix_refl _, fun _ => rfl⟩

/-- A writer that does nothing to its chunk takes no more frames, or the same. -/
theorem IsFaithful.keep (faithful : record.IsFaithful) {after : Record}
    (written : after.written = record.written) (chunk : after.writer.chunk = record.writer.chunk)
    (queued : after.queued = record.queued)
    (going : after.writer.isOpen = true →
      record.writer.isOpen = true ∧ after.writer.queue = record.writer.queue) :
    after.IsFaithful where
  ordered := by
    rw [written, chunk, queued]
    exact faithful.ordered
  whole := fun isOpen => by
    obtain ⟨wasOpen, queue⟩ := going isOpen
    rw [written, pending, chunk, queue, queued]
    exact faithful.whole wasOpen

/-- As long as the writer takes frames, it is enough that what waits is all the rest. -/
theorem isFaithful_of_whole (whole : record.written ++ record.writer.pending =
    sendable record.queued) : record.IsFaithful where
  ordered := by
    rw [← whole, pending, ← List.append_assoc]
    exact List.prefix_append _ _
  whole := fun _ => whole

theorem IsFaithful.queue (faithful : record.IsFaithful) (frame : Frame) :
    (record.meet (.queue frame)).IsFaithful := by
  rw [meet]
  split
  · exact faithful
  · cases isOpen : record.writer.isOpen with
    | true =>
      refine isFaithful_of_whole ?_
      show record.written ++ (record.writer.push [frame]).pending = _
      rw [push, if_pos isOpen, pending, sendable_append, sendable_append,
        ← faithful.whole isOpen, pending]
      simp only [List.append_assoc]
    | false =>
      rw [push_of_not_open isOpen]
      refine ⟨?_, fun reopened => ?_⟩
      · show record.written ++ record.writer.chunk.toList <+: sendable (record.queued ++ [frame])
        rw [sendable_append]
        exact faithful.ordered.trans (List.prefix_append _ _)
      · cases isOpen.symm.trans reopened

theorem IsFaithful.work (faithful : record.IsFaithful) (sink : SinkMode) :
    (record.meet (.work sink)).IsFaithful := by
  rcases meet_work_cases record sink with ⟨-, same⟩ | ⟨after, act, deed, next⟩
  · rwa [same]
  have whole : record.writer.stage = .writing →
      record.written ++ record.writer.pending = sendable record.queued := fun going =>
    faithful.whole (decide_eq_true going)
  rw [next]
  cases deed with
  | @writes chunk going busy =>
    refine isFaithful_of_whole ?_
    rw [written_concat, ← whole going, pending, pending, busy]
    simp [SinkAct.chunk?]
  | @takes _ frame queue going free waits =>
    refine isFaithful_of_whole ?_
    rw [written_concat, ← whole going, pending, pending, free, waits, sendable_cons]
    simp
  | fails | turns | closes | closesNot | crashes =>
    refine faithful.keep ((written_concat _ _ _).trans (List.append_nil _)) rfl rfl fun isOpen => ?_
    cases of_decide_eq_true isOpen

/-- Whatever happens to a writer, it stays faithful. -/
theorem IsFaithful.meet (faithful : record.IsFaithful) (incident : Incident) :
    (record.meet incident).IsFaithful := by
  cases incident with
  | join =>
    rw [Record.meet]
    split
    · exact faithful
    · exact ⟨faithful.ordered, faithful.whole⟩
  | leave => exact ⟨faithful.ordered, faithful.whole⟩
  | queue frame => exact faithful.queue frame
  | work sink => exact faithful.work sink
  | cancel =>
    rw [Record.meet]
    rcases cancel_cases record.writer with same | ⟨-, same⟩ <;> rw [same]
    · exact faithful
    · exact faithful.keep rfl rfl rfl nofun
  | abort =>
    rw [Record.meet]
    rcases abort_cases record.writer with same | ⟨-, same⟩ <;> rw [same]
    · exact faithful
    · exact faithful.keep rfl rfl rfl nofun

theorem IsFaithful.run (faithful : record.IsFaithful) (incidents : List Incident) :
    (record.run incidents).IsFaithful := by
  induction incidents generalizing record with
  | nil => exact faithful
  | cons incident incidents ih => exact ih (faithful.meet incident)

/-! ### All of it -/

/-- **A writer that nothing disturbs** has written chunks and nothing else as long as it takes
frames; then its senders have left, and it has written all that may be sent; and in the end its sink
is closed. -/
inductive IsUndisturbed (record : Record) : Prop where
  | writing (going : record.writer.stage = .writing)
      (acts : record.acts = record.written.map .wrote)
  | closing (closing : record.writer.stage = .closing) (deserted : record.isDeserted = true)
      (acts : record.acts = (sendable record.queued).map .wrote)
  | ended (ended : record.writer.stage = .ended none) (deserted : record.isDeserted = true)
      (acts : record.acts = (sendable record.queued).map .wrote ++ [.closed])

theorem isDeserted_leave (deserted : record.isDeserted = true) :
    (record.meet .leave).isDeserted = true := by
  have nobody : record.senders = 0 := of_decide_eq_true deserted
  exact decide_eq_true (by rw [meet, nobody])

/-- The work of an undisturbed writer. -/
theorem IsUndisturbed.work (undisturbed : record.IsUndisturbed) (faithful : record.IsFaithful)
    {sink : SinkMode} (patient : (Incident.work sink).isPatient = true) :
    (record.meet (.work sink)).IsUndisturbed := by
  rcases meet_work_cases record sink with ⟨-, same⟩ | ⟨after, act, deed, next⟩
  · rwa [same]
  rw [next]
  cases undisturbed with
  | writing going acts =>
    cases deed with
    | @writes chunk _ _ =>
      refine .writing going ?_
      rw [written_concat, List.map_append, ← acts]
      rfl
    | takes =>
      refine .writing going ?_
      rw [written_concat, List.map_append, ← acts]
      rfl
    | turns _ free empty deserted =>
      -- Nothing waits any more, so all was written.
      have all := faithful.whole (decide_eq_true going)
      rw [pending, free, empty] at all
      refine .closing rfl deserted ?_
      show record.acts ++ [] = _
      rw [List.append_nil, ← all]
      exact acts.trans (congrArg _ (List.append_nil _).symm)
    | fails | closesNot | crashes => cases patient
    | closes closing => cases going.symm.trans closing
  | closing closing deserted acts =>
    cases deed with
    | closes => exact .ended rfl deserted (congrArg (· ++ [SinkAct.closed]) acts)
    | writes going | takes going | turns going => cases closing.symm.trans going
    | fails | closesNot | crashes => cases patient
  | ended ended =>
    cases deed with
    | writes going | takes going | turns going | closes going => cases ended.symm.trans going
    | fails | closesNot | crashes => cases patient

/-- What is no disturbance leaves a writer undisturbed. -/
theorem IsUndisturbed.meet (undisturbed : record.IsUndisturbed) (faithful : record.IsFaithful)
    {incident : Incident} (patient : incident.isPatient = true) :
    (record.meet incident).IsUndisturbed := by
  cases incident with
  | work sink => exact undisturbed.work faithful patient
  | cancel | abort => cases patient
  | leave =>
    cases undisturbed with
    | writing going acts => exact .writing going acts
    | closing closing deserted acts => exact .closing closing (isDeserted_leave deserted) acts
    | ended ended deserted acts => exact .ended ended (isDeserted_leave deserted) acts
  | join =>
    cases undisturbed with
    | writing going acts =>
      rw [Record.meet]
      split
      · exact .writing going acts
      · exact .writing going acts
    | closing closing deserted acts =>
      rw [meet_join_of_deserted deserted]
      exact .closing closing deserted acts
    | ended ended deserted acts =>
      rw [meet_join_of_deserted deserted]
      exact .ended ended deserted acts
  | queue frame =>
    cases undisturbed with
    | writing going acts =>
      rw [Record.meet]
      split
      · exact .writing going acts
      · exact .writing ((stage_push _ _).trans going) acts
    | closing closing deserted acts =>
      rw [meet_queue_of_deserted deserted]
      exact .closing closing deserted acts
    | ended ended deserted acts =>
      rw [meet_queue_of_deserted deserted]
      exact .ended ended deserted acts

theorem IsUndisturbed.run (undisturbed : record.IsUndisturbed) (faithful : record.IsFaithful)
    {incidents : List Incident} (patient : ∀ incident ∈ incidents, incident.isPatient = true) :
    (record.run incidents).IsUndisturbed := by
  induction incidents generalizing record with
  | nil => exact undisturbed
  | cons incident incidents ih =>
    rw [List.forall_mem_cons] at patient
    exact ih (undisturbed.meet faithful patient.1) (faithful.meet incident) patient.2

theorem isUndisturbed_fresh : fresh.IsUndisturbed :=
  .writing rfl rfl

/-! ### The end -/

/-- What is queued takes two steps at most, and nothing else makes a writer's way longer. -/
theorem left_meet_le (record : Record) (incident : Incident) :
    (record.meet incident).writer.left + 2 * record.queued.length ≤
      record.writer.left + 2 * (record.meet incident).queued.length := by
  cases incident with
  | join =>
    rw [meet]
    split <;> exact Nat.le_refl _
  | leave => exact Nat.le_refl _
  | queue frame =>
    rw [meet]
    split
    · exact Nat.le_refl _
    · show (record.writer.push [frame]).left + _ ≤
        _ + 2 * (record.queued ++ [frame]).length
      rw [push, List.length_append, List.length_singleton]
      split
      · rename_i isOpen
        have going : record.writer.stage = .writing := of_decide_eq_true isOpen
        simp only [left, going, List.length_append, List.length_singleton]
        omega
      · omega
  | work sink =>
    rcases meet_work_cases record sink with ⟨-, same⟩ | ⟨after, act, deed, next⟩
    · exact Nat.le_of_eq (by rw [same])
    · rw [next]
      exact Nat.add_le_add_right (Nat.le_of_lt deed.left_lt) _
  | cancel =>
    rw [meet]
    refine Nat.add_le_add_right ?_ _
    rcases cancel_cases record.writer with same | ⟨going, same⟩
    · exact Nat.le_of_eq (congrArg left same)
    · simp only [same, left, going]
      omega
  | abort =>
    rw [meet]
    refine Nat.add_le_add_right ?_ _
    rcases abort_cases record.writer with same | ⟨-, same⟩
    · exact Nat.le_of_eq (congrArg left same)
    · rw [same]
      exact Nat.zero_le _

theorem left_run_fresh_le (incidents : List Incident) :
    (fresh.run incidents).writer.left ≤ 2 * (fresh.run incidents).queued.length + 2 := by
  induction incidents using List.reverseRecOn with
  | nil => exact Nat.le_refl _
  | append_singleton earlier incident ih =>
    have step := left_meet_le (fresh.run earlier) incident
    rw [run_concat]
    omega

/-- Nothing is queued for a deserted writer, and nobody comes back. -/
theorem meet_of_deserted (deserted : record.isDeserted = true) (incident : Incident) :
    (record.meet incident).isDeserted = true ∧
      (record.meet incident).queued = record.queued := by
  cases incident with
  | join => rw [meet_join_of_deserted deserted]; exact ⟨deserted, rfl⟩
  | leave => exact ⟨isDeserted_leave deserted, rfl⟩
  | queue frame => rw [meet_queue_of_deserted deserted]; exact ⟨deserted, rfl⟩
  | work sink =>
    rcases meet_work_cases record sink with ⟨-, same⟩ | ⟨after, act, -, same⟩ <;> rw [same]
    · exact ⟨deserted, rfl⟩
    · exact ⟨deserted, rfl⟩
  | cancel | abort => exact ⟨deserted, rfl⟩

/-- A deserted writer goes one step further whenever its sink accepts, and never back. -/
theorem left_run_le (deserted : record.isDeserted = true) (incidents : List Incident) :
    (record.run incidents).writer.left ≤
      record.writer.left - incidents.count (.work .accepting) := by
  induction incidents generalizing record with
  | nil => exact Nat.le_refl _
  | cons incident incidents ih =>
    obtain ⟨stillDeserted, queued⟩ := meet_of_deserted deserted incident
    have later := ih stillDeserted
    have shorter := left_meet_le record incident
    rw [queued] at shorter
    rw [List.count_cons]
    refine Nat.le_trans later ?_
    split
    · rename_i accepts
      obtain rfl := eq_of_beq accepts
      have less : (record.meet (.work .accepting)).writer.left ≤ record.writer.left - 1 := by
        rcases meet_work_cases record .accepting with ⟨idle, same⟩ | ⟨after, act, deed, next⟩
        · rw [deserted] at idle
          have nothingLeft := left_of_step_none idle
          rw [same]
          omega
        · rw [next]
          exact Nat.le_sub_one_of_lt deed.left_lt
      omega
    · omega

/-- **A writer that nothing disturbs comes to its end** when its senders have left and its sink
accepts often enough. -/
theorem ended_of_patient {earlier later : List Incident}
    (patient : ∀ incident ∈ earlier ++ later, incident.isPatient = true)
    (deserted : (fresh.run earlier).isDeserted = true)
    (enough : 2 * (fresh.run earlier).queued.length + 2 ≤ later.count (.work .accepting)) :
    (fresh.run (earlier ++ later)).writer.stage = .ended none ∧
      (fresh.run (earlier ++ later)).acts =
        (sendable (fresh.run (earlier ++ later)).queued).map .wrote ++ [.closed] := by
  have undisturbed := isUndisturbed_fresh.run isFaithful_fresh patient
  have nothingLeft : (fresh.run (earlier ++ later)).writer.left = 0 := by
    have atMost := left_run_fresh_le earlier
    have fewer := left_run_le deserted later
    rw [← run_append] at fewer
    omega
  cases undisturbed with
  | ended ended _ acts => exact ⟨ended, acts⟩
  | writing going => simp [left, going] at nothingLeft
  | closing closing => simp [left, closing] at nothingLeft

/-! ### Failed writes -/

/-- A writer that has ended stays as it is. -/
theorem run_of_ended {error : Option ChannelError} (ended : record.writer.stage = .ended error)
    (incidents : List Incident) :
    (record.run incidents).writer = record.writer ∧ (record.run incidents).acts = record.acts := by
  induction incidents generalizing record with
  | nil => exact ⟨rfl, rfl⟩
  | cons incident incidents ih =>
    have still : (record.meet incident).writer = record.writer ∧
        (record.meet incident).acts = record.acts := by
      cases incident with
      | join =>
        rw [meet]
        split <;> exact ⟨rfl, rfl⟩
      | leave => exact ⟨rfl, rfl⟩
      | queue frame =>
        have notOpen : record.writer.isOpen = false := by simp [isOpen, ended]
        rw [meet, push_of_not_open notOpen]
        split <;> exact ⟨rfl, rfl⟩
      | work sink =>
        rw [meet, step_of_ended ended]
        exact ⟨rfl, rfl⟩
      | cancel =>
        rcases cancel_cases record.writer with same | ⟨going, -⟩
        · exact ⟨same, rfl⟩
        · cases ended.symm.trans going
      | abort =>
        rcases abort_cases record.writer with same | ⟨going | going, -⟩
        · exact ⟨same, rfl⟩
        all_goals cases ended.symm.trans going
    have endedStill : (record.meet incident).writer.stage = .ended error := by
      rw [still.1]
      exact ended
    obtain ⟨writer, acts⟩ := ih endedStill
    exact ⟨writer.trans still.1, acts.trans still.2⟩

/-- A write that fails ends the writer with the error. -/
theorem meet_of_failure (writing : record.writer.isWriting = true) (error : ChannelError) :
    record.meet (.work (.faulty error)) =
      { record with writer := { record.writer with stage := .ended (some error) } } := by
  rw [isWriting, Bool.and_eq_true, decide_eq_true_iff] at writing
  obtain ⟨going, busy⟩ := writing
  obtain ⟨chunk, held⟩ := Option.isSome_iff_exists.mp busy
  have failed : record.writer.step (.faulty error) record.isDeserted =
      some ({ record.writer with stage := .ended (some error) }, none) := by
    simp only [step, going, held, write]
  rw [meet, failed]
  exact congrArg (fun acts => Record.mk _ _ _ acts) (List.append_nil _)

/-- Only a write that fails ends the writer with an error. -/
theorem failure_of_stage {incident : Incident} {error : ChannelError}
    (ended : (record.meet incident).writer.stage = .ended (some error)) :
    record.writer.stage = .ended (some error) ∨
      incident = .work (.faulty error) ∧ record.writer.isWriting = true := by
  cases incident with
  | join =>
    rw [meet] at ended
    split at ended <;> exact .inl ended
  | leave => exact .inl ended
  | queue frame =>
    rw [meet] at ended
    split at ended
    · exact .inl ended
    · exact .inl ((stage_push _ _).symm.trans ended)
  | work sink =>
    rcases meet_work_cases record sink with ⟨-, same⟩ | ⟨after, act, deed, next⟩
    · exact .inl (same ▸ ended)
    · rw [next] at ended
      cases deed with
      | fails going busy =>
        cases ended
        have writing : record.writer.isWriting = true := by
          simp [isWriting, going, Option.isSome_iff_ne_none.mpr busy]
        exact .inr ⟨rfl, writing⟩
      | writes | takes => exact .inl ended
      | turns | closes | closesNot | crashes => cases ended
  | cancel =>
    rw [meet] at ended
    rcases cancel_cases record.writer with same | ⟨-, same⟩ <;> rw [same] at ended
    · exact .inl ended
    · cases ended
  | abort =>
    rw [meet] at ended
    rcases abort_cases record.writer with same | ⟨-, same⟩ <;> rw [same] at ended
    · exact .inl ended
    · cases ended

/-- **A writer ends with an error exactly if a write met it**, and then it has written nothing
since. -/
theorem stage_run_eq_ended_iff (incidents : List Incident) (error : ChannelError) :
    (fresh.run incidents).writer.stage = .ended (some error) ↔
      ∃ earlier later, incidents = earlier ++ .work (.faulty error) :: later ∧
        (fresh.run earlier).writer.isWriting = true ∧
        (fresh.run incidents).acts = (fresh.run earlier).acts := by
  constructor
  · intro ended
    induction incidents using List.reverseRecOn with
    | nil => cases ended
    | append_singleton before incident ih =>
      rw [run_concat] at ended ⊢
      rcases failure_of_stage ended with already | ⟨rfl, writing⟩
      · obtain ⟨earlier, later, rfl, writing, acts⟩ := ih already
        refine ⟨earlier, later ++ [incident], by simp, writing, ?_⟩
        exact (run_of_ended already [incident]).2.trans acts
      · exact ⟨before, [], rfl, writing, by rw [meet_of_failure writing]⟩
  · rintro ⟨earlier, later, rfl, writing, -⟩
    have failed := meet_of_failure writing error
    have ended : ((fresh.run earlier).meet (.work (.faulty error))).writer.stage =
        .ended (some error) := by rw [failed]
    rw [run_append]
    show (((fresh.run earlier).meet _).run later).writer.stage = _
    rw [(run_of_ended ended later).1, ended]

/-! ### From the beginning -/

/-- **What is written is the first of what was queued and may be sent**, one chunk for each frame
and in the order of the queue, whenever frames are queued and whatever happens to the sink and to
the writer. It is all of it once a writer that nothing disturbs takes no more frames; such a writer
comes to its end if its senders have left and its sink accepts often enough. A write that fails ends
the writer with its error, nothing more is written after it, and a writer ends with no other one. -/
theorem written_in_order (incidents : List Incident) :
    let record := fresh.run incidents
    record.written ++ record.writer.chunk.toList <+: sendable record.queued ∧
    ((∀ incident ∈ incidents, incident.isPatient = true) → record.writer.isOpen = false →
      record.isDeserted = true ∧ record.written = sendable record.queued) ∧
    (∀ earlier later, incidents = earlier ++ later →
      (∀ incident ∈ incidents, incident.isPatient = true) →
      (fresh.run earlier).isDeserted = true →
      2 * (fresh.run earlier).queued.length + 2 ≤ later.count (.work .accepting) →
      record.writer.stage = .ended none ∧
        record.acts = (sendable record.queued).map .wrote ++ [.closed]) ∧
    ∀ error, record.writer.stage = .ended (some error) ↔
      ∃ earlier later, incidents = earlier ++ .work (.faulty error) :: later ∧
        (fresh.run earlier).writer.isWriting = true ∧
        record.acts = (fresh.run earlier).acts := by
  intro record
  have faithful : record.IsFaithful := isFaithful_fresh.run incidents
  refine ⟨faithful.ordered, fun patient notOpen => ?_, ?_, stage_run_eq_ended_iff incidents⟩
  · have chunks (list : List (List UInt8)) : (list.map SinkAct.wrote).filterMap SinkAct.chunk? =
        list := by
      rw [List.filterMap_map]
      exact List.filterMap_some
    cases isUndisturbed_fresh.run isFaithful_fresh patient with
    | writing going => cases (decide_eq_true going : record.writer.isOpen = true).symm.trans notOpen
    | closing _ deserted acts =>
      refine ⟨deserted, ?_⟩
      rw [written, acts, chunks]
    | ended _ deserted acts =>
      refine ⟨deserted, ?_⟩
      rw [written, acts, List.filterMap_append, chunks]
      exact List.append_nil _
  · rintro earlier later rfl patient deserted enough
    exact ended_of_patient patient deserted enough

/-- Two senders share a writer. The frame between theirs may not be sent, and the sink stalls for a
while; the writer writes the two others and closes the sink. -/
theorem shared_writer_writes_all :
    let last := (Frame.ofCommand .unsubscribe).withHeader Wire.Header.id "1"
    let earlier : List Incident :=
      [.join, .queue .heartbeat, .queue (.ofCommand .subscribe), .leave, .queue last,
        .work .accepting, .work .stalled, .leave]
    let later : List Incident := List.replicate 8 (.work .accepting)
    let record := fresh.run (earlier ++ later)
    record.acts = (sendable record.queued).map .wrote ++ [.closed] ∧
      sendable record.queued = [[10], last.encode] := by
  intro last earlier later record
  obtain ⟨-, -, whole, -⟩ := written_in_order (earlier ++ later)
  have done := whole earlier later rfl (by decide +kernel) (by decide +kernel) (by decide +kernel)
  exact ⟨done.2, by decide +kernel⟩

/-- A writer that is told to end or stopped at once while a frame waits leaves the frame, though its
sender has left and its sink accepts all. -/
theorem stopped_writer_leaves_frame :
    let told := fresh.run [.queue .heartbeat, .leave, .cancel, .work .accepting]
    let stopped := fresh.run [.queue .heartbeat, .leave, .abort, .work .accepting]
    told.isDeserted = true ∧ sendable told.queued = [[10]] ∧ told.acts = [.closed] ∧
      stopped.isDeserted = true ∧ sendable stopped.queued = [[10]] ∧ stopped.acts = [] := by
  decide +kernel

end Record

end Writer

end EventFeed
