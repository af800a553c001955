/-
**Who runs on behalf of a monitor.**

A start puts its keeper into the slot, a stop takes it out and waits for it. Whatever the
interleaving, the keeper in the slot is the one started last, and while the consumer has the monitor
every keeper at work is in the slot or awaited by a stop. A start that is accepted finds the slot
free or its keeper finished, so all that may still be at work then is awaited. The registry is
attached to nothing but the writer of a keeper whose session is connected.

* `Staffed.awaited_of_accepts`: whoever is still at work when a start is accepted is awaited;
* `Turn.staffed`: every turn keeps all this.
-/

import EventFeed.Proofs.Monitor.Turns

namespace EventFeed

namespace Outline

/-- Whether a keeper has not finished. -/
def IsUnfinished (outline : Outline) (index : Nat) : Prop :=
  ∃ keeper : Keeper, outline.keepers[index]? = some keeper ∧ keeper.result? = none

/-- Whether a call to stop has taken a keeper and not returned yet. -/
def IsAwaited (outline : Outline) (index : Nat) : Prop :=
  .waiting index ∈ outline.stops

/-- Whether a keeper was started last. -/
def IsNewest (outline : Outline) (index : Nat) : Prop :=
  index + 1 = outline.keepers.length

/-- What is known of who runs, in every interleaving: the keeper in the slot was started last; stops
wait for keepers that there are; a keeper that nobody waits for is in the slot, as long as the
consumer has the monitor; and the registry is attached to nothing but the writer of a connected
session. -/
structure Staffed (outline : Outline) : Prop where
  slot : ∀ index, outline.slot = some index → outline.IsNewest index
  awaited : ∀ index, outline.IsAwaited index → index < outline.keepers.length
  covered : ∀ index, outline.IsUnfinished index →
    outline.slot = some index ∨ outline.IsAwaited index ∨ outline.held = false
  paired : outline.writers.length = outline.keepers.length
  attended : ∀ writer, outline.attached = some writer → ∃ (index : Nat) (keeper : Keeper),
    outline.keepers[index]? = some keeper ∧ keeper.isReading = true ∧
      outline.writers[index]? = some (some writer)

/-! ### Small facts -/

/-- A keeper whose session is connected has not finished. -/
theorem result?_of_isReading {keeper : Keeper} (reading : keeper.isReading = true) :
    keeper.result? = none := by
  unfold Keeper.isReading at reading
  unfold Keeper.result?
  split at reading
  · rename_i phase
    rw [phase]
  · cases reading

/-- What is in a list and not in a place of it stays when the place is given to another. -/
theorem mem_set_of_ne {α : Type} {list : List α} {index : Nat} {kept gone : α} (given : α)
    (member : kept ∈ list) (place : list[index]? = some gone) (different : kept ≠ gone) :
    kept ∈ list.set index given := by
  obtain ⟨position, there⟩ := List.mem_iff_getElem?.mp member
  refine List.mem_iff_getElem?.mpr ⟨position, ?_⟩
  have elsewhere : index ≠ position := by
    rintro rfl
    exact different (Option.some.inj (there.symm.trans place))
  rw [List.getElem?_set_ne elsewhere, there]

/-- After one keeper's step, whoever has not finished had not finished before. -/
theorem isUnfinished_modify {before after : Outline} {index other : Nat} {keeper next : Keeper}
    (present : before.keepers[index]? = some keeper) (working : keeper.result? = none)
    (changed : after.keepers = before.keepers.modify index fun _ => next)
    (unfinished : after.IsUnfinished other) : before.IsUnfinished other := by
  obtain ⟨running, found, unfinished⟩ := unfinished
  by_cases same : index = other
  · subst same
    exact ⟨keeper, present, working⟩
  · rw [changed, List.getElem?_modify_ne _ _ same] at found
    exact ⟨running, found, unfinished⟩

/-- A start adds a keeper that has not finished, and no other. -/
theorem isUnfinished_started {before : Outline} {endpoint : Endpoint} {credentials : Credentials}
    {index : Nat} : (before.started endpoint credentials).IsUnfinished index ↔
      before.IsUnfinished index ∨ index = before.keepers.length := by
  unfold IsUnfinished started
  dsimp only
  constructor
  · rintro ⟨keeper, found, running⟩
    rw [List.getElem?_append] at found
    split at found
    · exact .inl ⟨keeper, found, running⟩
    · have single := List.getElem?_eq_some_iff.mp found
      obtain ⟨bound, -⟩ := single
      rw [List.length_singleton] at bound
      exact .inr (by omega)
  · rintro (⟨keeper, found, running⟩ | rfl)
    · have bound := (List.getElem?_eq_some_iff.mp found).1
      exact ⟨keeper, by rw [List.getElem?_append_left bound, found], running⟩
    · exact ⟨.fresh endpoint credentials, by simp, rfl⟩

/-! ### The invariant in every turn -/

namespace Staffed

variable {outline : Outline}

/-- Whoever is still at work when a start is accepted is awaited by a stop. -/
theorem awaited_of_accepts (staffed : Staffed outline) (accepted : outline.accepts = true)
    {index : Nat} (unfinished : outline.IsUnfinished index) : outline.IsAwaited index := by
  unfold Outline.accepts at accepted
  rw [Bool.and_eq_true] at accepted
  obtain ⟨held, idle⟩ := accepted
  rcases staffed.covered index unfinished with own | waiting | abandoned
  · -- the keeper in the slot has finished, or the start would not be accepted
    obtain ⟨keeper, present, working⟩ := unfinished
    simp [own, result?, present, working] at idle
  · exact waiting
  · rw [held] at abandoned
    cases abandoned

theorem settled (staffed : Staffed outline) : Staffed outline.settled := by
  unfold Outline.settled
  split
  · exact staffed
  · rename_i abandoned
    rw [Bool.not_eq_true, Bool.or_eq_false_iff] at abandoned
    exact ⟨fun _ taken => (nomatch taken), staffed.awaited, fun _ _ => .inr (.inr abandoned.1),
      staffed.paired, staffed.attended⟩

theorem letGo (staffed : Staffed outline) : Staffed { outline with held := false } :=
  ⟨staffed.slot, staffed.awaited, fun _ _ => .inr (.inr rfl), staffed.paired, staffed.attended⟩

theorem call (staffed : Staffed outline) :
    Staffed { outline with stops := outline.stops ++ [.called] } := by
  have awaited : ∀ index, .waiting index ∈ outline.stops ++ [.called] ↔
      outline.IsAwaited index := by
    intro index
    simp [IsAwaited]
  refine ⟨staffed.slot, fun index waiting => staffed.awaited index ((awaited index).mp waiting),
    fun index unfinished => ?_, staffed.paired, staffed.attended⟩
  have covered := staffed.covered index unfinished
  rwa [← awaited] at covered

theorem take (staffed : Staffed outline) {index keeper : Nat}
    (called : outline.stops[index]? = some .called) (taken : outline.slot = some keeper) :
    Staffed { outline with
      slot := none, stops := outline.stops.set index (.waiting keeper) } := by
  refine ⟨fun _ taken => (nomatch taken), fun other waiting => ?_, fun other unfinished => ?_,
    staffed.paired, staffed.attended⟩
  · rcases List.mem_or_eq_of_mem_set waiting with before | new
    · exact staffed.awaited other before
    · cases new
      exact Nat.le_of_eq (staffed.slot keeper taken)
  · right
    rcases staffed.covered other unfinished with own | waiting | abandoned
    · rw [taken] at own
      cases own
      exact .inl (List.mem_set (List.getElem?_eq_some_iff.mp called).1 _)
    · exact .inl (mem_set_of_ne _ waiting called (by simp))
    · exact .inr abandoned

theorem returned (staffed : Staffed outline) {index : Nat} {stage : StopStage}
    (place : outline.stops[index]? = some stage)
    (unneeded : ∀ keeper, stage = .waiting keeper → ¬outline.IsUnfinished keeper)
    (state : ConnectionState) :
    Staffed { outline with stops := outline.stops.set index .returned, state } := by
  refine ⟨staffed.slot, fun other waiting => ?_, fun other unfinished => ?_, staffed.paired,
    staffed.attended⟩
  · rcases List.mem_or_eq_of_mem_set waiting with before | new
    · exact staffed.awaited other before
    · cases new
  · rcases staffed.covered other unfinished with own | waiting | abandoned
    · exact .inl own
    · refine .inr (.inl (mem_set_of_ne _ waiting place ?_))
      rintro rfl
      exact unneeded other rfl unfinished
    · exact .inr (.inr abandoned)

theorem start (staffed : Staffed outline) (accepted : outline.accepts = true)
    (endpoint : Endpoint) (credentials : Credentials) :
    Staffed (outline.started endpoint credentials) := by
  refine ⟨fun index taken => ?_, fun index waiting => ?_, fun index unfinished => ?_, ?_,
    fun writer attached => ?_⟩
  · cases taken
    simp [IsNewest, started]
  · have bound := staffed.awaited index waiting
    simp [started]
    omega
  · rcases isUnfinished_started.mp unfinished with old | rfl
    · exact .inr (.inl (staffed.awaited_of_accepts accepted old))
    · exact .inl rfl
  · simp [started, staffed.paired]
  · obtain ⟨index, keeper, present, reading, seated⟩ := staffed.attended writer attached
    have keeperBound := (List.getElem?_eq_some_iff.mp present).1
    have writerBound := (List.getElem?_eq_some_iff.mp seated).1
    refine ⟨index, keeper, ?_, reading, ?_⟩
    · exact (List.getElem?_append_left keeperBound).trans present
    · exact (List.getElem?_append_left writerBound).trans seated

theorem step (staffed : Staffed outline) {index : Nat} {keeper : Keeper} {step : Keeper.Step}
    {after : Outline} (present : outline.keepers[index]? = some keeper)
    (working : keeper.result? = none) (course : keeper.Course step)
    (alters : Alters index step.2
      { outline with keepers := outline.keepers.modify index fun _ => step.1 } after)
    (joined : step.1.isReading = true → keeper.isReading = false →
      ∀ writer, after.attached = some writer →
        outline.attached = some writer ∨ after.writers[index]? = some (some writer)) :
    Staffed after := by
  have bound := (List.getElem?_eq_some_iff.mp present).1
  have length : after.keepers.length = outline.keepers.length := by
    rw [alters.keepers, List.length_modify]
  have others : ∀ other, other ≠ index → after.keepers[other]? = outline.keepers[other]? := by
    intro other different
    rw [alters.keepers, List.getElem?_modify_ne _ _ different.symm]
  have own : after.keepers[index]? = some step.1 := by
    rw [alters.keepers, List.getElem?_modify_eq, present]
    rfl
  -- a writer that was attached before is that of the keeper that attended to it before
  have kept : keeper.isReading = false → ∀ writer, outline.attached = some writer →
      ∃ (index : Nat) (keeper : Keeper), after.keepers[index]? = some keeper ∧
        keeper.isReading = true ∧ after.writers[index]? = some (some writer) := by
    intro apart writer attached
    obtain ⟨other, reader, found, reading, seated⟩ := staffed.attended writer attached
    have different : other ≠ index := by
      rintro rfl
      rw [present] at found
      cases found
      rw [apart] at reading
      cases reading
    exact ⟨other, reader, (others other different).trans found, reading,
      (alters.others other different).trans seated⟩
  refine ⟨fun other taken => ?_, fun other waiting => ?_, fun other unfinished => ?_, ?_,
    fun writer attached => ?_⟩
  · rw [IsNewest, length]
    rw [alters.slot] at taken
    exact staffed.slot other taken
  · rw [length]
    rw [IsAwaited, alters.stops] at waiting
    exact staffed.awaited other waiting
  · rw [IsAwaited, alters.slot, alters.stops, alters.held]
    exact staffed.covered other (isUnfinished_modify present working alters.keepers unfinished)
  · rw [length, ← staffed.paired]
    exact alters.seats
  · rcases course with ⟨apart, _, unbound⟩ | ⟨apart, reading, effects⟩ |
      ⟨reading, reads, unbound, unseated, _⟩ | ⟨reading, _, detaches, never⟩
    · rw [alters.attached unbound] at attached
      exact kept apart writer attached
    · rcases joined reading apart writer attached with before | seated
      · exact kept apart writer before
      · exact ⟨index, step.1, own, reading, seated⟩
    · rw [alters.attached unbound] at attached
      obtain ⟨other, reader, found, reads', seated⟩ := staffed.attended writer attached
      by_cases same : other = index
      · subst same
        exact ⟨other, step.1, own, reads, by rw [alters.writers unseated]; exact seated⟩
      · exact ⟨other, reader, (others other same).trans found, reads',
          (alters.others other same).trans seated⟩
    · rw [alters.detached (by simpa using bound) never detaches] at attached
      cases attached

end Staffed

/-- What is known of who runs stays known. -/
theorem Turn.staffed {before after : Outline} {move : Move} (turn : Turn before move after)
    (staffed : Staffed before) : Staffed after := by
  cases turn with
  | quiet => exact staffed
  | steps present working course alters joined =>
    exact staffed.step present working course alters joined
  | starts accepted => exact staffed.start accepted _ _
  | calls _ => exact staffed.call
  | letsGo _ => exact staffed.letGo.settled
  | takes called taken => exact staffed.take called taken
  | misses called _ =>
    exact (staffed.returned called (fun _ waiting => nomatch waiting) before.state).settled
  | returns waiting finished =>
    refine (staffed.returned waiting ?_ _).settled
    rintro _ ⟨⟩ ⟨keeper, present, working⟩
    rw [result?, present, Option.bind_some, working] at finished
    cases finished

end Outline

end EventFeed
