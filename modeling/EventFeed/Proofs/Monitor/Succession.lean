/-
**One keeper after the other.**

At most one keeper of a monitor is meant to be at work. A stop takes its keeper out of the slot
before that keeper has finished, though, and the next start looks at the slot alone. So a start that
comes while a stop still waits is accepted, and then two sessions live side by side.

This is the only way in which that happens: in an interleaving where no start overtakes a keeper
that is on its way out, keepers follow one another, every session begins alone and ends only itself.
What a stop publishes after its keeper has finished can still come behind a start; it does not in an
interleaving where no start is accepted before every stop has returned.

* `one_keeper_iff`: exactly when keepers follow one another, and what follows from it;
* `hurried_interferes`: an interleaving in which a start overtakes, and the end of a session takes
  the registry away from the session after it.
-/

import EventFeed.Proofs.Monitor.Staff
import Mathlib.Data.List.Induction

namespace EventFeed

/-! ### Turns that keep the order -/

namespace Outline

/-- Whether nobody but the keeper that was started last is at work. -/
def OnlyNewestWorks (outline : Outline) : Prop :=
  ∀ index, outline.IsUnfinished index → outline.IsNewest index

/-- Whether no stop waits for any but the keeper that was started last. -/
def OnlyNewestAwaited (outline : Outline) : Prop :=
  ∀ index, outline.IsAwaited index → outline.IsNewest index

theorem keepers_settled (outline : Outline) : outline.settled.keepers = outline.keepers := by
  unfold settled
  split <;> rfl

theorem stops_settled (outline : Outline) : outline.settled.stops = outline.stops := by
  unfold settled
  split <;> rfl

theorem state_settled (outline : Outline) : outline.settled.state = outline.state := by
  unfold settled
  split <;> rfl

theorem attached_settled (outline : Outline) : outline.settled.attached = outline.attached := by
  unfold settled
  split <;> rfl

variable {before after : Outline} {move : Move}

/-- As long as no start is accepted, no keeper is added and none works again. -/
theorem Turn.keepers (turn : Turn before move after) :
    (after.keepers.length = before.keepers.length ∧
      ∀ index, after.IsUnfinished index → before.IsUnfinished index) ∨
    ∃ endpoint credentials, move = .start endpoint credentials ∧ before.accepts = true ∧
      after = before.started endpoint credentials := by
  cases turn with
  | starts accepted => exact .inr ⟨_, _, rfl, accepted, rfl⟩
  | steps present working course alters joined =>
    refine .inl ⟨by rw [alters.keepers, List.length_modify], fun index unfinished => ?_⟩
    exact isUnfinished_modify present working alters.keepers unfinished
  | letsGo _ | misses _ _ | returns _ _ =>
    refine .inl ⟨by rw [keepers_settled], fun index unfinished => ?_⟩
    rw [IsUnfinished, keepers_settled] at unfinished
    exact unfinished
  | quiet | calls _ | takes _ _ => exact .inl ⟨rfl, fun _ unfinished => unfinished⟩

/-- Only the newest keeper works after a turn if that was so before, and no start overtook a keeper
at work. -/
theorem Turn.onlyNewestWorks (turn : Turn before move after) (staffed : Staffed before)
    (lone : before.OnlyNewestWorks)
    (overtakesNone : ∀ endpoint credentials, move = .start endpoint credentials →
      before.accepts = true → ∀ index, before.IsAwaited index → ¬before.IsUnfinished index) :
    after.OnlyNewestWorks := by
  intro index unfinished
  rcases turn.keepers with ⟨length, kept⟩ | ⟨endpoint, credentials, started, accepted, rfl⟩
  · rw [IsNewest, length]
    exact lone index (kept index unfinished)
  · rcases isUnfinished_started.mp unfinished with old | rfl
    · exact absurd old (overtakesNone endpoint credentials started accepted index
        (staffed.awaited_of_accepts accepted old))
    · simp [IsNewest, Outline.started]

/-- Only the newest keeper is awaited after a turn if that was so before, and no start was accepted
while a stop waited. -/
theorem Turn.onlyNewestAwaited (turn : Turn before move after) (staffed : Staffed before)
    (prompt : before.OnlyNewestAwaited)
    (overlapsNone : ∀ endpoint credentials, move = .start endpoint credentials →
      before.accepts = true → ∀ index, ¬before.IsAwaited index) :
    after.OnlyNewestAwaited := by
  intro index awaited
  cases turn with
  | quiet => exact prompt index awaited
  | steps _ _ _ alters _ =>
    rw [IsAwaited, alters.stops] at awaited
    rw [IsNewest, alters.keepers, List.length_modify]
    exact prompt index awaited
  | starts accepted => exact absurd awaited (overlapsNone _ _ rfl accepted index)
  | calls _ => exact prompt index (by simpa [IsAwaited] using awaited)
  | letsGo _ =>
    rw [IsAwaited, stops_settled] at awaited
    rw [IsNewest, keepers_settled]
    exact prompt index awaited
  | takes _ taken =>
    rcases List.mem_or_eq_of_mem_set awaited with old | new
    · exact prompt index old
    · cases new
      exact staffed.slot index taken
  | misses _ _ | returns _ _ =>
    rw [IsAwaited, stops_settled] at awaited
    rw [IsNewest, keepers_settled]
    rcases List.mem_or_eq_of_mem_set awaited with old | new
    · exact prompt index old
    · cases new

/-- The registry is bound by a keeper at work: one whose session was connected frees it, or one
whose session was not takes it. -/
theorem Turn.attached (turn : Turn before move after) :
    after.attached = before.attached ∨ ∃ index stopFirst drawn, ∃ keeper : Keeper,
      move = .keeper index stopFirst drawn ∧ before.keepers[index]? = some keeper ∧
      keeper.result? = none ∧ (keeper.isReading = true → after.attached = none) := by
  cases turn with
  | @steps index stopFirst drawn keeper step _ present working course alters joined =>
    rcases course with ⟨_, _, unbound⟩ | ⟨apart, _, _⟩ | ⟨_, _, unbound, _, _⟩ |
      ⟨_, _, detaches, never⟩
    · exact .inl (alters.attached unbound)
    · refine .inr ⟨index, stopFirst, drawn, keeper, rfl, present, working, fun reading => ?_⟩
      rw [apart] at reading
      cases reading
    · exact .inl (alters.attached unbound)
    · refine .inr ⟨index, stopFirst, drawn, keeper, rfl, present, working, fun _ => ?_⟩
      refine alters.detached ?_ never detaches
      rw [List.length_modify]
      exact (List.getElem?_eq_some_iff.mp present).1
  | letsGo _ | misses _ _ | returns _ _ => exact .inl (attached_settled _)
  | quiet | starts _ | calls _ | takes _ _ => exact .inl rfl

/-- A state is published by a keeper at work, or by a stop that waited for its keeper. -/
theorem Turn.state (turn : Turn before move after) :
    after.state = before.state ∨
      (∃ index stopFirst drawn, move = .keeper index stopFirst drawn ∧
        before.IsUnfinished index) ∨
      ∃ index keeper, move = .stopping index ∧ before.stops[index]? = some (.waiting keeper) := by
  cases turn with
  | steps present working _ _ _ => exact .inr (.inl ⟨_, _, _, rfl, _, present, working⟩)
  | returns waiting _ => exact .inr (.inr ⟨_, _, rfl, waiting⟩)
  | letsGo _ | misses _ _ => exact .inl (state_settled _)
  | quiet | starts _ | calls _ | takes _ _ => exact .inl rfl

/-- While nobody but the newest keeper works, a keeper that works is the one that does. -/
theorem OnlyNewestWorks.eq {outline : Outline} (lone : outline.OnlyNewestWorks)
    {first second : Nat} (works : outline.IsUnfinished first)
    (worksToo : outline.IsUnfinished second) : first = second :=
  Nat.succ_inj.mp ((lone first works).trans (lone second worksToo).symm)

/-- While nobody but the newest keeper works, whoever changes what the registry is attached to frees
it from the writer of its own session, or finds it free. -/
theorem Turn.attached_of_lone (turn : Turn before move after) (staffed : Staffed before)
    (lone : before.OnlyNewestWorks) (changed : after.attached ≠ before.attached) :
    ∃ index stopFirst drawn, move = .keeper index stopFirst drawn ∧ before.IsUnfinished index ∧
      (before.attached = none ∨ after.attached = none ∧
        ∀ writer, before.attached = some writer → before.writers[index]? = some (some writer)) := by
  rcases turn.attached with same | ⟨index, stopFirst, drawn, keeper, moved, present, working, frees⟩
  · exact absurd same changed
  · have works : before.IsUnfinished index := ⟨keeper, present, working⟩
    refine ⟨index, stopFirst, drawn, moved, works, ?_⟩
    cases attached : before.attached with
    | none => exact .inl rfl
    | some writer =>
      obtain ⟨other, reader, found, reading, seated⟩ := staffed.attended writer attached
      have same : other = index :=
        lone.eq ⟨reader, found, result?_of_isReading reading⟩ works
      subst same
      rw [found] at present
      cases present
      refine .inr ⟨frees reading, fun _ own => ?_⟩
      cases own
      exact seated

end Outline

/-! ### Moves that keep the order -/

namespace World

/-- Whether a keeper has not finished. -/
def IsUnfinished (world : World) (index : Nat) : Prop :=
  index < world.tenures.length ∧ world.result? index = none

/-- Whether a call to stop has taken a keeper and not returned yet. -/
def IsAwaited (world : World) (index : Nat) : Prop :=
  .waiting index ∈ world.stops

/-- Whether a keeper was started last. -/
def IsNewest (world : World) (index : Nat) : Prop :=
  index + 1 = world.tenures.length

/-- Whether at most one keeper is at work. -/
def AtMostOneUnfinished (world : World) : Prop :=
  ∀ first second, world.IsUnfinished first → world.IsUnfinished second → first = second

/-- Whether a move is a start that is accepted. -/
def Accepts (world : World) (move : Move) : Prop :=
  (∃ endpoint credentials, move = .start endpoint credentials) ∧
    world.held = true ∧ world.isRunning = false

/-- Whether a move is a start that is accepted while a stop waits for a keeper that is still at
work. -/
def Overtakes (world : World) (move : Move) : Prop :=
  world.Accepts move ∧ ∃ index, world.IsAwaited index ∧ world.IsUnfinished index

/-- Whether a move is a start that is accepted while a stop has not returned, be its keeper at work
or not. -/
def Overlaps (world : World) (move : Move) : Prop :=
  world.Accepts move ∧ ∃ index, world.IsAwaited index

/-- Whether a session that is connected by a move begins alone: nobody is attached, and every other
keeper has finished. -/
def BeginsAlone (world : World) (move : Move) : Prop :=
  ∀ writer, (world.act move).registry.writer = some writer → world.registry.writer ≠ some writer →
    world.registry.writer = none ∧ ∃ index stopFirst drawn, move = .keeper index stopFirst drawn ∧
      ∀ other, world.IsUnfinished other → other = index

/-- Whether a session that is ended by a move is the one that makes the move. -/
def EndsItself (world : World) (move : Move) : Prop :=
  ∀ writer, world.registry.writer = some writer → (world.act move).registry.writer ≠ some writer →
    ∃ index stopFirst drawn, move = .keeper index stopFirst drawn ∧
      ∃ tenure, world.tenures[index]? = some tenure ∧ tenure.writer = some writer

/-- Whether a state that a move publishes comes from the keeper that was started last, unless a stop
publishes it. -/
def KeeperSpeaksLast (world : World) (move : Move) : Prop :=
  (world.act move).state ≠ world.state → (∃ index, move = .stopping index) ∨
    ∃ index stopFirst drawn, move = .keeper index stopFirst drawn ∧ world.IsNewest index

/-- Whether a state that is published by a stop is about the keeper that was started last. -/
def StopSpeaksLast (world : World) (move : Move) : Prop :=
  ∀ index, move = .stopping index → (world.act move).state ≠ world.state →
    ∃ keeper, world.stops[index]? = some (.waiting keeper) ∧ world.IsNewest keeper

theorem isUnfinished_outline {world : World} {index : Nat} :
    world.outline.IsUnfinished index ↔ world.IsUnfinished index := by
  rw [IsUnfinished, ← result?_outline, Outline.result?]
  constructor
  · rintro ⟨keeper, present, working⟩
    refine ⟨?_, by rw [present, Option.bind_some, working]⟩
    simpa [outline] using (List.getElem?_eq_some_iff.mp present).1
  · rintro ⟨bound, working⟩
    have bound' : index < world.outline.keepers.length := by simpa [outline] using bound
    rw [List.getElem?_eq_getElem bound', Option.bind_some] at working
    exact ⟨_, List.getElem?_eq_getElem bound', working⟩

theorem isNewest_outline {world : World} {index : Nat} :
    world.outline.IsNewest index ↔ world.IsNewest index := by
  simp [Outline.IsNewest, IsNewest, outline]

/-- A start that is accepted, told by the outline. -/
theorem accepts_of_outline {world : World} {endpoint : Endpoint} {credentials : Credentials}
    (accepted : world.outline.accepts = true) : world.Accepts (.start endpoint credentials) := by
  rw [accepts_outline, Bool.and_eq_true, Bool.not_eq_true'] at accepted
  exact ⟨⟨endpoint, credentials, rfl⟩, accepted⟩

/-- The keeper that a start adds, if the start is accepted. -/
theorem outline_act_of_accepts {world : World} {move : Move} (accepted : world.Accepts move) :
    ∃ endpoint credentials, (world.act move).outline =
      world.outline.started endpoint credentials := by
  obtain ⟨⟨endpoint, credentials, rfl⟩, held, idle⟩ := accepted
  refine ⟨endpoint, credentials, ?_⟩
  rw [act, ifHeld, if_pos held, outline_start idle]

/-! ### Whole interleavings -/

/-- Whether something holds at every moment of an interleaving. -/
def Always (holds : World → Prop) (world : World) (moves : List Move) : Prop :=
  ∀ before, before <+: moves → holds (world.play before)

/-- Whether something holds of every move of an interleaving, in the world in which it is made. -/
def EveryMove (holds : World → Move → Prop) (world : World) (moves : List Move) : Prop :=
  ∀ before move, before ++ [move] <+: moves → holds (world.play before) move

/-- What holds at first and is kept by moves of a kind always holds in an interleaving of such
moves. -/
theorem always_of_everyMove {holds : World → Prop} {kind : World → Move → Prop} {world : World}
    {moves : List Move} (first : holds world)
    (kept : ∀ world move, holds world → kind world move → holds (world.act move))
    (every : EveryMove kind world moves) : Always holds world moves := by
  intro before
  induction before using List.reverseRecOn with
  | nil => exact fun _ => first
  | append_singleton before move ih =>
    intro isPrefix
    rw [play_concat]
    exact kept _ move (ih ((List.prefix_append before [move]).trans isPrefix))
      (every before move isPrefix)

theorem outline_fresh (settings : Settings) (fallback : Outcome) (seed : Nat) :
    (fresh settings fallback seed).outline = ⟨true, none, [], [], [], none, .disconnected⟩ :=
  rfl

theorem staffed_fresh (settings : Settings) (fallback : Outcome) (seed : Nat) :
    (fresh settings fallback seed).outline.Staffed := by
  rw [outline_fresh]
  refine ⟨fun _ taken => ?_, fun _ waiting => ?_, fun _ unfinished => ?_, rfl,
    fun _ attached => ?_⟩
  · cases taken
  · cases waiting
  · obtain ⟨keeper, present, -⟩ := unfinished
    cases present
  · cases attached

theorem works_act {world : World} {move : Move} (staffed : world.outline.Staffed)
    (lone : world.outline.OnlyNewestWorks) (orderly : ¬world.Overtakes move) :
    (world.act move).outline.OnlyNewestWorks := by
  refine (turn_act world move).onlyNewestWorks staffed lone ?_
  rintro endpoint credentials rfl accepted index awaited unfinished
  exact orderly ⟨accepts_of_outline accepted, index, awaited, isUnfinished_outline.mp unfinished⟩

theorem awaited_act {world : World} {move : Move} (staffed : world.outline.Staffed)
    (prompt : world.outline.OnlyNewestAwaited) (orderly : ¬world.Overlaps move) :
    (world.act move).outline.OnlyNewestAwaited := by
  refine (turn_act world move).onlyNewestAwaited staffed prompt ?_
  rintro endpoint credentials rfl accepted index awaited
  exact orderly ⟨accepts_of_outline accepted, index, awaited⟩

section Runs

variable {world : World} {moves : List Move}

theorem always_staffed (staffed : world.outline.Staffed) :
    Always (·.outline.Staffed) world moves := by
  have every : EveryMove (fun _ _ => True) world moves := fun _ _ _ => trivial
  exact always_of_everyMove staffed
    (fun world move staffed _ => (turn_act world move).staffed staffed) every

/-- Without overtaking, nobody but the newest keeper is ever at work. -/
theorem always_works (staffed : world.outline.Staffed) (lone : world.outline.OnlyNewestWorks)
    (orderly : EveryMove (¬ ·.Overtakes ·) world moves) :
    Always (·.outline.OnlyNewestWorks) world moves := by
  have both : Always (fun world => world.outline.Staffed ∧ world.outline.OnlyNewestWorks)
      world moves := by
    refine always_of_everyMove ⟨staffed, lone⟩ ?_ orderly
    rintro world move ⟨staffed, lone⟩ orderly
    exact ⟨(turn_act world move).staffed staffed, works_act staffed lone orderly⟩
  exact fun before isPrefix => (both before isPrefix).2

/-- Without overlapping, no stop ever waits for any but the newest keeper. -/
theorem always_awaited (staffed : world.outline.Staffed)
    (prompt : world.outline.OnlyNewestAwaited)
    (orderly : EveryMove (¬ ·.Overlaps ·) world moves) :
    Always (·.outline.OnlyNewestAwaited) world moves := by
  have both : Always (fun world => world.outline.Staffed ∧ world.outline.OnlyNewestAwaited)
      world moves := by
    refine always_of_everyMove ⟨staffed, prompt⟩ ?_ orderly
    rintro world move ⟨staffed, prompt⟩ orderly
    exact ⟨(turn_act world move).staffed staffed, awaited_act staffed prompt orderly⟩
  exact fun before isPrefix => (both before isPrefix).2

end Runs

/-- A start that overtakes a keeper at work makes two. -/
theorem not_atMostOne_of_overtakes {world : World} {move : Move}
    (overtakes : world.Overtakes move) : ¬(world.act move).AtMostOneUnfinished := by
  obtain ⟨accepted, old, -, unfinished⟩ := overtakes
  obtain ⟨endpoint, credentials, after⟩ := outline_act_of_accepts accepted
  have works : ∀ index, (world.act move).IsUnfinished index ↔
      world.outline.IsUnfinished index ∨ index = world.outline.keepers.length := by
    intro index
    rw [← isUnfinished_outline, after, Outline.isUnfinished_started]
  intro atMostOne
  have same := atMostOne old world.outline.keepers.length
    ((works old).mpr (.inl (isUnfinished_outline.mpr unfinished))) ((works _).mpr (.inr rfl))
  have bound := unfinished.1
  rw [same] at bound
  simp [outline] at bound

/-- A start that is accepted while a stop waits leaves the stop waiting for an older keeper. -/
theorem not_awaited_of_overlaps {world : World} {move : Move} (staffed : world.outline.Staffed)
    (overlaps : world.Overlaps move) :
    ∃ index, (world.act move).IsAwaited index ∧ ¬(world.act move).IsNewest index := by
  obtain ⟨accepted, old, awaited⟩ := overlaps
  obtain ⟨endpoint, credentials, after⟩ := outline_act_of_accepts accepted
  have bound := staffed.awaited old awaited
  refine ⟨old, ?_, fun newest => ?_⟩
  · have stops : (world.act move).stops = world.stops := congrArg Outline.stops after
    rw [IsAwaited, stops]
    exact awaited
  · rw [← isNewest_outline, after] at newest
    simp only [Outline.IsNewest, Outline.started, List.length_append, List.length_singleton]
      at newest
    omega

/-- While nobody but the newest keeper works, sessions begin alone and end only themselves, and no
older keeper publishes a state. -/
theorem orderly_of_lone {world : World} (staffed : world.outline.Staffed)
    (lone : world.outline.OnlyNewestWorks) (move : Move) :
    world.BeginsAlone move ∧ world.EndsItself move ∧ world.KeeperSpeaksLast move := by
  have turn := turn_act world move
  refine ⟨fun writer begun before => ?_, fun writer before ended => ?_, fun changed => ?_⟩
  · obtain ⟨index, stopFirst, drawn, moved, works, free | ⟨freed, -⟩⟩ :=
      turn.attached_of_lone staffed lone fun same => before (same.symm.trans begun)
    · refine ⟨free, index, stopFirst, drawn, moved, fun other worksToo => ?_⟩
      exact lone.eq (isUnfinished_outline.mpr worksToo) works
    · cases freed.symm.trans begun
  · obtain ⟨index, stopFirst, drawn, moved, works, free | ⟨-, own⟩⟩ :=
      turn.attached_of_lone staffed lone fun same => ended (same.trans before)
    · cases free.symm.trans before
    · have seated := own writer before
      unfold outline at seated
      rw [List.getElem?_map, Option.map_eq_some_iff] at seated
      exact ⟨index, stopFirst, drawn, moved, seated⟩
  · rcases turn.state with same | ⟨index, stopFirst, drawn, moved, works⟩ |
      ⟨index, keeper, moved, -⟩
    · exact absurd same changed
    · exact .inr ⟨index, stopFirst, drawn, moved, isNewest_outline.mp (lone index works)⟩
    · exact .inl ⟨index, moved⟩

/-- While no stop waits for any but the newest keeper, no stop publishes a state about an older
one. -/
theorem stopSpeaksLast_of_awaited {world : World} (prompt : world.outline.OnlyNewestAwaited)
    (move : Move) : world.StopSpeaksLast move := by
  rintro index rfl changed
  rcases (turn_act world (.stopping index)).state with same | ⟨_, _, _, moved, _⟩ |
    ⟨_, keeper, moved, waiting⟩
  · exact absurd same changed
  · cases moved
  · cases moved
    exact ⟨keeper, waiting, isNewest_outline.mp (prompt keeper (List.mem_of_getElem? waiting))⟩

/-- **Exactly when keepers follow one another.** At most one keeper is ever at work if and only if
no start overtakes a keeper that is on its way out. Then every session begins alone and ends only
itself, and no older keeper publishes a state. No stop ever waits for an older keeper if and only if
no start is accepted before every stop has returned, and then no stop publishes a state about an
older keeper. -/
theorem one_keeper_iff (settings : Settings) (fallback : Outcome) (seed : Nat)
    (moves : List Move) :
    (Always AtMostOneUnfinished (fresh settings fallback seed) moves ↔
      EveryMove (¬ ·.Overtakes ·) (fresh settings fallback seed) moves) ∧
    (EveryMove (¬ ·.Overtakes ·) (fresh settings fallback seed) moves →
      EveryMove (fun world move => world.BeginsAlone move ∧ world.EndsItself move ∧
        world.KeeperSpeaksLast move) (fresh settings fallback seed) moves) ∧
    (Always (fun world => ∀ index, world.IsAwaited index → world.IsNewest index)
        (fresh settings fallback seed) moves ↔
      EveryMove (¬ ·.Overlaps ·) (fresh settings fallback seed) moves) ∧
    (EveryMove (¬ ·.Overlaps ·) (fresh settings fallback seed) moves →
      EveryMove StopSpeaksLast (fresh settings fallback seed) moves) := by
  have staffed := staffed_fresh settings fallback seed
  have always : Always (·.outline.Staffed) (fresh settings fallback seed) moves :=
    always_staffed staffed
  have lone : (fresh settings fallback seed).outline.OnlyNewestWorks := by
    rw [outline_fresh]
    rintro index ⟨keeper, present, -⟩
    cases present
  have prompt : (fresh settings fallback seed).outline.OnlyNewestAwaited := by
    rw [outline_fresh]
    rintro index waiting
    cases waiting
  have earlier : ∀ {before move}, before ++ [move] <+: moves → before <+: moves :=
    fun isPrefix => (List.prefix_append _ _).trans isPrefix
  refine ⟨⟨fun atMostOne before move isPrefix overtakes => ?_,
    fun orderly before isPrefix first second works worksToo => ?_⟩,
    fun orderly before move isPrefix => ?_,
    ⟨fun newest before move isPrefix overlaps => ?_,
      fun orderly before isPrefix index awaited => ?_⟩,
    fun orderly before move isPrefix => ?_⟩
  · -- A start that overtakes would make two, at once.
    refine not_atMostOne_of_overtakes overtakes ?_
    rw [← play_concat]
    exact atMostOne _ isPrefix
  · exact (always_works staffed lone orderly before isPrefix).eq
      (isUnfinished_outline.mpr works) (isUnfinished_outline.mpr worksToo)
  · exact orderly_of_lone (always before (earlier isPrefix))
      (always_works staffed lone orderly before (earlier isPrefix)) move
  · obtain ⟨index, awaited, older⟩ :=
      not_awaited_of_overlaps (always before (earlier isPrefix)) overlaps
    rw [← play_concat] at awaited older
    exact older (newest _ isPrefix index awaited)
  · exact isNewest_outline.mp (always_awaited staffed prompt orderly before isPrefix index awaited)
  · exact stopSpeaksLast_of_awaited
      (always_awaited staffed prompt orderly before (earlier isPrefix)) move

/-! ### An interleaving in which a start overtakes -/

/-- The next step of a keeper that notices a stop at once. -/
def stepOf (keeper : Nat) : Move :=
  .keeper keeper true .zero

/-- A start, and all that connects the keeper's first session to a server that answers on the
channel of the same number. -/
def connecting (number : Nat) : List Move :=
  [.start ⟨"ws://feed/", "feed", false⟩ ⟨"", ""⟩, stepOf number, stepOf number, stepOf number,
    stepOf number, .receive number (.ok (Text.toBytes "CONNECTED\n\n\x00")), stepOf number,
    stepOf number]

/-- The first session takes its leave while the second is connected, and then the second is lost. -/
def parting : List Move :=
  [stepOf 0, stepOf 0, .finishChannel 0, stepOf 0, .writer 0, .writer 0, .writer 0, .writer 0,
    stepOf 0, .finishChannel 1, stepOf 1, stepOf 1, .stopping 0]

/-- The monitor is started, stopped, and started again before the stop returns. -/
def hurried : List Move :=
  connecting 0 ++ [.stop, .stopping 0] ++ connecting 1 ++ parting

/-- A world whose network answers at once. -/
def quickWorld : World :=
  fresh .standard ⟨.zero, .accept .accepting⟩ 7

/-- A move in the middle of an interleaving that breaks a rule. -/
theorem not_everyMove {holds : World → Move → Prop} {world : World} {moves rest : List Move}
    (before : List Move) (move : Move) (within : moves = before ++ move :: rest)
    (broken : ¬holds (world.play before) move) : ¬EveryMove holds world moves := by
  intro every
  refine broken (every before move ⟨rest, ?_⟩)
  rw [within, List.append_assoc]
  rfl

/-- In the hurried interleaving two keepers are at work, the second session is connected while the
first one still is, the end of the first takes the registry from the second, and both the first
keeper and the stop that waited for it publish over what the second keeper published. -/
theorem hurried_interferes :
    ¬Always AtMostOneUnfinished quickWorld hurried ∧ ¬EveryMove BeginsAlone quickWorld hurried ∧
      ¬EveryMove EndsItself quickWorld hurried ∧ ¬EveryMove KeeperSpeaksLast quickWorld hurried ∧
      ¬EveryMove StopSpeaksLast quickWorld hurried := by
  refine ⟨fun always => ?_,
    not_everyMove (hurried.take 17) (stepOf 1) rfl fun alone => ?_,
    not_everyMove (hurried.take 19) (stepOf 0) rfl fun own => ?_,
    not_everyMove (hurried.take 26) (stepOf 0) rfl fun last => ?_,
    not_everyMove (hurried.take 30) (.stopping 0) rfl fun last => ?_⟩
  · -- The second keeper is connected, and the first has not finished.
    have both := always (hurried.take 18) (List.take_prefix _ _) 0 1
      ⟨by decide +kernel, by decide +kernel⟩ ⟨by decide +kernel, by decide +kernel⟩
    cases both
  · -- The second session attaches the registry, and the first is attached still.
    have free := (alone 1 (by decide +kernel) (by decide +kernel)).1
    exact absurd free (by decide +kernel)
  · -- The first session detaches the registry from the writer of the second.
    obtain ⟨index, _, _, moved, tenure, present, seated⟩ :=
      own 1 (by decide +kernel) (by decide +kernel)
    cases moved
    have other : ((quickWorld.play (hurried.take 19)).tenures[0]?.bind Tenure.writer) = some 0 := by
      decide +kernel
    rw [present, Option.bind_some, seated] at other
    cases other
  · -- The first keeper publishes that it is disconnected while the second is connected.
    rcases last (by decide +kernel) with ⟨_, moved⟩ | ⟨index, _, _, moved, newest⟩
    · cases moved
    · cases moved
      have length : (quickWorld.play (hurried.take 26)).tenures.length = 2 := by decide +kernel
      rw [IsNewest, length] at newest
      cases newest
  · -- The stop publishes so once more while the second keeper waits for its next attempt.
    obtain ⟨keeper, waiting, newest⟩ := last 0 rfl (by decide +kernel)
    have first : (quickWorld.play (hurried.take 30)).stops[0]? = some (.waiting 0) := by
      decide +kernel
    cases first.symm.trans waiting
    have length : (quickWorld.play (hurried.take 30)).tenures.length = 2 := by decide +kernel
    rw [IsNewest, length] at newest
    cases newest

end World

end EventFeed
