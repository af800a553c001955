/-
**Calls that follow one another.**

A consumer may wait for each of its calls to be answered before it makes the next one. Keepers still
end by themselves at any time, between the calls and during them; but then the answers are what the
consumer expects. A start is refused exactly if the keeper that was started last is at work and no
stop has taken it. A stop takes that keeper, unless a stop has taken it before, and returns what it
finished with, and the state that the keeper left is the state still.

* `World.kept_play`: what is known of the slot and of the calls at every moment;
* `World.answered_in_turn`: how calls that follow one another are answered.
-/

import EventFeed.Proofs.Monitor.Aftermath

namespace EventFeed

/-! ### The slot and the calls in one turn -/

namespace Outline

/-- Whether every call to stop has returned. -/
def IsCalm (outline : Outline) : Prop :=
  ∀ stage ∈ outline.stops, stage = .returned

/-- Whether the consumer still has the monitor, or one of its calls to stop has not returned. -/
def IsWatched (outline : Outline) : Prop :=
  outline.held = true ∨ ¬outline.IsCalm

/-- A monitor that is let go of loses its keeper from the slot once every stop has returned. -/
theorem settled_cases (outline : Outline) : outline.settled = outline ∨
    outline.settled = { outline with slot := none } ∧ ¬outline.IsWatched := by
  unfold settled
  split
  · exact .inl rfl
  · rename_i abandoned
    rw [Bool.not_eq_true, Bool.or_eq_false_iff] at abandoned
    refine .inr ⟨rfl, ?_⟩
    rintro (held | restless)
    · cases abandoned.1.symm.trans held
    · refine restless fun stage member => ?_
      simpa using List.any_eq_false.mp abandoned.2 stage member

variable {before after : Outline} {move : Move} {index keeper : Nat} {stage : StopStage}

theorem held_settled (outline : Outline) : outline.settled.held = outline.held := by
  rcases outline.settled_cases with same | ⟨same, -⟩ <;> rw [same]

/-- The slot after a monitor may have been let go of. -/
theorem slot_settled {outline : Outline} (full : outline.settled.slot = some keeper) :
    outline.slot = some keeper := by
  rcases outline.settled_cases with same | ⟨same, -⟩
  · rwa [same] at full
  · rw [same] at full
    cases full

/-- Only a stop that takes a keeper out of the slot waits for it from then on. -/
theorem Turn.awaited (turn : before.Turn move after) (awaited : after.IsAwaited keeper) :
    before.IsAwaited keeper ∨ before.slot = some keeper ∧ after.slot = none := by
  cases turn with
  | quiet | starts => exact .inl awaited
  | steps _ _ _ alters => exact .inl (by rwa [IsAwaited, alters.stops] at awaited)
  | calls => exact .inl (by simpa [IsAwaited] using awaited)
  | letsGo => exact .inl (by rwa [IsAwaited, stops_settled] at awaited)
  | takes _ taken =>
    rcases List.mem_or_eq_of_mem_set awaited with old | new
    · exact .inl old
    · cases new
      exact .inr ⟨taken, rfl⟩
  | misses | returns =>
    rw [IsAwaited, stops_settled] at awaited
    rcases List.mem_or_eq_of_mem_set awaited with old | new
    · exact .inl old
    · cases new

/-- Only a start puts a keeper into the slot, and that keeper is new. -/
theorem Turn.slot (turn : before.Turn move after) (full : after.slot = some keeper) :
    before.slot = some keeper ∨ keeper = before.keepers.length := by
  cases turn with
  | quiet | calls => exact .inl full
  | starts => exact .inr (Option.some.inj full).symm
  | steps _ _ _ alters => exact .inl (alters.slot.symm.trans full)
  | takes => cases full
  | letsGo | misses | returns =>
    have full := slot_settled full
    exact .inl full

/-- No keeper is ever removed. -/
theorem Turn.length_le (turn : before.Turn move after) :
    before.keepers.length ≤ after.keepers.length := by
  rcases turn.keepers with ⟨length, -⟩ | ⟨_, _, -, -, rfl⟩
  · exact Nat.le_of_eq length.symm
  · simp [started]

/-- A call to stop that has not returned had not returned before, or is made now. -/
theorem Turn.unreturned (turn : before.Turn move after)
    (there : after.stops[index]? = some stage) (unreturned : stage ≠ .returned) :
    (∃ earlier, before.stops[index]? = some earlier ∧ earlier ≠ .returned) ∨
      move = .stop ∧ before.held = true ∧ index = before.stops.length := by
  have elsewhere {place : Nat} {earlier given : StopStage}
      (was : before.stops[place]? = some earlier) (going : earlier ≠ .returned)
      (there : (before.stops.set place given)[index]? = some stage) :
      ∃ earlier, before.stops[index]? = some earlier ∧ earlier ≠ .returned := by
    by_cases same : place = index
    · subst same
      exact ⟨earlier, was, going⟩
    · rw [List.getElem?_set_ne same] at there
      exact ⟨stage, there, unreturned⟩
  cases turn with
  | quiet | starts => exact .inl ⟨stage, there, unreturned⟩
  | steps _ _ _ alters => exact .inl ⟨stage, by rwa [alters.stops] at there, unreturned⟩
  | calls held =>
    rw [List.getElem?_append] at there
    split at there
    · exact .inl ⟨stage, there, unreturned⟩
    · rename_i beyond
      have bound := (List.getElem?_eq_some_iff.mp there).1
      rw [List.length_singleton] at bound
      exact .inr ⟨rfl, held, by omega⟩
  | letsGo => exact .inl ⟨stage, by rwa [stops_settled] at there, unreturned⟩
  | takes called =>
    exact .inl (elsewhere called (by simp) there)
  | misses called | returns called =>
    rw [stops_settled] at there
    exact .inl (elsewhere called (by simp) there)

/-- Nobody watches a monitor again that nobody watches. -/
theorem Turn.watched (turn : before.Turn move after) (watched : after.IsWatched) :
    before.IsWatched := by
  rcases watched with held | restless
  · left
    cases turn with
    | quiet | starts | calls | takes => exact held
    | steps _ _ _ alters => exact alters.held ▸ held
    | letsGo wasHeld => exact wasHeld
    | misses | returns =>
      rw [held_settled] at held
      exact held
  · by_cases held : before.held = true
    · exact .inl held
    · refine .inr fun calm => restless fun stage member => ?_
      obtain ⟨index, there⟩ := List.mem_iff_getElem?.mp member
      by_contra unreturned
      rcases turn.unreturned there unreturned with ⟨earlier, was, going⟩ | ⟨-, isHeld, -⟩
      · exact going (calm earlier (List.mem_of_getElem? was))
      · exact held isHeld

/-- The slot becomes free when a stop takes the keeper, or nobody watches the monitor any more. -/
theorem Turn.free (turn : before.Turn move after) (free : after.slot = none)
    (watched : after.IsWatched) :
    after.keepers.length = before.keepers.length ∧
      (before.slot = none ∨ ∃ keeper, before.slot = some keeper ∧ after.IsAwaited keeper) := by
  have kept {outline : Outline} (free : outline.settled.slot = none)
      (watched : outline.settled.IsWatched) : outline.slot = none := by
    rcases outline.settled_cases with same | ⟨same, unwatched⟩
    · rwa [same] at free
    · rw [same] at watched
      exact absurd (show outline.IsWatched from watched) unwatched
  cases turn with
  | quiet | calls => exact ⟨rfl, .inl free⟩
  | starts => cases free
  | steps _ _ _ alters =>
    refine ⟨by rw [alters.keepers, List.length_modify], .inl (alters.slot.symm.trans free)⟩
  | takes called taken =>
    refine ⟨rfl, .inr ⟨_, taken, List.mem_set (List.getElem?_eq_some_iff.mp called).1 _⟩⟩
  | letsGo | misses | returns =>
    have free := kept free watched
    exact ⟨by rw [keepers_settled], .inl free⟩

end Outline

/-! ### Calls that are made one after the other -/

/-- Whether a move is a call to start or to stop. -/
def Move.isCall : Move → Bool
  | .start _ _ | .stop => true
  | _ => false

namespace World

/-- Whether every call to stop has returned. -/
def IsCalm (world : World) : Prop :=
  ∀ stage ∈ world.stops, stage = .returned

instance (world : World) : Decidable world.IsCalm :=
  inferInstanceAs (Decidable (∀ stage ∈ world.stops, stage = .returned))

/-- Whether a move is a call that is made before every call to stop has returned. -/
def Interrupts (world : World) (move : Move) : Prop :=
  move.isCall = true ∧ ¬world.IsCalm

instance (world : World) (move : Move) : Decidable (world.Interrupts move) :=
  inferInstanceAs (Decidable (_ ∧ _))

/-- Whether a stop has taken a keeper at some time in an interleaving. -/
def WasTaken (start : World) (moves : List Move) (keeper : Nat) : Prop :=
  ∃ front, front <+: moves ∧ (start.play front).IsAwaited keeper

/-- Whether a keeper is the one that was started last, and no stop has taken it. -/
def IsTakeable (start : World) (moves : List Move) (keeper : Nat) : Prop :=
  (start.play moves).IsNewest keeper ∧ ¬start.WasTaken moves keeper

/-- What is known of the slot and of the calls as long as calls follow one another. -/
structure IsKept (start : World) (moves : List Move) : Prop where
  bound : ∀ keeper, start.WasTaken moves keeper → keeper < (start.play moves).outline.keepers.length
  full : ∀ keeper, (start.play moves).slot = some keeper → ¬start.WasTaken moves keeper
  free : (start.play moves).slot = none → (start.play moves).outline.IsWatched →
    ∀ keeper, (start.play moves).outline.IsNewest keeper → start.WasTaken moves keeper
  /-- There is one call at most that has not returned. -/
  single : ∀ (first second : Nat) (stage other : StopStage),
    (start.play moves).stops[first]? = some stage → stage ≠ .returned →
    (start.play moves).stops[second]? = some other → other ≠ .returned → first = second
  left : (start.play moves).IsLeft

section Histories

variable {start : World} {moves : List Move} {move : Move} {keeper : Nat}

theorem wasTaken_concat : start.WasTaken (moves ++ [move]) keeper ↔
    start.WasTaken moves keeper ∨ ((start.play moves).act move).IsAwaited keeper := by
  unfold WasTaken
  simp only [List.prefix_concat_iff]
  constructor
  · rintro ⟨front, rfl | isPrefix, awaited⟩
    · rw [play_concat] at awaited
      exact .inr awaited
    · exact .inl ⟨front, isPrefix, awaited⟩
  · rintro (⟨front, isPrefix, awaited⟩ | awaited)
    · exact ⟨front, .inr isPrefix, awaited⟩
    · rw [← play_concat] at awaited
      exact ⟨_, .inl rfl, awaited⟩

theorem WasTaken.mono {later : List Move} (taken : start.WasTaken moves keeper)
    (isPrefix : moves <+: later) : start.WasTaken later keeper := by
  obtain ⟨front, early, awaited⟩ := taken
  exact ⟨front, early.trans isPrefix, awaited⟩

theorem wasTaken_of_awaited (awaited : (start.play moves).IsAwaited keeper) :
    start.WasTaken moves keeper :=
  ⟨moves, List.prefix_refl moves, awaited⟩

theorem isKept_fresh (settings : Settings) (fallback : Outcome) (seed : Nat) :
    (fresh settings fallback seed).IsKept [] := by
  have untaken : ∀ keeper, ¬(fresh settings fallback seed).WasTaken [] keeper := by
    rintro keeper ⟨front, isPrefix, awaited⟩
    rw [List.prefix_nil.mp isPrefix] at awaited
    cases awaited
  refine ⟨fun keeper taken => absurd taken (untaken keeper), fun _ full => ?_,
    fun _ _ _ newest => ?_, fun _ _ _ _ there => ?_, fun _ _ newest => ?_⟩
  · cases full
  · cases newest
  · cases there
  · cases newest

/-- One move more keeps what is known. -/
theorem IsKept.concat (kept : start.IsKept moves)
    (staffed : (start.play moves).outline.Staffed)
    (lone : (start.play moves).outline.OnlyNewestWorks)
    (prompt : (start.play moves).outline.OnlyNewestAwaited)
    (patient : ¬(start.play moves).Interrupts move) : start.IsKept (moves ++ [move]) := by
  have turn := turn_act (start.play moves) move
  have taken : ∀ keeper, start.WasTaken (moves ++ [move]) keeper ↔ start.WasTaken moves keeper ∨
      ((start.play moves).act move).outline.IsAwaited keeper := fun _ => wasTaken_concat
  constructor
  · intro keeper was
    rw [play_concat]
    rcases (taken keeper).mp was with before | awaited
    · exact Nat.lt_of_lt_of_le (kept.bound keeper before) turn.length_le
    · exact (turn.staffed staffed).awaited keeper awaited
  · intro keeper full was
    rw [play_concat] at full
    rcases turn.slot full with before | rfl
    · rcases (taken keeper).mp was with taken | awaited
      · exact kept.full keeper before taken
      · rcases turn.awaited awaited with earlier | ⟨-, free⟩
        · exact kept.full keeper before (wasTaken_of_awaited earlier)
        · cases free.symm.trans full
    · -- nobody can have taken a keeper that is new
      refine Nat.lt_irrefl _ (kept.bound _ ?_)
      rcases (taken _).mp was with taken | awaited
      · exact taken
      · rcases turn.awaited awaited with earlier | ⟨-, free⟩
        · exact wasTaken_of_awaited earlier
        · cases free.symm.trans full
  · intro free watched keeper newest
    rw [play_concat] at free watched newest
    obtain ⟨length, freeBefore | ⟨other, full, awaited⟩⟩ := turn.free free watched
    · rw [Outline.IsNewest, length] at newest
      exact (taken keeper).mpr (.inl (kept.free freeBefore (turn.watched watched) keeper newest))
    · have own := staffed.slot other full
      rw [Outline.IsNewest, length] at newest
      obtain rfl := Nat.succ_inj.mp (newest.trans own.symm)
      exact (taken keeper).mpr (.inr awaited)
  · intro first second stage other there unreturned elsewhere going
    rw [play_concat] at there elsewhere
    rcases turn.unreturned there unreturned with ⟨stage, was, before⟩ | ⟨rfl, -, rfl⟩
    · rcases turn.unreturned elsewhere going with ⟨other, wasToo, beforeToo⟩ | ⟨rfl, -, rfl⟩
      · exact kept.single first second stage other was before wasToo beforeToo
      · exact absurd ⟨rfl, fun calm => before (calm stage (List.mem_of_getElem? was))⟩ patient
    · rcases turn.unreturned elsewhere going with ⟨other, wasToo, beforeToo⟩ | ⟨-, -, rfl⟩
      · exact absurd ⟨rfl, fun calm => beforeToo (calm other (List.mem_of_getElem? wasToo))⟩ patient
      · rfl
  · rw [play_concat]
    exact leaves_act lone prompt kept.left move

/-- While calls follow one another, no start is accepted before every stop has returned. -/
theorem not_overlaps_of_patient {world : World} (patient : ¬world.Interrupts move) :
    ¬world.Overlaps move := by
  rintro ⟨⟨⟨endpoint, credentials, rfl⟩, -, -⟩, index, awaited⟩
  refine patient ⟨rfl, fun calm => ?_⟩
  cases calm _ awaited

/-- Who is at work and who is awaited while calls follow one another. -/
theorem ordered_play (settings : Settings) (fallback : Outcome) (seed : Nat)
    (patient : EveryMove (¬ ·.Interrupts ·) (fresh settings fallback seed) moves) :
    Always (fun world => world.outline.Staffed ∧ world.outline.OnlyNewestWorks ∧
      world.outline.OnlyNewestAwaited) (fresh settings fallback seed) moves := by
  have staffed := staffed_fresh settings fallback seed
  have lone : (fresh settings fallback seed).outline.OnlyNewestWorks := by
    rw [outline_fresh]
    rintro index ⟨keeper, present, -⟩
    cases present
  have prompt : (fresh settings fallback seed).outline.OnlyNewestAwaited := by
    rw [outline_fresh]
    rintro index waiting
    cases waiting
  have apart : EveryMove (¬ ·.Overlaps ·) (fresh settings fallback seed) moves :=
    fun before move isPrefix => not_overlaps_of_patient (patient before move isPrefix)
  have orderly : EveryMove (¬ ·.Overtakes ·) (fresh settings fallback seed) moves :=
    fun before move isPrefix overtakes => apart before move isPrefix
      ⟨overtakes.1, overtakes.2.imp fun _ both => both.1⟩
  exact fun front isPrefix => ⟨always_staffed staffed front isPrefix,
    always_works staffed lone orderly front isPrefix,
    always_awaited staffed prompt apart front isPrefix⟩

/-- **What is known at every moment** of an interleaving in which calls follow one another. -/
theorem kept_play (settings : Settings) (fallback : Outcome) (seed : Nat)
    (patient : EveryMove (¬ ·.Interrupts ·) (fresh settings fallback seed) moves)
    {front : List Move} (isPrefix : front <+: moves) :
    (fresh settings fallback seed).IsKept front := by
  induction front using List.reverseRecOn with
  | nil => exact isKept_fresh settings fallback seed
  | append_singleton front move ih =>
    have earlier := (List.prefix_append front [move]).trans isPrefix
    obtain ⟨staffed, lone, prompt⟩ := ordered_play settings fallback seed patient front earlier
    exact (ih earlier).concat staffed lone prompt (patient front move isPrefix)

/-! ### How calls are answered -/

/-- As long as somebody watches the monitor, the keeper in the slot is the one that a stop can
take. -/
theorem IsKept.slot_iff (kept : start.IsKept moves)
    (staffed : (start.play moves).outline.Staffed)
    (watched : (start.play moves).outline.IsWatched) :
    (start.play moves).slot = some keeper ↔ start.IsTakeable moves keeper := by
  constructor
  · exact fun full => ⟨isNewest_outline.mp (staffed.slot keeper full), kept.full keeper full⟩
  · rintro ⟨newest, untaken⟩
    cases full : (start.play moves).slot with
    | none => exact absurd (kept.free full watched keeper (isNewest_outline.mpr newest)) untaken
    | some other =>
      have own := isNewest_outline.mp (staffed.slot other full)
      rw [Nat.succ_inj.mp (own.trans newest.symm)]

/-- A keeper that was taken and is awaited no more is never awaited again. -/
theorem not_awaited_again (kept : ∀ front, front <+: moves → start.IsKept front)
    {front : List Move} (taken : start.WasTaken front keeper)
    (unawaited : ¬(start.play front).IsAwaited keeper) {more : List Move}
    (later : front ++ more <+: moves) : ¬(start.play (front ++ more)).IsAwaited keeper := by
  induction more using List.reverseRecOn with
  | nil => rwa [List.append_nil]
  | append_singleton more move ih =>
    rw [← List.append_assoc] at later ⊢
    have earlier := (List.prefix_append (front ++ more) [move]).trans later
    rw [play_concat]
    intro awaited
    rcases (turn_act _ move).awaited awaited with before | ⟨full, -⟩
    · exact ih earlier before
    · exact (kept _ earlier).full keeper full (taken.mono (List.prefix_append front more))

/-- Once a stop has returned, nobody waits for its keeper any more. -/
theorem IsKept.not_awaited_of_returns (kept : start.IsKept moves) {index : Nat}
    {result : Except MonitorError Unit}
    (returns : (start.play moves).Returns index (.waiting keeper) result) :
    ¬((start.play moves).act (.stopping index)).IsAwaited keeper := by
  intro awaited
  obtain ⟨place, there⟩ := List.mem_iff_getElem?.mp awaited
  rcases (turn_act _ (.stopping index)).unreturned there (by simp) with
    ⟨earlier, was, unreturned⟩ | ⟨other, -, -⟩
  · obtain rfl := kept.single place index _ _ was unreturned returns.before returns.unreturned
    cases there.symm.trans returns.after
  · cases other

end Histories

/-- **How calls that follow one another are answered.** -/
structure AnswersInTurn (start : World) (moves : List Move) : Prop where
  /-- A start is refused exactly if the keeper that was started last is at work and no stop has
  taken it. -/
  starts : ∀ front, front <+: moves → (start.play front).held = true → ∀ endpoint credentials,
    ((start.play front).start endpoint credentials).1 = .error .alreadyRunning ↔
      ∃ newest, start.IsTakeable front newest ∧ (start.play front).IsUnfinished newest
  /-- A start that is not accepted is refused so, and changes nothing. -/
  refused : ∀ front, front <+: moves → ∀ endpoint credentials error,
    ((start.play front).start endpoint credentials).1 = .error error →
      error = .alreadyRunning ∧ ((start.play front).start endpoint credentials).2 = start.play front
  /-- A stop takes the keeper that was started last, if no stop has taken it. -/
  takes : ∀ front, front <+: moves → ∀ index keeper,
    (start.play front).stops[index]? = some .called → start.IsTakeable front keeper →
      ((start.play front).act (.stopping index)).stops[index]? = some (.waiting keeper)
  /-- A stop that has no keeper to take returns at once. -/
  misses : ∀ front, front <+: moves → ∀ index,
    (start.play front).stops[index]? = some .called →
      (∀ keeper, ¬start.IsTakeable front keeper) →
        (start.play front).Returns index .called (.ok ())
  /-- A stop that returns without a keeper had none to take, and leaves the state as it was. -/
  missed : ∀ front, front <+: moves → ∀ index result,
    (start.play front).Returns index .called result →
      (∀ keeper, ¬start.IsTakeable front keeper) ∧ result = .ok () ∧
        ((start.play front).act (.stopping index)).state = (start.play front).state
  /-- A stop that has taken a keeper returns as soon as that has finished. -/
  returns : ∀ front, front <+: moves → ∀ index keeper result,
    (start.play front).stops[index]? = some (.waiting keeper) →
      (start.play front).result? keeper = some result →
        (start.play front).Returns index (.waiting keeper) result
  /-- A stop that returns and has taken a keeper returns what the keeper finished with. The keeper
  is the one that was started last still, and the state is the one that it left. -/
  returned : ∀ front, front <+: moves → ∀ index keeper result,
    (start.play front).Returns index (.waiting keeper) result →
      (start.play front).IsNewest keeper ∧
        ((start.play front).act (.stopping index)).result? keeper = some result ∧
        ((start.play front).act (.stopping index)).state = (start.play front).state ∧
        Leaves result (start.play front).state
  /-- No keeper's result is returned twice. -/
  once : ∀ (front later : List Move) (first second keeper : Nat)
    (result other : Except MonitorError Unit),
    front ++ [.stopping first] <+: moves → later ++ [.stopping second] <+: moves →
    (start.play front).Returns first (.waiting keeper) result →
    (start.play later).Returns second (.waiting keeper) other → front = later

section Answers

variable {world : World} {index keeper : Nat} {result : Except MonitorError Unit}

/-- When the keeper in the slot is the one that a stop can take, a start is refused exactly if that
keeper is at work. -/
theorem refuses_iff {start : World} {moves : List Move}
    (takeable : ∀ {keeper}, (start.play moves).slot = some keeper ↔ start.IsTakeable moves keeper)
    (endpoint : Endpoint) (credentials : Credentials) :
    ((start.play moves).start endpoint credentials).1 = .error .alreadyRunning ↔
      ∃ newest, start.IsTakeable moves newest ∧ (start.play moves).IsUnfinished newest := by
  constructor
  · intro refused
    have running : (start.play moves).isRunning = true := by
      by_contra idle
      simp [World.start, idle] at refused
    obtain ⟨keeper, full, working⟩ := (Option.any_eq_true _ _).mp running
    have isTakeable := takeable.mp full
    refine ⟨keeper, isTakeable, ?_, Option.isNone_iff_eq_none.mp working⟩
    have newest : keeper + 1 = (start.play moves).tenures.length := isTakeable.1
    omega
  · rintro ⟨newest, isTakeable, -, working⟩
    have running : (start.play moves).isRunning = true := by
      rw [isRunning, takeable.mpr isTakeable, Option.any_some, working]
      rfl
    rw [start_of_running running]

/-- No two stops return for the same keeper: the second would have to wait for it once more. -/
theorem not_returned_again {start : World} {moves : List Move}
    (kept : ∀ front, front <+: moves → start.IsKept front) {front later : List Move}
    {first second : Nat} {other : Except MonitorError Unit}
    (between : front ++ [.stopping first] <+: later) (isPrefix : later <+: moves)
    (returns : (start.play front).Returns first (.waiting keeper) result)
    (again : (start.play later).Returns second (.waiting keeper) other) : False := by
  obtain ⟨more, rfl⟩ := between
  have earlier := (List.prefix_append (front ++ [Move.stopping first]) more).trans isPrefix
  have before := (List.prefix_append front [Move.stopping first]).trans earlier
  have taken : start.WasTaken (front ++ [.stopping first]) keeper :=
    (wasTaken_of_awaited (List.mem_of_getElem? returns.before)).mono
      (List.prefix_append front [Move.stopping first])
  have unawaited := (kept front before).not_awaited_of_returns returns
  rw [← play_concat] at unawaited
  exact not_awaited_again kept taken unawaited isPrefix (List.mem_of_getElem? again.before)

/-- A keeper's result is returned at one moment only. -/
theorem eq_of_returns {start : World} {moves : List Move}
    (kept : ∀ front, front <+: moves → start.IsKept front) {front later : List Move}
    {first second : Nat} {other : Except MonitorError Unit}
    (early : front ++ [.stopping first] <+: moves) (late : later ++ [.stopping second] <+: moves)
    (returns : (start.play front).Returns first (.waiting keeper) result)
    (again : (start.play later).Returns second (.waiting keeper) other) : front = later := by
  have frontEarly := (List.prefix_append front [Move.stopping first]).trans early
  have laterEarly := (List.prefix_append later [Move.stopping second]).trans late
  rcases Nat.lt_trichotomy front.length later.length with shorter | same | longer
  · have between : front ++ [.stopping first] <+: later :=
      List.prefix_of_prefix_length_le early laterEarly (by simpa using Nat.succ_le_of_lt shorter)
    exact (not_returned_again kept between laterEarly returns again).elim
  · exact (List.prefix_of_prefix_length_le frontEarly laterEarly
      (Nat.le_of_eq same)).eq_of_length same
  · have between : later ++ [.stopping second] <+: front :=
      List.prefix_of_prefix_length_le late frontEarly (by simpa using Nat.succ_le_of_lt longer)
    exact (not_returned_again kept between frontEarly again returns).elim

/-- A stop that returns and has taken a keeper leaves that keeper's result and state as they are. -/
theorem IsLeft.of_returns (left : world.IsLeft)
    (newest : world.IsNewest keeper) (returns : world.Returns index (.waiting keeper) result) :
    (world.act (.stopping index)).result? keeper = some result ∧
      (world.act (.stopping index)).state = world.state ∧ Leaves result world.state := by
  have finished := returns.finished
  have leaves := left keeper result newest finished
  refine ⟨?_, ?_, leaves⟩
  · rw [act_stopping_of_finished returns.before finished, result?_stopReturns, ← finished,
      ← result?_outline, ← result?_outline]
    obtain ⟨state, same⟩ := outline_concluded world result
    rw [same]
    rfl
  · rw [act_stopping_of_finished returns.before finished, state_stopReturns,
      state_concluded leaves]

end Answers

/-- **Calls that follow one another are answered in turn**, whenever keepers end. -/
theorem answered_in_turn (settings : Settings) (fallback : Outcome) (seed : Nat)
    {moves : List Move}
    (patient : EveryMove (¬ ·.Interrupts ·) (fresh settings fallback seed) moves) :
    (fresh settings fallback seed).AnswersInTurn moves := by
  generalize begun : fresh settings fallback seed = start at patient
  have kept : ∀ front, front <+: moves → start.IsKept front := by
    subst begun
    exact fun front isPrefix => kept_play settings fallback seed patient isPrefix
  have ordered : ∀ front, front <+: moves → (start.play front).outline.Staffed ∧
      (start.play front).outline.OnlyNewestWorks ∧
      (start.play front).outline.OnlyNewestAwaited := by
    subst begun
    exact ordered_play settings fallback seed patient
  -- a call to stop that has not returned watches the monitor, also when the consumer has let it go
  have slot_iff : ∀ front, front <+: moves → ∀ {index : Nat},
      (start.play front).stops[index]? = some .called → ∀ keeper,
      (start.play front).slot = some keeper ↔ start.IsTakeable front keeper := by
    intro front isPrefix index called keeper
    refine (kept front isPrefix).slot_iff (ordered front isPrefix).1 (.inr fun calm => ?_)
    cases calm _ (List.mem_of_getElem? called)
  constructor
  case starts =>
    intro front isPrefix held endpoint credentials
    have takeable : ∀ {keeper}, (start.play front).slot = some keeper ↔
        start.IsTakeable front keeper :=
      (kept front isPrefix).slot_iff (ordered front isPrefix).1 (.inl held)
    exact refuses_iff takeable endpoint credentials
  case refused =>
    intro front isPrefix endpoint credentials error refused
    cases running : (start.play front).isRunning with
    | true =>
      rw [start_of_running running] at refused ⊢
      cases refused
      exact ⟨rfl, rfl⟩
    | false => simp [World.start, running] at refused
  case takes =>
    intro front isPrefix index keeper called takeable
    exact stops_of_taken called ((slot_iff front isPrefix called keeper).mpr takeable)
  case misses =>
    intro front isPrefix index called untakeable
    refine returns_of_free called ?_
    cases full : (start.play front).slot with
    | none => rfl
    | some keeper =>
      exact absurd ((slot_iff front isPrefix called keeper).mp full) (untakeable keeper)
  case missed =>
    intro front isPrefix index result returns
    obtain ⟨free, rfl⟩ := returns.free
    refine ⟨fun keeper takeable => ?_, rfl, ?_⟩
    · have full := (slot_iff front isPrefix returns.before keeper).mpr takeable
      cases free.symm.trans full
    · rw [act_stopping_of_free returns.before free, state_stopReturns]
  case returns =>
    exact fun front isPrefix index keeper result waiting finished =>
      returns_of_finished waiting finished
  case returned =>
    intro front isPrefix index keeper result returns
    have newest := isNewest_outline.mp
      ((ordered front isPrefix).2.2 keeper (List.mem_of_getElem? returns.before))
    exact ⟨newest, (kept front isPrefix).left.of_returns newest returns⟩
  case once =>
    exact fun front later first second keeper result other => eq_of_returns kept

/-- A rule holds of every move of an interleaving if it holds of the first one and of those that
follow. -/
theorem everyMove_cons {holds : World → Move → Prop} {world : World} {move : Move}
    {moves : List Move} : EveryMove holds world (move :: moves) ↔
      holds world move ∧ EveryMove holds (world.act move) moves := by
  constructor
  · intro every
    refine ⟨every [] move ⟨moves, rfl⟩, fun before next isPrefix => ?_⟩
    exact every (move :: before) next (List.cons_prefix_cons.mpr ⟨rfl, isPrefix⟩)
  · rintro ⟨first, rest⟩ before next isPrefix
    cases before with
    | nil =>
      obtain ⟨rfl, -⟩ := List.cons_prefix_cons.mp isPrefix
      exact first
    | cons head before =>
      obtain ⟨rfl, within⟩ := List.cons_prefix_cons.mp isPrefix
      exact rest before next within

instance decidableEveryMove {holds : World → Move → Prop}
    [∀ world move, Decidable (holds world move)] (world : World) :
    (moves : List Move) → Decidable (EveryMove holds world moves)
  | [] => .isTrue fun _ _ isPrefix => by simp at isPrefix
  | move :: moves =>
    have : Decidable (EveryMove holds (world.act move) moves) := decidableEveryMove _ moves
    decidable_of_iff _ everyMove_cons.symm

/-- A network that crashes ends the first keeper, and two stops follow; the monitor is started
again and stopped in the middle of a session. -/
def unhurried : List Move :=
  [.planMore [⟨.zero, .crash "out of paper"⟩], .start ⟨"ws://feed/", "feed", false⟩ ⟨"", ""⟩,
    stepOf 0, stepOf 0, .stop, .stopping 0, .stopping 0, .stop, .stopping 1,
    .start ⟨"ws://feed/", "feed", false⟩ ⟨"", ""⟩, stepOf 1, stepOf 1, stepOf 1, .stop,
    .stopping 2, stepOf 1, stepOf 1, stepOf 1, .stopping 2]

/-- The first stop returns the crash of its keeper, the second one finds nobody and leaves the state
that the keeper left, a start during the second session is refused, and the last stop ends it. -/
theorem unhurried_answered_in_turn :
    EveryMove (¬ ·.Interrupts ·) quickWorld unhurried ∧ quickWorld.AnswersInTurn unhurried ∧
    (quickWorld.play (unhurried.take 6)).Returns 0 (.waiting 0)
      (.error (.broken "out of paper")) ∧
    (quickWorld.play (unhurried.take 8)).Returns 1 .called (.ok ()) ∧
    (quickWorld.play (unhurried.take 9)).state = .failed "out of paper" ∧
    ((quickWorld.play (unhurried.take 13)).start ⟨"ws://feed/", "feed", false⟩ ⟨"", ""⟩).1 =
      .error .alreadyRunning ∧
    (quickWorld.play (unhurried.take 18)).Returns 2 (.waiting 1) (.ok ()) ∧
    (quickWorld.play unhurried).state = .disconnected := by
  have patient : EveryMove (¬ ·.Interrupts ·) quickWorld unhurried := by decide +kernel
  have answers : quickWorld.AnswersInTurn unhurried := answered_in_turn _ _ _ patient
  refine ⟨patient, answers, ?_, ?_, by decide +kernel, ?_, ?_, by decide +kernel⟩
  · exact answers.returns _ (List.take_prefix 6 _) 0 0 _ (by decide +kernel) (by decide +kernel)
  · exact returns_of_free (by decide +kernel) (by decide +kernel)
  · exact congrArg Prod.fst (start_of_running (by decide +kernel) _ _)
  · exact answers.returns _ (List.take_prefix 18 _) 2 1 _ (by decide +kernel) (by decide +kernel)

end World

end EventFeed
