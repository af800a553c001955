/-
**How sessions end.**

A session goes from stage to stage, and each thing that happens to it fits the stage in which it is.
There are many ways for it to end: it may fail before it is connected or after, or its keeper may be
told to stop at any time. Whichever it is, the session is closed if it was stopped and has failed if
not, and nothing of it stays behind in the registry.

* `Keeper.passage_of_step`: what one step does to the stage of a session;
* `World.underWay_of_isSession`: how far a session is at every moment;
* `World.session_restores`: what is left of a session that is over.
-/

import EventFeed.Proofs.Monitor.Careers
import EventFeed.Proofs.Monitor.Roster

namespace EventFeed

open EventFeed.Time

/-! ### The stages that a session passes -/

namespace Stage

/-- The stage after several happenings, if each of them fits the stage in which it happens. -/
def run? (stage : Stage) (happenings : List Happening) : Option Stage :=
  happenings.foldlM next? stage

theorem run?_append (stage : Stage) (first second : List Happening) :
    stage.run? (first ++ second) = (stage.run? first).bind (·.run? second) :=
  List.foldlM_append

theorem run?_singleton (stage : Stage) (happening : Happening) :
    stage.run? [happening] = stage.next? happening :=
  bind_pure (stage.next? happening)

/-- Whether a session in this stage has not been connected yet. -/
def isEarly : Stage → Bool
  | .idle | .opening | .shakingHands => true
  | .connected | .disconnecting | .closed | .failed => false

theorem isEarly_next? {stage next : Stage} {happening : Happening} (past : stage.isEarly = false)
    (fits : stage.next? happening = some next) : next.isEarly = false := by
  cases stage <;> cases past <;> cases happening <;> first
    | exact Option.some.inj fits ▸ rfl
    | cases fits

/-- A session never goes back to before it was connected. -/
theorem isEarly_run? {stage last : Stage} {happenings : List Happening}
    (past : stage.isEarly = false) (runs : stage.run? happenings = some last) :
    last.isEarly = false := by
  induction happenings generalizing stage with
  | nil => exact Option.some.inj runs ▸ past
  | cons happening happenings ih =>
    obtain ⟨next, fits, rest⟩ := Option.bind_eq_some_iff.mp runs
    exact ih (isEarly_next? past fits) rest

end Stage

/-- Whether a session to which all this happened was connected at some time. -/
def WasConnected (happenings : List Happening) : Prop :=
  ∃ first, first <+: happenings ∧ Stage.idle.run? first = some .connected

/-- A session that has not been connected yet was not connected before. -/
theorem not_wasConnected {happenings : List Happening} {stage : Stage}
    (runs : Stage.idle.run? happenings = some stage) (early : stage.isEarly = true) :
    ¬WasConnected happenings := by
  rintro ⟨first, ⟨rest, rfl⟩, connected⟩
  rw [Stage.run?_append, connected, Option.bind_some] at runs
  have past := Stage.isEarly_run? rfl runs
  rw [early] at past
  cases past

/-- A fault connects no session. -/
theorem not_wasConnected_fault {happenings : List Happening} (never : ¬WasConnected happenings) :
    ¬WasConnected (happenings ++ [.fault]) := by
  rintro ⟨first, isPrefix, connected⟩
  rcases List.prefix_concat_iff.mp isPrefix with rfl | earlier
  · rw [Stage.run?_append] at connected
    obtain ⟨stage, -, fault⟩ := Option.bind_eq_some_iff.mp connected
    rw [Stage.run?_singleton] at fault
    cases stage <;> cases fault
  · exact never ⟨first, earlier, connected⟩

/-- What happens to sessions, in order. -/
def Effect.happenings (effects : List Effect) : List Happening :=
  effects.filterMap fun effect => match effect with
    | .happened happening => some happening
    | _ => none

theorem Effect.happenings_append (first second : List Effect) :
    Effect.happenings (first ++ second) = Effect.happenings first ++ Effect.happenings second :=
  List.filterMap_append

namespace Phase

/-- The stage of the session of a keeper that is so far, if it has one. -/
def stage? : Phase → Option Stage
  | .opening _ => some .opening
  | .greeting | .awaiting _ _ | .hangingUp => some .shakingHands
  | .reading _ => some .connected
  | .parting _ _ _ | .draining _ => some .disconnecting
  | .starting | .pausing _ | .finished _ => none

/-- Whether a keeper that is so far has a session or is about to begin one. -/
def isEngaged : Phase → Bool
  | .pausing _ | .finished _ => false
  | _ => true

theorem isEngaged_of_stage? {phase : Phase} {stage : Stage} (has : phase.stage? = some stage) :
    phase.isEngaged = true := by
  cases phase <;> first | rfl | cases has

end Phase

/-! ### The ends of sessions -/

/-- How a session ended: it was stopped, or it failed, after it was connected for the given time if
it was connected. -/
inductive Ending where
  | stopped
  | failed (error : SessionError) (connectedFor : Option Nat)

/-- The stage of a session that ended so. -/
def Ending.stage : Ending → Stage
  | .stopped => .closed
  | .failed _ _ => .failed

namespace Keeper

variable {settings : Settings} {view : View} {keeper : Keeper} {step : Step}

/-- The session of a keeper ends with a step. -/
inductive Ends (settings : Settings) (view : View) (keeper : Keeper) : Step → Ending → Prop where
  | stopped {happening : Happening} (earlier : List Effect)
      (ends : happening = .teardownRequested ∨ happening = .closeComplete) :
      Ends settings view keeper ((keeper.conclude happening).1,
        earlier ++ (keeper.conclude happening).2) .stopped
  | failed {error : SessionError} {earlier : List Effect}
      (reason : FailsBy settings view keeper error earlier) :
      Ends settings view keeper ((keeper.fail settings view error none).1,
        earlier ++ (keeper.fail settings view error none).2) (.failed error none)
  | lost {watch : Watch} {error : SessionError} {earlier : List Effect}
      (phase : keeper.phase = .reading watch) (reason : LosesBy view watch error earlier) :
      Ends settings view keeper ((keeper.lose settings view watch error).1,
        earlier ++ (keeper.lose settings view watch error).2)
        (.failed error (some (view.now - watch.since)))

/-- What a step does to the stage of the keeper's session. -/
inductive Passage (settings : Settings) (view : View) (keeper : Keeper) (step : Step) : Prop where
  | begins (before : keeper.phase = .starting) (after : step.1.phase.stage? = some .opening)
      (stage : step.1.session.stage = .opening) (valid : Effect.happenings step.2 = [.start])
  | goesOn {stage next : Stage} (before : keeper.phase.stage? = some stage)
      (after : step.1.phase.stage? = some next)
      (valid : stage.run? (Effect.happenings step.2) = some next)
      (stage : keeper.session.stage = stage → step.1.session.stage = next)
  | ends {stage : Stage} {ending : Ending} (before : keeper.phase.stage? = some stage)
      (isOver : step.1.phase.isEngaged = false) (ends : Ends settings view keeper step ending)
      (valid : stage.run? (Effect.happenings step.2) = some ending.stage)
      (stage : keeper.session.stage = stage → step.1.session.stage = ending.stage)
  | crashes {cause : String} (broken : step.1.result? = some (.error (.broken cause)))
  | rests (before : keeper.phase.isEngaged = false)

theorem isEngaged_of_result? {result : Except MonitorError Unit}
    (finished : keeper.result? = some result) : keeper.phase.isEngaged = false := by
  unfold result? at finished
  split at finished
  · rename_i phase
    rw [phase]
    rfl
  · cases finished

theorem isEngaged_of_isReading (reading : keeper.isReading = true) :
    keeper.phase.isEngaged = true := by
  unfold isReading at reading
  split at reading
  · rename_i phase
    rw [phase]
    rfl
  · cases reading

/-- A session that fails is over. -/
theorem isEngaged_fail (settings : Settings) (view : View) (keeper : Keeper) (error : SessionError)
    (uptime : Option Nat) :
    (keeper.fail settings view error uptime).1.phase.isEngaged = false := by
  rcases phase_fail settings view keeper error uptime with ⟨_, phase⟩ | ⟨_, phase⟩ <;>
    · rw [phase]
      rfl

theorem session_fail (settings : Settings) (view : View) (keeper : Keeper) (error : SessionError)
    (uptime : Option Nat) :
    (keeper.fail settings view error uptime).1.session = keeper.session.advance .fault := by
  unfold fail
  dsimp only
  split
  · rfl
  · unfold retry
    dsimp only
    split <;> rfl

/-- One fault happens to a session that fails. -/
theorem happenings_fail (settings : Settings) (view : View) (keeper : Keeper)
    (error : SessionError) (uptime : Option Nat) :
    Effect.happenings (keeper.fail settings view error uptime).2 = [.fault] := by
  have quiet : ∀ {effects : List Effect}, effects.all Effect.tells = true →
      Effect.happenings effects = [] := by
    intro effects tells
    refine List.filterMap_eq_nil_iff.mpr fun effect member => ?_
    have only := List.all_eq_true.mp tells effect member
    cases effect <;> first | rfl | cases only
  obtain ⟨report, told, reports, tells, effects⟩ :=
    exists_effects_fail settings view keeper error uptime
  rw [effects]
  show .fault :: Effect.happenings (report ++ .release :: told) = _
  rw [Effect.happenings_append, quiet reports]
  show .fault :: Effect.happenings told = _
  rw [quiet tells]

/-- The session of a keeper before it is connected, and why it fails. -/
theorem stage?_of_failsBy {error : SessionError} {earlier : List Effect}
    (reason : FailsBy settings view keeper error earlier) :
    (∃ stage, keeper.phase.stage? = some stage ∧ stage.isEarly = true) ∧
      Effect.happenings earlier = [] := by
  cases reason <;> exact ⟨⟨_, by rw [‹keeper.phase = _›]; rfl, rfl⟩, rfl⟩

/-- A session that fails ends, whatever else is done first. -/
theorem passage_fail {stage : Stage} (before : keeper.phase.stage? = some stage)
    {earlier : List Effect} {error : SessionError} {uptime : Option Nat}
    (quiet : Effect.happenings earlier = [])
    (ends : Ends settings view keeper ((keeper.fail settings view error uptime).1,
      earlier ++ (keeper.fail settings view error uptime).2) (.failed error uptime)) :
    Passage settings view keeper ((keeper.fail settings view error uptime).1,
      earlier ++ (keeper.fail settings view error uptime).2) := by
  have live : stage.next? .fault = some .failed := by
    cases phase : keeper.phase <;> rw [phase] at before <;> cases before <;> rfl
  refine .ends before (isEngaged_fail _ _ _ _ _) ends ?_ fun same => ?_
  · rw [Effect.happenings_append, quiet, happenings_fail, List.nil_append, Stage.run?_singleton]
    exact live
  · show (keeper.fail settings view error uptime).1.session.stage = _
    rw [session_fail, Session.advance, same, live]
    rfl

/-- **What a step does to the stage of the keeper's session.** -/
theorem passage_of_step (stepped : keeper.step settings view = some step) :
    Passage settings view keeper step := by
  have stays : ∀ {phase : Phase} {stage : Stage} {after : Keeper} {effects : List Effect},
      keeper.phase = phase → phase.stage? = some stage → after.phase.stage? = some stage →
      after.session.stage = keeper.session.stage → Effect.happenings effects = [] →
      Passage settings view keeper (after, effects) := by
    rintro phase stage after effects rfl before same session quiet
    refine .goesOn before same ?_ (session ▸ id)
    rw [quiet]
    rfl
  cases deed_of_step stepped with
  | begins phase => exact .begins phase rfl rfl rfl
  | opens phase =>
    refine .goesOn (by rw [phase]; rfl) rfl rfl fun same => ?_
    show (keeper.session.stage.next? _).getD _ = _
    rw [same]
    rfl
  | greets phase => exact stays phase rfl rfl rfl rfl
  | hears phase => exact stays phase rfl rfl rfl rfl
  | looks phase => exact stays phase rfl rfl rfl rfl
  | connects phase =>
    refine .goesOn (by rw [phase]; rfl) rfl rfl fun same => ?_
    show (keeper.session.stage.next? _).getD _ = _
    rw [same]
    rfl
  | hangsUp phase => exact stays phase rfl rfl rfl rfl
  | fails reason =>
    obtain ⟨⟨stage, before, -⟩, quiet⟩ := stage?_of_failsBy reason
    exact passage_fail before quiet (.failed reason)
  | reads phase => exact stays phase rfl rfl rfl rfl
  | handles phase => exact stays phase rfl rfl rfl rfl
  | takes phase => exact stays phase rfl rfl rfl rfl
  | beats phase => exact stays phase rfl rfl rfl rfl
  | @loses watch error earlier phase _ reason =>
    have before : keeper.phase.stage? = some .connected := by rw [phase]; rfl
    have quiet : Effect.happenings (earlier ++ [.detach, .abort]) = [] := by cases reason <;> rfl
    have ends : Ends settings view keeper _ _ := .lost phase reason
    have same : (earlier ++ [Effect.detach, .abort]) ++ (keeper.fail settings view error
        (some (view.now - watch.since))).2 =
          earlier ++ (keeper.lose settings view watch error).2 := by
      rw [List.append_assoc]
      rfl
    rw [← same] at ends ⊢
    exact passage_fail before quiet ends
  | parts phase =>
    unfold part
    dsimp only
    split <;>
      · refine .goesOn (by rw [phase]; rfl) rfl rfl fun same => ?_
        show (keeper.session.stage.next? _).getD _ = _
        rw [same]
        rfl
  | lingers phase quiet => exact stays phase rfl rfl rfl (by rcases quiet with rfl | rfl <;> rfl)
  | drains earlier phase quiet =>
    exact stays phase rfl rfl rfl (by rcases quiet with rfl | rfl <;> rfl)
  | @concludes happening earlier phase ends quiet fits =>
    obtain ⟨stage, before, next⟩ : ∃ stage, keeper.phase.stage? = some stage ∧
        stage.next? happening = some .closed := by
      rcases phase with ⟨deadline, phase⟩ | phase | ⟨deadline, phase⟩ <;> rw [phase] at fits ⊢
      · rcases ends with rfl | rfl
        · exact ⟨_, rfl, rfl⟩
        · cases (fits.mp rfl).choose_spec
      · rcases ends with rfl | rfl
        · exact ⟨_, rfl, rfl⟩
        · cases (fits.mp rfl).choose_spec
      · obtain rfl := fits.mpr ⟨deadline, rfl⟩
        exact ⟨_, rfl, rfl⟩
    refine .ends before rfl (.stopped earlier ends) ?_ fun same => ?_
    · have events : Effect.happenings (earlier ++ (keeper.conclude happening).2) = [happening] := by
        rcases quiet with rfl | rfl | rfl <;> rfl
      rw [events, Stage.run?_singleton]
      exact next
    · show (keeper.session.stage.next? happening).getD _ = _
      rw [same, next]
      rfl
  | crashes phase => exact .crashes rfl
  | rests phase => exact .rests (by rw [phase]; rfl)
  | wakes phase => exact .rests (by rw [phase]; rfl)

end Keeper

/-! ### Sessions of a keeper -/

namespace Diary

/-- What happened to sessions in the given steps of a keeper, in order. -/
def happenings (entries : List Entry) : List Happening :=
  entries.flatMap fun entry => Effect.happenings entry.effects

theorem happenings_concat (entries : List Entry) (entry : Entry) :
    happenings (entries ++ [entry]) = happenings entries ++ Effect.happenings entry.effects := by
  rw [happenings, List.flatMap_append, List.flatMap_singleton]
  rfl

/-- How far a keeper is that did all this since it was about to begin a session, as long as the
session is not over. -/
inductive UnderWay (keeper : Keeper) (entries : List Entry) : Prop where
  | idle (phase : keeper.phase = .starting) (nothing : entries = [])
  | begun {stage : Stage} (phase : keeper.phase.stage? = some stage)
      (session : keeper.session.stage = stage)
      (valid : Stage.idle.run? (happenings entries) = some stage)

section Steps

variable {settings : Settings} {view : View} {keeper : Keeper} {entries : List Entry}
  {step : Keeper.Step}

theorem UnderWay.engaged (underWay : UnderWay keeper entries) :
    keeper.phase.isEngaged = true := by
  cases underWay with
  | idle phase => rw [phase]; rfl
  | begun phase => exact Phase.isEngaged_of_stage? phase

/-- A session in some stage has come there by all that happened to it. -/
theorem UnderWay.stage (underWay : UnderWay keeper entries) {stage : Stage}
    (phase : keeper.phase.stage? = some stage) :
    keeper.session.stage = stage ∧ Stage.idle.run? (happenings entries) = some stage := by
  cases underWay with
  | idle starting =>
    rw [starting] at phase
    cases phase
  | begun same session valid =>
    obtain rfl := Option.some.inj (phase.symm.trans same)
    exact ⟨session, valid⟩

/-- What happens in a step comes behind what happened before it. -/
theorem valid_concat {stage next : Stage}
    (valid : Stage.idle.run? (happenings entries) = some stage) (entry : Entry)
    (fits : stage.run? (Effect.happenings entry.effects) = some next) :
    Stage.idle.run? (happenings (entries ++ [entry])) = some next := by
  rw [happenings_concat, Stage.run?_append, valid]
  exact fits

/-- A session that a step does not end is under way still. -/
theorem UnderWay.goesOn (underWay : UnderWay keeper entries)
    (stepped : keeper.step settings view = some step) (engaged : step.1.phase.isEngaged = true) :
    UnderWay step.1 (entries ++ [⟨view, keeper, step.1, step.2⟩]) := by
  cases Keeper.passage_of_step stepped with
  | begins before after session valid =>
    cases underWay with
    | idle _ nothing =>
      refine .begun after session ?_
      rw [nothing, happenings_concat, valid]
      rfl
    | begun phase =>
      rw [before] at phase
      cases phase
  | goesOn before after fits session =>
    obtain ⟨same, valid⟩ := underWay.stage before
    exact .begun after (session same) (valid_concat valid _ fits)
  | ends _ isOver => cases isOver.symm.trans engaged
  | crashes broken => cases (Keeper.isEngaged_of_result? broken).symm.trans engaged
  | rests before => cases before.symm.trans underWay.engaged

/-- How a session ended in the last step of its keeper, and what happened to it before. -/
structure EndedBy (settings : Settings) (last : Entry) (happenings : List Happening)
    (ending : Ending) : Prop where
  ends : Keeper.Ends settings last.view last.before (last.after, last.effects) ending
  stage : last.after.session.stage = ending.stage
  valid : Stage.idle.run? happenings = some ending.stage
  connected : ∀ error connectedFor, ending = .failed error connectedFor →
    (connectedFor.isSome = true ↔ WasConnected happenings)

/-- **How a session ended** that is over after a step. -/
theorem UnderWay.ends (underWay : UnderWay keeper entries)
    (stepped : keeper.step settings view = some step) (isOver : step.1.phase.isEngaged = false)
    (returns : ∀ cause, step.1.result? ≠ some (.error (.broken cause))) :
    ∃ ending, EndedBy settings ⟨view, keeper, step.1, step.2⟩
      (happenings (entries ++ [⟨view, keeper, step.1, step.2⟩])) ending := by
  cases Keeper.passage_of_step stepped with
  | begins _ after => cases isOver.symm.trans (Phase.isEngaged_of_stage? after)
  | goesOn _ after => cases isOver.symm.trans (Phase.isEngaged_of_stage? after)
  | @ends stage ending before _ ends fits session =>
    obtain ⟨same, valid⟩ := underWay.stage before
    refine ⟨ending, ends, session same, valid_concat valid _ fits, ?_⟩
    rintro error connectedFor rfl
    rw [happenings_concat]
    cases ends with
    | failed reason =>
      obtain ⟨⟨early, phase, isEarly⟩, quiet⟩ := Keeper.stage?_of_failsBy reason
      obtain rfl := Option.some.inj (before.symm.trans phase)
      rw [Effect.happenings_append, quiet, Keeper.happenings_fail]
      have never := not_wasConnected_fault (not_wasConnected valid isEarly)
      exact ⟨nofun, fun connected => absurd connected never⟩
    | lost phase =>
      rw [phase] at before
      obtain rfl := Option.some.inj before
      exact ⟨fun _ => ⟨_, List.prefix_append _ _, valid⟩, fun _ => rfl⟩
  | crashes broken => exact absurd broken (returns _)
  | rests before => cases before.symm.trans underWay.engaged

end Steps

end Diary

namespace World

open Diary (UnderWay EndedBy)

/-- Moves with which a keeper has a session: it is about to begin one, is engaged with it up to the
last move, and then has finished or waits for its next attempt, not because of a crash. -/
structure IsSession (world : World) (index : Nat) (moves : List Move) : Prop where
  begins : ∃ keeper, world.outline.keepers[index]? = some keeper ∧ keeper.phase = .starting
  goesOn : ∀ number < moves.length, ∀ keeper,
    (world.play (moves.take number)).outline.keepers[index]? = some keeper →
    keeper.phase.isEngaged = true
  returns : ∃ keeper, (world.play moves).outline.keepers[index]? = some keeper ∧
    keeper.phase.isEngaged = false ∧ ∀ cause, keeper.result? ≠ some (.error (.broken cause))

section Moves

variable {world : World} {index : Nat} {moves : List Move}

/-- **How far a session is at every moment** until it is over. -/
theorem underWay_of_isSession (session : world.IsSession index moves) {number : Nat}
    (inside : number < moves.length) :
    ∃ keeper, (world.play (moves.take number)).outline.keepers[index]? = some keeper ∧
      UnderWay keeper (world.entriesOf index (moves.take number)) := by
  induction number with
  | zero =>
    obtain ⟨keeper, present, phase⟩ := session.begins
    exact ⟨keeper, present, .idle phase rfl⟩
  | succ number ih =>
    have before : number < moves.length := Nat.lt_of_succ_lt inside
    obtain ⟨keeper, present, underWay⟩ := ih before
    have goesOn := session.goesOn (number + 1) inside
    rw [← List.take_append_getElem before, play_concat] at goesOn ⊢
    rw [entriesOf_concat]
    rcases keeper_move present moves[number] with
      ⟨still, nothing⟩ | ⟨view, step, stepped, after, did⟩
    · rw [nothing, List.append_nil]
      exact ⟨keeper, still, underWay⟩
    · rw [did]
      exact ⟨step.1, after, underWay.goesOn stepped (goesOn _ after)⟩

/-- **A session ends with the last thing that its keeper does.** -/
theorem endedBy_of_isSession (session : world.IsSession index moves) {settings : Settings}
    (same : ∀ early, (world.play early).settings = settings) :
    ∃ front last ending, world.entriesOf index moves = front ++ [last] ∧
      (world.play moves).outline.keepers[index]? = some last.after ∧
      EndedBy settings last (Diary.happenings (front ++ [last])) ending := by
  obtain ⟨final, presentLast, isOver, returns⟩ := session.returns
  rcases List.eq_nil_or_concat moves with rfl | ⟨earlier, move, rfl⟩
  · -- a keeper that does nothing is still about to begin the session
    obtain ⟨keeper, present, phase⟩ := session.begins
    obtain rfl := Option.some.inj (present.symm.trans presentLast)
    rw [phase] at isOver
    cases isOver
  · rw [List.concat_eq_append] at *
    have inside : earlier.length < (earlier ++ [move]).length := by simp
    obtain ⟨keeper, present, underWay⟩ := underWay_of_isSession session inside
    rw [List.take_left] at present underWay
    rw [play_concat] at presentLast ⊢
    rw [entriesOf_concat]
    rcases keeper_move present move with ⟨still, -⟩ | ⟨view, step, stepped, after, did⟩
    · obtain rfl := Option.some.inj (still.symm.trans presentLast)
      cases underWay.engaged.symm.trans isOver
    · obtain rfl := Option.some.inj (after.symm.trans presentLast)
      rw [same] at stepped
      obtain ⟨ending, ended⟩ := underWay.ends stepped isOver returns
      exact ⟨_, _, ending, congrArg _ did, after, ended⟩

end Moves

/-- What is left of a session that is over. -/
structure Restores (settings : Settings) (world : World) (index : Nat) (moves : List Move)
    (ending : Ending) : Prop where
  /-- The session ended so in the last step of its keeper. -/
  ended : ∃ front last, world.entriesOf index moves = front ++ [last] ∧
    Keeper.Ends settings last.view last.before (last.after, last.effects) ending
  /-- All that happened to it fitted the stage in which it was. -/
  valid : ∀ number ≤ moves.length, ∀ keeper,
    (world.play (moves.take number)).outline.keepers[index]? = some keeper →
    world.entriesOf index (moves.take number) ≠ [] →
    Stage.idle.run? (Diary.happenings (world.entriesOf index (moves.take number))) =
      some keeper.session.stage
  closed : ∀ keeper, (world.play moves).outline.keepers[index]? = some keeper →
    (keeper.session.stage = .closed ↔ ending = .stopped)
  failed : ∀ keeper, (world.play moves).outline.keepers[index]? = some keeper →
    (keeper.session.stage = .failed ↔ ∃ error connectedFor, ending = .failed error connectedFor)
  /-- It is told how long it was connected exactly if it was. -/
  connected : ∀ error connectedFor, ending = .failed error connectedFor →
    (connectedFor.isSome = true ↔
      WasConnected (Diary.happenings (world.entriesOf index moves)))
  /-- Nothing of it is in the registry. -/
  bare : (world.play moves).registry.IsBare
  /-- Only the consumer's calls and the refusals of the server changed the list of subscriptions. -/
  roster : (world.play moves).roster = (world.editsAlong moves).foldl Roster.edit world.roster

/-- **Every end of a session leaves nothing of it behind**, as long as no other session is connected
then. -/
theorem session_restores (settings : Settings) (fallback : Outcome) (seed : Nat)
    (before moves : List Move) (index : Nat)
    (session : ((fresh settings fallback seed).play before).IsSession index moves)
    (alone : ∀ other keeper, other ≠ index →
      (((fresh settings fallback seed).play before).play moves).outline.keepers[other]? =
        some keeper → keeper.isReading = false) :
    ∃ ending, Restores settings ((fresh settings fallback seed).play before) index moves
      ending := by
  let world := (fresh settings fallback seed).play before
  have same : ∀ early, (world.play early).settings = settings := by
    intro early
    rw [← play_append]
    exact settings_play settings fallback seed (before ++ early)
  obtain ⟨front, last, ending, written, present, ended⟩ := endedBy_of_isSession session same
  have keeperIs : ∀ keeper, (world.play moves).outline.keepers[index]? = some keeper →
      keeper.session.stage = ending.stage := by
    intro keeper found
    obtain rfl := Option.some.inj (present.symm.trans found)
    exact ended.stage
  refine ⟨ending, ⟨front, last, written, ended.ends⟩, fun number within keeper found notEmpty => ?_,
    fun keeper found => ?_, fun keeper found => ?_, ?_, ?_, (edited_play world moves).roster⟩
  · rcases Nat.lt_or_eq_of_le within with inside | rfl
    · obtain ⟨same, there, underWay⟩ := underWay_of_isSession session inside
      obtain rfl := Option.some.inj (there.symm.trans found)
      cases underWay with
      | idle _ nothing => exact absurd nothing notEmpty
      | begun _ session valid => rw [valid, session]
    · rw [List.take_length] at found ⊢
      rw [written, keeperIs keeper found]
      exact ended.valid
  · rw [keeperIs keeper found]
    cases ending <;> simp [Ending.stage]
  · rw [keeperIs keeper found]
    cases ending <;> simp [Ending.stage]
  · rw [written]
    exact ended.connected
  · have staffed : (world.play moves).outline.Staffed := by
      rw [← play_append]
      exact always_staffed (staffed_fresh settings fallback seed) _ (List.prefix_refl _)
    have tidy : (world.play moves).registry.IsTidy := by
      rw [← play_append]
      exact (edited_play _ (before ++ moves)).tidy (Registry.isTidy_empty seed)
    refine tidy (Option.eq_none_iff_forall_ne_some.mpr fun writer attached => ?_)
    obtain ⟨other, keeper, there, reading, -⟩ := staffed.attended writer attached
    by_cases own : other = index
    · subst own
      obtain ⟨final, found, isOver, -⟩ := session.returns
      obtain rfl := Option.some.inj (found.symm.trans there)
      cases (Keeper.isEngaged_of_isReading reading).symm.trans isOver
    · cases (alone other keeper own there).symm.trans reading

/-- A monitor with one subscription that is about to begin its first session. -/
def outset : List Move :=
  [.subscribe ⟨"first", .ignore⟩ "/topic/first", .start ⟨"ws://feed/", "feed", false⟩ ⟨"", ""⟩]

/-- The session, during which the subscription is given up for another one, and which is lost. -/
def excursion : List Move :=
  (connecting 0).tail ++ [.subscribe ⟨"second", .ignore⟩ "/topic/second", .unsubscribe "first",
    .finishChannel 0, stepOf 0, stepOf 0]

/-- It is lost for a reason and after a time, and the consumer's calls have changed the list of
subscriptions. -/
theorem excursion_restores :
    (quickWorld.play outset).roster.list = [(0, "/topic/first")] ∧
    ((quickWorld.play outset).play excursion).roster.list = [(1, "/topic/second")] ∧
    (quickWorld.play outset).editsAlong excursion =
      [.subscribe "second" "/topic/second", .unsubscribe "first"] ∧
    ∃ ending, Restores .standard (quickWorld.play outset) 0 excursion ending := by
  have begins : (quickWorld.play outset).outline.keepers[0]? =
      some (.fresh ⟨"ws://feed/", "feed", false⟩ ⟨"", ""⟩) := rfl
  have goesOn : ∀ number < excursion.length,
      ((quickWorld.play outset).play (excursion.take number)).outline.keepers[0]?.all
        (fun keeper => keeper.phase.isEngaged) = true := by decide +kernel
  have returns : ((quickWorld.play outset).play excursion).outline.keepers[0]?.any
      (fun keeper => !keeper.phase.isEngaged && keeper.result?.isNone) = true := by decide +kernel
  have alone : ((quickWorld.play outset).play excursion).outline.keepers.length = 1 := by
    decide +kernel
  obtain ⟨final, present, isOver⟩ := (Option.any_eq_true _ _).mp returns
  rw [Bool.and_eq_true, Bool.not_eq_true', Option.isNone_iff_eq_none] at isOver
  refine ⟨by decide +kernel, by decide +kernel, by decide +kernel,
    session_restores .standard _ 7 outset excursion 0 ⟨⟨_, begins, rfl⟩, ?_, ?_⟩ ?_⟩
  · intro number inside keeper there
    exact (Option.all_eq_true _ _).mp (goesOn number inside) keeper there
  · refine ⟨final, present, isOver.1, fun cause broken => ?_⟩
    cases isOver.2.symm.trans broken
  · intro other keeper different there
    have inside := (List.getElem?_eq_some_iff.mp there).1
    have only : other < 1 := alone ▸ inside
    exact absurd (Nat.lt_one_iff.mp only) different

end World

end EventFeed
