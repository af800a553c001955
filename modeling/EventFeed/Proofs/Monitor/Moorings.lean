/-
**What moves do to what is written.**

Every move does one of few things to a harbor. A keeper's step is one of its deeds: most deeds
change nothing of what the keeper keeps, and each of the others does one thing to the harbor: it
takes the channel, writes the greeting, gets a writer, queues a heart-beat or the farewell, or lets
go of all.

* `World.turn_keeperMove`, `World.turn_writerStep`: the moves of keepers and writers;
* `World.harbor_turn`: every move is a turn of the harbor.
-/

import EventFeed.Proofs.Monitor.Voyages

namespace EventFeed

open EventFeed.Numeral EventFeed.Time
open EventFeed.Wire (Frame)

section Lists

variable {α β : Type} {list : List α} {index : Nat} {given : α}

/-- One in a list that is replaced by itself. -/
theorem modify_self (present : list[index]? = some given) :
    (list.modify index fun _ => given) = list := by
  refine List.ext_getElem? fun place => ?_
  by_cases here : index = place
  · rw [← here, List.getElem?_modify_eq, present]
    rfl
  · rw [List.getElem?_modify_ne _ _ here]

/-- A part of one in a list that changes. -/
theorem map_modify_of_present (present : list[index]? = some given) (change : α → α)
    (part : α → β) : (list.modify index change).map part =
      (list.map part).modify index fun _ => part (change given) := by
  refine List.ext_getElem? fun place => ?_
  by_cases here : index = place
  · rw [← here, List.getElem?_map, List.getElem?_modify_eq, List.getElem?_modify_eq,
      List.getElem?_map, present]
    rfl
  · rw [List.getElem?_map, List.getElem?_modify_ne _ _ here, List.getElem?_modify_ne _ _ here,
      List.getElem?_map]

end Lists

namespace Harbor

variable {before after : Harbor} {index : Nat} {berth other : Berth}

/-- The last berth that is put into a place is the one that counts. -/
theorem station_station (harbor : Harbor) (index : Nat) (first second : Berth) :
    (harbor.station index first).station index second = harbor.station index second := by
  have same : (harbor.berths.modify index fun _ => first).modify index (fun _ => second) =
      harbor.berths.modify index fun _ => second := by
    rw [List.modify_modify_eq]
    rfl
  simp only [station, same]

theorem station_self (present : before.berths[index]? = some berth) :
    before.station index berth = before := by
  rw [station, modify_self present]

theorem reload_self {load : Load} (present : before.loads[index]? = some load) :
    before.reload index load = before := by
  rw [reload, modify_self present]

/-- Who keeps what has no part in how errands are queued. -/
theorem Serves.station (served : before.Serves after) (index : Nat) (berth : Berth) :
    (before.station index berth).Serves (after.station index berth) := by
  refine ⟨served.settings, ?_, served.channels, served.written, served.attached, served.numbered,
    served.loads⟩
  show after.berths.modify index _ = before.berths.modify index _
  rw [served.berths]

end Harbor

/-- A session that fails lets go of its channel. -/
theorem Keeper.standing_fail (settings : Settings) (view : View) (keeper : Keeper)
    (error : SessionError) (uptime : Option Nat) :
    (keeper.fail settings view error uptime).1.standing = .idle := by
  rcases phase_fail settings view keeper error uptime with ⟨_, phase⟩ | ⟨_, phase⟩ <;>
    rw [standing, phase]

namespace World

variable {world : World} {index : Nat} {tenure : Tenure}

theorem berth_of_tenure (present : world.tenures[index]? = some tenure) :
    world.harbor.berths[index]? = some tenure.berth := by
  rw [harbor, List.getElem?_map, present]
  rfl

theorem tenure_of_berth {berth : Berth} (present : world.harbor.berths[index]? = some berth) :
    ∃ tenure, world.tenures[index]? = some tenure ∧ tenure.berth = berth := by
  rw [harbor, List.getElem?_map] at present
  exact Option.map_eq_some_iff.mp present

/-- The harbor when something about one keeper changes. -/
theorem harbor_atTenure (present : world.tenures[index]? = some tenure)
    (change : Tenure → Tenure) :
    (world.atTenure index change).harbor = world.harbor.station index (change tenure).berth := by
  unfold harbor atTenure Harbor.station
  rw [map_modify_of_present present]

/-! ### Effects -/

/-- What only tells the consumer something changes nothing of what is written. -/
theorem harbor_foldl_tells (index : Nat) (world : World) {effects : List Effect}
    (tells : effects.all Effect.tells = true) :
    (effects.foldl (perform index) world).harbor = world.harbor := by
  induction effects generalizing world with
  | nil => rfl
  | cons effect effects ih =>
    rw [List.all_cons, Bool.and_eq_true] at tells
    rw [List.foldl_cons, ih _ tells.2]
    unfold perform
    split
    · rfl
    · cases effect <;> first
        | (cases tells.1; done)
        | exact harbor_publish world _
        | exact harbor_notify world _

/-- A keeper lets go of all that it keeps. -/
theorem harbor_release (present : world.tenures[index]? = some tenure) :
    (perform index world .release).harbor =
      world.harbor.station index ⟨tenure.keeper, none, none⟩ := by
  unfold perform
  rw [present]
  dsimp only
  cases tenure.channel with
  | none => exact harbor_atTenure present _
  | some channel =>
    have released : (world.atChannel channel Channel.release).harbor = world.harbor := by
      unfold harbor atChannel
      rw [List.length_modify]
    have presentStill : (world.atChannel channel Channel.release).tenures[index]? = some tenure :=
      present
    rw [harbor_atTenure presentStill, released]
    rfl

/-! ### Keepers -/

/-- The world in which the keeper that takes a step is the one after it. -/
def turned (world : World) (index : Nat) (keeper : Keeper) : World :=
  world.atTenure index fun tenure => { tenure with keeper }

theorem afterStep_eq (world : World) (index : Nat) (step : Keeper.Step) :
    (world.afterStep index step).harbor =
      (step.2.foldl (perform index) (world.turned index step.1)).harbor :=
  rfl

theorem harbor_turned (present : world.tenures[index]? = some tenure) (keeper : Keeper) :
    (world.turned index keeper).harbor =
      world.harbor.station index { tenure.berth with keeper } :=
  harbor_atTenure present _

theorem tenures_turned (present : world.tenures[index]? = some tenure) (keeper : Keeper) :
    (world.turned index keeper).tenures[index]? = some { tenure with keeper } := by
  rw [turned, atTenure, List.getElem?_modify_eq, present]
  rfl

section Steps

variable {step : Keeper.Step} {stopFirst : Bool} {drawn : Binary64}

/-- A step whose effects change nothing of what the keeper keeps. -/
theorem turn_stays (present : world.tenures[index]? = some tenure)
    (standing : step.1.standing = tenure.keeper.standing)
    (hello : ∀ settings, step.1.hello settings = tenure.keeper.hello settings)
    (unmoored : step.2.any Effect.moors = false) :
    Harbor.Turn world.harbor (.keeper index stopFirst drawn)
      (world.afterStep index step).harbor := by
  have served := serves_foldl_perform index (world.turned index step.1) unmoored
  unfold Serves at served
  rw [harbor_turned present] at served
  exact .stays (berth_of_tenure present) standing (hello _) served

/-- A step with which a session is over. -/
theorem turn_leaves (present : world.tenures[index]? = some tenure) (earlier : List Effect)
    (told : List Effect) (effects : step.2 = earlier ++ .release :: told)
    (unmoored : earlier.any Effect.moors = false) (tells : told.all Effect.tells = true)
    (idle : step.1.standing = .idle)
    (detaches : tenure.keeper.standing = .connected → .detach ∈ earlier) :
    Harbor.Turn world.harbor (.keeper index stopFirst drawn)
      (world.afterStep index step).harbor := by
  let begun := world.turned index step.1
  let done := earlier.foldl (perform index) begun
  have served : begun.harbor.Serves done.harbor := serves_foldl_perform index begun unmoored
  obtain ⟨after, presentStill, same⟩ := tenure_of_berth
    (served.berths.symm ▸ berth_of_tenure (tenures_turned present step.1) :
      done.harbor.berths[index]? = some _)
  have keeper : after.keeper = step.1 := congrArg Berth.keeper same
  have left : (world.afterStep index step).harbor =
      (done.harbor.station index tenure.berth).station index ⟨step.1, none, none⟩ := by
    rw [afterStep_eq, effects, List.foldl_append, List.foldl_cons, harbor_foldl_tells _ _ tells,
      Harbor.station_station, harbor_release presentStill, keeper]
  have servedBefore := served.station index tenure.berth
  rw [harbor_turned present, Harbor.station_station,
    Harbor.station_self (berth_of_tenure present)] at servedBefore
  rw [left]
  refine .leaves (berth_of_tenure present) idle servedBefore fun connected => ?_
  have alters := outline_foldl_perform index begun earlier
  refine alters.detached ?_ (fun attaches => ?_) (detaches connected)
  · rw [outline, List.length_map]
    exact (List.getElem?_eq_some_iff.mp (tenures_turned present step.1)).1
  · exact absurd rfl (List.any_eq_false.mp unmoored _ attaches)

/-- A session that fails is over; what comes before its end is given. -/
theorem turn_fails (present : world.tenures[index]? = some tenure) {earlier : List Effect}
    {view : View} {error : SessionError} {uptime : Option Nat}
    (isFail : step = ((tenure.keeper.fail world.settings view error uptime).1,
      earlier ++ (tenure.keeper.fail world.settings view error uptime).2))
    (unmoored : earlier.any Effect.moors = false)
    (detaches : tenure.keeper.standing = .connected → .detach ∈ earlier) :
    Harbor.Turn world.harbor (.keeper index stopFirst drawn)
      (world.afterStep index step).harbor := by
  obtain ⟨report, told, reports, tells, effects⟩ :=
    Keeper.exists_effects_fail world.settings view tenure.keeper error uptime
  have quiet : (earlier ++ .happened .fault :: report).any Effect.moors = false := by
    rw [List.any_append, unmoored, List.any_cons]
    refine List.any_eq_false.mpr fun effect member => ?_
    have only := List.all_eq_true.mp reports effect member
    cases effect <;> first | (cases only; done) | exact Bool.false_ne_true
  subst isFail
  refine turn_leaves present _ told ?_ quiet tells ?_ fun connected =>
    List.mem_append_left _ (detaches connected)
  · rw [effects, List.append_assoc, List.cons_append]
  · exact Keeper.standing_fail _ _ _ _ _

end Steps

/-- The channel of a session that is not there yet. -/
theorem answer_of_opened (opened : world.dialOf tenure = .opened) :
    ∃ attempt sink, tenure.attempt = some attempt ∧ attempt.answer = .accept sink := by
  unfold dialOf at opened
  split at opened
  · cases opened
  · rename_i attempt dialed
    split at opened
    · split at opened <;> cases opened
      exact ⟨attempt, _, dialed, ‹_›⟩
    · cases opened

theorem perform_happened (index : Nat) (world : World) (happening : Happening) :
    perform index world (.happened happening) = world := by
  unfold perform
  split <;> rfl

theorem perform_queue (present : world.tenures[index]? = some tenure) {desk : Nat}
    (manned : tenure.writer = some desk) (frame : Frame) :
    perform index world (.queue frame) = world.queue (some desk) [frame] := by
  unfold perform
  rw [present]
  dsimp only
  rw [manned]

theorem perform_detach (present : world.tenures[index]? = some tenure) :
    perform index world .detach = { world with registry := world.registry.detach } := by
  unfold perform
  rw [present]

section Moored

variable {keeper : Keeper} {stopFirst : Bool} {drawn : Binary64}

/-- The channel that a keeper asked for is there. -/
theorem turn_opens (present : world.tenures[index]? = some tenure)
    (opened : world.dialOf tenure = .opened) (idle : tenure.keeper.standing = .idle)
    (standing : keeper.standing = .opened) (happening : Happening) :
    Harbor.Turn world.harbor (.keeper index stopFirst drawn)
      (world.afterStep index (keeper, [.accept, .happened happening])).harbor := by
  obtain ⟨attempt, sink, dialed, answer⟩ := answer_of_opened opened
  let turned := world.turned index keeper
  let widened : World := { turned with channels := turned.channels ++ [Channel.fresh sink] }
  have presentStill : widened.tenures[index]? = some { tenure with keeper } :=
    tenures_turned present keeper
  have accepted : perform index turned .accept = widened.atTenure index fun tenure =>
      { tenure with channel := some turned.channels.length } := by
    unfold perform
    rw [tenures_turned present keeper]
    dsimp only
    rw [accept, dialed, Option.map_some, answer]
  have wide : widened.harbor = (world.harbor.station index { tenure.berth with keeper }).widen := by
    have same : widened.harbor = turned.harbor.widen := by
      simp [harbor, Harbor.widen, widened]
    rw [same, harbor_turned present]
  have after : (world.afterStep index (keeper, [.accept, .happened happening])).harbor =
      (world.harbor.station index
        ⟨keeper, some world.harbor.channels, tenure.berth.writer⟩).widen := by
    rw [afterStep_eq, List.foldl_cons, List.foldl_cons, List.foldl_nil, perform_happened, accepted,
      harbor_atTenure presentStill, wide]
    exact congrArg Harbor.widen (Harbor.station_station _ _ _ _)
  rw [after]
  exact .opens (berth_of_tenure present) idle standing

theorem harbor_note_wrote (world : World) (channel : Nat) (chunk : List UInt8) :
    (world.note (.wrote channel chunk)).harbor = world.harbor.wrote channel chunk := by
  simp [harbor, note, Harbor.wrote, Occurrence.wrote?]

/-- A keeper writes its greeting. -/
theorem turn_greets (present : world.tenures[index]? = some tenure)
    (fits : tenure.berth.Fits world.harbor) (opened : tenure.keeper.standing = .opened)
    (standing : keeper.standing = .greeted) :
    Harbor.Turn world.harbor (.keeper index stopFirst drawn)
      (world.afterStep index (keeper, [.write (keeper.hello world.settings).encode])).harbor := by
  obtain ⟨channel, moored, -⟩ := fits.of_opened opened
  have here : tenure.channel.getD 0 = channel := by
    rw [show tenure.channel = some channel from moored, Option.getD_some]
  have written : perform index (world.turned index keeper)
      (.write (keeper.hello world.settings).encode) =
        (world.turned index keeper).note (.wrote channel (keeper.hello world.settings).encode) := by
    unfold perform
    rw [tenures_turned present keeper]
    dsimp only
    rw [here]
  rw [afterStep_eq, List.foldl_cons, List.foldl_nil, written, harbor_note_wrote,
    harbor_turned present]
  exact .greets (berth_of_tenure present) opened standing moored

/-- What happens to the last one of a list. -/
theorem modify_concat {α : Type} (list : List α) (last : α) (change : α → α) :
    (list ++ [last]).modify list.length change = list ++ [change last] := by
  induction list with
  | nil => rfl
  | cons head list ih => rw [List.cons_append, List.length_cons, List.modify_succ_cons, ih,
      List.cons_append]

/-- A new writer takes frames. -/
theorem takesFrames_concat (world : World) (desk : Desk) (fresh : desk.writer = .fresh) :
    { world with desks := world.desks ++ [desk] }.takesFrames (some world.desks.length) = true := by
  simp [takesFrames, fresh, Writer.isOpen, Writer.fresh]

/-- A keeper gets a writer. -/
theorem harbor_appoint (present : world.tenures[index]? = some tenure) {channel : Nat}
    (moored : tenure.channel = some channel) :
    let after := perform index world .appoint
    after.harbor =
        { world.harbor.station index ⟨tenure.keeper, some channel, some world.desks.length⟩ with
          loads := world.harbor.loads ++ [⟨channel, none, []⟩] } ∧
      after.tenures[index]? = some { tenure with writer := some world.desks.length } ∧
      after.takesFrames (some world.desks.length) = true ∧ after.registry = world.registry := by
  let desk : Desk := ⟨.fresh, channel, true⟩
  let manned : World := { world with desks := world.desks ++ [desk] }
  have appoints : perform index world .appoint = manned.atTenure index fun tenure =>
      { tenure with writer := some world.desks.length } := by
    unfold perform
    rw [present]
    dsimp only
    rw [moored]
    rfl
  have presentManned : manned.tenures[index]? = some tenure := present
  have loads : manned.harbor =
      { world.harbor with loads := world.harbor.loads ++ [⟨channel, none, []⟩] } := by
    simp [harbor, manned, desk, Desk.load, Writer.fresh]
  rw [appoints]
  refine ⟨?_, ?_, takesFrames_concat world desk rfl, rfl⟩
  · rw [harbor_atTenure presentManned, loads, ← moored]
    rfl
  · rw [atTenure, List.getElem?_modify_eq, presentManned]
    rfl

/-- The subscriptions are asked for through a keeper's writer. -/
theorem perform_attach (present : world.tenures[index]? = some tenure) {desk : Nat}
    (manned : tenure.writer = some desk) (takes : world.takesFrames (some desk) = true) :
    perform index world .attach =
      { world with registry := (world.registry.attach true desk).1 }.queue (some desk)
        (world.registry.attach true desk).2 := by
  unfold perform
  rw [present]
  dsimp only
  rw [manned, attach, takes]
  show World.withRegistry _ (world.registry.attach true desk).1 _ = _
  rw [withRegistry, Registry.writer_attach]
  rfl

theorem harbor_attach (present : world.tenures[index]? = some tenure) {desk : Nat}
    (manned : tenure.writer = some desk) (takes : world.takesFrames (some desk) = true) :
    (perform index world .attach).harbor =
      { world.harbor.push desk (world.registry.attach true desk).2 with
        registry := (world.registry.attach true desk).1 } := by
  have takesStill : { world with
      registry := (world.registry.attach true desk).1 }.takesFrames (some desk) = true := takes
  rw [perform_attach present manned takes, harbor_queue, takesStill, if_pos rfl]
  rfl

/-- A keeper gets a writer, through which the subscriptions are asked for. -/
theorem harbor_attach_appoint (present : world.tenures[index]? = some tenure) {channel : Nat}
    (moored : tenure.channel = some channel) :
    (perform index (perform index world .appoint) .attach).harbor =
      (world.harbor.station index
          ⟨tenure.keeper, some channel, some world.harbor.loads.length⟩).man channel
        (world.registry.attach true world.harbor.loads.length).2
        (world.registry.attach true world.harbor.loads.length).1 := by
  obtain ⟨appointed, presentStill, takes, registry⟩ := harbor_appoint present moored
  have length : world.desks.length = world.harbor.loads.length := (List.length_map _).symm
  have pushed : ∀ requests, (world.harbor.loads ++ [Load.mk channel none []]).modify
      world.harbor.loads.length (Load.push requests) =
        world.harbor.loads ++ [⟨channel, none, requests⟩] := by
    intro requests
    rw [modify_concat]
    rfl
  rw [harbor_attach presentStill rfl takes, appointed, registry, length]
  show Harbor.mk _ _ _ (List.modify _ _ _) _ _ = _
  rw [pushed]
  rfl

/-- The answer to the greeting has come: the session is connected. -/
theorem turn_connects (present : world.tenures[index]? = some tenure)
    (fits : tenure.berth.Fits world.harbor) {intake rest : Intake} {deadline : Nat} {answer : Frame}
    (phase : tenure.keeper.phase = .awaiting intake deadline)
    (found : intake.next = (.ok (some answer), rest)) (answers : answer.command = .connected)
    (connected : keeper.standing = .connected) {happening : Happening} {state : ConnectionState} :
    Harbor.Turn world.harbor (.keeper index stopFirst drawn)
      (world.afterStep index
        (keeper, [.happened happening, .appoint, .attach, .publish state])).harbor := by
  have greeted : tenure.keeper.standing = .greeted := by rw [Keeper.standing, phase]
  obtain ⟨channel, moored, -⟩ := fits.of_greeted greeted
  have tells : [Effect.publish state].all Effect.tells = true := rfl
  have published : ∀ before : World, (perform index before (.publish state)).harbor =
      before.harbor := fun before => harbor_foldl_tells index before tells
  let berth : Berth := ⟨keeper, some channel, some world.harbor.loads.length⟩
  have after : (world.afterStep index
        (keeper, [.happened happening, .appoint, .attach, .publish state])).harbor =
      (world.harbor.station index berth).man channel
        (world.registry.attach true world.harbor.loads.length).2
        (world.registry.attach true world.harbor.loads.length).1 := by
    simp only [afterStep_eq, List.foldl_cons, List.foldl_nil, perform_happened]
    rw [published, harbor_attach_appoint (tenures_turned present keeper) moored,
      harbor_turned present]
    show Harbor.man ((world.harbor.station index _).station index berth) _ _ _ = _
    rw [Harbor.station_station]
    rfl
  rw [after]
  exact .connects (berth_of_tenure present) phase found answers connected moored

/-- A heart-beat is due. -/
theorem turn_beats (present : world.tenures[index]? = some tenure)
    (fits : tenure.berth.Fits world.harbor) (connected : tenure.keeper.standing = .connected)
    (still : keeper.standing = .connected) :
    Harbor.Turn world.harbor (.keeper index stopFirst drawn)
      (world.afterStep index (keeper, [.queue .heartbeat])).harbor := by
  obtain ⟨-, desk, -, manned, -⟩ := fits.of_connected connected
  have queued := perform_queue (tenures_turned present keeper) manned .heartbeat
  rw [afterStep_eq, List.foldl_cons, List.foldl_nil, queued, harbor_queue, harbor_turned present]
  refine .beats (berth_of_tenure present) connected still manned fun frame member => ?_
  split at member
  · exact List.mem_singleton.mp member
  · cases member

/-- The harbor when a keeper takes leave: whether or not there is a writer to give the farewell to,
nothing is asked for any more. -/
theorem harbor_parted (present : world.tenures[index]? = some tenure) {desk : Nat}
    (manned : tenure.writer = some desk) {effects : List Effect} {happening : Happening}
    {receipt : String}
    (leaves : effects = [.detach, .happened happening, .queue (farewell receipt)] ∨
      effects = [.detach, .happened happening, .dismiss]) :
    ∃ frames, (frames = [] ∨ ∃ receipt, frames = [farewell receipt]) ∧
      (effects.foldl (perform index) world).harbor =
        { world.harbor.push desk frames with registry := world.registry.detach } := by
  let detached : World := { world with registry := world.registry.detach }
  have presentStill : detached.tenures[index]? = some tenure := present
  rcases leaves with rfl | rfl
  · have queued := perform_queue presentStill manned (farewell receipt)
    refine ⟨if detached.takesFrames (some desk) then [farewell receipt] else [], ?_, ?_⟩
    · split
      · exact .inr ⟨receipt, rfl⟩
      · exact .inl rfl
    · rw [List.foldl_cons, List.foldl_cons, List.foldl_cons, List.foldl_nil, perform_detach present,
        perform_happened, queued, harbor_queue]
      rfl
  · have dismissed : (perform index detached .dismiss).harbor = detached.harbor := by
      unfold perform
      rw [presentStill]
      dsimp only
      rw [manned]
      exact harbor_atDesk detached desk fun _ => rfl
    refine ⟨[], .inl rfl, ?_⟩
    rw [List.foldl_cons, List.foldl_cons, List.foldl_cons, List.foldl_nil, perform_detach present,
      perform_happened, dismissed, Harbor.push_nil]
    rfl

/-- A connected session is told to end. -/
theorem turn_parts (present : world.tenures[index]? = some tenure)
    (fits : tenure.berth.Fits world.harbor) (connected : tenure.keeper.standing = .connected)
    (view : View) (intake : Intake) :
    Harbor.Turn world.harbor (.keeper index stopFirst drawn)
      (world.afterStep index (tenure.keeper.part world.settings view intake)).harbor := by
  obtain ⟨-, desk, -, manned, -⟩ := fits.of_connected connected
  obtain ⟨keeper, leaving, effects, leaves, same⟩ :
      ∃ keeper, keeper.standing = .leaving ∧ ∃ effects,
        (effects = [.detach, .happened .teardownRequested, .queue (farewell view.receipt)] ∨
          effects = [.detach, .happened .teardownRequested, .dismiss]) ∧
        tenure.keeper.part world.settings view intake = (keeper, effects) := by
    unfold Keeper.part
    dsimp only
    split
    · exact ⟨_, rfl, _, .inl rfl, rfl⟩
    · exact ⟨_, rfl, _, .inr rfl, rfl⟩
  obtain ⟨frames, farewells, parted⟩ :=
    harbor_parted (tenures_turned present keeper) manned leaves
  rw [same, afterStep_eq, parted, harbor_turned present]
  exact .parts (berth_of_tenure present) connected leaving manned farewells

end Moored

/-- **What a keeper's step does to the harbor.** -/
theorem turn_keeperMove (orderly : world.harbor.IsOrderly) {stopFirst : Bool} {drawn : Binary64}
    {step : Keeper.Step} (present : world.tenures[index]? = some tenure)
    (stepped : tenure.keeper.step world.settings { world.viewOf tenure with stopFirst, drawn } =
      some step) :
    Harbor.Turn world.harbor (.keeper index stopFirst drawn)
      (world.afterStep index step).harbor := by
  have fits := orderly.berths _ (List.mem_of_getElem? (berth_of_tenure present))
  have stays : ∀ {keeper : Keeper} {effects : List Effect},
      keeper.standing = tenure.keeper.standing →
      (∀ settings, keeper.hello settings = tenure.keeper.hello settings) →
      effects.any Effect.moors = false →
      Harbor.Turn world.harbor (.keeper index stopFirst drawn)
        (world.afterStep index (keeper, effects)).harbor :=
    fun standing hello unmoored => turn_stays present standing hello unmoored
  have standing : ∀ {phase : Phase}, tenure.keeper.phase = phase → tenure.keeper.standing =
      ({ tenure.keeper with phase } : Keeper).standing := by
    rintro phase rfl
    rfl
  cases Keeper.deed_of_step stepped with
  | begins phase => exact stays (standing phase).symm (fun _ => rfl) rfl
  | opens phase answer => exact turn_opens present answer (standing phase) rfl _
  | greets phase sink => exact turn_greets present fits (standing phase) rfl
  | hears phase drained arrival => exact stays (standing phase).symm (fun _ => rfl) rfl
  | looks phase undrained next beat => exact stays (standing phase).symm (fun _ => rfl) rfl
  | connects phase undrained found answers =>
    exact turn_connects present fits phase found answers rfl
  | hangsUp phase drained stopping => exact stays (standing phase).symm (fun _ => rfl) rfl
  | fails reason =>
    refine turn_fails present rfl ?_ fun connected => ?_
    · cases reason <;> rfl
    · cases reason <;> cases (standing ‹_›).symm.trans connected
  | reads phase undrained next => exact stays (standing phase).symm (fun _ => rfl) rfl
  | handles phase undrained found harmless => exact stays (standing phase).symm (fun _ => rfl) rfl
  | takes phase drained going arrival => exact stays (standing phase).symm (fun _ => rfl) rfl
  | beats phase drained going due => exact turn_beats present fits (standing phase) rfl
  | @loses watch error earlier phase going reason =>
    have same : earlier ++ (tenure.keeper.lose world.settings
          { world.viewOf tenure with stopFirst, drawn } watch error).2 =
        (earlier ++ [.detach, .abort]) ++ (tenure.keeper.fail world.settings
          { world.viewOf tenure with stopFirst, drawn } error
          (some (world.now - watch.since))).2 := by
      rw [List.append_assoc]
      rfl
    refine turn_fails present (Prod.ext rfl same) ?_ fun connected => ?_
    · cases reason <;> rfl
    · simp
  | parts phase drained stopping => exact turn_parts present fits (standing phase) _ _
  | lingers phase quiet =>
    refine stays (standing phase).symm (fun _ => rfl) ?_
    rcases quiet with rfl | rfl <;> rfl
  | drains earlier phase quiet =>
    refine stays (standing phase).symm (fun _ => rfl) ?_
    rcases quiet with rfl | rfl <;> rfl
  | @concludes happening earlier phase ends quiet =>
    refine turn_leaves present (earlier ++ [.happened happening]) [.publish .disconnected]
      ?_ ?_ rfl rfl fun connected => ?_
    · simp [Keeper.conclude, Keeper.finish]
    · rcases quiet with rfl | rfl | rfl <;> rfl
    · rcases phase with ⟨_, phase⟩ | phase | ⟨_, phase⟩ <;>
        cases (standing phase).symm.trans connected
  | @crashes cause phase =>
    refine turn_leaves present [] [.publish (.failed cause)] rfl rfl rfl rfl fun connected => ?_
    rcases phase with ⟨_, phase⟩ | phase | phase <;> cases (standing phase).symm.trans connected
  | rests phase stopping => exact stays (standing phase).symm (fun _ => rfl) rfl
  | wakes phase due => exact stays (standing phase).symm (fun _ => rfl) rfl

/-! ### Writers -/

section Writers

variable {after : World} {desk : Desk}

/-- The harbor when a writer is another now. -/
theorem harbor_atDesk_writer (present : world.desks[index]? = some desk) (writer : Writer) :
    (world.atDesk index fun desk => { desk with writer }).harbor =
      world.harbor.reload index ⟨desk.channel, writer.chunk, writer.queue⟩ := by
  unfold harbor atDesk Harbor.reload
  rw [map_modify_of_present present]
  rfl

/-- **What a writer's step does to the harbor.** -/
theorem turn_writerStep (moved : world.writerStep? index = some after) :
    Harbor.Turn world.harbor (.writer index) after.harbor := by
  unfold writerStep? at moved
  simp only [Option.bind_eq_bind, Option.bind_eq_some_iff, Option.some.injEq] at moved
  obtain ⟨desk, present, channel, -, ⟨writer, act⟩, stepped, rfl⟩ := moved
  have load : world.harbor.loads[index]? = some desk.load := by
    rw [harbor, List.getElem?_map, present]
    rfl
  have reloaded := harbor_atDesk_writer present writer
  rcases Writer.step_cases stepped with ⟨chunk, writing, rfl, rfl⟩ |
      ⟨frame, queue, resting, waiting, rfl, rfl⟩ | ⟨sameChunk, sameQueue, quiet⟩
  · dsimp only
    rw [harbor_note_wrote, reloaded]
    exact .writes load writing
  · dsimp only
    rw [reloaded]
    refine .takes load rfl ?_ ?_
    · show _ ++ _ = desk.writer.chunk.toList ++ sendable desk.writer.queue
      rw [resting, waiting, sendable_cons]
      rfl
    · show queue.length ≤ desk.writer.queue.length
      rw [waiting]
      exact Nat.le_succ _
  · have same : (world.atDesk index fun desk => { desk with writer }).harbor = world.harbor := by
      rw [reloaded, sameChunk, sameQueue]
      exact Harbor.reload_self load
    rcases quiet with rfl | rfl
    · exact .serves (serves_of_harbor same)
    · dsimp only
      rw [harbor_note _ rfl]
      exact .serves (serves_of_harbor same)

end Writers

/-- **Every move is a turn of the harbor.** -/
theorem harbor_turn (orderly : world.harbor.IsOrderly) (move : Move) :
    Harbor.Turn world.harbor move (world.act move).harbor := by
  cases move with
  | keeper index stopFirst drawn =>
    rw [act]
    cases moved : world.keeperMoveBy? index stopFirst drawn with
    | none => exact .serves (Harbor.serves_refl _)
    | some step =>
      unfold keeperMoveBy? at moved
      rw [Option.bind_eq_bind, Option.bind_eq_some_iff] at moved
      obtain ⟨tenure, present, stepped⟩ := moved
      exact turn_keeperMove orderly present stepped
  | writer index =>
    rw [act]
    cases moved : world.writerStep? index with
    | none => exact .serves (Harbor.serves_refl _)
    | some after => exact turn_writerStep moved
  | start endpoint credentials =>
    rw [act, ifHeld]
    split
    · unfold start
      split
      · exact .serves (Harbor.serves_refl _)
      · let tenure : Tenure := ⟨.fresh endpoint credentials, false, none, none, none⟩
        let started : World :=
          { world with tenures := world.tenures ++ [tenure], slot := some world.tenures.length }
        have extended : started.harbor =
            world.harbor.extend ⟨.fresh endpoint credentials, none, none⟩ := by
          simp [harbor, Harbor.extend, started, tenure, Tenure.berth]
        show Harbor.Turn world.harbor _ started.harbor
        rw [extended]
        exact .starts
    · exact .serves (Harbor.serves_refl _)
  | _ => exact .serves (serves_act world rfl)

end World

end EventFeed
