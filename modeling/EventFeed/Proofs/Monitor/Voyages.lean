/-
**What is queued for a writer, and what it writes.**

The writer of a session writes the frames that are queued for it in their order, and leaves out
those that may not be sent. `Harbor.Voyage` says for one writer what was queued for it since its
session began, and that what was written, what is being written and what waits make up all of it;
`Harbor.Moored` says so for all writers of a harbor that is in order.

`Harbor.Turn` lists what a move can do to a harbor, so that what holds in all interleavings is
proved by going through these few cases.

* `Moored.serve`: errands that are queued for a connected session change nothing else;
* `Moored.turn`: every turn keeps all this.
-/

import EventFeed.Proofs.Monitor.Berths
import EventFeed.Proofs.Session.Writing

namespace EventFeed

open EventFeed.Time
open EventFeed.Wire (Frame)

/-- What a writer still writes if nothing more comes. -/
def Load.pending (load : Load) : List (List UInt8) :=
  load.chunk.toList ++ sendable load.queue

namespace Harbor

/-- The frames that wait for a writer. -/
def queueAt (harbor : Harbor) (desk : Nat) : List Frame :=
  (harbor.loads[desk]?.map Load.queue).getD []

/-- The frames that were queued for a writer between two moments; none if some were taken. -/
def grown (before after : Harbor) (desk : Nat) : List Frame :=
  (after.queueAt desk).drop (before.queueAt desk).length

/-- What was queued for a writer, given how its session began: first requests, then errands, then at
most one farewell, after which the session queues nothing; and what was written after the greeting,
what is being written and what waits make up all of it. -/
inductive Voyage (harbor : Harbor) (began : Nat → Nat → Frame → List Frame → Prop) (desk : Nat)
    (load : Load) (past : List Frame) : Prop where
  | voyage {hello : Frame} {requests between ends : List Frame}
      (began : began desk load.channel hello requests) (whole : past = requests ++ between ++ ends)
      (errands : ∀ frame ∈ between, IsErrand frame)
      (ends : ends = [] ∨ (∃ receipt, ends = [farewell receipt]) ∧ harbor.IsLeft desk)
      (greeted : harbor.writtenTo load.channel ≠ [])
      (balance : harbor.writtenTo load.channel ++ load.pending = hello.encode :: sendable past)

/-- **What is known of a harbor in every interleaving**, given how sessions began and what was
queued for each writer. -/
structure Moored (began : Nat → Nat → Frame → List Frame → Prop) (past : Nat → List Frame)
    (harbor : Harbor) : Prop where
  orderly : harbor.IsOrderly
  fresh : ∀ desk, harbor.loads.length ≤ desk → past desk = []
  voyages : ∀ desk load, harbor.loads[desk]? = some load → harbor.Voyage began desk load (past desk)

section Voyages

variable {before after : Harbor} {began began' : Nat → Nat → Frame → List Frame → Prop}
  {past : Nat → List Frame} {desk : Nat} {load : Load} {whole frames : List Frame}

theorem pending_push (load : Load) (frames : List Frame) :
    (load.push frames).pending = load.pending ++ sendable frames := by
  rw [Load.pending, Load.pending, Load.push, sendable_append, List.append_assoc]

/-- A writer whose load is another now, but for which as much is written and waits as before. -/
theorem Voyage.keep (voyage : before.Voyage began desk load whole) {next : Load}
    (channel : next.channel = load.channel)
    (greeted : before.writtenTo load.channel ≠ [] → after.writtenTo load.channel ≠ [])
    (balance : after.writtenTo load.channel ++ next.pending =
      before.writtenTo load.channel ++ load.pending)
    (isLeft : before.IsLeft desk → after.IsLeft desk)
    (still : ∀ channel hello requests, began desk channel hello requests →
      began' desk channel hello requests) : after.Voyage began' desk next whole := by
  obtain ⟨start, split, errands, ends, written, total⟩ := voyage
  refine .voyage (still _ _ _ (channel ▸ start)) split errands ?_ ?_ ?_
  · exact ends.imp_right fun ⟨farewells, left⟩ => ⟨farewells, isLeft left⟩
  · rw [channel]
    exact greeted written
  · rw [channel, balance, total]

/-- Errands are queued while a connected session has the writer. -/
theorem Voyage.push (voyage : before.Voyage began desk load whole)
    (written : after.writtenTo load.channel = before.writtenTo load.channel)
    (isLeft : before.IsLeft desk → after.IsLeft desk)
    (errands : ∀ frame ∈ frames, IsErrand frame) (busy : frames ≠ [] → ¬before.IsLeft desk) :
    after.Voyage began desk (load.push frames) (whole ++ frames) := by
  by_cases nothing : frames = []
  · subst nothing
    rw [Load.push_nil, List.append_nil]
    exact voyage.keep rfl (written.symm ▸ id) (by rw [written]; rfl) isLeft
      fun _ _ _ start => start
  · obtain @⟨hello, requests, between, ends, start, split, others, last, greeted, total⟩ := voyage
    have unfinished := last.resolve_right fun ⟨_, left⟩ => busy nothing left
    have grows : whole ++ frames = requests ++ (between ++ frames) ++ [] := by
      rw [split, unfinished, List.append_nil, List.append_nil, List.append_assoc]
    refine .voyage start grows (fun frame member => ?_) (.inl rfl) (written.symm ▸ greeted) ?_
    · exact (List.mem_append.mp member).elim (others frame) (errands frame)
    · show after.writtenTo load.channel ++ (load.push frames).pending = _
      rw [written, pending_push, sendable_append, ← List.append_assoc, total, List.cons_append]

/-- The farewell is queued when the session that had the writer takes leave. -/
theorem Voyage.part (voyage : before.Voyage began desk load whole) (receipt : String)
    (written : after.writtenTo load.channel = before.writtenTo load.channel)
    (busy : ¬before.IsLeft desk) (left : after.IsLeft desk) :
    after.Voyage began desk (load.push [farewell receipt]) (whole ++ [farewell receipt]) := by
  obtain ⟨start, split, others, ends, greeted, total⟩ := voyage
  have unfinished := ends.resolve_right fun ⟨_, left⟩ => busy left
  refine .voyage start ?_ others (.inr ⟨⟨receipt, rfl⟩, left⟩) (written.symm ▸ greeted) ?_
  · rw [split, unfinished, List.append_nil]
  · show after.writtenTo load.channel ++ (load.push [farewell receipt]).pending = _
    rw [written, pending_push, sendable_append, ← List.append_assoc, total, List.cons_append]

/-- What comes behind the frames that wait was queued. -/
theorem grown_of_queueAt (queues : after.queueAt desk = before.queueAt desk ++ frames) :
    before.grown after desk = frames := by
  rw [grown, queues, List.drop_left]

theorem queueAt_of_none (absent : before.loads[desk]? = none) : before.queueAt desk = [] := by
  rw [queueAt, absent]
  rfl

theorem queueAt_of_some (present : before.loads[desk]? = some load) :
    before.queueAt desk = load.queue := by
  rw [queueAt, present]
  rfl

/-- When frames are queued for the writers, and nothing is taken. -/
theorem Moored.push (moored : Moored began past before) (frames : Nat → List Frame)
    (orderly : after.IsOrderly)
    (loads : ∀ desk, after.loads[desk]? = before.loads[desk]?.map (Load.push (frames desk)))
    (voyages : ∀ desk load, before.loads[desk]? = some load →
      before.Voyage began desk load (past desk) →
      after.Voyage began desk (load.push (frames desk)) (past desk ++ frames desk)) :
    Moored began (fun desk => past desk ++ before.grown after desk) after := by
  refine ⟨orderly, fun desk unknown => ?_, fun desk load present => ?_⟩
  · have absent : after.loads[desk]? = none := List.getElem?_eq_none unknown
    have absentBefore : before.loads[desk]? = none := by
      rw [loads] at absent
      exact Option.map_eq_none_iff.mp absent
    show past desk ++ before.grown after desk = []
    rw [moored.fresh desk (List.getElem?_eq_none_iff.mp absentBefore), grown,
      queueAt_of_none absent, List.drop_nil]
    rfl
  · rw [loads] at present
    obtain ⟨old, found, rfl⟩ := Option.map_eq_some_iff.mp present
    have queues : after.queueAt desk = before.queueAt desk ++ frames desk := by
      rw [queueAt_of_some found, queueAt_of_some (loads desk ▸ present)]
      rfl
    show after.Voyage began desk (old.push (frames desk)) (past desk ++ before.grown after desk)
    rw [grown_of_queueAt queues]
    exact voyages desk old found (moored.voyages desk old found)

/-- When no frame is queued and none is taken. -/
theorem Moored.stay (moored : Moored began past before) (orderly : after.IsOrderly)
    (loads : after.loads = before.loads)
    (written : ∀ channel ∈ before.routes, after.writtenTo channel = before.writtenTo channel)
    (isLeft : ∀ desk, before.IsLeft desk → after.IsLeft desk) : Moored began past after := by
  refine ⟨orderly, loads ▸ moored.fresh, fun desk load present => ?_⟩
  rw [loads] at present
  have route : load.channel ∈ before.routes :=
    List.mem_map_of_mem (List.mem_of_getElem? present)
  have same := written _ route
  exact (moored.voyages desk load present).keep rfl (same.symm ▸ id) (by rw [same]) (isLeft desk)
    fun _ _ _ start => start

theorem grown_of_loads (loads : after.loads = before.loads) (desk : Nat) :
    before.grown after desk = [] := by
  rw [grown, queueAt, queueAt, loads, List.drop_length]

theorem Moored.congr {past' : Nat → List Frame} (moored : Moored began past before)
    (same : ∀ desk, past desk = past' desk) : Moored began past' before :=
  (funext same : past = past') ▸ moored

theorem Moored.mono (moored : Moored began past before)
    (still : ∀ desk channel hello requests, began desk channel hello requests →
      began' desk channel hello requests) : Moored began' past before :=
  ⟨moored.orderly, moored.fresh, fun desk load present =>
    (moored.voyages desk load present).keep rfl id rfl id (still desk)⟩

/-- **Errands that are queued for the writer that the registry is attached to** change nothing
else. -/
theorem Moored.serve (moored : Moored began past before) (served : before.Serves after) :
    Moored began (fun desk => past desk ++ before.grown after desk) after := by
  obtain ⟨frames, pushed⟩ := Classical.skolem.mp served.loads
  have routes : after.routes = before.routes := by
    refine List.ext_getElem? fun desk => ?_
    rw [Harbor.routes, Harbor.routes, List.getElem?_map, List.getElem?_map, (pushed desk).2.2,
      Option.map_map]
    rfl
  have orderly := moored.orderly.grow served.settings served.berths served.channels routes
    served.written served.attached (served.numbered moored.orderly.numbered)
  have isLeft : ∀ desk, before.IsLeft desk → after.IsLeft desk := fun desk left => by
    rwa [IsLeft, served.berths]
  refine moored.push frames orderly (fun desk => (pushed desk).2.2) fun desk load _ voyage => ?_
  obtain ⟨errands, held, -⟩ := pushed desk
  refine voyage.push ?_ (isLeft desk) errands fun notEmpty =>
    moored.orderly.attended desk (held notEmpty)
  rw [writtenTo, served.written, writtenTo]

/-! ### What keepers do with their berths -/

section Keepers

variable {index : Nat} {berth next : Berth} {keeper : Keeper} {channel : Nat}

theorem isLeft_of_berths (present : before.berths[index]? = some berth)
    (berths : after.berths = before.berths.modify index fun _ => next)
    (goesOn : next.keeper.standing = .connected → next.writer = some desk →
      berth.keeper.standing = .connected ∧ berth.writer = some desk)
    (left : before.IsLeft desk) : after.IsLeft desk := by
  intro other member manned connected
  rw [berths] at member
  obtain ⟨place, found⟩ := List.mem_iff_getElem?.mp member
  rcases getElem?_modify found with ⟨-, rfl⟩ | ⟨-, old⟩
  · obtain ⟨connectedBefore, same⟩ := goesOn connected manned
    exact left berth (List.mem_of_getElem? present) same connectedBefore
  · exact left other (List.mem_of_getElem? old) manned connected

/-- A keeper goes on in its berth, or leaves it. -/
theorem Moored.station (moored : Moored began past before)
    (present : before.berths[index]? = some berth) (fits : next.Fits before)
    (kept : next.channel = berth.channel ∨ next.channel = none)
    (left : berth.keeper.standing = .connected →
      next.keeper.standing = .connected ∧ next.writer = berth.writer ∨
        before.registry.writer = none)
    (goesOn : next.keeper.standing = .connected →
      berth.keeper.standing = .connected ∧ berth.writer = next.writer) :
    Moored began past (before.station index next) :=
  moored.stay (moored.orderly.station present fits kept left) rfl (fun _ _ => rfl) fun _ =>
    isLeft_of_berths present rfl fun connected manned =>
      ⟨(goesOn connected).1, (goesOn connected).2.trans manned⟩

/-- A channel is there for a keeper. -/
theorem Moored.open (moored : Moored began past before)
    (present : before.berths[index]? = some berth) (idle : berth.keeper.standing = .idle)
    (opened : keeper.standing = .opened) : Moored began past
      (before.station index ⟨keeper, some before.channels, berth.writer⟩).widen := by
  refine moored.stay (moored.orderly.open present idle opened) rfl (fun _ _ => rfl) fun desk => ?_
  refine isLeft_of_berths present rfl fun connected => ?_
  cases opened.symm.trans connected

/-- A keeper writes its greeting. -/
theorem Moored.greet (moored : Moored began past before)
    (present : before.berths[index]? = some berth) (opened : berth.keeper.standing = .opened)
    (greeted : keeper.standing = .greeted) (here : berth.channel = some channel) :
    Moored began past ((before.station index { berth with keeper }).wrote channel
      (keeper.hello before.settings).encode) := by
  obtain ⟨own, same, -, -, bare, -⟩ :=
    (moored.orderly.berths _ (List.mem_of_getElem? present)).of_opened opened
  obtain rfl : channel = own := Option.some.inj (here.symm.trans same)
  refine moored.stay (moored.orderly.greet present opened greeted here) rfl (fun other route => ?_)
    fun desk => ?_
  · exact writtenTo_wrote_of_ne (before.station index { berth with keeper }) _
      fun same => bare (same ▸ route)
  · refine isLeft_of_berths present rfl fun connected => ?_
    cases greeted.symm.trans connected

/-- A session becomes connected: it gets a writer, for which the requests wait. -/
theorem Moored.connect (moored : Moored began past before)
    (present : before.berths[index]? = some berth) (greeted : berth.keeper.standing = .greeted)
    (connected : keeper.standing = .connected) (here : berth.channel = some channel)
    {requests : List Frame} {registry : Registry Consumer}
    (attached : registry.writer = some before.loads.length) (numbered : registry.IsNumbered)
    (start : began before.loads.length channel (berth.keeper.hello before.settings) requests) :
    let after := (before.station index ⟨keeper, some channel, some before.loads.length⟩).man
      channel requests registry
    Moored began (fun desk => past desk ++ before.grown after desk) after := by
  intro after
  obtain ⟨own, same, -, -, -, written⟩ :=
    (moored.orderly.berths _ (List.mem_of_getElem? present)).of_greeted greeted
  obtain rfl : channel = own := Option.some.inj (here.symm.trans same)
  have length : after.loads.length = before.loads.length + 1 := List.length_append
  have old : ∀ desk < before.loads.length, after.loads[desk]? = before.loads[desk]? :=
    fun desk inside => List.getElem?_append_left inside
  have new : after.loads[before.loads.length]? = some ⟨channel, none, requests⟩ :=
    List.getElem?_concat_length
  refine ⟨moored.orderly.connect present greeted connected here attached numbered,
    fun desk unknown => ?_, fun desk load found => ?_⟩
  · show past desk ++ before.grown after desk = []
    rw [moored.fresh desk (by omega), grown, queueAt_of_none (List.getElem?_eq_none unknown),
      List.drop_nil]
    rfl
  · have inside := (List.getElem?_eq_some_iff.mp found).1
    show after.Voyage began desk load (past desk ++ before.grown after desk)
    rcases Nat.lt_succ_iff_lt_or_eq.mp (length ▸ inside) with earlier | rfl
    · have sameQueue : after.queueAt desk = before.queueAt desk ++ [] := by
        rw [queueAt, queueAt, old desk earlier, List.append_nil]
      rw [grown_of_queueAt sameQueue, List.append_nil]
      rw [old desk earlier] at found
      refine (moored.voyages desk load found).keep rfl id rfl ?_ fun _ _ _ start => start
      refine isLeft_of_berths present rfl fun _ manned => ?_
      exact absurd (Option.some.inj manned) (Nat.ne_of_gt earlier)
    · cases new.symm.trans found
      have sameQueue : after.queueAt before.loads.length =
          before.queueAt before.loads.length ++ requests := by
        rw [queueAt_of_some new, queueAt_of_none (List.getElem?_eq_none (Nat.le_refl _))]
        rfl
      rw [grown_of_queueAt sameQueue, moored.fresh _ (Nat.le_refl _)]
      have whole : [] ++ requests = requests ++ [] ++ [] := by
        rw [List.append_nil, List.append_nil, List.nil_append]
      have greets : after.writtenTo channel = _ := written
      refine .voyage start whole nofun (.inl rfl) (greets ▸ List.cons_ne_nil _ _) ?_
      rw [greets]
      rfl

/-- A connected session queues errands for its writer. -/
theorem Moored.errand (moored : Moored began past before) {frames : List Frame}
    (errands : ∀ frame ∈ frames, IsErrand frame) (busy : ¬before.IsLeft desk) :
    Moored began (fun other => past other ++ before.grown (before.push desk frames) other)
      (before.push desk frames) := by
  refine moored.push (fun other => if desk = other then frames else [])
    (moored.orderly.grow rfl rfl rfl (routes_push _ _ _) rfl (.inl rfl) moored.orderly.numbered)
    (loads_push before desk frames) fun other load _ voyage => ?_
  by_cases here : desk = other
  · subst here
    have pushed : (before.push desk frames).Voyage began desk (load.push frames)
        (past desk ++ frames) := voyage.push rfl id errands fun _ => busy
    simpa using pushed
  · have same : (before.push desk frames).Voyage began other load (past other) :=
      voyage.keep rfl id rfl id fun _ _ _ start => start
    simpa [here] using same

/-- A connected session takes leave: nothing is asked for through its writer any more, and at most
the farewell is queued. -/
theorem Moored.part (moored : Moored began past before)
    (present : before.berths[index]? = some berth) (connected : berth.keeper.standing = .connected)
    (leaving : keeper.standing = .leaving) (manned : berth.writer = some desk)
    {registry : Registry Consumer} (free : registry.writer = none) (numbered : registry.IsNumbered)
    {frames : List Frame} (farewells : frames = [] ∨ ∃ receipt, frames = [farewell receipt]) :
    let after : Harbor :=
      { (before.station index { berth with keeper }).push desk frames with registry }
    Moored began (fun other => past other ++ before.grown after other) after := by
  intro after
  have orderly := moored.orderly
  have fits := (orderly.berths _ (List.mem_of_getElem? present)).of_joined connected (.inr leaving)
  have freed : IsOrderly { before with registry } :=
    orderly.grow rfl rfl rfl rfl rfl (.inr free) numbered
  have stationed : IsOrderly ({ before with registry }.station index { berth with keeper }) :=
    freed.station present (fits.keep rfl (Nat.le_refl _) (List.prefix_refl _)
      fun _ _ bare => ⟨bare, rfl⟩) (.inl rfl) fun _ => .inr free
  have isLeft : ∀ other, before.IsLeft other → after.IsLeft other := by
    refine fun other => isLeft_of_berths present rfl fun connected => ?_
    cases leaving.symm.trans connected
  have left : after.IsLeft desk := by
    intro other member same
    obtain ⟨place, found⟩ := List.mem_iff_getElem?.mp member
    rcases getElem?_modify found with ⟨-, rfl⟩ | ⟨different, old⟩
    · exact fun connected => nomatch leaving.symm.trans connected
    · exact absurd (orderly.sole present old manned same).symm different
  have busy : ¬before.IsLeft desk := fun left =>
    left berth (List.mem_of_getElem? present) manned connected
  refine moored.push (fun other => if desk = other then frames else [])
    (stationed.grow rfl rfl rfl (routes_push _ _ _) rfl (.inl rfl) numbered)
    (loads_push before desk frames) fun other load _ voyage => ?_
  by_cases here : desk = other
  · subst here
    rcases farewells with rfl | ⟨receipt, rfl⟩
    · have same : after.Voyage began desk load (past desk) :=
        voyage.keep rfl id rfl (isLeft desk) fun _ _ _ start => start
      simpa using same
    · have parted : after.Voyage began desk (load.push [farewell receipt])
          (past desk ++ [farewell receipt]) := voyage.part receipt rfl busy left
      simpa using parted
  · have same : after.Voyage began other load (past other) :=
      voyage.keep rfl id rfl (isLeft other) fun _ _ _ start => start
    simpa [here] using same

/-- A keeper is there that has done nothing yet. -/
theorem Moored.start (moored : Moored began past before) (idle : next.keeper.standing = .idle)
    (free : next.channel = none) (unmanned : next.writer = none) :
    Moored began past (before.extend next) := by
  refine moored.stay (moored.orderly.start idle free unmanned) rfl (fun _ _ => rfl)
    fun desk left other member manned => ?_
  rcases List.mem_append.mp member with old | new
  · exact left other old manned
  · rw [List.mem_singleton.mp new] at manned
    cases unmanned.symm.trans manned

end Keepers

/-! ### What writers do -/

section Writers

variable {next : Load} {chunk : List UInt8}

/-- No frame is queued for a writer when another has a load that is no longer. -/
theorem grown_reload (present : before.loads[desk]? = some load)
    (shorter : next.queue.length ≤ load.queue.length) (other : Nat) :
    before.grown (before.reload desk next) other = [] := by
  unfold grown
  by_cases here : desk = other
  · subst here
    have found : (before.reload desk next).loads[desk]? = some next := by
      rw [reload, List.getElem?_modify_eq, present]
      rfl
    rw [queueAt_of_some found, queueAt_of_some present]
    exact List.drop_eq_nil_of_le shorter
  · have same : (before.reload desk next).queueAt other = before.queueAt other := by
      rw [queueAt, queueAt, reload, List.getElem?_modify_ne _ _ here]
    rw [same, List.drop_length]

/-- A writer takes a frame from its queue. -/
theorem Moored.take (moored : Moored began past before)
    (present : before.loads[desk]? = some load) (channel : next.channel = load.channel)
    (pending : next.pending = load.pending) : Moored began past (before.reload desk next) := by
  have routes := routes_reload present channel
  refine ⟨moored.orderly.grow rfl rfl rfl routes rfl (.inl rfl) moored.orderly.numbered,
    fun other unknown => ?_, fun other found there => ?_⟩
  · refine moored.fresh other ?_
    rwa [reload, List.length_modify] at unknown
  · rcases getElem?_modify there with ⟨rfl, rfl⟩ | ⟨different, old⟩
    · exact (moored.voyages _ _ present).keep channel id (by rw [pending]; rfl) id
        fun _ _ _ start => start
    · exact (moored.voyages _ _ old).keep rfl id rfl id fun _ _ _ start => start

/-- A writer has written what it was writing. -/
theorem Moored.write (moored : Moored began past before)
    (present : before.loads[desk]? = some load) (channel : next.channel = load.channel)
    (pending : load.pending = chunk :: next.pending) :
    Moored began past ((before.reload desk next).wrote load.channel chunk) := by
  have orderly := moored.orderly
  let after := (before.reload desk next).wrote load.channel chunk
  have routeOf : ∀ {desk : Nat} {load : Load}, before.loads[desk]? = some load →
      before.routes[desk]? = some load.channel := by
    intro desk load present
    rw [Harbor.routes, List.getElem?_map, present]
    rfl
  refine ⟨orderly.write present channel chunk, fun other unknown => ?_, fun other found there => ?_⟩
  · refine moored.fresh other ?_
    rwa [show (Harbor.loads after).length = _ from List.length_modify ..] at unknown
  · rcases getElem?_modify there with ⟨rfl, rfl⟩ | ⟨different, old⟩
    · refine (moored.voyages _ _ present).keep channel (fun _ => ?_) ?_ id fun _ _ _ start => start
      · rw [writtenTo_wrote]
        exact List.append_ne_nil_of_right_ne_nil _ (List.cons_ne_nil _ _)
      · rw [writtenTo_wrote, pending, List.append_assoc]
        rfl
    · have same : after.writtenTo found.channel = before.writtenTo found.channel := by
        refine writtenTo_wrote_of_ne (before.reload desk next) chunk fun same => different ?_
        have inside := (List.getElem?_eq_some_iff.mp (routeOf old)).1
        refine (List.getElem?_inj inside orderly.alone).mp ?_
        rw [routeOf old, routeOf present, same]
      exact (moored.voyages _ _ old).keep rfl (same.symm ▸ id) (by rw [same]) id
        fun _ _ _ start => start

end Writers

end Voyages

/-! ### What moves do to harbors -/

/-- A session becomes connected with a move: its keeper has found the answer, nothing but the
greeting was written to its channel, and what its writer is to write first is one request for each
subscription, in their order. -/
structure Joins (before : Harbor) (move : Move) (after : Harbor) (desk channel : Nat)
    (hello : Frame) (requests : List Frame) : Prop where
  answered : ∃ (index : Nat) (stopFirst : Bool) (drawn : Numeral.Binary64) (berth : Berth)
    (intake rest : Intake) (deadline : Nat) (answer : Frame),
    move = .keeper index stopFirst drawn ∧ before.berths[index]? = some berth ∧
    berth.channel = some channel ∧ hello = berth.keeper.hello before.settings ∧
    berth.keeper.phase = .awaiting intake deadline ∧
    intake.next = (.ok (some answer), rest) ∧ answer.command = .connected
  greeted : before.writtenTo channel = [hello.encode]
  desk : desk = before.loads.length
  subscriptions : after.registry.list = before.registry.list
  requests : requests = after.registry.entries.map Registry.request

/-- What moves do to harbors. -/
inductive Turn (before : Harbor) : Move → Harbor → Prop where
  | serves {move : Move} {after : Harbor} (served : before.Serves after) : Turn before move after
  /-- A keeper does something that changes nothing of what it keeps. -/
  | stays {index : Nat} {stopFirst : Bool} {drawn : Numeral.Binary64} {berth : Berth}
      {keeper : Keeper} {after : Harbor} (present : before.berths[index]? = some berth)
      (standing : keeper.standing = berth.keeper.standing)
      (hello : keeper.hello before.settings = berth.keeper.hello before.settings)
      (served : (before.station index { berth with keeper }).Serves after) :
      Turn before (.keeper index stopFirst drawn) after
  | opens {index : Nat} {stopFirst : Bool} {drawn : Numeral.Binary64} {berth : Berth}
      {keeper : Keeper} (present : before.berths[index]? = some berth)
      (idle : berth.keeper.standing = .idle) (opened : keeper.standing = .opened) :
      Turn before (.keeper index stopFirst drawn)
        (before.station index ⟨keeper, some before.channels, berth.writer⟩).widen
  | greets {index channel : Nat} {stopFirst : Bool} {drawn : Numeral.Binary64} {berth : Berth}
      {keeper : Keeper} (present : before.berths[index]? = some berth)
      (opened : berth.keeper.standing = .opened) (greeted : keeper.standing = .greeted)
      (here : berth.channel = some channel) :
      Turn before (.keeper index stopFirst drawn)
        ((before.station index { berth with keeper }).wrote channel
          (keeper.hello before.settings).encode)
  | connects {index channel deadline : Nat} {stopFirst : Bool} {drawn : Numeral.Binary64}
      {berth : Berth} {keeper : Keeper} {intake rest : Intake} {answer : Frame}
      (present : before.berths[index]? = some berth)
      (phase : berth.keeper.phase = .awaiting intake deadline)
      (found : intake.next = (.ok (some answer), rest)) (answers : answer.command = .connected)
      (connected : keeper.standing = .connected) (here : berth.channel = some channel) :
      Turn before (.keeper index stopFirst drawn)
        ((before.station index ⟨keeper, some channel, some before.loads.length⟩).man channel
          (before.registry.attach true before.loads.length).2
          (before.registry.attach true before.loads.length).1)
  | beats {index desk : Nat} {stopFirst : Bool} {drawn : Numeral.Binary64} {berth : Berth}
      {keeper : Keeper} {frames : List Frame} (present : before.berths[index]? = some berth)
      (connected : berth.keeper.standing = .connected) (still : keeper.standing = .connected)
      (manned : berth.writer = some desk) (beats : ∀ frame ∈ frames, frame = .heartbeat) :
      Turn before (.keeper index stopFirst drawn)
        ((before.station index { berth with keeper }).push desk frames)
  | parts {index desk : Nat} {stopFirst : Bool} {drawn : Numeral.Binary64} {berth : Berth}
      {keeper : Keeper} {frames : List Frame} (present : before.berths[index]? = some berth)
      (connected : berth.keeper.standing = .connected) (leaving : keeper.standing = .leaving)
      (manned : berth.writer = some desk)
      (farewells : frames = [] ∨ ∃ receipt, frames = [farewell receipt]) :
      Turn before (.keeper index stopFirst drawn)
        { (before.station index { berth with keeper }).push desk frames with
          registry := before.registry.detach }
  /-- A session is over. -/
  | leaves {index : Nat} {stopFirst : Bool} {drawn : Numeral.Binary64} {berth : Berth}
      {keeper : Keeper} {between : Harbor} (present : before.berths[index]? = some berth)
      (idle : keeper.standing = .idle) (served : before.Serves between)
      (free : berth.keeper.standing = .connected → between.registry.writer = none) :
      Turn before (.keeper index stopFirst drawn) (between.station index ⟨keeper, none, none⟩)
  | takes {desk : Nat} {load next : Load} (present : before.loads[desk]? = some load)
      (channel : next.channel = load.channel) (pending : next.pending = load.pending)
      (shorter : next.queue.length ≤ load.queue.length) :
      Turn before (.writer desk) (before.reload desk next)
  | writes {desk : Nat} {load : Load} {chunk : List UInt8}
      (present : before.loads[desk]? = some load) (writing : load.chunk = some chunk) :
      Turn before (.writer desk)
        ((before.reload desk { load with chunk := none }).wrote load.channel chunk)
  | starts {endpoint : Endpoint} {credentials : Credentials} :
      Turn before (.start endpoint credentials)
        (before.extend ⟨.fresh endpoint credentials, none, none⟩)

section Turns

variable {before after : Harbor} {began : Nat → Nat → Frame → List Frame → Prop}
  {past : Nat → List Frame} {move : Move}

/-- **Every turn keeps what is known of a harbor**, if what is known of how sessions began includes
the session that becomes connected with it. -/
theorem Moored.turn (moored : Moored began past before) (turn : Turn before move after)
    (joins : ∀ desk channel hello requests, Joins before move after desk channel hello requests →
      began desk channel hello requests) :
    Moored began (fun desk => past desk ++ before.grown after desk) after := by
  have quietly : ∀ {after : Harbor}, Moored began past after →
      (∀ desk, before.grown after desk = []) →
      Moored began (fun desk => past desk ++ before.grown after desk) after := by
    intro after moored nothing
    exact moored.congr fun desk => by rw [nothing, List.append_nil]
  have orderly := moored.orderly
  cases turn with
  | serves served => exact moored.serve served
  | @stays index _ _ berth keeper _ present standing hello served =>
    have fits := orderly.berths _ (List.mem_of_getElem? present)
    have stationed := moored.station present (fits.of_standing standing hello) (.inl rfl)
      (fun connected => .inl ⟨standing.trans connected, rfl⟩)
      fun connected => ⟨standing.symm.trans connected, rfl⟩
    exact stationed.serve served
  | opens present idle opened =>
    exact quietly (moored.open present idle opened) (grown_of_loads rfl)
  | greets present opened greeted here =>
    exact quietly (moored.greet present opened greeted here) (grown_of_loads rfl)
  | @connects index channel deadline stopFirst drawn berth keeper intake rest answer present phase
      found answers connected here =>
    have greeted : berth.keeper.standing = .greeted := by rw [Keeper.standing, phase]
    obtain ⟨own, same, -, -, -, written⟩ :=
      (orderly.berths _ (List.mem_of_getElem? present)).of_greeted greeted
    obtain rfl : channel = own := Option.some.inj (here.symm.trans same)
    obtain ⟨entries, requests⟩ :=
      Registry.attach_of_open orderly.numbered.ids before.loads.length
    refine moored.connect present greeted connected here (Registry.writer_attach ..)
      (orderly.numbered.attach _ _) (joins _ _ _ _ ⟨?_, written, rfl, ?_, ?_⟩)
    · exact ⟨index, stopFirst, drawn, berth, intake, rest, deadline, answer, rfl, present, here,
        rfl, phase, found, answers⟩
    · exact Registry.list_attach _ _ _
    · rw [requests]
      exact congrArg (List.map Registry.request) entries.symm
  | @beats index desk _ _ berth keeper frames present connected still manned beats =>
    have fits := (orderly.berths _ (List.mem_of_getElem? present)).of_joined connected (.inl still)
    have stationed := moored.station present fits (.inl rfl) (fun _ => .inl ⟨still, rfl⟩)
      fun _ => ⟨connected, rfl⟩
    refine stationed.errand (fun frame member => beats frame member ▸ .beat) fun left => ?_
    exact left _ (mem_modify_self present) manned still
  | parts present connected leaving manned farewells =>
    exact moored.part present connected leaving manned rfl orderly.numbered.detach farewells
  | @leaves index _ _ berth keeper between present idle served free =>
    have presentStill : between.berths[index]? = some berth := by rw [served.berths, present]
    exact (moored.serve served).station presentStill (.idle idle rfl rfl) (.inr rfl)
      (fun connected => .inr (free connected)) fun connected => nomatch idle.symm.trans connected
  | takes present channel pending shorter =>
    exact quietly (moored.take present channel pending) (grown_reload present shorter)
  | @writes desk load chunk present writing =>
    have pending : load.pending = chunk :: Load.pending { load with chunk := none } := by
      rw [Load.pending, writing]
      rfl
    exact quietly (moored.write present rfl pending) (grown_reload present (Nat.le_refl _))
  | starts => exact quietly (moored.start rfl rfl rfl) (grown_of_loads rfl)

end Turns

end Harbor

end EventFeed
