/-
**What a session's writer is asked to write in between.**

While a session is connected, the consumer's calls, the callbacks and the server's frames do things
to the registry of subscriptions. What that comes to on the wire are errands: requests for
subscriptions and for their ends, what the consumer sends, and heart-beats. They wait for the writer
that the registry is attached to, behind what waits there already, and for no other.

`World.Serves` says this about two worlds, together with what is left alone: who keeps which channel
and which writer, and what was written. Most of what happens serves like this.

* `serves_handle`: a frame of the server, whatever the consumer's callbacks do about it;
* `serves_perform`: every effect of a keeper that is not made to change what it keeps.
-/

import EventFeed.Proofs.Monitor.Interleaving
import EventFeed.Proofs.Monitor.Outline
import EventFeed.Proofs.Subscription.Numbering

namespace EventFeed

open EventFeed.Time
open EventFeed.Wire (Frame)

/-- A frame that a session writes between its first requests and its farewell. -/
inductive IsErrand : Frame → Prop where
  | subscribe (wireName destination : String) :
      IsErrand (Registry.subscribeFrame wireName destination)
  | unsubscribe (wireName : String) : IsErrand (Registry.unsubscribeFrame wireName)
  | send (destination : String) (body : Document.Value) : IsErrand (World.parcel destination body)
  | beat : IsErrand .heartbeat

namespace Registry

variable {κ : Type}

theorem errands_flush (registry : Registry κ) (isOpen : Bool) (entry : Subscription κ) :
    ∀ frame ∈ (registry.flush isOpen entry).2, IsErrand frame := by
  cases isOpen with
  | false => exact nofun
  | true =>
    intro frame member
    rw [List.mem_singleton.mp member]
    exact .subscribe _ _

/-- A new subscription queues no more than the request for it. -/
theorem errands_subscribe {registry after : Registry κ} {isOpen : Bool} {destination : String}
    {callback : κ} {id : Nat} {frames : List Frame}
    (made : registry.subscribe isOpen destination callback = .ok (id, after, frames)) :
    ∀ frame ∈ frames, IsErrand frame := by
  obtain ⟨-, -, ⟨-, -, rfl⟩ | ⟨-, -, rfl⟩⟩ := subscribe_cases made
  · exact nofun
  · exact errands_flush _ _ _

/-- A removal queues no more than the request for the end of the subscription. -/
theorem errands_unsubscribe (registry : Registry κ) (isOpen : Bool) (id : Nat) :
    ∀ frame ∈ (registry.unsubscribe isOpen id).2.2, IsErrand frame := by
  unfold unsubscribe
  split
  · exact nofun
  · dsimp only
    split
    · exact nofun
    · split
      · intro frame member
        rw [List.mem_singleton.mp member]
        exact .unsubscribe _
      · exact nofun

end Registry

/-! ### What is kept of a world -/

/-- What a keeper keeps: its channel, and the writer of its session. -/
structure Berth where
  keeper : Keeper
  channel : Option Nat
  writer : Option Nat

def Tenure.berth (tenure : Tenure) : Berth :=
  ⟨tenure.keeper, tenure.channel, tenure.writer⟩

/-- What a writer has to write: its channel, the chunk that it is writing, and the frames that
wait. -/
structure Load where
  channel : Nat
  chunk : Option (List UInt8)
  queue : List Frame

def Load.push (frames : List Frame) (load : Load) : Load :=
  { load with queue := load.queue ++ frames }

@[simp] theorem Load.push_nil : Load.push [] = id := by
  funext load
  rw [Load.push, List.append_nil, id]

def Desk.load (desk : Desk) : Load :=
  ⟨desk.channel, desk.writer.chunk, desk.writer.queue⟩

/-- What was written to which channel, if this is something that was written. -/
def Occurrence.wrote? : Occurrence → Option (Nat × List UInt8)
  | .wrote channel chunk => some (channel, chunk)
  | _ => none

/-- What a world comes to for what is written: the keepers with what they keep, how many channels
there are, what the writers have to write, the registry, and what was written. -/
structure Harbor where
  settings : Settings
  berths : List Berth
  channels : Nat
  loads : List Load
  registry : Registry Consumer
  written : List (Nat × List UInt8)

namespace World

def harbor (world : World) : Harbor where
  settings := world.settings
  berths := world.tenures.map Tenure.berth
  channels := world.channels.length
  loads := world.desks.map Desk.load
  registry := world.registry
  written := world.log.toList.filterMap Occurrence.wrote?

end World

/-- Errands are queued for the writer that the registry is attached to, in the order in which they
come, and nothing else changes but the subscriptions. The registry may be detached. -/
structure Harbor.Serves (before after : Harbor) : Prop where
  settings : after.settings = before.settings
  berths : after.berths = before.berths
  channels : after.channels = before.channels
  written : after.written = before.written
  attached : after.registry.writer = before.registry.writer ∨ after.registry.writer = none
  numbered : before.registry.IsNumbered → after.registry.IsNumbered
  loads : ∀ index, ∃ frames, (∀ frame ∈ frames, IsErrand frame) ∧
    (frames ≠ [] → before.registry.writer = some index) ∧
    after.loads[index]? = before.loads[index]?.map (Load.push frames)

namespace Harbor

variable {before between after : Harbor}

theorem serves_refl (harbor : Harbor) : Serves harbor harbor := by
  refine ⟨rfl, rfl, rfl, rfl, .inl rfl, id, fun index => ⟨[], nofun, (absurd rfl ·), ?_⟩⟩
  rw [Load.push_nil, Option.map_id, id]

theorem Serves.trans (first : Serves before between) (second : Serves between after) :
    Serves before after where
  settings := second.settings.trans first.settings
  berths := second.berths.trans first.berths
  channels := second.channels.trans first.channels
  written := second.written.trans first.written
  attached := by
    rcases second.attached with same | free
    · rw [same]
      exact first.attached
    · exact .inr free
  numbered := fun numbered => second.numbered (first.numbered numbered)
  loads := fun index => by
    obtain ⟨early, earlyErrands, earlyWriter, pushed⟩ := first.loads index
    obtain ⟨late, lateErrands, lateWriter, pushedLater⟩ := second.loads index
    refine ⟨early ++ late, ?_, fun notEmpty => ?_, ?_⟩
    · intro frame member
      exact (List.mem_append.mp member).elim (earlyErrands frame) (lateErrands frame)
    · by_cases empty : late = []
      · exact earlyWriter fun emptyBefore => notEmpty (by rw [empty, emptyBefore]; rfl)
      · have attached := lateWriter empty
        rcases first.attached with same | free
        · rwa [← same]
        · rw [free] at attached
          cases attached
    · rw [pushedLater, pushed, Option.map_map]
      congr 1
      funext load
      simp [Load.push]

/-- Frames that wait for a writer, behind what waits for it. -/
def push (harbor : Harbor) (desk : Nat) (frames : List Frame) : Harbor :=
  { harbor with loads := harbor.loads.modify desk (Load.push frames) }

@[simp] theorem push_nil (harbor : Harbor) (desk : Nat) : harbor.push desk [] = harbor := by
  rw [push, Load.push_nil, List.modify_id]

theorem loads_push (harbor : Harbor) (desk : Nat) (frames : List Frame) (other : Nat) :
    (harbor.push desk frames).loads[other]? =
      harbor.loads[other]?.map (Load.push (if desk = other then frames else [])) := by
  rw [Harbor.push, List.getElem?_modify]
  by_cases here : desk = other
  · simp [here]
  · simp [here]

theorem serves_push (harbor : Harbor) {desk : Nat} {frames : List Frame}
    (errands : ∀ frame ∈ frames, IsErrand frame)
    (attached : frames ≠ [] → harbor.registry.writer = some desk) :
    Serves harbor (harbor.push desk frames) := by
  refine ⟨rfl, rfl, rfl, rfl, .inl rfl, id, fun other => ⟨_, ?_, ?_, loads_push _ _ _ other⟩⟩
  · by_cases here : desk = other
    · rwa [if_pos here]
    · rw [if_neg here]
      exact nofun
  · by_cases here : desk = other
    · rw [if_pos here, ← here]
      exact attached
    · rw [if_neg here]
      exact fun notEmpty => absurd rfl notEmpty

end Harbor

namespace World

/-- Whether a world serves another one. -/
def Serves (before after : World) : Prop :=
  before.harbor.Serves after.harbor

variable {before between after world : World}

theorem Serves.trans (first : before.Serves between) (second : between.Serves after) :
    before.Serves after :=
  Harbor.Serves.trans first second

/-- What is not in the harbor may change as it likes. -/
theorem serves_of_harbor (same : after.harbor = before.harbor) : before.Serves after := by
  unfold Serves
  rw [same]
  exact Harbor.serves_refl _

/-! ### What the consumer and the server do -/

theorem harbor_note (world : World) {occurrence : Occurrence}
    (unwritten : occurrence.wrote? = none) : (world.note occurrence).harbor = world.harbor := by
  simp [harbor, note, unwritten]

theorem harbor_notify (world : World) (notice : Notice) :
    (world.notify notice).harbor = world.harbor := by
  unfold notify
  split
  · exact harbor_note world rfl
  · rfl

theorem harbor_publish (world : World) (state : ConnectionState) :
    (world.publish state).harbor = world.harbor := by
  unfold publish
  split
  · rfl
  · exact harbor_notify _ _

theorem serves_note (world : World) {occurrence : Occurrence}
    (unwritten : occurrence.wrote? = none) : world.Serves (world.note occurrence) :=
  serves_of_harbor (harbor_note world unwritten)

theorem serves_notify (world : World) (notice : Notice) : world.Serves (world.notify notice) :=
  serves_of_harbor (harbor_notify world notice)

theorem serves_publish (world : World) (state : ConnectionState) :
    world.Serves (world.publish state) :=
  serves_of_harbor (harbor_publish world state)

/-- The subscriptions change, and nothing is queued. -/
theorem serves_registry (world : World) {registry : Registry Consumer}
    (attached : registry.writer = world.registry.writer ∨ registry.writer = none)
    (numbered : world.registry.IsNumbered → registry.IsNumbered) :
    world.Serves { world with registry } := by
  refine ⟨rfl, rfl, rfl, rfl, attached, numbered, fun index => ?_⟩
  refine ⟨[], nofun, fun notEmpty => absurd rfl notEmpty, ?_⟩
  rw [Load.push_nil, Option.map_id]
  rfl

theorem load_push (desk : Desk) (frames : List Frame) :
    Desk.load { desk with writer := desk.writer.push frames } =
      desk.load.push (if desk.writer.isOpen then frames else []) := by
  unfold Writer.push
  split
  · rfl
  · rw [Load.push_nil, id]

/-- Frames wait for the writer for which they are queued, if it still takes them. -/
theorem harbor_queue (world : World) (desk : Nat) (frames : List Frame) :
    (world.queue (some desk) frames).harbor =
      world.harbor.push desk (if world.takesFrames (some desk) then frames else []) := by
  have loads :
      (world.desks.modify desk fun held => { held with writer := held.writer.push frames }).map
        Desk.load = (world.desks.map Desk.load).modify desk
          (Load.push (if world.takesFrames (some desk) then frames else [])) := by
    refine List.ext_getElem? fun other => ?_
    by_cases here : desk = other
    · subst here
      rw [List.getElem?_map, List.getElem?_modify_eq, List.getElem?_modify_eq, List.getElem?_map]
      cases present : world.desks[desk]? with
      | none => rfl
      | some held =>
        have takes : world.takesFrames (some desk) = held.writer.isOpen := by
          simp [takesFrames, present]
        rw [takes]
        exact congrArg some (load_push held frames)
    · rw [List.getElem?_map, List.getElem?_modify_ne _ _ here, List.getElem?_modify_ne _ _ here,
        List.getElem?_map]
  unfold harbor queue atDesk Harbor.push
  dsimp only
  rw [loads]

/-- Errands are queued for the writer that the registry is attached to. -/
theorem serves_queue (world : World) {desk : Nat} {frames : List Frame}
    (attached : world.registry.writer = some desk) (errands : ∀ frame ∈ frames, IsErrand frame) :
    world.Serves (world.queue (some desk) frames) := by
  unfold Serves
  rw [harbor_queue]
  refine Harbor.serves_push _ ?_ fun _ => attached
  split
  · exact errands
  · exact nofun

/-- Errands are queued for the writer that the registry stays attached to. -/
theorem serves_withRegistry (world : World) {registry : Registry Consumer} {frames : List Frame}
    (sameWriter : registry.writer = world.registry.writer)
    (numbered : world.registry.IsNumbered → registry.IsNumbered)
    (errands : ∀ frame ∈ frames, IsErrand frame) :
    world.Serves (world.withRegistry registry frames) := by
  have changed := serves_registry world (.inl sameWriter) numbered
  unfold withRegistry
  cases held : registry.writer with
  | none => exact changed
  | some desk => exact changed.trans (serves_queue _ held errands)

theorem serves_subscribe (world : World) (consumer : Consumer) (destination : String) :
    world.Serves (world.subscribe consumer destination).2 := by
  unfold subscribe
  split
  · exact serves_of_harbor rfl
  · rename_i id registry frames made
    let named : World := { world with names := (consumer.name, id) :: world.names }
    have serves : named.Serves (named.withRegistry registry frames) :=
      serves_withRegistry named (Registry.writer_subscribe made)
        (fun numbered => numbered.subscribe made) (Registry.errands_subscribe made)
    exact (serves_of_harbor rfl : world.Serves named).trans serves

theorem serves_unsubscribe (world : World) (name : String) :
    world.Serves (world.unsubscribe name).2 := by
  unfold unsubscribe
  split
  · exact serves_of_harbor rfl
  · exact serves_withRegistry world (Registry.writer_unsubscribe _ _ _)
      (fun numbered => numbered.unsubscribe _ _) (Registry.errands_unsubscribe _ _ _)

theorem serves_send (world : World) (destination : String) (body : Except String Document.Value) :
    world.Serves (world.send destination body).2 := by
  unfold send
  split
  · exact serves_of_harbor rfl
  · split
    · exact serves_of_harbor rfl
    · cases body with
      | error cause => exact serves_of_harbor rfl
      | ok body =>
        dsimp only
        split
        · refine serves_withRegistry world rfl id fun frame member => ?_
          rw [List.mem_singleton.mp member]
          exact .send destination body
        · exact serves_of_harbor rfl

theorem serves_react (world : World) (consumer : Consumer) (event : Event) :
    world.Serves (world.react consumer event) := by
  have noted : world.Serves (world.note (.delivered consumer event)) := serves_note world rfl
  unfold react
  cases consumer.reaction with
  | ignore => exact serves_of_harbor rfl
  | note => exact noted
  | read names => exact noted
  | crash => exact noted.trans (serves_note _ rfl)
  | unsubscribe name => exact (noted.trans (serves_unsubscribe _ name)).trans (serves_note _ rfl)
  | reply destination =>
    exact (noted.trans (serves_send _ destination (.ok (Consumer.answer event)))).trans
      (serves_note _ rfl)
  | subscribe destination =>
    exact (noted.trans (serves_subscribe _ _ destination)).trans (serves_note _ rfl)

theorem serves_deliver (world : World) (frame : Frame) : world.Serves (world.deliver frame) := by
  have reacted : ∀ (targets : List (Subscription Consumer)) (event : Event) (before : World),
      before.Serves
        (targets.foldl (fun world target => world.react target.callback event) before) := by
    intro targets event
    induction targets with
    | nil => exact fun _ => serves_of_harbor rfl
    | cons target targets ih =>
      intro before
      exact (serves_react before target.callback event).trans (ih _)
  let result := Delivery.dispatch world.registry world.sequences frame
  have counted : world.Serves
      { world with sequences := Delivery.sequencesAfter world.sequences result } :=
    serves_of_harbor rfl
  unfold deliver
  dsimp only
  split
  · exact counted.trans (serves_note _ rfl)
  · exact counted
  · exact counted.trans (reacted _ _ _)

theorem serves_confirm (world : World) (frame : Frame) : world.Serves (world.confirm frame) := by
  unfold confirm
  dsimp only
  split
  · exact serves_of_harbor rfl
  · exact (serves_registry world (.inl (Registry.writer_confirm _ _))
      fun numbered => numbered.confirm _).trans (serves_notify _ _)

theorem serves_reject (world : World) (frame : Frame) : world.Serves (world.reject frame) := by
  unfold reject
  split
  · exact serves_of_harbor rfl
  · dsimp only
    split
    · exact serves_of_harbor rfl
    · exact (serves_registry world (.inl (Registry.writer_reject _ _))
        fun numbered => numbered.reject _).trans (serves_notify _ _)

/-- A frame of the server does no more than that, whatever the consumer's callbacks do about it. -/
theorem serves_handle (world : World) (frame : Frame) : world.Serves (world.handle frame) := by
  unfold handle
  split
  · exact serves_deliver world frame
  · exact serves_confirm world frame
  · exact serves_reject world frame
  · exact serves_of_harbor rfl

/-! ### What keepers do about what they do not keep -/

/-- What is not in a berth may change as it likes. -/
theorem serves_atTenure (world : World) (index : Nat) {change : Tenure → Tenure}
    (same : ∀ tenure, (change tenure).berth = tenure.berth) :
    world.Serves (world.atTenure index change) := by
  refine serves_of_harbor ?_
  have unchanged : ∀ tenure, (change tenure).berth = id tenure.berth := same
  have berths : (world.tenures.modify index change).map Tenure.berth =
      world.tenures.map Tenure.berth := by
    rw [map_modify unchanged, List.modify_id]
  unfold harbor atTenure
  rw [berths]

/-- What is no load may change as it likes. -/
theorem harbor_atDesk (world : World) (index : Nat) {change : Desk → Desk}
    (same : ∀ desk, (change desk).load = desk.load) :
    (world.atDesk index change).harbor = world.harbor := by
  have unchanged : ∀ desk, (change desk).load = id desk.load := same
  have loads : (world.desks.modify index change).map Desk.load = world.desks.map Desk.load := by
    rw [map_modify unchanged, List.modify_id]
  unfold harbor atDesk
  rw [loads]

theorem serves_atDesk (world : World) (index : Nat) {change : Desk → Desk}
    (same : ∀ desk, (change desk).load = desk.load) : world.Serves (world.atDesk index change) :=
  serves_of_harbor (harbor_atDesk world index same)

theorem serves_atChannel (world : World) (index : Nat) (change : Channel → Channel) :
    world.Serves (world.atChannel index change) := by
  refine serves_of_harbor ?_
  unfold harbor atChannel
  rw [List.length_modify]

theorem serves_dial (world : World) (index : Nat) (url : String) :
    world.Serves (world.dial index url) := by
  unfold dial
  dsimp only
  refine Serves.trans ?_ (serves_note _ rfl)
  exact (serves_of_harbor rfl : world.Serves
    { world with attempts := world.attempts + 1, plan := world.plan.tail }).trans
    (serves_atTenure _ index fun _ => rfl)

end World

/-- Whether an effect changes what a keeper keeps, or what is written for it. -/
def Effect.moors : Effect → Bool
  | .accept | .write _ | .appoint | .attach | .queue _ | .release => true
  | _ => false

namespace World

/-- Every other effect serves. -/
theorem serves_perform (index : Nat) (world : World) {effect : Effect}
    (unmoored : effect.moors = false) : world.Serves (perform index world effect) := by
  have same : world.Serves world := serves_of_harbor rfl
  unfold perform
  split
  · exact same
  · cases effect <;> dsimp only <;> first
      | contradiction
      | exact same
      | exact serves_publish world _
      | exact serves_notify world _
      | exact serves_dial world index _
      | exact serves_note world rfl
      | exact serves_handle world _
      | exact serves_registry world (.inr rfl) fun numbered => numbered.detach
      | (split <;> first
          | exact same
          | exact serves_atChannel world _ _
          | exact serves_atDesk world _ fun _ => rfl
          | exact serves_atDesk world _ fun desk => by
              unfold Desk.load Writer.abort
              split <;> rfl)

/-- **Effects that change nothing of what a keeper keeps serve.** -/
theorem serves_foldl_perform (index : Nat) (world : World) {effects : List Effect}
    (unmoored : effects.any Effect.moors = false) :
    world.Serves (effects.foldl (perform index) world) := by
  induction effects generalizing world with
  | nil => exact serves_of_harbor rfl
  | cons effect effects ih =>
    rw [List.any_cons, Bool.or_eq_false_iff] at unmoored
    exact (serves_perform index world unmoored.1).trans (ih _ unmoored.2)

/-! ### Stops -/

theorem serves_settleOwnership (world : World) : world.Serves world.settleOwnership := by
  unfold settleOwnership
  split
  · exact serves_of_harbor rfl
  · split
    · exact serves_of_harbor rfl
    · exact (serves_of_harbor rfl : world.Serves { world with slot := none }).trans
        (serves_atTenure _ _ fun _ => rfl)

theorem serves_stopReturns (world : World) (index : Nat) (result : Except MonitorError Unit) :
    world.Serves (world.stopReturns index result) := by
  unfold stopReturns
  dsimp only
  refine Serves.trans ?_ (serves_settleOwnership _)
  exact (serves_of_harbor rfl : world.Serves
    { world with stops := world.stops.set index .returned }).trans (serves_note _ rfl)

theorem serves_stopStep {world after : World} {index : Nat}
    (moved : world.stopStep? index = some after) :
    world.Serves after := by
  rcases stopStep_cases moved with ⟨keeper, rfl⟩ | ⟨before, result, rfl | rfl, rfl⟩
  · exact (serves_of_harbor rfl : world.Serves { world with
      slot := none, stops := world.stops.set index (.waiting keeper) }).trans
      (serves_atTenure _ keeper fun _ => rfl)
  · exact serves_stopReturns _ index result
  · exact (serves_publish world _).trans (serves_stopReturns _ index result)

end World

/-! ### Moves -/

/-- Whether a move is that of a keeper or of a writer, or a start. -/
def Move.moors : Move → Bool
  | .keeper _ _ _ | .writer _ | .start _ _ => true
  | _ => false

namespace World

theorem serves_ifHeld {world after : World} (serves : world.Serves after) :
    world.Serves (world.ifHeld after) := by
  unfold ifHeld
  split
  · exact serves
  · exact serves_of_harbor rfl

/-- **Every other move serves.** -/
theorem serves_act (world : World) {move : Move} (unmoored : move.moors = false) :
    world.Serves (world.act move) := by
  cases move with
  | keeper => cases unmoored
  | writer => cases unmoored
  | start => cases unmoored
  | stopping index =>
    rw [act]
    cases moved : world.stopStep? index with
    | none => exact serves_of_harbor rfl
    | some after => exact serves_stopStep moved
  | letGo =>
    refine serves_ifHeld ?_
    exact (serves_of_harbor rfl : world.Serves { world with held := false }).trans
      (serves_settleOwnership _)
  | subscribe consumer destination => exact serves_ifHeld (serves_subscribe _ _ _)
  | unsubscribe name => exact serves_ifHeld (serves_unsubscribe _ _)
  | send destination body => exact serves_ifHeld (serves_send _ _ _)
  | stop => exact serves_ifHeld (serves_of_harbor rfl)
  | receive channel arrival =>
    show world.Serves (world.receive channel arrival).2
    unfold receive
    split
    · exact serves_of_harbor rfl
    · exact serves_atChannel world _ _
  | finishChannel channel =>
    show world.Serves (world.finishChannel channel).2
    unfold finishChannel
    split
    · exact serves_of_harbor rfl
    · exact serves_atChannel world _ _
  | changeSink channel sink => exact serves_atChannel world _ _
  | planMore outcomes => exact serves_of_harbor rfl
  | takeNotices => exact serves_of_harbor rfl
  | closeMailbox => exact serves_of_harbor rfl
  | pass nanos => exact serves_of_harbor rfl

end World

end EventFeed
