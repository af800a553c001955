/-
**What changes the list of subscriptions.**

The consumer subscribes and gives up its subscriptions by calls of its own, some of them made by its
callbacks about an event, and the server may refuse a subscription that it has not confirmed. These
are edits of the list of subscriptions. `World.edits` tells which of them a move makes, and nothing
else that happens has a part in the list.

What belongs to a session is in the registry only while it is attached, whatever happens.

* `edited_act`: what one move does to the list;
* `edited_play`: the list of subscriptions is what the edits of an interleaving make of it.
-/

import EventFeed.Proofs.Monitor.Fanout
import EventFeed.Proofs.Monitor.Moorings
import EventFeed.Proofs.Subscription.Detachment

namespace EventFeed

open EventFeed.Time
open EventFeed.Wire (Frame)

/-! ### Edits -/

/-- Something that is done to the list of subscriptions: the consumer subscribes under a name, or
gives up what it subscribed to last under a name, or the server refuses a subscription. -/
inductive Edit where
  | subscribe (name destination : String)
  | unsubscribe (name : String)
  | refuse (id : Nat)
  deriving DecidableEq

/-- The numbers and destinations of the subscriptions, how many were made, and the consumer's names
of them, the latest first. -/
structure Roster where
  list : List (Nat × String)
  made : Nat
  names : List (String × Nat)
  deriving DecidableEq

namespace Roster

/-- The roster without the subscription of a number. -/
def strike (roster : Roster) (id : Nat) : Roster :=
  { roster with list := roster.list.filter fun pair => pair.1 ≠ id }

def edit (roster : Roster) : Edit → Roster
  | .subscribe name destination =>
    if Text.allBlank destination then roster
    else ⟨roster.list ++ [(roster.made, destination)], roster.made + 1,
      (name, roster.made) :: roster.names⟩
  | .unsubscribe name => ((roster.names.lookup name).map roster.strike).getD roster
  | .refuse id => roster.strike id

end Roster

/-- The edit that a callback makes about an event, if it makes one. -/
def Consumer.edit? (consumer : Consumer) (event : Event) : Option Edit :=
  match consumer.reaction with
  | .unsubscribe name => some (.unsubscribe name)
  | .subscribe destination => some (.subscribe (consumer.child event) destination)
  | .ignore | .note | .read _ | .crash | .reply _ => none

/-- The edits that callbacks make when a message is delivered to them. -/
def Delivery.edits (result : Except PayloadError (Option (Delivery Consumer))) : List Edit :=
  (delivered? result).toList.flatMap fun delivery =>
    delivery.targets.filterMap fun target => target.callback.edit? delivery.event

namespace World

def roster (world : World) : Roster where
  list := world.registry.list
  made := world.registry.made
  names := world.names

/-- The edits that a frame of the server comes to: those of the callbacks that a message reaches,
and the refusal of the subscription that an error is about, if the server has not confirmed it. -/
def frameEdits (world : World) (frame : Frame) : List Edit :=
  match frame.command with
  | .message => Delivery.edits (Delivery.dispatch world.registry world.sequences frame)
  | .error =>
    ((frame.header? Wire.Header.receiptId).bind world.registry.unconfirmed?).toList.map
      fun entry => .refuse entry.id
  | _ => []

/-- The edits that are made while a keeper does something. -/
def effectEdits (index : Nat) (world : World) (effect : Effect) : List Edit :=
  match world.tenures[index]?, effect with
  | some _, .handle frame => world.frameEdits frame
  | _, _ => []

def effectsEdits (index : Nat) (world : World) : List Effect → List Edit
  | [] => []
  | effect :: effects =>
    world.effectEdits index effect ++ effectsEdits index (perform index world effect) effects

/-- The edits that a move makes. -/
def edits (world : World) : Move → List Edit
  | .keeper index stopFirst drawn =>
    (world.keeperMoveBy? index stopFirst drawn).toList.flatMap fun step =>
      (world.turned index step.1).effectsEdits index step.2
  | .subscribe consumer destination =>
    if world.held then [.subscribe consumer.name destination] else []
  | .unsubscribe name => if world.held then [.unsubscribe name] else []
  | _ => []

/-- The edits that are made in an interleaving, in order. -/
def editsAlong (world : World) : List Move → List Edit
  | [] => []
  | move :: moves => world.edits move ++ (world.act move).editsAlong moves

/-- The list of subscriptions is what the given edits make of the one before, and a detached
registry has nothing of a session if it had nothing of one before. -/
structure Edited (edits : List Edit) (before after : World) : Prop where
  roster : after.roster = edits.foldl Roster.edit before.roster
  tidy : before.registry.IsTidy → after.registry.IsTidy

variable {before between after world : World} {first second : List Edit}

theorem Edited.trans (early : Edited first before between) (late : Edited second between after) :
    Edited (first ++ second) before after where
  roster := by rw [late.roster, early.roster, List.foldl_append]
  tidy := late.tidy ∘ early.tidy

/-- What leaves the subscriptions and their names alone makes no edit. -/
theorem edited_of_same (registry : after.registry = before.registry)
    (names : after.names = before.names) : Edited [] before after where
  roster := by rw [World.roster, registry, names]; rfl
  tidy := registry ▸ id

theorem edited_refl (world : World) : Edited [] world world :=
  edited_of_same rfl rfl

/-! ### What the consumer and the server do -/

theorem edited_note (world : World) (occurrence : Occurrence) :
    Edited [] world (world.note occurrence) :=
  edited_of_same rfl rfl

theorem edited_notify (world : World) (notice : Notice) :
    Edited [] world (world.notify notice) := by
  unfold notify
  split <;> exact edited_of_same rfl rfl

theorem edited_publish (world : World) (state : ConnectionState) :
    Edited [] world (world.publish state) := by
  unfold publish
  split
  · exact edited_refl world
  · have changed : Edited [] world { world with state } := edited_of_same rfl rfl
    exact changed.trans (edited_notify _ _)

theorem edited_queue (world : World) (index : Option Nat) (frames : List Frame) :
    Edited [] world (world.queue index frames) := by
  unfold queue
  split <;> exact edited_of_same rfl rfl

theorem edited_send (world : World) (destination : String)
    (body : Except String Document.Value) : Edited [] world (world.send destination body).2 := by
  unfold send
  split
  · exact edited_refl world
  · split
    · exact edited_refl world
    · cases body with
      | error cause => exact edited_refl world
      | ok body =>
        dsimp only
        split
        · exact edited_queue _ _ _
        · exact edited_refl world

/-- A subscription is made, unless its destination is blank. -/
theorem edited_subscribe (world : World) (consumer : Consumer) (destination : String) :
    Edited [.subscribe consumer.name destination] world
      (world.subscribe consumer destination).2 := by
  unfold subscribe
  split
  · rename_i refused
    refine ⟨?_, id⟩
    have blank : Text.allBlank destination = true := Registry.allBlank_of_subscribe refused
    rw [List.foldl_cons, List.foldl_nil, Roster.edit, if_pos blank]
  · rename_i id registry frames made
    obtain ⟨own, list⟩ := Registry.list_subscribe made
    obtain ⟨notBlank, count⟩ := Registry.made_subscribe made
    have changed : Edited [.subscribe consumer.name destination] world
        { world with registry, names := (consumer.name, id) :: world.names } := by
      refine ⟨?_, fun tidy => tidy.subscribe made⟩
      rw [List.foldl_cons, List.foldl_nil, Roster.edit, if_neg notBlank]
      show Roster.mk _ _ _ = _
      rw [list, count, own]
      rfl
    exact changed.trans (edited_queue _ _ _)

theorem edited_unsubscribe (world : World) (name : String) :
    Edited [.unsubscribe name] world (world.unsubscribe name).2 := by
  unfold unsubscribe
  split
  · rename_i unknown
    refine ⟨?_, id⟩
    rw [List.foldl_cons, List.foldl_nil, Roster.edit]
    show _ = ((world.names.lookup name).map _).getD _
    rw [unknown]
    rfl
  · rename_i id known
    let registry := (world.registry.unsubscribe world.isAttached id).2.1
    have changed : Edited [.unsubscribe name] world { world with registry } := by
      refine ⟨?_, fun tidy => tidy.unsubscribe _ id⟩
      rw [List.foldl_cons, List.foldl_nil, Roster.edit]
      show Roster.mk registry.list registry.made world.names =
        ((world.names.lookup name).map _).getD _
      rw [known, Registry.list_unsubscribe, Registry.made_unsubscribe]
      rfl
    exact changed.trans (edited_queue _ _ _)

/-- A callback makes its edit, whatever else it does. -/
theorem edited_react (world : World) (consumer : Consumer) (event : Event) :
    Edited (consumer.edit? event).toList world (world.react consumer event) := by
  have noted := edited_note world (.delivered consumer event)
  unfold react Consumer.edit?
  cases consumer.reaction with
  | ignore => exact edited_refl world
  | note => exact noted
  | read names => exact noted
  | crash => exact noted.trans (edited_note _ _)
  | unsubscribe name => exact (noted.trans (edited_unsubscribe _ name)).trans (edited_note _ _)
  | reply destination =>
    exact (noted.trans (edited_send _ destination (.ok (Consumer.answer event)))).trans
      (edited_note _ _)
  | subscribe destination =>
    exact (noted.trans (edited_subscribe _ ⟨consumer.child event, .ignore⟩ destination)).trans
      (edited_note _ _)

theorem edited_foldl_react (world : World) (targets : List (Subscription Consumer))
    (event : Event) :
    Edited (targets.filterMap fun target => target.callback.edit? event) world
      (targets.foldl (fun world target => world.react target.callback event) world) := by
  induction targets generalizing world with
  | nil => exact edited_refl world
  | cons target targets ih =>
    have head := edited_react world target.callback event
    have whole := head.trans (ih (world.react target.callback event))
    rw [List.filterMap_cons]
    cases edit : target.callback.edit? event <;> rw [edit] at whole <;> exact whole

theorem edited_deliver (world : World) (frame : Frame) :
    Edited (Delivery.edits (Delivery.dispatch world.registry world.sequences frame)) world
      (world.deliver frame) := by
  unfold deliver
  dsimp only
  split
  · rename_i failed
    rw [failed]
    exact (edited_of_same rfl rfl).trans (edited_note _ _)
  · rename_i nothing
    rw [nothing]
    exact edited_of_same rfl rfl
  · rename_i delivery delivered
    let sequences := Delivery.sequencesAfter world.sequences (.ok (some delivery))
    have counted : Edited [] world { world with sequences } := edited_of_same rfl rfl
    have reacted := counted.trans (edited_foldl_react _ delivery.targets delivery.event)
    rw [delivered, Delivery.edits, Delivery.delivered?, Option.toList_some, List.flatMap_singleton]
    exact reacted

theorem edited_confirm (world : World) (frame : Frame) :
    Edited [] world (world.confirm frame) := by
  unfold confirm
  dsimp only
  split
  · exact edited_refl world
  · have changed : ∀ receipt, Edited [] world
        { world with registry := (world.registry.confirm receipt).2 } := by
      refine fun receipt => ⟨?_, fun tidy => tidy.confirm receipt⟩
      show Roster.mk _ _ _ = _
      rw [Registry.list_confirm, Registry.made_confirm]
      rfl
    exact (changed _).trans (edited_notify _ _)

/-- The subscription that the server refuses is removed, if there is one. -/
theorem edited_reject (world : World) (frame : Frame) :
    Edited (((frame.header? Wire.Header.receiptId).bind world.registry.unconfirmed?).toList.map
      fun entry => .refuse entry.id) world (world.reject frame) := by
  unfold reject
  split
  · rename_i unsaid
    rw [unsaid]
    exact edited_refl world
  · rename_i receipt said
    have list := Registry.list_reject world.registry receipt
    have made := Registry.made_reject world.registry receipt
    rw [said, Option.bind_some]
    dsimp only
    cases about : world.registry.unconfirmed? receipt with
    | none =>
      rw [Registry.reject, about]
      exact edited_refl world
    | some entry =>
      have found : (world.registry.reject receipt).1 = some entry := by
        rw [Registry.reject, about]
      rw [about] at list
      rw [found]
      have changed : Edited [.refuse entry.id] world
          { world with registry := (world.registry.reject receipt).2 } := by
        refine ⟨?_, fun tidy => tidy.reject receipt⟩
        show Roster.mk _ _ _ = _
        rw [list, made]
        rfl
      exact changed.trans (edited_notify _ _)

/-- A frame of the server makes the edits that it comes to. -/
theorem edited_handle (world : World) (frame : Frame) :
    Edited (world.frameEdits frame) world (world.handle frame) := by
  unfold handle frameEdits
  cases frame.command with
  | message => exact edited_deliver world frame
  | receipt => exact edited_confirm world frame
  | error => exact edited_reject world frame
  | _ => exact edited_refl world

/-! ### Moves -/

theorem edited_perform (index : Nat) (world : World) (effect : Effect) :
    Edited (world.effectEdits index effect) world (perform index world effect) := by
  unfold perform effectEdits
  cases world.tenures[index]? with
  | none => exact edited_refl world
  | some tenure =>
    cases effect with
    | publish state => exact edited_publish world state
    | notify notice => exact edited_notify world notice
    | accept =>
      dsimp only
      unfold accept
      split <;> exact edited_of_same rfl rfl
    | appoint =>
      dsimp only
      unfold appoint
      split <;> exact edited_of_same rfl rfl
    | attach =>
      dsimp only
      unfold attach
      split
      · exact edited_refl world
      · rename_i writer _
        have changed : ∀ isOpen, Edited [] world
            { world with registry := (world.registry.attach isOpen writer).1 } := by
          refine fun isOpen => ⟨?_, fun _ => Registry.isTidy_attach _ _ _⟩
          show Roster.mk _ _ _ = _
          rw [Registry.list_attach, Registry.attach, Registry.made_flushAll]
          rfl
        exact (changed _).trans (edited_queue _ _ _)
    | detach =>
      refine ⟨?_, fun _ _ => Registry.isBare_detach world.registry⟩
      show Roster.mk _ _ _ = _
      rw [Registry.list_detach]
      rfl
    | handle frame => exact edited_handle world frame
    | queue frame => exact edited_queue world _ _
    | take | dismiss | abort =>
      dsimp only
      split <;> exact edited_of_same rfl rfl
    | release =>
      dsimp only
      cases tenure.channel <;> exact edited_of_same rfl rfl
    | happened | dial | write | close => exact edited_of_same rfl rfl

theorem edited_foldl_perform (index : Nat) (world : World) (effects : List Effect) :
    Edited (effectsEdits index world effects) world (effects.foldl (perform index) world) := by
  induction effects generalizing world with
  | nil => exact edited_refl world
  | cons effect effects ih => exact (edited_perform index world effect).trans (ih _)

theorem edited_settleOwnership (world : World) : Edited [] world world.settleOwnership := by
  unfold settleOwnership
  split
  · exact edited_refl world
  · split <;> exact edited_of_same rfl rfl

theorem edited_stopReturns (world : World) (index : Nat) (result : Except MonitorError Unit) :
    Edited [] world (world.stopReturns index result) := by
  unfold stopReturns
  have returned : Edited [] world
      (World.note { world with stops := world.stops.set index .returned }
        (.stopped (index + 1) result)) := edited_of_same rfl rfl
  exact returned.trans (edited_settleOwnership _)

theorem edited_stopStep {index : Nat} (moved : world.stopStep? index = some after) :
    Edited [] world after := by
  rcases stopStep_cases moved with ⟨keeper, rfl⟩ | ⟨between, result, rfl | rfl, rfl⟩
  · exact edited_of_same rfl rfl
  · exact edited_stopReturns between index result
  · exact (edited_publish world _).trans (edited_stopReturns _ index result)

theorem edited_writerStep {index : Nat} (moved : world.writerStep? index = some after) :
    Edited [] world after := by
  unfold writerStep? at moved
  simp only [Option.bind_eq_bind, Option.bind_eq_some_iff, Option.some.injEq] at moved
  obtain ⟨desk, -, channel, -, ⟨writer, act⟩, -, rfl⟩ := moved
  dsimp only
  split <;> exact edited_of_same rfl rfl

/-- What the consumer can do only as long as it has the monitor makes its edits only then. -/
theorem edited_ifHeld {edits : List Edit} (edited : Edited edits world after) :
    Edited (if world.held then edits else []) world (world.ifHeld after) := by
  unfold ifHeld
  split
  · exact edited
  · exact edited_refl world

/-- **What one move does to the list of subscriptions** are its edits. -/
theorem edited_act (world : World) (move : Move) :
    Edited (world.edits move) world (world.act move) := by
  have quiet : ∀ {after : World}, Edited [] world after → Edited [] world (world.ifHeld after) := by
    intro after edited
    have held := edited_ifHeld edited
    rwa [ite_self] at held
  cases move with
  | keeper index stopFirst drawn =>
    rw [act, edits]
    cases world.keeperMoveBy? index stopFirst drawn with
    | none => exact edited_refl world
    | some step =>
      rw [Option.toList_some, List.flatMap_singleton]
      have turned : Edited [] world (world.turned index step.1) := edited_of_same rfl rfl
      have performed := turned.trans (edited_foldl_perform index _ step.2)
      exact ⟨performed.roster, performed.tidy⟩
  | writer index =>
    rw [act]
    cases moved : world.writerStep? index with
    | none => exact edited_refl world
    | some after => exact edited_writerStep moved
  | stopping index =>
    rw [act]
    cases moved : world.stopStep? index with
    | none => exact edited_refl world
    | some after => exact edited_stopStep moved
  | start endpoint credentials =>
    refine quiet ?_
    unfold start
    split <;> exact edited_of_same rfl rfl
  | stop => exact quiet (edited_of_same rfl rfl)
  | letGo =>
    have released : Edited [] world { world with held := false } := edited_of_same rfl rfl
    exact quiet (released.trans (edited_settleOwnership _))
  | subscribe consumer destination => exact edited_ifHeld (edited_subscribe _ _ _)
  | unsubscribe name => exact edited_ifHeld (edited_unsubscribe _ _)
  | send destination body => exact quiet (edited_send _ _ _)
  | receive channel arrival =>
    show Edited [] world (world.receive channel arrival).2
    unfold receive
    split <;> exact edited_of_same rfl rfl
  | finishChannel channel =>
    show Edited [] world (world.finishChannel channel).2
    unfold finishChannel
    split <;> exact edited_of_same rfl rfl
  | changeSink | planMore | takeNotices | closeMailbox | pass => exact edited_of_same rfl rfl

/-- **The list of subscriptions is what the edits of an interleaving make of it.** -/
theorem edited_play (world : World) (moves : List Move) :
    Edited (world.editsAlong moves) world (world.play moves) := by
  induction moves generalizing world with
  | nil => exact edited_refl world
  | cons move moves ih => exact (edited_act world move).trans (ih (world.act move))

end World

end EventFeed
