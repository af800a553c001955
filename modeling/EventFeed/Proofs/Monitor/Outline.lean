/-
**The outline of a world.**

Who runs on behalf of a monitor, which writer the registry is attached to, and what state is
published: this is the outline of a world, and most of what happens leaves it alone. What a keeper
does changes no other keeper; its effects change the writer of its own session, the attachment of
the registry and the published state, and only those made for that do so.

* `outline_handle`: a frame of the server leaves the outline alone, whatever the consumer's
  callbacks do about it;
* `outline_perform`: so does every effect that is not made to change it;
* `outline_foldl_perform`: what a list of effects may change, and who stays as they are.
-/

import EventFeed.Monitor.Control
import EventFeed.Proofs.Monitor.Course
import EventFeed.Proofs.Subscription.Bookkeeping

namespace EventFeed

open EventFeed.Time
open EventFeed.Wire (Frame)

/-- The outline of a world: whether the consumer has the monitor, the keeper that a stop would take,
the calls to stop, the keepers and the writers of their sessions, the writer that the registry is
attached to, and the published state. -/
structure Outline where
  held : Bool
  slot : Option Nat
  stops : List StopStage
  keepers : List Keeper
  writers : List (Option Nat)
  attached : Option Nat
  state : ConnectionState

namespace World

/-- The outline of a world. -/
def outline (world : World) : Outline where
  held := world.held
  slot := world.slot
  stops := world.stops
  keepers := world.tenures.map Tenure.keeper
  writers := world.tenures.map Tenure.writer
  attached := world.registry.writer
  state := world.state

/-! ### What leaves the outline alone -/

@[simp] theorem outline_note (world : World) (occurrence : Occurrence) :
    (world.note occurrence).outline = world.outline :=
  rfl

@[simp] theorem outline_notify (world : World) (notice : Notice) :
    (world.notify notice).outline = world.outline := by
  unfold notify
  split <;> rfl

/-- What is published is the state from then on, and nothing else changes. -/
@[simp] theorem outline_publish (world : World) (state : ConnectionState) :
    (world.publish state).outline = { world.outline with state } := by
  unfold publish
  split
  · rename_i same
    rw [← same]
    rfl
  · rw [outline_notify]
    rfl

@[simp] theorem outline_queue (world : World) (index : Option Nat) (frames : List Frame) :
    (world.queue index frames).outline = world.outline := by
  unfold queue
  split <;> rfl

/-- A registry that stays attached to its writer leaves the outline alone. -/
theorem outline_withRegistry {world : World} {registry : Registry Consumer}
    (sameWriter : registry.writer = world.registry.writer) (frames : List Frame) :
    (world.withRegistry registry frames).outline = world.outline := by
  unfold withRegistry
  rw [outline_queue]
  unfold outline
  rw [sameWriter]

@[simp] theorem outline_subscribe (world : World) (consumer : Consumer) (destination : String) :
    (world.subscribe consumer destination).2.outline = world.outline := by
  unfold subscribe
  split
  · rfl
  · rename_i id registry frames made
    let named : World := { world with names := (consumer.name, id) :: world.names }
    have sameWriter : registry.writer = named.registry.writer := Registry.writer_subscribe made
    exact (outline_withRegistry sameWriter frames).trans rfl

@[simp] theorem outline_unsubscribe (world : World) (name : String) :
    (world.unsubscribe name).2.outline = world.outline := by
  unfold unsubscribe
  split
  · rfl
  · exact outline_withRegistry (Registry.writer_unsubscribe _ _ _) _

@[simp] theorem outline_send (world : World) (destination : String)
    (body : Except String Document.Value) :
    (world.send destination body).2.outline = world.outline := by
  unfold send
  split
  · rfl
  · split
    · rfl
    · cases body with
      | error cause => rfl
      | ok body =>
        dsimp only
        split
        · exact outline_queue _ _ _
        · rfl

@[simp] theorem outline_react (world : World) (consumer : Consumer) (event : Event) :
    (world.react consumer event).outline = world.outline := by
  unfold react
  cases consumer.reaction <;> simp

@[simp] theorem outline_deliver (world : World) (frame : Frame) :
    (world.deliver frame).outline = world.outline := by
  have reacted : ∀ (targets : List (Subscription Consumer)) (event : Event) (before : World),
      (targets.foldl (fun world target => world.react target.callback event) before).outline =
        before.outline := by
    intro targets event
    induction targets with
    | nil => exact fun _ => rfl
    | cons target targets ih =>
      intro before
      rw [List.foldl_cons, ih, outline_react]
  unfold deliver
  dsimp only
  split
  · rfl
  · rfl
  · rw [reacted]
    rfl

@[simp] theorem outline_confirm (world : World) (frame : Frame) :
    (world.confirm frame).outline = world.outline := by
  unfold confirm
  dsimp only
  split
  · rfl
  · rw [outline_notify]
    unfold outline
    rw [Registry.writer_confirm]

@[simp] theorem outline_reject (world : World) (frame : Frame) :
    (world.reject frame).outline = world.outline := by
  unfold reject
  split
  · rfl
  · dsimp only
    split
    · rfl
    · rw [outline_notify]
      unfold outline
      rw [Registry.writer_reject]

/-- A frame of the server leaves the outline alone, whatever the consumer's callbacks do. -/
@[simp] theorem outline_handle (world : World) (frame : Frame) :
    (world.handle frame).outline = world.outline := by
  unfold handle
  split <;> simp

@[simp] theorem outline_atChannel (world : World) (index : Nat) (change : Channel → Channel) :
    (world.atChannel index change).outline = world.outline :=
  rfl

@[simp] theorem outline_setAlarms (world : World) (index : Nat) :
    (world.setAlarms index).outline = world.outline :=
  rfl

@[simp] theorem outline_receive (world : World) (index : Nat) (arrival : Arrival) :
    (world.receive index arrival).2.outline = world.outline := by
  unfold receive
  split <;> rfl

@[simp] theorem outline_finishChannel (world : World) (index : Nat) :
    (world.finishChannel index).2.outline = world.outline := by
  unfold finishChannel
  split <;> rfl

/-- A writer's step leaves the outline alone. -/
theorem outline_writerStep {world after : World} {index : Nat}
    (moved : world.writerStep? index = some after) : after.outline = world.outline := by
  unfold writerStep? at moved
  simp only [Option.bind_eq_bind, Option.bind_eq_some_iff, Option.some.injEq] at moved
  obtain ⟨desk, -, channel, -, ⟨writer, act⟩, -, rfl⟩ := moved
  dsimp only
  split <;> rfl

/-! ### What changes a keeper's surroundings -/

/-- A part of what is changed in a list changes as the whole does. -/
theorem map_modify {α β : Type} {part : α → β} {change : α → α} {partChange : β → β}
    (changes : ∀ whole, part (change whole) = partChange (part whole)) (index : Nat)
    (wholes : List α) :
    (wholes.modify index change).map part = (wholes.map part).modify index partChange := by
  induction wholes generalizing index with
  | nil => simp
  | cons whole wholes ih =>
    cases index with
    | zero => simp [changes]
    | succ index => simp [ih]

/-- The outline when one keeper's surroundings change. -/
theorem outline_atTenure (change : Tenure → Tenure) (keeperChange : Keeper → Keeper)
    (writerChange : Option Nat → Option Nat)
    (keeperChanges : ∀ tenure, (change tenure).keeper = keeperChange tenure.keeper)
    (writerChanges : ∀ tenure, (change tenure).writer = writerChange tenure.writer)
    (world : World) (index : Nat) :
    (world.atTenure index change).outline =
      { world.outline with
        keepers := world.outline.keepers.modify index keeperChange
        writers := world.outline.writers.modify index writerChange } := by
  unfold outline atTenure
  rw [map_modify keeperChanges, map_modify writerChanges]

/-- The outline when another keeper stands in the place of one. -/
theorem outline_replace (world : World) (index : Nat) (keeper : Keeper) :
    (world.atTenure index fun tenure => { tenure with keeper }).outline =
      { world.outline with keepers := world.outline.keepers.modify index fun _ => keeper } := by
  refine (outline_atTenure _ (fun _ => keeper) id ?_ ?_ world index).trans ?_
  · exact fun _ => rfl
  · exact fun _ => rfl
  · rw [List.modify_id]

/-- The outline when the writer of a keeper's session is another. -/
theorem outline_reseat (change : Tenure → Tenure) (writer : Option Nat)
    (sameKeeper : ∀ tenure, (change tenure).keeper = tenure.keeper)
    (reseats : ∀ tenure, (change tenure).writer = writer) (world : World) (index : Nat) :
    (world.atTenure index change).outline =
      { world.outline with writers := world.outline.writers.modify index fun _ => writer } := by
  rw [outline_atTenure change id (fun _ => writer) sameKeeper reseats, List.modify_id]

/-- What else surrounds a keeper is not in the outline. -/
theorem outline_surroundings (change : Tenure → Tenure)
    (sameKeeper : ∀ tenure, (change tenure).keeper = tenure.keeper)
    (sameWriter : ∀ tenure, (change tenure).writer = tenure.writer) (world : World)
    (index : Nat) : (world.atTenure index change).outline = world.outline := by
  rw [outline_atTenure change id id sameKeeper sameWriter, List.modify_id, List.modify_id]

@[simp] theorem outline_dial (world : World) (index : Nat) (url : String) :
    (world.dial index url).outline = world.outline := by
  unfold dial
  dsimp only
  rw [outline_note]
  refine (outline_surroundings _ ?_ ?_ _ index).trans rfl <;> exact fun _ => rfl

@[simp] theorem outline_accept (world : World) (index : Nat) (attempt : Option Attempt) :
    (world.accept index attempt).outline = world.outline := by
  unfold accept
  split
  · refine (outline_surroundings _ ?_ ?_ _ index).trans rfl <;> exact fun _ => rfl
  · rfl

@[simp] theorem outline_cancel (world : World) (index : Nat) :
    (world.cancel index).outline = world.outline := by
  refine outline_surroundings _ ?_ ?_ world index <;> exact fun _ => rfl

end World

/-! ### Effects -/

/-- What the effects of a keeper's step may change in an outline, and what they leave as it is. -/
structure Outline.Alters (index : Nat) (effects : List Effect) (before after : Outline) : Prop where
  held : after.held = before.held
  slot : after.slot = before.slot
  stops : after.stops = before.stops
  keepers : after.keepers = before.keepers
  seats : after.writers.length = before.writers.length
  others : ∀ other, other ≠ index → after.writers[other]? = before.writers[other]?
  writers : effects.any Effect.seats = false → after.writers = before.writers
  attached : effects.any Effect.binds = false → after.attached = before.attached
  detached : index < before.keepers.length → .attach ∉ effects → .detach ∈ effects →
    after.attached = none
  state : effects.any Effect.publishes = false → after.state = before.state

/-- Effects that detach nothing may change nothing. -/
theorem Outline.alters_of_same (index : Nat) {effects : List Effect} (never : .detach ∉ effects)
    (outline : Outline) : Alters index effects outline outline :=
  ⟨rfl, rfl, rfl, rfl, rfl, fun _ _ => rfl, fun _ => rfl, fun _ => rfl,
    fun _ _ detaches => absurd detaches never, fun _ => rfl⟩

namespace World

/-- An effect that is not made to change the outline leaves it alone. -/
theorem outline_perform (index : Nat) (world : World) {effect : Effect}
    (quiet : effect.publishes = false) (unseated : effect.seats = false)
    (unbound : effect.binds = false) : (perform index world effect).outline = world.outline := by
  unfold perform
  split
  · rfl
  · cases effect <;> dsimp only <;> first
      | contradiction
      | simp only [outline_notify, outline_dial, outline_accept, outline_note, outline_handle,
          outline_queue]
      | rfl
      | (split <;> rfl)

/-- A keeper's effect on its own writer leaves the other writers alone, and all else. -/
theorem outline_seat (index : Nat) (world : World) (effect : Effect)
    (seats : effect.seats = true) : ∃ writers, (perform index world effect).outline =
      { world.outline with writers } ∧ writers.length = world.outline.writers.length ∧
      ∀ other, other ≠ index → writers[other]? = world.outline.writers[other]? := by
  have elsewhere : ∀ writer, let writers := world.outline.writers.modify index fun _ => writer
      writers.length = world.outline.writers.length ∧
      ∀ other, other ≠ index → writers[other]? = world.outline.writers[other]? := by
    intro writer
    refine ⟨List.length_modify .., fun other different => ?_⟩
    rw [List.getElem?_modify_ne _ _ different.symm]
  unfold perform
  split
  · exact ⟨_, rfl, rfl, fun _ _ => rfl⟩
  · rename_i tenure _
    cases effect <;> first | contradiction | dsimp only
    · unfold appoint
      split
      · exact ⟨_, rfl, rfl, fun _ _ => rfl⟩
      · refine ⟨_, (outline_reseat _ (some world.desks.length) ?_ ?_ _ index).trans rfl,
          elsewhere _⟩ <;> exact fun _ => rfl
    · refine ⟨_, (outline_reseat _ none ?_ ?_ _ index).trans ?_, elsewhere none⟩
      · exact fun _ => rfl
      · exact fun _ => rfl
      · cases tenure.channel <;> rfl

/-- A keeper's effect on the registry changes no more than what the registry is attached to. -/
theorem outline_bind (index : Nat) (world : World) (effect : Effect)
    (binds : effect.binds = true) : ∃ attached, (perform index world effect).outline =
      { world.outline with attached } := by
  unfold perform
  split
  · exact ⟨_, rfl⟩
  · rename_i tenure _
    cases effect <;> first | contradiction | dsimp only
    · unfold attach
      split
      · exact ⟨_, rfl⟩
      · dsimp only
        unfold withRegistry
        rw [outline_queue]
        exact ⟨_, rfl⟩
    · exact ⟨_, rfl⟩

/-- A keeper's effect on the published state changes no more than that. -/
theorem outline_announce (index : Nat) (world : World) (published : ConnectionState) :
    ∃ state, (perform index world (.publish published)).outline = { world.outline with state } := by
  unfold perform
  split
  · exact ⟨_, rfl⟩
  · exact ⟨published, outline_publish world published⟩

/-- The registry is detached by a keeper that there is. -/
theorem outline_detach (index : Nat) (world : World) (present : index < world.tenures.length) :
    (perform index world .detach).outline = { world.outline with attached := none } := by
  unfold perform
  rw [List.getElem?_eq_getElem present]
  rfl

/-- An effect on a writer changes no more than the writer of its own keeper. -/
theorem alters_seat (index : Nat) (world : World) (effect : Effect)
    (seats : effect.seats = true) :
    Outline.Alters index [effect] world.outline (perform index world effect).outline := by
  obtain ⟨writers, same, length, others⟩ := outline_seat index world effect seats
  rw [same]
  refine ⟨rfl, rfl, rfl, rfl, length, others, fun unseated => ?_, fun _ => rfl,
    fun _ _ detaches => ?_, fun _ => rfl⟩
  · simp [seats] at unseated
  · rw [← List.mem_singleton.mp detaches] at seats
    cases seats

/-- What one effect may change in an outline. -/
theorem alters_perform (index : Nat) (world : World) (effect : Effect) :
    Outline.Alters index [effect] world.outline (perform index world effect).outline := by
  cases effect with
  | appoint => exact alters_seat index world .appoint rfl
  | release => exact alters_seat index world .release rfl
  | publish published =>
    obtain ⟨state, same⟩ := outline_announce index world published
    rw [same]
    exact ⟨rfl, rfl, rfl, rfl, rfl, fun _ _ => rfl, fun _ => rfl, fun _ => rfl, by simp,
      by simp [Effect.publishes]⟩
  | attach =>
    obtain ⟨attached, same⟩ := outline_bind index world .attach rfl
    rw [same]
    exact ⟨rfl, rfl, rfl, rfl, rfl, fun _ _ => rfl, fun _ => rfl, by simp [Effect.binds], by simp,
      fun _ => rfl⟩
  | detach =>
    obtain ⟨attached, same⟩ := outline_bind index world .detach rfl
    rw [same]
    refine ⟨rfl, rfl, rfl, rfl, rfl, fun _ _ => rfl, fun _ => rfl, by simp [Effect.binds], ?_,
      fun _ => rfl⟩
    intro present _ _
    have free := outline_detach index world (by simpa [outline] using present)
    exact congrArg Outline.attached (same.symm.trans free)
  | _ =>
    rw [outline_perform index world rfl rfl rfl]
    exact Outline.alters_of_same index (by simp) world.outline

end World

/-- What effects may change one after the other. -/
theorem Outline.Alters.trans {index : Nat} {first second : List Effect}
    {before between after : Outline} (early : Alters index first before between)
    (late : Alters index second between after) : Alters index (first ++ second) before after where
  held := late.held.trans early.held
  slot := late.slot.trans early.slot
  stops := late.stops.trans early.stops
  keepers := late.keepers.trans early.keepers
  seats := late.seats.trans early.seats
  others := fun other different =>
    (late.others other different).trans (early.others other different)
  writers := fun quiet => by
    rw [List.any_append, Bool.or_eq_false_iff] at quiet
    exact (late.writers quiet.2).trans (early.writers quiet.1)
  attached := fun quiet => by
    rw [List.any_append, Bool.or_eq_false_iff] at quiet
    exact (late.attached quiet.2).trans (early.attached quiet.1)
  detached := fun present never detaches => by
    rw [List.mem_append, not_or] at never
    by_cases again : .detach ∈ second
    · exact late.detached (early.keepers ▸ present) never.2 again
    · -- nothing binds the registry once the first effects have detached it
      have quiet : second.any Effect.binds = false := by
        rw [List.any_eq_false]
        intro effect member
        cases effect <;> first | exact Bool.false_ne_true | (cases never.2 member) |
          (cases again member)
      rw [late.attached quiet]
      exact early.detached present never.1 ((List.mem_append.mp detaches).resolve_right again)
  state := fun quiet => by
    rw [List.any_append, Bool.or_eq_false_iff] at quiet
    exact (late.state quiet.2).trans (early.state quiet.1)

namespace World

/-- **What a list of effects may change in an outline.** -/
theorem outline_foldl_perform (index : Nat) (world : World) (effects : List Effect) :
    Outline.Alters index effects world.outline (effects.foldl (perform index) world).outline := by
  induction effects generalizing world with
  | nil => exact Outline.alters_of_same index List.not_mem_nil world.outline
  | cons effect effects ih =>
    exact (alters_perform index world effect).trans (ih (perform index world effect))

/-- A keeper attaches the registry to the writer of its session, or not at all. -/
theorem attached_attach {index : Nat} {world : World} {writer : Nat}
    (attached : (perform index world .attach).outline.attached = some writer) :
    world.outline.attached = some writer ∨ world.outline.writers[index]? = some (some writer) := by
  unfold perform at attached
  split at attached
  · exact .inl attached
  · rename_i tenure present
    dsimp only at attached
    unfold attach at attached
    split at attached
    · exact .inl attached
    · rename_i own hasOwn
      dsimp only at attached
      unfold withRegistry at attached
      rw [outline_queue] at attached
      have same : some own = some writer := (Registry.writer_attach ..).symm.trans attached
      refine .inr ?_
      rw [← same, ← hasOwn]
      unfold outline
      rw [List.getElem?_map, present]
      rfl

/-- When a session becomes connected, the registry is attached to the session's writer, or stays as
it was. -/
theorem attached_joining {index : Nat} {world : World} {writer : Nat}
    (attached : (Keeper.joining.foldl (perform index) world).outline.attached = some writer) :
    world.outline.attached = some writer ∨
      (Keeper.joining.foldl (perform index) world).outline.writers[index]? =
        some (some writer) := by
  let seated := [Effect.happened .handshakeAcknowledged, .appoint].foldl (perform index) world
  let bound := perform index seated .attach
  have seating := outline_foldl_perform index world [.happened .handshakeAcknowledged, .appoint]
  have binding := alters_perform index seated .attach
  have publishing := alters_perform index bound (.publish .connected)
  have boundTo : bound.outline.attached = some writer :=
    (publishing.attached rfl).symm.trans attached
  rcases attached_attach boundTo with before | own
  · exact .inl ((seating.attached rfl).symm.trans before)
  · refine .inr ?_
    rw [← binding.writers rfl, ← publishing.writers rfl] at own
    exact own

end World

end EventFeed
