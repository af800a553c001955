/-
**Calls keep a registry consistent.**

A registry tells in several places which subscription has which name: in the subscription, in the
table of wire names, and in the names that are retired. Calls of the consumer, the server and the
sessions change these places together, and some of them stop halfway because nobody takes frames any
more. A run of calls is consistent all the same, as long as sessions follow one another.

* `Call`, `act`, `run`: calls of a registry, with the moment at which frames are not taken any more;
* `IsConsistent`: how all parts of a registry agree, beyond `IsSound`;
* `IsConsistent.act`, `IsConsistent.run`: one call keeps it, and so does every run;
* `list_run_sublist`: what is registered after a run was registered before, or was subscribed to in
  it, in that order;
* `parts_agree`: what this comes to for a registry that began empty.
-/

import EventFeed.Proofs.Subscription.Detachment
import EventFeed.Proofs.Subscription.Numbering

namespace EventFeed.Registry

open EventFeed.Wire (Frame)

variable {κ : Type}

/-! ### Runs of calls -/

/-- A call of a registry. The receiver of its frames may go away at any moment: a call that queues
one frame is told whether the frame is taken, and the beginning of a session how many frames there
is room for until the receiver goes away. -/
inductive Call (κ : Type) where
  | subscribe (isOpen : Bool) (destination : String) (callback : κ)
  | unsubscribe (isOpen : Bool) (id : Nat)
  | send (isOpen : Bool) (frame : Frame)
  | confirm (receipt : String)
  | reject (receipt : String)
  | attach (room : Nat) (writer : Nat)
  | detach

namespace Call

/-- Whether a call neither begins nor ends a session. -/
def staysInSession : Call κ → Bool
  | .attach _ _ | .detach => false
  | _ => true

/-- Whether a session begins only without one, and ends only if there is one. -/
def isDue (attached : Bool) : Call κ → Bool
  | .attach _ _ => !attached
  | .detach => attached
  | _ => true

/-- Whether there is a session after a call. -/
def attaches (attached : Bool) : Call κ → Bool
  | .attach _ _ => true
  | .detach => false
  | _ => attached

/-- Whether sessions follow one another in a run: their beginnings and their ends alternate. -/
def inTurn : Bool → List (Call κ) → Bool
  | _, [] => true
  | attached, call :: calls => call.isDue attached && inTurn (call.attaches attached) calls

theorem inTurn_append {attached : Bool} {earlier later : List (Call κ)}
    (due : inTurn attached (earlier ++ later) = true) :
    inTurn attached earlier = true := by
  induction earlier generalizing attached with
  | nil => rfl
  | cons call earlier ih =>
    rw [List.cons_append, inTurn, Bool.and_eq_true] at due
    rw [inTurn, Bool.and_eq_true]
    exact ⟨due.1, ih due.2⟩

/-- The destination that a call subscribes to, unless it is blank. -/
def destination? : Call κ → Option String
  | .subscribe _ destination _ => if Text.allBlank destination then none else some destination
  | _ => none

/-- The subscriptions that calls make, numbered in their order. -/
def subscribed : Nat → List (Call κ) → List (Nat × String)
  | _, [] => []
  | number, call :: calls =>
    match call.destination? with
    | none => subscribed number calls
    | some destination => (number, destination) :: subscribed (number + 1) calls

theorem le_of_mem_subscribed {number : Nat} {calls : List (Call κ)} {pair : Nat × String}
    (member : pair ∈ subscribed number calls) : number ≤ pair.1 := by
  induction calls generalizing number with
  | nil => cases member
  | cons call calls ih =>
    rw [subscribed] at member
    split at member
    · exact ih member
    · rcases List.mem_cons.mp member with rfl | later
      · exact Nat.le_refl _
      · exact Nat.le_of_succ_le (ih later)

end Call

/-- Subscriptions are asked for one by one, as long as there is room. -/
def flushWithin : Nat → Registry κ → List (Subscription κ) → Registry κ
  | _, registry, [] => registry
  | room, registry, entry :: entries =>
    flushWithin (room - 1) (registry.flush (0 < room) entry).1 entries

/-- A session begins, and its writer has room for some frames. -/
def attachWithin (registry : Registry κ) (room writer : Nat) : Registry κ :=
  flushWithin room { registry with byWire := [], retired := [], writer := some writer }
    registry.entries

def act (registry : Registry κ) : Call κ → Registry κ
  | .subscribe isOpen destination callback =>
    match registry.subscribe isOpen destination callback with
    | .error _ => registry
    | .ok (_, after, _) => after
  | .unsubscribe isOpen id => (registry.unsubscribe isOpen id).2.1
  | .send _ _ => registry
  | .confirm receipt => (registry.confirm receipt).2
  | .reject receipt => (registry.reject receipt).2
  | .attach room writer => registry.attachWithin room writer
  | .detach => registry.detach

def run (registry : Registry κ) (calls : List (Call κ)) : Registry κ :=
  calls.foldl act registry

theorem run_append (registry : Registry κ) (earlier later : List (Call κ)) :
    registry.run (earlier ++ later) = (registry.run earlier).run later :=
  List.foldl_append

/-! ### Room for frames -/

section Room

variable (room writer : Nat) (registry : Registry κ) (entries : List (Subscription κ))

theorem writer_flushWithin : (registry.flushWithin room entries).writer = registry.writer := by
  induction entries generalizing registry room with
  | nil => rfl
  | cons entry entries ih => rw [flushWithin, ih, writer_flush]

theorem retired_flush (isOpen : Bool) (entry : Subscription κ) :
    (registry.flush isOpen entry).1.retired = registry.retired := by
  cases isOpen <;> rfl

theorem retired_flushWithin : (registry.flushWithin room entries).retired = registry.retired := by
  induction entries generalizing registry room with
  | nil => rfl
  | cons entry entries ih => rw [flushWithin, ih, retired_flush]

theorem made_flushWithin : (registry.flushWithin room entries).made = registry.made := by
  induction entries generalizing registry room with
  | nil => rfl
  | cons entry entries ih => rw [flushWithin, ih, made_flush]

theorem list_flushWithin : (registry.flushWithin room entries).list = registry.list := by
  induction entries generalizing registry room with
  | nil => rfl
  | cons entry entries ih => rw [flushWithin, ih, list_flush]

theorem writer_attachWithin : (registry.attachWithin room writer).writer = some writer :=
  writer_flushWithin room _ _

theorem retired_attachWithin : (registry.attachWithin room writer).retired = [] :=
  retired_flushWithin room _ _

theorem made_attachWithin : (registry.attachWithin room writer).made = registry.made :=
  made_flushWithin room _ _

theorem list_attachWithin : (registry.attachWithin room writer).list = registry.list :=
  list_flushWithin room _ _

end Room

/-- There is a session after a call as it says. -/
theorem isSome_writer_act (registry : Registry κ) (call : Call κ) :
    (registry.act call).writer.isSome = call.attaches registry.writer.isSome := by
  cases call with
  | subscribe isOpen destination callback =>
    show Option.isSome (Registry.writer (match registry.subscribe isOpen destination callback with
      | .error _ => registry
      | .ok (_, after, _) => after)) = registry.writer.isSome
    split
    · rfl
    · rw [writer_subscribe ‹_›]
  | unsubscribe isOpen id => exact congrArg _ (writer_unsubscribe registry isOpen id)
  | send isOpen frame => rfl
  | confirm receipt => exact congrArg _ (writer_confirm registry receipt)
  | reject receipt => exact congrArg _ (writer_reject registry receipt)
  | attach room writer => exact congrArg _ (writer_attachWithin room writer registry)
  | detach => rfl

/-! ### What is registered after a run -/

/-- One call leaves what was registered, in its order, and adds what it subscribes to. -/
theorem list_act_sublist (registry : Registry κ) (call : Call κ) :
    (registry.act call).list.Sublist
        (registry.list ++ call.destination?.toList.map fun destination =>
          (registry.made, destination)) ∧
      (registry.act call).made = registry.made + call.destination?.toList.length := by
  have kept {after : Registry κ} (fewer : after.list.Sublist registry.list) :
      after.list.Sublist (registry.list ++ []) :=
    fewer.trans (List.sublist_append_left _ _)
  cases call with
  | subscribe isOpen destination callback =>
    unfold act
    dsimp only
    split
    · rename_i error refused
      rw [Call.destination?, if_pos (allBlank_of_subscribe refused)]
      exact ⟨kept (List.Sublist.refl _), rfl⟩
    · rename_i id after frames accepted
      obtain ⟨named, oneMore⟩ := made_subscribe accepted
      rw [Call.destination?, if_neg named, (list_subscribe accepted).2, oneMore]
      exact ⟨List.Sublist.refl _, rfl⟩
  | unsubscribe isOpen id =>
    refine ⟨kept ?_, made_unsubscribe registry isOpen id⟩
    show (registry.unsubscribe isOpen id).2.1.list.Sublist registry.list
    rw [list_unsubscribe]
    exact List.filter_sublist
  | send isOpen frame => exact ⟨kept (List.Sublist.refl _), rfl⟩
  | confirm receipt =>
    exact ⟨kept (list_confirm registry receipt ▸ List.Sublist.refl _),
      made_confirm registry receipt⟩
  | reject receipt =>
    refine ⟨kept ?_, made_reject registry receipt⟩
    show (registry.reject receipt).2.list.Sublist registry.list
    rw [list_reject]
    split
    · exact List.Sublist.refl _
    · exact List.filter_sublist
  | attach room writer =>
    exact ⟨kept (list_attachWithin room writer registry ▸ List.Sublist.refl _),
      made_attachWithin room writer registry⟩
  | detach => exact ⟨kept (list_detach registry ▸ List.Sublist.refl _), rfl⟩

/-- **What is registered after a run was registered before it, or was subscribed to in it**, in that
order and under the same numbers. -/
theorem list_run_sublist (registry : Registry κ) (calls : List (Call κ)) :
    (registry.run calls).list.Sublist
      (registry.list ++ Call.subscribed registry.made calls) := by
  induction calls generalizing registry with
  | nil => exact List.sublist_append_left _ _
  | cons call calls ih =>
    obtain ⟨fewer, made⟩ := list_act_sublist registry call
    have later := ih (registry.act call)
    rw [made] at later
    rw [Call.subscribed]
    cases asked : call.destination? with
    | none =>
      rw [asked] at fewer later
      rw [Option.toList_none, List.map_nil, List.append_nil] at fewer
      exact later.trans (fewer.append_right _)
    | some destination =>
      rw [asked] at fewer later
      refine later.trans ((fewer.append_right _).trans ?_)
      rw [List.append_assoc]
      exact List.Sublist.refl _

/-! ### Consistency -/

/-- How all parts of a registry agree: a subscription with a wire name is in the table under it; the
retired names were drawn before now, and no subscription has one of them; what is confirmed has a
wire name; and nothing of a session is left without one. -/
structure IsConsistent (registry : Registry κ) : Prop extends IsSound registry where
  listed : ∀ entry ∈ registry.entries, ∀ wireName, entry.wireName = some wireName →
    (wireName, entry.id) ∈ registry.byWire
  spent : ∀ wireName ∈ registry.retired,
    ∃ number < registry.drawn, wireName = identifier registry.seed .subscription number
  gone : ∀ wireName ∈ registry.retired, ∀ entry ∈ registry.entries,
    entry.wireName ≠ some wireName
  acknowledged : ∀ entry ∈ registry.entries, entry.confirmed = true → entry.wireName ≠ none
  tidy : registry.IsTidy

theorem isConsistent_empty (seed : Nat) : (empty seed : Registry κ).IsConsistent :=
  ⟨isSound_empty seed, nofun, nofun, nofun, nofun, isTidy_empty seed⟩

section

variable {registry : Registry κ}

/-- Changing one subscription changes no other. -/
theorem IsSound.eq_or_mem_of_mem_change (sound : registry.IsSound) {entry changed : Subscription κ}
    (member : entry ∈ registry.entries) {update : Subscription κ → Subscription κ}
    (found : changed ∈ change registry.entries entry.id update) :
    changed = update entry ∨ changed ∈ registry.entries ∧ changed.id ≠ entry.id := by
  obtain ⟨held, heldMember, rfl⟩ := mem_change.mp found
  by_cases same : held.id = entry.id
  · rw [if_pos same, sound.eq_of_id heldMember member same]
    exact .inl rfl
  · rw [if_neg same]
    exact .inr ⟨heldMember, same⟩

/-- Asking for a subscription that has no wire name yet. -/
theorem IsConsistent.flush (consistent : registry.IsConsistent) {entry : Subscription κ}
    (member : entry ∈ registry.entries) (unnamed : entry.wireName = none) (isOpen : Bool)
    (attached : registry.writer ≠ none) : (registry.flush isOpen entry).1.IsConsistent := by
  have sound := consistent.toIsSound
  have soundAfter := sound.flush member unnamed isOpen attached
  have tidyAfter : (registry.flush isOpen entry).1.IsTidy := by
    intro free
    rw [writer_flush] at free
    exact absurd free attached
  have spentAfter : ∀ wireName ∈ registry.retired, ∃ number < registry.drawn + 1,
      wireName = identifier registry.seed .subscription number := by
    intro wireName retired
    obtain ⟨number, earlier, drawn⟩ := consistent.spent wireName retired
    exact ⟨number, Nat.lt_succ_of_lt earlier, drawn⟩
  cases isOpen with
  | false =>
    exact ⟨soundAfter, consistent.listed, spentAfter, consistent.gone, consistent.acknowledged,
      tidyAfter⟩
  | true =>
    refine ⟨soundAfter, fun changed found wireName named => ?_, spentAfter,
      fun wireName retired changed found named => ?_, fun changed found confirmed => ?_, tidyAfter⟩
    · rcases sound.eq_or_mem_of_mem_change member found with rfl | ⟨old, -⟩
      · obtain rfl := Option.some.inj named
        exact List.mem_cons_self
      · exact List.mem_cons_of_mem _ (consistent.listed changed old wireName named)
    · rcases sound.eq_or_mem_of_mem_change member found with rfl | ⟨old, -⟩
      · -- The name that is drawn now was not drawn before, and retired names were.
        obtain rfl := Option.some.inj named
        obtain ⟨number, earlier, drawn⟩ := consistent.spent _ retired
        exact absurd (identifier_injective drawn).2 (Nat.ne_of_gt earlier)
      · exact consistent.gone wireName retired changed old named
    · rcases sound.eq_or_mem_of_mem_change member found with rfl | ⟨old, -⟩
      · cases confirmed
      · exact consistent.acknowledged changed old confirmed

theorem IsConsistent.flushWithin {entries : List (Subscription κ)} (room : Nat)
    (distinct : (entries.map Subscription.id).Nodup) (consistent : registry.IsConsistent)
    (members : ∀ entry ∈ entries, entry ∈ registry.entries)
    (unnamed : ∀ entry ∈ entries, entry.wireName = none) (attached : registry.writer ≠ none) :
    (registry.flushWithin room entries).IsConsistent := by
  induction entries generalizing registry room with
  | nil => exact consistent
  | cons entry entries ih =>
    rw [List.map_cons, List.nodup_cons] at distinct
    rw [List.forall_mem_cons] at members unnamed
    rw [Registry.flushWithin]
    apply ih
    · exact distinct.2
    · exact consistent.flush members.1 unnamed.1 _ attached
    · intro later laterMember
      refine mem_flush_of_ne (members.2 later laterMember) (fun same => ?_) _
      exact distinct.1 (same ▸ List.mem_map_of_mem laterMember)
    · exact unnamed.2
    · rwa [writer_flush]

/-- A session begins, and its writer takes as many frames as it has room for. -/
theorem IsConsistent.attachWithin (consistent : registry.IsConsistent)
    (free : registry.writer = none) (room writer : Nat) :
    (registry.attachWithin room writer).IsConsistent := by
  have sound := consistent.toIsSound
  have unnamed := sound.detached free
  have cleared :
      { registry with byWire := [], retired := [], writer := some writer }.IsConsistent := by
    refine ⟨⟨sound.ordered, sound.made, nofun, sound.drawn, sound.apart, nofun⟩,
      fun entry member wireName named => ?_, nofun, nofun, consistent.acknowledged, nofun⟩
    rw [unnamed entry member] at named
    cases named
  exact cleared.flushWithin room sound.ids (fun _ member => member) unnamed nofun

theorem IsConsistent.detach (consistent : registry.IsConsistent) :
    registry.detach.IsConsistent := by
  have bare := isBare_detach registry
  refine ⟨consistent.toIsSound.detach, fun entry member wireName named => ?_, nofun, nofun,
    fun entry member confirmed => ?_, fun _ => bare⟩
  · rw [bare.unnamed entry member] at named
    cases named
  · rw [bare.unconfirmed entry member] at confirmed
    cases confirmed

/-- A subscription that has the next number, and nothing of a session, comes last. -/
theorem IsConsistent.grow (consistent : registry.IsConsistent) {entry : Subscription κ}
    (newest : entry.id = registry.made) (unnamed : entry.wireName = none)
    (unconfirmed : entry.confirmed = false) :
    { registry with
      entries := registry.entries ++ [entry], made := registry.made + 1 }.IsConsistent := by
  have oldOrNew {held : Subscription κ} (member : held ∈ registry.entries ++ [entry]) :
      held ∈ registry.entries ∨ held = entry :=
    (List.mem_append.mp member).imp_right List.mem_singleton.mp
  refine ⟨consistent.toIsSound.grow newest unnamed, fun held member wireName named => ?_,
    consistent.spent, fun wireName retired held member named => ?_,
    fun held member confirmed => ?_, consistent.tidy.keep rfl fun bare => ?_⟩
  · rcases oldOrNew member with old | rfl
    · exact consistent.listed held old wireName named
    · cases unnamed.symm.trans named
  · rcases oldOrNew member with old | rfl
    · exact consistent.gone wireName retired held old named
    · cases unnamed.symm.trans named
  · rcases oldOrNew member with old | rfl
    · exact consistent.acknowledged held old confirmed
    · cases unconfirmed.symm.trans confirmed
  · apply bare.change
    intro held member
    rcases oldOrNew member with old | rfl
    · exact .inl old
    · exact .inr ⟨unnamed, unconfirmed⟩

theorem IsConsistent.subscribe (consistent : registry.IsConsistent) {after : Registry κ}
    {isOpen : Bool} {destination : String} {callback : κ} {id : Nat} {frames : List Frame}
    (made : registry.subscribe isOpen destination callback = .ok (id, after, frames)) :
    after.IsConsistent := by
  let entry : Subscription κ := ⟨registry.made, destination, callback, none, false⟩
  have grown : { registry with
      entries := registry.entries ++ [entry], made := registry.made + 1 }.IsConsistent :=
    consistent.grow rfl rfl rfl
  obtain ⟨-, -, ⟨-, rfl, -⟩ | ⟨attached, rfl, -⟩⟩ := subscribe_cases made
  · exact grown
  · exact grown.flush (List.mem_append_right _ List.mem_cons_self) rfl isOpen attached

end

/-! ### Removals -/

/-- The registry without a subscription, whose wire name is retired. -/
def retire (registry : Registry κ) (wireName : String) (id : Nat) : Registry κ :=
  { registry with
    entries := without registry.entries id
    byWire := registry.byWire.filter fun pair => pair.1 ≠ wireName
    retired := wireName :: registry.retired }

section

variable {registry : Registry κ} {entry : Subscription κ}

theorem unsubscribe_of_absent {id : Nat} (absent : registry.find? id = none) (isOpen : Bool) :
    registry.unsubscribe isOpen id = (false, registry, []) := by
  rw [unsubscribe, absent]

theorem unsubscribe_of_unnamed {id : Nat} (found : registry.find? id = some entry)
    (unnamed : entry.wireName = none) (isOpen : Bool) :
    registry.unsubscribe isOpen id =
      (true, { registry with entries := without registry.entries id }, []) := by
  rw [unsubscribe, found]
  dsimp only
  rw [unnamed]

theorem unsubscribe_of_named {id : Nat} (found : registry.find? id = some entry)
    {wireName : String} (named : entry.wireName = some wireName) (isOpen : Bool) :
    (registry.unsubscribe isOpen id).1 = true ∧
      (registry.unsubscribe isOpen id).2.1 = registry.retire wireName id := by
  rw [unsubscribe, found]
  dsimp only
  rw [named]
  exact ⟨rfl, rfl⟩

theorem reject_of_none {receipt : String} (nothing : registry.unconfirmed? receipt = none) :
    registry.reject receipt = (none, registry) := by
  rw [reject, nothing]

theorem reject_of_some {receipt : String} (found : registry.unconfirmed? receipt = some entry) :
    registry.reject receipt = (some entry, registry.retire receipt entry.id) := by
  rw [reject, found]
  rfl

/-- A subscription is taken out, and its wire name is retired. -/
theorem IsConsistent.retire (consistent : registry.IsConsistent) (member : entry ∈ registry.entries)
    {wireName : String} (named : entry.wireName = some wireName)
    (soundAfter : (registry.retire wireName entry.id).IsSound) :
    (registry.retire wireName entry.id).IsConsistent := by
  have sound := consistent.toIsSound
  -- No other subscription has the name that is retired.
  have others {held : Subscription κ} (kept : held ∈ without registry.entries entry.id) :
      held.wireName ≠ some wireName := by
    obtain ⟨heldMember, different⟩ := mem_without.mp kept
    exact fun same => different (sound.apart held heldMember entry member wireName same named)
  refine ⟨soundAfter, fun held kept heldName heldNamed => ?_, fun retiredName retired => ?_,
    fun retiredName retired held kept => ?_, fun held kept => ?_, fun free => ?_⟩
  · have old := consistent.listed held (mem_without.mp kept).1 heldName heldNamed
    refine List.mem_filter.mpr ⟨old, decide_eq_true ?_⟩
    rintro rfl
    exact others kept heldNamed
  · rcases List.mem_cons.mp retired with rfl | before
    · exact sound.drawn entry member retiredName named
    · exact consistent.spent retiredName before
  · rcases List.mem_cons.mp retired with rfl | before
    · exact others kept
    · exact consistent.gone retiredName before held (mem_without.mp kept).1
  · exact consistent.acknowledged held (mem_without.mp kept).1
  · rw [sound.detached free entry member] at named
    cases named

theorem IsConsistent.unsubscribe (consistent : registry.IsConsistent) (isOpen : Bool) (id : Nat) :
    (registry.unsubscribe isOpen id).2.1.IsConsistent := by
  have soundAfter := consistent.toIsSound.unsubscribe isOpen id
  have tidyAfter := consistent.tidy.unsubscribe isOpen id
  cases found : registry.find? id with
  | none => rwa [unsubscribe_of_absent found]
  | some entry =>
    obtain ⟨member, rfl⟩ := mem_of_find? found
    cases named : entry.wireName with
    | none =>
      rw [unsubscribe_of_unnamed found named] at soundAfter tidyAfter ⊢
      exact ⟨soundAfter, fun held kept => consistent.listed held (mem_without.mp kept).1,
        consistent.spent,
        fun wireName retired held kept =>
          consistent.gone wireName retired held (mem_without.mp kept).1,
        fun held kept => consistent.acknowledged held (mem_without.mp kept).1, tidyAfter⟩
    | some wireName =>
      rw [(unsubscribe_of_named found named isOpen).2] at soundAfter ⊢
      exact consistent.retire member named soundAfter

theorem IsConsistent.reject (consistent : registry.IsConsistent) (receipt : String) :
    (registry.reject receipt).2.IsConsistent := by
  have soundAfter := consistent.toIsSound.reject receipt
  cases found : registry.unconfirmed? receipt with
  | none => rwa [reject_of_none found]
  | some entry =>
    obtain ⟨member, named⟩ := consistent.unconfirmed found
    rw [reject_of_some found] at soundAfter ⊢
    exact consistent.retire member named soundAfter

theorem IsConsistent.confirm (consistent : registry.IsConsistent) (receipt : String) :
    (registry.confirm receipt).2.IsConsistent := by
  have sound := consistent.toIsSound
  have soundAfter := sound.confirm receipt
  have tidyAfter := consistent.tidy.confirm receipt
  unfold Registry.confirm at soundAfter tidyAfter ⊢
  cases found : registry.unconfirmed? receipt with
  | none => exact consistent
  | some entry =>
    obtain ⟨member, named⟩ := consistent.unconfirmed found
    rw [found] at soundAfter tidyAfter
    refine ⟨soundAfter, fun changed changedMember wireName isNamed => ?_, consistent.spent,
      fun wireName retired changed changedMember => ?_, fun changed changedMember confirmed => ?_,
      tidyAfter⟩
    · rcases sound.eq_or_mem_of_mem_change member changedMember with rfl | ⟨old, -⟩
      · exact consistent.listed entry member wireName isNamed
      · exact consistent.listed changed old wireName isNamed
    · rcases sound.eq_or_mem_of_mem_change member changedMember with rfl | ⟨old, -⟩
      · exact consistent.gone wireName retired entry member
      · exact consistent.gone wireName retired changed old
    · rcases sound.eq_or_mem_of_mem_change member changedMember with rfl | ⟨old, -⟩
      · show entry.wireName ≠ none
        rw [named]
        exact Option.some_ne_none receipt
      · exact consistent.acknowledged changed old confirmed

end

/-! ### Runs -/

section

variable {registry : Registry κ}

/-- **Every call keeps the parts in agreement.** -/
theorem IsConsistent.act (consistent : registry.IsConsistent) {call : Call κ}
    (due : call.isDue registry.writer.isSome = true) : (registry.act call).IsConsistent := by
  cases call with
  | subscribe isOpen destination callback =>
    unfold Registry.act
    dsimp only
    split
    · exact consistent
    · exact consistent.subscribe ‹_›
  | unsubscribe isOpen id => exact consistent.unsubscribe isOpen id
  | send isOpen frame => exact consistent
  | confirm receipt => exact consistent.confirm receipt
  | reject receipt => exact consistent.reject receipt
  | attach room writer =>
    have free : registry.writer = none := by simpa [Call.isDue] using due
    exact consistent.attachWithin free room writer
  | detach => exact consistent.detach

/-- **Every run keeps them in agreement.** -/
theorem IsConsistent.run (consistent : registry.IsConsistent) {calls : List (Call κ)}
    (inTurn : Call.inTurn registry.writer.isSome calls = true) :
    (registry.run calls).IsConsistent := by
  induction calls generalizing registry with
  | nil => exact consistent
  | cons call calls ih =>
    rw [Call.inTurn, Bool.and_eq_true, ← isSome_writer_act] at inTurn
    exact ih (consistent.act inTurn.1) inTurn.2

end

/-- **The parts of a registry agree.** Whatever is called in whatever order from an empty registry,
as long as sessions follow one another: no two subscriptions have one number; the table of wire
names holds a name with a number exactly if the subscription with the number has the name; no name
belongs to two subscriptions; no retired name is in the table; what is confirmed has a wire name;
without a writer nothing has a wire name, and none is in the table or retired. And what is
registered is among what was subscribed to, in that order. -/
theorem parts_agree (seed : Nat) {calls : List (Call κ)}
    (inTurn : Call.inTurn false calls = true) :
    let registry := (empty seed : Registry κ).run calls
    (registry.entries.map Subscription.id).Nodup ∧
    (∀ wireName id, (wireName, id) ∈ registry.byWire ↔
      ∃ entry ∈ registry.entries, entry.id = id ∧ entry.wireName = some wireName) ∧
    (∀ first ∈ registry.entries, ∀ second ∈ registry.entries, ∀ wireName,
      first.wireName = some wireName → second.wireName = some wireName → first = second) ∧
    (∀ wireName ∈ registry.retired, wireName ∉ registry.byWire.map Prod.fst) ∧
    (∀ entry ∈ registry.entries, entry.confirmed = true → entry.wireName ≠ none) ∧
    (registry.writer = none → (∀ entry ∈ registry.entries, entry.wireName = none) ∧
      registry.byWire = [] ∧ registry.retired = []) ∧
    registry.list.Sublist (Call.subscribed 0 calls) := by
  intro registry
  have consistent : registry.IsConsistent := (isConsistent_empty seed).run inTurn
  have sound := consistent.toIsSound
  refine ⟨sound.ids, fun wireName id => ⟨sound.indexed wireName id, ?_⟩, ?_, ?_,
    consistent.acknowledged, fun free => ?_, list_run_sublist (empty seed) calls⟩
  · rintro ⟨entry, member, rfl, named⟩
    exact consistent.listed entry member wireName named
  · intro first firstMember second secondMember wireName firstNamed secondNamed
    exact sound.eq_of_id firstMember secondMember
      (sound.apart first firstMember second secondMember wireName firstNamed secondNamed)
  · intro wireName retired keyed
    obtain ⟨⟨key, id⟩, pair, rfl⟩ := List.mem_map.mp keyed
    obtain ⟨entry, member, -, named⟩ := sound.indexed key id pair
    exact consistent.gone key retired entry member named
  · have bare := consistent.tidy free
    exact ⟨bare.unnamed, bare.byWire, bare.retired⟩

/-- A session whose writer goes away after the first of two requests; the subscription that was
asked for is confirmed and given up, and a third one is never asked for. -/
theorem parts_agree_after_receiver_left :
    let name := identifier 7 .subscription 0
    let calls : List (Call Unit) :=
      [.subscribe true "/a" (), .subscribe true "/b" (), .attach 1 0, .confirm name,
        .subscribe false "/c" (), .unsubscribe false 0]
    let registry := (empty 7).run calls
    Call.inTurn false calls = true ∧ registry.retired = [name] ∧
      (∀ wireName ∈ registry.retired, wireName ∉ registry.byWire.map Prod.fst) ∧
      registry.list = [(1, "/b"), (2, "/c")] ∧
      registry.list.Sublist [(0, "/a"), (1, "/b"), (2, "/c")] := by
  intro name calls registry
  have inTurn : Call.inTurn false calls = true := rfl
  obtain ⟨-, -, -, apart, -, -, ordered⟩ := parts_agree 7 inTurn
  exact ⟨inTurn, by decide +kernel, apart, by decide +kernel, ordered⟩

end EventFeed.Registry
