/-
**What is left of a session when it is over.**

A registry that is attached to no writer is bare: it has no wire names, none of its subscriptions is
confirmed, and it retires no name. Detaching makes it so, and what is done to a detached registry
keeps it so: a new subscription gets no name, a removal retires none, and no receipt of the server
is about a subscription.

* `isBare_detach`: detaching leaves nothing of a session;
* `IsTidy.subscribe`, `IsTidy.unsubscribe`, `IsTidy.confirm`, `IsTidy.reject`: so it stays.
-/

import EventFeed.Proofs.Subscription.Bookkeeping

namespace EventFeed.Registry

variable {κ : Type} {registry after : Registry κ}

/-- Nothing in the registry belongs to a session. -/
structure IsBare (registry : Registry κ) : Prop where
  writer : registry.writer = none
  byWire : registry.byWire = []
  retired : registry.retired = []
  unnamed : ∀ entry ∈ registry.entries, entry.wireName = none
  unconfirmed : ∀ entry ∈ registry.entries, entry.confirmed = false

/-- What belongs to a session is there only while the registry is attached. -/
def IsTidy (registry : Registry κ) : Prop :=
  registry.writer = none → registry.IsBare

theorem isTidy_empty (seed : Nat) : (empty seed : Registry κ).IsTidy :=
  fun _ => ⟨rfl, rfl, rfl, nofun, nofun⟩

/-- Detaching leaves nothing of a session. -/
theorem isBare_detach (registry : Registry κ) : registry.detach.IsBare where
  writer := rfl
  byWire := rfl
  retired := rfl
  unnamed := fun _ member => (entries_detach registry member).1
  unconfirmed := fun _ member => (entries_detach registry member).2

/-- A bare registry with other subscriptions that are not known to the server is bare. -/
theorem IsBare.change (bare : registry.IsBare) {entries : List (Subscription κ)} {made : Nat}
    (unknown : ∀ entry ∈ entries, entry ∈ registry.entries ∨
      entry.wireName = none ∧ entry.confirmed = false) :
    { registry with entries, made }.IsBare where
  writer := bare.writer
  byWire := bare.byWire
  retired := bare.retired
  unnamed := fun entry member =>
    (unknown entry member).elim (bare.unnamed entry) And.left
  unconfirmed := fun entry member =>
    (unknown entry member).elim (bare.unconfirmed entry) And.right

/-- No receipt is about a subscription of a bare registry. -/
theorem IsBare.unconfirmed?_eq_none (bare : registry.IsBare) (receipt : String) :
    registry.unconfirmed? receipt = none := by
  rw [unconfirmed?, live?, bare.byWire]
  rfl

/-- What keeps the writer of an attached registry has to be looked at only for a bare one. -/
theorem IsTidy.keep (tidy : registry.IsTidy) (sameWriter : after.writer = registry.writer)
    (keeps : registry.IsBare → after.IsBare) : after.IsTidy :=
  fun free => keeps (tidy (sameWriter ▸ free))

theorem IsTidy.subscribe (tidy : registry.IsTidy) {isOpen : Bool} {destination : String}
    {callback : κ} {id : Nat} {frames : List Wire.Frame}
    (made : registry.subscribe isOpen destination callback = .ok (id, after, frames)) :
    after.IsTidy := by
  refine tidy.keep (writer_subscribe made) fun bare => ?_
  obtain ⟨-, -, ⟨-, rfl, -⟩ | ⟨attached, -⟩⟩ := subscribe_cases made
  · refine bare.change fun entry member => (List.mem_append.mp member).imp_right fun new => ?_
    rw [List.mem_singleton.mp new]
    exact ⟨rfl, rfl⟩
  · exact absurd bare.writer attached

theorem IsTidy.unsubscribe (tidy : registry.IsTidy) (isOpen : Bool) (id : Nat) :
    (registry.unsubscribe isOpen id).2.1.IsTidy := by
  refine tidy.keep (writer_unsubscribe registry isOpen id) fun bare => ?_
  unfold Registry.unsubscribe
  split
  · exact bare
  · rename_i entry found
    dsimp only
    rw [bare.unnamed entry (List.mem_of_find?_eq_some found)]
    exact bare.change fun entry member => .inl (List.mem_filter.mp member).1

theorem IsTidy.confirm (tidy : registry.IsTidy) (receipt : String) :
    (registry.confirm receipt).2.IsTidy := by
  refine tidy.keep (writer_confirm registry receipt) fun bare => ?_
  rw [Registry.confirm, bare.unconfirmed?_eq_none]
  exact bare

theorem IsTidy.reject (tidy : registry.IsTidy) (receipt : String) :
    (registry.reject receipt).2.IsTidy := by
  refine tidy.keep (writer_reject registry receipt) fun bare => ?_
  rw [Registry.reject, bare.unconfirmed?_eq_none]
  exact bare

theorem isTidy_attach (registry : Registry κ) (isOpen : Bool) (writer : Nat) :
    (registry.attach isOpen writer).1.IsTidy := by
  intro free
  rw [writer_attach] at free
  cases free

end EventFeed.Registry
