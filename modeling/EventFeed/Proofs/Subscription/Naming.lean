/-
**Wire names under any calls.**

Sessions need not follow one another: one may begin while the registry is still attached to the
writer of another, whose wire names then stay with subscriptions that the new writer no longer takes
a frame for. The table of wire names is right all the same. It gives exactly the subscriptions that
were asked for in the session that began last, and a name is drawn once.

* `IsSound.unconfirmed?_eq_some_iff`: what a receipt is about, read from the table;
* `given`: the wire names that a call gives;
* `Asks`: what subscribing, giving up and asking again leave of a registry;
* `asks_subscribe`, `asks_unsubscribe`, `asks_attachWithin`: these calls do no more, and keep the
  table right.
-/

import EventFeed.Proofs.Subscription.Routing

namespace EventFeed.Registry

open EventFeed.Wire (Frame)

variable {κ : Type} {registry before between after : Registry κ} {entry : Subscription κ}

/-! ### What the table tells -/

/-- **What a receipt is about**: the subscription that the table has under it, if the server has not
confirmed it yet. -/
theorem IsSound.unconfirmed?_eq_some_iff (sound : registry.IsSound) {receipt : String} :
    registry.unconfirmed? receipt = some entry ↔
      entry ∈ registry.entries ∧ (receipt, entry.id) ∈ registry.byWire ∧
        entry.confirmed = false := by
  rw [unconfirmed?, Option.filter_eq_some_iff, sound.live?_eq_some_iff, Bool.not_eq_true',
    and_assoc]

/-- The table has no subscription under two names, and no name for two. -/
theorem IsSound.eq_iff_of_listed (sound : registry.IsSound) {wireName other : String}
    {id held : Nat} (listed : (wireName, id) ∈ registry.byWire)
    (listedToo : (other, held) ∈ registry.byWire) :
    other = wireName ↔ held = id := by
  obtain ⟨first, member, rfl, named⟩ := sound.indexed wireName id listed
  obtain ⟨second, memberToo, rfl, namedToo⟩ := sound.indexed other held listedToo
  constructor
  · rintro rfl
    exact sound.apart second memberToo first member other namedToo named
  · intro same
    rw [sound.eq_of_id memberToo member same, named] at namedToo
    exact (Option.some.inj namedToo).symm

/-- Whether a wire name was drawn before now. -/
def IsDrawn (registry : Registry κ) (wireName : String) : Prop :=
  ∃ number < registry.drawn, wireName = identifier registry.seed .subscription number

/-- Names that were drawn before an earlier moment were drawn before now. -/
theorem IsDrawn.mono {wireName : String} (drawn : before.IsDrawn wireName)
    (seed : after.seed = before.seed) (more : before.drawn ≤ after.drawn) :
    after.IsDrawn wireName := by
  obtain ⟨number, earlier, named⟩ := drawn
  exact ⟨number, Nat.lt_of_lt_of_le earlier more, seed ▸ named⟩

/-- The wire names that subscriptions have, with their numbers. -/
def names (registry : Registry κ) : List (String × Nat) :=
  registry.entries.filterMap fun entry => entry.wireName.map fun wireName => (wireName, entry.id)

/-- The wire names that subscriptions have now and had not before. -/
def given (before after : Registry κ) : List (String × Nat) :=
  after.names.filter fun pair => pair ∉ before.names

theorem mem_names {wireName : String} {id : Nat} : (wireName, id) ∈ registry.names ↔
    ∃ entry ∈ registry.entries, entry.wireName = some wireName ∧ entry.id = id := by
  simp only [names, List.mem_filterMap, Option.map_eq_some_iff, Prod.mk.injEq]
  constructor
  · rintro ⟨entry, member, name, named, rfl, rfl⟩
    exact ⟨entry, member, named, rfl⟩
  · rintro ⟨entry, member, named, rfl⟩
    exact ⟨entry, member, wireName, named, rfl, rfl⟩

theorem mem_given {pair : String × Nat} :
    pair ∈ given before after ↔ pair ∈ after.names ∧ pair ∉ before.names := by
  simp [given]

theorem given_eq_nil (fewer : after.names ⊆ before.names) : given before after = [] :=
  List.filter_eq_nil_iff.mpr fun _ member => by simpa using fewer member

theorem IsSound.mem_names_of_listed (sound : registry.IsSound) {pair : String × Nat}
    (listed : pair ∈ registry.byWire) : pair ∈ registry.names := by
  obtain ⟨entry, member, same, named⟩ := sound.indexed pair.1 pair.2 listed
  exact mem_names.mpr ⟨entry, member, named, same⟩

/-- Names in the table were drawn before now. -/
theorem IsSound.isDrawn_of_mem_names (sound : registry.IsSound) {wireName : String} {id : Nat}
    (named : (wireName, id) ∈ registry.names) : registry.IsDrawn wireName := by
  obtain ⟨entry, member, named, -⟩ := mem_names.mp named
  exact sound.drawn entry member wireName named

/-! ### What is asked for -/

/-- Whether a wire name was drawn between two moments. -/
def IsNew (before after : Registry κ) (wireName : String) : Prop :=
  ∃ number, before.drawn ≤ number ∧ number < after.drawn ∧
    wireName = identifier after.seed .subscription number

/-- What is drawn later was not drawn before. -/
theorem not_isDrawn_of_isNew (seed : after.seed = before.seed) {wireName : String}
    (new : IsNew before after wireName) : ¬before.IsDrawn wireName := by
  obtain ⟨number, later, -, named⟩ := new
  rintro ⟨other, earlier, namedToo⟩
  rw [seed, namedToo] at named
  have same : other = number := (identifier_injective named).2
  exact absurd same (Nat.ne_of_lt (Nat.lt_of_lt_of_le earlier later))

theorem IsNew.mono (seed : after.seed = between.seed) (drawn : between.drawn ≤ after.drawn)
    {wireName : String} (new : IsNew before between wireName) : IsNew before after wireName := by
  obtain ⟨number, later, earlier, rfl⟩ := new
  exact ⟨number, later, Nat.lt_of_lt_of_le earlier drawn, by rw [seed]⟩

theorem IsNew.of_later (drawn : before.drawn ≤ between.drawn) {wireName : String}
    (new : IsNew between after wireName) : IsNew before after wireName := by
  obtain ⟨number, later, earlier, rfl⟩ := new
  exact ⟨number, Nat.le_trans drawn later, earlier, rfl⟩

/-- **Subscriptions are made, given up and asked for**: each that is left is as before, or it is not
confirmed and has no name or a new one, which is in the table; what is new in the table has a new
name; and the table loses names only with their subscriptions. -/
structure Asks (before after : Registry κ) : Prop where
  sound : after.IsSound
  seed : after.seed = before.seed
  made : before.made ≤ after.made
  drawn : before.drawn ≤ after.drawn
  entries : ∀ entry ∈ after.entries, entry ∈ before.entries ∨ entry.confirmed = false ∧
    ∀ wireName, entry.wireName = some wireName →
      (wireName, entry.id) ∈ after.byWire ∧ IsNew before after wireName
  known : ∀ entry ∈ after.entries, entry.id < before.made →
    ∃ held ∈ before.entries, held.id = entry.id
  listed : ∀ pair ∈ after.byWire, pair ∈ before.byWire ∨ IsNew before after pair.1
  kept : ∀ pair ∈ before.byWire, pair.2 < before.made →
    (∃ entry ∈ after.entries, entry.id = pair.2) → pair ∈ after.byWire

theorem IsSound.asks_refl (sound : registry.IsSound) : Asks registry registry where
  sound := sound
  seed := rfl
  made := Nat.le_refl _
  drawn := Nat.le_refl _
  entries := fun _ => .inl
  known := fun entry member _ => ⟨entry, member, rfl⟩
  listed := fun _ => .inl
  kept := fun _ listed _ _ => listed

theorem Asks.trans (first : Asks before between) (second : Asks between after) :
    Asks before after where
  sound := second.sound
  seed := second.seed.trans first.seed
  made := Nat.le_trans first.made second.made
  drawn := Nat.le_trans first.drawn second.drawn
  entries := by
    intro entry member
    rcases second.entries entry member with old | ⟨unconfirmed, asked⟩
    · refine (first.entries entry old).imp_right ?_
      rintro ⟨unconfirmed, asked⟩
      refine ⟨unconfirmed, fun wireName named => ?_⟩
      obtain ⟨listed, new⟩ := asked wireName named
      exact ⟨second.kept _ listed (first.sound.made entry old) ⟨entry, member, rfl⟩,
        new.mono second.seed second.drawn⟩
    · refine .inr ⟨unconfirmed, fun wireName named => ?_⟩
      exact (asked wireName named).imp_right fun new => new.of_later first.drawn
  known := by
    intro entry member old
    obtain ⟨held, heldMember, same⟩ :=
      second.known entry member (Nat.lt_of_lt_of_le old first.made)
    rw [← same] at old ⊢
    exact first.known held heldMember old
  listed := by
    intro pair listed
    rcases second.listed pair listed with old | new
    · exact (first.listed pair old).imp_right fun new => new.mono second.seed second.drawn
    · exact .inr (new.of_later first.drawn)
  kept := by
    rintro pair listed old ⟨entry, member, same⟩
    have older : pair.2 < between.made := Nat.lt_of_lt_of_le old first.made
    obtain ⟨held, heldMember, sameToo⟩ := second.known entry member (same ▸ older)
    exact second.kept pair (first.kept pair listed old ⟨held, heldMember, sameToo.trans same⟩) older
      ⟨entry, member, same⟩

/-- One subscription is asked for that is not in the table of wire names. -/
theorem IsSound.asks_flush (sound : registry.IsSound) (member : entry ∈ registry.entries)
    (unlisted : ∀ wireName, (wireName, entry.id) ∉ registry.byWire) (isOpen : Bool)
    (attached : registry.writer ≠ none) : Asks registry (registry.flush isOpen entry).1 := by
  have soundAfter := sound.ask member unlisted isOpen attached
  cases isOpen with
  | false =>
    exact { sound.asks_refl with
      sound := soundAfter, drawn := Nat.le_succ _, entries := fun _ => .inl,
      listed := fun _ => .inl }
  | true =>
    have new : IsNew registry (registry.flush true entry).1
        (identifier registry.seed .subscription registry.drawn) :=
      ⟨registry.drawn, Nat.le_refl _, Nat.lt_succ_self _, rfl⟩
    refine ⟨soundAfter, rfl, Nat.le_refl _, Nat.le_succ _, fun changed found => ?_,
      fun changed found _ => ?_, fun pair listed => ?_, fun _ listed _ _ => .tail _ listed⟩
    · rcases sound.eq_or_mem_of_mem_change member found with rfl | ⟨old, -⟩
      · refine .inr ⟨rfl, fun wireName named => ?_⟩
        obtain rfl := Option.some.inj named
        exact ⟨List.mem_cons_self, new⟩
      · exact .inl old
    · obtain ⟨held, heldMember, rfl⟩ := mem_change.mp found
      exact ⟨held, heldMember, by split <;> rfl⟩
    · rcases List.mem_cons.mp listed with rfl | old
      · exact .inr new
      · exact .inl old

/-- Several subscriptions are asked for that are not in the table of wire names. -/
theorem IsSound.asks_flushWithin {entries : List (Subscription κ)} (room : Nat)
    (distinct : (entries.map Subscription.id).Nodup) (sound : registry.IsSound)
    (members : ∀ entry ∈ entries, entry ∈ registry.entries)
    (unlisted : ∀ entry ∈ entries, ∀ wireName, (wireName, entry.id) ∉ registry.byWire)
    (attached : registry.writer ≠ none) : Asks registry (registry.flushWithin room entries) := by
  induction entries generalizing registry room with
  | nil => exact sound.asks_refl
  | cons entry entries ih =>
    rw [List.map_cons, List.nodup_cons] at distinct
    rw [List.forall_mem_cons] at members unlisted
    have different : ∀ later ∈ entries, later.id ≠ entry.id := fun later member same =>
      distinct.1 (same ▸ List.mem_map_of_mem member)
    have first := sound.asks_flush members.1 unlisted.1 (0 < room) attached
    refine first.trans (ih _ distinct.2 first.sound
      (fun later member => mem_flush_of_ne (members.2 later member) (different later member) _)
      (fun later member wireName => ?_) (writer_flush registry _ entry ▸ attached))
    have still := unlisted.2 later member wireName
    cases decide (0 < room) with
    | true =>
      refine fun listed => still ((List.mem_cons.mp listed).resolve_left fun newest => ?_)
      exact different later member (Prod.mk.inj newest).2
    | false => exact still

/-- **A session begins with an empty table**, whether another session is still there or not. -/
theorem IsSound.asks_attachWithin (sound : registry.IsSound) (room writer : Nat) :
    Asks { registry with byWire := [], retired := [], writer := some writer }
      (registry.attachWithin room writer) :=
  (sound.cleared writer).asks_flushWithin room sound.ids (fun _ member => member)
    (fun _ _ _ => List.not_mem_nil) nofun

/-- A new subscription has the next number, and is asked for if there is a session. -/
theorem IsSound.asks_subscribe (sound : registry.IsSound) {isOpen : Bool} {destination : String}
    {callback : κ} {id : Nat} {frames : List Frame}
    (made : registry.subscribe isOpen destination callback = .ok (id, after, frames)) :
    Asks registry after := by
  let newest : Subscription κ := ⟨registry.made, destination, callback, none, false⟩
  have soundGrown : { registry with
      entries := registry.entries ++ [newest], made := registry.made + 1 }.IsSound :=
    sound.grow rfl rfl
  have grown : Asks registry { registry with
      entries := registry.entries ++ [newest], made := registry.made + 1 } := by
    refine { sound.asks_refl with
      sound := soundGrown, made := Nat.le_succ _, entries := fun entry member => ?_,
      known := fun entry member old => ?_, kept := fun _ listed _ _ => listed }
    · refine (List.mem_append.mp member).imp_right fun new => ?_
      rw [List.mem_singleton.mp new]
      exact ⟨rfl, nofun⟩
    · refine ⟨entry, (List.mem_append.mp member).resolve_right fun new => ?_, rfl⟩
      rw [List.mem_singleton.mp new] at old
      exact Nat.lt_irrefl _ old
  obtain ⟨-, -, ⟨-, rfl, -⟩ | ⟨attached, rfl, -⟩⟩ := subscribe_cases made
  · exact grown
  · have member : newest ∈ registry.entries ++ [newest] :=
      List.mem_append_right _ List.mem_cons_self
    exact grown.trans
      (soundGrown.asks_flush member (soundGrown.unlisted member rfl) isOpen attached)

/-- Giving up a subscription takes its name out of the table, and no other. -/
theorem IsSound.asks_unsubscribe (sound : registry.IsSound) (isOpen : Bool) (id : Nat) :
    Asks registry (registry.unsubscribe isOpen id).2.1 := by
  have soundAfter := sound.unsubscribe isOpen id
  cases found : registry.find? id with
  | none =>
    rw [unsubscribe_of_absent found]
    exact sound.asks_refl
  | some entry =>
    obtain ⟨member, rfl⟩ := mem_of_find? found
    have left {held : Subscription κ} (heldMember : held ∈ without registry.entries entry.id) :
        held ∈ registry.entries :=
      (mem_without.mp heldMember).1
    cases named : entry.wireName with
    | none =>
      rw [unsubscribe_of_unnamed found named] at soundAfter ⊢
      exact { sound.asks_refl with
        sound := soundAfter, entries := fun _ heldMember => .inl (left heldMember),
        known := fun held heldMember _ => ⟨held, left heldMember, rfl⟩,
        kept := fun _ listed _ _ => listed }
    | some wireName =>
      rw [(unsubscribe_of_named found named isOpen).2] at soundAfter ⊢
      refine { sound.asks_refl with
        sound := soundAfter, entries := fun _ heldMember => .inl (left heldMember),
        known := fun held heldMember _ => ⟨held, left heldMember, rfl⟩,
        listed := fun pair listed => .inl (List.mem_filter.mp listed).1,
        kept := ?_ }
      rintro ⟨key, number⟩ listed - ⟨held, heldMember, rfl⟩
      refine List.mem_filter.mpr ⟨listed, decide_eq_true fun same : key = wireName => ?_⟩
      obtain ⟨heldBefore, different⟩ := mem_without.mp heldMember
      have heldNamed := (sound.named_of_mem listed (sound.find?_of_mem heldBefore)).2.2
      exact different (sound.apart held heldBefore entry member key heldNamed (same ▸ named))

end EventFeed.Registry
