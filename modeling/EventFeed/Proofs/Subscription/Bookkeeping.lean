/-
**What the operations of a registry keep.**

The registry keeps each subscription under a number of its own, and the wire names of a session in a
table that gives their subscriptions; the names come from a row that is never repeated. `IsSound`
says how these parts agree, and the operations keep it.

* `writer_subscribe`, `writer_unsubscribe`, `writer_confirm`, `writer_reject`: nothing but the
  beginning and the end of a session changes the writer that the registry is attached to;
* `flushAll_of_open`, `flushAll_of_closed`: what asking for several subscriptions comes to;
* `IsSound.cleared`, `IsSound.flush`: a session begins with an empty table, and asking for one
  subscription after the other keeps the parts in agreement;
* `IsSound.subscribe`, …, `IsSound.detach`: so does every other operation.
-/

import EventFeed.Subscription.Registry
import Mathlib.Data.List.Nodup

namespace EventFeed.Registry

open EventFeed.Wire (Frame)

variable {κ : Type}

/-! ### The writer -/

@[simp] theorem writer_flush (registry : Registry κ) (isOpen : Bool) (entry : Subscription κ) :
    (registry.flush isOpen entry).1.writer = registry.writer := by
  cases isOpen <;> rfl

@[simp] theorem writer_flushAll (isOpen : Bool) (registry : Registry κ)
    (entries : List (Subscription κ)) :
    (flushAll isOpen registry entries).1.writer = registry.writer := by
  induction entries generalizing registry with
  | nil => rfl
  | cons entry entries ih => rw [flushAll, ih, writer_flush]

@[simp] theorem writer_attach (registry : Registry κ) (isOpen : Bool) (writer : Nat) :
    (registry.attach isOpen writer).1.writer = some writer :=
  writer_flushAll _ _ _

theorem writer_subscribe {registry after : Registry κ} {isOpen : Bool} {destination : String}
    {callback : κ} {id : Nat} {frames : List Frame}
    (made : registry.subscribe isOpen destination callback = .ok (id, after, frames)) :
    after.writer = registry.writer := by
  obtain ⟨-, -, ⟨-, rfl, -⟩ | ⟨-, rfl, -⟩⟩ := subscribe_cases made
  · rfl
  · rw [writer_flush]

@[simp] theorem writer_unsubscribe (registry : Registry κ) (isOpen : Bool) (id : Nat) :
    (registry.unsubscribe isOpen id).2.1.writer = registry.writer := by
  unfold unsubscribe
  split
  · rfl
  · dsimp only
    split <;> rfl

@[simp] theorem writer_confirm (registry : Registry κ) (receipt : String) :
    (registry.confirm receipt).2.writer = registry.writer := by
  unfold confirm
  split <;> rfl

@[simp] theorem writer_reject (registry : Registry κ) (receipt : String) :
    (registry.reject receipt).2.writer = registry.writer := by
  unfold reject
  split <;> rfl

/-! ### Subscriptions and their wire names -/

/-- How the parts of a registry agree: the subscriptions stand in the order of their numbers; the
table of wire names gives the subscriptions that have them; the names were drawn before now, each
for one subscription; and there are none without a session. -/
structure IsSound (registry : Registry κ) : Prop where
  ordered : (registry.entries.map Subscription.id).Pairwise (· < ·)
  made : ∀ entry ∈ registry.entries, entry.id < registry.made
  indexed : ∀ wireName id, (wireName, id) ∈ registry.byWire →
    ∃ entry ∈ registry.entries, entry.id = id ∧ entry.wireName = some wireName
  drawn : ∀ entry ∈ registry.entries, ∀ wireName, entry.wireName = some wireName →
    ∃ number < registry.drawn, wireName = identifier registry.seed .subscription number
  apart : ∀ first ∈ registry.entries, ∀ second ∈ registry.entries, ∀ wireName,
    first.wireName = some wireName → second.wireName = some wireName → first.id = second.id
  detached : registry.writer = none → ∀ entry ∈ registry.entries, entry.wireName = none

/-- No number is given twice. -/
theorem IsSound.ids {registry : Registry κ} (sound : registry.IsSound) :
    (registry.entries.map Subscription.id).Nodup :=
  sound.ordered.imp Nat.ne_of_lt

theorem IsSound.eq_of_id {registry : Registry κ} (sound : registry.IsSound)
    {first second : Subscription κ} (member : first ∈ registry.entries)
    (memberToo : second ∈ registry.entries) (same : first.id = second.id) : first = second :=
  List.inj_on_of_nodup_map sound.ids member memberToo same

/-- The next number comes after those of all subscriptions. -/
theorem IsSound.ordered_concat {registry : Registry κ} (sound : registry.IsSound)
    (entry : Subscription κ) (newest : entry.id = registry.made) :
    ((registry.entries ++ [entry]).map Subscription.id).Pairwise (· < ·) := by
  rw [List.map_append, List.pairwise_append]
  refine ⟨sound.ordered, List.pairwise_singleton _ _, fun old oldMember new newMember => ?_⟩
  obtain ⟨held, member, rfl⟩ := List.mem_map.mp oldMember
  rw [List.mem_singleton.mp newMember, newest]
  exact sound.made held member

/-- No subscription has the name that is drawn next. -/
theorem IsSound.fresh {registry : Registry κ} (sound : registry.IsSound) {entry : Subscription κ}
    (member : entry ∈ registry.entries) :
    entry.wireName ≠ some (identifier registry.seed .subscription registry.drawn) := by
  intro same
  obtain ⟨number, earlier, named⟩ := sound.drawn entry member _ same
  exact absurd (identifier_injective named).2 (Nat.ne_of_gt earlier)

theorem isSound_empty (seed : Nat) : (empty seed : Registry κ).IsSound := by
  constructor <;> simp [empty]

/-! ### What is in the list after one change -/

theorem mem_change {entries : List (Subscription κ)} {id : Nat}
    {update : Subscription κ → Subscription κ} {entry : Subscription κ} :
    entry ∈ change entries id update ↔
      ∃ held ∈ entries, entry = if held.id = id then update held else held := by
  simp only [change, List.mem_map, eq_comm]

theorem mem_without {entries : List (Subscription κ)} {id : Nat} {entry : Subscription κ} :
    entry ∈ without entries id ↔ entry ∈ entries ∧ entry.id ≠ id := by
  simp [without]

/-- What is found under a number is a subscription, and has the number. -/
theorem mem_of_find? {registry : Registry κ} {id : Nat} {entry : Subscription κ}
    (found : registry.find? id = some entry) : entry ∈ registry.entries ∧ entry.id = id :=
  ⟨List.mem_of_find?_eq_some found, by simpa using List.find?_some found⟩

theorem ids_change (entries : List (Subscription κ)) (id : Nat)
    (update : Subscription κ → Subscription κ) (sameId : ∀ entry, (update entry).id = entry.id) :
    (change entries id update).map Subscription.id = entries.map Subscription.id := by
  rw [change, List.map_map]
  refine List.map_congr_left fun entry _ => ?_
  by_cases same : entry.id = id <;> simp [same, sameId]

/-! ### Asking for several subscriptions -/

/-- Subscriptions with the names that are drawn for them, from a number on. -/
def naming (seed : Nat) : Nat → List (Subscription κ) → List (Subscription κ)
  | _, [] => []
  | number, entry :: entries =>
    { entry with wireName := some (identifier seed .subscription number), confirmed := false } ::
      naming seed (number + 1) entries

/-- The frame that asks for a subscription under its wire name. -/
def request (entry : Subscription κ) : Frame :=
  subscribeFrame (entry.wireName.getD "") entry.destination

theorem flushAll_cons (isOpen : Bool) (registry : Registry κ) (entry : Subscription κ)
    (entries : List (Subscription κ)) :
    flushAll isOpen registry (entry :: entries) =
      ((flushAll isOpen (registry.flush isOpen entry).1 entries).1,
        (registry.flush isOpen entry).2 ++
          (flushAll isOpen (registry.flush isOpen entry).1 entries).2) :=
  rfl

/-- For each subscription one name is drawn, whether the writer takes frames or not. -/
theorem drawn_flushAll (isOpen : Bool) (registry : Registry κ) (entries : List (Subscription κ)) :
    (flushAll isOpen registry entries).1.seed = registry.seed ∧
      (flushAll isOpen registry entries).1.drawn = registry.drawn + entries.length := by
  induction entries generalizing registry with
  | nil => exact ⟨rfl, rfl⟩
  | cons entry entries ih =>
    have one : (registry.flush isOpen entry).1.seed = registry.seed ∧
        (registry.flush isOpen entry).1.drawn = registry.drawn + 1 := by
      cases isOpen <;> exact ⟨rfl, rfl⟩
    obtain ⟨laterSeed, laterDrawn⟩ := ih (registry.flush isOpen entry).1
    rw [flushAll_cons, laterSeed, laterDrawn, one.1, one.2, List.length_cons]
    exact ⟨rfl, by omega⟩

/-- A writer that takes nothing gets nothing, and no subscription changes. -/
theorem flushAll_of_closed (registry : Registry κ) (entries : List (Subscription κ)) :
    (flushAll false registry entries).1.entries = registry.entries ∧
      (flushAll false registry entries).2 = [] := by
  induction entries generalizing registry with
  | nil => exact ⟨rfl, rfl⟩
  | cons entry entries ih => exact ih (registry.flush false entry).1

/-- Changing the first of the subscriptions that are left changes no other. -/
theorem change_cons {earlier later : List (Subscription κ)} {entry : Subscription κ}
    {update : Subscription κ → Subscription κ}
    (distinct : ((earlier ++ entry :: later).map Subscription.id).Nodup) :
    change (earlier ++ entry :: later) entry.id update = earlier ++ update entry :: later := by
  have kept : ∀ others : List (Subscription κ), entry.id ∉ others.map Subscription.id →
      change others entry.id update = others := by
    intro others absent
    refine (List.map_congr_left fun other member => ?_).trans (List.map_id _)
    rw [if_neg]
    · rfl
    · intro same
      exact absent (same ▸ List.mem_map_of_mem member)
  rw [List.map_append, List.map_cons, List.nodup_append, List.nodup_cons] at distinct
  obtain ⟨-, ⟨notLater, -⟩, apart⟩ := distinct
  have notEarlier : entry.id ∉ earlier.map Subscription.id := fun member =>
    apart _ member _ List.mem_cons_self rfl
  have split : change (earlier ++ entry :: later) entry.id update =
      change earlier entry.id update ++ update entry :: change later entry.id update := by
    simp [change]
  rw [split, kept earlier notEarlier, kept later notLater]

/-- **A writer that takes frames gets one request for each subscription, in order**, under the names
that are drawn for them; the subscriptions before and behind them do not change. -/
theorem flushAll_of_open {registry : Registry κ} {earlier entries later : List (Subscription κ)}
    (entriesAre : registry.entries = earlier ++ entries ++ later)
    (distinct : (registry.entries.map Subscription.id).Nodup) :
    (flushAll true registry entries).1.entries =
        earlier ++ naming registry.seed registry.drawn entries ++ later ∧
      (flushAll true registry entries).2 =
        (naming registry.seed registry.drawn entries).map request := by
  induction entries generalizing registry earlier with
  | nil => exact ⟨entriesAre, rfl⟩
  | cons entry entries ih =>
    let named : Subscription κ :=
      { entry with
        wireName := some (identifier registry.seed .subscription registry.drawn)
        confirmed := false }
    rw [List.append_assoc, List.cons_append] at entriesAre
    have flushedEntries :
        (registry.flush true entry).1.entries = (earlier ++ [named]) ++ entries ++ later := by
      rw [entriesAre] at distinct
      simp only [flush, if_true, entriesAre]
      rw [change_cons distinct, List.append_assoc, List.append_assoc]
      rfl
    have flushedIds : ((registry.flush true entry).1.entries.map Subscription.id).Nodup := by
      have same : (registry.flush true entry).1.entries.map Subscription.id =
          registry.entries.map Subscription.id := by
        rw [flushedEntries, entriesAre]
        simp [named]
      exact same ▸ distinct
    obtain ⟨laterEntries, laterFrames⟩ := ih flushedEntries flushedIds
    refine ⟨?_, ?_⟩
    · rw [flushAll_cons, laterEntries, List.append_assoc earlier]
      rfl
    · rw [flushAll_cons, laterFrames]
      rfl

/-- **A session that begins with a writer that takes frames asks for every subscription, in order**,
under the names that are drawn next. -/
theorem attach_of_open {registry : Registry κ}
    (distinct : (registry.entries.map Subscription.id).Nodup) (writer : Nat) :
    (registry.attach true writer).1.entries =
        naming registry.seed registry.drawn registry.entries ∧
      (registry.attach true writer).2 =
        (naming registry.seed registry.drawn registry.entries).map request := by
  let begun : Registry κ := { registry with byWire := [], retired := [], writer := some writer }
  have entriesAre : begun.entries = [] ++ registry.entries ++ [] := (List.append_nil _).symm
  have flushed := flushAll_of_open entriesAre distinct
  rwa [List.nil_append, List.append_nil] at flushed

theorem attach_of_closed (registry : Registry κ) (writer : Nat) :
    (registry.attach false writer).1.entries = registry.entries ∧
      (registry.attach false writer).2 = [] :=
  flushAll_of_closed _ _

/-! ### New subscriptions and removals -/

/-- A new subscription that cannot be asked for. -/
theorem subscribe_of_closed (registry : Registry κ) {destination : String}
    (named : Text.allBlank destination = false) (callback : κ) :
    ∃ drawn, registry.drawn ≤ drawn ∧ registry.subscribe false destination callback =
      .ok (registry.made, { registry with
        entries := registry.entries ++ [⟨registry.made, destination, callback, none, false⟩]
        made := registry.made + 1
        drawn }, []) := by
  unfold subscribe
  rw [if_neg (by rw [named]; exact Bool.false_ne_true)]
  dsimp only
  split
  · exact ⟨registry.drawn, Nat.le_refl _, rfl⟩
  · exact ⟨registry.drawn + 1, Nat.le_succ _, rfl⟩

/-- A new subscription that is asked for at once. -/
theorem subscribe_of_open {registry : Registry κ} (sound : registry.IsSound)
    (attached : registry.writer ≠ none) {destination : String}
    (named : Text.allBlank destination = false) (callback : κ) :
    let wireName := identifier registry.seed .subscription registry.drawn
    registry.subscribe true destination callback =
      .ok (registry.made, { registry with
        entries := registry.entries ++
          [⟨registry.made, destination, callback, some wireName, false⟩]
        byWire := (wireName, registry.made) :: registry.byWire
        made := registry.made + 1
        drawn := registry.drawn + 1 }, [subscribeFrame wireName destination]) := by
  let entry : Subscription κ := ⟨registry.made, destination, callback, none, false⟩
  have changed : ∀ update : Subscription κ → Subscription κ,
      change (registry.entries ++ [entry]) registry.made update =
        registry.entries ++ [update entry] :=
    fun update => change_cons ((sound.ordered_concat entry rfl).imp Nat.ne_of_lt)
  obtain ⟨writer, attachedTo⟩ := Option.ne_none_iff_exists'.mp attached
  unfold subscribe
  rw [if_neg (by rw [named]; exact Bool.false_ne_true), attachedTo]
  simp only [flush, if_true]
  rw [changed]

theorem drawn_unsubscribe (registry : Registry κ) (isOpen : Bool) (id : Nat) :
    (registry.unsubscribe isOpen id).2.1.seed = registry.seed ∧
      (registry.unsubscribe isOpen id).2.1.drawn = registry.drawn := by
  unfold unsubscribe
  split
  · exact ⟨rfl, rfl⟩
  · dsimp only
    split <;> exact ⟨rfl, rfl⟩

/-- A removal queues nothing for a writer that takes nothing. -/
theorem unsubscribe_of_closed (registry : Registry κ) (id : Nat) :
    (registry.unsubscribe false id).2.2 = [] := by
  unfold unsubscribe
  split
  · rfl
  · dsimp only
    split
    · rfl
    · simp

/-- A removal of a subscription that was asked for asks for its end. -/
theorem unsubscribe_of_open {registry : Registry κ} (attached : registry.writer ≠ none) {id : Nat}
    {entry : Subscription κ} (found : registry.find? id = some entry) {wireName : String}
    (named : entry.wireName = some wireName) :
    (registry.unsubscribe true id).2.2 = [unsubscribeFrame wireName] := by
  obtain ⟨writer, attachedTo⟩ := Option.ne_none_iff_exists'.mp attached
  simp [unsubscribe, found, named, attachedTo]

/-- A subscription as the broker sees it: its wire name and its destination. -/
def pair (entry : Subscription κ) : Option String × String :=
  (entry.wireName, entry.destination)

/-- What is left without one subscription is what has not its wire name. -/
theorem IsSound.pairs_without {registry : Registry κ} (sound : registry.IsSound)
    {entry : Subscription κ} (member : entry ∈ registry.entries) {wireName : String}
    (named : entry.wireName = some wireName) :
    (without registry.entries entry.id).map pair =
      (registry.entries.map pair).filter fun pair => pair.1 ≠ some wireName := by
  rw [List.filter_map, without]
  congr 1
  refine List.filter_congr fun held heldMember => ?_
  have same : held.id = entry.id ↔ held.wireName = some wireName := by
    constructor
    · intro sameId
      rw [sound.eq_of_id heldMember member sameId, named]
    · intro heldNamed
      exact sound.apart held heldMember entry member wireName heldNamed named
  exact decide_eq_decide.mpr (not_congr same)

/-- A subscription that was named has a name, and its number and destination as before. -/
theorem exists_mem_naming {entry : Subscription κ} {entries : List (Subscription κ)}
    (member : entry ∈ entries) (seed number : Nat) :
    ∃ wireName, { entry with wireName := some wireName, confirmed := false } ∈
      naming seed number entries := by
  induction entries generalizing number with
  | nil => cases member
  | cons first entries ih =>
    rcases List.mem_cons.mp member with rfl | later
    · exact ⟨_, List.mem_cons_self⟩
    · obtain ⟨wireName, named⟩ := ih later (number + 1)
      exact ⟨wireName, List.mem_cons_of_mem _ named⟩

/-- Subscriptions that were named all have names, and keep their destinations. -/
theorem pairs_naming (seed number : Nat) (entries : List (Subscription κ)) :
    (naming seed number entries).map pair =
      (naming seed number entries).map fun entry =>
        (some (entry.wireName.getD ""), entry.destination) := by
  induction entries generalizing number with
  | nil => rfl
  | cons entry entries ih =>
    simp only [naming, List.map_cons, ih]
    rfl

/-- The names of subscriptions that were named are those drawn from the number on. -/
theorem names_naming (seed number : Nat) (entries : List (Subscription κ)) :
    (naming seed number entries).map (fun entry => entry.wireName.getD "") =
      (List.range' number entries.length).map (identifier seed .subscription) := by
  induction entries generalizing number with
  | nil => rfl
  | cons entry entries ih =>
    simp only [naming, List.map_cons, ih, List.length_cons, List.range'_succ]
    rfl

theorem length_naming (seed number : Nat) (entries : List (Subscription κ)) :
    (naming seed number entries).length = entries.length := by
  induction entries generalizing number with
  | nil => rfl
  | cons entry entries ih => exact congrArg Nat.succ (ih (number + 1))

/-- Subscriptions that were named all have names. -/
theorem wireName_ne_none_of_mem_naming {seed number : Nat} {entries : List (Subscription κ)}
    {entry : Subscription κ} (member : entry ∈ naming seed number entries) :
    entry.wireName ≠ none := by
  induction entries generalizing number with
  | nil => cases member
  | cons first entries ih =>
    rcases List.mem_cons.mp member with rfl | later
    · exact Option.some_ne_none _
    · exact ih later

/-- Where only the first subscriptions were named, those are the first ones. -/
theorem take_naming_append (seed number : Nat) (entries : List (Subscription κ)) (room : Nat) :
    (naming seed number (entries.take room) ++ entries.drop room).take room =
      naming seed number (entries.take room) := by
  rcases Nat.le_total entries.length room with enough | short
  · rw [List.drop_of_length_le enough, List.append_nil, List.take_of_length_le]
    rw [length_naming, List.length_take]
    exact Nat.min_le_left room _
  · refine List.take_left' ?_
    rw [length_naming, List.length_take, Nat.min_eq_left short]

/-! ### Every operation keeps the agreement -/

section Operations

variable {registry : Registry κ}

/-- A registry whose subscriptions stay as they are while a name is drawn. -/
theorem IsSound.skip (sound : registry.IsSound) :
    { registry with drawn := registry.drawn + 1 }.IsSound := by
  refine ⟨sound.ordered, sound.made, sound.indexed, fun held member wireName named => ?_,
    sound.apart, sound.detached⟩
  obtain ⟨number, earlier, drawn⟩ := sound.drawn held member wireName named
  exact ⟨number, Nat.lt_succ_of_lt earlier, drawn⟩

/-- A subscription without a wire name is not in the table of wire names. -/
theorem IsSound.unlisted (sound : registry.IsSound) {entry : Subscription κ}
    (member : entry ∈ registry.entries) (unnamed : entry.wireName = none) (wireName : String) :
    (wireName, entry.id) ∉ registry.byWire := by
  intro pair
  obtain ⟨held, heldMember, same, named⟩ := sound.indexed wireName entry.id pair
  rw [sound.eq_of_id heldMember member same, unnamed] at named
  cases named

/-- A subscription that is not in the table of wire names gets one that no other has. -/
theorem IsSound.name (sound : registry.IsSound) {entry : Subscription κ}
    (member : entry ∈ registry.entries)
    (unlisted : ∀ wireName, (wireName, entry.id) ∉ registry.byWire) {fresh : String}
    (new : ∀ held ∈ registry.entries, held.wireName ≠ some fresh)
    (drawn : ∃ number < registry.drawn, fresh = identifier registry.seed .subscription number)
    (attached : registry.writer ≠ none) :
    { registry with
      entries := change registry.entries entry.id fun entry =>
        { entry with wireName := some fresh, confirmed := false }
      byWire := (fresh, entry.id) :: registry.byWire }.IsSound where
  ordered := by
    have same := ids_change registry.entries entry.id
      (fun entry => { entry with wireName := some fresh, confirmed := false }) fun _ => rfl
    exact same ▸ sound.ordered
  made := by
    intro changed changedMember
    obtain ⟨held, heldMember, rfl⟩ := mem_change.mp changedMember
    have bound := sound.made held heldMember
    split <;> exact bound
  indexed := by
    intro wireName id pair
    rcases List.mem_cons.mp pair with newest | old
    · obtain ⟨rfl, rfl⟩ := Prod.mk.inj newest
      exact ⟨_, mem_change.mpr ⟨entry, member, rfl⟩, by simp⟩
    · obtain ⟨held, heldMember, sameId, named⟩ := sound.indexed wireName id old
      refine ⟨held, mem_change.mpr ⟨held, heldMember, ?_⟩, sameId, named⟩
      rw [if_neg]
      intro same
      exact unlisted wireName (same ▸ sameId ▸ old)
  drawn := by
    intro changed changedMember wireName named
    obtain ⟨held, heldMember, rfl⟩ := mem_change.mp changedMember
    split at named
    · obtain rfl := Option.some.inj named
      exact drawn
    · exact sound.drawn held heldMember wireName named
  apart := by
    intro first firstMember second secondMember wireName firstNamed secondNamed
    obtain ⟨held, heldMember, rfl⟩ := mem_change.mp firstMember
    obtain ⟨other, otherMember, rfl⟩ := mem_change.mp secondMember
    split at firstNamed <;> split at secondNamed
    · rename_i heldIs otherIs
      simp only [heldIs, otherIs, if_true]
    · exact absurd (secondNamed.trans firstNamed.symm) (new other otherMember)
    · exact absurd (firstNamed.trans secondNamed.symm) (new held heldMember)
    · rename_i heldIs otherIs
      rw [if_neg heldIs, if_neg otherIs]
      exact sound.apart held heldMember other otherMember wireName firstNamed secondNamed
  detached := fun free => absurd free attached

/-- Asking for a subscription that is not in the table of wire names. -/
theorem IsSound.ask (sound : registry.IsSound) {entry : Subscription κ}
    (member : entry ∈ registry.entries)
    (unlisted : ∀ wireName, (wireName, entry.id) ∉ registry.byWire) (isOpen : Bool)
    (attached : registry.writer ≠ none) : (registry.flush isOpen entry).1.IsSound := by
  cases isOpen with
  | false => exact sound.skip
  | true =>
    exact sound.skip.name member unlisted (fun held heldMember => sound.fresh heldMember)
      ⟨registry.drawn, Nat.lt_succ_self _, rfl⟩ attached

/-- Asking for a subscription that has no wire name yet. -/
theorem IsSound.flush (sound : registry.IsSound) {entry : Subscription κ}
    (member : entry ∈ registry.entries) (unnamed : entry.wireName = none) (isOpen : Bool)
    (attached : registry.writer ≠ none) : (registry.flush isOpen entry).1.IsSound :=
  sound.ask member (sound.unlisted member unnamed) isOpen attached

/-- Asking for one subscription leaves the others alone. -/
theorem mem_flush_of_ne {held entry : Subscription κ} (member : held ∈ registry.entries)
    (different : held.id ≠ entry.id) (isOpen : Bool) :
    held ∈ (registry.flush isOpen entry).1.entries := by
  cases isOpen with
  | false => exact member
  | true => exact mem_change.mpr ⟨held, member, by rw [if_neg different]⟩

/-- A subscription that has the next number and no wire name comes last. -/
theorem IsSound.grow (sound : registry.IsSound) {entry : Subscription κ}
    (newest : entry.id = registry.made) (unnamed : entry.wireName = none) :
    { registry with
      entries := registry.entries ++ [entry], made := registry.made + 1 }.IsSound where
  ordered := sound.ordered_concat entry newest
  made := by
    intro held member
    rcases List.mem_append.mp member with old | new
    · exact Nat.lt_succ_of_lt (sound.made held old)
    · rw [List.mem_singleton.mp new, newest]
      exact Nat.lt_succ_self _
  indexed := by
    intro wireName id pair
    obtain ⟨held, member, found⟩ := sound.indexed wireName id pair
    exact ⟨held, List.mem_append_left _ member, found⟩
  drawn := by
    intro held member wireName named
    rcases List.mem_append.mp member with old | new
    · exact sound.drawn held old wireName named
    · rw [List.mem_singleton.mp new, unnamed] at named
      cases named
  apart := by
    intro first firstMember second secondMember wireName firstNamed secondNamed
    rcases List.mem_append.mp firstMember with old | new
    · rcases List.mem_append.mp secondMember with oldToo | new
      · exact sound.apart first old second oldToo wireName firstNamed secondNamed
      · rw [List.mem_singleton.mp new, unnamed] at secondNamed
        cases secondNamed
    · rw [List.mem_singleton.mp new, unnamed] at firstNamed
      cases firstNamed
  detached := by
    intro free held member
    rcases List.mem_append.mp member with old | new
    · exact sound.detached free held old
    · rw [List.mem_singleton.mp new, unnamed]

theorem IsSound.subscribe (sound : registry.IsSound) {after : Registry κ} {isOpen : Bool}
    {destination : String} {callback : κ} {id : Nat} {frames : List Frame}
    (made : registry.subscribe isOpen destination callback = .ok (id, after, frames)) :
    after.IsSound := by
  let entry : Subscription κ := ⟨registry.made, destination, callback, none, false⟩
  have grown : { registry with
      entries := registry.entries ++ [entry], made := registry.made + 1 }.IsSound :=
    sound.grow rfl rfl
  obtain ⟨-, -, ⟨-, rfl, -⟩ | ⟨attached, rfl, -⟩⟩ := subscribe_cases made
  · exact grown
  · exact grown.flush (List.mem_append_right _ List.mem_cons_self) rfl isOpen attached

/-- A subscription is taken out, and its wire name with it. -/
theorem IsSound.remove (sound : registry.IsSound) (id : Nat) (byWire : List (String × Nat))
    (retired : List String) (kept : ∀ pair ∈ byWire, pair ∈ registry.byWire ∧ pair.2 ≠ id) :
    { registry with entries := without registry.entries id, byWire, retired }.IsSound where
  ordered := sound.ordered.sublist (List.filter_sublist.map _)
  made := fun entry member => sound.made entry (mem_without.mp member).1
  indexed := by
    intro wireName other pair
    obtain ⟨old, different⟩ := kept _ pair
    obtain ⟨entry, member, same, named⟩ := sound.indexed wireName other old
    exact ⟨entry, mem_without.mpr ⟨member, same ▸ different⟩, same, named⟩
  drawn := fun entry member => sound.drawn entry (mem_without.mp member).1
  apart := fun first firstMember second secondMember =>
    sound.apart first (mem_without.mp firstMember).1 second (mem_without.mp secondMember).1
  detached := fun free entry member => sound.detached free entry (mem_without.mp member).1

/-- A pair of the table belongs to the subscription that has its number. -/
theorem IsSound.named_of_mem (sound : registry.IsSound) {wireName : String} {id : Nat}
    (pair : (wireName, id) ∈ registry.byWire) {entry : Subscription κ}
    (found : registry.find? id = some entry) :
    entry ∈ registry.entries ∧ entry.id = id ∧ entry.wireName = some wireName := by
  obtain ⟨member, rfl⟩ := mem_of_find? found
  obtain ⟨held, heldMember, same, named⟩ := sound.indexed wireName entry.id pair
  obtain rfl := sound.eq_of_id heldMember member same
  exact ⟨heldMember, rfl, named⟩

theorem IsSound.unsubscribe (sound : registry.IsSound) (isOpen : Bool) (id : Nat) :
    (registry.unsubscribe isOpen id).2.1.IsSound := by
  unfold Registry.unsubscribe
  split
  · exact sound
  · rename_i entry found
    dsimp only
    split
    · rename_i unnamed
      refine sound.remove id registry.byWire registry.retired fun pair member => ⟨member, ?_⟩
      rintro rfl
      have named := (sound.named_of_mem member found).2.2
      rw [unnamed] at named
      cases named
    · rename_i wireName named
      refine sound.remove id _ _ fun pair member => ?_
      obtain ⟨old, different⟩ := List.mem_filter.mp member
      refine ⟨old, ?_⟩
      rintro rfl
      have other := (sound.named_of_mem old found).2.2
      rw [named] at other
      cases other
      simp at different

/-- What is found under a wire name has it. -/
theorem IsSound.live (sound : registry.IsSound) {wireName : String} {entry : Subscription κ}
    (found : registry.live? wireName = some entry) :
    entry ∈ registry.entries ∧ entry.wireName = some wireName := by
  simp only [live?, Option.bind_eq_bind, Option.bind_eq_some_iff] at found
  obtain ⟨⟨key, id⟩, pair, target⟩ := found
  have same : key = wireName := by simpa using List.find?_some pair
  obtain ⟨member, -, named⟩ := sound.named_of_mem (List.mem_of_find?_eq_some pair) target
  exact ⟨member, same ▸ named⟩

/-- What a receipt is about, if the server has not confirmed it yet. -/
theorem IsSound.unconfirmed (sound : registry.IsSound) {receipt : String}
    {entry : Subscription κ} (found : registry.unconfirmed? receipt = some entry) :
    entry ∈ registry.entries ∧ entry.wireName = some receipt :=
  sound.live (Option.filter_eq_some_iff.mp found).1

theorem IsSound.reject (sound : registry.IsSound) (receipt : String) :
    (registry.reject receipt).2.IsSound := by
  unfold Registry.reject
  split
  · exact sound
  · rename_i entry found
    obtain ⟨member, named⟩ := sound.unconfirmed found
    refine sound.remove entry.id _ _ fun pair pairMember => ?_
    obtain ⟨old, different⟩ := List.mem_filter.mp pairMember
    refine ⟨old, fun same => ?_⟩
    obtain ⟨held, heldMember, heldId, heldName⟩ := sound.indexed pair.1 pair.2 old
    rw [sound.eq_of_id heldMember member (heldId.trans same), named] at heldName
    cases heldName
    simp at different

theorem IsSound.confirm (sound : registry.IsSound) (receipt : String) :
    (registry.confirm receipt).2.IsSound := by
  unfold Registry.confirm
  split
  · exact sound
  · rename_i confirmed _
    -- no number and no wire name changes
    have unchanged : ∀ entry ∈ change registry.entries confirmed.id
        fun entry => { entry with confirmed := true },
        ∃ held ∈ registry.entries, entry.id = held.id ∧ entry.wireName = held.wireName := by
      intro entry member
      obtain ⟨held, heldMember, rfl⟩ := mem_change.mp member
      refine ⟨held, heldMember, ?_⟩
      split <;> exact ⟨rfl, rfl⟩
    refine ⟨?_, ?_, ?_, ?_, ?_, ?_⟩
    · exact (ids_change registry.entries confirmed.id
        (fun entry => { entry with confirmed := true }) fun _ => rfl) ▸ sound.ordered
    · intro entry member
      obtain ⟨held, heldMember, id, -⟩ := unchanged entry member
      rw [id]
      exact sound.made held heldMember
    · intro wireName id pair
      obtain ⟨held, heldMember, heldId, named⟩ := sound.indexed wireName id pair
      refine ⟨_, mem_change.mpr ⟨held, heldMember, rfl⟩, ?_⟩
      split <;> exact ⟨heldId, named⟩
    · intro entry member wireName named
      obtain ⟨held, heldMember, -, name⟩ := unchanged entry member
      exact sound.drawn held heldMember wireName (name ▸ named)
    · intro first firstMember second secondMember wireName firstNamed secondNamed
      obtain ⟨held, heldMember, firstId, firstName⟩ := unchanged first firstMember
      obtain ⟨other, otherMember, secondId, secondName⟩ := unchanged second secondMember
      rw [firstId, secondId]
      exact sound.apart held heldMember other otherMember wireName (firstName ▸ firstNamed)
        (secondName ▸ secondNamed)
    · intro free entry member
      obtain ⟨held, heldMember, -, name⟩ := unchanged entry member
      rw [name]
      exact sound.detached free held heldMember

/-- A session begins with an empty table of wire names. -/
theorem IsSound.cleared (sound : registry.IsSound) (writer : Nat) :
    { registry with byWire := [], retired := [], writer := some writer }.IsSound :=
  ⟨sound.ordered, sound.made, nofun, sound.drawn, sound.apart, nofun⟩

theorem IsSound.detach (sound : registry.IsSound) : registry.detach.IsSound := by
  have unnamed : ∀ entry ∈ registry.detach.entries, entry.wireName = none :=
    fun entry member => (entries_detach registry member).1
  refine ⟨?_, ?_, nofun, ?_, ?_, fun _ => unnamed⟩
  · simpa [Registry.detach, Function.comp_def] using sound.ordered
  · intro entry member
    obtain ⟨held, heldMember, rfl⟩ := List.mem_map.mp member
    exact sound.made held heldMember
  · intro entry member wireName named
    rw [unnamed entry member] at named
    cases named
  · intro first firstMember second _ wireName named
    rw [unnamed first firstMember] at named
    cases named

end Operations

end EventFeed.Registry
