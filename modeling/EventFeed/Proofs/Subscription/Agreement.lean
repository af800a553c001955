/-
**The registry and the broker agree.**

A broker keeps, for each session, the subscriptions that it was asked for and not asked to end. A
`Ledger` is a registry with all that was ever queued for its sessions, so that what the broker keeps
can be read off the frames. As long as the writer of a session stays open, what the broker keeps,
without what it refused itself, is exactly what is registered, name by name and in order. A writer
may close at any moment, also while the session that begins asks for its subscriptions: then those
that come first are asked for, and the others wait for the next session.

* `attachWithin_of_room`, `attachWithin_zero`: a session whose writer takes everything, or nothing,
  as it begins;
* `IsSound.act`: every operation keeps the invariant behind this;
* `broker_agrees`: this holds after all operations in any order, and requests follow the rules on
  the wire.
-/

import EventFeed.Monitor.World
import EventFeed.Proofs.Subscription.Naming

namespace EventFeed

open EventFeed.Wire (Frame)

/-! ### Sessions whose writer closes as they begin -/

namespace Registry

variable {κ : Type}

/-- The frames that are taken while subscriptions are asked for one by one, as long as there is
room. -/
def framesWithin : Nat → Registry κ → List (Subscription κ) → List Frame
  | _, _, [] => []
  | room, registry, entry :: entries =>
    let (flushed, frames) := registry.flush (0 < room) entry
    frames ++ framesWithin (room - 1) flushed entries

/-- The frames that are taken at the beginning of a session, whose writer has room for some. -/
def requestsWithin (registry : Registry κ) (room writer : Nat) : List Frame :=
  framesWithin room { registry with byWire := [], retired := [], writer := some writer }
    registry.entries

/-- The writer takes frames as long as there is room for them, and nothing from then on. -/
theorem flushWithin_eq (room : Nat) (registry : Registry κ) (entries : List (Subscription κ)) :
    registry.flushWithin room entries =
        (flushAll false (flushAll true registry (entries.take room)).1 (entries.drop room)).1 ∧
      framesWithin room registry entries = (flushAll true registry (entries.take room)).2 := by
  induction entries generalizing room registry with
  | nil => simp [flushWithin, framesWithin, flushAll]
  | cons entry entries ih =>
    cases room with
    | zero =>
      obtain ⟨after, frames⟩ := ih 0 (registry.flush false entry).1
      rw [List.take_zero, List.drop_zero] at after
      exact ⟨after, frames⟩
    | succ room =>
      obtain ⟨after, frames⟩ := ih room (registry.flush true entry).1
      exact ⟨after, congrArg ((registry.flush true entry).2 ++ ·) frames⟩

/-- Room for all frames is a writer that takes them. -/
theorem attachWithin_of_room {registry : Registry κ} {room : Nat}
    (enough : registry.entries.length ≤ room) (writer : Nat) :
    (registry.attachWithin room writer, registry.requestsWithin room writer) =
      registry.attach true writer := by
  obtain ⟨after, frames⟩ := flushWithin_eq room
    { registry with byWire := [], retired := [], writer := some writer } registry.entries
  rw [List.take_of_length_le enough, List.drop_of_length_le enough] at after
  rw [List.take_of_length_le enough] at frames
  exact Prod.ext after frames

/-- No room is a writer that takes nothing. -/
theorem attachWithin_zero (registry : Registry κ) (writer : Nat) :
    (registry.attachWithin 0 writer, registry.requestsWithin 0 writer) =
      registry.attach false writer := by
  obtain ⟨after, frames⟩ := flushWithin_eq 0
    { registry with byWire := [], retired := [], writer := some writer } registry.entries
  have nothing := (attach_of_closed registry writer).2
  exact Prod.ext after (frames.trans nothing.symm)

/-- **The subscriptions that come first are asked for, as many as there is room for**, under the
names that are drawn next; the others stay as they are. -/
theorem attachWithin_eq {registry : Registry κ}
    (distinct : (registry.entries.map Subscription.id).Nodup) (room writer : Nat) :
    (registry.attachWithin room writer).entries =
        naming registry.seed registry.drawn (registry.entries.take room) ++
          registry.entries.drop room ∧
      registry.requestsWithin room writer =
        (naming registry.seed registry.drawn (registry.entries.take room)).map request := by
  let begun : Registry κ := { registry with byWire := [], retired := [], writer := some writer }
  obtain ⟨after, frames⟩ := flushWithin_eq room begun registry.entries
  have entriesAre :
      begun.entries = [] ++ registry.entries.take room ++ registry.entries.drop room :=
    (List.take_append_drop room registry.entries).symm
  obtain ⟨asked, requests⟩ := flushAll_of_open entriesAre distinct
  refine ⟨?_, frames.trans requests⟩
  rw [attachWithin, after, (flushAll_of_closed _ _).1, asked]
  rfl

/-- For each subscription one name is drawn, whether there is room for its frame or not. -/
theorem drawn_attachWithin (registry : Registry κ) (room writer : Nat) :
    (registry.attachWithin room writer).seed = registry.seed ∧
      (registry.attachWithin room writer).drawn = registry.drawn + registry.entries.length := by
  let begun : Registry κ := { registry with byWire := [], retired := [], writer := some writer }
  have after : registry.attachWithin room writer = _ :=
    (flushWithin_eq room begun registry.entries).1
  obtain ⟨sameSeed, drawn⟩ := drawn_flushAll true begun (registry.entries.take room)
  obtain ⟨sameSeedThen, drawnThen⟩ := drawn_flushAll false
    (flushAll true begun (registry.entries.take room)).1 (registry.entries.drop room)
  rw [after, sameSeedThen, drawnThen, sameSeed, drawn, Nat.add_assoc, ← List.length_append,
    List.take_append_drop]
  exact ⟨rfl, rfl⟩

end Registry

/-! ### The broker -/

namespace Broker

/-- What a broker keeps after one more frame: wire names with their destinations. -/
def take (kept : List (String × String)) (frame : Frame) : List (String × String) :=
  match frame.command, frame.header? Wire.Header.id, frame.header? Wire.Header.destination with
  | .subscribe, some wireName, some destination => kept ++ [(wireName, destination)]
  | .unsubscribe, some wireName, _ => kept.filter fun pair => pair.1 ≠ wireName
  | _, _, _ => kept

/-- What a broker keeps after the frames of a session. -/
def kept (frames : List Frame) : List (String × String) :=
  frames.foldl take []

/-- The wire name that a frame asks to subscribe under. -/
def asked? (frame : Frame) : Option String :=
  if frame.command = .subscribe then frame.header? Wire.Header.id else none

/-- The wire names that frames ask to subscribe under, in order. -/
def asked (frames : List Frame) : List String :=
  frames.filterMap asked?

/-- Whether every request to end a subscription comes after the request for it. -/
def IsFollowed (frames : List Frame) : Prop :=
  ∀ front frame, front ++ [frame] <+: frames → frame.command = .unsubscribe →
    ∃ wireName ∈ asked front, frame.header? Wire.Header.id = some wireName

theorem kept_append (first second : List Frame) :
    kept (first ++ second) = second.foldl take (kept first) :=
  List.foldl_append

theorem asked_append (first second : List Frame) :
    asked (first ++ second) = asked first ++ asked second :=
  List.filterMap_append

theorem take_subscribeFrame (kept : List (String × String)) (wireName destination : String) :
    take kept (Registry.subscribeFrame wireName destination) = kept ++ [(wireName, destination)] :=
  rfl

theorem take_unsubscribeFrame (kept : List (String × String)) (wireName : String) :
    take kept (Registry.unsubscribeFrame wireName) =
      kept.filter fun pair => pair.1 ≠ wireName :=
  rfl

theorem asked_subscribeFrame (wireName destination : String) :
    asked [Registry.subscribeFrame wireName destination] = [wireName] :=
  rfl

/-- What is neither a request for a subscription nor for its end means nothing to the broker. -/
theorem take_of_other (frame : Frame) (noRequest : frame.command ≠ .subscribe)
    (noEnd : frame.command ≠ .unsubscribe) (kept : List (String × String)) :
    take kept frame = kept := by
  unfold take
  split
  · contradiction
  · contradiction
  · rfl

theorem kept_requests {κ : Type} (entries : List (Subscription κ)) :
    kept (entries.map Registry.request) =
      entries.map fun entry => (entry.wireName.getD "", entry.destination) := by
  have more : ∀ before : List (String × String),
      (entries.map Registry.request).foldl take before =
        before ++ entries.map fun entry => (entry.wireName.getD "", entry.destination) := by
    induction entries with
    | nil => exact fun before => (List.append_nil before).symm
    | cons entry entries ih =>
      intro before
      rw [List.map_cons, List.foldl_cons, Registry.request, take_subscribeFrame, ih,
        List.append_assoc]
      rfl
  exact more []

theorem asked_requests {κ : Type} (entries : List (Subscription κ)) :
    asked (entries.map Registry.request) = entries.map fun entry => entry.wireName.getD "" := by
  rw [asked, List.filterMap_map]
  exact List.filterMap_eq_map (f := fun entry : Subscription κ => entry.wireName.getD "") ▸ rfl

theorem isFollowed_nil : IsFollowed [] := by
  intro front frame isPrefix
  have empty := List.prefix_nil.mp isPrefix
  simp at empty

/-- One more frame follows the rule if it is no end, or the end of what was asked for. -/
theorem isFollowed_concat {frames : List Frame} (followed : IsFollowed frames) {last : Frame}
    (follows : last.command = .unsubscribe →
      ∃ wireName ∈ asked frames, last.header? Wire.Header.id = some wireName) :
    IsFollowed (frames ++ [last]) := by
  intro front frame isPrefix ends
  rcases List.prefix_concat_iff.mp isPrefix with whole | earlier
  · obtain ⟨rfl, same⟩ := List.append_inj' whole rfl
    cases same
    exact follows ends
  · exact followed front frame earlier ends

theorem isFollowed_append {frames more : List Frame} (followed : IsFollowed frames)
    (noEnd : ∀ frame ∈ more, frame.command ≠ .unsubscribe) : IsFollowed (frames ++ more) := by
  induction more generalizing frames with
  | nil => rwa [List.append_nil]
  | cons frame more ih =>
    rw [List.append_cons]
    refine ih (isFollowed_concat followed fun ends => ?_)
      fun later member => noEnd later (List.mem_cons_of_mem _ member)
    exact absurd ends (noEnd frame List.mem_cons_self)

end Broker

/-! ### Ledgers -/

/-- Something that is done with a registry, by the consumer, the server or a session. -/
inductive Operation (κ : Type) where
  | subscribe (destination : String) (callback : κ)
  | unsubscribe (id : Nat)
  | confirm (receipt : String)
  | reject (receipt : String)
  | send (destination : String) (body : Document.Value)
  /-- A session is connected, and its writer has room for so many requests until it closes. -/
  | attach (room : Nat) (writer : Nat)
  /-- The writer of the session takes no more frames. -/
  | close
  | detach

/-- Whether an operation neither begins nor ends a session. -/
def Operation.staysInSession {κ : Type} : Operation κ → Bool
  | .attach _ _ | .detach => false
  | _ => true

/-- A registry with what was queued for its sessions: whether the writer of the session has stayed
open so far, the frames queued for it, the wire names that the server refused in this session, and
the frames of the sessions before. -/
structure Ledger (κ : Type) where
  registry : Registry κ
  isOpen : Bool
  queued : List Frame
  rejected : List String
  past : List (List Frame)

namespace Ledger

variable {κ : Type}

/-- A registry to which nothing has happened. -/
def fresh (seed : Nat) : Ledger κ where
  registry := .empty seed
  isOpen := false
  queued := []
  rejected := []
  past := []

def queue (ledger : Ledger κ) (registry : Registry κ) (frames : List Frame) : Ledger κ :=
  { ledger with registry, queued := ledger.queued ++ frames }

/-- The ledger after an operation. Sessions follow one another: none begins before the one before it
is over, and none is over that has not begun. -/
def act (ledger : Ledger κ) : Operation κ → Ledger κ
  | .subscribe destination callback =>
    match ledger.registry.subscribe ledger.isOpen destination callback with
    | .error _ => ledger
    | .ok (_, registry, frames) => ledger.queue registry frames
  | .unsubscribe id =>
    let (_, registry, frames) := ledger.registry.unsubscribe ledger.isOpen id
    ledger.queue registry frames
  | .confirm receipt => { ledger with registry := (ledger.registry.confirm receipt).2 }
  | .reject receipt =>
    match ledger.registry.reject receipt with
    | (none, _) => ledger
    | (some _, registry) => { ledger with registry, rejected := receipt :: ledger.rejected }
  | .send destination body =>
    if ledger.isOpen then ledger.queue ledger.registry [World.parcel destination body] else ledger
  | .attach room writer =>
    match ledger.registry.writer with
    | some _ => ledger
    | none =>
      { ledger with
        registry := ledger.registry.attachWithin room writer
        isOpen := ledger.registry.entries.length ≤ room
        queued := ledger.registry.requestsWithin room writer
        rejected := [] }
  | .close => { ledger with isOpen := false }
  | .detach =>
    match ledger.registry.writer with
    | none => ledger
    | some _ =>
      { ledger with
        registry := ledger.registry.detach
        isOpen := false
        queued := []
        rejected := []
        past := ledger.past ++ [ledger.queued] }

def run (ledger : Ledger κ) (operations : List (Operation κ)) : Ledger κ :=
  operations.foldl act ledger

def sessions (ledger : Ledger κ) : List (List Frame) :=
  ledger.past ++ [ledger.queued]

/-- The wire names that were ever asked for, in order. -/
def names (ledger : Ledger κ) : List String :=
  Broker.asked ledger.sessions.flatten

/-- What the broker keeps of this session, without what it refused. -/
def kept (ledger : Ledger κ) : List (String × String) :=
  (Broker.kept ledger.queued).filter fun pair => pair.1 ∉ ledger.rejected

/-! ### The invariant -/

/-- What holds after all operations: the parts of the registry agree; the wire names that were asked
for were drawn before now, and each of them once; the names of this session were asked for in it;
every end of a subscription follows its request; there is nothing between sessions; and while the
writer has stayed open, the broker keeps what is registered. -/
structure IsSound (ledger : Ledger κ) : Prop where
  registry : ledger.registry.IsSound
  drawn : ∀ wireName ∈ ledger.names, ∃ number < ledger.registry.drawn,
    wireName = identifier ledger.registry.seed .subscription number
  distinct : ledger.names.Nodup
  asked : ∀ entry ∈ ledger.registry.entries, ∀ wireName, entry.wireName = some wireName →
    wireName ∈ Broker.asked ledger.queued
  refused : ∀ wireName ∈ ledger.rejected, wireName ∈ Broker.asked ledger.queued
  followed : ∀ session ∈ ledger.sessions, Broker.IsFollowed session
  between : ledger.registry.writer = none →
    ledger.isOpen = false ∧ ledger.queued = [] ∧ ledger.rejected = []
  agrees : ledger.isOpen = true →
    ledger.kept.map (fun pair => (some pair.1, pair.2)) = ledger.registry.entries.map Registry.pair

/-- Names that were drawn between two moments, each of them once. -/
structure IsFresh (seed low high : Nat) (names : List String) : Prop where
  distinct : names.Nodup
  drawn : ∀ wireName ∈ names, ∃ number, low ≤ number ∧ number < high ∧
    wireName = identifier seed .subscription number

variable {ledger : Ledger κ}

/-- The registry changes, and frames are queued behind the others. -/
theorem IsSound.extend (sound : ledger.IsSound) (isOpen : Bool) (frames : List Frame)
    {rejected : List String} {registry : Registry κ} (registrySound : registry.IsSound)
    (sameSeed : registry.seed = ledger.registry.seed)
    (laterDrawn : ledger.registry.drawn ≤ registry.drawn)
    (fresh : IsFresh ledger.registry.seed ledger.registry.drawn registry.drawn
      (Broker.asked frames))
    (asked : ∀ entry ∈ registry.entries, ∀ wireName, entry.wireName = some wireName →
      wireName ∈ Broker.asked ledger.queued ∨ wireName ∈ Broker.asked frames)
    (refused : ∀ wireName ∈ rejected, wireName ∈ Broker.asked ledger.queued)
    (followed : Broker.IsFollowed (ledger.queued ++ frames))
    (between : registry.writer = none →
      isOpen = false ∧ ledger.queued ++ frames = [] ∧ rejected = [])
    (agrees : isOpen = true →
      ((Broker.kept (ledger.queued ++ frames)).filter fun pair => pair.1 ∉ rejected).map
        (fun pair => (some pair.1, pair.2)) = registry.entries.map Registry.pair) :
    IsSound { ledger with registry, isOpen, rejected, queued := ledger.queued ++ frames } := by
  have names : Ledger.names
      { ledger with registry, isOpen, rejected, queued := ledger.queued ++ frames } =
        ledger.names ++ Broker.asked frames := by
    simp [Ledger.names, sessions, Broker.asked_append]
  refine ⟨registrySound, ?_, ?_, ?_, ?_, ?_, between, agrees⟩
  · intro wireName member
    rw [names, List.mem_append] at member
    rw [sameSeed]
    rcases member with old | new
    · obtain ⟨number, earlier, drawn⟩ := sound.drawn wireName old
      exact ⟨number, Nat.lt_of_lt_of_le earlier laterDrawn, drawn⟩
    · obtain ⟨number, -, earlier, drawn⟩ := fresh.drawn wireName new
      exact ⟨number, earlier, drawn⟩
  · rw [names, List.nodup_append]
    refine ⟨sound.distinct, fresh.distinct, fun old oldMember new newMember same => ?_⟩
    obtain ⟨number, earlier, drawn⟩ := sound.drawn old oldMember
    obtain ⟨other, later, -, drawnToo⟩ := fresh.drawn new newMember
    have numbers := (identifier_injective (drawn.symm.trans (same.trans drawnToo))).2
    omega
  · intro entry member wireName named
    show wireName ∈ Broker.asked (ledger.queued ++ frames)
    rw [Broker.asked_append, List.mem_append]
    exact asked entry member wireName named
  · intro wireName member
    show wireName ∈ Broker.asked (ledger.queued ++ frames)
    rw [Broker.asked_append, List.mem_append]
    exact .inl (refused wireName member)
  · intro session member
    rcases List.mem_append.mp member with old | current
    · exact sound.followed session (List.mem_append_left _ old)
    · rw [List.mem_singleton.mp current]
      exact followed

theorem isFresh_nil (seed low high : Nat) : IsFresh seed low high [] :=
  ⟨List.nodup_nil, nofun⟩

/-- The frames of this session follow the rule. -/
theorem IsSound.queued_followed (sound : ledger.IsSound) : Broker.IsFollowed ledger.queued :=
  sound.followed _ (List.mem_append_right _ List.mem_cons_self)

/-- The registry changes, and no frames are queued. -/
theorem IsSound.keep (sound : ledger.IsSound) (isOpen : Bool) {rejected : List String}
    {registry : Registry κ} (registrySound : registry.IsSound)
    (sameSeed : registry.seed = ledger.registry.seed)
    (laterDrawn : ledger.registry.drawn ≤ registry.drawn)
    (asked : ∀ entry ∈ registry.entries, ∀ wireName, entry.wireName = some wireName →
      wireName ∈ Broker.asked ledger.queued)
    (refused : ∀ wireName ∈ rejected, wireName ∈ Broker.asked ledger.queued)
    (between : registry.writer = none →
      isOpen = false ∧ ledger.queued = [] ∧ rejected = [])
    (agrees : isOpen = true →
      ((Broker.kept ledger.queued).filter fun pair => pair.1 ∉ rejected).map
        (fun pair => (some pair.1, pair.2)) = registry.entries.map Registry.pair) :
    IsSound { ledger with registry, isOpen, rejected } := by
  have same : ledger.queued ++ [] = ledger.queued := List.append_nil _
  have extended := sound.extend isOpen [] registrySound sameSeed laterDrawn (isFresh_nil _ _ _)
    (fun entry member wireName named => .inl (asked entry member wireName named)) refused
    (same.symm ▸ sound.queued_followed) (same.symm ▸ between) (same.symm ▸ agrees)
  rwa [same] at extended

/-- While the writer is open, there is a session. -/
theorem IsSound.attached (sound : ledger.IsSound) (isOpen : ledger.isOpen = true) :
    ledger.registry.writer ≠ none := by
  intro free
  rw [(sound.between free).1] at isOpen
  cases isOpen

theorem asked_subset_names {wireName : String} (member : wireName ∈ Broker.asked ledger.queued) :
    wireName ∈ ledger.names := by
  simp [names, sessions, Broker.asked_append, member]

/-- The name that is drawn next was not asked for yet. -/
theorem IsSound.next_not_mem (sound : ledger.IsSound) :
    identifier ledger.registry.seed .subscription ledger.registry.drawn ∉ ledger.names := by
  intro member
  obtain ⟨number, earlier, drawn⟩ := sound.drawn _ member
  exact absurd (identifier_injective drawn).2 (Nat.ne_of_gt earlier)

/-- A new subscription that is asked for at once. -/
theorem IsSound.subscribe_open (sound : ledger.IsSound) (isOpen : ledger.isOpen = true)
    {destination : String} (named : Text.allBlank destination = false) (callback : κ) :
    (ledger.act (.subscribe destination callback)).IsSound := by
  have made := Registry.subscribe_of_open sound.registry (sound.attached isOpen) named callback
  have registrySound := sound.registry.subscribe made
  have notRefused : identifier ledger.registry.seed .subscription ledger.registry.drawn ∉
      ledger.rejected :=
    fun member => sound.next_not_mem (asked_subset_names (sound.refused _ member))
  unfold act
  dsimp only
  rw [isOpen, made]
  have asked := Broker.asked_subscribeFrame
    (identifier ledger.registry.seed .subscription ledger.registry.drawn) destination
  refine sound.extend ledger.isOpen _ registrySound rfl (Nat.le_succ _) ?_ ?_ sound.refused ?_ ?_ ?_
  · rw [asked]
    refine ⟨List.nodup_singleton _, fun wireName member => ?_⟩
    exact ⟨ledger.registry.drawn, Nat.le_refl _, Nat.lt_succ_self _, List.mem_singleton.mp member⟩
  · intro entry member wireName isNamed
    rcases List.mem_append.mp member with old | new
    · exact .inl (sound.asked entry old wireName isNamed)
    · rw [List.mem_singleton.mp new] at isNamed
      rw [asked, ← Option.some.inj isNamed]
      exact .inr List.mem_cons_self
  · refine Broker.isFollowed_append sound.queued_followed fun frame member => ?_
    rw [List.mem_singleton.mp member]
    exact nofun
  · intro free
    exact absurd free (sound.attached isOpen)
  · intro _
    have before := sound.agrees isOpen
    rw [Broker.kept_append, List.foldl_cons, List.foldl_nil, Broker.take_subscribeFrame,
      List.filter_append, List.map_append, List.map_append]
    -- What was kept before agrees as it did; the new name has not been refused.
    congr 1
    rw [List.filter_cons_of_pos (by simpa using notRefused)]
    rfl

theorem IsSound.subscribe (sound : ledger.IsSound) (destination : String) (callback : κ) :
    (ledger.act (.subscribe destination callback)).IsSound := by
  cases blank : Text.allBlank destination with
  | true =>
    have refused : ledger.registry.subscribe ledger.isOpen destination callback =
        .error .blankDestination := by
      rw [Registry.subscribe, if_pos blank]
    unfold act
    dsimp only
    rw [refused]
    exact sound
  | false =>
    cases isOpen : ledger.isOpen with
    | true => exact sound.subscribe_open isOpen blank callback
    | false =>
      obtain ⟨drawn, later, made⟩ :=
        Registry.subscribe_of_closed ledger.registry blank callback
      unfold act
      dsimp only
      rw [isOpen, made]
      dsimp only [queue]
      rw [List.append_nil]
      refine sound.keep ledger.isOpen (sound.registry.subscribe made) rfl later
        (fun entry member wireName named => ?_) sound.refused sound.between
        (fun stillOpen => nomatch isOpen.symm.trans stillOpen)
      rcases List.mem_append.mp member with old | new
      · exact sound.asked entry old wireName named
      · rw [List.mem_singleton.mp new] at named
        cases named

/-- While the writer is open, every subscription has a wire name. -/
theorem IsSound.named (sound : ledger.IsSound) (isOpen : ledger.isOpen = true)
    {entry : Subscription κ} (member : entry ∈ ledger.registry.entries) :
    ∃ wireName, entry.wireName = some wireName := by
  have pair : Registry.pair entry ∈ ledger.registry.entries.map Registry.pair :=
    List.mem_map_of_mem member
  rw [← sound.agrees isOpen] at pair
  obtain ⟨⟨wireName, destination⟩, -, same⟩ := List.mem_map.mp pair
  exact ⟨wireName, (congrArg Prod.fst same).symm⟩

/-- What the broker keeps without a name is what is registered without it. -/
theorem filter_pairs {kept : List (String × String)} {pairs : List (Option String × String)}
    (agree : kept.map (fun pair => (some pair.1, pair.2)) = pairs) (wireName : String) :
    (kept.filter fun pair => pair.1 ≠ wireName).map (fun pair => (some pair.1, pair.2)) =
      pairs.filter fun pair => pair.1 ≠ some wireName := by
  rw [← agree, List.filter_map]
  congr 1
  refine List.filter_congr fun pair _ => ?_
  simp

/-- A removal of a subscription that was asked for. -/
theorem IsSound.unsubscribe_open (sound : ledger.IsSound) (isOpen : ledger.isOpen = true) {id : Nat}
    {entry : Subscription κ} (found : ledger.registry.find? id = some entry) :
    (ledger.act (.unsubscribe id)).IsSound := by
  obtain ⟨member, sameId⟩ := Registry.mem_of_find? found
  obtain ⟨wireName, named⟩ := sound.named isOpen member
  have asked := sound.asked entry member wireName named
  have entries := Registry.entries_unsubscribe ledger.registry ledger.isOpen id
  have frames : (ledger.registry.unsubscribe ledger.isOpen id).2.2 =
      [Registry.unsubscribeFrame wireName] := by
    rw [isOpen]
    exact Registry.unsubscribe_of_open (sound.attached isOpen) found named
  obtain ⟨sameSeed, sameDrawn⟩ := Registry.drawn_unsubscribe ledger.registry ledger.isOpen id
  unfold act
  dsimp only [queue]
  rw [frames]
  refine sound.extend ledger.isOpen _ (sound.registry.unsubscribe ledger.isOpen id) sameSeed
    (Nat.le_of_eq sameDrawn.symm) (isFresh_nil _ _ _) ?_ sound.refused ?_ ?_ ?_
  · intro held heldMember heldName heldNamed
    rw [entries] at heldMember
    exact .inl (sound.asked held (Registry.mem_without.mp heldMember).1 heldName heldNamed)
  · exact Broker.isFollowed_concat sound.queued_followed fun _ => ⟨wireName, asked, rfl⟩
  · intro free
    rw [Registry.writer_unsubscribe] at free
    exact absurd free (sound.attached isOpen)
  · intro _
    rw [Broker.kept_append, List.foldl_cons, List.foldl_nil, Broker.take_unsubscribeFrame, entries,
      ← sameId, sound.registry.pairs_without member named,
      ← filter_pairs (sound.agrees isOpen) wireName, kept, List.filter_filter, List.filter_filter]
    simp only [Bool.and_comm]

theorem IsSound.unsubscribe (sound : ledger.IsSound) (id : Nat) :
    (ledger.act (.unsubscribe id)).IsSound := by
  cases isOpen : ledger.isOpen with
  | true =>
    cases found : ledger.registry.find? id with
    | some entry => exact sound.unsubscribe_open isOpen found
    | none =>
      have missed :
          ledger.registry.unsubscribe ledger.isOpen id = (false, ledger.registry, []) := by
        rw [Registry.unsubscribe, found]
      unfold act
      dsimp only
      rw [missed]
      dsimp only [queue]
      rw [List.append_nil]
      exact sound
  | false =>
    obtain ⟨sameSeed, sameDrawn⟩ := Registry.drawn_unsubscribe ledger.registry ledger.isOpen id
    have entries := Registry.entries_unsubscribe ledger.registry ledger.isOpen id
    have frames : (ledger.registry.unsubscribe ledger.isOpen id).2.2 = [] := by
      rw [isOpen]
      exact Registry.unsubscribe_of_closed _ _
    unfold act
    dsimp only [queue]
    rw [frames, List.append_nil]
    refine sound.keep ledger.isOpen (sound.registry.unsubscribe ledger.isOpen id) sameSeed
      (Nat.le_of_eq sameDrawn.symm) (fun entry member wireName named => ?_) sound.refused ?_
      fun stillOpen => ?_
    · rw [entries] at member
      exact sound.asked entry (Registry.mem_without.mp member).1 wireName named
    · rw [Registry.writer_unsubscribe]
      exact sound.between
    · cases isOpen.symm.trans stillOpen

theorem IsSound.confirm (sound : ledger.IsSound) (receipt : String) :
    (ledger.act (.confirm receipt)).IsSound := by
  have registrySound := sound.registry.confirm receipt
  unfold act
  dsimp only
  unfold Registry.confirm at registrySound ⊢
  split
  · exact sound
  · rename_i entry found
    rw [found] at registrySound
    have pairs : (Registry.change ledger.registry.entries entry.id
        fun entry => { entry with confirmed := true }).map Registry.pair =
          ledger.registry.entries.map Registry.pair := by
      rw [Registry.change, List.map_map]
      refine List.map_congr_left fun held _ => ?_
      by_cases same : held.id = entry.id <;> simp [same, Registry.pair]
    refine sound.keep ledger.isOpen registrySound rfl (Nat.le_refl _)
      (fun held member wireName named => ?_) sound.refused sound.between fun isOpen => ?_
    · obtain ⟨before, beforeMember, rfl⟩ := Registry.mem_change.mp member
      refine sound.asked before beforeMember wireName ?_
      split at named <;> exact named
    · rw [pairs]
      exact sound.agrees isOpen

theorem IsSound.reject (sound : ledger.IsSound) (receipt : String) :
    (ledger.act (.reject receipt)).IsSound := by
  have registrySound := sound.registry.reject receipt
  unfold act
  dsimp only
  unfold Registry.reject at registrySound ⊢
  cases found : ledger.registry.unconfirmed? receipt with
  | none => exact sound
  | some entry =>
    rw [found] at registrySound
    obtain ⟨member, named⟩ := sound.registry.unconfirmed found
    refine sound.keep ledger.isOpen registrySound rfl (Nat.le_refl _)
      (fun held heldMember wireName heldNamed => ?_) (fun wireName refused => ?_) (fun free => ?_)
      fun isOpen => ?_
    · exact sound.asked held (Registry.mem_without.mp heldMember).1 wireName heldNamed
    · rcases List.mem_cons.mp refused with rfl | before
      · exact sound.asked entry member wireName named
      · exact sound.refused wireName before
    · rw [sound.registry.detached free entry member] at named
      cases named
    · rw [sound.registry.pairs_without member named, ← filter_pairs (sound.agrees isOpen) receipt,
        kept, List.filter_filter]
      congr 1
      refine List.filter_congr fun pair _ => ?_
      simp

theorem IsSound.send (sound : ledger.IsSound) (destination : String) (body : Document.Value) :
    (ledger.act (.send destination body)).IsSound := by
  unfold act
  dsimp only
  split
  · rename_i isOpen
    refine sound.extend ledger.isOpen _ sound.registry rfl (Nat.le_refl _) (isFresh_nil _ _ _)
      (fun entry member wireName named => .inl (sound.asked entry member wireName named))
      sound.refused ?_ (fun free => absurd free (sound.attached isOpen)) fun _ => ?_
    · exact Broker.isFollowed_concat sound.queued_followed nofun
    · rw [Broker.kept_append, List.foldl_cons, List.foldl_nil,
        Broker.take_of_other (World.parcel destination body) nofun nofun]
      exact sound.agrees isOpen
  · exact sound

theorem IsSound.close (sound : ledger.IsSound) : (ledger.act .close).IsSound :=
  sound.keep false sound.registry rfl (Nat.le_refl _) sound.asked sound.refused
    (fun free => ⟨rfl, (sound.between free).2⟩) nofun

theorem IsSound.detach (sound : ledger.IsSound) : (ledger.act .detach).IsSound := by
  unfold act
  dsimp only
  split
  · exact sound
  · have unnamed : ∀ entry ∈ ledger.registry.detach.entries, entry.wireName = none :=
      fun entry member => (Registry.entries_detach ledger.registry member).1
    have names : Ledger.names { ledger with
        registry := ledger.registry.detach, isOpen := false, queued := [], rejected := []
        past := ledger.past ++ [ledger.queued] } = ledger.names := by
      simp [Ledger.names, sessions]
    refine ⟨sound.registry.detach, ?_, ?_, ?_, nofun, ?_, fun _ => ⟨rfl, rfl, rfl⟩, nofun⟩
    · rw [names]
      exact sound.drawn
    · rw [names]
      exact sound.distinct
    · intro entry member wireName named
      rw [unnamed entry member] at named
      cases named
    · intro session member
      rcases List.mem_append.mp member with old | current
      · exact sound.followed session old
      · rw [List.mem_singleton.mp current]
        exact Broker.isFollowed_nil

/-- The ledger after a session begins, whatever it queues. -/
theorem act_attach (sound : ledger.IsSound) (free : ledger.registry.writer = none)
    (room writer : Nat) :
    ledger.act (.attach room writer) =
      { ledger with
        registry := ledger.registry.attachWithin room writer
        isOpen := ledger.registry.entries.length ≤ room
        rejected := []
        queued := ledger.queued ++ ledger.registry.requestsWithin room writer } := by
  obtain ⟨-, nothing, -⟩ := sound.between free
  unfold act
  dsimp only
  rw [free, nothing, List.nil_append]

/-- A session that begins, with a writer that has room for some requests. -/
theorem IsSound.attach (sound : ledger.IsSound) (free : ledger.registry.writer = none)
    (room writer : Nat) : (ledger.act (.attach room writer)).IsSound := by
  obtain ⟨-, nothing, -⟩ := sound.between free
  obtain ⟨entries, frames⟩ := Registry.attachWithin_eq sound.registry.ids room writer
  obtain ⟨sameSeed, drawn⟩ := Registry.drawn_attachWithin ledger.registry room writer
  have asked : Broker.asked (ledger.registry.requestsWithin room writer) =
      (List.range' ledger.registry.drawn (ledger.registry.entries.take room).length).map
        (identifier ledger.registry.seed .subscription) := by
    rw [frames, Broker.asked_requests, Registry.names_naming]
  rw [act_attach sound free]
  refine sound.extend _ _ (sound.registry.asks_attachWithin room writer).sound sameSeed
    (drawn ▸ Nat.le_add_right _ _) ?_ (fun entry member wireName named => ?_) nofun ?_
    (fun freeStill => ?_) fun isOpen => ?_
  · rw [asked, drawn]
    have apart : Function.Injective (identifier ledger.registry.seed .subscription) :=
      fun low high same => (identifier_injective same).2
    refine ⟨List.Nodup.map apart List.nodup_range', fun wireName member => ?_⟩
    obtain ⟨number, within, rfl⟩ := List.mem_map.mp member
    rw [List.mem_range'_1, List.length_take] at within
    exact ⟨number, within.1, by omega, rfl⟩
  · rw [entries] at member
    rcases List.mem_append.mp member with first | last
    · right
      rw [frames, Broker.asked_requests]
      exact List.mem_map.mpr ⟨entry, first, by rw [named]; rfl⟩
    · rw [sound.registry.detached free entry (List.mem_of_mem_drop last)] at named
      cases named
  · rw [nothing, frames]
    refine Broker.isFollowed_append Broker.isFollowed_nil fun frame member => ?_
    obtain ⟨entry, -, rfl⟩ := List.mem_map.mp member
    exact nofun
  · rw [Registry.writer_attachWithin] at freeStill
    cases freeStill
  · -- A writer that is still open had room for all requests.
    have enough := of_decide_eq_true isOpen
    rw [nothing, List.nil_append, frames, entries, List.drop_of_length_le enough, List.append_nil,
      Broker.kept_requests, Registry.pairs_naming]
    simp

/-- **Every operation keeps all this.** -/
theorem IsSound.act (sound : ledger.IsSound) (operation : Operation κ) :
    (ledger.act operation).IsSound := by
  cases operation with
  | subscribe destination callback => exact sound.subscribe destination callback
  | unsubscribe id => exact sound.unsubscribe id
  | confirm receipt => exact sound.confirm receipt
  | reject receipt => exact sound.reject receipt
  | send destination body => exact sound.send destination body
  | close => exact sound.close
  | detach => exact sound.detach
  | attach room writer =>
    cases attached : ledger.registry.writer with
    | some other =>
      have same : ledger.act (.attach room writer) = ledger := by
        unfold Ledger.act
        dsimp only
        rw [attached]
      rw [same]
      exact sound
    | none => exact sound.attach attached room writer

/-- A registry to which nothing has happened. -/
theorem isSound_fresh (seed : Nat) : (fresh seed : Ledger κ).IsSound := by
  refine ⟨Registry.isSound_empty seed, nofun, List.nodup_nil, nofun, nofun, ?_,
    fun _ => ⟨rfl, rfl, rfl⟩, nofun⟩
  intro session member
  rw [List.mem_singleton.mp member]
  exact Broker.isFollowed_nil

theorem IsSound.run (sound : ledger.IsSound) (operations : List (Operation κ)) :
    (ledger.run operations).IsSound := by
  induction operations generalizing ledger with
  | nil => exact sound
  | cons operation operations ih => exact ih (sound.act operation)

/-! ### The frames of a session -/

/-- Within a session frames are only queued behind the others. -/
theorem queued_act {operation : Operation κ} (stays : operation.staysInSession = true) :
    ledger.queued <+: (ledger.act operation).queued := by
  cases operation with
  | subscribe destination callback =>
    unfold act
    dsimp only
    split
    · exact List.prefix_refl _
    · exact List.prefix_append _ _
  | unsubscribe id => exact List.prefix_append _ _
  | reject receipt =>
    unfold act
    dsimp only
    split <;> exact List.prefix_refl _
  | send destination body =>
    unfold act
    dsimp only
    split
    · exact List.prefix_append _ _
    · exact List.prefix_refl _
  | confirm receipt => exact List.prefix_refl _
  | close => exact List.prefix_refl _
  | attach room writer => cases stays
  | detach => cases stays

/-- What a session queued first stays in front. -/
theorem queued_run {operations : List (Operation κ)}
    (stay : ∀ operation ∈ operations, operation.staysInSession = true) :
    ledger.queued <+: (ledger.run operations).queued := by
  induction operations generalizing ledger with
  | nil => exact List.prefix_refl _
  | cons operation operations ih =>
    have first : ledger.queued <+: (ledger.act operation).queued :=
      queued_act (stay operation List.mem_cons_self)
    exact first.trans (ih fun later member => stay later (List.mem_cons_of_mem _ member))

/-! ### Subscriptions that wait for a session -/

/-- Whether a session that begins now asks for the subscription of the given number, with room for
so many requests. -/
def Reaches (ledger : Ledger κ) (room id : Nat) : Prop :=
  ledger.registry.writer = none ∧ id ∈ (ledger.registry.list.take room).map Prod.fst

/-- Whether an operation asks for the subscription of the given number, or gives it up. -/
def Settles (ledger : Ledger κ) (id : Nat) : Operation κ → Prop
  | .unsubscribe other => other = id
  | .attach room _ => ledger.Reaches room id
  | _ => False

/-- The subscriptions that a session asks for, told by their numbers. -/
theorem mem_ids_take {registry : Registry κ} {room id : Nat} :
    id ∈ (registry.list.take room).map Prod.fst ↔
      ∃ entry ∈ registry.entries.take room, entry.id = id := by
  rw [Registry.list, ← List.map_take, List.map_map, List.mem_map]
  rfl

/-- A subscription that was made while nothing could be asked for, and still waits for that. -/
structure IsPending (ledger : Ledger κ) (id : Nat) (destination : String) : Prop where
  closed : ledger.isOpen = false
  waits : ∃ entry ∈ ledger.registry.entries,
    entry.id = id ∧ entry.destination = destination ∧ entry.wireName = none

theorem IsPending.listed {id : Nat} {destination : String}
    (pending : ledger.IsPending id destination) : (id, destination) ∈ ledger.registry.list := by
  obtain ⟨entry, member, rfl, rfl, -⟩ := pending.waits
  exact List.mem_map.mpr ⟨entry, member, rfl⟩

/-- A subscription waits as long as it is not given up and no session asks for it. -/
theorem IsPending.act (sound : ledger.IsSound) {id : Nat} {destination : String}
    (pending : ledger.IsPending id destination) {operation : Operation κ}
    (unsettled : ¬ledger.Settles id operation) :
    (ledger.act operation).IsPending id destination := by
  have unchanged := pending
  obtain ⟨isClosed, entry, member, sameId, sameDestination, unnamed⟩ := pending
  cases operation with
  | subscribe other callback =>
    unfold Ledger.act
    dsimp only
    cases blank : Text.allBlank other with
    | true =>
      rw [Registry.subscribe, if_pos blank]
      exact unchanged
    | false =>
      obtain ⟨drawn, -, made⟩ := Registry.subscribe_of_closed ledger.registry blank callback
      rw [isClosed, made]
      exact ⟨isClosed, entry, List.mem_append_left _ member, sameId, sameDestination, unnamed⟩
  | unsubscribe other =>
    have different : id ≠ other := fun same => unsettled same.symm
    have stays : entry ∈ (ledger.registry.unsubscribe ledger.isOpen other).2.1.entries := by
      rw [Registry.entries_unsubscribe]
      exact Registry.mem_without.mpr ⟨member, sameId ▸ different⟩
    exact ⟨isClosed, entry, stays, sameId, sameDestination, unnamed⟩
  | confirm receipt =>
    unfold Ledger.act
    dsimp only
    unfold Registry.confirm
    split
    · exact unchanged
    · refine ⟨isClosed, _, Registry.mem_change.mpr ⟨entry, member, rfl⟩, ?_⟩
      split <;> exact ⟨sameId, sameDestination, unnamed⟩
  | reject receipt =>
    unfold Ledger.act
    dsimp only
    unfold Registry.reject
    cases found : ledger.registry.unconfirmed? receipt with
    | none => exact unchanged
    | some refused =>
      -- A refusal is about a wire name, and what waits has none.
      obtain ⟨refusedMember, named⟩ := sound.registry.unconfirmed found
      refine ⟨isClosed, entry, Registry.mem_without.mpr ⟨member, fun same => ?_⟩, sameId,
        sameDestination, unnamed⟩
      rw [sound.registry.eq_of_id member refusedMember same, named] at unnamed
      cases unnamed
  | send other body =>
    unfold Ledger.act
    dsimp only
    rw [if_neg (by rw [isClosed]; exact Bool.false_ne_true)]
    exact unchanged
  | attach room writer =>
    cases free : ledger.registry.writer with
    | some other =>
      unfold Ledger.act
      dsimp only
      rw [free]
      exact unchanged
    | none =>
      -- There was no room for its request, so the writer closed before it.
      have missed : entry ∉ ledger.registry.entries.take room := fun first =>
        unsettled ⟨free, mem_ids_take.mpr ⟨entry, first, sameId⟩⟩
      have behind : entry ∈ ledger.registry.entries.drop room := by
        rw [← List.take_append_drop room ledger.registry.entries, List.mem_append] at member
        exact member.resolve_left missed
      have short : ¬ledger.registry.entries.length ≤ room := fun enough => by
        rw [List.drop_of_length_le enough] at behind
        cases behind
      have entries := (Registry.attachWithin_eq sound.registry.ids room writer).1
      rw [act_attach sound free]
      refine ⟨decide_eq_false short, entry, ?_, sameId, sameDestination, unnamed⟩
      dsimp only
      rw [entries]
      exact List.mem_append_right _ behind
  | close => exact ⟨rfl, entry, member, sameId, sameDestination, unnamed⟩
  | detach =>
    unfold Ledger.act
    dsimp only
    split
    · exact unchanged
    · exact ⟨rfl, _, List.mem_map_of_mem member, sameId, sameDestination, rfl⟩

/-- A subscription waits until it is given up or asked for. -/
theorem IsPending.run (sound : ledger.IsSound) {id : Nat} {destination : String}
    (pending : ledger.IsPending id destination) {operations : List (Operation κ)}
    (unsettled : ∀ front operation back, operations = front ++ operation :: back →
      ¬(ledger.run front).Settles id operation) :
    (ledger.run operations).IsPending id destination := by
  induction operations generalizing ledger with
  | nil => exact pending
  | cons operation operations ih =>
    have here : ¬ledger.Settles id operation := unsettled [] operation operations rfl
    exact ih (sound.act operation) (pending.act sound here) fun front later back split =>
      unsettled (operation :: front) later back (congrArg (operation :: ·) split)

theorem isPending_subscribe (isClosed : ledger.isOpen = false) {destination : String}
    (named : Text.allBlank destination = false) (callback : κ) :
    (ledger.act (.subscribe destination callback)).IsPending ledger.registry.made destination := by
  obtain ⟨drawn, -, made⟩ := Registry.subscribe_of_closed ledger.registry named callback
  unfold Ledger.act
  dsimp only
  rw [isClosed, made]
  exact ⟨isClosed, _, List.mem_append_right _ List.mem_cons_self, rfl, rfl, rfl⟩

/-- A subscription that waits is asked for by the next session that has room for its request. -/
theorem IsPending.asked (sound : ledger.IsSound) {id : Nat} {destination : String}
    (pending : ledger.IsPending id destination) {room : Nat} (reached : ledger.Reaches room id)
    (writer : Nat) : ∃ entry ∈ (ledger.act (.attach room writer)).registry.entries,
      entry.id = id ∧ ∃ wireName, entry.wireName = some wireName ∧
        Registry.subscribeFrame wireName destination ∈
          (ledger.act (.attach room writer)).queued := by
  obtain ⟨-, entry, member, sameId, sameDestination, -⟩ := pending
  obtain ⟨free, first⟩ := reached
  obtain ⟨held, heldFirst, heldId⟩ := mem_ids_take.mp first
  obtain rfl : held = entry := sound.registry.eq_of_id (List.mem_of_mem_take heldFirst) member
    (heldId.trans sameId.symm)
  obtain ⟨entries, frames⟩ := Registry.attachWithin_eq sound.registry.ids room writer
  obtain ⟨wireName, named⟩ :=
    Registry.exists_mem_naming heldFirst ledger.registry.seed ledger.registry.drawn
  rw [act_attach sound free]
  dsimp only
  rw [entries, frames]
  refine ⟨_, List.mem_append_left _ named, sameId, wireName, rfl, ?_⟩
  rw [← sameDestination]
  exact List.mem_append_right _ (List.mem_map_of_mem named)

/-! ### The agreement -/

/-- **The registry and the broker agree.** After any operations: while the writer has stayed open,
the broker keeps, without what it refused, exactly what is registered, name by name and in the order
in which it was subscribed; no wire name is ever asked for twice, in one session or in two; and
every end of a subscription follows the request for it.

The frames that a session queues first are one request for each subscription that there is room for,
in order; a writer that has room for all of them is one that takes frames from the beginning, and
one that has room for none is one that never does. A subscription that is made while nothing can be
asked for stays registered until it is given up or asked for, and the next session that has room for
its request, as one with room for all of them has, asks for it. -/
theorem broker_agrees (seed : Nat) (operations : List (Operation κ)) :
    let ledger := (fresh seed : Ledger κ).run operations
    ((ledger.registry.entries.map Subscription.id).Pairwise (· < ·) ∧ (ledger.isOpen = true →
      ledger.kept.map (fun pair => (some pair.1, pair.2)) =
        ledger.registry.entries.map fun entry => (entry.wireName, entry.destination))) ∧
    ledger.names.Nodup ∧
    (∀ session ∈ ledger.sessions, Broker.IsFollowed session) ∧
    (ledger.registry.writer = none → ∀ room writer later,
      (∀ operation ∈ later, operation.staysInSession = true) →
      let begun := ledger.act (.attach room writer)
      begun.queued = (begun.registry.entries.take room).map (fun entry =>
          Registry.subscribeFrame (entry.wireName.getD "") entry.destination) ∧
        begun.registry.list = ledger.registry.list ∧
        (∀ entry ∈ begun.registry.entries.take room, entry.wireName ≠ none) ∧
        begun.queued <+: (begun.run later).queued ∧
        (ledger.registry.entries.length ≤ room → begun.isOpen = true ∧
          begun.registry.entries.take room = begun.registry.entries ∧
          (begun.registry, begun.queued) = ledger.registry.attach true writer) ∧
        (room = 0 → (begun.registry, begun.queued) = ledger.registry.attach false writer)) ∧
    (ledger.isOpen = false → ∀ destination callback later, Text.allBlank destination = false →
      let begun := ledger.act (.subscribe destination callback)
      (∀ front operation back, later = front ++ operation :: back →
        ¬(begun.run front).Settles ledger.registry.made operation) →
      let waiting := begun.run later
      (ledger.registry.made, destination) ∈ waiting.registry.list ∧
        (waiting.registry.writer = none → ∀ room, waiting.registry.list.length ≤ room →
          waiting.Reaches room ledger.registry.made) ∧
        ∀ room writer, waiting.Reaches room ledger.registry.made →
          ∃ entry ∈ (waiting.act (.attach room writer)).registry.entries,
            entry.id = ledger.registry.made ∧ ∃ wireName, entry.wireName = some wireName ∧
              Registry.subscribeFrame wireName destination ∈
                (waiting.act (.attach room writer)).queued) := by
  intro ledger
  have sound : ledger.IsSound := (isSound_fresh seed).run operations
  refine ⟨⟨sound.registry.ordered, sound.agrees⟩, sound.distinct, sound.followed,
    fun free room writer later stay => ?_,
    fun isClosed destination callback later named unsettled => ?_⟩
  · obtain ⟨-, nothing, -⟩ := sound.between free
    obtain ⟨entries, frames⟩ := Registry.attachWithin_eq sound.registry.ids room writer
    have same : (ledger.act (.attach room writer)).registry.list = ledger.registry.list := by
      rw [act_attach sound free]
      exact Registry.list_attachWithin room writer ledger.registry
    have first : (ledger.registry.attachWithin room writer).entries.take room =
        Registry.naming ledger.registry.seed ledger.registry.drawn
          (ledger.registry.entries.take room) := by
      rw [entries, Registry.take_naming_append]
    have inFront : (ledger.act (.attach room writer)).queued <+:
        ((ledger.act (.attach room writer)).run later).queued := queued_run stay
    have begins := act_attach sound free room writer
    rw [nothing, List.nil_append] at begins
    rw [begins] at same inFront ⊢
    dsimp only at same inFront ⊢
    refine ⟨?_, same, fun entry member => ?_, inFront, fun enough => ?_, fun noRoom => ?_⟩
    · rw [first, frames]
      rfl
    · rw [first] at member
      exact Registry.wireName_ne_none_of_mem_naming member
    · refine ⟨decide_eq_true enough, ?_, Registry.attachWithin_of_room enough writer⟩
      rw [first, entries, List.drop_of_length_le enough, List.append_nil]
    · rw [noRoom]
      exact Registry.attachWithin_zero _ writer
  · have subscribed := sound.act (.subscribe destination callback)
    have pending := (isPending_subscribe isClosed named callback).run subscribed unsettled
    refine ⟨pending.listed, fun free room enough => ⟨free, ?_⟩, fun room writer reached =>
      pending.asked (subscribed.run later) reached writer⟩
    rw [List.take_of_length_le enough]
    exact List.mem_map_of_mem pending.listed

end Ledger

end EventFeed
