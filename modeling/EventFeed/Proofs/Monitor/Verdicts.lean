/-
**What the server says about subscriptions.**

A session asks for each subscription under a wire name, and the server answers with a receipt, which
confirms it, or with an error, which refuses it. Nothing holds the server to that: its answers may
be about any name, come twice or in another session, contradict each other, or be about a
subscription that the consumer gave up in the meantime. The registry makes at most one verdict of
them for a name.

A `Docket` is a world with what was asked for in its current session and all verdicts so far.

* `handle_of_verdict`, `handle_of_no_verdict`: what a frame does that gives a verdict or none;
* `Tends`: what the consumer's own calls, and callbacks, do to the subscriptions;
* `IsKept`: how a registry agrees with what was asked for and with the verdicts;
* `IsKept.asks`, `IsKept.judge`, `IsKept.clear`: what happens to a registry keeps this;
* `verdicts_are_single`: this holds after anything that happens in any order.
-/

import EventFeed.Monitor.World
import EventFeed.Proofs.Subscription.Naming

namespace EventFeed

open EventFeed.Wire (Frame)

/-! ### Verdicts -/

/-- What the server says about a subscription: under which wire name and about which, and with which
words if it refuses it. -/
structure Verdict where
  name : String
  id : Nat
  destination : String
  refusal? : Option String
  deriving DecidableEq

namespace Verdict

/-- The wire name that a frame says something about. A receipt that has none is for the empty
name. -/
def about? (frame : Frame) : Option String :=
  match frame.command with
  | .receipt => some ((frame.header? Wire.Header.receiptId).getD "")
  | .error => frame.header? Wire.Header.receiptId
  | _ => none

/-- The words of a frame that refuses. -/
def words? (frame : Frame) : Option String :=
  if frame.command = .error then
    some ((frame.header? Wire.Header.message).getD "subscription refused")
  else none

def confirms (verdict : Verdict) : Bool :=
  verdict.refusal?.isNone

/-- What the consumer is told of a verdict. -/
def notice (verdict : Verdict) : Notice :=
  match verdict.refusal? with
  | none => .confirmed verdict.id verdict.destination
  | some message => .rejected verdict.id (.rejected verdict.destination message)

end Verdict

namespace Registry

variable {κ : Type}

/-- The registry after a verdict. -/
def judge (registry : Registry κ) (verdict : Verdict) : Registry κ :=
  if verdict.confirms then (registry.confirm verdict.name).2
  else (registry.reject verdict.name).2

end Registry

namespace World

/-- The verdict that a frame gives, if it gives one. -/
def verdict? (world : World) (frame : Frame) : Option Verdict := do
  let name ← Verdict.about? frame
  let entry ← world.registry.unconfirmed? name
  return ⟨name, entry.id, entry.destination, Verdict.words? frame⟩

variable {world : World} {frame : Frame} {verdict : Verdict}

/-- A frame gives a verdict about what still waits for an answer under the name that it has. -/
theorem verdict?_eq_some_iff : world.verdict? frame = some verdict ↔
    ∃ name entry, Verdict.about? frame = some name ∧
      world.registry.unconfirmed? name = some entry ∧
      verdict = ⟨name, entry.id, entry.destination, Verdict.words? frame⟩ := by
  simp only [verdict?, Option.bind_eq_bind, Option.bind_eq_some_iff, Option.pure_def,
    Option.some.injEq]
  constructor
  · rintro ⟨name, about, entry, found, rfl⟩
    exact ⟨name, entry, about, found, rfl⟩
  · rintro ⟨name, entry, about, found, rfl⟩
    exact ⟨name, about, entry, found, rfl⟩

/-- **A frame that gives a verdict** changes the registry by it, and the consumer is told. -/
theorem handle_of_verdict (given : world.verdict? frame = some verdict) :
    world.handle frame =
      { world with registry := world.registry.judge verdict }.notify verdict.notice := by
  obtain ⟨name, entry, about, found, rfl⟩ := verdict?_eq_some_iff.mp given
  unfold Verdict.about? at about
  split at about
  · rename_i command
    obtain rfl := Option.some.inj about
    have words : Verdict.words? frame = none := if_neg (by rw [command]; nofun)
    simp only [handle, command, confirm, Registry.judge, Verdict.confirms, Verdict.notice, words,
      Option.isNone_none, if_true, Registry.confirm, found]
  · rename_i command
    have words : Verdict.words? frame =
        some ((frame.header? Wire.Header.message).getD "subscription refused") := if_pos command
    simp only [handle, command, reject, about, Registry.judge, Verdict.confirms, Verdict.notice,
      words, Option.isNone_some, Bool.false_eq_true, if_false, Registry.reject, found]
  · cases about

/-- **A frame that gives no verdict and is no message** does nothing. -/
theorem handle_of_no_verdict (noVerdict : world.verdict? frame = none)
    (noMessage : frame.command ≠ .message) : world.handle frame = world := by
  have unknown : ∀ name, Verdict.about? frame = some name →
      world.registry.unconfirmed? name = none := by
    intro name about
    cases found : world.registry.unconfirmed? name with
    | none => rfl
    | some entry =>
      rw [verdict?, about, Option.bind_eq_bind, Option.bind_some, found] at noVerdict
      cases noVerdict
  unfold handle
  split
  · contradiction
  · rename_i command
    have nothing := unknown _ (by rw [Verdict.about?, command])
    simp only [confirm, Registry.confirm, nothing]
  · rename_i command
    unfold reject
    split
    · rfl
    · rename_i receipt said
      have nothing := unknown receipt (by rw [Verdict.about?, command]; exact said)
      simp only [Registry.reject, nothing]
  · rfl

theorem registry_notify (world : World) (notice : Notice) :
    (world.notify notice).registry = world.registry := by
  unfold notify note
  split <;> rfl

/-- The list of subscriptions after a verdict: nothing is gone from it but what is refused. -/
theorem list_judge (given : world.verdict? frame = some verdict) :
    (world.registry.judge verdict).list =
      if verdict.confirms then world.registry.list
      else world.registry.list.filter fun pair => pair.1 ≠ verdict.id := by
  obtain ⟨name, entry, -, found, rfl⟩ := verdict?_eq_some_iff.mp given
  unfold Registry.judge
  split
  · exact Registry.list_confirm _ _
  · rw [Registry.list_reject, found]

/-! ### What callbacks do -/

/-- What a callback leaves of a world: the consumer is told nothing, and the subscriptions are made,
given up and asked for. -/
structure Tends (before after : World) : Prop where
  mailbox : after.mailbox = before.mailbox
  registry : before.registry.IsSound → Registry.Asks before.registry after.registry

variable {before between after : World}

theorem Tends.trans (first : Tends before between) (second : Tends between after) :
    Tends before after where
  mailbox := second.mailbox.trans first.mailbox
  registry := fun sound =>
    have early := first.registry sound
    early.trans (second.registry early.sound)

/-- What leaves the subscriptions and the mailbox alone. -/
theorem tends_of_same (mailbox : after.mailbox = before.mailbox)
    (registry : after.registry = before.registry) : Tends before after :=
  ⟨mailbox, fun sound => registry ▸ sound.asks_refl⟩

theorem tends_refl (world : World) : Tends world world :=
  tends_of_same rfl rfl

theorem tends_note (world : World) (occurrence : Occurrence) :
    Tends world (world.note occurrence) :=
  tends_of_same rfl rfl

theorem tends_queue (world : World) (index : Option Nat) (frames : List Frame) :
    Tends world (world.queue index frames) := by
  unfold queue
  split <;> exact tends_of_same rfl rfl

theorem tends_send (world : World) (destination : String) (body : Except String Document.Value) :
    Tends world (world.send destination body).2 := by
  unfold send
  split
  · exact tends_refl world
  · split
    · exact tends_refl world
    · cases body with
      | error cause => exact tends_refl world
      | ok body =>
        dsimp only
        split
        · exact tends_queue _ _ _
        · exact tends_refl world

theorem tends_subscribe (world : World) (consumer : Consumer) (destination : String) :
    Tends world (world.subscribe consumer destination).2 := by
  unfold subscribe
  split
  · exact tends_refl world
  · rename_i id registry frames made
    have changed : Tends world
        { world with registry, names := (consumer.name, id) :: world.names } :=
      ⟨rfl, fun sound => sound.asks_subscribe made⟩
    exact changed.trans (tends_queue _ _ _)

theorem tends_unsubscribe (world : World) (name : String) :
    Tends world (world.unsubscribe name).2 := by
  unfold unsubscribe
  split
  · exact tends_refl world
  · rename_i id known
    have changed : Tends world
        { world with registry := (world.registry.unsubscribe world.isAttached id).2.1 } :=
      ⟨rfl, fun sound => sound.asks_unsubscribe world.isAttached id⟩
    exact changed.trans (tends_queue _ _ _)

theorem tends_react (world : World) (consumer : Consumer) (event : Event) :
    Tends world (world.react consumer event) := by
  have noted := tends_note world (.delivered consumer event)
  unfold react
  cases consumer.reaction with
  | ignore => exact tends_refl world
  | note => exact noted
  | read names => exact noted
  | crash => exact noted.trans (tends_note _ _)
  | unsubscribe name => exact (noted.trans (tends_unsubscribe _ name)).trans (tends_note _ _)
  | reply destination =>
    exact (noted.trans (tends_send _ destination (.ok (Consumer.answer event)))).trans
      (tends_note _ _)
  | subscribe destination =>
    exact (noted.trans (tends_subscribe _ ⟨consumer.child event, .ignore⟩ destination)).trans
      (tends_note _ _)

theorem tends_foldl_react (world : World) (targets : List (Subscription Consumer))
    (event : Event) :
    Tends world
      (targets.foldl (fun world target => world.react target.callback event) world) := by
  induction targets generalizing world with
  | nil => exact tends_refl world
  | cons target targets ih => exact (tends_react world target.callback event).trans (ih _)

/-- **A message tells the consumer of no verdict**, whatever the callbacks do that it reaches. -/
theorem tends_deliver (world : World) (frame : Frame) : Tends world (world.deliver frame) := by
  have counted (sequences : Sequences) : Tends world { world with sequences } :=
    tends_of_same rfl rfl
  unfold deliver
  dsimp only
  split
  · exact (counted _).trans (tends_note _ _)
  · exact counted _
  · rename_i delivery _
    exact (counted _).trans (tends_foldl_react _ delivery.targets delivery.event)

end World

/-! ### What the registry knows of the verdicts -/

namespace Registry

variable {κ : Type} {registry before after : Registry κ} {asked : List (String × Nat)}
  {verdicts : List Verdict}

/-- How a registry agrees with the names that were asked for in the current session and with all
verdicts so far: its table has the names whose subscriptions are still there, no name was judged
twice, and what has a verdict is confirmed, for a refused name is not in the table. -/
structure IsKept (registry : Registry κ) (asked : List (String × Nat))
    (verdicts : List Verdict) : Prop where
  sound : registry.IsSound
  listed : ∀ name id, (name, id) ∈ registry.byWire ↔
    (name, id) ∈ asked ∧ ∃ entry ∈ registry.entries, entry.id = id
  made : ∀ pair ∈ asked, pair.2 < registry.made
  drawn : ∀ verdict ∈ verdicts, registry.IsDrawn verdict.name
  single : (verdicts.map Verdict.name).Nodup
  judged : ∀ verdict ∈ verdicts, ∀ entry ∈ registry.entries,
    (verdict.name, entry.id) ∈ registry.byWire → entry.confirmed = true
  confirmed : ∀ entry ∈ registry.entries, entry.confirmed = true →
    ∀ name, (name, entry.id) ∈ registry.byWire →
      ∃ verdict ∈ verdicts, verdict.name = name ∧ verdict.confirms = true

theorem isKept_empty (seed : Nat) : (empty seed : Registry κ).IsKept [] [] where
  sound := isSound_empty seed
  listed := fun _ _ => iff_of_false List.not_mem_nil fun ⟨unasked, _⟩ => List.not_mem_nil unasked
  made := nofun
  drawn := nofun
  single := List.nodup_nil
  judged := nofun
  confirmed := nofun

/-- A session is over: nothing of what was asked for in it is left in the table. -/
theorem IsKept.clear (kept : before.IsKept asked verdicts) (sound : after.IsSound)
    (cleared : after.byWire = []) (seed : after.seed = before.seed)
    (drawn : before.drawn ≤ after.drawn) : after.IsKept [] verdicts where
  sound := sound
  listed := by
    intro name id
    rw [cleared]
    exact iff_of_false List.not_mem_nil fun ⟨unasked, _⟩ => List.not_mem_nil unasked
  made := nofun
  drawn := fun verdict member => (kept.drawn verdict member).mono seed drawn
  single := kept.single
  judged := by
    intro _ _ _ _ listed
    rw [cleared] at listed
    cases listed
  confirmed := by
    intro _ _ _ _ listed
    rw [cleared] at listed
    cases listed

/-- A name that was drawn since has no verdict. -/
theorem IsKept.ne_of_isNew (kept : before.IsKept asked verdicts) (seed : after.seed = before.seed)
    {name : String} (new : IsNew before after name) : ∀ verdict ∈ verdicts, verdict.name ≠ name :=
  fun verdict member same => not_isDrawn_of_isNew seed new (same ▸ kept.drawn verdict member)

/-- A new name was not there before. -/
theorem IsKept.mem_given_of_isNew (kept : before.IsKept asked verdicts)
    (asks : Asks before after) {name : String} {id : Nat} (listed : (name, id) ∈ after.byWire)
    (new : IsNew before after name) : (name, id) ∈ given before after := by
  refine mem_given.mpr ⟨asks.sound.mem_names_of_listed listed, fun named => ?_⟩
  exact not_isDrawn_of_isNew asks.seed new (kept.sound.isDrawn_of_mem_names named)

/-- A name that is given is in the table. -/
theorem Asks.listed_of_mem_given (asks : Asks before after) {name : String} {id : Nat}
    (new : (name, id) ∈ given before after) : (name, id) ∈ after.byWire := by
  obtain ⟨named, unnamed⟩ := mem_given.mp new
  obtain ⟨entry, member, entryNamed, rfl⟩ := mem_names.mp named
  rcases asks.entries entry member with old | ⟨-, listed⟩
  · exact absurd (mem_names.mpr ⟨entry, old, entryNamed, rfl⟩) unnamed
  · exact (listed name entryNamed).1

/-- **Subscriptions are made, given up and asked for**, and what was asked for is known. -/
theorem IsKept.asks (kept : before.IsKept asked verdicts) (asks : Asks before after) :
    after.IsKept (asked ++ given before after) verdicts where
  sound := asks.sound
  listed := by
    intro name id
    constructor
    · intro listed
      obtain ⟨entry, member, same, -⟩ := asks.sound.indexed name id listed
      refine ⟨List.mem_append.mpr ?_, entry, member, same⟩
      rcases asks.listed _ listed with old | new
      · exact .inl ((kept.listed name id).mp old).1
      · exact .inr (kept.mem_given_of_isNew asks listed new)
    · rintro ⟨wasAsked, entry, member, rfl⟩
      rcases List.mem_append.mp wasAsked with early | late
      · have older := kept.made _ early
        obtain ⟨held, heldMember, same⟩ := asks.known entry member older
        have old := (kept.listed name entry.id).mpr ⟨early, held, heldMember, same⟩
        exact asks.kept _ old older ⟨entry, member, rfl⟩
      · exact asks.listed_of_mem_given late
  made := by
    intro pair wasAsked
    rcases List.mem_append.mp wasAsked with early | late
    · exact Nat.lt_of_lt_of_le (kept.made pair early) asks.made
    · obtain ⟨entry, member, -, same⟩ := mem_names.mp (mem_given.mp late).1
      exact same ▸ asks.sound.made entry member
  drawn := fun verdict member => (kept.drawn verdict member).mono asks.seed asks.drawn
  single := kept.single
  judged := by
    intro verdict given entry member listed
    rcases asks.listed _ listed with old | new
    · have named := (asks.sound.named_of_mem listed (asks.sound.find?_of_mem member)).2.2
      rcases asks.entries entry member with same | ⟨-, new⟩
      · exact kept.judged verdict given entry same old
      · exact absurd rfl (kept.ne_of_isNew asks.seed (new _ named).2 verdict given)
    · exact absurd rfl (kept.ne_of_isNew asks.seed new verdict given)
  confirmed := by
    intro entry member isConfirmed name listed
    have same : entry ∈ before.entries := by
      refine (asks.entries entry member).resolve_right fun ⟨unconfirmed, _⟩ => ?_
      rw [isConfirmed] at unconfirmed
      cases unconfirmed
    refine kept.confirmed entry same isConfirmed name ((asks.listed _ listed).resolve_right ?_)
    intro new
    have named := (asks.sound.named_of_mem listed (asks.sound.find?_of_mem member)).2.2
    exact not_isDrawn_of_isNew asks.seed new (kept.sound.drawn entry same name named)

section Judge

variable {verdict : Verdict} {entry : Subscription κ}

/-- What still waits for an answer has no verdict. -/
theorem IsKept.notMem_of_unconfirmed (kept : registry.IsKept asked verdicts) {name : String}
    (found : registry.unconfirmed? name = some entry) : name ∉ verdicts.map Verdict.name := by
  obtain ⟨member, listed, unconfirmed⟩ := kept.sound.unconfirmed?_eq_some_iff.mp found
  intro judged
  obtain ⟨verdict, given, rfl⟩ := List.mem_map.mp judged
  have isConfirmed := kept.judged verdict given entry member listed
  rw [unconfirmed] at isConfirmed
  cases isConfirmed

theorem IsKept.nodup_of_unconfirmed (kept : registry.IsKept asked verdicts)
    (found : registry.unconfirmed? verdict.name = some entry) :
    ((verdicts ++ [verdict]).map Verdict.name).Nodup := by
  rw [List.map_append, List.map_singleton, List.nodup_append]
  refine ⟨kept.single, List.nodup_singleton _, fun name judged other new same => ?_⟩
  obtain rfl := List.mem_singleton.mp new
  exact kept.notMem_of_unconfirmed found (same ▸ judged)

theorem IsKept.drawn_of_unconfirmed (kept : registry.IsKept asked verdicts)
    (found : registry.unconfirmed? verdict.name = some entry) :
    ∀ other ∈ verdicts ++ [verdict], registry.IsDrawn other.name := by
  obtain ⟨-, listed, -⟩ := kept.sound.unconfirmed?_eq_some_iff.mp found
  rw [List.forall_mem_append, List.forall_mem_singleton]
  exact ⟨kept.drawn, kept.sound.isDrawn_of_mem_names (kept.sound.mem_names_of_listed listed)⟩

/-- The server confirms a subscription. -/
theorem IsKept.confirm (kept : registry.IsKept asked verdicts)
    (found : registry.unconfirmed? verdict.name = some entry)
    (confirms : verdict.confirms = true) :
    (registry.confirm verdict.name).2.IsKept asked (verdicts ++ [verdict]) := by
  have soundAfter := kept.sound.confirm verdict.name
  obtain ⟨member, listed, -⟩ := kept.sound.unconfirmed?_eq_some_iff.mp found
  let update : Subscription κ → Subscription κ := fun entry => { entry with confirmed := true }
  have after : (registry.confirm verdict.name).2 =
      { registry with entries := change registry.entries entry.id update } := by
    rw [Registry.confirm, found]
  rw [after] at soundAfter ⊢
  have ids (id : Nat) : (∃ held ∈ change registry.entries entry.id update, held.id = id) ↔
      ∃ held ∈ registry.entries, held.id = id := by
    simp only [← List.mem_map]
    rw [ids_change registry.entries entry.id update fun _ => rfl]
  refine ⟨soundAfter, fun name id => ?_, kept.made, kept.drawn_of_unconfirmed found,
    kept.nodup_of_unconfirmed found, ?_, ?_⟩
  · exact (kept.listed name id).trans (and_congr_right fun _ => (ids id).symm)
  · intro other judged held heldMember heldListed
    rcases kept.sound.eq_or_mem_of_mem_change member heldMember with rfl | ⟨old, different⟩
    · rfl
    · rcases List.mem_append.mp judged with early | new
      · exact kept.judged other early held old heldListed
      · rw [List.mem_singleton.mp new] at heldListed
        exact absurd ((kept.sound.eq_iff_of_listed listed heldListed).mp rfl) different
  · intro held heldMember isConfirmed name heldListed
    rcases kept.sound.eq_or_mem_of_mem_change member heldMember with rfl | ⟨old, -⟩
    · have same := (kept.sound.eq_iff_of_listed listed heldListed).mpr rfl
      exact ⟨verdict, List.mem_append_right _ List.mem_cons_self, same.symm, confirms⟩
    · obtain ⟨other, given, about⟩ := kept.confirmed held old isConfirmed name heldListed
      exact ⟨other, List.mem_append_left _ given, about⟩

/-- The server refuses a subscription. -/
theorem IsKept.reject (kept : registry.IsKept asked verdicts)
    (found : registry.unconfirmed? verdict.name = some entry) :
    (registry.reject verdict.name).2.IsKept asked (verdicts ++ [verdict]) := by
  have soundAfter := kept.sound.reject verdict.name
  obtain ⟨member, listed, -⟩ := kept.sound.unconfirmed?_eq_some_iff.mp found
  rw [reject_of_some found] at soundAfter ⊢
  -- The name goes with its number: what is left of the table is what is left of the subscriptions.
  have left {name : String} {id : Nat} :
      (name, id) ∈ (registry.retire verdict.name entry.id).byWire ↔
        (name, id) ∈ registry.byWire ∧ id ≠ entry.id := by
    refine List.mem_filter.trans (and_congr_right fun heldListed => ?_)
    rw [decide_eq_true_iff]
    exact not_congr (kept.sound.eq_iff_of_listed listed heldListed)
  refine ⟨soundAfter, fun name id => ?_, kept.made, kept.drawn_of_unconfirmed found,
    kept.nodup_of_unconfirmed found, ?_, ?_⟩
  · rw [left, kept.listed, and_assoc]
    refine and_congr_right fun _ => ⟨?_, ?_⟩
    · rintro ⟨⟨held, heldMember, rfl⟩, different⟩
      exact ⟨held, mem_without.mpr ⟨heldMember, different⟩, rfl⟩
    · rintro ⟨held, heldMember, rfl⟩
      obtain ⟨old, different⟩ := mem_without.mp heldMember
      exact ⟨⟨held, old, rfl⟩, different⟩
  · intro other judged held heldMember heldListed
    obtain ⟨oldListed, different⟩ := left.mp heldListed
    rcases List.mem_append.mp judged with early | new
    · exact kept.judged other early held (mem_without.mp heldMember).1 oldListed
    · rw [List.mem_singleton.mp new] at oldListed
      exact absurd ((kept.sound.eq_iff_of_listed listed oldListed).mp rfl) different
  · intro held heldMember isConfirmed name heldListed
    obtain ⟨other, given, about⟩ := kept.confirmed held (mem_without.mp heldMember).1 isConfirmed
      name (left.mp heldListed).1
    exact ⟨other, List.mem_append_left _ given, about⟩

/-- **A verdict is the first one under its name**, and it is known after that. -/
theorem IsKept.judge (kept : registry.IsKept asked verdicts)
    (found : registry.unconfirmed? verdict.name = some entry) :
    (registry.judge verdict).IsKept asked (verdicts ++ [verdict]) := by
  unfold Registry.judge
  split
  · exact kept.confirm found ‹_›
  · exact kept.reject found

/-- No verdict gives a name. -/
theorem given_judge (registry : Registry κ) (verdict : Verdict) :
    given registry (registry.judge verdict) = [] := by
  refine given_eq_nil fun ⟨name, id⟩ named => ?_
  obtain ⟨held, member, heldNamed, rfl⟩ := mem_names.mp named
  have old : ∃ entry ∈ registry.entries, entry.wireName = held.wireName ∧ entry.id = held.id := by
    unfold judge confirm reject at member
    split at member <;> split at member
    · exact ⟨held, member, rfl, rfl⟩
    · obtain ⟨entry, entryMember, rfl⟩ := mem_change.mp member
      exact ⟨entry, entryMember, by split <;> rfl, by split <;> rfl⟩
    · exact ⟨held, member, rfl, rfl⟩
    · exact ⟨held, (mem_without.mp member).1, rfl, rfl⟩
  obtain ⟨entry, entryMember, sameName, sameId⟩ := old
  exact mem_names.mpr ⟨entry, entryMember, sameName.trans heldNamed, sameId⟩

end Judge

end Registry

/-! ### Whatever happens -/

namespace Docket

/-- What happens to a world and its subscriptions: the server says something; the consumer
subscribes, or gives up a subscription, while the writer takes frames or not; a session begins,
whose writer has room for some frames, or a session ends; and anything else, for which the world may
change as it likes, but for the subscriptions. -/
inductive Incident where
  | hear (frame : Frame)
  | subscribe (isOpen : Bool) (destination : String) (consumer : Consumer)
  | unsubscribe (isOpen : Bool) (id : Nat)
  | attach (room writer : Nat)
  | detach
  | elsewhere (other : World)

namespace Incident

/-- Whether a session begins or ends. -/
def isBoundary : Incident → Bool
  | .attach _ _ | .detach => true
  | _ => false

def change (incident : Incident) (world : World) : World :=
  match incident with
  | .hear frame => world.handle frame
  | .subscribe isOpen destination consumer =>
    { world with registry := world.registry.act (.subscribe isOpen destination consumer) }
  | .unsubscribe isOpen id => { world with registry := world.registry.act (.unsubscribe isOpen id) }
  | .attach room writer => { world with registry := world.registry.act (.attach room writer) }
  | .detach => { world with registry := world.registry.act .detach }
  | .elsewhere other => { other with registry := world.registry }

def verdict? (incident : Incident) (world : World) : Option Verdict :=
  match incident with
  | .hear frame => world.verdict? frame
  | _ => none

end Incident

end Docket

/-- A world, the wire names that were given in its current session with their numbers, and all
verdicts so far. -/
structure Docket where
  world : World
  asked : List (String × Nat)
  verdicts : List Verdict

namespace Docket

/-- A world without subscriptions; the seed is that of its wire names. -/
def start (world : World) (seed : Nat) : Docket where
  world := { world with registry := .empty seed }
  asked := []
  verdicts := []

def meet (docket : Docket) (incident : Incident) : Docket :=
  let after := incident.change docket.world
  { world := after
    asked := (if incident.isBoundary then [] else docket.asked) ++
      Registry.given docket.world.registry after.registry
    verdicts := docket.verdicts ++ (incident.verdict? docket.world).toList }

def run (docket : Docket) (incidents : List Incident) : Docket :=
  incidents.foldl meet docket

/-- Whether a verdict is due under a name about a subscription: it is registered, it was asked for
under the name in the current session, and it is not confirmed yet. -/
def IsDue (docket : Docket) (name : String) (id : Nat) (destination : String) : Prop :=
  (id, destination) ∈ docket.world.registry.list ∧ (name, id) ∈ docket.asked ∧
    ¬∃ verdict ∈ docket.verdicts, verdict.name = name ∧ verdict.confirms = true

/-- How the registry agrees with the docket. -/
def IsKept (docket : Docket) : Prop :=
  docket.world.registry.IsKept docket.asked docket.verdicts

variable {docket : Docket}

theorem isKept_start (world : World) (seed : Nat) : (start world seed).IsKept :=
  Registry.isKept_empty seed

/-- What gives no verdict, and begins and ends no session, keeps the docket if it does no more than
make, give up and ask for subscriptions. -/
theorem IsKept.meet_of_asks (kept : docket.IsKept) {incident : Incident}
    (stays : incident.isBoundary = false) (silent : incident.verdict? docket.world = none)
    (asks : Registry.Asks docket.world.registry (incident.change docket.world).registry) :
    (docket.meet incident).IsKept := by
  have after := Registry.IsKept.asks kept asks
  rw [IsKept, meet, stays, silent]
  simpa using after

/-- What gives a verdict keeps the docket. -/
theorem IsKept.meet_of_verdict (kept : docket.IsKept) {frame : Frame} {verdict : Verdict}
    (given : docket.world.verdict? frame = some verdict) :
    (docket.meet (.hear frame)).IsKept := by
  obtain ⟨name, entry, -, found, same⟩ := World.verdict?_eq_some_iff.mp given
  have named : verdict.name = name := congrArg Verdict.name same
  have after := Registry.IsKept.judge kept (named ▸ found)
  have registry : (docket.world.handle frame).registry = docket.world.registry.judge verdict := by
    rw [World.handle_of_verdict given, World.registry_notify]
  show Registry.IsKept (docket.world.handle frame).registry
    (docket.asked ++ Registry.given _ (docket.world.handle frame).registry)
    (docket.verdicts ++ (docket.world.verdict? frame).toList)
  rw [registry, Registry.given_judge, List.append_nil, given]
  exact after

/-- **Everything that happens keeps the docket.** -/
theorem IsKept.meet (kept : docket.IsKept) (incident : Incident) :
    (docket.meet incident).IsKept := by
  have sound := Registry.IsKept.sound kept
  cases incident with
  | hear frame =>
    cases given : docket.world.verdict? frame with
    | some verdict => exact kept.meet_of_verdict given
    | none =>
      refine kept.meet_of_asks rfl given ?_
      by_cases command : frame.command = .message
      · rw [Incident.change, World.handle, command]
        exact (World.tends_deliver docket.world frame).registry sound
      · rw [Incident.change, World.handle_of_no_verdict given command]
        exact sound.asks_refl
  | subscribe isOpen destination consumer =>
    refine kept.meet_of_asks rfl rfl ?_
    unfold Incident.change Registry.act
    dsimp only
    split
    · exact sound.asks_refl
    · exact sound.asks_subscribe ‹_›
  | unsubscribe isOpen id => exact kept.meet_of_asks rfl rfl (sound.asks_unsubscribe isOpen id)
  | attach room writer =>
    have cleared := Registry.IsKept.clear kept (sound.cleared writer) rfl rfl (Nat.le_refl _)
    have after := cleared.asks (sound.asks_attachWithin room writer)
    show Registry.IsKept _ _ (docket.verdicts ++ [])
    rw [List.append_nil]
    exact after
  | detach =>
    have cleared := Registry.IsKept.clear kept sound.detach rfl rfl (Nat.le_refl _)
    have unnamed : docket.world.registry.detach.names = [] := by
      simp [Registry.names, Registry.detach]
    have nothing : Registry.given docket.world.registry docket.world.registry.detach = [] :=
      Registry.given_eq_nil (by rw [unnamed]; exact List.nil_subset _)
    show Registry.IsKept docket.world.registry.detach
      ([] ++ Registry.given _ docket.world.registry.detach) (docket.verdicts ++ [])
    rw [nothing, List.append_nil docket.verdicts]
    exact cleared
  | elsewhere other => exact kept.meet_of_asks rfl rfl sound.asks_refl

theorem isKept_run (world : World) (seed : Nat) (incidents : List Incident) :
    ((start world seed).run incidents).IsKept := by
  induction incidents using List.reverseRecOn with
  | nil => exact isKept_start world seed
  | append_singleton incidents incident ih =>
    rw [run, List.foldl_append]
    exact ih.meet incident

/-- **A verdict is given exactly when it is due.** -/
theorem IsKept.verdict?_eq_some_iff (kept : docket.IsKept) {frame : Frame} {verdict : Verdict} :
    docket.world.verdict? frame = some verdict ↔
      Verdict.about? frame = some verdict.name ∧ verdict.refusal? = Verdict.words? frame ∧
        docket.IsDue verdict.name verdict.id verdict.destination := by
  have sound := Registry.IsKept.sound kept
  rw [World.verdict?_eq_some_iff]
  constructor
  · rintro ⟨name, entry, about, found, rfl⟩
    obtain ⟨member, listed, unconfirmed⟩ := sound.unconfirmed?_eq_some_iff.mp found
    refine ⟨about, rfl, List.mem_map_of_mem member,
      ((Registry.IsKept.listed kept name entry.id).mp listed).1, ?_⟩
    rintro ⟨other, given, rfl, -⟩
    have isConfirmed := Registry.IsKept.judged kept other given entry member listed
    rw [unconfirmed] at isConfirmed
    cases isConfirmed
  · rintro ⟨about, words, registered, wasAsked, unconfirmed⟩
    obtain ⟨entry, member, same⟩ := List.mem_map.mp registered
    obtain ⟨sameId, sameDestination⟩ := Prod.mk.inj same
    have listed : (verdict.name, entry.id) ∈ docket.world.registry.byWire :=
      (Registry.IsKept.listed kept verdict.name entry.id).mpr
        ⟨sameId ▸ wasAsked, entry, member, rfl⟩
    refine ⟨verdict.name, entry, about, sound.unconfirmed?_eq_some_iff.mpr ⟨member, listed, ?_⟩, ?_⟩
    · refine Bool.eq_false_iff.mpr fun isConfirmed => unconfirmed ?_
      exact Registry.IsKept.confirmed kept entry member isConfirmed verdict.name listed
    · rw [sameId, sameDestination, ← words]

/-- What was judged once is not judged again. -/
theorem IsKept.verdict?_of_judged (kept : docket.IsKept) {verdict : Verdict}
    (judged : verdict ∈ docket.verdicts) {frame : Frame}
    (about : Verdict.about? frame = some verdict.name) : docket.world.verdict? frame = none := by
  refine Option.eq_none_iff_forall_not_mem.mpr fun again given => ?_
  obtain ⟨name, entry, aboutToo, found, rfl⟩ := World.verdict?_eq_some_iff.mp given
  obtain rfl := Option.some.inj (about.symm.trans aboutToo)
  exact Registry.IsKept.notMem_of_unconfirmed kept found (List.mem_map_of_mem judged)

/-- **The server's verdicts are single.** Whatever the server says, the consumer calls, and sessions
begin and end, in whatever order: no wire name has two verdicts. A frame gives one exactly when it
has the wire name of a subscription that is registered, was asked for under that name in the current
session and is not confirmed yet. Then the consumer is told, a confirmation leaves every
subscription registered, and a refusal takes out exactly the one that it is about. A frame that
gives none does nothing, unless it is a message, of which the consumer gets no verdict either; and
whatever is said again about a name that has one does nothing. -/
theorem verdicts_are_single (world : World) (seed : Nat) (incidents : List Incident) :
    let docket := (start world seed).run incidents
    (docket.verdicts.map Verdict.name).Nodup ∧
      ∀ frame,
        (∀ verdict, docket.world.verdict? frame = some verdict ↔
          Verdict.about? frame = some verdict.name ∧ verdict.refusal? = Verdict.words? frame ∧
            docket.IsDue verdict.name verdict.id verdict.destination) ∧
        (∀ verdict, docket.world.verdict? frame = some verdict →
          ∃ registry,
            docket.world.handle frame =
              { docket.world with registry := registry }.notify verdict.notice ∧
            registry.list =
              if verdict.confirms then docket.world.registry.list
              else docket.world.registry.list.filter fun pair => pair.1 ≠ verdict.id) ∧
        (docket.world.verdict? frame = none → frame.command ≠ .message →
          docket.world.handle frame = docket.world) ∧
        (frame.command = .message →
          (docket.world.handle frame).mailbox = docket.world.mailbox) ∧
        ∀ verdict ∈ docket.verdicts, Verdict.about? frame = some verdict.name →
          docket.world.handle frame = docket.world := by
  intro docket
  have kept : docket.IsKept := isKept_run world seed incidents
  refine ⟨Registry.IsKept.single kept, fun frame => ⟨fun verdict => kept.verdict?_eq_some_iff,
    fun verdict given => ?_, World.handle_of_no_verdict, fun command => ?_,
    fun verdict judged about => ?_⟩⟩
  · exact ⟨_, World.handle_of_verdict given, World.list_judge given⟩
  · rw [World.handle, command]
    exact (World.tends_deliver docket.world frame).mailbox
  · refine World.handle_of_no_verdict (kept.verdict?_of_judged judged about) fun command => ?_
    rw [Verdict.about?, command] at about
    cases about

/-- What is said about a wire name. -/
def about (command : Wire.Command) (name : String) : Frame :=
  (Frame.ofCommand command).withHeader Wire.Header.receiptId name

/-- Of two subscriptions the server confirms the first and refuses the second, and then says the
opposite of both. Each has the one verdict that came first, and the first is still registered; in
the next session it is asked for under another name, which is judged anew. -/
theorem verdicts_are_single_after_contradictions :
    let first := identifier 7 .subscription 0
    let second := identifier 7 .subscription 1
    let third := identifier 7 .subscription 2
    let world := World.fresh .standard ⟨.zero, .accept .accepting⟩ 0
    let incidents : List Incident :=
      [.subscribe true "/a" ⟨"a", .note⟩, .subscribe true "/b" ⟨"b", .note⟩, .attach 2 0,
        .hear (about .receipt first), .hear (about .error second), .hear (about .error first),
        .hear (about .receipt second), .detach, .attach 1 1, .hear (about .receipt first),
        .hear (about .receipt third)]
    let docket := (start world 7).run incidents
    docket.verdicts =
        [⟨first, 0, "/a", none⟩, ⟨second, 1, "/b", some "subscription refused"⟩,
          ⟨third, 0, "/a", none⟩] ∧
      docket.world.registry.list = [(0, "/a")] ∧
      docket.world.mailbox.waiting = docket.verdicts.map Verdict.notice ∧
      docket.world.handle (about .error third) = docket.world := by
  intro first second third world incidents docket
  have verdicts : docket.verdicts =
      [⟨first, 0, "/a", none⟩, ⟨second, 1, "/b", some "subscription refused"⟩,
        ⟨third, 0, "/a", none⟩] := by decide +kernel
  obtain ⟨-, hears⟩ := verdicts_are_single world 7 incidents
  obtain ⟨-, -, -, -, again⟩ := hears (about .error third)
  refine ⟨verdicts, by decide +kernel, by decide +kernel,
    again ⟨third, 0, "/a", none⟩ ?_ (by decide +kernel)⟩
  exact verdicts ▸ by simp

end Docket

end EventFeed
