/-
**Which subscriptions a message reaches.**

A message may say under which wire name its subscription was asked for. Who is reached depends on
what became of that name: it may belong to a subscription, it may have been taken away in this
session, or the session may not know it, be it that it is older than the session or was made up.
What became of it is a matter of the calls before; the registry keeps just enough to tell the three
apart.

* `removed?`: the subscription that a call takes out;
* `IsConsistent.live?_eq_some_iff`: the table of wire names finds exactly who has the name;
* `mem_retired_run_iff`: what is retired after a run is what was taken away since its last session
  began;
* `ne_of_mem_route_run`: a number that was taken out is never reached again;
* `routing_is_exact`: what this comes to for a registry that began empty.
-/

import EventFeed.Proofs.Subscription.Consistency
import Mathlib.Data.List.Induction

namespace EventFeed.Registry

open EventFeed.Wire (Frame)

variable {κ : Type}

/-! ### Who has a wire name -/

section

variable {registry : Registry κ} {entry : Subscription κ}

/-- A subscription is found under its number. -/
theorem IsSound.find?_of_mem (sound : registry.IsSound) (member : entry ∈ registry.entries) :
    registry.find? entry.id = some entry := by
  have present : (registry.find? entry.id).isSome = true :=
    List.find?_isSome.mpr ⟨entry, member, decide_eq_true rfl⟩
  obtain ⟨held, found⟩ := Option.isSome_iff_exists.mp present
  obtain ⟨heldMember, same⟩ := mem_of_find? found
  rw [found, sound.eq_of_id heldMember member same]

/-- The table of wire names finds the subscription that it has under the name. -/
theorem IsSound.live?_eq_some_iff (sound : registry.IsSound) {wireName : String} :
    registry.live? wireName = some entry ↔
      entry ∈ registry.entries ∧ (wireName, entry.id) ∈ registry.byWire := by
  constructor
  · intro found
    simp only [live?, Option.bind_eq_bind, Option.bind_eq_some_iff] at found
    obtain ⟨⟨key, id⟩, first, target⟩ := found
    obtain rfl : key = wireName := by simpa using List.find?_some first
    obtain ⟨member, rfl⟩ := mem_of_find? target
    exact ⟨member, List.mem_of_find?_eq_some first⟩
  · rintro ⟨member, listed⟩
    have keyed : (registry.byWire.find? fun pair => pair.1 = wireName).isSome = true :=
      List.find?_isSome.mpr ⟨_, listed, decide_eq_true rfl⟩
    obtain ⟨⟨key, id⟩, first⟩ := Option.isSome_iff_exists.mp keyed
    obtain rfl : key = wireName := by simpa using List.find?_some first
    -- Whatever stands first under the name, it is the number of the one subscription that has it.
    obtain ⟨held, heldMember, rfl, heldNamed⟩ :=
      sound.indexed key id (List.mem_of_find?_eq_some first)
    have named := (sound.named_of_mem listed (sound.find?_of_mem member)).2.2
    have same := sound.apart held heldMember entry member key heldNamed named
    rw [live?, first, ← sound.find?_of_mem member, ← same]
    rfl

/-- **The table of wire names finds exactly the subscription that has the name.** -/
theorem IsConsistent.live?_eq_some_iff (consistent : registry.IsConsistent) {wireName : String} :
    registry.live? wireName = some entry ↔
      entry ∈ registry.entries ∧ entry.wireName = some wireName := by
  have sound := consistent.toIsSound
  rw [sound.live?_eq_some_iff]
  refine and_congr_right fun member => ⟨fun listed => ?_, consistent.listed entry member wireName⟩
  exact (sound.named_of_mem listed (sound.find?_of_mem member)).2.2

theorem IsConsistent.live?_eq_none (consistent : registry.IsConsistent) {wireName : String}
    (free : ∀ entry ∈ registry.entries, entry.wireName ≠ some wireName) :
    registry.live? wireName = none := by
  refine Option.eq_none_iff_forall_not_mem.mpr fun entry found => ?_
  obtain ⟨member, named⟩ := consistent.live?_eq_some_iff.mp found
  exact free entry member named

/-- A name that a subscription has reaches that subscription. -/
theorem IsConsistent.route_of_live (consistent : registry.IsConsistent)
    (member : entry ∈ registry.entries) {wireName : String}
    (named : entry.wireName = some wireName) (destination : String) :
    registry.route (some wireName) destination = [entry] := by
  rw [route, Option.bind_some, consistent.live?_eq_some_iff.mpr ⟨member, named⟩]

/-- A retired name reaches nobody. -/
theorem IsConsistent.route_of_retired (consistent : registry.IsConsistent) {wireName : String}
    (retired : wireName ∈ registry.retired) (destination : String) :
    registry.route (some wireName) destination = [] := by
  have nobody := consistent.live?_eq_none (consistent.gone wireName retired)
  rw [route, Option.bind_some, nobody]
  exact if_pos (List.contains_iff_mem.mpr retired)

/-- Without a name, or with one that means nothing now, everyone at the destination is reached. -/
theorem IsConsistent.route_of_unknown (consistent : registry.IsConsistent) {header : Option String}
    (free : ∀ wireName, header = some wireName →
      ∀ entry ∈ registry.entries, entry.wireName ≠ some wireName)
    (kept : ∀ wireName, header = some wireName → wireName ∉ registry.retired)
    (destination : String) :
    registry.route header destination =
      registry.entries.filter fun entry => entry.destination = destination := by
  cases header with
  | none => rfl
  | some wireName =>
    have nobody := consistent.live?_eq_none (free wireName rfl)
    rw [route, Option.bind_some, nobody]
    exact if_neg fun retired => kept wireName rfl (List.contains_iff_mem.mp retired)

/-- A message that reaches nobody becomes no event. -/
theorem dispatch_ne_of_nobody {frame : Frame}
    (nobody : ∀ destination,
      registry.route (frame.header? Wire.Header.subscription) destination = [])
    (sequences : Sequences) (delivery : Delivery κ) :
    Delivery.dispatch registry sequences frame ≠ .ok (some delivery) := by
  intro delivered
  let meeting : Meeting κ := ⟨registry, frame⟩
  have shown : Delivery.delivered? (Delivery.dispatch meeting.registry sequences meeting.frame) =
      some delivery := congrArg Delivery.delivered? delivered
  have becomes := Delivery.becomes_of_delivered shown
  exact (Delivery.becomes_iff.mp becomes).2.1 (nobody _)

end

/-! ### What was taken away -/

/-- The subscription that a call takes out, if it takes one out: the consumer gives it up, or the
server refuses it. -/
def removed? (registry : Registry κ) : Call κ → Option (Subscription κ)
  | .unsubscribe isOpen id => if (registry.unsubscribe isOpen id).1 then registry.find? id else none
  | .reject receipt => (registry.reject receipt).1
  | _ => none

/-- Whether a wire name was taken away in the session that is current after some calls: with one of
them the subscription was taken out that had it, and no session began or ended since. -/
def IsGone (seed : Nat) (calls : List (Call κ)) (wireName : String) : Prop :=
  ∃ earlier call later entry, calls = earlier ++ call :: later ∧
    (∀ other ∈ later, other.staysInSession = true) ∧
    ((empty seed).run earlier).removed? call = some entry ∧ entry.wireName = some wireName

section

variable {registry : Registry κ} {entry : Subscription κ}

/-- What a removal does to the subscriptions. -/
theorem IsSound.list_act_of_removed (sound : registry.IsSound) {call : Call κ}
    (removed : registry.removed? call = some entry) :
    entry ∈ registry.entries ∧
      (registry.act call).list = registry.list.filter (fun pair => pair.1 ≠ entry.id) ∧
      (registry.act call).made = registry.made := by
  cases call with
  | unsubscribe isOpen id =>
    rw [removed?, Option.ite_none_right_eq_some] at removed
    obtain ⟨member, rfl⟩ := mem_of_find? removed.2
    exact ⟨member, list_unsubscribe registry isOpen entry.id,
      made_unsubscribe registry isOpen entry.id⟩
  | reject receipt =>
    have listAfter := list_reject registry receipt
    cases found : registry.unconfirmed? receipt with
    | none =>
      rw [removed?, reject_of_none found] at removed
      cases removed
    | some held =>
      rw [removed?, reject_of_some found] at removed
      obtain rfl := Option.some.inj removed
      rw [found] at listAfter
      exact ⟨(sound.unconfirmed found).1, listAfter, made_reject registry receipt⟩
  | subscribe isOpen destination callback => cases removed
  | send isOpen frame => cases removed
  | confirm receipt => cases removed
  | attach room writer => cases removed
  | detach => cases removed

/-- Only a call that stays in the session takes a subscription out. -/
theorem staysInSession_of_removed {call : Call κ} (removed : registry.removed? call = some entry) :
    call.staysInSession = true := by
  cases call with
  | attach room writer => cases removed
  | detach => cases removed
  | _ => rfl

theorem retired_subscribe {after : Registry κ} {isOpen : Bool} {destination : String} {callback : κ}
    {id : Nat} {frames : List Frame}
    (made : registry.subscribe isOpen destination callback = .ok (id, after, frames)) :
    after.retired = registry.retired := by
  obtain ⟨-, -, ⟨-, rfl, -⟩ | ⟨-, rfl, -⟩⟩ := subscribe_cases made
  · rfl
  · rw [retired_flush]

/-- **What one call does to the retired names**: the name of what it takes out is retired, and a
session that begins or ends retires none. -/
theorem IsConsistent.retired_act (consistent : registry.IsConsistent) (call : Call κ) :
    (registry.act call).retired =
      if call.staysInSession then
        ((registry.removed? call).bind Subscription.wireName).toList ++ registry.retired
      else [] := by
  cases call with
  | subscribe isOpen destination callback =>
    unfold Registry.act
    dsimp only
    split
    · rfl
    · exact retired_subscribe ‹_›
  | unsubscribe isOpen id =>
    rw [Registry.act, removed?]
    cases found : registry.find? id with
    | none =>
      rw [unsubscribe_of_absent found]
      rfl
    | some entry =>
      cases named : entry.wireName with
      | none =>
        rw [unsubscribe_of_unnamed found named, if_pos rfl, Option.bind_some, named]
        rfl
      | some wireName =>
        obtain ⟨done, after⟩ := unsubscribe_of_named found named isOpen
        rw [done, after, if_pos rfl, Option.bind_some, named]
        rfl
  | send isOpen frame => rfl
  | confirm receipt =>
    rw [Registry.act, Registry.confirm]
    cases registry.unconfirmed? receipt <;> rfl
  | reject receipt =>
    rw [Registry.act, removed?]
    cases found : registry.unconfirmed? receipt with
    | none =>
      rw [reject_of_none found]
      rfl
    | some entry =>
      rw [reject_of_some found, Option.bind_some, (consistent.unconfirmed found).2]
      rfl
  | attach room writer => exact retired_attachWithin room writer registry
  | detach => rfl

/-- One more call takes a name away, or keeps those that were taken away before, or begins or ends a
session. -/
theorem isGone_concat {seed : Nat} {calls : List (Call κ)} {call : Call κ} {wireName : String} :
    IsGone seed (calls ++ [call]) wireName ↔
      call.staysInSession = true ∧
        ((∃ entry, ((empty seed).run calls).removed? call = some entry ∧
            entry.wireName = some wireName) ∨
          IsGone seed calls wireName) := by
  constructor
  · rintro ⟨earlier, removal, later, entry, split, stay, removed, named⟩
    rcases List.eq_nil_or_concat later with rfl | ⟨between, last, rfl⟩
    · obtain ⟨rfl, same⟩ := List.append_inj' split rfl
      obtain rfl := List.head_eq_of_cons_eq same
      exact ⟨staysInSession_of_removed removed, .inl ⟨entry, removed, named⟩⟩
    · rw [List.concat_eq_append] at split stay
      rw [← List.cons_append, ← List.append_assoc] at split
      obtain ⟨rfl, same⟩ := List.append_inj' split rfl
      obtain rfl := List.head_eq_of_cons_eq same
      rw [List.forall_mem_append, List.forall_mem_singleton] at stay
      exact ⟨stay.2, .inr ⟨earlier, removal, between, entry, rfl, stay.1, removed, named⟩⟩
  · rintro ⟨stays, ⟨entry, removed, named⟩ | ⟨earlier, removal, later, entry, rfl, stay, rest⟩⟩
    · exact ⟨calls, call, [], entry, rfl, nofun, removed, named⟩
    · refine ⟨earlier, removal, later ++ [call], entry, ?_, ?_, rest⟩
      · rw [List.append_assoc, List.cons_append]
      · rw [List.forall_mem_append, List.forall_mem_singleton]
        exact ⟨stay, stays⟩

/-- **What is retired after a run is what was taken away** since its last session began. -/
theorem mem_retired_run_iff (seed : Nat) {calls : List (Call κ)}
    (inTurn : Call.inTurn false calls = true) (wireName : String) :
    wireName ∈ ((empty seed).run calls).retired ↔ IsGone seed calls wireName := by
  induction calls using List.reverseRecOn with
  | nil =>
    refine iff_of_false List.not_mem_nil ?_
    rintro ⟨earlier, call, later, entry, split, -⟩
    exact List.append_ne_nil_of_right_ne_nil earlier (List.cons_ne_nil call later) split.symm
  | append_singleton calls call ih =>
    have inTurnBefore := Call.inTurn_append inTurn
    have consistent : ((empty seed).run calls).IsConsistent :=
      (isConsistent_empty seed).run inTurnBefore
    have one : (empty seed).run (calls ++ [call]) = ((empty seed).run calls).act call :=
      run_append _ _ _
    rw [one, consistent.retired_act, isGone_concat, ← ih inTurnBefore]
    split
    · rename_i stays
      rw [List.mem_append, Option.mem_toList, Option.bind_eq_some_iff]
      exact (and_iff_right stays).symm
    · rename_i leaves
      exact iff_of_false List.not_mem_nil fun gone => leaves gone.1

/-! ### What was taken out stays out -/

/-- A number that was given before a run, and belongs to no subscription then, is not reached after
it. -/
theorem ne_of_mem_route_run {id : Nat} (given : id < registry.made)
    (absent : ∀ pair ∈ registry.list, pair.1 ≠ id) (calls : List (Call κ)) {header : Option String}
    {destination : String} :
    ∀ routed ∈ (registry.run calls).route header destination, routed.id ≠ id := by
  intro routed reached
  have member := (route_sublist _ header destination).subset reached
  have shown : (routed.id, routed.destination) ∈ (registry.run calls).list :=
    List.mem_map_of_mem member
  rcases List.mem_append.mp ((list_run_sublist registry calls).subset shown) with old | new
  · exact absent _ old
  · have bound : registry.made ≤ routed.id := Call.le_of_mem_subscribed new
    omega

/-- **A subscription that was taken out is never reached again**, whatever is called after that. -/
theorem IsSound.ne_of_removed (sound : registry.IsSound) {call : Call κ}
    (removed : registry.removed? call = some entry) (later : List (Call κ)) {header : Option String}
    {destination : String} :
    ∀ routed ∈ (registry.run (call :: later)).route header destination, routed.id ≠ entry.id := by
  obtain ⟨member, listAfter, madeAfter⟩ := sound.list_act_of_removed removed
  have given : entry.id < (registry.act call).made := madeAfter ▸ sound.made entry member
  have absent : ∀ pair ∈ (registry.act call).list, pair.1 ≠ entry.id := by
    intro pair left
    rw [listAfter, List.mem_filter] at left
    exact of_decide_eq_true left.2
  exact ne_of_mem_route_run given absent later

/-- A removal that reports one takes out the subscription with the number. -/
theorem exists_removed_of_unsubscribe {isOpen : Bool} {id : Nat}
    (done : (registry.unsubscribe isOpen id).1 = true) :
    ∃ entry, registry.removed? (.unsubscribe isOpen id) = some entry ∧ entry.id = id := by
  cases found : registry.find? id with
  | none =>
    rw [unsubscribe_of_absent found] at done
    cases done
  | some entry => exact ⟨entry, by rw [removed?, if_pos done, found], (mem_of_find? found).2⟩

end

/-- **Routing is exact.** Whatever was called in whatever order from an empty registry, as long as
sessions follow one another: a name that a subscription has reaches exactly that subscription, at
any destination; a name that was taken away in the session reaches nobody, and a message with it
becomes no event; with any other name, or with none, everyone at the destination is reached. No
subscription is reached twice, and they are reached in the order in which they were made. And one
that is given up, or refused by the server, is never reached again. -/
theorem routing_is_exact (seed : Nat) {calls : List (Call κ)}
    (inTurn : Call.inTurn false calls = true) :
    let registry := (empty seed : Registry κ).run calls
    (∀ entry ∈ registry.entries, ∀ wireName, entry.wireName = some wireName →
      ∀ destination, registry.route (some wireName) destination = [entry]) ∧
    (∀ wireName, IsGone seed calls wireName →
      (∀ destination, registry.route (some wireName) destination = []) ∧
      ∀ frame : Frame, frame.header? Wire.Header.subscription = some wireName →
        ∀ sequences delivery,
          Delivery.dispatch registry sequences frame ≠ .ok (some delivery)) ∧
    (∀ header : Option String,
      (∀ wireName, header = some wireName →
        (∀ entry ∈ registry.entries, entry.wireName ≠ some wireName) ∧
          ¬IsGone seed calls wireName) →
      ∀ destination, registry.route header destination =
        registry.entries.filter fun entry => entry.destination = destination) ∧
    (∀ header destination,
      ((registry.route header destination).map Subscription.id).Pairwise (· < ·)) ∧
    (∀ isOpen id, (registry.unsubscribe isOpen id).1 = true →
      ∀ later header destination,
        ∀ routed ∈ (registry.run (.unsubscribe isOpen id :: later)).route header destination,
          routed.id ≠ id) ∧
    (∀ receipt entry, (registry.reject receipt).1 = some entry →
      ∀ later header destination,
        ∀ routed ∈ (registry.run (.reject receipt :: later)).route header destination,
          routed.id ≠ entry.id) := by
  intro registry
  have consistent : registry.IsConsistent := (isConsistent_empty seed).run inTurn
  have sound := consistent.toIsSound
  have goneIff := mem_retired_run_iff seed inTurn
  refine ⟨fun entry member wireName named => consistent.route_of_live member named,
    fun wireName gone => ?_, fun header unknown => ?_, fun header destination => ?_,
    fun isOpen id done later header destination => ?_,
    fun receipt entry rejected later header destination => ?_⟩
  · have nobody := consistent.route_of_retired ((goneIff wireName).mpr gone)
    refine ⟨nobody, fun frame carried => ?_⟩
    apply dispatch_ne_of_nobody
    rwa [carried]
  · apply consistent.route_of_unknown
    · exact fun wireName carried => (unknown wireName carried).1
    · exact fun wireName carried retired =>
        (unknown wireName carried).2 ((goneIff wireName).mp retired)
  · exact sound.ordered.sublist ((route_sublist registry header destination).map _)
  · obtain ⟨entry, removed, rfl⟩ := exists_removed_of_unsubscribe done
    exact sound.ne_of_removed removed later
  · have removed : registry.removed? (.reject receipt) = some entry := rejected
    exact sound.ne_of_removed removed later

/-- Of two subscriptions at one destination, the first is given up. Late messages under its name
reach nobody, those under the other name, or under none, reach the other one, and none ever reaches
the first again. -/
theorem routing_is_exact_after_unsubscribing :
    let first := identifier 7 .subscription 0
    let second := identifier 7 .subscription 1
    let before : List (Call Unit) :=
      [.subscribe true "/a" (), .subscribe true "/a" (), .attach 2 0]
    let other : Subscription Unit := ⟨1, "/a", (), some second, false⟩
    let registry := (empty 7).run (before ++ [.unsubscribe true 0])
    Call.inTurn false (before ++ [.unsubscribe true 0]) = true ∧
      registry.route (some first) "/a" = [] ∧
      registry.route (some second) "/b" = [other] ∧
      registry.route none "/a" = [other] ∧
      ∀ later header destination,
        ∀ routed ∈ (((empty 7).run before).run (.unsubscribe true 0 :: later)).route header
          destination, routed.id ≠ 0 := by
  intro first second before other registry
  have inTurn : Call.inTurn false (before ++ [.unsubscribe true 0]) = true := rfl
  have inTurnBefore : Call.inTurn false before = true := rfl
  obtain ⟨live, gone, unknown, -⟩ := routing_is_exact 7 inTurn
  obtain ⟨-, -, -, -, never, -⟩ := routing_is_exact 7 inTurnBefore
  have entries : registry.entries = [other] := by decide +kernel
  have member : other ∈ registry.entries := by rw [entries]; exact List.mem_singleton_self other
  have taken : IsGone 7 (before ++ [.unsubscribe true 0]) first :=
    ⟨before, .unsubscribe true 0, [], ⟨0, "/a", (), some first, false⟩, rfl, nofun,
      by decide +kernel, rfl⟩
  refine ⟨inTurn, (gone first taken).1 "/a", live other member second rfl "/b", ?_,
    never true 0 (by decide +kernel)⟩
  exact (unknown none nofun "/a").trans (by decide +kernel)

end EventFeed.Registry
