/-
**Who writes to which channel.**

A channel is written to by one session at a time: at first the session's keeper writes the greeting
itself, and once the session is connected its writer writes the frames that are queued.
`Berth.Fits` says what a keeper has, by how far it is, and `Harbor.IsOrderly` how all keepers,
channels and writers go together.

* `IsOrderly.station`, `IsOrderly.open`, `IsOrderly.greet`, `IsOrderly.connect`: what keepers do
  keeps this order;
* `IsOrderly.write`: so does what writers do.
-/

import EventFeed.Proofs.Monitor.Errands

namespace EventFeed

open EventFeed.Time
open EventFeed.Wire (Frame)

/-! ### How far a session is with its channel -/

/-- How far a session is with its channel: there is none, or none any more; it is there; the
greeting was written to it; the session is connected; it takes leave. -/
inductive Standing where
  | idle
  | opened
  | greeted
  | connected
  | leaving
  deriving DecidableEq

namespace Keeper

def standing (keeper : Keeper) : Standing :=
  match keeper.phase with
  | .starting | .opening _ | .pausing _ | .finished _ => .idle
  | .greeting => .opened
  | .awaiting _ _ | .hangingUp => .greeted
  | .reading _ => .connected
  | .parting _ _ _ | .draining _ => .leaving

/-- The greeting that the keeper writes. -/
def hello (keeper : Keeper) (settings : Settings) : Frame :=
  greeting keeper.endpoint keeper.credentials settings.pulse.offer

end Keeper

namespace Harbor

/-- The channels that the writers write to. -/
def routes (harbor : Harbor) : List Nat :=
  harbor.loads.map Load.channel

/-- What was written to a channel, in order. -/
def writtenTo (harbor : Harbor) (channel : Nat) : List (List UInt8) :=
  (harbor.written.filter fun act => act.1 = channel).map Prod.snd

/-- The harbor with another berth in the place of one. -/
def station (harbor : Harbor) (index : Nat) (berth : Berth) : Harbor :=
  { harbor with berths := harbor.berths.modify index fun _ => berth }

/-- The harbor with another load in the place of one. -/
def reload (harbor : Harbor) (desk : Nat) (load : Load) : Harbor :=
  { harbor with loads := harbor.loads.modify desk fun _ => load }

/-- The harbor with one more berth. -/
def extend (harbor : Harbor) (berth : Berth) : Harbor :=
  { harbor with berths := harbor.berths ++ [berth] }

/-- The harbor with one more channel. -/
def widen (harbor : Harbor) : Harbor :=
  { harbor with channels := harbor.channels + 1 }

/-- The harbor after something was written to a channel. -/
def wrote (harbor : Harbor) (channel : Nat) (chunk : List UInt8) : Harbor :=
  { harbor with written := harbor.written ++ [(channel, chunk)] }

/-- The harbor with one more writer, for a channel, for which requests wait, when the subscriptions
are asked for through it. -/
def man (harbor : Harbor) (channel : Nat) (requests : List Frame)
    (registry : Registry Consumer) : Harbor :=
  { harbor with loads := harbor.loads ++ [⟨channel, none, requests⟩], registry }

/-- Whether no connected session has the writer. -/
def IsLeft (harbor : Harbor) (desk : Nat) : Prop :=
  ∀ berth ∈ harbor.berths, berth.writer = some desk → berth.keeper.standing ≠ .connected

end Harbor

/-- What a berth has, by how far its keeper is. -/
inductive Berth.Fits (harbor : Harbor) (berth : Berth) : Prop where
  | idle (standing : berth.keeper.standing = .idle) (free : berth.channel = none)
      (unmanned : berth.writer = none)
  | opened {channel : Nat} (standing : berth.keeper.standing = .opened)
      (moored : berth.channel = some channel) (unmanned : berth.writer = none)
      (known : channel < harbor.channels) (bare : channel ∉ harbor.routes)
      (unwritten : harbor.writtenTo channel = [])
  | greeted {channel : Nat} (standing : berth.keeper.standing = .greeted)
      (moored : berth.channel = some channel) (unmanned : berth.writer = none)
      (known : channel < harbor.channels) (bare : channel ∉ harbor.routes)
      (written : harbor.writtenTo channel = [(berth.keeper.hello harbor.settings).encode])
  | joined {channel desk : Nat}
      (standing : berth.keeper.standing = .connected ∨ berth.keeper.standing = .leaving)
      (moored : berth.channel = some channel) (manned : berth.writer = some desk)
      (route : harbor.routes[desk]? = some channel)

namespace Harbor

/-- How the berths, the channels and the writers of a harbor go together. -/
structure IsOrderly (harbor : Harbor) : Prop where
  berths : ∀ berth ∈ harbor.berths, berth.Fits harbor
  apart : ∀ (index other : Nat) (berth : Berth) (neighbour : Berth) (channel : Nat),
    harbor.berths[index]? = some berth → harbor.berths[other]? = some neighbour →
    berth.channel = some channel → neighbour.channel = some channel → index = other
  known : ∀ channel ∈ harbor.routes, channel < harbor.channels
  alone : harbor.routes.Nodup
  bare : ∀ channel, channel ∉ harbor.routes → harbor.writtenTo channel = [] ∨
    ∃ endpoint credentials, harbor.writtenTo channel =
      [(greeting endpoint credentials harbor.settings.pulse.offer).encode]
  unopened : ∀ channel, harbor.channels ≤ channel → harbor.writtenTo channel = []
  attended : ∀ desk, harbor.registry.writer = some desk → ¬harbor.IsLeft desk
  numbered : harbor.registry.IsNumbered

/-! ### Small facts -/

section Facts

variable {harbor : Harbor} {berth : Berth}

/-- A place in a list in which one is another now has that one, or what it had. -/
theorem getElem?_modify {α : Type} {list : List α} {index place : Nat} {given found : α}
    (present : (list.modify index fun _ => given)[place]? = some found) :
    place = index ∧ found = given ∨ place ≠ index ∧ list[place]? = some found := by
  by_cases here : index = place
  · rw [← here, List.getElem?_modify_eq] at present
    obtain ⟨old, -, same⟩ := Option.map_eq_some_iff.mp present
    exact .inl ⟨here.symm, same.symm⟩
  · rw [List.getElem?_modify_ne _ _ here] at present
    exact .inr ⟨fun same => here same.symm, present⟩

theorem mem_modify_self {α : Type} {list : List α} {index : Nat} {given old : α}
    (present : list[index]? = some old) : given ∈ list.modify index fun _ => given := by
  refine List.mem_of_getElem? (i := index) ?_
  rw [List.getElem?_modify_eq, present]
  rfl

/-- The channel of a berth is one that there is. -/
theorem IsOrderly.known_of_moored (orderly : harbor.IsOrderly) (member : berth ∈ harbor.berths)
    {channel : Nat} (moored : berth.channel = some channel) : channel < harbor.channels := by
  cases orderly.berths berth member with
  | idle _ free => cases free.symm.trans moored
  | opened _ same _ known => exact Option.some.inj (same.symm.trans moored) ▸ known
  | greeted _ same _ known => exact Option.some.inj (same.symm.trans moored) ▸ known
  | joined _ same _ route =>
    exact Option.some.inj (same.symm.trans moored) ▸
      orderly.known _ (List.mem_of_getElem? route)

/-- Something that is written to a channel comes behind what was written to it. -/
theorem writtenTo_wrote (harbor : Harbor) (channel : Nat) (chunk : List UInt8) :
    (harbor.wrote channel chunk).writtenTo channel = harbor.writtenTo channel ++ [chunk] := by
  simp [writtenTo, wrote, List.filter_append]

theorem writtenTo_wrote_of_ne (harbor : Harbor) {channel other : Nat} (chunk : List UInt8)
    (different : other ≠ channel) :
    (harbor.wrote channel chunk).writtenTo other = harbor.writtenTo other := by
  simp [writtenTo, wrote, List.filter_append, different.symm]

end Facts

end Harbor

/-! ### What a berth has -/

namespace Berth.Fits

variable {harbor : Harbor} {berth : Berth}

/-- What a berth that is idle has. -/
theorem of_idle (fits : berth.Fits harbor) (idle : berth.keeper.standing = .idle) :
    berth.channel = none ∧ berth.writer = none := by
  cases fits with
  | idle _ free unmanned => exact ⟨free, unmanned⟩
  | opened other => cases idle.symm.trans other
  | greeted other => cases idle.symm.trans other
  | joined other => rcases other with other | other <;> cases idle.symm.trans other

/-- What a berth whose channel is there has. -/
theorem of_opened (fits : berth.Fits harbor) (opened : berth.keeper.standing = .opened) :
    ∃ channel, berth.channel = some channel ∧ berth.writer = none ∧ channel < harbor.channels ∧
      channel ∉ harbor.routes ∧ harbor.writtenTo channel = [] := by
  cases fits with
  | opened _ same unmanned known bare unwritten => exact ⟨_, same, unmanned, known, bare, unwritten⟩
  | idle other => cases opened.symm.trans other
  | greeted other => cases opened.symm.trans other
  | joined other => rcases other with other | other <;> cases opened.symm.trans other

/-- What a berth whose greeting was written has. -/
theorem of_greeted (fits : berth.Fits harbor) (greeted : berth.keeper.standing = .greeted) :
    ∃ channel, berth.channel = some channel ∧ berth.writer = none ∧ channel < harbor.channels ∧
      channel ∉ harbor.routes ∧
      harbor.writtenTo channel = [(berth.keeper.hello harbor.settings).encode] := by
  cases fits with
  | greeted _ same unmanned known bare written => exact ⟨_, same, unmanned, known, bare, written⟩
  | idle other => cases greeted.symm.trans other
  | opened other => cases greeted.symm.trans other
  | joined other => rcases other with other | other <;> cases greeted.symm.trans other

/-- What the berth of a connected session has. -/
theorem of_connected (fits : berth.Fits harbor) (connected : berth.keeper.standing = .connected) :
    ∃ channel desk, berth.channel = some channel ∧ berth.writer = some desk ∧
      harbor.routes[desk]? = some channel := by
  cases fits with
  | joined _ moored manned route => exact ⟨_, _, moored, manned, route⟩
  | idle other => cases connected.symm.trans other
  | opened other => cases connected.symm.trans other
  | greeted other => cases connected.symm.trans other

/-- What a berth with a writer has. -/
theorem of_manned (fits : berth.Fits harbor) {desk : Nat} (manned : berth.writer = some desk) :
    ∃ channel, berth.channel = some channel ∧ harbor.routes[desk]? = some channel := by
  cases fits with
  | joined _ moored here route =>
    cases here.symm.trans manned
    exact ⟨_, moored, route⟩
  | idle _ _ unmanned | opened _ _ unmanned | greeted _ _ unmanned =>
    cases unmanned.symm.trans manned

/-- A berth whose keeper stands as before fits as before. -/
theorem of_standing (fits : berth.Fits harbor) {keeper : Keeper}
    (standing : keeper.standing = berth.keeper.standing)
    (hello : keeper.hello harbor.settings = berth.keeper.hello harbor.settings) :
    Berth.Fits harbor { berth with keeper } := by
  cases fits with
  | idle here free unmanned => exact .idle (standing.trans here) free unmanned
  | opened here moored unmanned known bare unwritten =>
    exact .opened (standing.trans here) moored unmanned known bare unwritten
  | greeted here moored unmanned known bare written =>
    exact .greeted (standing.trans here) moored unmanned known bare (hello ▸ written)
  | joined here moored manned route => exact .joined (standing ▸ here) moored manned route

/-- A berth fits when its connected session goes on or takes leave. -/
theorem of_joined (fits : berth.Fits harbor) (connected : berth.keeper.standing = .connected)
    {keeper : Keeper} (standing : keeper.standing = .connected ∨ keeper.standing = .leaving) :
    Berth.Fits harbor { berth with keeper } := by
  obtain ⟨channel, desk, moored, manned, route⟩ := fits.of_connected connected
  exact .joined standing moored manned route

end Berth.Fits

/-! ### What keeps a harbor in order -/

section Kept

variable {before after : Harbor} {berth : Berth}

/-- A berth fits as long as its channel is left to it. -/
theorem Berth.Fits.keep (fits : berth.Fits before) (settings : after.settings = before.settings)
    (channels : before.channels ≤ after.channels) (routes : before.routes <+: after.routes)
    (elsewhere : ∀ channel, berth.channel = some channel → channel ∉ before.routes →
      channel ∉ after.routes ∧ after.writtenTo channel = before.writtenTo channel) :
    berth.Fits after := by
  cases fits with
  | idle standing free unmanned => exact .idle standing free unmanned
  | opened standing moored unmanned known bare unwritten =>
    obtain ⟨bareStill, same⟩ := elsewhere _ moored bare
    exact .opened standing moored unmanned (Nat.lt_of_lt_of_le known channels) bareStill
      (same.trans unwritten)
  | greeted standing moored unmanned known bare written =>
    obtain ⟨bareStill, same⟩ := elsewhere _ moored bare
    exact .greeted standing moored unmanned (Nat.lt_of_lt_of_le known channels) bareStill
      (by rw [same, settings, written])
  | joined standing moored manned route =>
    refine .joined standing moored manned ?_
    obtain ⟨later, same⟩ := routes
    rw [← same, List.getElem?_append_left (List.getElem?_eq_some_iff.mp route).1, route]

namespace Harbor

/-- A harbor in which only what waits for the writers and the subscriptions have changed. -/
theorem IsOrderly.grow (orderly : before.IsOrderly) (settings : after.settings = before.settings)
    (berths : after.berths = before.berths) (channels : after.channels = before.channels)
    (routes : after.routes = before.routes) (written : after.written = before.written)
    (attached : after.registry.writer = before.registry.writer ∨ after.registry.writer = none)
    (numbered : after.registry.IsNumbered) : after.IsOrderly := by
  have writtenTo : ∀ channel, after.writtenTo channel = before.writtenTo channel := by
    intro channel
    rw [Harbor.writtenTo, written, Harbor.writtenTo]
  refine ⟨fun berth member => ?_, ?_, ?_, routes ▸ orderly.alone, fun channel bare => ?_,
    fun channel unopened => ?_, fun desk held => ?_, numbered⟩
  · refine (orderly.berths berth (berths ▸ member)).keep settings (Nat.le_of_eq channels.symm)
      (routes ▸ List.prefix_refl _) fun channel _ bare => ⟨?_, writtenTo channel⟩
    rwa [routes]
  · rw [berths]
    exact orderly.apart
  · rw [routes, channels]
    exact orderly.known
  · rw [writtenTo, settings]
    exact orderly.bare channel (routes ▸ bare)
  · rw [writtenTo]
    exact orderly.unopened channel (channels ▸ unopened)
  · rcases attached with same | free
    · rw [IsLeft, berths]
      exact orderly.attended desk (same ▸ held)
    · rw [free] at held
      cases held

section Change

variable {index channel : Nat} {next : Berth} {keeper : Keeper}

/-- All berths fit when one is another now and the channels of the others are left to them. -/
theorem IsOrderly.fits_change (orderly : before.IsOrderly)
    (berths : after.berths = before.berths.modify index fun _ => next)
    (settings : after.settings = before.settings) (channels : before.channels ≤ after.channels)
    (routes : before.routes <+: after.routes)
    (elsewhere : ∀ (place : Nat) (other : Berth) (channel : Nat), place ≠ index →
      before.berths[place]? = some other → other.channel = some channel →
      channel ∉ before.routes →
      channel ∉ after.routes ∧ after.writtenTo channel = before.writtenTo channel)
    (fits : next.Fits after) : ∀ other ∈ after.berths, other.Fits after := by
  intro other member
  obtain ⟨place, found⟩ := List.mem_iff_getElem?.mp member
  rw [berths] at found
  rcases getElem?_modify found with ⟨-, rfl⟩ | ⟨different, old⟩
  · exact fits
  · exact (orderly.berths other (List.mem_of_getElem? old)).keep settings channels routes
      fun channel moored bare => elsewhere place other channel different old moored bare

/-- The berths stay apart when one has the channel now that it had, or one that none had. -/
theorem IsOrderly.apart_change (orderly : before.IsOrderly)
    (present : before.berths[index]? = some berth)
    (own : ∀ channel, next.channel = some channel → berth.channel = some channel ∨
      ∀ other ∈ before.berths, other.channel ≠ some channel) :
    ∀ (place other : Nat) (first second : Berth) (channel : Nat),
      (before.berths.modify index fun _ => next)[place]? = some first →
      (before.berths.modify index fun _ => next)[other]? = some second →
      first.channel = some channel → second.channel = some channel → place = other := by
  -- nobody else has the channel of the berth that is another now
  have alone : ∀ (place : Nat) (other : Berth) (channel : Nat),
      before.berths[place]? = some other → next.channel = some channel →
      other.channel = some channel → place = index := by
    intro place other channel found moored moored'
    rcases own channel moored with same | nobody
    · exact orderly.apart _ _ _ _ _ found present moored' same
    · exact absurd moored' (nobody other (List.mem_of_getElem? found))
  intro place other first second channel found found' moored moored'
  rcases getElem?_modify found with ⟨rfl, rfl⟩ | ⟨different, old⟩
  · rcases getElem?_modify found' with ⟨rfl, rfl⟩ | ⟨different, old⟩
    · rfl
    · exact (alone other second channel old moored moored').symm
  · rcases getElem?_modify found' with ⟨rfl, rfl⟩ | ⟨_, old'⟩
    · exact alone place first channel old moored' moored
    · exact orderly.apart _ _ _ _ _ old old' moored moored'

/-- A connected session that has a writer still has it when another berth is another now, or when it
goes on. -/
theorem isLeft_change {desk : Nat} (present : before.berths[index]? = some berth)
    (berths : after.berths = before.berths.modify index fun _ => next)
    (goesOn : berth.keeper.standing = .connected → berth.writer = some desk →
      next.keeper.standing = .connected ∧ next.writer = some desk)
    (isLeft : after.IsLeft desk) : before.IsLeft desk := by
  intro other member manned connected
  obtain ⟨place, found⟩ := List.mem_iff_getElem?.mp member
  by_cases same : place = index
  · subst same
    cases present.symm.trans found
    obtain ⟨still, writer⟩ := goesOn connected manned
    refine isLeft next ?_ writer still
    rw [berths]
    exact mem_modify_self present
  · refine isLeft other ?_ manned connected
    rw [berths]
    refine List.mem_of_getElem? (i := place) ?_
    rw [List.getElem?_modify_ne _ _ fun here => same here.symm, found]

/-- A keeper goes on in its berth, or leaves it. -/
theorem IsOrderly.station (orderly : before.IsOrderly)
    (present : before.berths[index]? = some berth) (fits : next.Fits before)
    (kept : next.channel = berth.channel ∨ next.channel = none)
    (left : berth.keeper.standing = .connected →
      next.keeper.standing = .connected ∧ next.writer = berth.writer ∨
        before.registry.writer = none) : (before.station index next).IsOrderly where
  berths := orderly.fits_change rfl rfl (Nat.le_refl _) (List.prefix_refl _)
    (fun _ _ _ _ _ _ bare => ⟨bare, rfl⟩)
    (fits.keep rfl (Nat.le_refl _) (List.prefix_refl _) fun _ _ bare => ⟨bare, rfl⟩)
  apart := orderly.apart_change present fun channel moored => by
    rcases kept with same | free
    · exact .inl (same ▸ moored)
    · cases free.symm.trans moored
  known := orderly.known
  alone := orderly.alone
  bare := orderly.bare
  unopened := orderly.unopened
  numbered := orderly.numbered
  attended := fun desk held isLeft => by
    refine orderly.attended desk held
      (isLeft_change present rfl (fun connected manned => ?_) isLeft)
    rcases left connected with ⟨still, writer⟩ | free
    · exact ⟨still, writer.trans manned⟩
    · cases free.symm.trans held

/-- A channel is there for a keeper. -/
theorem IsOrderly.open (orderly : before.IsOrderly)
    (present : before.berths[index]? = some berth) (idle : berth.keeper.standing = .idle)
    (opened : keeper.standing = .opened) :
    (before.station index ⟨keeper, some before.channels, berth.writer⟩).widen.IsOrderly := by
  have unmanned := ((orderly.berths _ (List.mem_of_getElem? present)).of_idle idle).2
  have unknown : before.channels ∉ before.routes := fun route =>
    Nat.lt_irrefl _ (orderly.known _ route)
  refine ⟨?_, ?_, fun channel route => ?_, orderly.alone, orderly.bare,
    fun channel unopened => ?_, fun desk held left => ?_, orderly.numbered⟩
  · refine orderly.fits_change rfl rfl (Nat.le_succ _) (List.prefix_refl _)
      (fun _ _ _ _ _ _ bare => ⟨bare, rfl⟩) ?_
    exact .opened opened rfl unmanned (Nat.lt_succ_self _) unknown
      (orderly.unopened _ (Nat.le_refl _))
  · refine orderly.apart_change present fun channel moored => .inr fun other member same => ?_
    cases moored
    exact Nat.lt_irrefl _ (orderly.known_of_moored member same)
  · exact Nat.lt_succ_of_lt (orderly.known channel route)
  · exact orderly.unopened channel (Nat.le_of_succ_le unopened)
  · refine orderly.attended desk held (isLeft_change present rfl (fun connected => ?_) left)
    cases idle.symm.trans connected

/-- A keeper writes its greeting. -/
theorem IsOrderly.greet (orderly : before.IsOrderly)
    (present : before.berths[index]? = some berth) (opened : berth.keeper.standing = .opened)
    (greeted : keeper.standing = .greeted) (here : berth.channel = some channel) :
    ((before.station index { berth with keeper }).wrote channel
      (keeper.hello before.settings).encode).IsOrderly := by
  obtain ⟨own, same, unmanned, known, bare, unwritten⟩ :=
    (orderly.berths _ (List.mem_of_getElem? present)).of_opened opened
  obtain rfl : channel = own := Option.some.inj (here.symm.trans same)
  let stationed := before.station index { berth with keeper }
  have elsewhere : ∀ other, other ≠ channel →
      (stationed.wrote channel (keeper.hello before.settings).encode).writtenTo other =
        before.writtenTo other :=
    fun other different => writtenTo_wrote_of_ne stationed _ different
  have written : (stationed.wrote channel (keeper.hello before.settings).encode).writtenTo channel =
      [(keeper.hello before.settings).encode] := by
    rw [writtenTo_wrote, show stationed.writtenTo channel = [] from unwritten, List.nil_append]
  refine ⟨?_, ?_, orderly.known, orderly.alone, fun other bare => ?_, fun other unopened => ?_,
    fun desk held left => ?_, orderly.numbered⟩
  · refine orderly.fits_change rfl rfl (Nat.le_refl _) (List.prefix_refl _)
      (fun place other berthed different found same bare =>
        ⟨bare, elsewhere berthed fun sameChannel => ?_⟩) ?_
    · exact different (orderly.apart _ _ _ _ _ found present same (sameChannel ▸ here))
    · exact .greeted greeted here unmanned known bare written
  · exact orderly.apart_change present fun _ same => .inl same
  · by_cases same : other = channel
    · subst same
      exact .inr ⟨keeper.endpoint, keeper.credentials, written⟩
    · rw [elsewhere other same]
      exact orderly.bare other bare
  · rw [elsewhere other fun same => Nat.not_le_of_lt known (same ▸ unopened)]
    exact orderly.unopened other unopened
  · refine orderly.attended desk held (isLeft_change present rfl (fun connected => ?_) left)
    cases opened.symm.trans connected

/-- A session becomes connected: it gets a writer, for which requests wait. -/
theorem IsOrderly.connect (orderly : before.IsOrderly)
    (present : before.berths[index]? = some berth) (greeted : berth.keeper.standing = .greeted)
    (connected : keeper.standing = .connected) (here : berth.channel = some channel)
    {requests : List Frame} {registry : Registry Consumer}
    (attached : registry.writer = some before.loads.length) (numbered : registry.IsNumbered) :
    ((before.station index ⟨keeper, some channel, some before.loads.length⟩).man channel requests
      registry).IsOrderly := by
  obtain ⟨own, same, -, known, bare, -⟩ :=
    (orderly.berths _ (List.mem_of_getElem? present)).of_greeted greeted
  obtain rfl : channel = own := Option.some.inj (here.symm.trans same)
  let after := (before.station index ⟨keeper, some channel, some before.loads.length⟩).man channel
    requests registry
  have routes : after.routes = before.routes ++ [channel] := by
    simp [after, man, Harbor.routes, Harbor.station]
  have route : after.routes[before.loads.length]? = some channel := by
    have length : before.loads.length = before.routes.length := (List.length_map _).symm
    rw [routes, length, List.getElem?_concat_length]
  refine ⟨?_, ?_, fun other route => ?_, ?_, fun other free => ?_, orderly.unopened,
    fun desk held left => ?_, numbered⟩
  · refine orderly.fits_change rfl rfl (Nat.le_refl _) (routes ▸ List.prefix_append _ _)
      (fun place other berthed different found same bare => ⟨fun route => ?_, rfl⟩) ?_
    · rw [routes, List.mem_append, List.mem_singleton] at route
      have sameChannel := route.resolve_left bare
      exact different (orderly.apart _ _ _ _ _ found present same (sameChannel ▸ here))
    · exact .joined (.inl connected) rfl rfl route
  · exact orderly.apart_change present fun _ same => .inl (here.trans same)
  · rw [routes, List.mem_append, List.mem_singleton] at route
    rcases route with route | rfl
    · exact orderly.known other route
    · exact known
  · rw [routes, List.nodup_append]
    refine ⟨orderly.alone, List.nodup_singleton _, fun other route _ new same => bare ?_⟩
    rw [List.mem_singleton.mp new] at same
    exact same ▸ route
  · rw [routes, List.mem_append, not_or] at free
    exact orderly.bare other free.1
  · have held : some before.loads.length = some desk := attached.symm.trans held
    exact left _ (mem_modify_self present) held connected

/-- A keeper is there that has done nothing yet. -/
theorem IsOrderly.start (orderly : before.IsOrderly) (idle : next.keeper.standing = .idle)
    (free : next.channel = none) (unmanned : next.writer = none) :
    (before.extend next).IsOrderly := by
  have old : ∀ (place channel : Nat) (other : Berth),
      (before.extend next).berths[place]? = some other → other.channel = some channel →
      before.berths[place]? = some other := by
    intro place channel other found moored
    rw [extend, List.getElem?_append] at found
    split at found
    · exact found
    · obtain rfl := List.mem_singleton.mp (List.mem_of_getElem? found)
      cases free.symm.trans moored
  refine ⟨fun other member => ?_, fun place place' other other' channel => ?_, orderly.known,
    orderly.alone, orderly.bare, orderly.unopened, fun desk held left => ?_, orderly.numbered⟩
  · rcases List.mem_append.mp member with old | new
    · exact (orderly.berths other old).keep rfl (Nat.le_refl _) (List.prefix_refl _)
        fun _ _ bare => ⟨bare, rfl⟩
    · rw [List.mem_singleton.mp new]
      exact .idle idle free unmanned
  · intro found found' moored moored'
    exact orderly.apart _ _ _ _ _ (old _ _ _ found moored) (old _ _ _ found' moored') moored moored'
  · exact orderly.attended desk held fun other member =>
      left other (List.mem_append_left _ member)

/-- A writer belongs to one session. -/
theorem IsOrderly.sole (orderly : before.IsOrderly) {place : Nat} {other : Berth}
    (present : before.berths[index]? = some berth) (found : before.berths[place]? = some other)
    {desk : Nat} (manned : berth.writer = some desk) (same : other.writer = some desk) :
    index = place := by
  obtain ⟨channel, moored, route⟩ :=
    (orderly.berths _ (List.mem_of_getElem? present)).of_manned manned
  obtain ⟨channel', moored', route'⟩ :=
    (orderly.berths _ (List.mem_of_getElem? found)).of_manned same
  cases route.symm.trans route'
  exact orderly.apart _ _ _ _ _ present found moored moored'

end Change

/-! ### What writers do -/

section Writers

variable {desk : Nat} {load next : Load}

theorem routes_push (harbor : Harbor) (desk : Nat) (frames : List Frame) :
    (harbor.push desk frames).routes = harbor.routes := by
  refine List.ext_getElem? fun other => ?_
  rw [Harbor.routes, Harbor.routes, List.getElem?_map, List.getElem?_map, loads_push,
    Option.map_map]
  rfl

theorem routes_reload (present : before.loads[desk]? = some load)
    (channel : next.channel = load.channel) : (before.reload desk next).routes = before.routes := by
  refine List.ext_getElem? fun other => ?_
  rw [Harbor.routes, Harbor.routes, List.getElem?_map, List.getElem?_map, reload]
  by_cases here : desk = other
  · rw [← here, List.getElem?_modify_eq, present]
    exact congrArg some channel
  · rw [List.getElem?_modify_ne _ _ here]

/-- A writer has written something. -/
theorem IsOrderly.write (orderly : before.IsOrderly) (present : before.loads[desk]? = some load)
    (channel : next.channel = load.channel) (chunk : List UInt8) :
    ((before.reload desk next).wrote load.channel chunk).IsOrderly := by
  let after := (before.reload desk next).wrote load.channel chunk
  have routes : after.routes = before.routes := routes_reload present channel
  have route : load.channel ∈ before.routes :=
    List.mem_map_of_mem (List.mem_of_getElem? present)
  have elsewhere : ∀ other, other ∉ before.routes →
      after.writtenTo other = before.writtenTo other :=
    fun other bare => writtenTo_wrote_of_ne _ chunk fun same => bare (same ▸ route)
  refine ⟨fun other member => ?_, orderly.apart, routes.symm ▸ orderly.known,
    routes.symm ▸ orderly.alone, fun other free => ?_, fun other unopened => ?_, orderly.attended,
    orderly.numbered⟩
  · exact (orderly.berths other member).keep rfl (Nat.le_refl _) (routes.symm ▸ List.prefix_refl _)
      fun place _ free => ⟨routes.symm ▸ free, elsewhere place free⟩
  · have bare : other ∉ before.routes := routes ▸ free
    rw [elsewhere other bare]
    exact orderly.bare other bare
  · rw [elsewhere other fun route => Nat.not_le_of_lt (orderly.known other route) unopened]
    exact orderly.unopened other unopened

end Writers

end Harbor

end Kept

end EventFeed
