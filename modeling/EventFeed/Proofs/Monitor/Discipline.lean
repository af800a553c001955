/-
**The discipline of what a session writes.**

Whatever the consumer calls, whatever the server does and whenever a session ends: what is written
to a channel begins with the greeting. Nothing else is written before the server's answer is found.
Then come the requests for the subscriptions that there are, the errands in the order in which they
were queued, and at the end at most one farewell. The writer leaves none of these frames out, and
who reads the bytes behind the greeting finds exactly the frames that were written.

* `World.moored_play`: what `Harbor.Moored` says of a harbor holds in every interleaving;
* `World.channel_disciplined`: what is on a channel.
-/

import EventFeed.Proofs.Monitor.ClientFrames
import EventFeed.Proofs.Monitor.Moorings
import EventFeed.Proofs.Monitor.Succession

namespace EventFeed

open EventFeed.Numeral EventFeed.Time
open EventFeed.Wire (Frame Decoder)

/-- No move changes the settings. -/
theorem Harbor.Turn.settings {before after : Harbor} {move : Move}
    (turn : before.Turn move after) : after.settings = before.settings := by
  cases turn with
  | serves served => exact served.settings
  | stays _ _ _ served => exact served.settings
  | leaves _ _ served => exact served.settings
  | _ => rfl

namespace World

/-! ### What is queued in the course of moves -/

/-- The frames that were queued for a writer while moves were made, in order. -/
def queuedAt (desk : Nat) (world : World) : List Move → List Frame
  | [] => []
  | move :: moves =>
    world.harbor.grown (world.act move).harbor desk ++ queuedAt desk (world.act move) moves

theorem queuedAt_concat (desk : Nat) (world : World) (moves : List Move) (move : Move) :
    queuedAt desk world (moves ++ [move]) = queuedAt desk world moves ++
      (world.play moves).harbor.grown (world.play (moves ++ [move])).harbor desk := by
  induction moves generalizing world with
  | nil => exact List.append_nil _
  | cons first moves ih =>
    rw [List.cons_append, queuedAt, ih, queuedAt, List.append_assoc]
    rfl

/-- A session became connected with one of the moves, and got the writer. -/
def Begins (start : World) (moves : List Move) (desk channel : Nat) (hello : Frame)
    (requests : List Frame) : Prop :=
  ∃ before move after, moves = before ++ move :: after ∧
    (start.play before).harbor.Joins move (start.play (before ++ [move])).harbor desk channel hello
      requests

section Runs

variable {start : World} {moves : List Move} {desk channel : Nat} {hello : Frame}
  {requests : List Frame}

theorem Begins.concat (begins : Begins start moves desk channel hello requests) (last : Move) :
    Begins start (moves ++ [last]) desk channel hello requests := by
  obtain ⟨before, move, after, split, joins⟩ := begins
  refine ⟨before, move, after ++ [last], ?_, joins⟩
  rw [split, List.append_assoc, List.cons_append]

/-- A monitor that was just made has nothing to write. -/
theorem moored_fresh (settings : Settings) (fallback : Outcome) (seed : Nat)
    (began : Nat → Nat → Frame → List Frame → Prop) :
    Harbor.Moored began (fun _ => []) (fresh settings fallback seed).harbor := by
  have empty : (fresh settings fallback seed).harbor = ⟨settings, [], 0, [], .empty seed, []⟩ := rfl
  rw [empty]
  refine ⟨⟨fun berth member => ?_, fun index other berth _ _ found => ?_, fun channel member => ?_,
    List.nodup_nil, fun _ _ => .inl rfl, fun _ _ => rfl, fun desk attached => ?_,
    Registry.isNumbered_empty seed⟩, fun _ _ => rfl, fun desk load found => ?_⟩
  · cases member
  · cases found
  · cases member
  · cases attached
  · cases found

/-- **In every interleaving** each keeper is as far with its channel as its phase says, and what was
written, what is being written and what waits make up what was queued. -/
theorem moored_play (settings : Settings) (fallback : Outcome) (seed : Nat) (moves : List Move) :
    Harbor.Moored (Begins (fresh settings fallback seed) moves)
      (fun desk => queuedAt desk (fresh settings fallback seed) moves)
      ((fresh settings fallback seed).play moves).harbor := by
  let start := fresh settings fallback seed
  induction moves using List.reverseRecOn with
  | nil => exact moored_fresh settings fallback seed _
  | append_singleton moves move ih =>
    have turn := harbor_turn ih.orderly move
    rw [← play_concat] at turn
    have still := ih.mono fun desk channel hello requests begins =>
      (Begins.concat begins move : Begins start (moves ++ [move]) desk channel hello requests)
    refine (still.turn turn fun desk channel hello requests joins => ?_).congr fun desk =>
      (queuedAt_concat desk start moves move).symm
    exact ⟨moves, move, [], rfl, joins⟩

/-- The settings stay what they were. -/
theorem settings_play (settings : Settings) (fallback : Outcome) (seed : Nat) (moves : List Move) :
    ((fresh settings fallback seed).play moves).harbor.settings = settings := by
  induction moves using List.reverseRecOn with
  | nil => rfl
  | append_singleton moves move ih =>
    have turn := harbor_turn (moored_play settings fallback seed moves).orderly move
    rw [← play_concat] at turn
    rw [turn.settings, ih]

/-- A session is connected by the answer to the greeting that its keeper wrote. -/
theorem Begins.greeting {settings : Settings} {fallback : Outcome} {seed : Nat}
    (begins : Begins (fresh settings fallback seed) moves desk channel hello requests) :
    ∃ endpoint credentials,
      hello = EventFeed.greeting endpoint credentials settings.pulse.offer := by
  obtain ⟨before, _, _, -, joins⟩ := begins
  obtain ⟨_, _, _, berth, _, _, _, _, -, -, -, greets, -⟩ := joins.answered
  rw [settings_play] at greets
  exact ⟨berth.keeper.endpoint, berth.keeper.credentials, greets⟩

theorem Begins.errands (begins : Begins start moves desk channel hello requests) :
    ∀ frame ∈ requests, IsErrand frame := by
  obtain ⟨_, _, _, -, joins⟩ := begins
  intro frame member
  rw [joins.requests] at member
  obtain ⟨entry, -, rfl⟩ := List.mem_map.mp member
  exact isErrand_request entry

end Runs

/-! ### What is on a channel -/

/-- **What is on a channel** after moves that begin with `start`. -/
inductive Discipline (start : World) (moves : List Move) (channel : Nat) : Prop where
  /-- Nothing, while no session has written the greeting. -/
  | silent (unmanned : channel ∉ (start.play moves).harbor.routes)
      (written : (start.play moves).harbor.writtenTo channel = [])
  /-- The greeting, while no answer to it was found. -/
  | greeted {endpoint : Endpoint} {credentials : Credentials}
      (unmanned : channel ∉ (start.play moves).harbor.routes)
      (written : (start.play moves).harbor.writtenTo channel =
        [(greeting endpoint credentials start.settings.pulse.offer).encode])
  /-- The greeting and, once the session is connected, the first of the frames that were queued for
  its writer: a request for each subscription that there was, then errands, and at the end at most
  one farewell. -/
  | connected {desk : Nat} {endpoint : Endpoint} {credentials : Credentials}
      {requests between ends sent : List Frame}
      (manned : ∀ other, (start.play moves).harbor.routes[other]? = some channel ↔ other = desk)
      (begins : Begins start moves desk channel
        (greeting endpoint credentials start.settings.pulse.offer) requests)
      (queued : queuedAt desk start moves = requests ++ between ++ ends)
      (errands : ∀ frame ∈ between, IsErrand frame)
      (ends : ends = [] ∨ ∃ receipt, ends = [farewell receipt])
      (valid : ∀ frame ∈ queuedAt desk start moves, frame.isValid = true)
      (first : sent <+: queuedAt desk start moves)
      (written : (start.play moves).harbor.writtenTo channel =
        (greeting endpoint credentials start.settings.pulse.offer).encode :: sent.map Frame.encode)
      (recovered : ∀ limit, Decoder.drain
        ⟨((start.play moves).harbor.writtenTo channel).tail.flatten, limit⟩ =
          (sent, none, ⟨[], limit⟩))

section Frames

variable {frames : List Frame}

/-- Frames that may be sent are written as they are. -/
theorem sendable_of_valid (valid : ∀ frame ∈ frames, frame.isValid = true) :
    sendable frames = frames.map Frame.encode := by
  rw [sendable, List.filter_eq_self.mpr valid]

/-- Who reads the bytes of frames finds these frames. -/
theorem drain_written (told : ∀ frame ∈ frames, frame.IsRepresentable) (limit : Nat) :
    Decoder.drain ⟨(frames.map Frame.encode).flatten, limit⟩ = (frames, none, ⟨[], limit⟩) := by
  have read := Decoder.drain_encoded told limit []
  rwa [List.append_nil, List.flatMap_def, Decoder.drain_empty, List.append_nil] at read

/-- What was written is the first of what there is to write. -/
theorem exists_sent {written pending : List (List UInt8)} {chunk : List UInt8}
    (notEmpty : written ≠ []) (balance : written ++ pending = chunk :: frames.map Frame.encode) :
    ∃ sent, sent <+: frames ∧ written = chunk :: sent.map Frame.encode := by
  obtain ⟨first, written, rfl⟩ := List.exists_cons_of_ne_nil notEmpty
  obtain rfl : first = chunk := (List.cons.inj balance).1
  have rest : written ++ pending = frames.map Frame.encode := (List.cons.inj balance).2
  refine ⟨frames.take written.length, List.take_prefix _ _, ?_⟩
  rw [List.map_take, ← rest, List.take_left]

end Frames

/-- **The discipline of what a session writes**, on every channel and in every interleaving. No body
is longer than a machine word can tell. -/
theorem channel_disciplined (settings : Settings) (fallback : Outcome) (seed : Nat)
    (moves : List Move) (channel : Nat)
    (fits : ∀ desk < ((fresh settings fallback seed).play moves).desks.length,
      ∀ frame ∈ queuedAt desk (fresh settings fallback seed) moves,
        frame.body.length < wordBound) :
    Discipline (fresh settings fallback seed) moves channel := by
  let start := fresh settings fallback seed
  have moored := moored_play settings fallback seed moves
  have sameSettings := settings_play settings fallback seed moves
  by_cases manned : channel ∈ (start.play moves).harbor.routes
  · obtain ⟨desk, route⟩ := List.mem_iff_getElem?.mp manned
    have sole : ∀ other,
        (start.play moves).harbor.routes[other]? = some channel ↔ other = desk := by
      refine fun other => ⟨fun same => ?_, fun same => same ▸ route⟩
      have inside := (List.getElem?_eq_some_iff.mp same).1
      exact (List.getElem?_inj inside moored.orderly.alone).mp (same.trans route.symm)
    obtain ⟨load, found, here⟩ := Option.map_eq_some_iff.mp (List.getElem?_map.symm.trans route)
    obtain @⟨hello, requests, between, ends, begins, whole, errands, closing, greeted, balance⟩ :=
      moored.voyages desk load found
    have farewells := closing.imp_right And.left
    obtain ⟨endpoint, credentials, rfl⟩ := begins.greeting
    rw [here] at begins greeted balance
    have known : desk < (start.play moves).desks.length := by
      have inside := (List.getElem?_eq_some_iff.mp found).1
      rwa [harbor, List.length_map] at inside
    have sound : ∀ frame ∈ queuedAt desk start moves,
        frame.isValid = true ∧ frame.IsRepresentable := by
      intro frame member
      have short := fits desk known frame member
      rw [whole, List.mem_append, List.mem_append] at member
      rcases member with (request | errand) | farewell
      · have errand := begins.errands frame request
        exact ⟨isValid_of_errand errand short, isRepresentable_of_errand errand short⟩
      · have errand := errands frame errand
        exact ⟨isValid_of_errand errand short, isRepresentable_of_errand errand short⟩
      · rcases farewells with rfl | ⟨receipt, rfl⟩
        · cases farewell
        · rw [List.mem_singleton.mp farewell]
          exact ⟨isValid_farewell receipt, isRepresentable_farewell receipt⟩
    rw [sendable_of_valid fun frame member => (sound frame member).1] at balance
    obtain ⟨sent, first, written⟩ := exists_sent greeted balance
    refine .connected sole begins whole errands farewells
      (fun frame member => (sound frame member).1) first written fun limit => ?_
    rw [written]
    exact drain_written (fun frame member => (sound frame (first.subset member)).2) limit
  · rcases moored.orderly.bare channel manned with nothing | ⟨endpoint, credentials, written⟩
    · exact .silent manned nothing
    · rw [sameSettings] at written
      exact .greeted manned written

/-- A session that begins with one subscription, during which another one is made, something is sent
and the first subscription is given up; it takes leave, and its channel fails before the writer has
written all. -/
def visit : List Move :=
  .subscribe ⟨"first", .ignore⟩ "/topic/first" :: connecting 0 ++
    [stepOf 0, .writer 0, .writer 0, .subscribe ⟨"second", .ignore⟩ "/topic/second",
      .send "/app" (.ok (.text "hello")), .unsubscribe "first", .stop, .stopping 0, stepOf 0,
      .writer 0, .writer 0, .writer 0, .writer 0, .changeSink 0 (.failing "gone"), .writer 0,
      .writer 0, .writer 0]

/-- All that is queued for it is as it should be, and what is written is the first of it. -/
theorem visit_disciplined :
    (queuedAt 0 quickWorld visit).map Frame.command =
      [.subscribe, .subscribe, .send, .unsubscribe, .disconnect] ∧
    ((quickWorld.play visit).harbor.writtenTo 0).length = 4 ∧
    (∀ desk < (quickWorld.play visit).desks.length, ∀ frame ∈ queuedAt desk quickWorld visit,
      frame.body.length < wordBound) ∧
    Discipline quickWorld visit 0 :=
  ⟨by decide +kernel, by decide +kernel, by decide +kernel,
    channel_disciplined _ _ _ visit 0 (by decide +kernel)⟩

end World

end EventFeed
