/-
**Events across the sessions of a monitor.**

The messages that reach a monitor come in through keepers, one session after the other or several at
once, and the consumer's callbacks may subscribe, unsubscribe and send while an event is given to
them. `World.meetings` tells which messages were handled in an interleaving, and the subscriptions
as each of them met them. The counts of the destinations and the calls of the consumer's callbacks
are what these messages come to, one after the other, and nothing else has a part in them.

* `books_act`: what one move does to the counts and the calls;
* `numbered_act`: every move keeps the order of the subscriptions;
* `events_numbered`: which events there are in an interleaving, with their numbers and targets.
-/

import EventFeed.Proofs.Monitor.Errands
import Mathlib.Data.List.Induction

namespace EventFeed

open EventFeed.Time
open EventFeed.Wire (Frame)

/-! ### Counts and calls -/

/-- The counts of the destinations, and the calls of the consumer's callbacks, in order. -/
structure Books where
  sequences : Sequences
  calls : List (Consumer × Event)

/-- The call of a callback, if this is one. -/
def Occurrence.call? : Occurrence → Option (Consumer × Event)
  | .delivered consumer event => some (consumer, event)
  | _ => none

namespace World

def calls (world : World) : List (Consumer × Event) :=
  world.log.toList.filterMap Occurrence.call?

def books (world : World) : Books where
  sequences := world.sequences
  calls := world.calls

theorem books_note (world : World) (occurrence : Occurrence) : (world.note occurrence).books =
    { world.books with calls := world.calls ++ occurrence.call?.toList } := by
  unfold books calls note
  rw [Array.toList_push, List.filterMap_append]
  cases called : occurrence.call? <;> simp [called]

/-- What is no call leaves the books alone. -/
theorem books_note_of_no_call (world : World) {occurrence : Occurrence}
    (noCall : occurrence.call? = none) : (world.note occurrence).books = world.books := by
  rw [books_note, noCall, Option.toList_none, List.append_nil]
  rfl

theorem books_notify (world : World) (notice : Notice) :
    (world.notify notice).books = world.books := by
  unfold notify
  split
  · exact books_note_of_no_call world rfl
  · rfl

theorem books_publish (world : World) (state : ConnectionState) :
    (world.publish state).books = world.books := by
  unfold publish
  split
  · rfl
  · exact books_notify _ _

theorem books_queue (world : World) (index : Option Nat) (frames : List Frame) :
    (world.queue index frames).books = world.books := by
  unfold queue
  split <;> rfl

theorem books_subscribe (world : World) (consumer : Consumer) (destination : String) :
    (world.subscribe consumer destination).2.books = world.books := by
  unfold subscribe
  split
  · rfl
  · exact books_queue _ _ _

theorem books_unsubscribe (world : World) (name : String) :
    (world.unsubscribe name).2.books = world.books := by
  unfold unsubscribe
  split
  · rfl
  · exact books_queue _ _ _

theorem books_send (world : World) (destination : String) (body : Except String Document.Value) :
    (world.send destination body).2.books = world.books := by
  unfold send
  split
  · rfl
  · split
    · rfl
    · cases body with
      | error cause => rfl
      | ok body =>
        dsimp only
        split
        · exact books_queue _ _ _
        · rfl

/-- The call of a callback, unless it does nothing with events. -/
def callOf (consumer : Consumer) (event : Event) : List (Consumer × Event) :=
  if consumer.reaction = .ignore then [] else [(consumer, event)]

/-- A callback that does something with events is called, whatever it does then. -/
theorem books_react (world : World) (consumer : Consumer) (event : Event) :
    (world.react consumer event).books =
      { world.books with calls := world.calls ++ callOf consumer event } := by
  have noted : consumer.reaction ≠ .ignore → (world.note (.delivered consumer event)).books =
      { world.books with calls := world.calls ++ callOf consumer event } := by
    intro does
    rw [books_note, callOf, if_neg does]
    rfl
  unfold react
  cases reaction : consumer.reaction with
  | ignore =>
    rw [callOf, if_pos reaction, List.append_nil]
    rfl
  | note => exact noted (by simp [reaction])
  | read names => exact noted (by simp [reaction])
  | crash => exact (books_note_of_no_call _ rfl).trans (noted (by simp [reaction]))
  | unsubscribe name =>
    exact ((books_note_of_no_call _ rfl).trans (books_unsubscribe _ name)).trans
      (noted (by simp [reaction]))
  | reply destination =>
    exact ((books_note_of_no_call _ rfl).trans
      (books_send _ destination (.ok (Consumer.answer event)))).trans (noted (by simp [reaction]))
  | subscribe destination =>
    exact ((books_note_of_no_call _ rfl).trans (books_subscribe _ _ destination)).trans
      (noted (by simp [reaction]))

/-- Every target of an event is called in turn, even if another one crashes. -/
theorem books_foldl_react (world : World) (targets : List (Subscription Consumer))
    (event : Event) :
    (targets.foldl (fun world target => world.react target.callback event) world).books =
      { world.books with
        calls := world.calls ++ targets.flatMap fun target => callOf target.callback event } := by
  induction targets generalizing world with
  | nil =>
    rw [List.flatMap_nil, List.append_nil]
    rfl
  | cons target targets ih =>
    have head := books_react world target.callback event
    have calls : (world.react target.callback event).calls =
        world.calls ++ callOf target.callback event := congrArg Books.calls head
    rw [List.foldl_cons, ih, head, calls, List.flatMap_cons, List.append_assoc]

end World

namespace Delivery

/-- The calls that a message comes to: each subscription that it reaches has its callback called
once, in their order, unless the callback does nothing with events. -/
def calls (result : Except PayloadError (Option (Delivery Consumer))) : List (Consumer × Event) :=
  (delivered? result).toList.flatMap fun delivery =>
    delivery.targets.flatMap fun target => World.callOf target.callback delivery.event

end Delivery

namespace World

/-- **A message does to the counts and the calls what comes of it.** -/
theorem books_deliver (world : World) (frame : Frame) :
    (world.deliver frame).books =
      let result := Delivery.dispatch world.registry world.sequences frame
      ⟨Delivery.sequencesAfter world.sequences result, world.calls ++ Delivery.calls result⟩ := by
  unfold deliver
  dsimp only
  split
  · rename_i failed
    rw [failed, books_note_of_no_call _ rfl, Delivery.calls]
    exact congrArg _ (List.append_nil _).symm
  · rename_i nothing
    rw [nothing, Delivery.calls]
    exact congrArg _ (List.append_nil _).symm
  · rename_i delivery delivered
    rw [delivered, books_foldl_react, Delivery.calls]
    simp [Delivery.delivered?, books]
    rfl

theorem books_confirm (world : World) (frame : Frame) :
    (world.confirm frame).books = world.books := by
  unfold confirm
  dsimp only
  split
  · rfl
  · exact books_notify _ _

theorem books_reject (world : World) (frame : Frame) :
    (world.reject frame).books = world.books := by
  unfold reject
  split
  · rfl
  · dsimp only
    split
    · rfl
    · exact books_notify _ _

theorem books_handle (world : World) {frame : Frame} (noMessage : frame.command ≠ .message) :
    (world.handle frame).books = world.books := by
  unfold handle
  split
  · contradiction
  · exact books_confirm world frame
  · exact books_reject world frame
  · rfl

theorem books_dial (world : World) (index : Nat) (url : String) :
    (world.dial index url).books = world.books := by
  unfold dial
  dsimp only
  rw [books_note_of_no_call _ rfl]
  rfl

theorem books_accept (world : World) (index : Nat) (attempt : Option Attempt) :
    (world.accept index attempt).books = world.books := by
  unfold accept
  split <;> rfl

theorem books_appoint (world : World) (index : Nat) (channel : Option Nat) :
    (world.appoint index channel).books = world.books := by
  unfold appoint
  split <;> rfl

theorem books_attach (world : World) (writer : Option Nat) :
    (world.attach writer).books = world.books := by
  unfold attach
  split
  · rfl
  · exact books_queue _ _ _

end World

/-! ### Messages in an interleaving -/

/-- The message that is handled, if one is. -/
def Effect.message? : Effect → Option Frame
  | .handle frame => if frame.command = .message then some frame else none
  | _ => none

namespace World

/-- What handles no message leaves the books alone. -/
theorem books_perform (index : Nat) (world : World) {effect : Effect}
    (noMessage : effect.message? = none) : (perform index world effect).books = world.books := by
  unfold perform
  split
  · rfl
  · cases effect <;> dsimp only <;> first
      | rfl
      | exact books_publish world _
      | exact books_notify world _
      | exact books_dial world index _
      | exact books_accept world index _
      | exact books_note_of_no_call world rfl
      | exact books_appoint world index _
      | exact books_attach world _
      | exact books_queue world _ _
      | (split <;> rfl)
      | exact books_handle world fun isMessage => by simp [Effect.message?, isMessage] at noMessage

theorem books_foldl_perform (index : Nat) (world : World) {effects : List Effect}
    (noMessage : ∀ effect ∈ effects, effect.message? = none) :
    (effects.foldl (perform index) world).books = world.books := by
  induction effects generalizing world with
  | nil => rfl
  | cons effect effects ih =>
    rw [List.foldl_cons, ih _ fun later member => noMessage later (List.mem_cons_of_mem _ member)]
    exact books_perform index world (noMessage effect List.mem_cons_self)

theorem books_settleOwnership (world : World) : world.settleOwnership.books = world.books := by
  unfold settleOwnership
  split
  · rfl
  · split <;> rfl

theorem books_stopReturns (world : World) (index : Nat) (result : Except MonitorError Unit) :
    (world.stopReturns index result).books = world.books := by
  unfold stopReturns
  dsimp only
  rw [books_settleOwnership, books_note_of_no_call _ rfl]
  rfl

theorem books_stopStep {world after : World} {index : Nat}
    (moved : world.stopStep? index = some after) : after.books = world.books := by
  rcases stopStep_cases moved with ⟨keeper, rfl⟩ | ⟨before, result, rfl | rfl, rfl⟩
  · rfl
  · exact books_stopReturns _ index result
  · exact (books_stopReturns _ index result).trans (books_publish world _)

theorem books_writerStep {world after : World} {index : Nat}
    (moved : world.writerStep? index = some after) : after.books = world.books := by
  unfold writerStep? at moved
  simp only [Option.bind_eq_bind, Option.bind_eq_some_iff, Option.some.injEq] at moved
  obtain ⟨desk, -, channel, -, ⟨writer, act⟩, -, rfl⟩ := moved
  dsimp only
  split
  · rfl
  · exact books_note_of_no_call _ rfl
  · exact books_note_of_no_call _ rfl

end World

namespace Keeper

variable {settings : Settings} {view : View} {keeper : Keeper} {step : Step}

/-- A session that fails handles no message in that. -/
theorem message?_of_fail (settings : Settings) (view : View) (keeper : Keeper)
    (error : SessionError) (uptime : Option Nat) :
    ∀ effect ∈ (keeper.fail settings view error uptime).2, effect.message? = none := by
  have told : ∀ effect : Effect, effect.tells = true → effect.message? = none := by
    intro effect tells
    cases effect <;> first | rfl | cases tells
  exact forall_mem_fail (by rfl) (by rfl) told settings view keeper error uptime

/-- A keeper handles one message in a step and does nothing else, or handles none. -/
theorem message_cases (stepped : keeper.step settings view = some step) :
    (∀ effect ∈ step.2, effect.message? = none) ∨
      ∃ frame, frame.command = .message ∧ step.2 = [.handle frame] := by
  have failing : ∀ {earlier : List Effect} {error : SessionError} {uptime : Option Nat},
      (∀ effect ∈ earlier, effect.message? = none) →
      ∀ effect ∈ earlier ++ (keeper.fail settings view error uptime).2, effect.message? = none := by
    intro earlier error uptime silent effect member
    exact (List.mem_append.mp member).elim (silent effect)
      (message?_of_fail settings view keeper error uptime effect)
  cases deed_of_step stepped with
  | fails reason => exact .inl (failing (by cases reason <;> simp [Effect.message?]))
  | @handles _ _ frame =>
    by_cases isMessage : frame.command = .message
    · exact .inr ⟨frame, isMessage, rfl⟩
    · exact .inl (by simp [Effect.message?, isMessage])
  | @loses watch error earlier _ _ reason =>
    have silent : ∀ effect ∈ earlier ++ [Effect.detach, Effect.abort], effect.message? = none := by
      cases reason with
      | fatal _ _ fatal =>
        rw [isFatal, Bool.and_eq_true, decide_eq_true_eq] at fatal
        simp [Effect.message?, fatal.1]
      | _ => simp [Effect.message?]
    have whole := @failing _ error (some (view.now - watch.since)) silent
    rw [List.append_assoc] at whole
    exact .inl whole
  | parts =>
    unfold part
    dsimp only
    split <;> exact .inl (by simp [Effect.message?])
  | lingers _ quiet => exact .inl (by rcases quiet with rfl | rfl <;> simp [Effect.message?])
  | drains _ _ quiet =>
    exact .inl (by rcases quiet with rfl | rfl <;> simp [drain, Effect.message?])
  | concludes _ _ _ quiet =>
    refine .inl ?_
    rcases quiet with rfl | rfl | rfl <;> simp [conclude, finish, Effect.message?]
  | _ => exact .inl (by simp [begin, connect, crash, finish, Effect.message?])

end Keeper

namespace World

/-- The message that is handled in a move, with the subscriptions as it meets them. -/
def meeting? (world : World) : Move → Option (Meeting Consumer)
  | .keeper index stopFirst drawn =>
    (world.keeperMoveBy? index stopFirst drawn).bind fun step =>
      (step.2.findSome? Effect.message?).map fun frame => ⟨world.registry, frame⟩
  | _ => none

theorem meeting?_eq_some {world : World} {move : Move} {meeting : Meeting Consumer}
    (found : world.meeting? move = some meeting) :
    meeting.registry = world.registry ∧ meeting.frame.command = .message := by
  unfold meeting? at found
  split at found
  · obtain ⟨step, -, found⟩ := Option.bind_eq_some_iff.mp found
    obtain ⟨frame, handled, rfl⟩ := Option.map_eq_some_iff.mp found
    obtain ⟨effect, -, isMessage⟩ := List.exists_of_findSome?_eq_some handled
    refine ⟨rfl, ?_⟩
    unfold Effect.message? at isMessage
    split at isMessage
    · split at isMessage <;> cases isMessage
      assumption
    · cases isMessage
  · cases found

/-- The messages that are handled in an interleaving, in order. -/
def meetings (world : World) : List Move → List (Meeting Consumer)
  | [] => []
  | move :: moves => (world.meeting? move).toList ++ (world.act move).meetings moves

theorem meetings_concat (world : World) (moves : List Move) (move : Move) :
    world.meetings (moves ++ [move]) =
      world.meetings moves ++ ((world.play moves).meeting? move).toList := by
  induction moves generalizing world with
  | nil => exact List.append_nil _
  | cons first moves ih =>
    rw [List.cons_append, meetings, ih, meetings, List.append_assoc]
    rfl

/-- What a step of a keeper does to the books. -/
theorem books_afterStep {world : World} {index : Nat} {stopFirst : Bool}
    {drawn : Numeral.Binary64} {step : Keeper.Step}
    (moved : world.keeperMoveBy? index stopFirst drawn = some step) :
    (world.afterStep index step).books =
      match step.2.findSome? Effect.message? with
      | some frame =>
        let result := Delivery.dispatch world.registry world.sequences frame
        ⟨Delivery.sequencesAfter world.sequences result, world.calls ++ Delivery.calls result⟩
      | none => world.books := by
  unfold keeperMoveBy? at moved
  rw [Option.bind_eq_bind, Option.bind_eq_some_iff] at moved
  obtain ⟨tenure, present, stepped⟩ := moved
  unfold afterStep
  rcases Keeper.message_cases stepped with silent | ⟨frame, isMessage, handles⟩
  · rw [List.findSome?_eq_none_iff.mpr silent]
    exact books_foldl_perform index _ silent
  · let placed := world.atTenure index fun tenure => { tenure with keeper := step.1 }
    have seated : placed.tenures[index]? = some { tenure with keeper := step.1 } := by
      show (world.tenures.modify index _)[index]? = _
      rw [List.getElem?_modify_eq, present]
      rfl
    have performed : perform index placed (.handle frame) = placed.deliver frame := by
      unfold perform
      rw [seated]
      show placed.handle frame = _
      unfold handle
      rw [isMessage]
    have message : [Effect.handle frame].findSome? Effect.message? = some frame := by
      simp [Effect.message?, isMessage]
    rw [handles, message]
    show (perform index placed (.handle frame)).books = _
    rw [performed, books_deliver]
    rfl

/-- What is possible only while the consumer has the monitor leaves the books alone if it does so by
itself. -/
theorem books_ifHeld {world after : World} (same : after.books = world.books) :
    (world.ifHeld after).books = world.books := by
  unfold ifHeld
  split
  · exact same
  · rfl

/-- **What one move does to the counts and the calls.** -/
theorem books_act (world : World) (move : Move) :
    (world.act move).books =
      match world.meeting? move with
      | some meeting =>
        let result := Delivery.dispatch meeting.registry world.sequences meeting.frame
        ⟨Delivery.sequencesAfter world.sequences result, world.calls ++ Delivery.calls result⟩
      | none => world.books := by
  cases move with
  | keeper index stopFirst drawn =>
    rw [act, meeting?]
    cases moved : world.keeperMoveBy? index stopFirst drawn with
    | none => rfl
    | some step =>
      refine (books_afterStep moved).trans ?_
      rw [Option.bind_some]
      cases step.2.findSome? Effect.message? <;> rfl
  | writer index =>
    rw [act]
    cases moved : world.writerStep? index with
    | none => rfl
    | some after => exact books_writerStep moved
  | stopping index =>
    rw [act]
    cases moved : world.stopStep? index with
    | none => rfl
    | some after => exact books_stopStep moved
  | start endpoint credentials =>
    refine books_ifHeld ?_
    unfold start
    split <;> rfl
  | letGo => exact books_ifHeld (books_settleOwnership _)
  | subscribe consumer destination => exact books_ifHeld (books_subscribe _ _ _)
  | unsubscribe name => exact books_ifHeld (books_unsubscribe _ _)
  | send destination body => exact books_ifHeld (books_send _ _ _)
  | stop => exact books_ifHeld rfl
  | receive channel arrival =>
    show (world.receive channel arrival).2.books = world.books
    unfold receive
    split <;> rfl
  | finishChannel channel =>
    show (world.finishChannel channel).2.books = world.books
    unfold finishChannel
    split <;> rfl
  | changeSink channel sink => rfl
  | planMore outcomes => rfl
  | takeNotices => rfl
  | closeMailbox => rfl
  | pass nanos => rfl

/-! ### The order of the subscriptions -/

/-- Every effect of a keeper keeps the order of the subscriptions. -/
theorem numbered_perform (index : Nat) {world : World} (numbered : world.registry.IsNumbered)
    (effect : Effect) : (perform index world effect).registry.IsNumbered := by
  cases moors : effect.moors with
  | false => exact (serves_perform index world moors).numbered numbered
  | true =>
    unfold perform
    split
    · exact numbered
    · cases effect with
      | accept =>
        dsimp only
        unfold accept
        split <;> exact numbered
      | write chunk => exact numbered
      | appoint =>
        dsimp only
        unfold appoint
        split <;> exact numbered
      | attach =>
        dsimp only
        unfold attach
        split
        · exact numbered
        · dsimp only
          rw [withRegistry, registry_queue]
          exact numbered.attach _ _
      | queue frame =>
        dsimp only
        rw [registry_queue]
        exact numbered
      | release =>
        dsimp only
        split <;> exact numbered
      | _ => cases moors

theorem numbered_foldl_perform (index : Nat) {world : World} (numbered : world.registry.IsNumbered)
    (effects : List Effect) : (effects.foldl (perform index) world).registry.IsNumbered := by
  induction effects generalizing world with
  | nil => exact numbered
  | cons effect effects ih => exact ih (numbered_perform index numbered effect)

theorem registry_writerStep {world after : World} {index : Nat}
    (moved : world.writerStep? index = some after) : after.registry = world.registry := by
  unfold writerStep? at moved
  simp only [Option.bind_eq_bind, Option.bind_eq_some_iff, Option.some.injEq] at moved
  obtain ⟨desk, -, channel, -, ⟨writer, act⟩, -, rfl⟩ := moved
  dsimp only
  split <;> rfl

/-- **Every move keeps the order of the subscriptions.** -/
theorem numbered_act {world : World} (numbered : world.registry.IsNumbered) (move : Move) :
    (world.act move).registry.IsNumbered := by
  cases moors : move.moors with
  | false => exact (serves_act world moors).numbered numbered
  | true =>
    cases move with
    | keeper index stopFirst drawn =>
      rw [act]
      cases moved : world.keeperMoveBy? index stopFirst drawn with
      | none => exact numbered
      | some step =>
        have placed : (world.atTenure index fun tenure =>
            { tenure with keeper := step.1 }).registry.IsNumbered := numbered
        exact numbered_foldl_perform index placed step.2
    | writer index =>
      rw [act]
      cases moved : world.writerStep? index with
      | none => exact numbered
      | some after =>
        rw [Option.getD_some, registry_writerStep moved]
        exact numbered
    | start endpoint credentials =>
      rw [act]
      unfold ifHeld start
      split
      · split <;> exact numbered
      · exact numbered
    | _ => cases moors

/-- Every message meets subscriptions in their order. -/
theorem numbered_of_mem_meetings {world : World} (numbered : world.registry.IsNumbered)
    {moves : List Move} {meeting : Meeting Consumer} (met : meeting ∈ world.meetings moves) :
    meeting.registry.IsNumbered := by
  induction moves generalizing world with
  | nil => cases met
  | cons move moves ih =>
    rcases List.mem_append.mp met with now | later
    · have found : world.meeting? move = some meeting := by simpa using now
      rw [(meeting?_eq_some found).1]
      exact numbered
    · exact ih (numbered_act numbered move) later

/-! ### Events in an interleaving -/

/-- What the messages of an interleaving come to. -/
def results (world : World) (moves : List Move) :
    List (Except PayloadError (Option (Delivery Consumer))) :=
  Delivery.dispatchAll world.sequences (world.meetings moves)

/-- The counts and the calls are what the messages come to. -/
theorem books_play (world : World) (moves : List Move) :
    (world.play moves).books =
      ⟨(world.results moves).foldl Delivery.sequencesAfter world.sequences,
        world.calls ++ (world.results moves).flatMap Delivery.calls⟩ := by
  induction moves using List.reverseRecOn with
  | nil => exact congrArg _ (List.append_nil _).symm
  | append_singleton moves move ih =>
    have sequences : (world.play moves).sequences =
        (world.results moves).foldl Delivery.sequencesAfter world.sequences :=
      congrArg Books.sequences ih
    have calls : (world.play moves).calls =
        world.calls ++ (world.results moves).flatMap Delivery.calls := congrArg Books.calls ih
    rw [play_concat, books_act, results, meetings_concat]
    cases (world.play moves).meeting? move with
    | none =>
      rw [Option.toList_none, List.append_nil]
      exact ih
    | some meeting =>
      rw [Option.toList_some, Delivery.dispatchAll_concat, ← results, List.foldl_append,
        List.flatMap_append, ← List.append_assoc, ← sequences, ← calls]
      simp

/-- What is said of the events of an interleaving that leads to the world `after`, given the
messages that it met and what came of each of them. -/
structure EventsNumbered (after : World) (met : List (Meeting Consumer))
    (results : List (Except PayloadError (Option (Delivery Consumer)))) : Prop where
  /-- The events of a destination are what its messages become, numbered from one on. Each reaches
  the subscriptions that its message met. -/
  events : ∀ destination, Delivery.eventsAt destination results =
    (met.filter (Meeting.becomes destination)).mapIdx fun index meeting =>
      meeting.delivery destination (index + 1)
  /-- Every subscription that an event reaches has its callback called once, in their order, and the
  events follow one another as their messages did. -/
  calls : after.calls = results.flatMap Delivery.calls
  /-- A message that becomes no event calls nobody and takes no number. -/
  silent : List.Forall₂ (fun meeting result =>
    (∀ destination, meeting.becomes destination = false) → Delivery.calls result = [] ∧
      ∀ sequences, Delivery.sequencesAfter sequences result = sequences)
    met results
  /-- A destination has counted the messages that became events of it, and nothing else. -/
  counts : ∀ destination,
    after.sequences.count destination = (met.filter (Meeting.becomes destination)).length
  /-- What a message reaches are subscriptions in the order in which they were made, each once. -/
  targets : ∀ meeting ∈ met, ∀ destination,
    (meeting.targets destination).Sublist meeting.registry.entries ∧
      ((meeting.targets destination).map Subscription.id).Pairwise (· < ·)
  /-- A subscription sees larger and larger numbers of a destination. -/
  increasing : ∀ destination id,
    ((Delivery.eventsAt destination results).filter fun delivery =>
      (delivery.targets.map Subscription.id).contains id).Pairwise
        fun first second => first.event.sequence < second.event.sequence
  /-- Whatever other messages come in between, the events of a destination are the same, as long as
  the messages that become events of it are the same and meet the same subscriptions. -/
  isolated : ∀ destination (other : List (Meeting Consumer)),
    other.filter (Meeting.becomes destination) = met.filter (Meeting.becomes destination) →
    Delivery.eventsAt destination (Delivery.dispatchAll .empty other) =
      Delivery.eventsAt destination results

/-- **The events of a monitor in every interleaving**, across all its sessions, whatever the
consumer's callbacks do and whether they crash. -/
theorem events_numbered (settings : Settings) (fallback : Outcome) (seed : Nat)
    (moves : List Move) :
    EventsNumbered ((fresh settings fallback seed).play moves)
      ((fresh settings fallback seed).meetings moves)
      ((fresh settings fallback seed).results moves) := by
  let world := fresh settings fallback seed
  have books := books_play world moves
  have events : ∀ destination (met : List (Meeting Consumer)),
      Delivery.eventsAt destination (Delivery.dispatchAll .empty met) =
        (met.filter (Meeting.becomes destination)).mapIdx fun index meeting =>
          meeting.delivery destination (index + 1) := by
    intro destination met
    rw [Delivery.eventsAt_dispatchAll]
    simp [Sequences.count, Sequences.empty]
  refine ⟨fun destination => events destination _, ?_, ?_, fun destination => ?_,
    fun meeting member destination => ?_, fun destination id => ?_,
    fun destination other same => ?_⟩
  · exact congrArg Books.calls books
  · refine Delivery.forall₂_dispatchAll (fun sequences meeting never => ?_) _ _
    obtain ⟨nothing, unchanged⟩ := Delivery.silent_of_never never sequences
    refine ⟨?_, unchanged⟩
    rw [Delivery.calls, nothing]
    rfl
  · have sequences : (world.play moves).sequences =
        (world.results moves).foldl Delivery.sequencesAfter world.sequences :=
      congrArg Books.sequences books
    have counted := Delivery.count_foldl_sequencesAfter destination world.sequences
      (world.results moves)
    have listed : Delivery.eventsAt destination (world.results moves) = _ :=
      events destination (world.meetings moves)
    rw [sequences, counted, listed, List.length_mapIdx]
    exact Nat.zero_add _
  · have numbered := numbered_of_mem_meetings (Registry.isNumbered_empty seed) member
    have among : (meeting.targets destination).Sublist meeting.registry.entries :=
      Registry.route_sublist _ _ _
    exact ⟨among, numbered.ordered.sublist (among.map _)⟩
  · exact (Delivery.pairwise_eventsAt destination .empty _).sublist List.filter_sublist
  · show _ = Delivery.eventsAt destination (Delivery.dispatchAll .empty _)
    rw [events, events, same]

end World

end EventFeed
