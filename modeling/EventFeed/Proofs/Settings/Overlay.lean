/-
**What an environment does to the settings.**

Each setting has a variable of its own. If one of them has a text that cannot be read, the first of
these is the fault, whatever else is wrong. Otherwise the settings are the standard ones with every
variable that is there laid over its own setting, and they are refused only for a value out of its
range. So a variable that changes can change no setting but its own. A monitor is made with the
settings unless the mailbox that they ask for is too large, which no range excludes; then making it
crashes.

* `Settings.ofKnobs`: settings, told knob by knob;
* `foldlM_assign_of_unreadable`, `foldlM_assign_of_readable`: what reading the variables in order
  comes to;
* `ofEnvironment_eq_ok_iff`: which settings an environment gives;
* `make_of_in_range`: when a monitor is made with settings that are in range;
* `environment_overlays_exactly`: all this, for one environment and for two that differ;
* `accepted_environment_crashes`: a monitor is not made with all settings that are accepted.
-/

import EventFeed.Monitor.World
import EventFeed.Settings.Environment
import Mathlib.Control.Monad.Basic

namespace EventFeed

open EventFeed.Numeral EventFeed.Time

/-! ### Settings, knob by knob -/

namespace Settings

/-- The settings in which every knob stands as told. -/
def ofKnobs (value : (knob : Knob) → knob.kind.Value) : Settings where
  connectTimeout := value .connectTimeout
  handshakeTimeout := value .handshakeTimeout
  disconnectTimeout := value .disconnectTimeout
  frameLimit := value .frameLimit
  pulse :=
    { outgoing := value .outgoing
      incoming := value .incoming
      grace := value .grace }
  reconnection :=
    { baseDelay := value .baseDelay
      longestDelay := value .longestDelay
      factor := value .factor
      jitter := value .jitter
      mostAttempts := value .mostAttempts
      stabilityWindow := value .stabilityWindow }
  eventCapacity := value .eventCapacity

@[simp] theorem get_ofKnobs (value : (knob : Knob) → knob.kind.Value) (knob : Knob) :
    knob.get (ofKnobs value) = value knob := by
  cases knob <;> rfl

theorem ofKnobs_get (settings : Settings) : ofKnobs (fun knob => knob.get settings) = settings :=
  rfl

/-- Settings are told by how their knobs stand. -/
theorem eq_of_get {first second : Settings}
    (same : ∀ knob : Knob, knob.get first = knob.get second) : first = second := by
  rw [← ofKnobs_get first, ← ofKnobs_get second, funext same]

end Settings

namespace Knob

theorem mem_all (knob : Knob) : knob ∈ all := by
  cases knob <;> decide

/-- No two settings have the same variable. -/
theorem variableName_injective {first second : Knob}
    (same : first.variableName = second.variableName) : first = second := by
  cases first <;> cases second <;> first | rfl | exact absurd same (by decide)

end Knob

/-! ### Reading one variable -/

/-- Whether a variable has a text that cannot be read as a value of its setting. -/
def Environment.IsUnreadable (environment : Environment) (knob : Knob) (text : String) : Prop :=
  environment knob.variableName = some text ∧ knob.kind.read? (Text.trim text) = none

/-- Whether the variable of a setting is the first, in the order in which they are read, whose text
cannot be read. -/
def Environment.IsFirstUnreadable (environment : Environment) (knob : Knob) (text : String) :
    Prop :=
  environment.IsUnreadable knob text ∧ ∃ before after, Knob.all = before ++ knob :: after ∧
    ∀ earlier ∈ before, ∀ text, ¬environment.IsUnreadable earlier text

/-- What the environment gives for a setting, if it gives something that can be read. -/
def Environment.given? (environment : Environment) (knob : Knob) : Option knob.kind.Value :=
  (environment knob.variableName).bind fun text => knob.kind.read? (Text.trim text)

/-- The standard settings with everything that the environment gives laid over them. -/
def Environment.overlay (environment : Environment) : Settings :=
  .ofKnobs fun knob => (environment.given? knob).getD (knob.get .standard)

variable {environment : Environment} {settings : Settings}

namespace Knob

/-- The settings with one of them as the environment gives it, if it does. -/
def turn (environment : Environment) (settings : Settings) (knob : Knob) : Settings :=
  ((environment.given? knob).map (knob.put settings)).getD settings

theorem assign_of_unreadable {knob : Knob} {text : String}
    (unreadable : environment.IsUnreadable knob text) (settings : Settings) :
    assign environment settings knob = .error (.invalid knob.variableName text) := by
  simp only [assign, unreadable.1, unreadable.2]

theorem assign_of_readable {knob : Knob}
    (readable : ∀ text, ¬environment.IsUnreadable knob text) (settings : Settings) :
    assign environment settings knob = .ok (turn environment settings knob) := by
  unfold assign turn Environment.given?
  cases there : environment knob.variableName with
  | none => rfl
  | some text =>
    cases read : knob.kind.read? (Text.trim text) with
    | none => exact absurd ⟨there, read⟩ (readable text)
    | some value => simp only [Option.bind_some, read, Option.map_some, Option.getD_some]

/-- Turning a knob as the environment tells moves no other knob. -/
theorem get_turn (environment : Environment) (settings : Settings) (knob other : Knob) :
    other.get (turn environment settings knob) =
      if other = knob then (environment.given? other).getD (other.get settings)
      else other.get settings := by
  unfold turn
  split
  · rename_i same
    subst same
    cases environment.given? other with
    | none => rfl
    | some value => exact get_put other settings value
  · rename_i different
    cases environment.given? knob with
    | none => rfl
    | some value => exact get_put_of_ne different settings value

/-! ### Reading all variables -/

/-- If every variable can be read, each is laid over its setting. -/
theorem foldlM_assign_of_readable {knobs : List Knob}
    (readable : ∀ knob ∈ knobs, ∀ text, ¬environment.IsUnreadable knob text)
    (settings : Settings) :
    knobs.foldlM (assign environment) settings =
      .ok (knobs.foldl (turn environment) settings) := by
  induction knobs generalizing settings with
  | nil => rfl
  | cons knob knobs ih =>
    rw [List.foldlM_cons, assign_of_readable (readable knob List.mem_cons_self)]
    exact ih (fun later member => readable later (List.mem_cons_of_mem _ member)) _

/-- The first variable that cannot be read is the fault, whatever comes behind it. -/
theorem foldlM_assign_of_unreadable {before after : List Knob} {knob : Knob} {text : String}
    (readable : ∀ earlier ∈ before, ∀ text, ¬environment.IsUnreadable earlier text)
    (unreadable : environment.IsUnreadable knob text) (settings : Settings) :
    (before ++ knob :: after).foldlM (assign environment) settings =
      .error (.invalid knob.variableName text) := by
  rw [List.foldlM_append, foldlM_assign_of_readable readable]
  show (knob :: after).foldlM (assign environment) _ = _
  rw [List.foldlM_cons, assign_of_unreadable unreadable]
  rfl

/-- Where a knob stands once all given ones were turned. -/
theorem get_foldl_turn (environment : Environment) (knobs : List Knob) (settings : Settings)
    (knob : Knob) :
    knob.get (knobs.foldl (turn environment) settings) =
      if knob ∈ knobs then (environment.given? knob).getD (knob.get settings)
      else knob.get settings := by
  induction knobs generalizing settings with
  | nil => rfl
  | cons first knobs ih =>
    rw [List.foldl_cons, ih, get_turn]
    by_cases same : knob = first
    · -- turning a knob twice is turning it once
      subst same
      cases environment.given? knob <;> simp
    · simp [same]

end Knob

namespace Settings

theorem ofEnvironment_eq (environment : Environment) :
    ofEnvironment environment = (overlaid environment).bind checked :=
  rfl

/-- **The first variable that cannot be read is the fault.** -/
theorem ofEnvironment_of_unreadable {knob : Knob} {text : String}
    (first : environment.IsFirstUnreadable knob text) :
    ofEnvironment environment = .error (.invalid knob.variableName text) := by
  obtain ⟨unreadable, before, after, order, readable⟩ := first
  rw [ofEnvironment_eq, overlaid, order, Knob.foldlM_assign_of_unreadable readable unreadable]
  rfl

/-- If every variable can be read, the settings are the standard ones with all that is given laid
over them, as long as their ranges allow it. -/
theorem ofEnvironment_of_readable
    (readable : ∀ knob text, ¬environment.IsUnreadable knob text) :
    ofEnvironment environment = environment.overlay.checked := by
  have laid : Knob.all.foldl (Knob.turn environment) standard = environment.overlay := by
    refine eq_of_get fun knob => ?_
    rw [Knob.get_foldl_turn, if_pos knob.mem_all, Environment.overlay, get_ofKnobs]
  rw [ofEnvironment_eq, overlaid,
    Knob.foldlM_assign_of_readable (fun knob _ => readable knob), laid]
  rfl

/-- Among variables of which some cannot be read there is a first one. -/
theorem exists_first_unreadable {knob : Knob} {text : String}
    (unreadable : environment.IsUnreadable knob text) :
    ∃ knob text, environment.IsFirstUnreadable knob text := by
  classical
  let faulty : Knob → Bool := fun knob => decide (∃ text, environment.IsUnreadable knob text)
  have found : (Knob.all.find? faulty).isSome = true := by
    rw [List.find?_isSome]
    exact ⟨knob, knob.mem_all, decide_eq_true ⟨text, unreadable⟩⟩
  obtain ⟨first, found⟩ := Option.isSome_iff_exists.mp found
  obtain ⟨isFaulty, before, after, order, earlier⟩ := List.find?_eq_some_iff_append.mp found
  obtain ⟨wrong, unreadable⟩ := of_decide_eq_true isFaulty
  refine ⟨first, wrong, unreadable, before, after, order, fun other member text unread => ?_⟩
  have readable := earlier other member
  rw [Bool.not_eq_true', decide_eq_false_iff_not] at readable
  exact readable ⟨text, unread⟩

/-- If no variable is the first that cannot be read, every variable can be read. -/
theorem readable_of_no_first
    (noFirst : ¬∃ knob text, environment.IsFirstUnreadable knob text) (knob : Knob)
    (text : String) : ¬environment.IsUnreadable knob text :=
  fun unreadable => noFirst (exists_first_unreadable unreadable)

/-! ### Settings that are in range -/

theorem checked_eq_ok_iff {given : Settings} :
    given.checked = .ok settings ↔ given = settings ∧ given.defect? = none := by
  unfold checked
  cases given.defect? <;> simp

theorem checked_eq_error_iff {given : Settings} {error : SettingError} :
    given.checked = .error error ↔ given.defect? = some error := by
  unfold checked
  cases given.defect? <;> simp

/-- **The settings that an environment gives**: every variable that is there can be read, what it
writes is the value of its setting, the other settings are the standard ones, and all of them are in
range. -/
theorem ofEnvironment_eq_ok_iff :
    ofEnvironment environment = .ok settings ↔
      (∀ knob text, ¬environment.IsUnreadable knob text) ∧ environment.overlay = settings ∧
        settings.defect? = none := by
  constructor
  · intro given
    by_cases unreadable : ∃ knob text, environment.IsUnreadable knob text
    · obtain ⟨knob, text, unreadable⟩ := unreadable
      obtain ⟨first, wrong, isFirst⟩ := exists_first_unreadable unreadable
      cases (ofEnvironment_of_unreadable isFirst).symm.trans given
    · have readable : ∀ knob text, ¬environment.IsUnreadable knob text :=
        fun knob text wrong => unreadable ⟨knob, text, wrong⟩
      rw [ofEnvironment_of_readable readable, checked_eq_ok_iff] at given
      obtain ⟨rfl, inRange⟩ := given
      exact ⟨readable, rfl, inRange⟩
  · rintro ⟨readable, rfl, inRange⟩
    rw [ofEnvironment_of_readable readable, checked_eq_ok_iff]
    exact ⟨rfl, inRange⟩

/-- A setting whose variable is absent is the standard one, and every other is what the trimmed text
of its variable writes. -/
theorem get_of_environment (given : ofEnvironment environment = .ok settings) (knob : Knob) :
    match environment knob.variableName with
    | none => knob.get settings = knob.get standard
    | some text => knob.kind.read? (Text.trim text) = some (knob.get settings) := by
  obtain ⟨readable, rfl, -⟩ := ofEnvironment_eq_ok_iff.mp given
  rw [Environment.overlay, get_ofKnobs, Environment.given?]
  cases there : environment knob.variableName with
  | none => rfl
  | some text =>
    cases read : knob.kind.read? (Text.trim text) with
    | none => exact absurd ⟨there, read⟩ (readable knob text)
    | some value => simp only [Option.bind_some, read, Option.getD_some]

/-- A setting depends on its own variable alone. -/
theorem get_overlay_congr {other : Environment} {knob : Knob}
    (same : other knob.variableName = environment knob.variableName) :
    knob.get other.overlay = knob.get environment.overlay := by
  simp only [Environment.overlay, get_ofKnobs, Environment.given?, same]

/-- **Environments that differ in one variable give settings that differ at most in the setting of
that variable.** -/
theorem eq_put_of_environments {other : Environment} {settings' : Settings} {name : String}
    (same : ∀ variableName, variableName ≠ name →
      other variableName = environment variableName)
    (given : ofEnvironment environment = .ok settings)
    (givenToo : ofEnvironment other = .ok settings') :
    settings' = settings ∨
      ∃ changed : Knob, changed.variableName = name ∧
        settings' = changed.put settings (changed.get settings') := by
  obtain ⟨-, rfl, -⟩ := ofEnvironment_eq_ok_iff.mp given
  obtain ⟨-, rfl, -⟩ := ofEnvironment_eq_ok_iff.mp givenToo
  by_cases named : ∃ changed : Knob, changed.variableName = name
  · obtain ⟨changed, named⟩ := named
    refine .inr ⟨changed, named, eq_of_get fun knob => ?_⟩
    by_cases own : knob = changed
    · rw [own, Knob.get_put]
    · rw [Knob.get_put_of_ne own]
      refine get_overlay_congr (same _ fun sameName => ?_)
      exact own (Knob.variableName_injective (sameName.trans named.symm))
  · refine .inl (eq_of_get fun knob => get_overlay_congr (same _ fun sameName => ?_))
    exact named ⟨knob, sameName⟩

/-- With settings that are in range a monitor is made, unless its mailbox is too large: then making
it crashes. -/
theorem make_of_in_range (inRange : settings.defect? = none) (fallback : Outcome) (seed : Nat) :
    World.make settings fallback seed =
      if settings.eventCapacity ≤ Mailbox.largestCapacity then
        .ok (.fresh settings fallback seed)
      else .error (.crashed Mailbox.tooLarge) := by
  rw [World.make, checked_eq_ok_iff.mpr ⟨rfl, inRange⟩]
  dsimp only
  rw [Mailbox.make_of_capacity]
  by_cases fits : settings.eventCapacity ≤ Mailbox.largestCapacity
  · rw [if_pos fits, if_pos fits]
    rfl
  · rw [if_neg fits, if_neg fits]

/-- **What an environment does to the settings.** It is refused with the first variable that cannot
be read, by name and with its whole text; if there is none, then exactly with the first value that
is out of its range once everything is laid over the standard settings. If it is accepted, every
setting is what its own variable writes, or the standard one; no other variable has a part in it, so
another environment that differs in one variable and is accepted too gives settings that differ at
most in the setting of that variable; and a monitor is made with these settings exactly if its
mailbox is not too large, while making it crashes if it is. -/
theorem environment_overlays_exactly (environment : Environment) :
    (∀ knob text, environment.IsFirstUnreadable knob text →
      ofEnvironment environment = .error (.invalid knob.variableName text)) ∧
    ((¬∃ knob text, environment.IsFirstUnreadable knob text) → ∀ error,
      ofEnvironment environment = .error error ↔ environment.overlay.defect? = some error) ∧
    ∀ settings, ofEnvironment environment = .ok settings →
      (∀ knob : Knob, match environment knob.variableName with
        | none => knob.get settings = knob.get standard
        | some text => knob.kind.read? (Text.trim text) = some (knob.get settings)) ∧
      (∀ (other : Environment) (name : String) (settings' : Settings),
        (∀ variableName, variableName ≠ name →
          other variableName = environment variableName) →
        ofEnvironment other = .ok settings' →
        settings' = settings ∨ ∃ changed : Knob, changed.variableName = name ∧
          settings' = changed.put settings (changed.get settings')) ∧
      ∀ fallback seed, World.make settings fallback seed =
        if settings.eventCapacity ≤ Mailbox.largestCapacity then
          .ok (.fresh settings fallback seed)
        else .error (.crashed Mailbox.tooLarge) := by
  refine ⟨fun knob text first => ofEnvironment_of_unreadable first, fun readable error => ?_,
    fun settings given => ⟨get_of_environment given, fun other name settings' same givenToo =>
      eq_put_of_environments same given givenToo,
      make_of_in_range (ofEnvironment_eq_ok_iff.mp given).2.2⟩⟩
  rw [ofEnvironment_of_readable (readable_of_no_first readable), checked_eq_error_iff]

/-- An environment in which two texts cannot be read and one value is out of its range. -/
def careless : Environment := fun name =>
  List.lookup name [("NETWORK_MONITOR_HEARTBEAT_GRACE", "two"),
    ("NETWORK_MONITOR_EVENT_BUFFER", "0"), ("NETWORK_MONITOR_MAX_FRAME_SIZE", " 12k ")]

/-- An environment that limits the attempts and sets the delay before the first of them. -/
def retrying (delay : String) : Environment := fun name =>
  List.lookup name [("NETWORK_MONITOR_RECONNECT_BASE_MS", delay),
    ("NETWORK_MONITOR_RECONNECT_MAX_ATTEMPTS", "\t3")]

/-- What the environment with a delay of so many milliseconds gives. -/
def retryingSettings (millis : Nat) : Settings :=
  Knob.put .mostAttempts (Knob.put .baseDelay standard (.ofMillis millis)) (some 3)

/-- The careless environment is refused for its frame limit, as that is read before the grace and
before any range is looked at. Two environments that differ in one delay give settings that differ
in it alone. -/
theorem careless_environment_is_refused :
    careless.IsFirstUnreadable .frameLimit " 12k " ∧
      ofEnvironment careless = .error (.invalid "NETWORK_MONITOR_MAX_FRAME_SIZE" " 12k ") ∧
      ofEnvironment (retrying " 250 ") = .ok (retryingSettings 250) ∧
      ofEnvironment (retrying "+0700") = .ok (retryingSettings 700) ∧
      (retryingSettings 700 = retryingSettings 250 ∨
        ∃ changed : Knob, changed.variableName = "NETWORK_MONITOR_RECONNECT_BASE_MS" ∧
          retryingSettings 700 =
            changed.put (retryingSettings 250) (changed.get (retryingSettings 700))) := by
  have first : careless.IsFirstUnreadable .frameLimit " 12k " := by
    refine ⟨⟨by decide, by decide +kernel⟩,
      [.connectTimeout, .handshakeTimeout, .disconnectTimeout], _, rfl, ?_⟩
    rintro earlier member text ⟨there, -⟩
    have absent : ∀ knob ∈ [Knob.connectTimeout, .handshakeTimeout, .disconnectTimeout],
        careless knob.variableName = none := by decide
    cases (absent earlier member).symm.trans there
  have early : ofEnvironment (retrying " 250 ") = .ok (retryingSettings 250) := by
    decide +kernel
  have late : ofEnvironment (retrying "+0700") = .ok (retryingSettings 700) := by
    decide +kernel
  refine ⟨first, (environment_overlays_exactly careless).1 _ _ first, early, late,
    ((environment_overlays_exactly (retrying " 250 ")).2.2 _ early).2.1 _ _ _ ?_ late⟩
  intro name different
  simp only [retrying, List.lookup_cons, beq_false_of_ne different]

/-- An environment that asks for a mailbox with one place more than the largest one has. -/
def spacious : Environment := fun name =>
  List.lookup name [("NETWORK_MONITOR_EVENT_BUFFER", "2305843009213693952")]

/-- **A monitor is not made with all settings that are accepted.** The environment is accepted, and
making the monitor crashes. -/
theorem accepted_environment_crashes : ∃ settings,
    ofEnvironment spacious = .ok settings ∧ ∀ fallback seed,
      World.make settings fallback seed = .error (.crashed
        "a semaphore may not have more than MAX_PERMITS permits (2305843009213693951)") := by
  have given : ofEnvironment spacious =
      .ok { standard with eventCapacity := 2305843009213693952 } := by decide +kernel
  have said : Mailbox.tooLarge =
      "a semaphore may not have more than MAX_PERMITS permits (2305843009213693951)" := by
    decide +kernel
  refine ⟨_, given, fun fallback seed => ?_⟩
  rw [make_of_in_range (ofEnvironment_eq_ok_iff.mp given).2.2, said]
  exact if_neg (by decide)

end Settings

end EventFeed
