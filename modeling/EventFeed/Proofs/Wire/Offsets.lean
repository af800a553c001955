/-
**Decoding in place.**

A decoder on a machine has one buffer and a place in it: it cuts lines and bodies out of the buffer,
counts places in words, and takes a frame by dropping the bytes before a place. Each of these steps
may be impossible, as no byte is at the place or no word holds the number. The scanner here takes
the steps one by one and stops at the first that is impossible.

* `decodeInPlace_eq`: no step is ever impossible, and what comes out is what the decoder gives;
* `decoding_is_atomic`: so decoding is safe; it takes a frame or nothing, whatever stands behind the
  frame; and every frame takes a byte at least.
-/

import EventFeed.Proofs.Wire.Acceptance

namespace EventFeed.Wire

open EventFeed.Numeral

/-! ### Steps that may be impossible -/

/-- Why a step is impossible: a place is outside the buffer, or a number is outside the words. -/
inductive Trap where
  | outside
  | overflow
  deriving DecidableEq, Repr

def plus (first second : Nat) : Except Trap Nat :=
  if first + second < wordBound then .ok (first + second) else .error .overflow

def minus (first second : Nat) : Except Trap Nat :=
  if second ≤ first then .ok (first - second) else .error .overflow

/-- The sum, or the largest word if no word holds the sum. -/
def saturatingPlus (first second : Nat) : Nat :=
  min (first + second) (wordBound - 1)

-- The lengths that peers declare go up to the largest word, with which the plain sum is impossible.
example : plus 1 (wordBound - 1) = .error .overflow := by decide

/-- The bytes from one place up to another. -/
def slice (buffer : List UInt8) (start stop : Nat) : Except Trap (List UInt8) :=
  if start ≤ stop ∧ stop ≤ buffer.length then .ok ((buffer.drop start).take (stop - start))
  else .error .outside

def byteAt (buffer : List UInt8) (place : Nat) : Except Trap UInt8 :=
  match buffer[place]? with
  | some byte => .ok byte
  | none => .error .outside

/-- The buffer without as many bytes at its front. -/
def advance (buffer : List UInt8) (count : Nat) : Except Trap (List UInt8) :=
  if count ≤ buffer.length then .ok (buffer.drop count) else .error .outside

theorem ok_bind {α β : Type} (value : α) (next : α → Except Trap β) :
    (Except.ok value >>= next) = next value :=
  rfl

theorem bind_eq_ok_iff {α β : Type} {step : Except Trap α} {next : α → Except Trap β} {result : β} :
    (step >>= next) = .ok result ↔ ∃ value, step = .ok value ∧ next value = .ok result := by
  cases step with
  | ok value => simp [ok_bind]
  | error trap => simp [bind, Except.bind]

theorem plus_eq_ok_iff {first second sum : Nat} :
    plus first second = .ok sum ↔ first + second < wordBound ∧ sum = first + second := by
  unfold plus
  split
  · rename_i small
    simp [small, eq_comm]
  · rename_i large
    simp [large]

theorem slice_eq_ok_iff {buffer bytes : List UInt8} {start stop : Nat} :
    slice buffer start stop = .ok bytes ↔
      (start ≤ stop ∧ stop ≤ buffer.length) ∧ bytes = (buffer.drop start).take (stop - start) := by
  unfold slice
  split
  · rename_i inside
    simp [inside, eq_comm]
  · rename_i outside
    simp [outside]

/-! ### The scanner -/

/-- What scanning a buffer gives: a value and the place behind it, a wish for more bytes, or a
fault. -/
inductive Scan (α : Type) where
  | done (value : α) (place : Nat)
  | more
  | failed (fault : Fault)

def Scan.andThen {α β : Type} (scan : Except Trap (Scan α))
    (next : α → Nat → Except Trap (Scan β)) : Except Trap (Scan β) :=
  match scan with
  | .error trap => .error trap
  | .ok (.done value place) => next value place
  | .ok .more => .ok .more
  | .ok (.failed fault) => .ok (.failed fault)

section

variable (buffer : List UInt8)

/-- The text of a line between two places: a carriage return before its end is no part of it. -/
def textBetween (start stop : Nat) : Except Trap (List UInt8) := do
  let whole ← slice buffer start stop
  if whole.getLast? = some carriageReturn then
    let last ← minus stop 1
    slice buffer start last
  else .ok whole

/-- The line that starts at a place, and the place behind its end. -/
def lineAt (start : Nat) : Except Trap (Option (List UInt8 × Nat)) := do
  let tail ← slice buffer start buffer.length
  match tail.findIdx? (· = lineFeed) with
  | none => .ok none
  | some ahead =>
    let stop ← plus start ahead
    let line ← textBetween buffer start stop
    let next ← plus stop 1
    .ok (some (line, next))

variable {buffer} in
theorem lt_of_lineAt {start next : Nat} {line : List UInt8}
    (found : lineAt buffer start = .ok (some (line, next))) :
    start ≤ buffer.length ∧ start < next := by
  obtain ⟨tail, cut, found⟩ := bind_eq_ok_iff.mp found
  obtain ⟨within, -⟩ := slice_eq_ok_iff.mp cut
  split at found
  · cases found
  · obtain ⟨stop, added, found⟩ := bind_eq_ok_iff.mp found
    obtain ⟨_, -, found⟩ := bind_eq_ok_iff.mp found
    obtain ⟨next, added', found⟩ := bind_eq_ok_iff.mp found
    cases found
    rw [plus_eq_ok_iff] at added added'
    omega

def commandAt : Except Trap (Scan Command) := do
  match ← lineAt buffer 0 with
  | none => .ok .more
  | some (line, next) =>
    match Text.ofBytes? line with
    | none => .ok (.failed .notText)
    | some token =>
      if token.isEmpty then .ok (.failed .emptyCommand)
      else match Command.ofToken? token with
      | none => .ok (.failed (.unknownCommand token))
      | some command => .ok (.done command next)

def headersAt (command : Command) (headers : Headers) (start : Nat) : Except Trap (Scan Headers) :=
  match _found : lineAt buffer start with
  | .error trap => .error trap
  | .ok none => .ok .more
  | .ok (some (line, next)) =>
    if line.isEmpty then .ok (.done headers next)
    else match readHeader command line with
    | .error fault => .ok (.failed fault)
    | .ok (name, value) => headersAt command (headers.insertFirst name value) next
  termination_by buffer.length + 1 - start
  decreasing_by
    have := lt_of_lineAt _found
    omega

/-- The body between two places, and the place behind its end. -/
def bodyBetween (start stop : Nat) : Except Trap (Scan (List UInt8)) := do
  let body ← slice buffer start stop
  let next ← plus stop 1
  .ok (.done body next)

def bodyAt (headers : Headers) (start : Nat) : Except Trap (Scan (List UInt8)) :=
  match headers.get? Header.contentLength with
  | none => do
    let tail ← slice buffer start buffer.length
    match tail.findIdx? (· = terminator) with
    | none => .ok .more
    | some ahead => do
      let stop ← plus start ahead
      bodyBetween buffer start stop
  | some declared =>
    match read? wordBound (Text.trim declared) with
    | none => .ok (.failed (.badLength declared))
    | some length => do
      let stop := saturatingPlus start length
      if buffer.length ≤ stop then .ok .more
      else
        let byte ← byteAt buffer stop
        if byte = terminator then bodyBetween buffer start stop
        else .ok (.failed (.unterminatedBody length))

def frameAt : Except Trap (Scan Frame) :=
  Scan.andThen (commandAt buffer) fun command place =>
    Scan.andThen (headersAt buffer command .empty place) fun headers place =>
      Scan.andThen (bodyAt buffer headers place) fun body place =>
        .ok (.done ⟨command, headers, body⟩ place)

/-- The error for a fault, with the first bytes of the buffer. -/
def errorAt (fault : Fault) : Except Trap DecodeError := do
  let shown ← slice buffer 0 (min buffer.length shownBytes)
  .ok ⟨fault, shown⟩

/-- The next frame of a buffer if there is one, and the buffer without it. -/
def decodeInPlace (limit : Nat) :
    Except Trap (Except DecodeError (Option Frame) × List UInt8) :=
  match buffer[0]? with
  | none => .ok (.ok none, buffer)
  | some first => do
    if first = lineFeed ∨ first = terminator then
      .ok (.ok (some .heartbeat), ← advance buffer 1)
    else if first = carriageReturn then
      match buffer[1]? with
      | none => .ok (.ok none, buffer)
      | some second =>
        if second = lineFeed then .ok (.ok (some .heartbeat), ← advance buffer 2)
        else .ok (.error (← errorAt buffer .emptyCommand), buffer)
    else
      match ← frameAt buffer with
      | .done frame place => .ok (.ok (some frame), ← advance buffer place)
      | .more =>
        if limit < buffer.length then .ok (.error (← errorAt buffer (.tooLarge limit)), buffer)
        else .ok (.ok none, buffer)
      | .failed fault => .ok (.error (← errorAt buffer fault), buffer)

end

/-! ### The steps are possible -/

section

variable {buffer : List UInt8} {start : Nat}

theorem plus_eq {first second : Nat} (small : first + second < wordBound) :
    plus first second = .ok (first + second) :=
  plus_eq_ok_iff.mpr ⟨small, rfl⟩

theorem slice_to_end (within : start ≤ buffer.length) :
    slice buffer start buffer.length = .ok (buffer.drop start) :=
  slice_eq_ok_iff.mpr ⟨⟨within, le_rfl⟩, (List.take_of_length_le (by simp)).symm⟩

section

variable {front back : List UInt8} (within : start ≤ buffer.length)
  (tail : buffer.drop start = front ++ back)
include within tail

theorem length_of_drop : start + front.length + back.length = buffer.length := by
  have total := congrArg List.length tail
  rw [List.length_drop, List.length_append] at total
  omega

/-- What the bytes from a place on begin with is between the place and another. -/
theorem slice_of_drop : slice buffer start (start + front.length) = .ok front := by
  have total := length_of_drop within tail
  refine slice_eq_ok_iff.mpr ⟨⟨by omega, by omega⟩, ?_⟩
  rw [Nat.add_sub_cancel_left, tail, List.take_left]

end

/-- A byte in the buffer has a place, and what stands behind it begins at the next. -/
theorem behind_byte {front back : List UInt8} {byte : UInt8} (within : start ≤ buffer.length)
    (tail : buffer.drop start = front ++ byte :: back) :
    start + front.length < buffer.length ∧ back = buffer.drop (start + front.length + 1) := by
  have total := length_of_drop within tail
  rw [List.length_cons] at total
  refine ⟨by omega, ?_⟩
  rw [← List.drop_drop, ← List.drop_drop, tail, List.drop_left, List.drop_one, List.tail_cons]

/-- A place in the buffer cuts it into what stands before its byte, the byte, and what stands
behind. -/
theorem drop_cut {length : Nat} (inside : start + length < buffer.length) :
    ((buffer.drop start).take length).length = length ∧
      buffer.drop start = (buffer.drop start).take length ++
        buffer[start + length] :: buffer.drop (start + length + 1) := by
  constructor
  · rw [List.length_take, List.length_drop]
    omega
  · rw [← List.drop_eq_getElem_cons inside, ← List.drop_drop, List.take_append_drop]

theorem findIdx?_of_not_mem {stop : UInt8} {bytes : List UInt8} (absent : stop ∉ bytes) :
    bytes.findIdx? (fun byte => byte = stop) = none := by
  rw [List.findIdx?_eq_none_iff]
  exact fun byte member => decide_eq_false fun same => absent (same ▸ member)

/-- The first stop is behind what has none. -/
theorem findIdx?_behind {stop : UInt8} {front : List UInt8} (before : stop ∉ front)
    (back : List UInt8) :
    (front ++ stop :: back).findIdx? (fun byte => byte = stop) = some front.length := by
  rw [List.findIdx?_append, findIdx?_of_not_mem before, List.findIdx?_cons]
  simp

/-- The text of a line is all of it but a carriage return at its end. -/
theorem textBetween_eq {front back : List UInt8} (within : start ≤ buffer.length)
    (tail : buffer.drop start = front ++ back) :
    textBetween buffer start (start + front.length) = .ok (stripReturn front) := by
  rw [textBetween, slice_of_drop within tail, ok_bind, stripReturn]
  split
  · rename_i returns
    obtain ⟨text, rfl⟩ := List.getLast?_eq_some_iff.mp returns
    have tail' : buffer.drop start = text ++ carriageReturn :: back := by simpa using tail
    have last : minus (start + (text ++ [carriageReturn]).length) 1 =
        .ok (start + text.length) := by
      simp [minus]
    rw [last, ok_bind, slice_of_drop within tail', List.dropLast_concat]
  · rfl

/-- **The line at a place is the first line of the bytes from there on**, and the place behind it is
in the buffer. -/
theorem lineAt_of_some {line rest : List UInt8} (within : start ≤ buffer.length)
    (held : buffer.length < wordBound) (found : splitLine (buffer.drop start) = some (line, rest)) :
    ∃ next ≤ buffer.length,
      lineAt buffer start = .ok (some (line, next)) ∧ rest = buffer.drop next := by
  have ended : lineFeed ∈ buffer.drop start := by
    by_contra absent
    rw [splitLine, dropWhile_of_not_mem absent] at found
    cases found
  obtain ⟨front, back, tail, unbroken⟩ := List.eq_append_cons_of_mem ended
  obtain ⟨dropped, taken⟩ := cut_at unbroken back
  rw [splitLine, tail, dropped, taken] at found
  cases found
  obtain ⟨inside, behind⟩ := behind_byte within tail
  refine ⟨start + front.length + 1, inside, ?_, behind⟩
  rw [lineAt, slice_to_end within, ok_bind, tail, findIdx?_behind unbroken]
  dsimp only
  rw [plus_eq (by omega), ok_bind, textBetween_eq within tail, ok_bind, plus_eq (by omega),
    ok_bind]

theorem lineAt_of_none (within : start ≤ buffer.length)
    (open' : splitLine (buffer.drop start) = none) : lineAt buffer start = .ok none := by
  have absent : lineFeed ∉ buffer.drop start := by
    intro ended
    obtain ⟨front, back, tail, unbroken⟩ := List.eq_append_cons_of_mem ended
    rw [splitLine, tail, (cut_at unbroken back).1] at open'
    cases open'
  rw [lineAt, slice_to_end within, ok_bind, findIdx?_of_not_mem absent]

end

/-! ### The scanner follows the readers -/

section

variable {α β : Type} {buffer : List UInt8}

/-- Whether a scan takes no impossible step and comes to what is read: the same value with what
stands behind a place in the buffer, the same wish or the same fault. -/
def Follows (buffer : List UInt8) (scan : Except Trap (Scan α)) : Reading α → Prop
  | .done value rest =>
    ∃ place ≤ buffer.length, scan = .ok (.done value place) ∧ rest = buffer.drop place
  | .more => scan = .ok .more
  | .failed fault => scan = .ok (.failed fault)

/-- **Scans that follow readers, one after the other, follow them together.** -/
theorem Follows.andThen {scan : Except Trap (Scan α)} {reading : Reading α}
    {next : α → Nat → Except Trap (Scan β)} {next' : α → List UInt8 → Reading β}
    (first : Follows buffer scan reading)
    (later : ∀ value, ∀ place ≤ buffer.length,
      Follows buffer (next value place) (next' value (buffer.drop place))) :
    Follows buffer (Scan.andThen scan next) (reading.andThen next') := by
  cases reading with
  | more =>
    cases first
    rfl
  | failed fault =>
    cases first
    rfl
  | done value rest =>
    obtain ⟨place, within, rfl, rfl⟩ := first
    exact later value place within

variable (held : buffer.length < wordBound)
include held

theorem commandAt_follows : Follows buffer (commandAt buffer) (readCommand buffer) := by
  have start := Nat.zero_le buffer.length
  unfold commandAt readCommand
  cases cut : splitLine buffer with
  | none =>
    rw [lineAt_of_none start (by rwa [List.drop_zero])]
    rfl
  | some parts =>
    obtain ⟨line, rest⟩ := parts
    obtain ⟨next, within, scanned, rfl⟩ := lineAt_of_some start held (by rwa [List.drop_zero])
    rw [scanned, ok_bind]
    dsimp only
    cases Text.ofBytes? line with
    | none => rfl
    | some token =>
      dsimp only
      split
      · rfl
      · cases Command.ofToken? token with
        | none => rfl
        | some command => exact ⟨next, within, rfl, rfl⟩

theorem headersAt_follows (command : Command) (headers : Headers) {start : Nat}
    (within : start ≤ buffer.length) :
    Follows buffer (headersAt buffer command headers start)
      (readHeaders command headers (buffer.drop start)) := by
  generalize same : buffer.drop start = bytes
  fun_induction readHeaders command headers bytes generalizing start with
  | case1 headers bytes open' =>
    rw [headersAt, lineAt_of_none within (same ▸ open')]
    rfl
  | case2 headers bytes line rest cut blank =>
    obtain ⟨next, within', scanned, rfl⟩ := lineAt_of_some within held (same ▸ cut)
    rw [headersAt, scanned]
    simp only [blank, if_true]
    exact ⟨next, within', rfl, rfl⟩
  | case3 headers bytes line rest cut nonblank fault wrong =>
    obtain ⟨next, within', scanned, rfl⟩ := lineAt_of_some within held (same ▸ cut)
    rw [headersAt, scanned]
    simp only [nonblank, wrong, Bool.false_eq_true, if_false]
    rfl
  | case4 headers bytes line rest cut nonblank name value header step =>
    obtain ⟨next, within', scanned, rfl⟩ := lineAt_of_some within held (same ▸ cut)
    rw [headersAt, scanned]
    simp only [nonblank, header, Bool.false_eq_true, if_false]
    exact step within' rfl

/-- A body and its end between two places are read from the first place on. -/
theorem bodyBetween_eq {start : Nat} {body back : List UInt8} (within : start ≤ buffer.length)
    (tail : buffer.drop start = body ++ terminator :: back) :
    ∃ place ≤ buffer.length,
      bodyBetween buffer start (start + body.length) = .ok (.done body place) ∧
        back = buffer.drop place := by
  obtain ⟨inside, behind⟩ := behind_byte within tail
  refine ⟨start + body.length + 1, inside, ?_, behind⟩
  rw [bodyBetween, slice_of_drop within tail, ok_bind, plus_eq (by omega), ok_bind]

theorem bodyAt_follows (headers : Headers) {start : Nat} (within : start ≤ buffer.length) :
    Follows buffer (bodyAt buffer headers start) (readBody headers (buffer.drop start)) := by
  unfold bodyAt readBody
  cases headers.get? Header.contentLength with
  | none =>
    dsimp only
    rw [slice_to_end within, ok_bind]
    by_cases ended : terminator ∈ buffer.drop start
    · obtain ⟨body, back, tail, unbroken⟩ := List.eq_append_cons_of_mem ended
      obtain ⟨dropped, taken⟩ := cut_at unbroken back
      obtain ⟨inside, -⟩ := behind_byte within tail
      rw [tail, findIdx?_behind unbroken, dropped, taken]
      dsimp only
      rw [plus_eq (by omega), ok_bind]
      exact bodyBetween_eq held within tail
    · rw [findIdx?_of_not_mem ended, dropWhile_of_not_mem ended]
      rfl
  | some declared =>
    dsimp only
    cases counted : read? wordBound (Text.trim declared) with
    | none => rfl
    | some length =>
      dsimp only
      rw [List.drop_drop]
      by_cases inside : start + length < buffer.length
      · have stop : saturatingPlus start length = start + length := by
          rw [saturatingPlus]
          omega
        have byte : byteAt buffer (start + length) = .ok buffer[start + length] := by
          rw [byteAt, List.getElem?_eq_getElem inside]
        rw [stop, if_neg (by omega), byte, ok_bind, List.drop_eq_getElem_cons inside]
        dsimp only
        split
        · rename_i ends
          obtain ⟨long, tail⟩ := drop_cut inside
          have between := bodyBetween_eq held within (ends ▸ tail)
          rwa [long] at between
        · rfl
      · -- The sum may be cut at the largest word, which is behind the buffer all the same.
        have stop : buffer.length ≤ saturatingPlus start length := by
          rw [saturatingPlus]
          omega
        rw [if_pos stop, List.drop_eq_nil_of_le (by omega)]
        rfl

theorem frameAt_follows : Follows buffer (frameAt buffer) (readFrame buffer) := by
  refine (commandAt_follows held).andThen fun command place within => ?_
  refine (headersAt_follows held command .empty within).andThen fun headers place within => ?_
  refine (bodyAt_follows held headers within).andThen fun body place within => ?_
  exact ⟨place, within, rfl, rfl⟩

omit held in
theorem errorAt_eq (fault : Fault) :
    errorAt buffer fault = .ok ⟨fault, buffer.take shownBytes⟩ := by
  have shown : slice buffer 0 (min buffer.length shownBytes) = .ok (buffer.take shownBytes) := by
    refine slice_eq_ok_iff.mpr ⟨⟨Nat.zero_le _, Nat.min_le_left _ _⟩, ?_⟩
    rw [List.drop_zero, Nat.sub_zero, Nat.min_comm, List.take_eq_take_min]
  rw [errorAt, shown, ok_bind]

omit held in
theorem advance_eq {place : Nat} (within : place ≤ buffer.length) :
    advance buffer place = .ok (buffer.drop place) :=
  if_pos within

/-- Behind anything but a heartbeat, a scan of the frame decides. -/
theorem decodeInPlace_of_begun (limit : Nat)
    (begun : ∀ byte ∈ buffer.head?, byte ∉ [lineFeed, carriageReturn, terminator])
    (nonempty : buffer ≠ []) :
    decodeInPlace buffer limit =
      .ok ((Decoder.next ⟨buffer, limit⟩).1, (Decoder.next ⟨buffer, limit⟩).2.buffer) := by
  obtain ⟨first, rest, rfl⟩ := List.exists_cons_of_ne_nil nonempty
  have first' := begun first rfl
  simp only [List.mem_cons, List.not_mem_nil, or_false, not_or] at first'
  obtain ⟨noFeed, noReturn, noEnd⟩ := first'
  have follows := frameAt_follows held
  have decoded := decode_of_begun begun limit
  unfold decodeInPlace Decoder.next
  simp only [List.getElem?_cons_zero, noFeed, noReturn, noEnd, or_self, if_false]
  cases read : readFrame (first :: rest) with
  | done frame left =>
    rw [read] at follows
    rw [read, if_neg (by simp)] at decoded
    obtain ⟨place, within, scanned, rfl⟩ := follows
    rw [scanned, ok_bind, decoded]
    dsimp only
    rw [advance_eq within, ok_bind]
  | more =>
    rw [read] at follows decoded
    rw [show frameAt (first :: rest) = .ok .more from follows, ok_bind, decoded]
    dsimp only
    by_cases large : limit < (first :: rest).length
    · rw [if_pos large, if_pos ⟨rfl, large⟩, errorAt_eq, ok_bind]
    · rw [if_neg large, if_neg (fun both => large both.2)]
  | failed fault =>
    rw [read] at follows
    rw [read, if_neg (by simp)] at decoded
    rw [show frameAt (first :: rest) = .ok (.failed fault) from follows, ok_bind, decoded]
    dsimp only
    rw [errorAt_eq, ok_bind]

/-- **No step of decoding in place is impossible**, and what comes out is what the decoder gives. -/
theorem decodeInPlace_eq (limit : Nat) :
    decodeInPlace buffer limit =
      .ok ((Decoder.next ⟨buffer, limit⟩).1, (Decoder.next ⟨buffer, limit⟩).2.buffer) := by
  by_cases begun : ∀ byte ∈ buffer.head?, byte ∉ [lineFeed, carriageReturn, terminator]
  · by_cases empty : buffer = []
    · subst empty
      rfl
    · exact decodeInPlace_of_begun held limit begun empty
  cases buffer with
  | nil => simp at begun
  | cons first rest =>
    have first' : first ∈ [lineFeed, carriageReturn, terminator] := by
      by_contra other
      exact begun fun byte member => Option.some.inj member ▸ other
    simp only [List.mem_cons, List.not_mem_nil, or_false] at first'
    rcases first' with rfl | rfl | rfl
    · rfl
    · cases rest with
      | nil => rfl
      | cons second rest =>
        by_cases feeds : second = lineFeed
        · subst feeds
          rfl
        · have noBeat : ¬ (carriageReturn = lineFeed ∨ carriageReturn = terminator) := by decide
          have decoded : decode limit (carriageReturn :: second :: rest) =
              .failed .emptyCommand := by
            simp only [decode, decodeUnbounded, noBeat, feeds, if_false, if_true]
          have shown := @errorAt_eq (carriageReturn :: second :: rest) .emptyCommand
          simp only [decodeInPlace, Decoder.next, decoded, List.getElem?_cons_zero,
            List.getElem?_cons_succ, noBeat, feeds, if_false, if_true, shown, ok_bind]
    · rfl

end

/-! ### What a decoder takes -/

theorem Spells.ne_nil {taken : List UInt8} {frame : Frame} (spells : Spells taken frame) :
    taken ≠ [] := by
  rcases spells with ⟨-, isBeat⟩ | ⟨head, isOf, rfl⟩
  · cases isBeat <;> simp
  · simp

namespace Decoder

/-- **A decoder takes the bytes of a frame**, whatever stands behind them and whatever its limit. -/
theorem next_eq_frame_iff {decoder after : Decoder} {frame : Frame} :
    decoder.next = (.ok (some frame), after) ↔
      ∃ taken, Spells taken frame ∧ decoder.buffer = taken ++ after.buffer ∧
        after.limit = decoder.limit := by
  constructor
  · intro found
    unfold next at found
    split at found <;> cases found
    rename_i rest decoded
    obtain ⟨taken, spells, parts⟩ := decode_eq_done_iff.mp decoded
    exact ⟨taken, spells, parts, rfl⟩
  · rintro ⟨taken, spells, parts, limit⟩
    have decoded : decode decoder.limit decoder.buffer = .done frame after.buffer :=
      decode_eq_done_iff.mpr ⟨taken, spells, parts⟩
    unfold next
    rw [decoded, ← limit]

/-- A decoder that gives no frame is left as it is. -/
theorem next_of_no_frame {decoder : Decoder}
    (noFrame : ∀ frame, decoder.next.1 ≠ .ok (some frame)) : decoder.next.2 = decoder := by
  unfold next at noFrame ⊢
  split
  · rename_i frame rest decoded
    rw [decoded] at noFrame
    exact absurd rfl (noFrame frame)
  · rfl
  · rfl

/-- There are no more frames than bytes that they take. -/
theorem length_of_take? {count : Nat} {decoder last : Decoder} {frames : List Frame}
    (taken : take? count decoder = some (frames, last)) :
    count + last.buffer.length ≤ decoder.buffer.length := by
  induction count generalizing decoder frames with
  | zero =>
    cases taken
    simp
  | succ count step =>
    unfold take? at taken
    split at taken
    · rename_i frame after found
      obtain ⟨⟨later, last'⟩, rest, same⟩ := Option.map_eq_some_iff.mp taken
      cases same
      have shorter := next_buffer_lt found
      have := step rest
      omega
    · cases taken

/-- Looking a decoder through takes frames until none is left. -/
theorem take?_drain (decoder : Decoder) :
    take? decoder.drain.1.length decoder = some (decoder.drain.1, decoder.drain.2.2) ∧
      ∀ frame, decoder.drain.2.2.next.1 ≠ .ok (some frame) := by
  fun_induction drain decoder with
  | case1 decoder frame after found later error last drained step =>
    rw [drained] at step
    refine ⟨?_, step.2⟩
    rw [List.length_cons, take?, found]
    dsimp only
    rw [step.1, Option.map_some]
  | case2 decoder after found =>
    obtain rfl : after = decoder := by
      have kept := @next_of_no_frame decoder (by simp [found])
      rwa [found] at kept
    exact ⟨rfl, by simp [found]⟩
  | case3 decoder error after found =>
    obtain rfl := next_fault found
    exact ⟨rfl, by simp [found]⟩

/-- **Decoding is atomic, safe and gets on.** In a buffer whose bytes a word can count, no step of
decoding is impossible. A decoder that gives no frame is left as it is; one that gives a frame loses
bytes at its front and nothing else, and which they are does not hang on what stands behind them or
on the limit. So frames are taken at most as often as there are bytes, and then none is left. -/
theorem decoding_is_atomic (decoder : Decoder) :
    (decoder.buffer.length < wordBound →
        decodeInPlace decoder.buffer decoder.limit =
          .ok (decoder.next.1, decoder.next.2.buffer)) ∧
      ((∀ frame, decoder.next.1 ≠ .ok (some frame)) → decoder.next.2 = decoder) ∧
      (∀ frame, decoder.next.1 = .ok (some frame) →
        decoder.next.2.limit = decoder.limit ∧
          ∃ taken ≠ [], decoder.buffer = taken ++ decoder.next.2.buffer ∧
            ∀ limit behind, next ⟨taken ++ behind, limit⟩ = (.ok (some frame), ⟨behind, limit⟩)) ∧
      (∀ count frames last, take? count decoder = some (frames, last) →
        count + last.buffer.length ≤ decoder.buffer.length) ∧
      take? decoder.drain.1.length decoder = some (decoder.drain.1, decoder.drain.2.2) ∧
      ∀ frame, decoder.drain.2.2.next.1 ≠ .ok (some frame) := by
  refine ⟨fun held => decodeInPlace_eq held decoder.limit, next_of_no_frame, fun frame found => ?_,
    fun count frames last => length_of_take?, take?_drain decoder⟩
  obtain ⟨taken, spells, parts, limit⟩ := next_eq_frame_iff.mp (Prod.ext found rfl)
  exact ⟨limit, taken, spells.ne_nil, parts, fun limit behind =>
    next_eq_frame_iff.mpr ⟨taken, spells, rfl, rfl⟩⟩

/-- A heartbeat is taken from before a frame with the largest length that a word holds; then there
is nothing to take, and no place is counted beyond the words. -/
theorem largest_length_waits :
    let waiting : Decoder :=
      ⟨Text.toBytes "SEND\ncontent-length:18446744073709551615\n\nx\x00", 64⟩
    let beaten : Decoder := ⟨[carriageReturn, lineFeed] ++ waiting.buffer, 64⟩
    waiting.buffer.length < wordBound ∧
      decodeInPlace waiting.buffer 64 = .ok (.ok none, waiting.buffer) ∧
      waiting.next.2 = waiting ∧
      (∃ taken ≠ [], beaten.buffer = taken ++ waiting.buffer ∧
        ∀ limit behind,
          next ⟨taken ++ behind, limit⟩ = (.ok (some .heartbeat), ⟨behind, limit⟩)) ∧
      1 + waiting.buffer.length ≤ beaten.buffer.length := by
  intro waiting beaten
  have waits : waiting.next = (.ok none, waiting) := by
    have decoded : decode waiting.limit waiting.buffer = .more := by decide +kernel
    rw [next, decoded]
  have beats : beaten.next = (.ok (some .heartbeat), waiting) := rfl
  have held : waiting.buffer.length < wordBound := by decide
  obtain ⟨safe, kept, -⟩ := decoding_is_atomic waiting
  obtain ⟨-, -, taken, counted, -⟩ := decoding_is_atomic beaten
  have stays := safe held
  obtain ⟨-, first⟩ := taken .heartbeat (by rw [beats])
  rw [waits] at stays
  rw [beats] at first
  exact ⟨held, stays, kept (by simp [waits]), first,
    counted 1 [.heartbeat] waiting (by rw [take?, beats]; rfl)⟩

end Decoder

end EventFeed.Wire
