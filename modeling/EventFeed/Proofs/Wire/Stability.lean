/-
**Reading is stable under more bytes.**

A reader looks at the front of the bytes that have come so far and starts again from the front each
time. What it has settled, a value or a fault, must therefore not change when more bytes come
behind: only the wish for more bytes may. This is `Stable`, and it passes from the parts of a frame
to the whole of it:

* `Stable.andThen`: a stable reader followed by stable readers is stable;
* `stable_readCommand`, `stable_readHeaders`, `stable_readBody`: the parts of a frame;
* `stable_decodeUnbounded`: frames and heartbeats;
* `decode_eq`: a limit adds one fault and changes nothing else.
-/

import EventFeed.Wire.Decoder

namespace EventFeed.Wire

open EventFeed.Numeral

variable {α β : Type}

/-- What is read, with more bytes behind what is left. -/
def Reading.before (reading : Reading α) (more : List UInt8) : Reading α :=
  match reading with
  | .done value rest => .done value (rest ++ more)
  | .more => .more
  | .failed fault => .failed fault

/-- What a reader settles stays when more bytes come. -/
def Stable (read : List UInt8 → Reading α) : Prop :=
  ∀ bytes more, read bytes ≠ .more → read (bytes ++ more) = (read bytes).before more

/-- **A stable reader followed by stable readers is stable.** -/
theorem Stable.andThen {read : List UInt8 → Reading α} {next : α → List UInt8 → Reading β}
    (first : Stable read) (later : ∀ value, Stable (next value)) :
    Stable fun bytes => (read bytes).andThen next := by
  intro bytes more settled
  have begun : read bytes ≠ .more := by
    intro waits
    simp [waits, Reading.andThen] at settled
  have grown := first bytes more begun
  cases found : read bytes with
  | more => exact absurd found begun
  | failed fault =>
    rw [found] at grown
    simp only [grown, found, Reading.before, Reading.andThen]
  | done value rest =>
    rw [found] at grown
    simp only [found, Reading.andThen] at settled
    simp only [grown, found, Reading.before, Reading.andThen]
    exact later value rest more settled

/-! ### Cutting at a byte -/

/-- Bytes that hold the stop are cut at it, whatever comes behind. -/
theorem cut_append {stop byte : UInt8} {bytes rest : List UInt8}
    (cut : bytes.dropWhile (· ≠ stop) = byte :: rest) (more : List UInt8) :
    (bytes ++ more).dropWhile (· ≠ stop) = byte :: (rest ++ more) ∧
      (bytes ++ more).takeWhile (· ≠ stop) = bytes.takeWhile (· ≠ stop) := by
  refine ⟨by rw [List.dropWhile_append, cut]; rfl, ?_⟩
  have parts := congrArg List.length
    (List.takeWhile_append_dropWhile (p := (· ≠ stop)) (l := bytes))
  rw [List.length_append, cut, List.length_cons] at parts
  rw [List.takeWhile_append, if_neg (by omega)]

/-- A line that has its end is the first line, whatever comes behind. -/
theorem splitLine_append {bytes line rest : List UInt8}
    (found : splitLine bytes = some (line, rest)) (more : List UInt8) :
    splitLine (bytes ++ more) = some (line, rest ++ more) := by
  unfold splitLine at found ⊢
  cases cut : bytes.dropWhile (· ≠ lineFeed) with
  | nil =>
    rw [cut] at found
    cases found
  | cons byte tail =>
    obtain ⟨dropped, taken⟩ := cut_append cut more
    simp only [cut, Option.some.injEq, Prod.mk.injEq] at found
    obtain ⟨rfl, rfl⟩ := found
    simp only [dropped, taken]

/-! ### The parts of a frame -/

theorem stable_readCommand : Stable readCommand := by
  intro bytes more settled
  cases cut : splitLine bytes with
  | none => simp [readCommand, cut] at settled
  | some parts =>
    obtain ⟨line, rest⟩ := parts
    have grown := splitLine_append cut more
    simp only [readCommand, cut, grown]
    cases Text.ofBytes? line with
    | none => rfl
    | some token =>
      dsimp only
      split
      · rfl
      · cases Command.ofToken? token <;> rfl

theorem stable_readHeaders (command : Command) (headers : Headers) :
    Stable (readHeaders command headers) := by
  intro bytes more
  -- The recursion is on the rest of the bytes, and the headers grow with it.
  fun_induction readHeaders command headers bytes with
  | case1 headers bytes cut => exact fun settled => absurd rfl settled
  | case2 headers bytes line rest cut blank =>
    intro _
    rw [readHeaders, splitLine_append cut more]
    simp only [blank, if_true, Reading.before]
  | case3 headers bytes line rest cut written fault header =>
    intro _
    rw [readHeaders, splitLine_append cut more]
    simp only [written, header, Bool.false_eq_true, if_false, Reading.before]
  | case4 headers bytes line rest cut written name value header step =>
    intro settled
    rw [readHeaders, splitLine_append cut more]
    simp only [written, header, Bool.false_eq_true, if_false]
    exact step settled

theorem stable_readBody (headers : Headers) : Stable (readBody headers) := by
  intro bytes more settled
  unfold readBody at settled ⊢
  cases declared : headers.get? Header.contentLength with
  | none =>
    simp only [declared] at settled ⊢
    cases cut : bytes.dropWhile (· ≠ terminator) with
    | nil =>
      rw [cut] at settled
      exact absurd rfl settled
    | cons byte rest =>
      obtain ⟨dropped, taken⟩ := cut_append cut more
      simp only [dropped, taken, Reading.before]
  | some text =>
    simp only [declared] at settled ⊢
    cases counted : read? wordBound (Text.trim text) with
    | none => rfl
    | some length =>
      simp only [counted] at settled ⊢
      cases cut : bytes.drop length with
      | nil => simp [cut] at settled
      | cons byte rest =>
        have enough : length < bytes.length := by
          have count := congrArg List.length cut
          rw [List.length_drop, List.length_cons] at count
          omega
        have dropped : (bytes ++ more).drop length = byte :: (rest ++ more) := by
          rw [List.drop_append_of_le_length (Nat.le_of_lt enough), cut, List.cons_append]
        have taken : (bytes ++ more).take length = bytes.take length :=
          List.take_append_of_le_length (Nat.le_of_lt enough)
        simp only [dropped, taken]
        split <;> rfl

/-! ### Frames -/

theorem stable_readFrame : Stable readFrame := by
  refine Stable.andThen stable_readCommand fun command => ?_
  refine Stable.andThen (stable_readHeaders command .empty) fun headers => ?_
  exact Stable.andThen (stable_readBody headers) fun body bytes more _ => rfl

/-- **Whatever is decoded stays, and so does every fault.** -/
theorem stable_decodeUnbounded : Stable decodeUnbounded := by
  intro bytes more settled
  cases bytes with
  | nil => simp [decodeUnbounded] at settled
  | cons byte rest =>
    rw [List.cons_append]
    by_cases beats : byte = lineFeed ∨ byte = terminator
    · simp only [decodeUnbounded, beats, if_true, Reading.before]
    · by_cases returns : byte = carriageReturn
      · subst returns
        -- A lone carriage return waits for one byte, and that byte decides.
        cases rest with
        | nil => exact absurd rfl settled
        | cons next tail =>
          simp only [decodeUnbounded, beats, if_false, if_true, List.cons_append]
          split <;> rfl
      · simp only [decodeUnbounded, beats, if_false, returns] at settled ⊢
        exact stable_readFrame (byte :: rest) more settled

/-- **A limit adds one fault and changes nothing else.** -/
theorem decode_eq (limit : Nat) (bytes : List UInt8) :
    decode limit bytes = .failed (.tooLarge limit) ∨
      decode limit bytes = decodeUnbounded bytes := by
  unfold decode
  cases decodeUnbounded bytes with
  | done frame rest => exact .inr rfl
  | failed fault => exact .inr rfl
  | more =>
    dsimp only
    split
    · exact .inr rfl
    · split
      · exact .inl rfl
      · exact .inr rfl

end EventFeed.Wire
