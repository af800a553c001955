/-
**Reading JSON values.**

The reader keeps a stack of the lists and objects that are open and what it expects next, and takes
one token at a time, so reading is a fold over the tokens. At most 127 lists and objects are open at
once. Of members with one key the last counts.

A value can also be passed over: then only the form of its tokens is looked at, not what texts and
numbers are worth nor how deep it nests.

* `continueValue_suffix`, `readTokens_rest_lt`: what is left after a value is a tail of the tokens,
  and not all of them.
-/

import EventFeed.Document.Token

namespace EventFeed.Document

/-- How closely a value is looked at. -/
inductive Rigour where
  | full
  | formOnly
  deriving DecidableEq, Repr

/-- A list or an object that is not closed yet: the items so far, the latest first, or the members
so far with the key of the next. -/
inductive Opened where
  | list (items : List Value)
  | object (members : List (String × Value)) (key : String)

/-- What may come next. -/
inductive Expected where
  | value
  | firstItem
  | afterItem
  | firstKey
  | key
  | colon
  deriving DecidableEq, Repr

/-- A value that is not read to its end. -/
structure Unfinished where
  expected : Expected
  opened : List Opened

/-- The most lists and objects that are open at once. -/
def depthLimit : Nat := 127

/-- One step: the value goes on, or it is complete. -/
inductive Progress where
  | more (state : Unfinished)
  | complete (value : Value)

/-- A value is there: it goes into the innermost list or object, or it is the whole. -/
def place (value : Value) : List Opened → Progress
  | [] => .complete value
  | .list items :: opened => .more ⟨.afterItem, .list (value :: items) :: opened⟩
  | .object members key :: opened =>
    .more ⟨.afterItem, .object (putMember key value members) key :: opened⟩

def enter (rigour : Rigour) (expected : Expected) (fresh : Opened) (opened : List Opened) :
    Except ReadError Progress :=
  if rigour = .full ∧ depthLimit ≤ opened.length then .error .malformed
  else .ok (.more ⟨expected, fresh :: opened⟩)

def beginValue (rigour : Rigour) (opened : List Opened) : Token → Except ReadError Progress
  | .openList => enter rigour .firstItem (.list []) opened
  | .openObject => enter rigour .firstKey (.object [] "") opened
  | .text content closed =>
    match rigour, closed with
    | .formOnly, true => .ok (place .null opened)
    | _, _ => content.map fun text => place (.text text) opened
  | .scalar value formed =>
    match rigour, formed with
    | .formOnly, true => .ok (place .null opened)
    | _, _ => value.map (place · opened)
  | .finish => .error .cutShort
  | _ => .error .malformed

/-- A key stands at the token, which belongs to the innermost object. -/
def beginMember (rigour : Rigour) (opened : List Opened) : Token → Except ReadError Progress
  | .text content closed =>
    match opened with
    | .object members _ :: outer =>
      match rigour, closed with
      | .formOnly, true => .ok (.more ⟨.colon, .object members "" :: outer⟩)
      | _, _ => content.map fun key => .more ⟨.colon, .object members key :: outer⟩
    | _ => .error .malformed
  | .finish => .error .cutShort
  | _ => .error .malformed

/-- What a token does to an unfinished value. -/
def advance (rigour : Rigour) (state : Unfinished) (token : Token) : Except ReadError Progress :=
  match state.expected, token, state.opened with
  | .firstItem, .closeList, .list items :: opened => .ok (place (.list items.reverse) opened)
  | .afterItem, .closeList, .list items :: opened => .ok (place (.list items.reverse) opened)
  | .afterItem, .comma, .list items :: opened => .ok (.more ⟨.value, .list items :: opened⟩)
  | .afterItem, .comma, .object members key :: opened =>
    .ok (.more ⟨.key, .object members key :: opened⟩)
  | .afterItem, .closeObject, .object members _ :: opened => .ok (place (.object members) opened)
  | .firstKey, .closeObject, .object members _ :: opened => .ok (place (.object members) opened)
  | .colon, .colon, opened => .ok (.more ⟨.value, opened⟩)
  | .value, token, opened => beginValue rigour opened token
  | .firstItem, token, opened => beginValue rigour opened token
  | .firstKey, token, opened => beginMember rigour opened token
  | .key, token, opened => beginMember rigour opened token
  | _, .finish, _ => .error .cutShort
  | _, _, _ => .error .malformed

/-- The value that goes on with the tokens, and the tokens after it. -/
def continueValue (rigour : Rigour) :
    Unfinished → List Token → Except ReadError (Value × List Token)
  | _, [] => .error .cutShort
  | state, token :: rest => do
    match ← advance rigour state token with
    | .complete value => .ok (value, rest)
    | .more state => continueValue rigour state rest

/-- The value that the tokens begin with, and the tokens after it. -/
def readTokens (rigour : Rigour) (found : List Token) : Except ReadError (Value × List Token) :=
  continueValue rigour ⟨.value, []⟩ found

def read (bytes : List UInt8) : Except ReadError Value := do
  match ← readTokens .full (tokens bytes) with
  | (value, [.finish]) => .ok value
  | _ => .error .malformed

/-- What is left after a value is a tail of the tokens. -/
theorem continueValue_suffix {rigour : Rigour} {state : Unfinished} {found rest : List Token}
    {value : Value} (readOk : continueValue rigour state found = .ok (value, rest)) :
    rest <:+ found := by
  induction found generalizing state with
  | nil => simp [continueValue] at readOk
  | cons token tail step =>
    rw [continueValue] at readOk
    cases moved : advance rigour state token with
    | error error => simp [moved, bind, Except.bind] at readOk
    | ok progress =>
      cases progress with
      | complete whole =>
        simp only [moved, bind, Except.bind, Except.ok.injEq, Prod.mk.injEq] at readOk
        obtain ⟨-, rfl⟩ := readOk
        exact List.suffix_cons token tail
      | more next =>
        simp only [moved, bind, Except.bind] at readOk
        exact (step readOk).trans (List.suffix_cons token tail)

theorem readTokens_rest_lt {rigour : Rigour} {found rest : List Token} {value : Value}
    (readOk : readTokens rigour found = .ok (value, rest)) : rest.length < found.length := by
  unfold readTokens at readOk
  cases found with
  | nil => simp [continueValue] at readOk
  | cons token tail =>
    rw [continueValue] at readOk
    cases moved : advance rigour ⟨.value, []⟩ token with
    | error error => simp [moved, bind, Except.bind] at readOk
    | ok progress =>
      cases progress with
      | complete whole =>
        simp only [moved, bind, Except.bind, Except.ok.injEq, Prod.mk.injEq] at readOk
        obtain ⟨-, rfl⟩ := readOk
        simp
      | more next =>
        simp only [moved, bind, Except.bind] at readOk
        have := (continueValue_suffix readOk).length_le
        simp only [List.length_cons]
        omega

end EventFeed.Document
