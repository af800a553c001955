/-
**JSON values.**

The values that event payloads are made of. A number is an integer as long as it fits 64 bits, with
or without a sign, and a double otherwise. An object keeps its members in the order of their keys,
each key once: `putMember` puts a member in its place and takes the place of one with the same key.

* `keys_putMember`: after a member is put, its key is among the keys, and no other key is gained or
  lost.
-/

import EventFeed.Numeral.Shortest

namespace EventFeed.Document

open EventFeed.Numeral

inductive Value where
  | null
  | boolean (value : Bool)
  | integer (value : Int)
  | real (value : Binary64)
  | text (value : String)
  | list (items : List Value)
  | object (members : List (String × Value))
  deriving Inhabited

/-- The members of an object with one more member, in the order of their keys; the new member takes
the place of one with the same key. -/
def putMember (key : String) (value : Value) :
    List (String × Value) → List (String × Value)
  | [] => [(key, value)]
  | (other, held) :: members =>
    if key = other then (key, value) :: members
    else if key < other then (key, value) :: (other, held) :: members
    else (other, held) :: putMember key value members

/-- Putting a member adds its key to the keys and changes no other. -/
theorem keys_putMember (key : String) (value : Value) (members : List (String × Value))
    (other : String) : other ∈ (putMember key value members).map Prod.fst ↔
      other = key ∨ other ∈ members.map Prod.fst := by
  induction members with
  | nil => simp [putMember]
  | cons member members step =>
    obtain ⟨held, kept⟩ := member
    by_cases same : key = held
    · subst same
      simp [putMember]
    · by_cases before : key < held
      · simp [putMember, same, before]
      · simp only [putMember, same, before, if_false, List.map_cons, List.mem_cons, step]
        constructor <;> rintro (found | found | found) <;> simp [found]

namespace Value

def member? (key : String) : Value → Option Value
  | .object members => (members.find? fun member => member.1 = key).map Prod.snd
  | _ => none

def isObject : Value → Bool
  | .object _ => true
  | _ => false

/-- The text that a value is, if it is one. -/
def text? : Value → Option String
  | .text value => some value
  | _ => none

end Value

end EventFeed.Document
