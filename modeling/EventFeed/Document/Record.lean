/-
**Records of texts.**

A consumer often wants a payload as a record with a few named fields that are all texts. An object
is such a record if it has each field, once, as a text; its other members are passed over by their
form alone. A list is one if its items are the fields in order and nothing else.

* `ofValue_object`: a value that is read already is a record by its members.
-/

import EventFeed.Document.Reader

namespace EventFeed.Document.Record

/-- The fields found so far, with their texts. -/
abbrev Found := List (String × String)

/-- The texts of the named fields in order, if none is missing. -/
def inOrder (names : List String) (found : Found) : Option (List String) :=
  names.mapM fun name => (found.find? fun field => field.1 = name).map Prod.snd

/-- The text that tokens begin with, and the tokens after it. -/
def takeText : List Token → Option (String × List Token)
  | .text (.ok text) _ :: rest => some (text, rest)
  | _ => none

/-- The texts that are the items of a list from its opening on, if there are `count` of them and
nothing follows the list. -/
def items : Nat → List Token → Option (List String)
  | 0, [.closeList, .finish] => some []
  | 0, _ => none
  | 1, found => do
    let (text, rest) ← takeText found
    (items 0 rest).map (text :: ·)
  | count + 1, found => do
    let (text, rest) ← takeText found
    match rest with
    | .comma :: rest => (items count rest).map (text :: ·)
    | _ => none

/-- A member of an object: the fields found with it, and the tokens after it. -/
def member (names : List String) (found : Found) :
    List Token → Option (Found × List Token)
  | .text (.ok key) _ :: .colon :: rest =>
    if names.contains key then
      if found.any (·.1 = key) then none
      else (takeText rest).map fun (text, rest) => ((key, text) :: found, rest)
    else
      match readTokens .formOnly rest with
      | .ok (_, rest) => some (found, rest)
      | .error _ => none
  | _ => none

/-- The fields among the members of an object, from a key on to the end of the bytes. The number of
members is bounded by `fuel`. -/
def members (names : List String) : Nat → Found → List Token → Option Found
  | 0, _, _ => none
  | fuel + 1, found, tokens => do
    let (found, rest) ← member names found tokens
    match rest with
    | .comma :: rest => members names fuel found rest
    | [.closeObject, .finish] => some found
    | _ => none

/-- The texts of the named fields, in order, if the bytes are a record of them. -/
def read (names : List String) (bytes : List UInt8) : Option (List String) :=
  match tokens bytes with
  | .openList :: rest => items names.length rest
  | [.openObject, .closeObject, .finish] => inOrder names []
  | .openObject :: rest => do
    let found ← members names rest.length [] rest
    inOrder names found
  | _ => none

/-- The texts of the named fields, in order, if the value is a record of them. -/
def ofValue (names : List String) : Value → Option (List String)
  | .list values =>
    if values.length = names.length then values.mapM Value.text? else none
  | value => names.mapM fun name => (value.member? name).bind Value.text?

/-- A value that is read already is a record by its members. -/
theorem ofValue_object (names : List String) (members : List (String × Value)) :
    ofValue names (.object members) =
      names.mapM fun name => ((Value.object members).member? name).bind Value.text? :=
  rfl

end EventFeed.Document.Record
