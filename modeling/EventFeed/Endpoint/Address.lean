/-
**The form of an address.**

An address is a scheme with `://` behind it, an authority, and a path with query and fragment; or an
authority alone; or a path alone. The authority runs to the first slash, question mark or number
sign. It may name a user before an at sign; the host follows, in brackets if it has colons of its
own, and then at most one colon with a port. Percent signs belong to the user's name or stand within
the brackets.

* `splitAuthority_append`: cutting the authority off loses nothing.
-/

namespace EventFeed.Endpoint

/-- The longest address that is read, in bytes. -/
def longestAddress : Nat := 65534

/-- The longest scheme that is read, in bytes. -/
def longestScheme : Nat := 64

/-- The most colons that an authority may have before a bracket or an at sign clears the count. -/
def mostColons : Nat := 8

def isAlphanumeric (byte : UInt8) : Bool :=
  (0x30 ≤ byte && byte ≤ 0x39) || (0x41 ≤ byte && byte ≤ 0x5A) || (0x61 ≤ byte && byte ≤ 0x7A)

def ascii (char : Char) : UInt8 :=
  char.toNat.toUInt8

/-- Whether a byte is one of the given ASCII characters. -/
def isOneOf (chars : String) (byte : UInt8) : Bool :=
  chars.toList.any fun char => ascii char = byte

def isSchemeByte (byte : UInt8) : Bool :=
  isAlphanumeric byte || isOneOf "+-.~" byte

/-- Whether a byte may stand in an authority; the percent sign may in places. -/
def isAuthorityByte (byte : UInt8) : Bool :=
  isAlphanumeric byte || isOneOf "!$&'()*+,-.:;=@[]_~%" byte

def endsAuthority (byte : UInt8) : Bool :=
  isOneOf "/?#" byte

def isPathByte (byte : UInt8) : Bool :=
  byte = 0x21 || (0x24 ≤ byte && byte ≤ 0x3B) || byte = 0x3D || (0x40 ≤ byte && byte ≤ 0x5F) ||
    (0x61 ≤ byte && byte ≤ 0x7A) || isOneOf "|~\"\x7b\x7d" byte || 0x80 ≤ byte

def isQueryByte (byte : UInt8) : Bool :=
  byte = 0x21 || (0x24 ≤ byte && byte ≤ 0x3B) || byte = 0x3D || (0x3F ≤ byte && byte ≤ 0x7E) ||
    0x80 ≤ byte

/-- What is kept of an authority while it is looked through: the colons since the last at sign or
closing bracket, the brackets, and whether a percent sign has come since. -/
structure Scan where
  colons : Nat
  opened : Bool
  closed : Bool
  percent : Bool
  deriving DecidableEq, Repr

namespace Scan

def start : Scan := ⟨0, false, false, false⟩

/-- One byte of the authority; none if it may not stand there. -/
def step (scan : Scan) (byte : UInt8) : Option Scan :=
  if byte = ascii ':' then
    if mostColons ≤ scan.colons then none else some { scan with colons := scan.colons + 1 }
  else if byte = ascii '[' then
    if scan.percent || scan.opened then none else some { scan with opened := true }
  else if byte = ascii ']' then
    if !scan.opened || scan.closed then none
    else some { scan with closed := true, colons := 0, percent := false }
  else if byte = ascii '@' then some { scan with colons := 0, percent := false }
  else if byte = ascii '%' then some { scan with percent := true }
  else if isAuthorityByte byte then some scan
  else none

def mayEnd (scan : Scan) : Bool :=
  scan.opened = scan.closed && scan.colons ≤ 1 && !scan.percent

end Scan

/-- The authority that bytes begin with, and what follows it; none if it breaks a rule. -/
def splitAuthority (bytes : List UInt8) : Option (List UInt8 × List UInt8) := do
  let found := bytes.takeWhile fun byte => !endsAuthority byte
  let rest := bytes.dropWhile fun byte => !endsAuthority byte
  let scan ← found.foldlM Scan.step .start
  if scan.mayEnd ∧ found.getLast? ≠ some (ascii '@') then some (found, rest) else none

theorem splitAuthority_append {bytes found rest : List UInt8}
    (cut : splitAuthority bytes = some (found, rest)) : found ++ rest = bytes := by
  have parts := List.takeWhile_append_dropWhile (p := fun byte => !endsAuthority byte) (l := bytes)
  simp only [splitAuthority, Option.bind_eq_bind, Option.bind_eq_some_iff] at cut
  obtain ⟨scan, -, cut⟩ := cut
  split at cut
  · cases cut
    exact parts
  · cases cut

/-- Whether the bytes are a query and a fragment, from behind the question mark on. -/
def isQuery (bytes : List UInt8) : Bool :=
  (bytes.takeWhile (· ≠ ascii '#')).all isQueryByte

/-- Whether the bytes are a path with query and fragment. -/
def isPath (bytes : List UInt8) : Bool :=
  let path := bytes.takeWhile fun byte => !isOneOf "?#" byte
  let rest := bytes.dropWhile fun byte => !isOneOf "?#" byte
  path.all isPathByte &&
    match rest with
    | [] => true
    | byte :: rest => byte = ascii '#' || isQuery rest

def lower (byte : UInt8) : UInt8 :=
  if 0x41 ≤ byte ∧ byte ≤ 0x5A then byte + 0x20 else byte

/-- What stands between a scheme and its authority. -/
def schemeMark : List UInt8 := [ascii ':', ascii '/', ascii '/']

/-- The schemes that are known in capital letters too. -/
def webSchemes : List (List UInt8) :=
  ["http", "https"].map fun name => name.toList.map ascii

/-- Whether bytes begin with a scheme and its mark, in small letters or capital ones. -/
def beginsWithScheme (bytes name : List UInt8) : Bool :=
  (bytes.take (name.length + 3)).map lower = name ++ schemeMark

/-- The scheme that bytes begin with, and what follows its mark: none if there is none, and an outer
none if it is too long. -/
def splitScheme (bytes : List UInt8) : Option (Option (List UInt8) × List UInt8) :=
  match webSchemes.find? (beginsWithScheme bytes) with
  | some name => some (some name, bytes.drop (name.length + 3))
  | none =>
    let name := bytes.takeWhile isSchemeByte
    let rest := bytes.dropWhile isSchemeByte
    if 3 < bytes.length ∧ rest.take 3 = schemeMark then
      if longestScheme < name.length then none else some (some name, rest.drop 3)
    else some (none, bytes)

/-- The host that an authority names: what follows the last at sign, up to its closing bracket or
else up to the first colon. -/
def hostOf (found : List UInt8) : List UInt8 :=
  let named := (found.reverse.takeWhile (· ≠ ascii '@')).reverse
  if named.head? = some (ascii '[') then
    named.takeWhile (· ≠ ascii ']') ++ [ascii ']']
  else named.takeWhile (· ≠ ascii ':')

/-- An address: its scheme and its host, as far as it names them. -/
structure Address where
  scheme : Option (List UInt8)
  host : List UInt8
  deriving DecidableEq, Repr

namespace Address

def ofAuthority? (bytes : List UInt8) : Option Address :=
  match splitAuthority bytes with
  | some (found, []) => some ⟨none, hostOf found⟩
  | _ => none

/-- The address of bytes that are more than a path. -/
def ofFull? (bytes : List UInt8) : Option Address :=
  match splitScheme bytes with
  | none => none
  | some (none, rest) => ofAuthority? rest
  | some (some name, rest) =>
    match splitAuthority rest with
    | none | some ([], _) => none
    | some (found, path) => if isPath path then some ⟨some name, hostOf found⟩ else none

def ofBytes? (bytes : List UInt8) : Option Address :=
  if longestAddress < bytes.length then none
  else match bytes with
  | [] => none
  | [byte] => if isOneOf "/*" byte then some ⟨none, []⟩ else ofAuthority? [byte]
  | first :: rest =>
    if first = ascii '/' then if isPath (first :: rest) then some ⟨none, []⟩ else none
    else ofFull? (first :: rest)

end Address

end EventFeed.Endpoint
