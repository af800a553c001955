/-
**The greeting on the wire.**

The greeting is written as it is, so what the server reads depends on the texts in it. The host of
an endpoint has only the characters of an authority, and the heart-beats are digits and a comma;
only the credentials can be any texts.

* `isLine_host`: the host of an accepted endpoint keeps to its line;
* `pairs_greeting`: the headers of the greeting, in their order;
* `greeting_comes_back_iff`: the greeting comes back as it was exactly if neither the login nor the
  passcode has a line feed or ends with a carriage return.
-/

import EventFeed.Proofs.Numeral.Reading
import EventFeed.Proofs.Wire.Verbatim
import EventFeed.Session.Handshake

namespace EventFeed

open EventFeed.Wire (Decoder Frame HeartBeat IsTold)
open EventFeed.Numeral (decimal)

/-- Whether a header line that is written as it is keeps the text as its value. -/
def IsLine (text : String) : Prop :=
  '\n' ∉ text.toList ∧ text.toList.getLast? ≠ some '\r'

instance (text : String) : Decidable (IsLine text) :=
  inferInstanceAs (Decidable (_ ∧ _))

/-- A text with neither kind of line end is a line. -/
theorem isLine_of_no_end {text : String} (noFeed : '\n' ∉ text.toList)
    (noReturn : '\r' ∉ text.toList) : IsLine text :=
  ⟨noFeed, fun ends => noReturn (List.mem_of_getLast? ends)⟩

/-! ### The host -/

namespace Endpoint

theorem isAuthorityByte_of_step {scan after : Scan} {byte : UInt8}
    (passes : scan.step byte = some after) : isAuthorityByte byte = true := by
  unfold Scan.step at passes
  split at passes
  · subst byte
    decide
  · split at passes
    · subst byte
      decide
    · split at passes
      · subst byte
        decide
      · split at passes
        · subst byte
          decide
        · split at passes
          · subst byte
            decide
          · split at passes
            · assumption
            · cases passes

theorem isAuthorityByte_of_scan {scan last : Scan} {found : List UInt8}
    (passes : found.foldlM Scan.step scan = some last) :
    ∀ byte ∈ found, isAuthorityByte byte = true := by
  induction found generalizing scan with
  | nil => simp
  | cons first found step =>
    rw [List.foldlM_cons, Option.bind_eq_bind, Option.bind_eq_some_iff] at passes
    obtain ⟨after, now, later⟩ := passes
    intro byte member
    rcases List.mem_cons.mp member with rfl | member
    · exact isAuthorityByte_of_step now
    · exact step later byte member

theorem isAuthorityByte_of_splitAuthority {bytes found rest : List UInt8}
    (cut : splitAuthority bytes = some (found, rest)) :
    ∀ byte ∈ found, isAuthorityByte byte = true := by
  simp only [splitAuthority, Option.bind_eq_bind, Option.bind_eq_some_iff] at cut
  obtain ⟨scan, passes, cut⟩ := cut
  split at cut
  · cases cut
    exact isAuthorityByte_of_scan passes
  · cases cut

/-- The host is a part of the authority, but for the bracket that closes it. -/
theorem mem_hostOf {found : List UInt8} {byte : UInt8} (member : byte ∈ hostOf found) :
    byte ∈ found ∨ byte = ascii ']' := by
  have inside : ∀ {stop : UInt8 → Bool},
      byte ∈ (found.reverse.takeWhile (· ≠ ascii '@')).reverse.takeWhile stop → byte ∈ found :=
    fun member => List.mem_reverse.mp <| (List.takeWhile_subset _) <| List.mem_reverse.mp <|
      (List.takeWhile_subset _) member
  unfold hostOf at member
  dsimp only at member
  split at member
  · rcases List.mem_append.mp member with member | last
    · exact .inl (inside member)
    · exact .inr (List.mem_singleton.mp last)
  · exact .inl (inside member)

/-- An address that names its scheme has a host made of the bytes of an authority. -/
theorem isAuthorityByte_host {bytes : List UInt8} {address : Address} {scheme : List UInt8}
    (read : Address.ofBytes? bytes = some address) (named : address.scheme = some scheme) :
    ∀ byte ∈ address.host, isAuthorityByte byte = true := by
  have schemeless : ∀ {bytes : List UInt8}, Address.ofAuthority? bytes ≠ some address := by
    intro bytes alone
    unfold Address.ofAuthority? at alone
    split at alone <;> cases alone
    cases named
  have full : ∀ {bytes : List UInt8}, Address.ofFull? bytes = some address →
      ∀ byte ∈ address.host, isAuthorityByte byte = true := by
    intro bytes whole
    unfold Address.ofFull? at whole
    split at whole
    · cases whole
    · exact absurd whole schemeless
    · split at whole
      · cases whole
      · cases whole
      · rename_i found path _ cut
        split at whole
        · cases whole
          intro byte member
          rcases mem_hostOf member with inside | rfl
          · exact isAuthorityByte_of_splitAuthority cut byte inside
          · decide
        · cases whole
  unfold Address.ofBytes? at read
  split at read
  · cases read
  · split at read
    · cases read
    · split at read
      · cases read
        cases named
      · exact absurd read schemeless
    · split at read
      · split at read
        · cases read
          cases named
        · cases read
      · exact full read

/-- A byte of an authority is a character of its own, and a visible one. -/
theorem visible_of_isAuthorityByte {byte : UInt8} (allowed : isAuthorityByte byte = true) :
    byte < 0x80 ∧ 0x20 < (Char.ofNat byte.toNat).toNat := by
  have each : ∀ number < 256, isAuthorityByte (UInt8.ofNat number) = true →
      UInt8.ofNat number < 0x80 ∧ 0x20 < (Char.ofNat (UInt8.ofNat number).toNat).toNat := by
    decide +kernel
  have whole := each byte.toNat byte.toNat_lt
  rw [UInt8.ofNat_toNat] at whole
  exact whole allowed

/-- **The host of an accepted endpoint keeps to its line.** -/
theorem isLine_host {url : String} {endpoint : Endpoint}
    (accepted : Endpoint.ofText? url = .ok endpoint) : IsLine endpoint.host := by
  unfold ofText? at accepted
  split at accepted
  · cases accepted
  rename_i address read
  split at accepted
  · cases accepted
  rename_i scheme named
  split at accepted
  · cases accepted
  split at accepted
  · cases accepted
  cases accepted
  have allowed := isAuthorityByte_host read named
  have chars := Text.lossyChars_of_ascii
    fun byte member => (visible_of_isAuthorityByte (allowed byte member)).1
  have visible : ∀ char ∈ (Text.lossy address.host).toList, 0x20 < char.toNat := by
    intro char member
    rw [Text.lossy, String.toList_ofList, chars, List.mem_map] at member
    obtain ⟨byte, member, rfl⟩ := member
    exact (visible_of_isAuthorityByte (allowed byte member)).2
  exact isLine_of_no_end (fun member => absurd (visible _ member) (by decide))
    (fun member => absurd (visible _ member) (by decide))

end Endpoint

/-! ### The headers -/

/-- The heart-beats of a greeting keep to their line. -/
theorem isLine_headerValue (offer : HeartBeat) : IsLine offer.headerValue := by
  have chars : ∀ char ∈ offer.headerValue.toList, char.isDigit = true ∨ char = ',' := by
    intro char member
    simp only [HeartBeat.headerValue, String.toList_append, List.mem_append] at member
    rcases member with (member | member) | member
    · exact .inl (Numeral.isDigit_of_mem_decimal _ char member)
    · exact .inr (by simpa using member)
    · exact .inl (Numeral.isDigit_of_mem_decimal _ char member)
  exact isLine_of_no_end (fun member => absurd (chars _ member) (by decide))
    (fun member => absurd (chars _ member) (by decide))

/-- A header for a text that is not empty. -/
def headerUnlessEmpty (name text : String) : List (String × String) :=
  if text.isEmpty then [] else [(name, text)]

theorem name_of_mem_headerUnlessEmpty {name text : String} {pair : String × String}
    (member : pair ∈ headerUnlessEmpty name text) : pair.1 = name := by
  unfold headerUnlessEmpty at member
  split at member
  · cases member
  · rw [List.mem_singleton.mp member]

/-- The headers that the greeting is meant to have, in their order. -/
def greetingPairs (endpoint : Endpoint) (credentials : Credentials) (offer : HeartBeat) :
    List (String × String) :=
  (Wire.Header.acceptVersion, Wire.protocolVersion) :: (Wire.Header.host, endpoint.host) ::
    (headerUnlessEmpty Wire.Header.login credentials.login ++
      headerUnlessEmpty Wire.Header.passcode credentials.passcode ++
      [(Wire.Header.heartBeat, offer.headerValue)])

section

variable (endpoint : Endpoint) (credentials : Credentials) (offer : HeartBeat)

/-- **The greeting has the headers that it is meant to have**, and nothing else. -/
theorem pairs_greeting :
    (greeting endpoint credentials offer).headers.pairs =
      greetingPairs endpoint credentials offer := by
  unfold greeting greetingPairs withNonempty headerUnlessEmpty
  cases credentials.login.isEmpty <;> cases credentials.passcode.isEmpty <;> rfl

theorem command_greeting : (greeting endpoint credentials offer).command = .connect := by
  unfold greeting withNonempty
  cases credentials.login.isEmpty <;> cases credentials.passcode.isEmpty <;> rfl

theorem body_greeting : (greeting endpoint credentials offer).body = [] := by
  unfold greeting withNonempty
  cases credentials.login.isEmpty <;> cases credentials.passcode.isEmpty <;> rfl

/-- The names of the headers of the greeting keep to their lines. -/
theorem named_of_mem_greetingPairs {pair : String × String}
    (member : pair ∈ greetingPairs endpoint credentials offer) :
    ':' ∉ pair.1.toList ∧ '\n' ∉ pair.1.toList := by
  have inUse : pair.1 ∈ [Wire.Header.acceptVersion, Wire.Header.host, Wire.Header.login,
      Wire.Header.passcode, Wire.Header.heartBeat] := by
    simp only [greetingPairs, List.mem_cons, List.mem_append, List.not_mem_nil, or_false] at member
    rcases member with rfl | rfl | (member | member) | rfl
    · simp
    · simp
    · simp [name_of_mem_headerUnlessEmpty member]
    · simp [name_of_mem_headerUnlessEmpty member]
    · simp
  have each : ∀ name ∈ [Wire.Header.acceptVersion, Wire.Header.host, Wire.Header.login,
      Wire.Header.passcode, Wire.Header.heartBeat], ':' ∉ name.toList ∧ '\n' ∉ name.toList := by
    decide
  exact each pair.1 inUse

/-- The body of the greeting ends where it should. -/
theorem isMeasured_greeting : (greeting endpoint credentials offer).IsMeasured := by
  have uncounted :
      (greeting endpoint credentials offer).header? Wire.Header.contentLength = none := by
    unfold greeting withNonempty
    cases credentials.login.isEmpty <;> cases credentials.passcode.isEmpty <;> rfl
  refine ⟨fun declared found => ?_, fun _ => ?_⟩
  · cases uncounted.symm.trans found
  · rw [body_greeting]
    exact List.not_mem_nil

/-- A header of the greeting is told exactly if its value is a line. -/
theorem isTold_iff_isLine {name value : String} (named : ':' ∉ name.toList ∧ '\n' ∉ name.toList) :
    IsTold name value ↔ IsLine value :=
  ⟨fun told => told.2.2, fun line => ⟨named.1, named.2, line⟩⟩

theorem forall_headerUnlessEmpty_iff (name text : String) :
    (∀ pair ∈ headerUnlessEmpty name text, IsLine pair.2) ↔ IsLine text := by
  unfold headerUnlessEmpty
  split
  · rename_i empty
    rw [String.isEmpty_iff] at empty
    subst empty
    exact iff_of_true (by simp) (by decide)
  · simp

/-- Only the credentials can break a line of the greeting. -/
theorem isTold_greetingPairs_iff (line : IsLine endpoint.host) :
    (∀ pair ∈ greetingPairs endpoint credentials offer, IsTold pair.1 pair.2) ↔
      IsLine credentials.login ∧ IsLine credentials.passcode := by
  have version : IsLine Wire.protocolVersion := by decide
  calc (∀ pair ∈ greetingPairs endpoint credentials offer, IsTold pair.1 pair.2)
      ↔ ∀ pair ∈ greetingPairs endpoint credentials offer, IsLine pair.2 :=
        forall₂_congr fun _ member =>
          isTold_iff_isLine (named_of_mem_greetingPairs endpoint credentials offer member)
    _ ↔ IsLine credentials.login ∧ IsLine credentials.passcode := by
        simp only [greetingPairs, List.forall_mem_cons, List.forall_mem_append,
          forall_headerUnlessEmpty_iff, version, line, isLine_headerValue, List.not_mem_nil,
          false_implies, implies_true, true_and, and_true]

end

/-! ### What the server reads -/

/-- **The greeting comes back as it was, alone and with nothing behind it, exactly if neither the
login nor the passcode has a line feed or ends with a carriage return**, whatever else they contain.
It has exactly the headers that it is meant to have, in their order. -/
theorem greeting_comes_back_iff {url : String} {endpoint : Endpoint}
    (accepted : Endpoint.ofText? url = .ok endpoint) (credentials : Credentials)
    (offer : HeartBeat) (limit : Nat) :
    (greeting endpoint credentials offer).command = .connect ∧
      (greeting endpoint credentials offer).headers.pairs =
        greetingPairs endpoint credentials offer ∧
      (greeting endpoint credentials offer).body = [] ∧
      (((Decoder.fresh limit).feed (greeting endpoint credentials offer).encode).drain =
          ([greeting endpoint credentials offer], none, .fresh limit) ↔
        IsLine credentials.login ∧ IsLine credentials.passcode) := by
  have isConnect := command_greeting endpoint credentials offer
  have pairs := pairs_greeting endpoint credentials offer
  refine ⟨isConnect, pairs, body_greeting endpoint credentials offer, ?_⟩
  rw [Wire.drain_encode_iff (by rw [isConnect]; decide) (by rw [isConnect]; rfl)
      (by rw [pairs]; exact fun _ => named_of_mem_greetingPairs endpoint credentials offer)
      (isMeasured_greeting endpoint credentials offer) limit, pairs]
  exact isTold_greetingPairs_iff endpoint credentials offer (Endpoint.isLine_host accepted)

/-- The endpoint of an example. -/
def exampleEndpoint : Endpoint :=
  ⟨"wss://feed.example.com/events", "feed.example.com", true⟩

theorem ofText?_exampleEndpoint :
    Endpoint.ofText? "wss://feed.example.com/events" = .ok exampleEndpoint := by
  have opened : (Endpoint.ofText? "wss://feed.example.com/events").toOption =
      some exampleEndpoint := by decide +kernel
  cases parsed : Endpoint.ofText? "wss://feed.example.com/events" with
  | error refused =>
    rw [parsed] at opened
    cases opened
  | ok endpoint =>
    rw [parsed] at opened
    exact congrArg _ (Option.some.inj opened)

/-- Colons, backslashes and zeros in a login and a passcode do no harm, nor does a carriage return
that is not the last character. -/
theorem awkward_greeting_comes_back :
    Endpoint.ofText? "wss://feed.example.com/events" = .ok exampleEndpoint ∧
      ((Decoder.fresh 0).feed
          (greeting exampleEndpoint ⟨"gu:\\n\x00est", "\r s3cr:t "⟩ .never).encode).drain =
        ([greeting exampleEndpoint ⟨"gu:\\n\x00est", "\r s3cr:t "⟩ .never], none, .fresh 0) :=
  ⟨ofText?_exampleEndpoint, (greeting_comes_back_iff ofText?_exampleEndpoint
    ⟨"gu:\\n\x00est", "\r s3cr:t "⟩ .never 0).2.2.2.mpr (by decide)⟩

/-- A line feed at the end of the login ends the headers: what is read is not the greeting, but one
whose login is shorter and whose heart-beats are in its body. -/
theorem greeting_cut_by_lineFeed :
    Endpoint.ofText? "wss://feed.example.com/events" = .ok exampleEndpoint ∧
      ((Decoder.fresh 0).feed (greeting exampleEndpoint ⟨"guest\n", ""⟩ .never).encode).drain ≠
        ([greeting exampleEndpoint ⟨"guest\n", ""⟩ .never], none, .fresh 0) ∧
      ((Decoder.fresh 0).feed (greeting exampleEndpoint ⟨"guest\n", ""⟩ .never).encode).drain =
        ([⟨.connect, .ofPairs [("accept-version", "1.2"), ("host", "feed.example.com"),
          ("login", "guest")], Text.toBytes "heart-beat:0,0\n\n"⟩], none, .fresh 0) :=
  ⟨ofText?_exampleEndpoint, by decide +kernel, by decide +kernel⟩

end EventFeed
