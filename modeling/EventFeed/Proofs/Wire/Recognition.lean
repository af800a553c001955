/-
**The readers know the grammar.**

Each part of a frame is read exactly if the bytes begin with it, and what is left is what stands
behind it; it fails exactly if the first line or length that breaks a rule is in it. Whatever else
the bytes are, more of them are asked for.

* `readCommand_eq_done_iff`, `readCommand_eq_failed_iff`: the command line;
* `readHeaders_eq_done_iff`, `readHeaders_eq_failed_iff`: the header lines and the blank line;
* `pairs_ofPairs`: the headers that they come to;
* `readBody_eq_done_iff`, `readBody_eq_failed_iff`: the body.
-/

import Mathlib.Data.List.TakeWhile
import EventFeed.Proofs.Wire.Grammar
import EventFeed.Proofs.Wire.RoundTrip

namespace EventFeed.Wire

open EventFeed.Numeral

/-! ### Lines -/

theorem dropWhile_of_not_mem {α : Type} [DecidableEq α] {stop : α} {list : List α}
    (absent : stop ∉ list) : list.dropWhile (· ≠ stop) = [] := by
  rw [List.dropWhile_eq_nil_iff]
  exact fun other member => decide_eq_true fun same => absent (same ▸ member)

/-- **The first line is a line that the bytes begin with.** -/
theorem splitLine_eq_some_iff {bytes text rest : List UInt8} :
    splitLine bytes = some (text, rest) ↔ ∃ line, IsLine line text ∧ bytes = line ++ rest := by
  constructor
  · intro found
    unfold splitLine at found
    by_cases ended : lineFeed ∈ bytes
    · obtain ⟨front, tail, rfl, unbroken⟩ := List.eq_append_cons_of_mem ended
      obtain ⟨dropped, taken⟩ := cut_at unbroken tail
      rw [dropped, taken] at found
      obtain ⟨rfl, rfl⟩ := Prod.mk.inj (Option.some.inj found)
      by_cases returns : front.getLast? = some carriageReturn
      · obtain ⟨text, rfl⟩ := List.getLast?_eq_some_iff.mp returns
        refine ⟨text ++ [carriageReturn, lineFeed], ?_, by simp⟩
        rw [stripReturn, if_pos returns, List.dropLast_concat]
        exact .long fun inside => unbroken (List.mem_append_left _ inside)
      · refine ⟨front ++ [lineFeed], ?_, by simp⟩
        rw [stripReturn, if_neg returns]
        exact .short unbroken returns
    · rw [dropWhile_of_not_mem ended] at found
      cases found
  · rintro ⟨line, isLine, rfl⟩
    cases isLine with
    | short unbroken noReturn => simpa using splitLine_written unbroken noReturn rest
    | long unbroken =>
      have inside : lineFeed ∉ text ++ [carriageReturn] := by
        rw [List.mem_append, not_or]
        exact ⟨unbroken, by decide⟩
      obtain ⟨dropped, taken⟩ := cut_at inside rest
      have cut : text ++ [carriageReturn, lineFeed] ++ rest =
          text ++ [carriageReturn] ++ lineFeed :: rest := by simp
      rw [splitLine, cut, dropped, taken]
      simp [stripReturn]

/-- A line is the first line, whatever comes behind. -/
theorem IsLine.splitLine_append {line text : List UInt8} (isLine : IsLine line text)
    (rest : List UInt8) : splitLine (line ++ rest) = some (text, rest) :=
  splitLine_eq_some_iff.mpr ⟨line, isLine, rfl⟩

/-! ### Texts -/

theorem ofBytes?_eq_some_iff {bytes : List UInt8} {text : String} :
    Text.ofBytes? bytes = some text ↔ Text.toBytes text = bytes :=
  ⟨Text.toBytes_of_ofBytes?, fun same => same ▸ Text.ofBytes?_toBytes text⟩

theorem ofBytes?_eq_none_iff {bytes : List UInt8} :
    Text.ofBytes? bytes = none ↔ ∀ text, Text.toBytes text ≠ bytes := by
  rw [Option.eq_none_iff_forall_ne_some]
  exact forall_congr' fun text => not_congr ofBytes?_eq_some_iff

theorem splitColon_eq_none_iff {text : String} :
    splitColon text = none ↔ ':' ∉ text.toList := by
  constructor
  · intro whole found
    obtain ⟨name, value, parts, firstColon⟩ := List.eq_append_cons_of_mem found
    obtain ⟨dropped, -⟩ := cut_at firstColon value
    rw [splitColon, parts, dropped] at whole
    cases whole
  · intro noColon
    rw [splitColon, dropWhile_of_not_mem noColon]

/-- **A text is cut at its first colon.** -/
theorem splitColon_eq_some_iff {text name value : String} :
    splitColon text = some (name, value) ↔ ':' ∉ name.toList ∧ text = name ++ ":" ++ value := by
  constructor
  · intro cut
    by_cases found : ':' ∈ text.toList
    · obtain ⟨front, back, parts, firstColon⟩ := List.eq_append_cons_of_mem found
      obtain ⟨dropped, taken⟩ := cut_at firstColon back
      rw [splitColon, parts, dropped, taken] at cut
      obtain ⟨rfl, rfl⟩ := Prod.mk.inj (Option.some.inj cut)
      exact ⟨by rwa [String.toList_ofList], String.toList_inj.mp (by simp [parts])⟩
    · rw [splitColon_eq_none_iff.mpr found] at cut
      cases cut
  · rintro ⟨firstColon, rfl⟩
    exact splitColon_written firstColon value

theorem escapedBy?_eq_some_iff {letter char : Char} :
    escapedBy? letter = some char ↔ (letter, char) ∈ escapeLetters := by
  unfold escapedBy? escapeLetters
  split
  · subst_vars
    simp [eq_comm]
  split
  · subst_vars
    simp [eq_comm]
  split
  · subst_vars
    simp [eq_comm]
  split
  · subst_vars
    simp [eq_comm]
  · simp_all

theorem unescapeChars_eq_some_iff {text meant : List Char} :
    unescapeChars text = some meant ↔ Escaped text meant := by
  constructor
  · intro read
    fun_induction unescapeChars text generalizing meant with
    | case1 =>
      cases read
      exact .nil
    | case2 => cases read
    | case3 letter text step =>
      obtain ⟨char, known, both⟩ := Option.bind_eq_some_iff.mp read
      obtain ⟨chars, later, whole⟩ := Option.bind_eq_some_iff.mp both
      cases whole
      exact .pair (escapedBy?_eq_some_iff.mp known) (step later)
    | case4 char text noEnd noPair step =>
      obtain ⟨chars, later, rfl⟩ := Option.map_eq_some_iff.mp read
      refine .plain (fun backslash => ?_) (step later)
      cases text with
      | nil => exact noEnd backslash rfl
      | cons letter rest => exact noPair letter rest backslash rfl
  · intro escaped
    induction escaped with
    | nil => rfl
    | plain isPlain later step => simp [unescapeChars, isPlain, step]
    | pair known later step =>
      simp [unescapeChars, escapedBy?_eq_some_iff.mpr known, step]

theorem headerValue?_eq_some_iff {command : Command} {text meant : String} :
    headerValue? command text = some meant ↔ Means command text meant := by
  unfold headerValue? Means
  split
  · rw [← unescapeChars_eq_some_iff, unescape_eq, Option.map_eq_some_iff]
    constructor
    · rintro ⟨chars, read, rfl⟩
      rwa [String.toList_ofList]
    · exact fun read => ⟨meant.toList, read, String.ofList_toList⟩
  · exact Option.some_inj

theorem headerValue?_eq_none_iff {command : Command} {text : String} :
    headerValue? command text = none ↔ ∀ meant, ¬ Means command text meant := by
  rw [Option.eq_none_iff_forall_ne_some]
  exact forall_congr' fun meant => not_congr headerValue?_eq_some_iff

/-! ### The command line -/

theorem ofToken?_eq_some_iff {token : String} {command : Command} :
    Command.ofToken? token = some command ↔ command ∈ Command.written ∧ command.token = token := by
  constructor
  · exact fun read => ⟨List.mem_of_find?_eq_some read, Command.token_of_ofToken? read⟩
  · rintro ⟨isWritten, rfl⟩
    refine Command.ofToken?_token ?_
    rintro rfl
    exact absurd isWritten (by decide)

theorem ofToken?_eq_none_iff {token : String} :
    Command.ofToken? token = none ↔ ∀ command ∈ Command.written, command.token ≠ token := by
  simp [Command.ofToken?]

/-- **The command is read exactly if the bytes begin with its line.** -/
theorem readCommand_eq_done_iff {bytes rest : List UInt8} {command : Command} :
    readCommand bytes = .done command rest ↔
      ∃ line, IsLine line (Text.toBytes command.token) ∧ command ∈ Command.written ∧
        bytes = line ++ rest := by
  constructor
  · intro read
    unfold readCommand at read
    split at read
    · cases read
    · rename_i text tail cut
      split at read
      · cases read
      · rename_i token isText
        split at read
        · cases read
        · split at read
          · cases read
          · rename_i found known
            cases read
            obtain ⟨line, isLine, parts⟩ := splitLine_eq_some_iff.mp cut
            obtain ⟨isWritten, rfl⟩ := ofToken?_eq_some_iff.mp known
            rw [ofBytes?_eq_some_iff.mp isText]
            exact ⟨line, isLine, isWritten, parts⟩
  · rintro ⟨line, isLine, isWritten, rfl⟩
    have cut := isLine.splitLine_append rest
    have known := ofToken?_eq_some_iff.mpr ⟨isWritten, rfl⟩
    have nonempty : command.token.isEmpty = false := by
      revert isWritten
      cases command <;> decide
    simp only [readCommand, cut, Text.ofBytes?_toBytes, nonempty, known, Bool.false_eq_true,
      if_false]

/-- **Reading the command fails exactly if the first line breaks a rule.** -/
theorem readCommand_eq_failed_iff {bytes : List UInt8} {fault : Fault} :
    readCommand bytes = .failed fault ↔
      ∃ line text rest, IsLine line text ∧ CommandFault text fault ∧ bytes = line ++ rest := by
  constructor
  · intro read
    unfold readCommand at read
    split at read
    · cases read
    · rename_i text rest cut
      obtain ⟨line, isLine, parts⟩ := splitLine_eq_some_iff.mp cut
      refine ⟨line, text, rest, isLine, ?_, parts⟩
      split at read
      · rename_i noText
        cases read
        exact .notText (ofBytes?_eq_none_iff.mp noText)
      · rename_i token isText
        obtain rfl := ofBytes?_eq_some_iff.mp isText
        split at read
        · rename_i empty
          cases read
          obtain rfl := String.isEmpty_iff.mp empty
          exact .empty
        · rename_i nonempty
          split at read
          · rename_i unknown
            cases read
            exact .unknown (mt String.isEmpty_iff.mpr nonempty) (ofToken?_eq_none_iff.mp unknown)
          · cases read
  · rintro ⟨line, text, rest, isLine, wrong, rfl⟩
    unfold readCommand
    rw [isLine.splitLine_append rest]
    cases wrong with
    | notText noText => simp only [ofBytes?_eq_none_iff.mpr noText]
    | empty => rfl
    | unknown nonempty unknown =>
      simp [Text.ofBytes?_toBytes, nonempty, ofToken?_eq_none_iff.mpr unknown]

/-! ### Header lines -/

theorem readHeader_eq_ok_iff {command : Command} {text : List UInt8}
    {meantName meantValue : String} :
    readHeader command text = .ok (meantName, meantValue) ↔
      ∃ name value, ':' ∉ name.toList ∧ Means command name meantName ∧
        Means command value meantValue ∧ text = Text.toBytes (name ++ ":" ++ value) := by
  constructor
  · intro read
    unfold readHeader at read
    split at read
    · cases read
    · rename_i line isText
      split at read
      · cases read
      · rename_i name value cut
        obtain ⟨firstColon, rfl⟩ := splitColon_eq_some_iff.mp cut
        split at read
        · rename_i means means'
          cases read
          exact ⟨name, value, firstColon, headerValue?_eq_some_iff.mp means,
            headerValue?_eq_some_iff.mp means', (ofBytes?_eq_some_iff.mp isText).symm⟩
        · cases read
  · rintro ⟨name, value, firstColon, means, means', rfl⟩
    simp only [readHeader, Text.ofBytes?_toBytes, splitColon_written firstColon,
      headerValue?_eq_some_iff.mpr means, headerValue?_eq_some_iff.mpr means']

theorem readHeader_eq_error_iff {command : Command} {text : List UInt8} {fault : Fault} :
    readHeader command text = .error fault ↔ HeaderFault command text fault := by
  constructor
  · intro read
    unfold readHeader at read
    split at read
    · rename_i noText
      cases read
      exact .notText (ofBytes?_eq_none_iff.mp noText)
    · rename_i line isText
      obtain rfl := ofBytes?_eq_some_iff.mp isText
      split at read
      · rename_i whole
        cases read
        exact .missingColon (splitColon_eq_none_iff.mp whole)
      · rename_i name value cut
        obtain ⟨firstColon, rfl⟩ := splitColon_eq_some_iff.mp cut
        split at read
        · cases read
        · rename_i undefined
          cases read
          refine .undefinedEscape firstColon ?_
          by_contra defined
          simp only [not_or, not_forall, not_not] at defined
          obtain ⟨⟨meantName, means⟩, ⟨meantValue, means'⟩⟩ := defined
          exact undefined _ _ (headerValue?_eq_some_iff.mpr means)
            (headerValue?_eq_some_iff.mpr means')
  · intro wrong
    unfold readHeader
    cases wrong with
    | notText noText => simp only [ofBytes?_eq_none_iff.mpr noText]
    | missingColon noColon =>
      simp only [Text.ofBytes?_toBytes, splitColon_eq_none_iff.mpr noColon]
    | @undefinedEscape name value firstColon undefined =>
      simp only [Text.ofBytes?_toBytes, splitColon_written firstColon]
      rcases undefined with undefined | undefined
      · simp only [headerValue?_eq_none_iff.mpr undefined]
      · rw [headerValue?_eq_none_iff.mpr undefined]
        cases headerValue? command name <;> rfl

/-- Header lines are read one by one, whatever comes behind. -/
theorem HeaderLines.readHeaders_append {command : Command} {lines : List UInt8}
    {written meant : List (String × String)} (isLines : HeaderLines command lines written meant)
    (headers : Headers) (rest : List UInt8) :
    readHeaders command headers (lines ++ rest) =
      readHeaders command
        (meant.foldl (fun headers pair => headers.insertFirst pair.1 pair.2) headers) rest := by
  induction isLines generalizing headers with
  | nil => rfl
  | cons isLine firstColon means means' later step =>
    have header := readHeader_eq_ok_iff.mpr ⟨_, _, firstColon, means, means', rfl⟩
    rw [List.append_assoc, readHeaders, isLine.splitLine_append]
    simp only [toBytes_line_isEmpty, header, Bool.false_eq_true, if_false]
    exact step _

/-- **The header lines are read exactly if the bytes begin with them and a blank line.** -/
theorem readHeaders_eq_done_iff {command : Command} {headers read : Headers}
    {bytes rest : List UInt8} :
    readHeaders command headers bytes = .done read rest ↔
      ∃ lines blank written meant, HeaderLines command lines written meant ∧ IsLine blank [] ∧
        read = meant.foldl (fun headers pair => headers.insertFirst pair.1 pair.2) headers ∧
        bytes = lines ++ blank ++ rest := by
  constructor
  · intro found
    fun_induction readHeaders command headers bytes with
    | case1 => cases found
    | case2 headers bytes text tail cut isBlank =>
      cases found
      obtain ⟨blank, isLine, rfl⟩ := splitLine_eq_some_iff.mp cut
      obtain rfl := List.isEmpty_iff.mp isBlank
      exact ⟨[], blank, [], [], .nil, isLine, rfl, rfl⟩
    | case3 => cases found
    | case4 headers bytes text tail cut isWritten meantName meantValue header step =>
      obtain ⟨lines, blank, written, meant, isLines, isBlank, whole, rfl⟩ := step found
      obtain ⟨line, isLine, rfl⟩ := splitLine_eq_some_iff.mp cut
      obtain ⟨name, value, firstColon, means, means', rfl⟩ := readHeader_eq_ok_iff.mp header
      exact ⟨line ++ lines, blank, (name, value) :: written, (meantName, meantValue) :: meant,
        .cons isLine firstColon means means' isLines, isBlank, whole, by simp⟩
  · rintro ⟨lines, blank, written, meant, isLines, isBlank, rfl, rfl⟩
    rw [List.append_assoc, isLines.readHeaders_append, readHeaders, isBlank.splitLine_append]
    rfl

/-- **Reading header lines fails exactly if there is one, not blank, that breaks a rule, behind
header lines that break none.** -/
theorem readHeaders_eq_failed_iff {command : Command} {headers : Headers} {bytes : List UInt8}
    {fault : Fault} :
    readHeaders command headers bytes = .failed fault ↔
      ∃ lines written meant line text rest, HeaderLines command lines written meant ∧
        IsLine line text ∧ text ≠ [] ∧ HeaderFault command text fault ∧
        bytes = lines ++ line ++ rest := by
  constructor
  · intro found
    fun_induction readHeaders command headers bytes with
    | case1 => cases found
    | case2 => cases found
    | case3 headers bytes text tail cut isWritten wrong header =>
      cases found
      obtain ⟨line, isLine, rfl⟩ := splitLine_eq_some_iff.mp cut
      exact ⟨[], [], [], line, text, tail, .nil, isLine, mt List.isEmpty_iff.mpr isWritten,
        readHeader_eq_error_iff.mp header, rfl⟩
    | case4 headers bytes text tail cut isWritten meantName meantValue header step =>
      obtain ⟨lines, written, meant, broken, text', rest, isLines, isBroken, nonblank, wrong,
        rfl⟩ := step found
      obtain ⟨line, isLine, rfl⟩ := splitLine_eq_some_iff.mp cut
      obtain ⟨name, value, firstColon, means, means', rfl⟩ := readHeader_eq_ok_iff.mp header
      exact ⟨line ++ lines, (name, value) :: written, (meantName, meantValue) :: meant, broken,
        text', rest, .cons isLine firstColon means means' isLines, isBroken, nonblank, wrong,
        by simp⟩
  · rintro ⟨lines, written, meant, line, text, rest, isLines, isLine, nonblank, wrong, rfl⟩
    rw [List.append_assoc, isLines.readHeaders_append, readHeaders, isLine.splitLine_append]
    simp only [List.isEmpty_iff, nonblank, if_false, readHeader_eq_error_iff.mpr wrong]

/-! ### The headers as a whole -/

theorem pairs_insertFirst (headers : Headers) (name value : String) :
    (headers.insertFirst name value).pairs =
      if name ∈ headers.names then headers.pairs else headers.pairs ++ [(name, value)] := by
  rw [Headers.insertFirst_eq]
  by_cases found : name ∈ headers.names
  · rw [if_pos (Headers.contains_iff.mpr found), if_pos found]
  · rw [if_neg (mt Headers.contains_iff.mp found), if_neg found]
    exact putPair_of_new value found

/-- **Of headers with one name the first counts.** -/
theorem pairs_ofPairs (pairs : List (String × String)) :
    (Headers.ofPairs pairs).pairs = firstOfEach pairs := by
  -- What has been kept so far are the headers from the last on.
  have all : ∀ headers : Headers,
      (pairs.foldl (fun headers pair => headers.insertFirst pair.1 pair.2) headers).pairs =
        List.eraseDupsBy.loop (fun one other => one.1 == other.1) pairs headers.pairs.reverse := by
    induction pairs with
    | nil => simp [List.eraseDupsBy.loop]
    | cons pair pairs step =>
      intro headers
      have held : (headers.pairs.reverse.any fun other => pair.1 == other.1) =
          decide (pair.1 ∈ headers.names) := by
        rw [List.any_reverse, Bool.eq_iff_iff]
        simp only [List.any_eq_true, beq_iff_eq, decide_eq_true_eq, Headers.names, List.mem_map]
        exact exists_congr fun other => and_congr_right fun _ => eq_comm
      rw [List.foldl_cons, step, pairs_insertFirst, List.eraseDupsBy.loop, held]
      by_cases found : pair.1 ∈ headers.names
      · simp [found]
      · simp [found]
  exact all .empty

theorem get?_ofPairs (pairs : List (String × String)) (name : String) :
    (Headers.ofPairs pairs).get? name = pairs.lookup name := by
  have all : ∀ headers : Headers,
      (pairs.foldl (fun headers pair => headers.insertFirst pair.1 pair.2) headers).get? name =
        (headers.get? name).or (pairs.lookup name) := by
    induction pairs with
    | nil => simp
    | cons pair pairs step =>
      intro headers
      rw [List.foldl_cons, step, Headers.get?_insertFirst, List.lookup_cons]
      by_cases same : pair.1 = name
      · subst same
        cases found : headers.get? pair.1 with
        | none => simp [Headers.contains, found]
        | some value => simp [Headers.contains, found]
      · have other : (name == pair.1) = false := beq_false_of_ne (Ne.symm same)
        simp [same, other]
  exact all .empty

/-! ### The body -/

/-- **The body is read exactly if the bytes begin with it and a zero byte.** -/
theorem readBody_eq_done_iff {headers : Headers} {bytes body rest : List UInt8} :
    readBody headers bytes = .done body rest ↔
      IsBody (headers.get? Header.contentLength) body ∧ bytes = body ++ terminator :: rest := by
  unfold readBody
  cases headers.get? Header.contentLength with
  | none =>
    dsimp only [IsBody]
    constructor
    · intro read
      by_cases ended : terminator ∈ bytes
      · obtain ⟨front, tail, rfl, unbroken⟩ := List.eq_append_cons_of_mem ended
        obtain ⟨dropped, taken⟩ := cut_at unbroken tail
        rw [dropped, taken] at read
        cases read
        exact ⟨unbroken, rfl⟩
      · rw [dropWhile_of_not_mem ended] at read
        cases read
    · rintro ⟨unbroken, rfl⟩
      obtain ⟨dropped, taken⟩ := cut_at unbroken rest
      rw [dropped, taken]
  | some declared =>
    dsimp only [IsBody]
    cases counted : read? wordBound (Text.trim declared) with
    | none => simp
    | some length =>
      dsimp only
      constructor
      · intro read
        have parts := List.take_append_drop length bytes
        have enough := congrArg List.length parts
        split at read
        · cases read
        · rename_i byte tail cut
          rw [cut] at parts enough
          split at read
          · rename_i ends
            cases read
            rw [ends] at parts
            refine ⟨congrArg some ?_, parts.symm⟩
            rw [List.length_append, List.length_take, List.length_cons] at enough
            rw [List.length_take]
            omega
          · cases read
      · rintro ⟨same, rfl⟩
        obtain rfl := Option.some.inj same
        rw [List.drop_left, List.take_left]
        rfl

/-- **Reading the body fails exactly if a length is declared that is none or ends elsewhere.** -/
theorem readBody_eq_failed_iff {headers : Headers} {bytes : List UInt8} {fault : Fault} :
    readBody headers bytes = .failed fault ↔
      ∃ declared, headers.get? Header.contentLength = some declared ∧
        LengthFault declared bytes fault := by
  unfold readBody
  cases headers.get? Header.contentLength with
  | none =>
    dsimp only
    split <;> simp
  | some declared =>
    dsimp only
    constructor
    · intro read
      refine ⟨declared, rfl, ?_⟩
      split at read
      · rename_i noNumber
        cases read
        exact .notNumber noNumber
      · rename_i length counted
        split at read
        · cases read
        · rename_i byte tail cut
          split at read
          · cases read
          · rename_i noEnd
            cases read
            refine .unterminated counted ?_ noEnd
            rw [← List.head?_drop, cut, List.head?_cons]
    · rintro ⟨_, same, wrong⟩
      cases same
      cases wrong with
      | notNumber noNumber => simp only [noNumber]
      | unterminated counted behind noEnd =>
        rw [← List.head?_drop] at behind
        obtain ⟨tail, cut⟩ := List.head?_eq_some_iff.mp behind
        simp only [counted, cut, noEnd, if_false]

end EventFeed.Wire
