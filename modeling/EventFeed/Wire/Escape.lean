/-
**Escaped header text.**

Header names and values are escaped so that neither a line end nor the colon between name and value
can occur in them. A backslash and a letter stand for the backslash itself, the line feed, the
carriage return and the colon; no other character may follow a backslash.

* `unescape_eq`: a text without a backslash need not be gone through to be undone;
* `unescape_escape`: undoing what was escaped gives the text back;
* `escape_no_separator`: an escaped text has no line feed, carriage return or colon.
-/

namespace EventFeed.Wire

/-- How an escaped text writes one character. -/
def escapeHeaderChar (char : Char) : List Char :=
  if char = '\\' then ['\\', '\\']
  else if char = '\n' then ['\\', 'n']
  else if char = '\r' then ['\\', 'r']
  else if char = ':' then ['\\', 'c']
  else [char]

def escapeChars (chars : List Char) : List Char :=
  chars.flatMap escapeHeaderChar

/-- The character that a letter behind a backslash stands for. -/
def escapedBy? (letter : Char) : Option Char :=
  if letter = '\\' then some '\\'
  else if letter = 'n' then some '\n'
  else if letter = 'r' then some '\r'
  else if letter = 'c' then some ':'
  else none

/-- The characters that escaped ones stand for; none if a backslash is followed by no letter or by
one without a meaning. -/
def unescapeChars : List Char → Option (List Char)
  | [] => some []
  | ['\\'] => none
  | '\\' :: letter :: rest => do
    let char ← escapedBy? letter
    let chars ← unescapeChars rest
    some (char :: chars)
  | char :: rest => (unescapeChars rest).map (char :: ·)

def escape (text : String) : String :=
  String.ofList (escapeChars text.toList)

/-- The text that an escaped one stands for; a text without a backslash stands for itself. -/
def unescape (text : String) : Option String :=
  if '\\' ∈ text.toList then (unescapeChars text.toList).map String.ofList else some text

/-- Characters without a backslash stand for themselves. -/
theorem unescapeChars_of_plain {chars : List Char} (plain : '\\' ∉ chars) :
    unescapeChars chars = some chars := by
  induction chars with
  | nil => rfl
  | cons char chars step =>
    rw [List.mem_cons, not_or] at plain
    simp [unescapeChars, Ne.symm plain.1, step plain.2]

/-- Undoing a text is undoing its characters, whether or not there is a backslash among them. -/
theorem unescape_eq (text : String) :
    unescape text = (unescapeChars text.toList).map String.ofList := by
  unfold unescape
  split
  · rfl
  · rename_i plain
    rw [unescapeChars_of_plain plain, Option.map_some, String.ofList_toList]

/-- An escaped character is undone before whatever follows it. -/
theorem unescapeChars_escapeHeaderChar_append (char : Char) (rest : List Char) :
    unescapeChars (escapeHeaderChar char ++ rest) = (unescapeChars rest).map (char :: ·) := by
  by_cases backslash : char = '\\'
  · subst backslash
    cases found : unescapeChars rest <;> simp [escapeHeaderChar, unescapeChars, escapedBy?, found]
  by_cases lineFeed : char = '\n'
  · subst lineFeed
    cases found : unescapeChars rest <;> simp [escapeHeaderChar, unescapeChars, escapedBy?, found]
  by_cases carriageReturn : char = '\r'
  · subst carriageReturn
    cases found : unescapeChars rest <;> simp [escapeHeaderChar, unescapeChars, escapedBy?, found]
  by_cases colon : char = ':'
  · subst colon
    cases found : unescapeChars rest <;> simp [escapeHeaderChar, unescapeChars, escapedBy?, found]
  simp [escapeHeaderChar, unescapeChars, backslash, lineFeed, carriageReturn, colon]

/-- Undoing escaped characters gives them back. -/
theorem unescapeChars_escapeChars (chars : List Char) :
    unescapeChars (escapeChars chars) = some chars := by
  induction chars with
  | nil => simp [escapeChars, unescapeChars]
  | cons char chars step =>
    have cut : escapeChars (char :: chars) = escapeHeaderChar char ++ escapeChars chars := rfl
    rw [cut, unescapeChars_escapeHeaderChar_append, step, Option.map_some]

/-- Undoing what was escaped gives the text back. -/
theorem unescape_escape (text : String) : unescape (escape text) = some text := by
  simp [unescape_eq, escape, unescapeChars_escapeChars]

/-- An escaped text has no line feed, carriage return or colon. -/
theorem escape_no_separator (text : String) (char : Char) (found : char ∈ (escape text).toList) :
    char ≠ '\n' ∧ char ≠ '\r' ∧ char ≠ ':' := by
  simp only [escape, String.toList_ofList, escapeChars, List.mem_flatMap] at found
  obtain ⟨source, -, found⟩ := found
  unfold escapeHeaderChar at found
  split at found
  · simp_all
  split at found
  · simp only [List.mem_cons, List.not_mem_nil, or_false] at found
    rcases found with rfl | rfl <;> decide
  split at found
  · simp only [List.mem_cons, List.not_mem_nil, or_false] at found
    rcases found with rfl | rfl <;> decide
  split at found
  · simp only [List.mem_cons, List.not_mem_nil, or_false] at found
    rcases found with rfl | rfl <;> decide
  · simp_all

end EventFeed.Wire
