/-
**Which texts escaping gives.**

An escaped text may have long rows of backslashes, and which of them begin a pair of characters is
seen only by reading from the left: a backslash is at home in the pair of the one before it, or
begins a pair of its own. What can be undone is told by these beginnings alone, and what escaping
gives are the texts that can be undone and in which nothing stands that separates headers.

* `isSome_unescapeChars_iff`: characters can be undone exactly if every pair ends with a letter that
  has a meaning;
* `escape_of_unescape`: what was undone is escaped to what it was, if no separator stood there;
* `escaping_is_bijective`: so texts and escaped texts belong to each other one by one.
-/

import EventFeed.Proofs.Wire.Reencoding
import Mathlib.Data.Set.Function

namespace EventFeed.Wire

/-! ### Pairs -/

/-- Whether a pair begins at a place: a backslash stands there, and it is not the end of a pair that
began right before it. -/
def Opens (chars : List Char) : Nat → Prop
  | 0 => chars[0]? = some '\\'
  | place + 1 => chars[place + 1]? = some '\\' ∧ ¬ Opens chars place

/-- Whether every pair ends, and with a letter that has a meaning. -/
def IsPaired (chars : List Char) : Prop :=
  ∀ place, Opens chars place → ∃ letter ∈ ['\\', 'n', 'r', 'c'], chars[place + 1]? = some letter

/-- A character in front that is no backslash moves every pair by one place. -/
theorem opens_plain_iff {char : Char} (isPlain : char ≠ '\\') (chars : List Char) (place : Nat) :
    Opens (char :: chars) (place + 1) ↔ Opens chars place := by
  induction place with
  | zero => simp [Opens, isPlain]
  | succ place step =>
    rw [Opens, step, Opens, List.getElem?_cons_succ]

/-- A pair in front moves every other pair by two places, whatever its letter is. -/
theorem opens_pair_iff (letter : Char) (chars : List Char) (place : Nat) :
    Opens ('\\' :: letter :: chars) (place + 2) ↔ Opens chars place := by
  induction place with
  | zero => simp [Opens]
  | succ place step =>
    rw [Opens, step, Opens, List.getElem?_cons_succ, List.getElem?_cons_succ]

theorem isPaired_nil : IsPaired [] := by
  rintro (_ | place) opens <;> simp [Opens] at opens

theorem not_isPaired_backslash : ¬ IsPaired ['\\'] := by
  intro paired
  obtain ⟨letter, -, behind⟩ := paired 0 (by simp [Opens])
  simp at behind

theorem isPaired_plain_iff {char : Char} (isPlain : char ≠ '\\') (chars : List Char) :
    IsPaired (char :: chars) ↔ IsPaired chars := by
  constructor
  · intro paired place opens
    exact paired (place + 1) ((opens_plain_iff isPlain chars place).mpr opens)
  · rintro paired (_ | place) opens
    · simp [Opens, isPlain] at opens
    · exact paired place ((opens_plain_iff isPlain chars place).mp opens)

theorem isPaired_pair_iff (letter : Char) (chars : List Char) :
    IsPaired ('\\' :: letter :: chars) ↔ letter ∈ ['\\', 'n', 'r', 'c'] ∧ IsPaired chars := by
  constructor
  · intro paired
    refine ⟨?_, fun place opens => ?_⟩
    · obtain ⟨behind, known, same⟩ := paired 0 (by simp [Opens])
      obtain rfl : letter = behind := by simpa using same
      exact known
    · exact paired (place + 2) ((opens_pair_iff letter chars place).mpr opens)
  · rintro ⟨known, paired⟩ (_ | _ | place) opens
    · exact ⟨letter, known, rfl⟩
    -- The letter itself begins nothing, even if it is a backslash.
    · simp [Opens] at opens
    · exact paired place ((opens_pair_iff letter chars place).mp opens)

theorem isSome_escapedBy?_iff (letter : Char) :
    (escapedBy? letter).isSome = true ↔ letter ∈ ['\\', 'n', 'r', 'c'] := by
  rw [Option.isSome_iff_exists]
  simp only [escapedBy?_eq_some_iff, escapeLetters, List.mem_cons, Prod.mk.injEq,
    List.not_mem_nil, or_false]
  constructor
  · rintro ⟨char, ⟨rfl, -⟩ | ⟨rfl, -⟩ | ⟨rfl, -⟩ | ⟨rfl, -⟩⟩ <;> simp
  · rintro (rfl | rfl | rfl | rfl) <;> simp

/-- **Characters can be undone exactly if every pair ends with a letter that has a meaning.** -/
theorem isSome_unescapeChars_iff (chars : List Char) :
    (unescapeChars chars).isSome = true ↔ IsPaired chars := by
  fun_induction unescapeChars chars with
  | case1 => simp [isPaired_nil]
  | case2 => simp [not_isPaired_backslash]
  | case3 letter chars step =>
    rw [isPaired_pair_iff, ← isSome_escapedBy?_iff, ← step]
    cases escapedBy? letter <;> cases unescapeChars chars <;> simp
  | case4 char chars noEnd noPair step =>
    have isPlain : char ≠ '\\' := by
      rintro rfl
      cases chars with
      | nil => exact noEnd rfl rfl
      | cons letter rest => exact noPair letter rest rfl rfl
    rw [Option.isSome_map, step, isPaired_plain_iff isPlain]

/-! ### Texts -/

/-- Whether neither an end of line nor the colon between name and value stands in a text. -/
def IsUnseparated (text : String) : Prop :=
  ∀ char ∈ text.toList, char ≠ '\n' ∧ char ≠ '\r' ∧ char ≠ ':'

instance (text : String) : Decidable (IsUnseparated text) :=
  List.decidableBAll _ text.toList

theorem isSome_unescape_iff (wire : String) :
    (unescape wire).isSome = true ↔ IsPaired wire.toList := by
  rw [unescape_eq, Option.isSome_map, isSome_unescapeChars_iff]

/-- **What was undone is escaped to what it was**, if no separator stood there. -/
theorem escape_of_unescape {wire text : String} (unseparated : IsUnseparated wire)
    (undone : unescape wire = some text) : escape text = wire := by
  obtain ⟨chars, read, rfl⟩ := Option.map_eq_some_iff.mp ((unescape_eq wire).symm.trans undone)
  rw [escape, String.toList_ofList,
    escapeChars_of_escaped (unescapeChars_eq_some_iff.mp read) unseparated, String.ofList_toList]

theorem escape_injective : Function.Injective escape := by
  intro first second same
  have undone := congrArg unescape same
  rwa [unescape_escape, unescape_escape, Option.some_inj] at undone

/-- **Texts and escaped texts belong to each other one by one.** An escaped text has no separator
and is undone to the text. A text can be undone exactly if, from the left, every backslash that is
not the end of a pair has a letter with a meaning behind it; that a text without a backslash is not
gone through makes no difference. What a text is undone to is escaped to it, if it has no separator.
So escaping takes all texts, no two to one, to all those without separators whose pairs are such. -/
theorem escaping_is_bijective :
    (∀ text, IsUnseparated (escape text) ∧ unescape (escape text) = some text) ∧
    (∀ wire, (unescape wire).isSome = true ↔ IsPaired wire.toList) ∧
    (∀ wire, unescape wire = (unescapeChars wire.toList).map String.ofList) ∧
    (∀ wire text, IsUnseparated wire → unescape wire = some text → escape text = wire) ∧
    Set.BijOn escape Set.univ {wire | IsUnseparated wire ∧ IsPaired wire.toList} := by
  refine ⟨fun text => ⟨escape_no_separator text, unescape_escape text⟩, isSome_unescape_iff,
    unescape_eq, fun _ _ => escape_of_unescape, fun text _ => ⟨escape_no_separator text, ?_⟩,
    escape_injective.injOn, ?_⟩
  · rw [← isSome_unescape_iff, unescape_escape]
    rfl
  · rintro wire ⟨unseparated, paired⟩
    obtain ⟨text, undone⟩ := Option.isSome_iff_exists.mp ((isSome_unescape_iff wire).mpr paired)
    exact ⟨text, Set.mem_univ text, escape_of_unescape unseparated undone⟩

/-- Three backslashes before a letter are a backslash and an escaped character, two are a backslash
and the letter. -/
theorem adjacent_pairs_come_back :
    IsUnseparated "\\\\\\c\\\\n" ∧ unescape "\\\\\\c\\\\n" = some "\\:\\n" ∧
      escape "\\:\\n" = "\\\\\\c\\\\n" := by
  have unseparated : IsUnseparated "\\\\\\c\\\\n" := by decide
  have undone : unescape "\\\\\\c\\\\n" = some "\\:\\n" := by decide
  exact ⟨unseparated, undone, escaping_is_bijective.2.2.2.1 _ _ unseparated undone⟩

end EventFeed.Wire
