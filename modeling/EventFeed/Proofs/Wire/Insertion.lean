/-
**Headers are a map that keeps its order.**

Headers are changed by writing one over the header with its name, by writing one only if its name is
new, and by collecting others from a list of pairs. What they hold then is told by what has been
written since they were collected: the names in the order in which they first came, and for each the
last value that was written over others, or else its first.

* `names_written`, `get?_written`: what headers hold after what has been written;
* `without_change`, `changed_without`: what is done to one name is not seen in the others;
* `headers_keep_order`: so headers are a map from names, in the order of their first coming.
-/

import EventFeed.Proofs.Wire.Acceptance
import Mathlib.Data.Finset.Card
import Mathlib.Data.List.Induction

namespace EventFeed.Wire.Headers

/-! ### Changes and what they have written -/

/-- What is done to headers: one is written, over the one with its name or only if there is none, or
the headers of a list of pairs take their place. -/
inductive Change where
  | insert (name value : String)
  | insertFirst (name value : String)
  | collect (pairs : List (String × String))

def change (headers : Headers) : Change → Headers
  | .insert name value => headers.insert name value
  | .insertFirst name value => headers.insertFirst name value
  | .collect pairs => ofPairs pairs

/-- The headers that changes make, from none on. -/
def changed (changes : List Change) : Headers :=
  changes.foldl change empty

/-- A header that was written, over the one with its name or only if there was none. -/
structure Writing where
  name : String
  value : String
  replaces : Bool

/-- What has been written since the headers were collected, after one more change. -/
def Change.extend (history : List Writing) : Change → List Writing
  | .insert name value => history ++ [⟨name, value, true⟩]
  | .insertFirst name value => history ++ [⟨name, value, false⟩]
  | .collect pairs => pairs.map fun pair => ⟨pair.1, pair.2, false⟩

def historyOf (changes : List Change) : List Writing :=
  changes.foldl Change.extend []

/-- The names that were written, in the order in which they first came. -/
def appearances (history : List Writing) : List String :=
  (history.map Writing.name).eraseDups

/-- The value of a name: the last that was written over others since the name first came, or the
first if none was. -/
def valueOf? (history : List Writing) (name : String) : Option String :=
  let own := history.filter (·.name = name)
  own.head?.map fun first => ((own.filter (·.replaces)).getLast?.getD first).value

/-! ### What headers hold -/

def write (headers : Headers) (writing : Writing) : Headers :=
  if writing.replaces then headers.insert writing.name writing.value
  else headers.insertFirst writing.name writing.value

/-- The headers that were written, from none on. -/
def written (history : List Writing) : Headers :=
  history.foldl write empty

theorem changed_concat (changes : List Change) (last : Change) :
    changed (changes ++ [last]) = (changed changes).change last :=
  List.foldl_concat ..

theorem written_concat (history : List Writing) (last : Writing) :
    written (history ++ [last]) = (written history).write last :=
  List.foldl_concat ..

theorem ofPairs_concat (pairs : List (String × String)) (last : String × String) :
    ofPairs (pairs ++ [last]) = (ofPairs pairs).insertFirst last.1 last.2 :=
  List.foldl_concat ..

/-- A change makes of what has been written what has been written after it. -/
theorem change_written (history : List Writing) (last : Change) :
    (written history).change last = written (last.extend history) := by
  cases last with
  | insert name value => exact (written_concat history ⟨name, value, true⟩).symm
  | insertFirst name value => exact (written_concat history ⟨name, value, false⟩).symm
  | collect pairs => simp [change, Change.extend, written, write, ofPairs, List.foldl_map]

/-- **Headers are what has been written since they were collected.** -/
theorem changed_eq_written (changes : List Change) :
    changed changes = written (historyOf changes) := by
  induction changes using List.reverseRecOn with
  | nil => rfl
  | append_singleton changes last step =>
    rw [changed_concat, step, change_written, historyOf, historyOf, List.foldl_concat]

theorem names_write (headers : Headers) (writing : Writing) :
    (headers.write writing).names =
      if writing.name ∈ headers.names then headers.names else headers.names ++ [writing.name] := by
  unfold write
  split
  · exact names_insert headers writing.name writing.value
  · exact names_insertFirst headers writing.name writing.value

theorem eraseDups_concat (names : List String) (name : String) :
    (names ++ [name]).eraseDups =
      if name ∈ names then names.eraseDups else names.eraseDups ++ [name] := by
  rw [List.eraseDups_append]
  by_cases found : name ∈ names
  · simp [List.removeAll, found]
  · simp [List.removeAll, found, List.eraseDups_cons]

/-- **The names stand in the order in which they first came.** -/
theorem names_written (history : List Writing) : (written history).names = appearances history := by
  induction history using List.reverseRecOn with
  | nil => rfl
  | append_singleton history last step =>
    rw [written_concat, names_write, step, appearances, appearances, List.map_append,
      List.map_singleton, eraseDups_concat]
    simp only [List.mem_eraseDups]

theorem get?_write (headers : Headers) (writing : Writing) (name : String) :
    (headers.write writing).get? name =
      if writing.name = name ∧ (writing.replaces = true ∨ headers.get? name = none) then
        some writing.value
      else headers.get? name := by
  unfold write
  split
  · rename_i replaces
    simp [get?_insert, replaces]
  · rename_i keeps
    rw [get?_insertFirst]
    by_cases same : writing.name = name
    · simp [same, keeps, contains]
    · simp [same]

theorem valueOf?_concat (history : List Writing) (last : Writing) (name : String) :
    valueOf? (history ++ [last]) name =
      if last.name = name ∧ (last.replaces = true ∨ valueOf? history name = none) then
        some last.value
      else valueOf? history name := by
  unfold valueOf?
  rw [List.filter_append]
  by_cases same : last.name = name
  · have kept : [last].filter (·.name = name) = [last] := by simp [same]
    rw [kept]
    generalize history.filter (·.name = name) = own
    cases replaces : last.replaces with
    | true => cases own <;> simp [same, replaces]
    | false => cases own <;> simp [same, replaces]
  · simp [same]

/-- **A look-up finds the last value that was written over others, or the first.** -/
theorem get?_written (history : List Writing) (name : String) :
    (written history).get? name = valueOf? history name := by
  induction history using List.reverseRecOn with
  | nil => rfl
  | append_singleton history last step =>
    rw [written_concat, get?_write, valueOf?_concat, step]

/-- The pairs are those that look-ups find. -/
theorem mem_pairs_iff (headers : Headers) (name value : String) :
    (name, value) ∈ headers.pairs ↔ headers.get? name = some value := by
  unfold get?
  constructor
  · intro member
    obtain ⟨pair, found⟩ : ∃ pair, headers.pairs.find? (fun pair => pair.1 = name) = some pair :=
      Option.isSome_iff_exists.mp (List.find?_isSome.mpr ⟨_, member, by simp⟩)
    have named : pair.1 = name := by simpa using List.find?_some found
    have same : pair = (name, value) :=
      List.inj_on_of_nodup_map headers.distinct (List.mem_of_find?_eq_some found) member named
    rw [found, same, Option.map_some]
  · intro read
    obtain ⟨⟨other, held⟩, found, rfl⟩ := Option.map_eq_some_iff.mp read
    obtain rfl : other = name := by simpa using List.find?_some found
    exact List.mem_of_find?_eq_some found

theorem size_written (history : List Writing) :
    (written history).size = (history.map Writing.name).toFinset.card := by
  have same : (written history).names.toFinset = (history.map Writing.name).toFinset := by
    ext name
    simp [names_written, appearances]
  calc (written history).size = (written history).names.length := (List.length_map ..).symm
    _ = (written history).names.toFinset.card :=
      (List.toFinset_card_of_nodup (written history).distinct).symm
    _ = (history.map Writing.name).toFinset.card := by rw [same]

/-! ### One name and the others -/

/-- The headers but the one with the name, with the values and in the order that they have. -/
def without (headers : Headers) (name : String) : Headers where
  pairs := headers.pairs.filter (·.1 ≠ name)
  distinct := headers.distinct.sublist (List.filter_sublist.map Prod.fst)

theorem filter_putPair (name value : String) (pairs : List (String × String)) :
    (putPair name value pairs).filter (·.1 ≠ name) = pairs.filter (·.1 ≠ name) := by
  induction pairs with
  | nil => simp [putPair]
  | cons pair pairs step =>
    obtain ⟨other, held⟩ := pair
    by_cases same : other = name
    · simp [putPair, same]
    · simpa [putPair, same] using step

theorem filter_putPair_of_ne {other name : String} (different : other ≠ name) (value : String)
    (pairs : List (String × String)) :
    (putPair other value pairs).filter (·.1 ≠ name) =
      putPair other value (pairs.filter (·.1 ≠ name)) := by
  induction pairs with
  | nil => simp [putPair, different]
  | cons pair pairs step =>
    obtain ⟨first, held⟩ := pair
    by_cases same : first = other
    · subst same
      simp [putPair, different]
    · by_cases left : first = name
      · subst left
        simpa [putPair, same] using step
      · simpa [putPair, same, left] using step

/-- Writing the header of a name leaves the others as they are. -/
theorem without_insert (headers : Headers) (name value : String) :
    (headers.insert name value).without name = headers.without name :=
  eq_of_pairs (filter_putPair name value headers.pairs)

theorem without_insert_of_ne (headers : Headers) {other name : String} (different : other ≠ name)
    (value : String) :
    (headers.insert other value).without name = (headers.without name).insert other value :=
  eq_of_pairs (filter_putPair_of_ne different value headers.pairs)

theorem contains_without_of_ne (headers : Headers) {other name : String}
    (different : other ≠ name) :
    (headers.without name).contains other = headers.contains other := by
  rw [Bool.eq_iff_iff, contains_iff, contains_iff]
  simp [names, without, different]

theorem without_insertFirst (headers : Headers) (name value : String) :
    (headers.insertFirst name value).without name = headers.without name := by
  rw [insertFirst_eq]
  split
  · rfl
  · exact without_insert headers name value

theorem without_insertFirst_of_ne (headers : Headers) {other name : String}
    (different : other ≠ name) (value : String) :
    (headers.insertFirst other value).without name =
      (headers.without name).insertFirst other value := by
  rw [insertFirst_eq, insertFirst_eq, contains_without_of_ne headers different]
  split
  · rfl
  · exact without_insert_of_ne headers different value

theorem without_ofPairs (pairs : List (String × String)) (name : String) :
    (ofPairs pairs).without name = ofPairs (pairs.filter (·.1 ≠ name)) := by
  induction pairs using List.reverseRecOn with
  | nil => rfl
  | append_singleton pairs last step =>
    rw [ofPairs_concat, List.filter_append]
    by_cases same : last.1 = name
    · subst same
      simp [without_insertFirst, step]
    · simp [without_insertFirst_of_ne _ same, step, same, ofPairs_concat]

/-- What a change does to the headers of other names, if anything. -/
def Change.without? (name : String) : Change → Option Change
  | .insert other value => if other = name then none else some (.insert other value)
  | .insertFirst other value => if other = name then none else some (.insertFirst other value)
  | .collect pairs => some (.collect (pairs.filter (·.1 ≠ name)))

/-- **What a change does to one name is not seen in the others.** -/
theorem without_change (headers : Headers) (name : String) (last : Change) :
    (headers.change last).without name =
      match last.without? name with
      | none => headers.without name
      | some rest => (headers.without name).change rest := by
  cases last with
  | insert other value =>
    by_cases same : other = name
    · subst same
      simp [Change.without?, change, without_insert]
    · simp [Change.without?, change, same, without_insert_of_ne]
  | insertFirst other value =>
    by_cases same : other = name
    · subst same
      simp [Change.without?, change, without_insertFirst]
    · simp [Change.without?, change, same, without_insertFirst_of_ne]
  | collect pairs => exact without_ofPairs pairs name

/-- Changes that leave a name out make the headers without it. -/
theorem changed_without (changes : List Change) (name : String) :
    changed (changes.filterMap (Change.without? name)) = (changed changes).without name := by
  induction changes using List.reverseRecOn with
  | nil => rfl
  | append_singleton changes last step =>
    rw [changed_concat, without_change, ← step, List.filterMap_append]
    cases rest : last.without? name with
    | none => simp [rest]
    | some more => simp [rest, changed_concat]

/-- **Headers are a map that keeps its order**, whatever is written and collected. No name is there
twice, and a look-up finds the last value that was written over others since the name came, or else
its first. The names are those that were written, in the order in which they first came, and as many
as there are different ones; the pairs are those that look-ups find. A header that is to be added if
its name is new is added exactly if the name was not written before, and else nothing changes.
Writing the header of a name, in either way, leaves the others with their values and in their order;
and if all that was done to a name is left out, the others are the same. -/
theorem headers_keep_order (changes : List Change) :
    let headers := changed changes
    let history := historyOf changes
    headers.names.Nodup ∧
    (∀ name, headers.get? name = valueOf? history name) ∧
    headers.names = (history.map Writing.name).eraseDups ∧
    (∀ name value, (name, value) ∈ headers.pairs ↔ headers.get? name = some value) ∧
    headers.size = (history.map Writing.name).toFinset.card ∧
    (∀ name value, ((headers.addNew name value).1 = true ↔ name ∉ history.map Writing.name) ∧
      ((headers.addNew name value).1 = false → (headers.addNew name value).2 = headers)) ∧
    (∀ name value, (headers.insert name value).without name = headers.without name ∧
      (headers.addNew name value).2.without name = headers.without name) ∧
    ∀ name, changed (changes.filterMap (Change.without? name)) = headers.without name := by
  intro headers history
  have made : headers = written history := changed_eq_written changes
  have named : headers.names = appearances history := made ▸ names_written history
  refine ⟨headers.distinct, fun name => made ▸ get?_written history name, named,
    headers.mem_pairs_iff, made ▸ size_written history, fun name value => ⟨?_, fun known => ?_⟩,
    fun name value => ⟨headers.without_insert name value, headers.without_insertFirst name value⟩,
    changed_without changes⟩
  · rw [addNew_fst, Bool.not_eq_true', ← Bool.not_eq_true, contains_iff, named, appearances,
      List.mem_eraseDups]
  · rw [addNew_fst, Bool.not_eq_false'] at known
    rw [addNew, if_pos known]

/-- Headers that are collected after others, with one name twice, and changed in either way. -/
def mixedChanges : List Change :=
  [.insert "id" "0", .collect [("host", "a"), ("id", "1"), ("host", "b")], .insertFirst "id" "2",
    .insert "host" "c", .insert "ack" "3", .insertFirst "host" "d"]

/-- A name that came first stays first, and one that is there is not added. -/
theorem mixedChanges_keep_order :
    (changed mixedChanges).pairs = [("host", "c"), ("id", "1"), ("ack", "3")] ∧
      ((changed mixedChanges).addNew "id" "4").1 = false ∧
      ((changed mixedChanges).addNew "id" "4").2 = changed mixedChanges := by
  have known : ((changed mixedChanges).addNew "id" "4").1 = false := by decide +kernel
  obtain ⟨-, -, -, -, -, added, -⟩ := headers_keep_order mixedChanges
  exact ⟨by decide +kernel, known, (added "id" "4").2 known⟩

end EventFeed.Wire.Headers
