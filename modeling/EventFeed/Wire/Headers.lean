/-
**Headers.**

The headers of a frame are pairs of a name and a value, each name once, in the order in which the
names first came. `insert` writes a header, in its place if the name is there already; `addNew`
leaves a header that is there as it is and says so, and `insertFirst` does the same in silence.

* `get?_insert`, `get?_insertFirst`: what either operation does to every look-up;
* `names_insert`, `names_insertFirst`: neither moves a name, and a new one comes last.
-/

namespace EventFeed.Wire

/-- The list of pairs with one more pair, in the place of the pair with its name or at the end. -/
def putPair (name value : String) : List (String × String) → List (String × String)
  | [] => [(name, value)]
  | (other, held) :: pairs =>
    if other = name then (name, value) :: pairs else (other, held) :: putPair name value pairs

theorem names_putPair (name value : String) (pairs : List (String × String)) :
    (putPair name value pairs).map Prod.fst =
      if name ∈ pairs.map Prod.fst then pairs.map Prod.fst else pairs.map Prod.fst ++ [name] := by
  induction pairs with
  | nil => simp [putPair]
  | cons pair pairs step =>
    obtain ⟨other, held⟩ := pair
    by_cases same : other = name
    · simp [putPair, same]
    · have different : name ≠ other := fun equal => same equal.symm
      simp only [putPair, same, if_false, List.map_cons, step, List.mem_cons, different, false_or]
      split <;> simp

/-- Pairs with one more pair have pairwise distinct names if they had them before. -/
theorem nodup_putPair (name value : String) {pairs : List (String × String)}
    (distinct : (pairs.map Prod.fst).Nodup) :
    ((putPair name value pairs).map Prod.fst).Nodup := by
  rw [names_putPair]
  split
  · exact distinct
  · rename_i fresh
    rw [List.nodup_append]
    refine ⟨distinct, by simp, ?_⟩
    rintro other found last isName rfl
    simp only [List.mem_singleton] at isName
    exact fresh (isName ▸ found)

/-- Headers: pairs of a name and a value, no name twice. -/
structure Headers where
  pairs : List (String × String)
  distinct : (pairs.map Prod.fst).Nodup
  deriving DecidableEq

namespace Headers

def empty : Headers where
  pairs := []
  distinct := by simp

def get? (headers : Headers) (name : String) : Option String :=
  (headers.pairs.find? fun pair => pair.1 = name).map Prod.snd

/-- Whether there is a header with the name. -/
def contains (headers : Headers) (name : String) : Bool :=
  (headers.get? name).isSome

def names (headers : Headers) : List String :=
  headers.pairs.map Prod.fst

def size (headers : Headers) : Nat :=
  headers.pairs.length

/-- The headers with one more, in the place of the header with its name or at the end. -/
def insert (headers : Headers) (name value : String) : Headers where
  pairs := putPair name value headers.pairs
  distinct := nodup_putPair name value headers.distinct

/-- Whether the name is new, and the headers with one more at the end if it is. -/
def addNew (headers : Headers) (name value : String) : Bool × Headers :=
  if headers.contains name then (false, headers) else (true, headers.insert name value)

/-- The headers with one more at the end, unless one with its name is there. -/
def insertFirst (headers : Headers) (name value : String) : Headers :=
  (headers.addNew name value).2

/-- The headers of a list of pairs: of pairs with one name the first counts. -/
def ofPairs (pairs : List (String × String)) : Headers :=
  pairs.foldl (fun headers pair => headers.insertFirst pair.1 pair.2) empty

/-- A name is there exactly if it is among the names. -/
theorem contains_iff {headers : Headers} {name : String} :
    headers.contains name = true ↔ name ∈ headers.names := by
  simp [contains, get?, names, List.find?_isSome]

/-- Writing a header changes the look-up of its name and of no other. -/
theorem get?_insert (headers : Headers) (name value other : String) :
    (headers.insert name value).get? other =
      if name = other then some value else headers.get? other := by
  obtain ⟨pairs, distinct⟩ := headers
  simp only [get?, insert]
  clear distinct
  induction pairs with
  | nil => by_cases same : name = other <;> simp [putPair, same]
  | cons pair pairs step =>
    obtain ⟨held, kept⟩ := pair
    by_cases same : held = name
    · subst same
      by_cases asked : held = other <;> simp [putPair, asked]
    · by_cases asked : held = other
      · subst asked
        have different : name ≠ held := fun equal => same equal.symm
        simp [putPair, same, different]
      · simpa [putPair, same, asked] using step

theorem addNew_fst (headers : Headers) (name value : String) :
    (headers.addNew name value).1 = !headers.contains name := by
  unfold addNew
  cases headers.contains name <;> rfl

theorem insertFirst_eq (headers : Headers) (name value : String) :
    headers.insertFirst name value =
      if headers.contains name then headers else headers.insert name value := by
  unfold insertFirst addNew
  split <;> rfl

/-- A header that is kept changes no look-up, and a new one that of its name. -/
theorem get?_insertFirst (headers : Headers) (name value other : String) :
    (headers.insertFirst name value).get? other =
      if name = other ∧ headers.contains name = false then some value else headers.get? other := by
  rw [insertFirst_eq]
  split
  · rename_i found
    simp [found]
  · rename_i absent
    simp [get?_insert, absent]

/-- Writing a header moves no name and puts a new one last. -/
theorem names_insert (headers : Headers) (name value : String) :
    (headers.insert name value).names =
      if name ∈ headers.names then headers.names else headers.names ++ [name] :=
  names_putPair name value headers.pairs

/-- Keeping the first header moves no name and puts a new one last. -/
theorem names_insertFirst (headers : Headers) (name value : String) :
    (headers.insertFirst name value).names =
      if name ∈ headers.names then headers.names else headers.names ++ [name] := by
  rw [insertFirst_eq]
  by_cases found : name ∈ headers.names
  · simp [contains_iff.mpr found, found]
  · have absent : ¬ headers.contains name = true := fun held => found (contains_iff.mp held)
    rw [if_neg absent, names_insert]

end Headers

end EventFeed.Wire
