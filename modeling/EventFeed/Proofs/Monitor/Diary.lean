/-
**The diary of a keeper.**

What a keeper does next depends on the keeper and on what it sees. `Diary.follow` lets a keeper see
any views, one after the other, and writes down each step that it takes; under a view that makes it
wait, nothing happens. So what holds of every diary holds whatever goes on around a keeper.

* `follow_concat`: one more view is one more turn;
* `exists_follow_of_entries`: what stands before an entry is the diary of the moment of the entry.
-/

import EventFeed.Proofs.Monitor.Deeds
import Mathlib.Data.List.Induction

namespace EventFeed

open EventFeed.Time
open EventFeed.Wire (Frame)

/-- A step that a keeper took: what it saw, the keeper before and after it, and what was done. -/
structure Entry where
  view : View
  before : Keeper
  after : Keeper
  effects : List Effect

/-- A keeper with the steps that it took so far. -/
structure Diary where
  keeper : Keeper
  entries : List Entry

namespace Diary

/-- The diary of a keeper that has done nothing yet. -/
def start (keeper : Keeper) : Diary :=
  ⟨keeper, []⟩

/-- The keeper sees something, and does the next thing unless it has to wait. -/
def turn (settings : Settings) (diary : Diary) (view : View) : Diary :=
  match diary.keeper.step settings view with
  | none => diary
  | some (after, effects) => ⟨after, diary.entries ++ [⟨view, diary.keeper, after, effects⟩]⟩

def follow (settings : Settings) (keeper : Keeper) (views : List View) : Diary :=
  views.foldl (turn settings) (start keeper)

variable {settings : Settings} {keeper : Keeper} {views : List View}

theorem follow_concat (settings : Settings) (keeper : Keeper) (views : List View) (view : View) :
    follow settings keeper (views ++ [view]) = (follow settings keeper views).turn settings view :=
  List.foldl_append

theorem turn_of_none {diary : Diary} {view : View}
    (waits : diary.keeper.step settings view = none) : diary.turn settings view = diary := by
  rw [turn, waits]

theorem turn_of_some {diary : Diary} {view : View} {step : Keeper.Step}
    (stepped : diary.keeper.step settings view = some step) :
    diary.turn settings view =
      ⟨step.1, diary.entries ++ [⟨view, diary.keeper, step.1, step.2⟩]⟩ := by
  rw [turn, stepped]

/-- **What stands before an entry is the diary of the moment of the entry**, and the entry is the
step that was taken then. -/
theorem exists_follow_of_entries {front back : List Entry} {entry : Entry}
    (written : (follow settings keeper views).entries = front ++ entry :: back) :
    ∃ early, early ++ [entry.view] <+: views ∧
      follow settings keeper early = ⟨entry.before, front⟩ ∧
      entry.before.step settings entry.view = some (entry.after, entry.effects) ∧
      follow settings keeper (early ++ [entry.view]) = ⟨entry.after, front ++ [entry]⟩ := by
  induction views using List.reverseRecOn generalizing back with
  | nil => simp [follow, start] at written
  | append_singleton views view ih =>
    have earlier : ∀ {back}, (follow settings keeper views).entries = front ++ entry :: back →
        _ := fun written => ih written
    rw [follow_concat] at written
    cases stepped : (follow settings keeper views).keeper.step settings view with
    | none =>
      rw [turn_of_none stepped] at written
      obtain ⟨early, isPrefix, rest⟩ := earlier written
      exact ⟨early, isPrefix.trans (List.prefix_append views [view]), rest⟩
    | some step =>
      rw [turn_of_some stepped] at written
      rcases List.eq_nil_or_concat back with rfl | ⟨kept, last, rfl⟩
      · obtain ⟨same, new⟩ := List.append_inj' written rfl
        obtain rfl := List.singleton_inj.mp new
        have moment : follow settings keeper views =
            ⟨(follow settings keeper views).keeper, front⟩ := by rw [← same]
        refine ⟨views, List.prefix_refl _, moment, stepped, ?_⟩
        rw [follow_concat, turn_of_some stepped, same]
      · have split : (follow settings keeper views).entries = front ++ entry :: kept := by
          rw [List.concat_eq_append, ← List.cons_append, ← List.append_assoc] at written
          exact (List.append_inj' written rfl).1
        obtain ⟨early, isPrefix, rest⟩ := earlier split
        exact ⟨early, isPrefix.trans (List.prefix_append views [view]), rest⟩

end Diary

end EventFeed
