import ClusterTopology.Proofs.Enumeration
import Mathlib.Logic.Function.Basic

/-!
# Iterators on one set

A call of `next` is a loop, and each turn of it either answers or loads one more word
(`Cursor.turn`). So it comes to an answer, however many empty words there are to skip
(`Cursor.answerWithin_eq`). Several cursors can be advanced in any order (`Cursor.interleave`): each
goes on with its own slots as if it were the only one (`Cursor.interleave_eq`).
-/

namespace ClusterTopology.SlotSet

namespace Cursor

/-! ## The loop of a call -/

/-- The answer of the loop, if it comes within `n` turns. -/
def answerWithin : Nat → Cursor → Option (Option Slot × Cursor)
  | 0, _ => none
  | n + 1, c =>
    match c.turn with
    | .answer slot c' => some (slot, c')
    | .again c' => answerWithin n c'

/-- One turn for each word that is to be loaded and one more are enough. -/
theorem answerWithin_eq (c : Cursor) {n : Nat} (h : c.words.size - c.nextWord < n) :
    answerWithin n c = some c.next := by
  obtain ⟨n, rfl⟩ : ∃ m, n = m + 1 := ⟨n - 1, by omega⟩
  fun_induction next c generalizing n with
  | case1 c slot c' hturn =>
    unfold answerWithin
    rw [hturn]
  | case2 c c' hturn ih =>
    have hlt := lt_of_turn hturn
    obtain ⟨m, rfl⟩ : ∃ m, n = m + 1 := ⟨n - 1, by omega⟩
    unfold answerWithin
    rw [hturn]
    exact ih m (by omega)

/-! ## Cursors in any order -/

section Interleave

variable {ι : Type} [DecidableEq ι]

/-- Calls of `next`, each on the cursor that the schedule names: the answers in order, and the
cursors behind them. -/
def interleave : List ι → (ι → Cursor) → List (Option Slot) × (ι → Cursor)
  | [], cs => ([], cs)
  | i :: schedule, cs =>
    let (slot, c) := (cs i).next
    let (slots, cs) := interleave schedule (Function.update cs i c)
    (slot :: slots, cs)

theorem interleave_cons (i : ι) (schedule : List ι) (cs : ι → Cursor) :
    interleave (i :: schedule) cs =
      ((cs i).next.1 :: (interleave schedule (Function.update cs i (cs i).next.2)).1,
        (interleave schedule (Function.update cs i (cs i).next.2)).2) := rfl

/-- A call takes a slot from its own cursor only. -/
theorem remaining_update {cs : ι → Cursor} {i : ι} (hc : (cs i).Valid) (k : ι) :
    (Function.update cs i (cs i).next.2 k).remaining = (cs k).remaining.drop ([i].count k) := by
  by_cases hk : k = i
  · subst hk
    rw [Function.update_self, (next_eq_head? hc).2, List.count_singleton_self, List.drop_one]
  · rw [Function.update_of_ne hk, List.count_eq_zero_of_not_mem (mt List.mem_singleton.mp hk),
      List.drop_zero]

theorem valid_update {cs : ι → Cursor} (hcs : ∀ k, (cs k).Valid) (i k : ι) :
    (Function.update cs i (cs i).next.2 k).Valid := by
  by_cases hk : k = i
  · subst hk
    rw [Function.update_self]
    exact valid_next (hcs k)
  · rw [Function.update_of_ne hk]
    exact hcs k

/-- Whatever the schedule, a call on a cursor gives the slot that comes after as many as were taken
from this cursor before. -/
theorem interleave_eq {cs : ι → Cursor} (hcs : ∀ k, (cs k).Valid) (schedule : List ι) :
    (interleave schedule cs).1 =
        schedule.mapIdx (fun j i => (cs i).remaining[(schedule.take j).count i]?) ∧
      ∀ k, ((interleave schedule cs).2 k).remaining =
        (cs k).remaining.drop (schedule.count k) := by
  induction schedule generalizing cs with
  | nil => exact ⟨rfl, fun _ => List.drop_zero.symm⟩
  | cons i schedule ih =>
    obtain ⟨hgiven, hrest⟩ := ih (valid_update hcs i)
    have hcount (before : List ι) (k : ι) :
        ([i] ++ before).count k = [i].count k + before.count k := List.count_append
    rw [interleave_cons, List.mapIdx_cons, hgiven]
    constructor
    · refine congrArg₂ List.cons ?_ ?_
      · rw [(next_eq_head? (hcs i)).1, List.head?_eq_getElem?]
        rfl
      · congr 1
        funext j k
        rw [remaining_update (hcs i), List.getElem?_drop, List.take_succ_cons,
          ← hcount]
        rfl
    · intro k
      rw [hrest, remaining_update (hcs i), List.drop_drop, ← hcount]
      rfl

end Interleave

end Cursor

/-- Any number of calls on a fresh iterator gives the members in ascending order, then none for
good, and leaves the members that have not been given. Every single call comes to its answer after
at most one turn for each word that is left, and one more. Iterators on the same set can be advanced
in any order, and each follows this law by itself. -/
theorem iterators_follow_sweep (s : SlotSet) :
    (s.sweep.Pairwise (· < ·) ∧ ∀ slot, slot ∈ s.sweep ↔ s.contains slot = true) ∧
    (∀ k, (s.cursor.nextN k).1 = (List.range k).map (s.sweep[·]?) ∧
      (s.cursor.nextN k).2.remaining = s.sweep.drop k) ∧
    (∀ c : Cursor, c.answerWithin (c.words.size - c.nextWord + 1) = some c.next) ∧
    ∀ (ι : Type) [DecidableEq ι] (schedule : List ι),
      (Cursor.interleave schedule fun _ => s.cursor).1 =
        schedule.mapIdx (fun j i => s.sweep[(schedule.take j).count i]?) ∧
      ∀ i, ((Cursor.interleave schedule fun _ => s.cursor).2 i).remaining =
        s.sweep.drop (schedule.count i) := by
  refine ⟨⟨s.ascending_sweep, fun _ => mem_sweep⟩, fun k => ?_, fun c => ?_, fun ι _ schedule => ?_⟩
  · rw [← toList_eq_sweep]
    exact Cursor.nextN_eq s.valid_cursor k
  · exact c.answerWithin_eq (Nat.lt_succ_self _)
  · rw [← toList_eq_sweep]
    exact Cursor.interleave_eq (fun _ => s.valid_cursor) schedule

end ClusterTopology.SlotSet
