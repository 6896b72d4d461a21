import ClusterTopology.Proofs.Enumeration
import ClusterTopology.Proofs.Execution.Construction

/-!
# Walks with every step of arithmetic checked

A walk subtracts, narrows and adds in fixed widths. Here each such step is checked: `Execution.next`
and `Execution.runs` stop where a number would wrap around. They never do for a set of slots
(`Execution.nextN_eq`, `Execution.runs_eq`), so a set from any source can be viewed without a fault,
and no view leaves the slot space (`Source.execution_is_safe`).
-/

namespace ClusterTopology

open SlotSet

namespace Execution

/-! ## Arithmetic -/

def pred (n : Nat) : Except Stop Nat := if n = 0 then .error .underflow else .ok (n - 1)

def predWord (w : UInt64) : Except Stop UInt64 := if w = 0 then .error .underflow else .ok (w - 1)

/-- The slot with this number. -/
def narrow (n : Nat) : Except Stop Slot :=
  if n < UInt16.size then .ok n.toUInt16 else .error .overflow

/-- The slot after this one. -/
def succ (slot : Slot) : Except Stop Slot := narrow (slot.toNat + 1)

theorem succ_eq {slot a : Slot} (h : slot < a) : succ slot = .ok (slot + 1) := by
  have hnat := Interval.toNat_add_one h
  unfold succ narrow
  rw [← hnat, if_pos (slot + 1).toNat_lt]
  exact congrArg Except.ok UInt16.ofNat_toNat

/-! ## Walking -/

/-- The next slot, if there is one, and the cursor behind it. -/
def next (c : Cursor) : Except Stop (Option Slot × Cursor) :=
  if c.current ≠ 0 then do
    let below ← predWord c.current
    let word ← pred c.nextWord
    let slot ← narrow (word * Word.bits + Word.lowest c.current)
    return (some slot, { c with current := c.current &&& below })
  else if h : c.nextWord < c.words.size then
    next { c with nextWord := c.nextWord + 1, current := c.words[c.nextWord] }
  else .ok (none, c)
termination_by c.words.size - c.nextWord

/-- The answers to `n` calls of `next`, and the cursor behind them. -/
def nextN : Nat → Cursor → Except Stop (List (Option Slot) × Cursor)
  | 0, c => .ok ([], c)
  | n + 1, c => do
    let (slot, c) ← next c
    let (slots, c) ← nextN n c
    return (slot :: slots, c)

theorem next_of_ne_zero {c : Cursor} (hc : c.Valid) (h0 : c.current ≠ 0) :
    next c = .ok (some ((c.nextWord - 1) * Word.bits + Word.lowest c.current).toUInt16,
      { c with current := Word.clearLowest c.current }) := by
  have hword : predWord c.current = .ok (c.current - 1) := if_neg h0
  have hpred : pred c.nextWord = .ok (c.nextWord - 1) := if_neg (hc.loaded h0).ne'
  have hlt := (hc.at_lt h0).trans (show Slot.count < UInt16.size by decide)
  unfold next
  rw [if_pos h0, hword, hpred]
  show (narrow ((c.nextWord - 1) * Word.bits + Word.lowest c.current) >>= _) = _
  unfold narrow
  rw [if_pos hlt]
  rfl

/-- One call does not stop: the word at hand has been loaded, and its number is a slot. -/
theorem next_eq {c : Cursor} (hc : c.Valid) : next c = .ok c.next := by
  fun_induction Cursor.next c with
  | case1 c slot c' hturn =>
    cases slot with
    | some slot =>
      obtain ⟨h0, rfl, rfl⟩ := Cursor.of_turn_eq_some hturn
      exact next_of_ne_zero hc h0
    | none =>
      obtain ⟨h0, hle, rfl⟩ := Cursor.of_turn_eq_none hturn
      unfold next
      rw [if_neg (not_not_intro h0), dif_neg (not_lt.mpr hle)]
  | case2 c c' hturn ih =>
    have hvalid := hc.of_turn hturn
    obtain ⟨h0, hlt, rfl⟩ := Cursor.of_turn_eq_again hturn
    unfold next
    rw [if_neg (not_not_intro h0), dif_pos hlt]
    exact ih hvalid

theorem nextN_eq {c : Cursor} (hc : c.Valid) (k : Nat) : nextN k c = .ok (c.nextN k) := by
  induction k generalizing c with
  | zero => rfl
  | succ k ih =>
    unfold nextN
    rw [next_eq hc]
    show nextN k c.next.2 >>= _ = _
    rw [ih (Cursor.valid_next hc)]
    rfl

/-! ## Runs -/

/-- The runs of `run` and the slots above it. The run goes on as long as the slots touch it. -/
def joinRuns (run : Interval) : List Slot → Except Stop (List Interval)
  | [] => .ok [run]
  | slot :: slots => do
    if (← succ run.upper) = slot then joinRuns ⟨run.lower, slot⟩ slots
    else return run :: (← joinRuns (.singleton slot) slots)

/-- The runs of slots in ascending order, found from the lowest to the highest. -/
def runs : List Slot → Except Stop (List Interval)
  | [] => .ok []
  | slot :: slots => joinRuns (.singleton slot) slots

/-- A run in front of runs above it. It becomes one with the first if it touches it. -/
def glue (run : Interval) : List Interval → List Interval
  | [] => [run]
  | next :: rest =>
    if run.upper + 1 = next.lower then ⟨run.lower, next.upper⟩ :: rest else run :: next :: rest

theorem extendRuns_eq_glue (slot : Slot) (rest : List Interval) :
    Interval.extendRuns slot rest = glue (.singleton slot) rest := by
  cases rest <;> rfl

theorem glue_of_touch {run : Interval} {slot : Slot} (h : run.upper + 1 = slot)
    (rest : List Interval) :
    glue run (glue (.singleton slot) rest) = glue ⟨run.lower, slot⟩ rest := by
  cases rest with
  | nil => exact if_pos h
  | cons next rest =>
    unfold glue
    by_cases hn : slot + 1 = next.lower
    · simp [Interval.singleton, h, hn]
    · simp [Interval.singleton, h, hn]

theorem glue_of_apart {run : Interval} {slot : Slot} (h : run.upper + 1 ≠ slot)
    (rest : List Interval) :
    glue run (glue (.singleton slot) rest) = run :: glue (.singleton slot) rest := by
  cases rest with
  | nil => exact if_neg h
  | cons next rest =>
    unfold glue
    by_cases hn : slot + 1 = next.lower
    · simp [Interval.singleton, h, hn]
    · simp [Interval.singleton, h, hn]

/-- Joining from below and from above come to the same runs. A slot that is added to one lies below
another slot, so it is not the last of all. -/
theorem joinRuns_eq {run : Interval} {slots : List Slot}
    (h : (run.upper :: slots).Pairwise (· < ·)) :
    joinRuns run slots = .ok (glue run (slots.foldr Interval.extendRuns [])) := by
  induction slots generalizing run with
  | nil => rfl
  | cons slot slots ih =>
    obtain ⟨hfirst, hrest⟩ := List.pairwise_cons.mp h
    unfold joinRuns
    rw [succ_eq (hfirst slot List.mem_cons_self), List.foldr_cons, extendRuns_eq_glue]
    show (if run.upper + 1 = slot then _ else _) = _
    by_cases ht : run.upper + 1 = slot
    · rw [if_pos ht, glue_of_touch ht]
      exact ih hrest
    · rw [if_neg ht, glue_of_apart ht, ih hrest]
      rfl

theorem runs_eq (s : SlotSet) : runs s.toList = .ok s.runs := by
  have hasc := s.pairwise_toList
  unfold SlotSet.runs
  cases h : s.toList with
  | nil => rfl
  | cons slot slots =>
    rw [h] at hasc
    exact (joinRuns_eq hasc).trans (congrArg Except.ok (extendRuns_eq_glue slot _).symm)

end Execution

/-! ## All views -/

/-- No view of the set leaves the slot space, and none comes upon a number that wraps around. -/
structure SafelyViewed (s : SlotSet) : Prop where
  contains_eq_false : ∀ slot : Slot, 16384 ≤ slot.toNat → s.contains slot = false
  toList_lt : ∀ slot ∈ s.toList, slot.toNat < 16384
  toTreeSet_lt : ∀ slot ∈ s.toTreeSet, slot.toNat < 16384
  toArray_lt : ∀ slot ∈ s.toArray, slot.toNat < 16384
  runs_lt : ∀ i ∈ s.runs, i.lower.toNat < 16384 ∧ i.upper.toNat < 16384
  nextN_lt : ∀ k slot, some slot ∈ (s.cursor.nextN k).1 → slot.toNat < 16384
  nextN_eq : ∀ k, Execution.nextN k s.cursor = .ok (s.cursor.nextN k)
  runs_eq : Execution.runs s.toList = .ok s.runs

namespace SlotSet

theorem mem_of_mem_answers {s : SlotSet} {slot : Slot} {k : Nat}
    (h : some slot ∈ (s.cursor.nextN k).1) : slot ∈ s := by
  rw [(Cursor.nextN_eq s.valid_cursor k).1] at h
  obtain ⟨i, -, hi⟩ := List.mem_map.mp h
  exact mem_toList.mp (List.mem_of_getElem? hi)

theorem safelyViewed (s : SlotSet) : SafelyViewed s where
  contains_eq_false slot h := by
    rw [← Bool.not_eq_true]
    exact fun hm => not_lt.mpr h (inSpace_of_mem hm)
  toList_lt slot h := inSpace_of_mem (mem_toList.mp h)
  toTreeSet_lt slot h := inSpace_of_mem (mem_toTreeSet.mp h)
  toArray_lt slot h := inSpace_of_mem (Array.mem_filter.mp h).2
  runs_lt i h := ⟨inSpace_of_mem (mem_of_mem_runs h).1, inSpace_of_mem (mem_of_mem_runs h).2⟩
  nextN_lt k slot h := inSpace_of_mem (mem_of_mem_answers h)
  nextN_eq k := Execution.nextN_eq s.valid_cursor k
  runs_eq := Execution.runs_eq s

end SlotSet

/-- Whatever a set is made from, the construction finds every word that it looks for, and stops only
to refuse the input. It comes to at most 256 words, and these are the words of a set that can be
viewed in all ways without leaving the slot space, and without a number that wraps around. -/
theorem Source.execution_is_safe (source : Source) :
    source.execute = Execution.check (source.build.map SlotSet.words) ∧
      (∀ stop, source.execute = .error stop →
        ∃ reason, stop = .refused reason ∧ source.build = .error reason) ∧
      ∀ words, source.execute = .ok words →
        words.size ≤ 256 ∧ ∃ s, source.build = .ok s ∧ s.words = words ∧ SafelyViewed s := by
  refine ⟨source.execute_eq, fun stop h => ?_, fun words h => ?_⟩
  · rw [source.execute_eq] at h
    cases hb : source.build with
    | error reason =>
      rw [hb] at h
      exact ⟨reason, (Except.error.inj h).symm, rfl⟩
    | ok s =>
      rw [hb] at h
      cases h
  · rw [source.execute_eq] at h
    cases hb : source.build with
    | error reason =>
      rw [hb] at h
      cases h
    | ok s =>
      rw [hb] at h
      obtain rfl : s.words = words := Except.ok.inj h
      exact ⟨s.size_le, s, rfl, rfl, s.safelyViewed⟩

/-- Two bounds on either side of a word boundary. -/
theorem Source.execution_is_safe_of_boundary :
    ∃ s, (Source.bounds 63 64).build = .ok s ∧ s.words = #[0x8000000000000000, 1] ∧
      SafelyViewed s :=
  ((Source.bounds 63 64).execution_is_safe.2.2 #[0x8000000000000000, 1] (by rfl)).2

end ClusterTopology
