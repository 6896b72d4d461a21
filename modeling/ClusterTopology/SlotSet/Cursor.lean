import ClusterTopology.SlotSet.Basic

/-!
# Walking through a set

A `Cursor` stands somewhere in the words of a bitmap and gives their slots one after the other, in
ascending order. It skips empty words, and once it has no slot left it stays that way.
-/

namespace ClusterTopology.SlotSet

/-- A position in a bitmap: the word to load next, and what is left of the word before it. -/
structure Cursor where
  words : Array UInt64
  nextWord : Nat
  current : UInt64
deriving DecidableEq, Repr

/-- The cursor in front of the first slot of the set. -/
def cursor (s : SlotSet) : Cursor := ⟨s.words, 0, 0⟩

namespace Cursor

/-- What a turn of the walk comes to: an answer with the cursor behind it, or a cursor to go on
with. -/
inductive Turn where
  | answer (slot : Option Slot) (c : Cursor)
  | again (c : Cursor)

/-- Gives the least slot of the word at hand. If there is none, the next word is loaded. -/
def turn (c : Cursor) : Turn :=
  if c.current ≠ 0 then
    .answer (some ((c.nextWord - 1) * Word.bits + Word.lowest c.current).toUInt16)
      { c with current := Word.clearLowest c.current }
  else if h : c.nextWord < c.words.size then
    .again { c with nextWord := c.nextWord + 1, current := c.words[c.nextWord] }
  else .answer none c

section

variable {c c' : Cursor}

/-- A slot is taken from the word at hand. -/
theorem of_turn_eq_some {slot : Slot} (h : c.turn = .answer (some slot) c') :
    c.current ≠ 0 ∧ slot = ((c.nextWord - 1) * Word.bits + Word.lowest c.current).toUInt16 ∧
      c' = { c with current := Word.clearLowest c.current } := by
  unfold turn at h
  split at h
  · cases h
    exact ⟨‹_›, rfl, rfl⟩
  · split at h <;> cases h

/-- At the end there is none. -/
theorem of_turn_eq_none (h : c.turn = .answer none c') :
    c.current = 0 ∧ c.words.size ≤ c.nextWord ∧ c' = c := by
  unfold turn at h
  split at h
  · cases h
  · split at h
    · cases h
    · cases h
      exact ⟨Decidable.of_not_not ‹_›, Nat.le_of_not_lt ‹_›, rfl⟩

/-- An empty word is followed by the one to load next. -/
theorem of_turn_eq_again (h : c.turn = .again c') :
    c.current = 0 ∧ ∃ _ : c.nextWord < c.words.size,
      c' = { c with nextWord := c.nextWord + 1, current := c.words[c.nextWord] } := by
  unfold turn at h
  split at h
  · cases h
  · split at h
    · cases h
      exact ⟨Decidable.of_not_not ‹_›, ‹_›, rfl⟩
    · cases h

/-- A turn that does not answer leaves one word less to load. -/
theorem lt_of_turn (h : c.turn = .again c') :
    c'.words.size - c'.nextWord < c.words.size - c.nextWord := by
  obtain ⟨-, hlt, rfl⟩ := of_turn_eq_again h
  exact Nat.sub_succ_lt_self _ _ hlt

end

/-- The next slot, if there is one, and the cursor behind it. -/
def next (c : Cursor) : Option Slot × Cursor :=
  match _h : c.turn with
  | .answer slot c' => (slot, c')
  | .again c' => next c'
termination_by c.words.size - c.nextWord
decreasing_by exact lt_of_turn _h

/-- The answers to `n` calls of `next`, and the cursor behind them. -/
def nextN : Nat → Cursor → List (Option Slot) × Cursor
  | 0, c => ([], c)
  | n + 1, c =>
    let (slot, c) := c.next
    let (slots, c) := nextN n c
    (slot :: slots, c)

/-- What gets smaller with every slot given. A word to load weighs more than any word at hand. -/
def weight (c : Cursor) : Nat := (c.words.size - c.nextWord) * UInt64.size + c.current.toNat

theorem weight_lt_of_again {c c' : Cursor} (h : c.turn = .again c') : c'.weight < c.weight := by
  obtain ⟨h0, hlt, rfl⟩ := of_turn_eq_again h
  have hw := c.words[c.nextWord].toNat_lt
  simp only [weight, UInt64.size]
  omega

theorem weight_lt_of_answer {c c' : Cursor} {slot : Slot} (h : c.turn = .answer (some slot) c') :
    c'.weight < c.weight := by
  obtain ⟨h0, -, rfl⟩ := of_turn_eq_some h
  exact Nat.add_lt_add_left (UInt64.lt_iff_toNat_lt.1 (Word.clearLowest_lt h0)) _

theorem weight_lt_of_next {c c' : Cursor} {slot : Slot} (h : c.next = (some slot, c')) :
    c'.weight < c.weight := by
  fun_induction next c with
  | case1 c slot' c'' hturn =>
    cases h
    exact weight_lt_of_answer hturn
  | case2 c c'' hturn ih => exact Nat.lt_trans (ih h) (weight_lt_of_again hturn)

/-- The slots that the cursor has not given yet. -/
def remaining (c : Cursor) : List Slot :=
  match _h : c.next with
  | (some slot, c') => slot :: remaining c'
  | (none, _) => []
termination_by c.weight
decreasing_by exact weight_lt_of_next _h

end Cursor

/-- The slots of the set in ascending order. -/
def toList (s : SlotSet) : List Slot := s.cursor.remaining

end ClusterTopology.SlotSet
