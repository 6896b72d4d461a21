import ClusterTopology.Proofs.Ascending
import ClusterTopology.Proofs.Bitmap
import ClusterTopology.SlotSet.Cursor

/-!
# What a cursor gives

The slots that a cursor is still to give are `Cursor.Pending`. One call of `next` gives the least of
them and leaves the others (`Cursor.gives_of_next`), or none is left (`Cursor.not_pending_of_next`).
So a walk gives exactly the pending slots in ascending order, and `SlotSet.toList` lists exactly the
members of the set (`SlotSet.mem_toList`, `SlotSet.pairwise_toList`).
-/

namespace ClusterTopology.SlotSet

namespace Cursor

/-- The numbers that the cursor is to give: what is left of the word at hand, and all that is in
the words to load. -/
def Pending (c : Cursor) (n : Nat) : Prop :=
  (n / Word.bits + 1 = c.nextWord ∧ Word.hasBit c.current (n % Word.bits) = true) ∨
    (c.nextWord ≤ n / Word.bits ∧ holds c.words n = true)

/-- A cursor that a walk can come to. -/
structure Valid (c : Cursor) : Prop where
  size_le : c.words.size ≤ wordCount
  nextWord_le : c.nextWord ≤ c.words.size
  loaded : c.current ≠ 0 → 0 < c.nextWord

/-- Giving `slot` takes the least pending number from `c`, and leaves `c'`. -/
structure Gives (c : Cursor) (slot : Slot) (c' : Cursor) : Prop where
  valid : c'.Valid
  pending : c.Pending slot.toNat
  least : ∀ n, c.Pending n → slot.toNat ≤ n
  rest : ∀ n, c'.Pending n ↔ c.Pending n ∧ n ≠ slot.toNat

/-! ## One turn -/

/-- The number that a valid cursor with a word at hand is at lies in the slot space. -/
theorem Valid.at_lt {c : Cursor} (hc : c.Valid) (h0 : c.current ≠ 0) :
    (c.nextWord - 1) * Word.bits + Word.lowest c.current < Slot.count := by
  have hlow := Word.lowest_lt h0
  have hpos := hc.loaded h0
  have hle := hc.nextWord_le.trans hc.size_le
  simp only [wordCount, Slot.count, Word.bits] at *
  omega

/-- With a word at hand, its least position is given and cleared. -/
theorem Valid.gives {c : Cursor} (hc : c.Valid) (h0 : c.current ≠ 0) :
    c.Gives ((c.nextWord - 1) * Word.bits + Word.lowest c.current).toUInt16
      { c with current := Word.clearLowest c.current } := by
  have hlow := Word.lowest_lt h0
  have hpos := hc.loaded h0
  have hto : ((c.nextWord - 1) * Word.bits + Word.lowest c.current).toUInt16.toNat =
      (c.nextWord - 1) * Word.bits + Word.lowest c.current :=
    UInt16.toNat_ofNat_of_lt ((hc.at_lt h0).trans (by decide))
  have hdiv : ((c.nextWord - 1) * Word.bits + Word.lowest c.current) / Word.bits =
      c.nextWord - 1 := Word.mul_add_div hlow
  have hmod : ((c.nextWord - 1) * Word.bits + Word.lowest c.current) % Word.bits =
      Word.lowest c.current := Word.mul_add_mod hlow
  constructor
  · exact ⟨hc.size_le, hc.nextWord_le, fun _ => hpos⟩
  · rw [hto]
    refine Or.inl ⟨?_, ?_⟩
    · rw [hdiv]; omega
    · rw [hmod]; exact Word.hasBit_lowest h0
  · intro n hn
    rw [hto]
    rcases hn with ⟨hw, hb⟩ | ⟨hw, -⟩
    · have hsplit := Nat.div_add_mod' n Word.bits
      have hle := Word.lowest_le hb
      rw [← hw, Nat.add_sub_cancel]
      omega
    · exact (Word.mul_add_lt hlow (by omega)).le
  · intro n
    rw [hto]
    -- in the word at hand only its least position goes, and the words to load keep all of theirs
    have hprev : n / Word.bits = c.nextWord - 1 ↔ n / Word.bits + 1 = c.nextWord := by omega
    have hne : n ≠ (c.nextWord - 1) * Word.bits + Word.lowest c.current ↔
        (n / Word.bits + 1 = c.nextWord → n % Word.bits ≠ Word.lowest c.current) := by
      rw [ne_eq, Word.eq_mul_add_iff hlow, hprev, not_and]
    simp only [Pending, Word.hasBit_clearLowest h0 (Nat.mod_lt n (by decide)), Bool.and_eq_true,
      bne_iff_ne, hne]
    constructor
    · rintro (⟨hw, hb, hm⟩ | ⟨hw, hb⟩)
      · exact ⟨Or.inl ⟨hw, hb⟩, fun _ => hm⟩
      · exact ⟨Or.inr ⟨hw, hb⟩, fun h => by omega⟩
    · rintro ⟨⟨hw, hb⟩ | ⟨hw, hb⟩, hm⟩
      · exact Or.inl ⟨hw, hb, hm hw⟩
      · exact Or.inr ⟨hw, hb⟩

/-- Loading the next word changes nothing about what is to be given. -/
theorem pending_load {c : Cursor} (h0 : c.current = 0) (hlt : c.nextWord < c.words.size) (n : Nat) :
    Pending { c with nextWord := c.nextWord + 1, current := c.words[c.nextWord] } n ↔
      c.Pending n := by
  simp only [Pending, h0, Word.hasBit_zero, Bool.false_eq_true, and_false, false_or,
    Nat.add_right_cancel_iff]
  constructor
  · rintro (⟨hw, hb⟩ | ⟨hw, hb⟩)
    · refine ⟨hw.ge, ?_⟩
      rw [holds_of_lt (hw ▸ hlt)]
      simpa only [hw] using hb
    · exact ⟨Nat.le_of_succ_le hw, hb⟩
  · rintro ⟨hw, hb⟩
    rcases hw.eq_or_lt with hw | hw
    · rw [holds_of_lt (hw ▸ hlt)] at hb
      exact Or.inl ⟨hw.symm, by simpa only [hw] using hb⟩
    · exact Or.inr ⟨hw, hb⟩

/-- At the end nothing is left to give. -/
theorem not_pending_of_le {c : Cursor} (h0 : c.current = 0) (hle : c.words.size ≤ c.nextWord)
    (n : Nat) : ¬c.Pending n := by
  rintro (⟨-, hb⟩ | ⟨hw, hb⟩)
  · rw [h0, Word.hasBit_zero] at hb
    exact Bool.false_ne_true hb
  · have := lt_of_holds hb
    omega

section

variable {c c' : Cursor}

theorem Valid.gives_of_turn (hc : c.Valid) {slot : Slot} (h : c.turn = .answer (some slot) c') :
    c.Gives slot c' := by
  obtain ⟨h0, rfl, rfl⟩ := of_turn_eq_some h
  exact hc.gives h0

theorem not_pending_of_turn (h : c.turn = .answer none c') : c' = c ∧ ∀ n, ¬c.Pending n := by
  obtain ⟨h0, hle, hsame⟩ := of_turn_eq_none h
  exact ⟨hsame, not_pending_of_le h0 hle⟩

theorem pending_of_turn (h : c.turn = .again c') (n : Nat) : c'.Pending n ↔ c.Pending n := by
  obtain ⟨h0, hlt, rfl⟩ := of_turn_eq_again h
  exact pending_load h0 hlt n

theorem Valid.of_turn (hc : c.Valid) (h : c.turn = .again c') : c'.Valid := by
  obtain ⟨-, hlt, rfl⟩ := of_turn_eq_again h
  exact ⟨hc.size_le, hlt, fun _ => Nat.succ_pos _⟩

end

/-! ## One call of `next` -/

/-- A call of `next` that gives a slot gives the least one that is pending. -/
theorem gives_of_next {c c' : Cursor} {slot : Slot} (hc : c.Valid)
    (h : c.next = (some slot, c')) : c.Gives slot c' := by
  fun_induction next c with
  | case1 c answer c'' hturn =>
    cases h
    exact hc.gives_of_turn hturn
  | case2 c c'' hturn ih =>
    have hg := ih (hc.of_turn hturn) h
    have hload := pending_of_turn hturn
    exact ⟨hg.valid, (hload _).mp hg.pending, fun n hn => hg.least n ((hload n).mpr hn),
      fun n => (hg.rest n).trans (and_congr_left fun _ => hload n)⟩

/-- A call of `next` that gives none finds nothing pending, and neither does any later call. -/
theorem not_pending_of_next {c c' : Cursor} (hc : c.Valid) (h : c.next = (none, c')) :
    (∀ n, ¬c.Pending n) ∧ c'.Valid ∧ ∀ n, ¬c'.Pending n := by
  fun_induction next c with
  | case1 c answer c'' hturn =>
    cases h
    obtain ⟨rfl, hn⟩ := not_pending_of_turn hturn
    exact ⟨hn, hc, hn⟩
  | case2 c c'' hturn ih =>
    obtain ⟨hn, hrest⟩ := ih (hc.of_turn hturn) h
    exact ⟨fun n hp => hn n ((pending_of_turn hturn n).mpr hp), hrest⟩

/-! ## A whole walk -/

theorem remaining_of_some {c c' : Cursor} {slot : Slot} (h : c.next = (some slot, c')) :
    c.remaining = slot :: c'.remaining := by
  rw [remaining]
  split
  · rename_i heq
    cases heq.symm.trans h
    rfl
  · rename_i heq
    cases heq.symm.trans h

theorem remaining_of_none {c c' : Cursor} (h : c.next = (none, c')) : c.remaining = [] := by
  rw [remaining]
  split
  · rename_i heq
    cases heq.symm.trans h
  · rfl

/-- A walk gives exactly the pending slots. -/
theorem mem_remaining {c : Cursor} (hc : c.Valid) (slot : Slot) :
    slot ∈ c.remaining ↔ c.Pending slot.toNat := by
  fun_induction remaining c with
  | case1 c a c' h ih =>
    have hg := gives_of_next hc h
    rw [List.mem_cons, ih hg.valid, hg.rest, ← UInt16.toNat_inj]
    constructor
    · rintro (he | ⟨hp, -⟩)
      · exact he ▸ hg.pending
      · exact hp
    · intro hp
      by_cases he : slot.toNat = a.toNat
      · exact Or.inl he
      · exact Or.inr ⟨hp, he⟩
  | case2 c c' h =>
    exact iff_of_false List.not_mem_nil ((not_pending_of_next hc h).1 _)

/-- A walk gives its slots in ascending order, and none twice. -/
theorem pairwise_remaining {c : Cursor} (hc : c.Valid) : c.remaining.Pairwise (· < ·) := by
  fun_induction remaining c with
  | case1 c a c' h ih =>
    have hg := gives_of_next hc h
    refine List.pairwise_cons.mpr ⟨fun b hb => ?_, ih hg.valid⟩
    obtain ⟨hp, hne⟩ := (hg.rest _).mp ((mem_remaining hg.valid b).mp hb)
    exact UInt16.lt_iff_toNat_lt.mpr (lt_of_le_of_ne (hg.least _ hp) hne.symm)
  | case2 c c' h => exact List.Pairwise.nil

theorem remaining_eq_nil {c : Cursor} (hc : c.Valid) (h : ∀ n, ¬c.Pending n) : c.remaining = [] :=
  List.eq_nil_iff_forall_not_mem.mpr fun slot hs => h _ ((mem_remaining hc slot).mp hs)

theorem valid_next {c : Cursor} (hc : c.Valid) : c.next.2.Valid := by
  rcases h : c.next with ⟨_ | slot, c'⟩
  · exact (not_pending_of_next hc h).2.1
  · exact (gives_of_next hc h).valid

/-- One call gives the first of the remaining slots, if there is one, and leaves the others. -/
theorem next_eq_head? {c : Cursor} (hc : c.Valid) :
    c.next.1 = c.remaining.head? ∧ c.next.2.remaining = c.remaining.tail := by
  rcases h : c.next with ⟨_ | slot, c'⟩
  · obtain ⟨-, hvalid, hnone⟩ := not_pending_of_next hc h
    rw [remaining_of_none h]
    exact ⟨List.head?_nil.symm, (remaining_eq_nil hvalid hnone).trans List.tail_nil.symm⟩
  · rw [remaining_of_some h]
    exact ⟨List.head?_cons.symm, List.tail_cons.symm⟩

theorem nextN_succ (k : Nat) (c : Cursor) :
    nextN (k + 1) c = (c.next.1 :: (nextN k c.next.2).1, (nextN k c.next.2).2) := rfl

theorem range_map_getElem?_succ (as : List Slot) (k : Nat) :
    (List.range (k + 1)).map (as[·]?) = as.head? :: (List.range k).map (as.tail[·]?) := by
  rw [List.range_succ_eq_map, List.map_cons, List.map_map, List.head?_eq_getElem?]
  simp only [Function.comp_def, List.getElem?_tail]

/-- Any number of calls gives the remaining slots one by one, and then none for good. -/
theorem nextN_eq {c : Cursor} (hc : c.Valid) (k : Nat) :
    (nextN k c).1 = (List.range k).map (c.remaining[·]?) ∧
      (nextN k c).2.remaining = c.remaining.drop k := by
  induction k generalizing c with
  | zero => exact ⟨rfl, List.drop_zero.symm⟩
  | succ k ih =>
    obtain ⟨hhead, htail⟩ := next_eq_head? hc
    obtain ⟨hgiven, hrest⟩ := ih (valid_next hc)
    rw [nextN_succ, range_map_getElem?_succ, hgiven, hrest, hhead, htail]
    exact ⟨rfl, List.drop_tail⟩

end Cursor

/-! ## Walking through a set -/

theorem valid_cursor (s : SlotSet) : s.cursor.Valid :=
  ⟨s.size_le, Nat.zero_le _, fun h => absurd rfl h⟩

theorem pending_cursor (s : SlotSet) (slot : Slot) : s.cursor.Pending slot.toNat ↔ slot ∈ s := by
  simp only [Cursor.Pending, cursor, Word.hasBit_zero, Bool.false_eq_true, and_false, false_or,
    Nat.zero_le, true_and]
  rfl

theorem mem_toList {s : SlotSet} {slot : Slot} : slot ∈ s.toList ↔ slot ∈ s :=
  (Cursor.mem_remaining s.valid_cursor slot).trans (s.pending_cursor slot)

theorem pairwise_toList (s : SlotSet) : s.toList.Pairwise (· < ·) :=
  Cursor.pairwise_remaining s.valid_cursor

theorem nodup_toList (s : SlotSet) : s.toList.Nodup :=
  s.pairwise_toList.imp UInt16.ne_of_lt

/-- Two sets are walked through alike exactly when they have the same members. -/
theorem toList_eq_iff {a b : SlotSet} : a.toList = b.toList ↔ ∀ slot, slot ∈ a ↔ slot ∈ b := by
  constructor
  · intro h slot
    rw [← mem_toList, h, mem_toList]
  · intro h
    refine Slot.eq_of_ascending a.pairwise_toList b.pairwise_toList fun slot => ?_
    rw [mem_toList, mem_toList, h]

/-- All that calls of `next` can answer is in the list of a walk. -/
theorem answers_eq_iff {a b : SlotSet} :
    (∀ k, (Cursor.nextN k a.cursor).1 = (Cursor.nextN k b.cursor).1) ↔ a.toList = b.toList := by
  have ha : ∀ k, (Cursor.nextN k a.cursor).1 = (List.range k).map (a.toList[·]?) :=
    fun k => (Cursor.nextN_eq a.valid_cursor k).1
  have hb : ∀ k, (Cursor.nextN k b.cursor).1 = (List.range k).map (b.toList[·]?) :=
    fun k => (Cursor.nextN_eq b.valid_cursor k).1
  constructor
  · intro h
    apply List.ext_getElem?
    intro k
    have hk := h (k + 1)
    rw [ha, hb, List.map_inj_left] at hk
    exact hk k (List.mem_range.mpr (Nat.lt_succ_self k))
  · intro h k
    rw [ha, hb, h]

theorem size_eq_length_toList (s : SlotSet) : s.size = s.toList.length :=
  size_eq_length s.nodup_toList fun _ => mem_toList

end ClusterTopology.SlotSet
