import ClusterTopology.SlotSet.Basic

/-!
# Members of constructed sets

What each step of a construction says about members. The main statement is `mem_insertAll`: adding
slots that the words cover adds these and no others.
-/

namespace ClusterTopology.SlotSet

/-! ## Sets without slots -/

theorem not_mem_empty (slot : Slot) : slot ∉ empty := by
  simp [mem_def, contains, empty]

theorem not_mem_blank (capacity : Nat) (slot : Slot) : slot ∉ blank capacity := by
  simp only [mem_def, contains, blank, Array.getElem?_replicate]
  split <;> simp [Word.hasBit_zero]

/-! ## Added slots -/

theorem size_words_insert (s : SlotSet) (slot : Slot) :
    (s.insert slot).words.size = s.words.size :=
  Array.size_modify ..

/-- A slot that the words cover can be added, and no other slot comes with it. -/
theorem mem_insert {s : SlotSet} {slot a : Slot} (h : a.toNat / Word.bits < s.words.size) :
    slot ∈ s.insert a ↔ slot = a ∨ slot ∈ s := by
  have hd (b : Slot) : b.toNat % Word.bits < Word.bits := Nat.mod_lt _ (by decide)
  have heq : slot = a ↔ slot.toNat / Word.bits = a.toNat / Word.bits ∧
      slot.toNat % Word.bits = a.toNat % Word.bits := by
    rw [← UInt16.toNat_inj]; simp only [Word.bits]; omega
  simp only [mem_def, contains, insert, Array.getElem?_modify, heq]
  by_cases hw : a.toNat / Word.bits = slot.toNat / Word.bits
  · rw [if_pos hw, ← hw, Array.getElem?_eq_getElem h]
    simp only [Option.map_some, Option.any_some, Word.hasBit_setBit _ (hd a) (hd slot),
      Bool.or_eq_true, beq_iff_eq, true_and]
    rw [eq_comm]
  · simp [hw, Ne.symm hw]

/-- The same for a list of slots, in any order. -/
theorem mem_insertAll {s : SlotSet} {slot : Slot} {slots : List Slot}
    (h : ∀ a ∈ slots, a.toNat / Word.bits < s.words.size) :
    slot ∈ s.insertAll slots ↔ slot ∈ slots ∨ slot ∈ s := by
  induction slots generalizing s with
  | nil => simp [insertAll]
  | cons a slots ih =>
    have hs : ∀ b ∈ slots, b.toNat / Word.bits < (s.insert a).words.size := fun b hb => by
      rw [size_words_insert]; exact h b (List.mem_cons_of_mem _ hb)
    rw [insertAll, List.foldl_cons, ← insertAll, ih hs, mem_insert (h a (List.mem_cons_self ..)),
      List.mem_cons, or_assoc, or_left_comm]

end ClusterTopology.SlotSet
