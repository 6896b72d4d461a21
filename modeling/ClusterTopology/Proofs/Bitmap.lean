import ClusterTopology.Proofs.Positions
import ClusterTopology.SlotSet.Lemmas
import Mathlib.Data.List.DropRight
import Mathlib.Data.List.Nodup

/-!
# Bitmaps as sets of numbers

The words of a slot set hold the number `n` if position `n % 64` is in word `n / 64` (`holds`). Two
slot sets are equal exactly when they have the same members (`SlotSet.beq_iff_contains`), however
many words they have, and `SlotSet.size` counts the members (`SlotSet.size_eq_length`).
-/

namespace ClusterTopology

/-- Is the number in the bitmap? -/
def holds (words : Array UInt64) (n : Nat) : Bool :=
  words[n / Word.bits]?.any (Word.hasBit · (n % Word.bits))

theorem holds_of_lt {words : Array UInt64} {n : Nat} (h : n / Word.bits < words.size) :
    holds words n = Word.hasBit words[n / Word.bits] (n % Word.bits) := by
  unfold holds
  rw [Array.getElem?_eq_getElem h, Option.any_some]

theorem lt_of_holds {words : Array UInt64} {n : Nat} (h : holds words n = true) :
    n / Word.bits < words.size := by
  by_contra hn
  unfold holds at h
  rw [Array.getElem?_eq_none (not_lt.mp hn), Option.any_none] at h
  exact Bool.false_ne_true h

/-- The number of a position of a word. -/
theorem holds_mul_add {words : Array UInt64} {i j : Nat} (hi : i < words.size)
    (hj : j < Word.bits) : holds words (i * Word.bits + j) = Word.hasBit words[i] j := by
  unfold holds
  rw [Word.mul_add_div hj, Word.mul_add_mod hj, Array.getElem?_eq_getElem hi, Option.any_some]

/-- Empty words at the end have no numbers. -/
theorem holds_append_replicate (words : Array UInt64) (k n : Nat) :
    holds (words ++ Array.replicate k 0) n = holds words n := by
  unfold holds
  rw [Array.getElem?_append]
  split
  · rfl
  · rename_i hn
    rw [Array.getElem?_eq_none (not_lt.mp hn), Array.getElem?_replicate]
    split
    · rw [Option.any_some, Word.hasBit_zero, Option.any_none]
    · rfl

/-! ## Words up to empty words at the end -/

/-- The last word, if there is any, is not empty. -/
def Trimmed (words : Array UInt64) : Prop :=
  ∀ i (h : i < words.size), i + 1 = words.size → words[i] ≠ 0

/-- A bitmap without empty words at the end reaches as far as its numbers do. -/
theorem Trimmed.exists_holds {words : Array UInt64} (h : Trimmed words) {k : Nat}
    (hk : k < words.size) : ∃ n, k * Word.bits ≤ n ∧ holds words n = true := by
  have hlast : words.size - 1 < words.size := by omega
  obtain ⟨j, hj, hb⟩ := Word.exists_hasBit (h (words.size - 1) hlast (by omega))
  refine ⟨(words.size - 1) * Word.bits + j, ?_, (holds_mul_add hlast hj).trans hb⟩
  have := Nat.mul_le_mul_right Word.bits (show k ≤ words.size - 1 by omega)
  omega

theorem Trimmed.size_le {v w : Array UInt64} (hv : Trimmed v)
    (h : ∀ n, holds v n = true → holds w n = true) : v.size ≤ w.size := by
  by_contra hn
  obtain ⟨n, hkn, hb⟩ := hv.exists_holds (not_le.mp hn)
  have hlt := lt_of_holds (h n hb)
  have hle : w.size ≤ n / Word.bits := (Nat.le_div_iff_mul_le (by decide)).mpr hkn
  omega

/-- Without empty words at the end, a bitmap is determined by its numbers. -/
theorem Trimmed.ext {v w : Array UInt64} (hv : Trimmed v) (hw : Trimmed w)
    (h : ∀ n, holds v n = holds w n) : v = w := by
  have hsize : v.size = w.size :=
    le_antisymm (hv.size_le fun n hn => h n ▸ hn) (hw.size_le fun n hn => (h n).symm ▸ hn)
  refine Array.ext hsize fun i hi hi' => Word.ext_hasBit fun j hj => ?_
  rw [← holds_mul_add hi hj, ← holds_mul_add hi' hj, h]

namespace SlotSet

theorem contains_eq_holds (s : SlotSet) (slot : Slot) :
    s.contains slot = holds s.words slot.toNat := rfl

theorem toList_trimmedWords (s : SlotSet) :
    s.trimmedWords.toList = s.words.toList.rdropWhile (· == 0) := by
  unfold trimmedWords List.rdropWhile
  have h := List.popWhile_toArray (· == 0) s.words.toList
  rw [Array.toArray_toList] at h
  rw [h]

theorem trimmed_trimmedWords (s : SlotSet) : Trimmed s.trimmedWords := by
  intro i hi hlast
  have hne : s.words.toList.rdropWhile (· == 0) ≠ [] := by
    rw [← toList_trimmedWords]
    exact List.ne_nil_of_length_pos (by rw [Array.length_toList]; omega)
  have hget : (s.words.toList.rdropWhile (· == 0)).getLast hne = s.trimmedWords[i] := by
    simp only [List.getLast_eq_getElem, ← toList_trimmedWords, Array.getElem_toList,
      Array.length_toList, ← hlast, Nat.add_sub_cancel]
  have h0 := List.rdropWhile_last_not (· == 0) s.words.toList hne
  rwa [hget, beq_iff_eq] at h0

/-- The words that are cut off are empty. -/
theorem exists_replicate (s : SlotSet) :
    ∃ k, s.words = s.trimmedWords ++ Array.replicate k 0 := by
  have hzero : ∀ w ∈ s.words.toList.rtakeWhile (· == 0), w = 0 := by
    intro w hw
    have h := List.mem_rtakeWhile_imp (p := (· == 0)) hw
    exact beq_iff_eq.mp h
  refine ⟨(s.words.toList.rtakeWhile (· == 0)).length, ?_⟩
  apply Array.toList_inj.mp
  rw [Array.toList_append, toList_trimmedWords, Array.toList_replicate,
    ← List.eq_replicate_of_mem hzero]
  simp only [List.rdropWhile, List.rtakeWhile]
  rw [← List.reverse_append, List.takeWhile_append_dropWhile, List.reverse_reverse]

theorem holds_trimmedWords (s : SlotSet) (n : Nat) : holds s.trimmedWords n = holds s.words n := by
  obtain ⟨k, hk⟩ := s.exists_replicate
  rw [hk, holds_append_replicate]

/-! ## Members -/

/-- No number of a slot set lies outside of the slot space. -/
theorem lt_count_of_holds (s : SlotSet) {n : Nat} (h : holds s.words n = true) :
    n < Slot.count := by
  have hlt := (lt_of_holds h).trans_le s.size_le
  unfold wordCount at hlt
  exact (Nat.div_lt_iff_lt_mul (by decide)).mp hlt

theorem inSpace_of_mem {s : SlotSet} {slot : Slot} (h : slot ∈ s) : slot.InSpace :=
  s.lt_count_of_holds h

theorem holds_iff_mem (s : SlotSet) (n : Nat) :
    holds s.words n = true ↔ ∃ slot ∈ s, slot.toNat = n := by
  constructor
  · intro h
    have hn : n < UInt16.size := (s.lt_count_of_holds h).trans (by decide)
    have hto : n.toUInt16.toNat = n := UInt16.toNat_ofNat_of_lt hn
    exact ⟨n.toUInt16, by rw [mem_def, contains_eq_holds, hto, h], hto⟩
  · rintro ⟨slot, h, rfl⟩
    exact h

/-- Two slot sets are equal exactly when they have the same members. -/
theorem beq_iff_contains {a b : SlotSet} :
    (a == b) = true ↔ ∀ slot, a.contains slot = b.contains slot := by
  rw [beq_iff]
  constructor
  · intro h slot
    rw [contains_eq_holds, contains_eq_holds, ← holds_trimmedWords a, ← holds_trimmedWords b, h]
  · intro h
    refine a.trimmed_trimmedWords.ext b.trimmed_trimmedWords fun n => ?_
    rw [holds_trimmedWords, holds_trimmedWords, Bool.eq_iff_iff, holds_iff_mem, holds_iff_mem]
    simp only [mem_def, h]

theorem beq_iff_mem {a b : SlotSet} : (a == b) = true ↔ ∀ slot, slot ∈ a ↔ slot ∈ b := by
  rw [beq_iff_contains]
  exact forall_congr' fun slot => Bool.eq_iff_iff

theorem isEmpty_iff {s : SlotSet} : s.isEmpty = true ↔ ∀ slot, slot ∉ s := by
  unfold isEmpty
  rw [Array.all_eq_true']
  constructor
  · intro h slot hm
    have hlt : slot.toNat / Word.bits < s.words.size := lt_of_holds hm
    rw [mem_def, contains_eq_holds, holds_of_lt hlt, beq_iff_eq.mp (h _ (Array.getElem_mem hlt)),
      Word.hasBit_zero] at hm
    exact Bool.false_ne_true hm
  · intro h w hw
    obtain ⟨i, hi, rfl⟩ := Array.getElem_of_mem hw
    rw [beq_iff_eq, Word.eq_zero_iff]
    intro j hj
    rw [← holds_mul_add hi hj, ← Bool.not_eq_true, holds_iff_mem]
    rintro ⟨slot, hm, _⟩
    exact h slot hm

end SlotSet

/-! ## The number of members -/

/-- The positions of all words, added up, are the numbers of the bitmap. -/
theorem foldl_popCount (ws : List UInt64) :
    ws.foldl (fun n w => n + Word.popCount w) 0 =
      (List.range (ws.length * Word.bits)).countP (holds ws.toArray) := by
  -- the last word is taken off, so the numbers of the words before it stay what they are
  induction ws using List.reverseRecOn with
  | nil => rfl
  | append_singleton ws w ih =>
    have hbelow : ∀ n ∈ List.range (ws.length * Word.bits),
        holds (ws ++ [w]).toArray n = true ↔ holds ws.toArray n = true := by
      intro n hn
      have hlt : n / Word.bits < ws.length := Nat.div_lt_of_lt_mul
        (Nat.mul_comm Word.bits ws.length ▸ List.mem_range.mp hn)
      unfold holds
      rw [List.getElem?_toArray, List.getElem?_toArray, List.getElem?_append_left hlt]
    have hlast : ∀ j ∈ List.range Word.bits,
        (holds (ws ++ [w]).toArray ∘ (ws.length * Word.bits + ·)) j = true ↔
          Word.hasBit w j = true := by
      intro j hj
      have hsize : ws.length < (ws ++ [w]).toArray.size := by simp
      rw [Function.comp_apply, holds_mul_add hsize (List.mem_range.mp hj)]
      simp
    rw [List.foldl_append, ih, List.foldl_cons, List.foldl_nil, List.length_append,
      List.length_singleton, Nat.add_mul, Nat.one_mul, List.range_add, List.countP_append,
      List.countP_map, List.countP_congr hbelow, List.countP_congr hlast, Word.popCount]

namespace SlotSet

theorem size_eq_countP (s : SlotSet) :
    s.size = (List.range (s.words.size * Word.bits)).countP (holds s.words) := by
  unfold size
  rw [← Array.foldl_toList, foldl_popCount, Array.length_toList, Array.toArray_toList]

/-- The size of a set is the length of any list of its members without repetitions. -/
theorem size_eq_length {s : SlotSet} {slots : List Slot} (hnd : slots.Nodup)
    (h : ∀ slot, slot ∈ slots ↔ slot ∈ s) : s.size = slots.length := by
  have hmap : slots.length = (slots.map UInt16.toNat).length := (List.length_map _).symm
  rw [size_eq_countP, List.countP_eq_length_filter, hmap]
  refine List.Perm.length_eq ((List.perm_ext_iff_of_nodup ?_ ?_).mpr fun n => ?_)
  · exact List.nodup_range.filter _
  · exact List.Nodup.map (fun _ _ => UInt16.toNat.inj) hnd
  · rw [List.mem_filter, List.mem_range, List.mem_map, holds_iff_mem]
    constructor
    · rintro ⟨_, slot, hm, rfl⟩
      exact ⟨slot, (h slot).mpr hm, rfl⟩
    · rintro ⟨slot, hm, rfl⟩
      have hlt := lt_of_holds ((h slot).mp hm)
      exact ⟨(Nat.div_lt_iff_lt_mul (by decide)).mp hlt, slot, (h slot).mp hm, rfl⟩

end SlotSet

end ClusterTopology
