import ClusterTopology.Proofs.Bitmap
import Mathlib.Order.Bounds.Basic

/-!
# Bitmaps of any length

A bitmap is read as the set of its numbers (`bitSet`). It makes a set of slots if all of them lie in
the slot space, and else the least one that does not is refused (`SlotSet.ofWords_eq_ok_iff`,
`SlotSet.ofWords_eq_error_iff`). So words without bits behind all others make no difference, however
many there are.
-/

namespace ClusterTopology

/-- The numbers of the bits that are set, where bit `i` of word `w` stands for `w * 64 + i`. -/
def bitSet (words : Array UInt64) : Set Nat :=
  {n | ∃ (w i : Nat) (h : w < words.size),
    i < 64 ∧ words[w].toNat.testBit i = true ∧ n = w * 64 + i}

theorem mem_bitSet {words : Array UInt64} {n : Nat} : n ∈ bitSet words ↔ holds words n = true := by
  constructor
  · rintro ⟨w, i, hw, hi, hb, rfl⟩
    have hi : i < Word.bits := hi
    rw [show w * 64 + i = w * Word.bits + i from rfl, holds_mul_add hw hi,
      Word.hasBit_eq_testBit _ hi, hb]
  · intro h
    have hmod : n % Word.bits < Word.bits := Nat.mod_lt _ (by decide)
    refine ⟨n / Word.bits, n % Word.bits, lt_of_holds h, hmod, ?_, (Nat.div_add_mod' n _).symm⟩
    rw [← Word.hasBit_eq_testBit _ hmod, ← holds_of_lt, h]

theorem bitSet_append_replicate (words : Array UInt64) (k : Nat) :
    bitSet (words ++ Array.replicate k 0) = bitSet words := by
  ext n
  rw [mem_bitSet, mem_bitSet, holds_append_replicate]

/-- The numbers in the first words are those below the bits of these words. -/
theorem holds_take {words : Array UInt64} {k n : Nat} (hn : n < k * Word.bits) :
    holds (words.take k) n = holds words n := by
  have hlt : n / Word.bits < k := (Nat.div_lt_iff_lt_mul (by decide)).mpr hn
  unfold holds
  rw [Array.take_eq_extract, Array.getElem?_extract, Nat.zero_add, Nat.sub_zero]
  split
  · rfl
  · rename_i hmin
    rw [Array.getElem?_eq_none (by omega)]

namespace SlotSet

/-! ## Words past the slot space -/

/-- The words past the slot space, each with its index. -/
def pastWords (words : Array UInt64) : List (UInt64 × Nat) :=
  (words.toList.drop wordCount).zipIdx wordCount

section Past

variable {words : Array UInt64}

theorem mem_pastWords {w : UInt64} {i : Nat} :
    (w, i) ∈ pastWords words ↔ wordCount ≤ i ∧ words[i]? = some w := by
  unfold pastWords
  rw [List.mk_mem_zipIdx_iff_le_and_getElem?_sub, List.getElem?_drop, Array.getElem?_toList]
  refine and_congr_right fun hle => ?_
  rw [Nat.add_sub_cancel' hle]

theorem ascending_pastWords (words : Array UInt64) :
    (pastWords words).Pairwise fun a b => a.2 < b.2 := by
  have hsnd : ((pastWords words).map Prod.snd).Pairwise (· < ·) := by
    unfold pastWords
    rw [List.zipIdx_map_snd]
    exact List.pairwise_lt_range' 1
  exact List.pairwise_map.mp hsnd

/-- A number past the slot space lies in a word past it. -/
theorem exists_mem_pastWords {n : Nat} (h : n ∈ bitSet words) (hn : Slot.count ≤ n) :
    ∃ w, (w, n / Word.bits) ∈ pastWords words ∧ Word.hasBit w (n % Word.bits) = true := by
  obtain ⟨w, hw, hb⟩ := (Option.any_eq_true _ _).mp (mem_bitSet.mp h)
  have hle : wordCount ≤ n / Word.bits := Nat.div_le_div_right hn
  exact ⟨w, mem_pastWords.mpr ⟨hle, hw⟩, hb⟩

theorem lt_count_of_find?_none (h : (pastWords words).find? (·.1 != 0) = none) {n : Nat}
    (hn : n ∈ bitSet words) : n < Slot.count := by
  by_contra hle
  obtain ⟨w, hw, hb⟩ := exists_mem_pastWords hn (not_lt.mp hle)
  exact List.find?_eq_none.mp h _ hw (bne_iff_ne.mpr (Word.ne_zero_of_hasBit hb))

/-- The lowest bit of the first word past the slot space that is not empty comes before all other
bits past the slot space. -/
theorem isLeast_of_find?_some {w : UInt64} {i : Nat}
    (h : (pastWords words).find? (·.1 != 0) = some (w, i)) :
    IsLeast {n | n ∈ bitSet words ∧ Slot.count ≤ n} (i * Word.bits + Word.lowest w) := by
  obtain ⟨hw, before, after, hpast, hbefore⟩ := List.find?_eq_some_iff_append.mp h
  have hw : w ≠ 0 := bne_iff_ne.mp hw
  have hlow := Word.lowest_lt hw
  have hmem : (w, i) ∈ pastWords words := List.mem_of_find?_eq_some h
  obtain ⟨hle, hget⟩ := mem_pastWords.mp hmem
  constructor
  · refine ⟨mem_bitSet.mpr ?_, ?_⟩
    · rw [holds, Word.mul_add_div hlow, Word.mul_add_mod hlow, hget, Option.any_some,
        Word.hasBit_lowest hw]
    · have := Nat.mul_le_mul_right Word.bits hle
      simp only [wordCount, Slot.count, Word.bits] at *
      omega
  · rintro n ⟨hn, hcount⟩
    obtain ⟨v, hv, hb⟩ := exists_mem_pastWords hn hcount
    have hasc := ascending_pastWords words
    rw [hpast] at hv hasc
    rcases List.mem_append.mp hv with hv | hv
    · -- the words before the first one that is not empty have no bits
      have hzero := hbefore _ hv
      rw [Bool.not_eq_true', bne_eq_false_iff_eq] at hzero
      exact absurd hzero (Word.ne_zero_of_hasBit hb)
    · rcases List.mem_cons.mp hv with heq | hv
      · obtain ⟨rfl, rfl⟩ := Prod.mk.inj heq
        have hsplit := Nat.div_add_mod' n Word.bits
        have hle := Word.lowest_le hb
        omega
      · have hlt : i < n / Word.bits :=
          (List.pairwise_cons.mp (List.pairwise_append.mp hasc).2.1).1 _ hv
        exact (Word.mul_add_lt hlow hlt).le

/-! ## What a bitmap comes to -/

theorem ofWords_of_find?_some {w : UInt64} {i : Nat}
    (h : (pastWords words).find? (·.1 != 0) = some (w, i)) :
    ofWords words = .error (.slotOutOfRange (i * Word.bits + Word.lowest w)) := by
  unfold pastWords at h
  unfold ofWords
  rw [h]

theorem ofWords_of_find?_none (h : (pastWords words).find? (·.1 != 0) = none) :
    ofWords words = .ok ⟨words.take wordCount, Array.size_extract_le⟩ := by
  unfold pastWords at h
  unfold ofWords
  rw [h]

/-- A bitmap is refused with its least number past the slot space. -/
theorem ofWords_eq_error_iff {e : Refusal} : ofWords words = .error e ↔
    ∃ n, IsLeast {n | n ∈ bitSet words ∧ Slot.count ≤ n} n ∧ e = .slotOutOfRange n := by
  cases h : (pastWords words).find? (·.1 != 0) with
  | none =>
    rw [ofWords_of_find?_none h]
    refine iff_of_false nofun ?_
    rintro ⟨n, hn, -⟩
    exact not_lt.mpr hn.1.2 (lt_count_of_find?_none h hn.1.1)
  | some p =>
    rw [ofWords_of_find?_some h]
    have hleast := isLeast_of_find?_some h
    constructor
    · rintro ⟨⟩
      exact ⟨_, hleast, rfl⟩
    · rintro ⟨n, hn, rfl⟩
      rw [hn.unique hleast]

/-- A bitmap is accepted if it has no number past the slot space, and its words are cut off there.
-/
theorem ofWords_eq_ok_iff {s : SlotSet} : ofWords words = .ok s ↔
    (∀ n ∈ bitSet words, n < Slot.count) ∧ s.words = words.take wordCount := by
  cases h : (pastWords words).find? (·.1 != 0) with
  | none =>
    rw [ofWords_of_find?_none h]
    constructor
    · rintro ⟨⟩
      exact ⟨fun n => lt_count_of_find?_none h, rfl⟩
    · rintro ⟨-, hs⟩
      cases s
      cases hs
      rfl
  | some p =>
    rw [ofWords_of_find?_some h]
    refine iff_of_false nofun ?_
    rintro ⟨hin, -⟩
    have hleast := isLeast_of_find?_some h
    exact not_lt.mpr hleast.1.2 (hin _ hleast.1.1)

theorem exists_ofWords_eq_error_iff :
    (∃ e, ofWords words = .error e) ↔ ∃ n ∈ bitSet words, Slot.count ≤ n := by
  constructor
  · rintro ⟨e, he⟩
    obtain ⟨n, hn, -⟩ := ofWords_eq_error_iff.mp he
    exact ⟨n, hn.1⟩
  · rintro ⟨n, hn, hle⟩
    cases h : ofWords words with
    | error e => exact ⟨e, rfl⟩
    | ok s => exact absurd ((ofWords_eq_ok_iff.mp h).1 n hn) (not_lt.mpr hle)

theorem exists_ofWords_eq_ok (h : ∀ n ∈ bitSet words, n < Slot.count) :
    ∃ s, ofWords words = .ok s := by
  cases hr : ofWords words with
  | error e =>
    obtain ⟨n, hn, hle⟩ := exists_ofWords_eq_error_iff.mp ⟨e, hr⟩
    exact absurd (h n hn) (not_lt.mpr hle)
  | ok s => exact ⟨s, rfl⟩

/-- A bitmap that is no longer than the slot space is taken as it is. -/
theorem ofWords_of_size_le (h : words.size ≤ wordCount) : ofWords words = .ok ⟨words, h⟩ := by
  refine ofWords_eq_ok_iff.mpr ⟨fun n hn => ?_, ?_⟩
  · exact lt_count_of_holds ⟨words, h⟩ (mem_bitSet.mp hn)
  · show words = _
    rw [Array.take_eq_extract, Array.extract_eq_self_of_le h]

/-- The members of an accepted bitmap are its numbers. -/
theorem contains_iff_of_ofWords {s : SlotSet} (h : ofWords words = .ok s) (slot : Slot) :
    s.contains slot = true ↔ slot.toNat ∈ bitSet words := by
  obtain ⟨hin, hwords⟩ := ofWords_eq_ok_iff.mp h
  rw [mem_bitSet, contains_eq_holds, hwords]
  by_cases hslot : slot.toNat < wordCount * Word.bits
  · rw [holds_take hslot]
  · refine iff_of_false (fun hm => hslot ?_) fun hm => hslot (hin _ (mem_bitSet.mpr hm))
    have hlt := lt_of_holds hm
    rw [← hwords] at hlt
    exact (Nat.div_lt_iff_lt_mul (by decide)).mp (hlt.trans_le s.size_le)

end Past

/-- Bitmaps with the same numbers come to equal sets, or to the same refusal. -/
theorem ofWords_congr {v w : Array UInt64} (h : bitSet v = bitSet w) :
    (∃ e, ofWords v = .error e ∧ ofWords w = .error e) ∨
      ∃ a b, ofWords v = .ok a ∧ ofWords w = .ok b ∧ (a == b) = true := by
  cases hv : ofWords v with
  | error e =>
    have hw := ofWords_eq_error_iff.mp hv
    rw [h] at hw
    exact .inl ⟨e, rfl, ofWords_eq_error_iff.mpr hw⟩
  | ok a =>
    obtain ⟨b, hb⟩ := exists_ofWords_eq_ok (h ▸ (ofWords_eq_ok_iff.mp hv).1)
    refine .inr ⟨a, b, rfl, hb, beq_iff_mem.mpr fun slot => ?_⟩
    rw [mem_def, mem_def, contains_iff_of_ofWords hv, contains_iff_of_ofWords hb, h]

/-- A bitmap of any length is refused exactly if it has a number past the slot space, and then with
the least one. Else its numbers are the members of the set, which keeps the words of the slot space.
So the numbers decide on the outcome, and empty words at the end change nothing about them. The
words of a set make the set itself. -/
theorem ofWords_follows_bits :
    (∀ words : Array UInt64,
      ((∃ e, ofWords words = .error e) ↔ ∃ n ∈ bitSet words, 16384 ≤ n) ∧
      (∀ e, ofWords words = .error e ↔
        ∃ n, IsLeast {n | n ∈ bitSet words ∧ 16384 ≤ n} n ∧ e = .slotOutOfRange n) ∧
      ((∀ n ∈ bitSet words, n < 16384) → ∃ s, ofWords words = .ok s ∧
        (∀ slot, s.contains slot = true ↔ slot.toNat ∈ bitSet words) ∧
        s.words = words.take 256)) ∧
    (∀ v w : Array UInt64, bitSet v = bitSet w →
      (∃ e, ofWords v = .error e ∧ ofWords w = .error e) ∨
        ∃ a b, ofWords v = .ok a ∧ ofWords w = .ok b ∧ (a == b) = true) ∧
    (∀ (words : Array UInt64) (k : Nat),
      bitSet (words ++ Array.replicate k 0) = bitSet words) ∧
    ∀ s : SlotSet, ∃ r, ofWords s.words = .ok r ∧ r.words = s.words ∧ (r == s) = true := by
  refine ⟨fun words => ⟨exists_ofWords_eq_error_iff, fun e => ofWords_eq_error_iff, fun hin => ?_⟩,
    fun v w => ofWords_congr, bitSet_append_replicate, fun s => ?_⟩
  · obtain ⟨s, hs⟩ := exists_ofWords_eq_ok hin
    exact ⟨s, hs, contains_iff_of_ofWords hs, (ofWords_eq_ok_iff.mp hs).2⟩
  · exact ⟨s, ofWords_of_size_le s.size_le, rfl, BEq.refl s⟩

/-- Empty words past the slot space, and a bit at the end of a word. -/
theorem ofWords_follows_bits_of_padded : ∃ a b, ofWords #[5, 0, 0x8000000000000000] = .ok a ∧
    ofWords (#[5, 0, 0x8000000000000000] ++ Array.replicate 500 0) = .ok b ∧ (b == a) = true ∧
    b.contains 191 = true := by
  obtain ⟨hread, hcongr, hpad, -⟩ := ofWords_follows_bits
  have hsame := hpad #[5, 0, 0x8000000000000000] 500
  have hin : ∀ n ∈ bitSet #[5, 0, 0x8000000000000000], n < 16384 := by
    rintro n ⟨w, i, hw, hi, -, rfl⟩
    have hw : w < 3 := hw
    omega
  have hbit : 191 ∈ bitSet #[5, 0, 0x8000000000000000] :=
    ⟨2, 63, by decide, by decide, by decide, rfl⟩
  obtain ⟨a, ha, hmem, -⟩ := (hread _).2.2 hin
  rcases hcongr _ _ hsame with ⟨e, -, he⟩ | ⟨b, a', hb, ha', hba⟩
  · cases ha.symm.trans he
  · cases ha.symm.trans ha'
    exact ⟨a, b, ha, hb, hba, (beq_iff_contains.mp hba 191).trans ((hmem 191).mpr hbit)⟩

end SlotSet

end ClusterTopology
