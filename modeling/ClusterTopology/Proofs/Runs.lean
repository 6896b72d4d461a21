import ClusterTopology.Proofs.Walk
import ClusterTopology.SlotSet.Text

/-!
# Runs of a set

The runs of a set cover exactly its members, are not empty, and leave a gap between any two of them
(`SlotSet.covers_runs`, `SlotSet.areRuns_runs`). In turn, a set that is built from intervals of the
slot space has exactly the slots that they cover (`SlotSet.mem_ofIntervals`).
-/

namespace ClusterTopology

/-- The slot lies in one of the intervals. -/
def Covers (intervals : List Interval) (slot : Slot) : Prop := ∃ i ∈ intervals, slot ∈ i

theorem not_covers_nil (slot : Slot) : ¬Covers [] slot := by
  rintro ⟨i, hi, -⟩
  exact List.not_mem_nil hi

theorem covers_cons {i : Interval} {intervals : List Interval} {slot : Slot} :
    Covers (i :: intervals) slot ↔ slot ∈ i ∨ Covers intervals slot := by
  unfold Covers
  simp only [List.mem_cons, exists_eq_or_imp]

/-- Intervals that are not empty, ascend, and do not touch. -/
structure AreRuns (runs : List Interval) : Prop where
  lower_le : ∀ i ∈ runs, i.lower ≤ i.upper
  apart : runs.Pairwise fun i j => i.upper.toNat + 1 < j.lower.toNat

theorem AreRuns.toNat_le {runs : List Interval} (h : AreRuns runs) {i : Interval} (hi : i ∈ runs) :
    i.lower.toNat ≤ i.upper.toNat :=
  UInt16.le_iff_toNat_le.mp (h.lower_le i hi)

namespace Interval

theorem mem_singleton {slot a : Slot} : slot ∈ singleton a ↔ slot = a := by
  unfold singleton
  rw [mem_def]
  constructor
  · rintro ⟨h₁, h₂⟩
    exact UInt16.le_antisymm h₂ h₁
  · rintro rfl
    exact ⟨UInt16.le_refl _, UInt16.le_refl _⟩

theorem toNat_add_one {slot a : Slot} (h : slot < a) : (slot + 1).toNat = slot.toNat + 1 := by
  have := UInt16.lt_iff_toNat_lt.mp h
  have := a.toNat_lt
  rw [UInt16.toNat_add, UInt16.toNat_one]
  omega

/-- A slot that touches an interval from below extends it by this slot only. -/
theorem mem_extend {slot n : Slot} {i : Interval} (hi : i.lower ≤ i.upper)
    (h : slot.toNat + 1 = i.lower.toNat) : n ∈ (⟨slot, i.upper⟩ : Interval) ↔ n = slot ∨ n ∈ i := by
  rw [UInt16.le_iff_toNat_le] at hi
  simp only [mem_iff_toNat, ← UInt16.toNat_inj]
  omega

theorem extendRuns_cons (slot : Slot) (run : Interval) (runs : List Interval) :
    extendRuns slot (run :: runs) =
      if slot + 1 = run.lower then ⟨slot, run.upper⟩ :: runs else singleton slot :: run :: runs :=
  rfl

/-- One more slot below all runs. -/
theorem covers_extendRuns {slot n : Slot} {runs : List Interval} (hr : AreRuns runs)
    (hlt : ∀ i ∈ runs, slot < i.lower) :
    Covers (extendRuns slot runs) n ↔ n = slot ∨ Covers runs n := by
  cases runs with
  | nil =>
    show Covers [singleton slot] n ↔ _
    rw [covers_cons, mem_singleton]
  | cons run runs =>
    have hrun := hlt run List.mem_cons_self
    rw [extendRuns_cons]
    by_cases h : slot + 1 = run.lower
    · have htouch : slot.toNat + 1 = run.lower.toNat := by rw [← h, toNat_add_one hrun]
      rw [if_pos h, covers_cons, covers_cons,
        mem_extend (hr.lower_le run List.mem_cons_self) htouch, or_assoc]
    · rw [if_neg h, covers_cons, mem_singleton]

theorem areRuns_extendRuns {slot : Slot} {runs : List Interval} (hr : AreRuns runs)
    (hlt : ∀ i ∈ runs, slot < i.lower) : AreRuns (extendRuns slot runs) := by
  cases runs with
  | nil =>
    refine ⟨fun i hi => ?_, List.pairwise_singleton _ _⟩
    rw [List.mem_singleton.mp hi]
    exact UInt16.le_refl _
  | cons run runs =>
    have hrun := hlt run List.mem_cons_self
    have hle := hr.lower_le run List.mem_cons_self
    obtain ⟨hfirst, hrest⟩ := List.pairwise_cons.mp hr.apart
    rw [extendRuns_cons]
    by_cases h : slot + 1 = run.lower
    · rw [if_pos h]
      refine ⟨fun i hi => ?_, List.pairwise_cons.mpr ⟨hfirst, hrest⟩⟩
      rcases List.mem_cons.mp hi with rfl | hi
      · exact UInt16.le_trans (UInt16.le_of_lt hrun) hle
      · exact hr.lower_le i (List.mem_cons_of_mem _ hi)
    · have hgap : slot.toNat + 1 ≠ run.lower.toNat := by
        rw [← toNat_add_one hrun]
        exact fun he => h (UInt16.toNat.inj he)
      rw [if_neg h]
      refine ⟨fun i hi => ?_, List.pairwise_cons.mpr ⟨fun j hj => ?_, hr.apart⟩⟩
      · rcases List.mem_cons.mp hi with rfl | hi
        · exact UInt16.le_refl _
        · exact hr.lower_le i hi
      · -- the first run lies below all others, so the gap in front of it is enough
        rw [UInt16.lt_iff_toNat_lt] at hrun
        rw [UInt16.le_iff_toNat_le] at hle
        show slot.toNat + 1 < j.lower.toNat
        rcases List.mem_cons.mp hj with rfl | hj
        · omega
        · have := hfirst j hj
          omega

/-- The runs of an ascending list cover its members, and are runs. -/
theorem foldr_extendRuns {slots : List Slot} (h : slots.Pairwise (· < ·)) :
    (∀ n, Covers (slots.foldr extendRuns []) n ↔ n ∈ slots) ∧
      AreRuns (slots.foldr extendRuns []) := by
  induction slots with
  | nil =>
    exact ⟨fun n => iff_of_false (not_covers_nil n) List.not_mem_nil,
      fun i hi => absurd hi List.not_mem_nil, List.Pairwise.nil⟩
  | cons slot slots ih =>
    obtain ⟨hfirst, hrest⟩ := List.pairwise_cons.mp h
    obtain ⟨hcov, hr⟩ := ih hrest
    -- the start of a run is itself covered, so it is one of the slots above
    have hlt : ∀ i ∈ slots.foldr extendRuns [], slot < i.lower := fun i hi =>
      hfirst _ ((hcov _).mp ⟨i, hi, UInt16.le_refl _, hr.lower_le i hi⟩)
    rw [List.foldr_cons]
    refine ⟨fun n => ?_, areRuns_extendRuns hr hlt⟩
    rw [covers_extendRuns hr hlt, hcov, List.mem_cons]

end Interval

namespace SlotSet

theorem covers_runs {s : SlotSet} {slot : Slot} : Covers s.runs slot ↔ slot ∈ s :=
  ((Interval.foldr_extendRuns s.pairwise_toList).1 slot).trans mem_toList

theorem areRuns_runs (s : SlotSet) : AreRuns s.runs :=
  (Interval.foldr_extendRuns s.pairwise_toList).2

/-- Both ends of a run are members. -/
theorem mem_of_mem_runs {s : SlotSet} {i : Interval} (hi : i ∈ s.runs) :
    i.lower ∈ s ∧ i.upper ∈ s := by
  have hle := s.areRuns_runs.lower_le i hi
  exact ⟨covers_runs.mp ⟨i, hi, UInt16.le_refl _, hle⟩,
    covers_runs.mp ⟨i, hi, hle, UInt16.le_refl _⟩⟩

theorem runs_eq_iff {a b : SlotSet} : a.runs = b.runs ↔ ∀ slot, slot ∈ a ↔ slot ∈ b := by
  constructor
  · intro h slot
    rw [← covers_runs, h, covers_runs]
  · intro h
    unfold runs
    rw [toList_eq_iff.mpr h]

/-! ## Sets of intervals -/

theorem size_words_insertAll (s : SlotSet) (slots : List Slot) :
    (s.insertAll slots).words.size = s.words.size := by
  induction slots generalizing s with
  | nil => rfl
  | cons slot slots ih => exact (ih (s.insert slot)).trans (s.size_words_insert slot)

theorem size_words_blank_count : (blank Slot.count).words.size = wordCount :=
  Array.size_replicate

/-- Words for all of the slot space cover every slot of it. -/
theorem div_bits_lt {slot : Slot} (h : slot.InSpace) : slot.toNat / Word.bits < wordCount :=
  (Nat.div_lt_iff_lt_mul (by decide)).mpr h

theorem mem_insertAll_toList {s : SlotSet} {i : Interval} {slot : Slot}
    (h : i.upper.toNat / Word.bits < s.words.size) :
    slot ∈ s.insertAll i.toList ↔ slot ∈ i ∨ slot ∈ s := by
  have hin : ∀ a ∈ i.toList, a.toNat / Word.bits < s.words.size := by
    intro a ha
    have hle := (Interval.mem_iff_toNat.mp (Interval.mem_toList.mp ha)).2
    exact (Nat.div_le_div_right hle).trans_lt h
  rw [mem_insertAll hin, Interval.mem_toList]

theorem mem_foldl_insertAll {intervals : List Interval} {s : SlotSet} {slot : Slot}
    (hs : s.words.size = wordCount) (h : ∀ i ∈ intervals, i.upper.InSpace) :
    slot ∈ intervals.foldl (fun s i => s.insertAll i.toList) s ↔
      Covers intervals slot ∨ slot ∈ s := by
  induction intervals generalizing s with
  | nil =>
    rw [List.foldl_nil]
    exact (or_iff_right (not_covers_nil slot)).symm
  | cons i intervals ih =>
    have hi : i.upper.toNat / Word.bits < s.words.size := by
      rw [hs]
      exact div_bits_lt (h i List.mem_cons_self)
    have hsize : (s.insertAll i.toList).words.size = wordCount := by rw [size_words_insertAll, hs]
    rw [List.foldl_cons, ih hsize fun j hj => h j (List.mem_cons_of_mem _ hj),
      mem_insertAll_toList hi, covers_cons, ← or_assoc, or_comm (a := slot ∈ i)]

theorem mem_ofIntervals {intervals : List Interval} {slot : Slot}
    (h : ∀ i ∈ intervals, i.upper.InSpace) : slot ∈ ofIntervals intervals ↔ Covers intervals slot :=
  (mem_foldl_insertAll size_words_blank_count h).trans (or_iff_left (not_mem_blank _ _))

end SlotSet

end ClusterTopology
