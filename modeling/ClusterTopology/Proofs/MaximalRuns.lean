import ClusterTopology.Proofs.Construction
import Mathlib.Data.List.Chain
import Mathlib.Data.List.Pairwise
import Mathlib.Data.List.Perm.Subperm
import Mathlib.Tactic.Choose

/-!
# Runs are the one shortest decomposition

A set of slots is the union of many lists of intervals. Only one of them consists of intervals that
are not empty, ascend, and do not touch (`AreRuns.eq_of_covers`), and none is shorter than that one
(`AreRuns.length_le`): an interval with the starts of two runs would fill the gap between them.
-/

namespace ClusterTopology

/-- The intervals are not empty, behind each is a gap, and together they have the slots of the set.
-/
structure Decomposes (intervals : List Interval) (s : SlotSet) : Prop where
  lower_le : ∀ i ∈ intervals, i.lower ≤ i.upper
  gap : intervals.IsChain fun i j => i.upper.toNat + 1 < j.lower.toNat
  contains_iff : ∀ slot, s.contains slot = true ↔ Covers intervals slot

/-- One of the intervals lies below the other, with a gap between them. -/
def Interval.Separate (i j : Interval) : Prop :=
  i.upper.toNat + 1 < j.lower.toNat ∨ j.upper.toNat + 1 < i.lower.toNat

instance : Std.Symm Interval.Separate := ⟨fun _ _ => Or.symm⟩

namespace AreRuns

/-! ## Gaps -/

theorem tail {i : Interval} {runs : List Interval} (h : AreRuns (i :: runs)) : AreRuns runs :=
  ⟨fun j hj => h.lower_le j (List.mem_cons_of_mem _ hj), (List.pairwise_cons.mp h.apart).2⟩

theorem head_lt {i j : Interval} {runs : List Interval} (h : AreRuns (i :: runs)) (hj : j ∈ runs) :
    i.upper.toNat + 1 < j.lower.toNat :=
  (List.pairwise_cons.mp h.apart).1 j hj

/-- Gaps between neighbours are enough, since no interval is empty. -/
theorem of_isChain {runs : List Interval} (hle : ∀ i ∈ runs, i.lower ≤ i.upper)
    (hgap : runs.IsChain fun i j => i.upper.toNat + 1 < j.lower.toNat) : AreRuns runs := by
  induction runs with
  | nil => exact ⟨hle, .nil⟩
  | cons i runs ih =>
    obtain ⟨hnext, hrest⟩ := List.isChain_cons.mp hgap
    have hr := ih (fun j hj => hle j (List.mem_cons_of_mem _ hj)) hrest
    refine ⟨hle, List.pairwise_cons.mpr ⟨fun j hj => ?_, hr.apart⟩⟩
    cases runs with
    | nil => exact absurd hj List.not_mem_nil
    | cons k runs =>
      have hik := hnext k rfl
      rcases List.mem_cons.mp hj with rfl | hj
      · exact hik
      · have hkj := hr.head_lt hj
        have hk := hr.toNat_le List.mem_cons_self
        omega

theorem separate {runs : List Interval} (h : AreRuns runs) {i j : Interval} (hi : i ∈ runs)
    (hj : j ∈ runs) (hne : i ≠ j) : i.Separate j := by
  have hsep : runs.Pairwise Interval.Separate := h.apart.imp Or.inl
  exact hsep.forall hi hj hne

/-- The slots next to a run lie in no run. -/
theorem not_covers {runs : List Interval} (h : AreRuns runs) {i : Interval} (hi : i ∈ runs)
    {slot : Slot} (hslot : slot.toNat = i.upper.toNat + 1 ∨ slot.toNat + 1 = i.lower.toNat) :
    ¬Covers runs slot := by
  rintro ⟨j, hj, hmem⟩
  rw [Interval.mem_iff_toNat] at hmem
  have hle := h.toNat_le hi
  by_cases hij : i = j
  · subst hij
    omega
  · have hsep := h.separate hi hj hij
    unfold Interval.Separate at hsep
    omega

/-! ## Uniqueness -/

/-- The slots of the first run come before all others. -/
theorem lower_le_of_covers {i : Interval} {runs : List Interval} (h : AreRuns (i :: runs))
    {slot : Slot} (hslot : Covers (i :: runs) slot) : i.lower.toNat ≤ slot.toNat := by
  obtain ⟨j, hj, hmem⟩ := hslot
  rw [Interval.mem_iff_toNat] at hmem
  rcases List.mem_cons.mp hj with rfl | hj
  · exact hmem.1
  · have hfirst := h.head_lt hj
    have hle := h.toNat_le List.mem_cons_self
    omega

theorem covers_lower {i : Interval} {runs : List Interval} (h : AreRuns (i :: runs)) :
    Covers (i :: runs) i.lower :=
  covers_cons.mpr (.inl ⟨UInt16.le_refl _, h.lower_le i List.mem_cons_self⟩)

theorem covers_tail_iff {i : Interval} {runs : List Interval} (h : AreRuns (i :: runs))
    {slot : Slot} : Covers runs slot ↔ Covers (i :: runs) slot ∧ slot ∉ i := by
  rw [covers_cons]
  constructor
  · rintro ⟨j, hj, hmem⟩
    refine ⟨Or.inr ⟨j, hj, hmem⟩, fun hslot => ?_⟩
    have hfirst := h.head_lt hj
    rw [Interval.mem_iff_toNat] at hmem hslot
    omega
  · rintro ⟨hslot | hslot, hnot⟩
    · exact absurd hslot hnot
    · exact hslot

section Compare

variable {i j : Interval} {is js : List Interval} (hj : AreRuns (j :: js))
  (h : ∀ slot, Covers (i :: is) slot → Covers (j :: js) slot)

include hj h

theorem head_lower_le (hi : AreRuns (i :: is)) : j.lower.toNat ≤ i.lower.toNat :=
  hj.lower_le_of_covers (h i.lower hi.covers_lower)

/-- Runs that start together end together, as the slot behind a run lies in no run. -/
theorem head_upper_le (hlower : i.lower = j.lower) : i.upper.toNat ≤ j.upper.toNat := by
  by_contra hlt
  have hsucc : (j.upper + 1).toNat = j.upper.toNat + 1 :=
    Interval.toNat_add_one (UInt16.lt_iff_toNat_lt.mpr (not_le.mp hlt))
  have hle := hj.toNat_le List.mem_cons_self
  refine hj.not_covers List.mem_cons_self (.inl hsucc) (h _ (covers_cons.mpr (.inl ?_)))
  rw [Interval.mem_iff_toNat, hsucc, hlower]
  omega

end Compare

/-- Runs are determined by the slots that they cover. -/
theorem eq_of_covers {is js : List Interval} (hi : AreRuns is) (hj : AreRuns js)
    (h : ∀ slot, Covers is slot ↔ Covers js slot) : is = js := by
  induction is generalizing js with
  | nil =>
    cases js with
    | nil => rfl
    | cons j js => exact absurd ((h j.lower).mpr hj.covers_lower) (not_covers_nil _)
  | cons i is ih =>
    cases js with
    | nil => exact absurd ((h i.lower).mp hi.covers_lower) (not_covers_nil _)
    | cons j js =>
      have hij := fun slot => (h slot).mp
      have hji := fun slot => (h slot).mpr
      have hlower : i.lower = j.lower :=
        UInt16.toNat.inj (le_antisymm (hi.head_lower_le hji hj) (hj.head_lower_le hij hi))
      have hupper : i.upper = j.upper :=
        UInt16.toNat.inj
          (le_antisymm (hj.head_upper_le hij hlower) (hi.head_upper_le hji hlower.symm))
      obtain rfl : i = j := by
        cases i
        cases j
        exact congrArg₂ Interval.mk hlower hupper
      have hrest : ∀ slot, Covers is slot ↔ Covers js slot := fun slot => by
        rw [hi.covers_tail_iff, hj.covers_tail_iff, h]
      rw [ih hi.tail hj.tail hrest]

/-! ## Length -/

/-- Any intervals with the same slots are at least as many as the runs. -/
theorem length_le {runs intervals : List Interval} (hr : AreRuns runs)
    (h : ∀ slot, Covers intervals slot ↔ Covers runs slot) : runs.length ≤ intervals.length := by
  have hstart : ∀ i ∈ runs, ∃ j ∈ intervals, i.lower ∈ j := fun i hi =>
    (h i.lower).mpr ⟨i, hi, UInt16.le_refl _, hr.lower_le i hi⟩
  choose! f hf hmem using hstart
  have hne : runs.Pairwise fun i j => f i ≠ f j := by
    refine hr.apart.imp_of_mem fun {i j} hi hj hlt he => ?_
    have hle := hr.toNat_le hi
    have hsucc : (i.upper + 1).toNat = i.upper.toNat + 1 :=
      Interval.toNat_add_one (a := j.lower) (UInt16.lt_iff_toNat_lt.mpr (by omega))
    -- the slot behind `i` lies between the two starts, so it is in the common interval
    refine hr.not_covers hi (.inl hsucc) ((h _).mp ⟨f i, hf i hi, ?_⟩)
    have hi' := hmem i hi
    have hj' := he ▸ hmem j hj
    rw [Interval.mem_iff_toNat] at hi' hj' ⊢
    omega
  have hnodup : (runs.map f).Nodup := List.pairwise_map.mpr hne
  have hsub : runs.map f ⊆ intervals := by
    intro j hj
    obtain ⟨i, hi, rfl⟩ := List.mem_map.mp hj
    exact hf i hi
  calc runs.length = (runs.map f).length := (List.length_map _).symm
    _ ≤ intervals.length := (List.subperm_of_subset hnodup hsub).length_le

end AreRuns

namespace SlotSet

theorem decomposes_runs (s : SlotSet) : Decomposes s.runs s where
  lower_le := s.areRuns_runs.lower_le
  gap := s.areRuns_runs.apart.isChain
  contains_iff _ := covers_runs.symm

theorem decomposes_iff {s : SlotSet} {intervals : List Interval} :
    Decomposes intervals s ↔ intervals = s.runs := by
  constructor
  · intro h
    refine (AreRuns.of_isChain h.lower_le h.gap).eq_of_covers s.areRuns_runs fun slot => ?_
    rw [covers_runs]
    exact (h.contains_iff slot).symm
  · rintro rfl
    exact s.decomposes_runs

/-- The runs of a set are the only intervals that are not empty, have gaps between them, and have
exactly the slots of the set. They cannot be extended on either side, and no list of intervals with
the same slots, in any order and with any overlaps, is shorter. -/
theorem runs_unique_and_fewest (s : SlotSet) :
    (∀ intervals, Decomposes intervals s ↔ intervals = s.runs) ∧
    (∀ i ∈ s.runs, ∀ slot : Slot,
      slot.toNat = i.upper.toNat + 1 ∨ slot.toNat + 1 = i.lower.toNat → s.contains slot = false) ∧
    ∀ intervals : List Interval, (∀ slot, s.contains slot = true ↔ ∃ i ∈ intervals, slot ∈ i) →
      s.runs.length ≤ intervals.length := by
  refine ⟨fun intervals => decomposes_iff, fun i hi slot hslot => ?_, fun intervals h => ?_⟩
  · rw [← Bool.not_eq_true]
    exact fun hm => s.areRuns_runs.not_covers hi hslot (covers_runs.mpr hm)
  · exact s.areRuns_runs.length_le fun slot => (h slot).symm.trans covers_runs.symm

/-- A run across a word boundary, against intervals that overlap and are out of order. -/
theorem runs_unique_and_fewest_of_overlapping : ∃ s, ofList [64, 63, 100, 65] = .ok s ∧
    [⟨63, 65⟩, ⟨100, 100⟩] = s.runs ∧
    s.runs.length ≤ ([⟨64, 65⟩, ⟨100, 100⟩, ⟨63, 64⟩] : List Interval).length := by
  have hin : ∀ a ∈ ([64, 63, 100, 65] : List Slot), a.toNat < 16384 := by
    rw [List.forall_mem_cons, List.forall_mem_cons, List.forall_mem_cons,
      List.forall_mem_singleton]
    exact ⟨by decide, by decide, by decide, by decide⟩
  obtain ⟨s, hs, hmem⟩ := exists_ofList_eq_ok hin
  refine ⟨s, hs, (s.runs_unique_and_fewest.1 _).mp ⟨?_, ?_, fun slot => ?_⟩,
    s.runs_unique_and_fewest.2.2 _ fun slot => ?_⟩
  · decide
  · decide
  · refine (hmem slot).trans ?_
    simp only [Covers, List.mem_cons, List.not_mem_nil, or_false, exists_eq_or_imp, exists_eq_left,
      Interval.mem_iff_toNat, ← UInt16.toNat_inj, UInt16.reduceToNat]
    omega
  · refine (hmem slot).trans ?_
    simp only [List.mem_cons, List.not_mem_nil, or_false, exists_eq_or_imp, exists_eq_left,
      Interval.mem_iff_toNat, ← UInt16.toNat_inj, UInt16.reduceToNat]
    omega

end SlotSet

end ClusterTopology
