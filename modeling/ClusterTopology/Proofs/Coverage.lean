import ClusterTopology.Proofs.Enumeration
import ClusterTopology.Proofs.Tag
import ClusterTopology.Table
import Mathlib.Algebra.Order.BigOperators.Group.Finset
import Mathlib.Tactic.TFAE

/-!
# How often slots are covered

`SlotSet.coverage` is the number of sets in a list that have a slot. Added up over the slot space it
is the sum of the sizes (`SlotSet.sum_size_eq`). So sets with as many slots in all as there are in
the slot space cover all of it exactly if they do not overlap (`SlotSet.coverage_tfae`). The slots
of the masters of a table are such sets (`Table.masters_tfae`).
-/

namespace ClusterTopology

namespace SlotSet

/-- The number of sets in the list that have the slot. -/
def coverage (sets : List SlotSet) (slot : Slot) : Nat := sets.countP (·.contains slot)

theorem coverage_cons (s : SlotSet) (sets : List SlotSet) (slot : Slot) :
    coverage (s :: sets) slot = coverage sets slot + if slot ∈ s then 1 else 0 :=
  List.countP_cons

theorem coverage_pos_iff {sets : List SlotSet} {slot : Slot} :
    0 < coverage sets slot ↔ ∃ s ∈ sets, slot ∈ s :=
  List.countP_pos_iff

/-! ## Sizes -/

theorem countP_range_eq_sum (p : Nat → Bool) (k : Nat) :
    (List.range k).countP p = ∑ n ∈ Finset.range k, if p n then 1 else 0 := by
  induction k with
  | zero => rfl
  | succ k ih =>
    rw [List.range_succ, List.countP_append, List.countP_singleton, Finset.sum_range_succ, ih]

/-- A set has as many slots as are found by asking for each slot of the slot space. -/
theorem size_eq_sum (s : SlotSet) :
    s.size = ∑ n ∈ Finset.range Slot.count, if n.toUInt16 ∈ s then 1 else 0 := by
  rw [size_eq_length_sweep, ← toArray_eq_sweep, toList_toArray, ← List.countP_eq_length_filter,
    allSlots, List.countP_map, countP_range_eq_sum]
  rfl

/-- Every set counts each of its slots once, so the sizes add up to what the slots are covered. -/
theorem sum_size_eq (sets : List SlotSet) :
    (sets.map size).sum = ∑ n ∈ Finset.range Slot.count, coverage sets n.toUInt16 := by
  induction sets with
  | nil => exact Finset.sum_const_zero.symm
  | cons s sets ih =>
    rw [List.map_cons, List.sum_cons, size_eq_sum, ih, Nat.add_comm, ← Finset.sum_add_distrib]
    exact Finset.sum_congr rfl fun n _ => (coverage_cons s sets n.toUInt16).symm

/-! ## Covering without overlap -/

/-- No two sets of the list have a slot in common. -/
def Apart (sets : List SlotSet) : Prop := sets.Pairwise fun a b => ∀ slot, ¬(slot ∈ a ∧ slot ∈ b)

theorem apart_iff {sets : List SlotSet} : Apart sets ↔ ∀ slot, coverage sets slot ≤ 1 := by
  unfold Apart
  induction sets with
  | nil => exact iff_of_true .nil fun _ => Nat.zero_le 1
  | cons s sets ih =>
    rw [List.pairwise_cons, ih]
    simp only [coverage_cons]
    constructor
    · rintro ⟨hfirst, hrest⟩ slot
      by_cases hs : slot ∈ s
      · have hnone : ¬0 < coverage sets slot := by
          rw [coverage_pos_iff]
          rintro ⟨b, hb, hslot⟩
          exact hfirst b hb slot ⟨hs, hslot⟩
        rw [if_pos hs]
        omega
      · rw [if_neg hs]
        exact hrest slot
    · intro h
      refine ⟨?_, fun slot => (Nat.le_add_right _ _).trans (h slot)⟩
      rintro b hb slot ⟨hs, hslot⟩
      have hpos := coverage_pos_iff.mpr ⟨b, hb, hslot⟩
      have hle := h slot
      rw [if_pos hs] at hle
      omega

section Total

variable {sets : List SlotSet} (h : (sets.map size).sum = Slot.count)

include h

/-- Where the slots are covered once on average, and each at least once or each at most once, every
slot is covered exactly once. -/
theorem coverage_eq_one (hside : (∀ slot : Slot, slot.InSpace → 1 ≤ coverage sets slot) ∨
      ∀ slot : Slot, slot.InSpace → coverage sets slot ≤ 1) {slot : Slot} (hslot : slot.InSpace) :
    coverage sets slot = 1 := by
  have hin : ∀ n ∈ Finset.range Slot.count, Slot.InSpace n.toUInt16 := fun n hn => by
    have hn := Finset.mem_range.mp hn
    unfold Slot.InSpace
    rwa [Slot.toNat_toUInt16 hn]
  have htotal : ∑ n ∈ Finset.range Slot.count, coverage sets n.toUInt16 =
      ∑ _n ∈ Finset.range Slot.count, 1 := by
    rw [← sum_size_eq, h, Finset.sum_const, Finset.card_range, Nat.nsmul_eq_mul,
      Nat.mul_one]
  have heach : ∀ n ∈ Finset.range Slot.count, coverage sets n.toUInt16 = 1 := by
    rcases hside with hpos | hle
    · intro n hn
      exact ((Finset.sum_eq_sum_iff_of_le fun m hm => hpos _ (hin m hm)).mp htotal.symm n hn).symm
    · exact (Finset.sum_eq_sum_iff_of_le fun m hm => hle _ (hin m hm)).mp htotal
  have hlast := heach slot.toNat (Finset.mem_range.mpr hslot)
  rwa [show slot.toNat.toUInt16 = slot from UInt16.ofNat_toNat] at hlast

theorem coverage_tfae :
    [∀ slot : Slot, slot.InSpace → ∃ s ∈ sets, slot ∈ s, Apart sets,
      (∀ slot : Slot, slot.InSpace → coverage sets slot = 1) ∧
        ∀ key : Key, coverage sets key.slot = 1].TFAE := by
  have hexact (hside) : (∀ slot : Slot, slot.InSpace → coverage sets slot = 1) ∧
      ∀ key : Key, coverage sets key.slot = 1 :=
    ⟨fun slot hslot => coverage_eq_one h hside hslot,
      fun key => coverage_eq_one h hside (Key.inSpace_slot key)⟩
  tfae_have 1 → 3 := fun hall =>
    hexact (.inl fun slot hslot => coverage_pos_iff.mpr (hall slot hslot))
  tfae_have 2 → 3 := fun hapart => hexact (.inr fun slot _ => apart_iff.mp hapart slot)
  tfae_have 3 → 1 := fun hone slot hslot => coverage_pos_iff.mp (by rw [hone.1 slot hslot]; decide)
  tfae_have 3 → 2 := by
    intro hone
    rw [apart_iff]
    intro slot
    by_cases hslot : slot.InSpace
    · exact (hone.1 slot hslot).le
    · refine not_lt.mp fun hlt => hslot ?_
      obtain ⟨s, -, hs⟩ := coverage_pos_iff.mp (Nat.zero_lt_of_lt hlt)
      exact inSpace_of_mem hs
  tfae_finish

end Total

end SlotSet

/-! ## The masters of a table -/

namespace Table

open SlotSet

/-- The number of owners of the slot that are masters. -/
def masterCount (t : Table) (slot : Slot) : Nat := (t.owners slot).countP (·.node.isMaster)

/-- It does not matter whether masters or owners are looked for first. -/
theorem masterCount_eq (t : Table) (slot : Slot) :
    t.masterCount slot = coverage (t.masters.map (·.slots)) slot := by
  unfold masterCount owners masters coverage
  rw [List.countP_map, List.countP_filter, List.countP_filter]
  exact List.countP_congr fun n _ => by rw [Bool.and_comm]; rfl

theorem masterSlots_eq (t : Table) :
    t.masterSlots = ((t.masters.map (·.slots)).map size).sum := by
  unfold masterSlots
  rw [List.sum_eq_foldl, List.map_map, List.foldl_map]
  rfl

theorem masterSlots_eq_sum (t : Table) :
    t.masterSlots = ∑ n ∈ Finset.range Slot.count, t.masterCount n.toUInt16 := by
  rw [masterSlots_eq, sum_size_eq]
  exact Finset.sum_congr rfl fun n _ => (t.masterCount_eq n.toUInt16).symm

theorem masters_tfae {t : Table} (h : t.masterSlots = Slot.count) :
    [∀ slot : Slot, slot.InSpace → ∃ m ∈ t.masters, m.serves slot = true,
      t.masters.Pairwise fun a b => ∀ slot, ¬(a.serves slot = true ∧ b.serves slot = true),
      (∀ slot : Slot, slot.InSpace → t.masterCount slot = 1) ∧
        ∀ key : Key, t.masterCount key.slot = 1].TFAE := by
  have hsets := coverage_tfae ((t.masterSlots_eq).symm.trans h)
  unfold Apart at hsets
  simp only [List.mem_map, exists_exists_and_eq_and, List.pairwise_map, ← masterCount_eq] at hsets
  exact hsets

end Table

namespace SlotSet

/-- The sizes of the sets add up to the numbers of sets that have each slot. So if they come to the
number of slots, then all slots are covered, or no slot is covered twice, exactly if every slot is
in exactly one of the sets, and with it the slot of every key. The slots of the masters of a table
are counted in the same way: if they come to the number of slots, then every slot is served by a
master, or no two masters serve the same slot, exactly if every slot is served by exactly one of
them. -/
theorem sizes_count_coverage :
    (∀ sets : List SlotSet,
      (sets.map size).sum = ∑ n ∈ Finset.range 16384, coverage sets n.toUInt16) ∧
    (∀ sets : List SlotSet, (sets.map size).sum = 16384 →
      [∀ slot : Slot, slot.toNat < 16384 → ∃ s ∈ sets, slot ∈ s,
        sets.Pairwise fun a b => ∀ slot, ¬(slot ∈ a ∧ slot ∈ b),
        (∀ slot : Slot, slot.toNat < 16384 → coverage sets slot = 1) ∧
          ∀ key : Key, coverage sets key.slot = 1].TFAE) ∧
    ∀ t : Table,
      t.masterSlots = ∑ n ∈ Finset.range 16384, t.masterCount n.toUInt16 ∧
      (t.masterSlots = 16384 →
        [∀ slot : Slot, slot.toNat < 16384 → ∃ m ∈ t.masters, m.serves slot = true,
          t.masters.Pairwise fun a b => ∀ slot, ¬(a.serves slot = true ∧ b.serves slot = true),
          (∀ slot : Slot, slot.toNat < 16384 → t.masterCount slot = 1) ∧
            ∀ key : Key, t.masterCount key.slot = 1].TFAE) :=
  ⟨sum_size_eq, fun _ h => coverage_tfae h,
    fun t => ⟨t.masterSlots_eq_sum, fun h => Table.masters_tfae h⟩⟩

/-- Two halves of the slot space, which do not overlap, and two masters that serve them. -/
theorem sizes_count_coverage_of_halves : ∃ a b, ofBounds 0 8191 = .ok a ∧
    ofBounds 8192 16383 = .ok b ∧ ([a, b].map size).sum = 16384 ∧
    (∀ key : Key, coverage [a, b] key.slot = 1) ∧
    ∀ key : Key, Table.masterCount
      ⟨[{ node := { role := some .master }, slots := a },
        { node := { role := some .master }, slots := b }]⟩ key.slot = 1 := by
  obtain ⟨a, ha, hmema⟩ := (bounded_ofBounds 0 8191).between (by decide) (by decide)
  obtain ⟨b, hb, hmemb⟩ := (bounded_ofBounds 8192 16383).between (by decide) (by decide)
  have hsum : ([a, b].map size).sum = 16384 := by
    rw [List.map_cons, List.map_singleton, size_eq_of_between hmema, size_eq_of_between hmemb]
    rfl
  have hapart : ∀ slot, ¬(slot ∈ a ∧ slot ∈ b) := by
    intro slot hslot
    have hle : slot ≤ 8191 := ((hmema slot).mp hslot.1).2
    exact absurd (UInt16.le_trans ((hmemb slot).mp hslot.2).1 hle) (by decide)
  let t : Table := ⟨[{ node := { role := some .master }, slots := a },
    { node := { role := some .master }, slots := b }]⟩
  have htotal : t.masterSlots = 16384 := t.masterSlots_eq.trans hsum
  have hsets := (sizes_count_coverage.2.1 [a, b] hsum).out 1 2
  have hmasters := ((sizes_count_coverage.2.2 t).2 htotal).out 1 2
  exact ⟨a, b, ha, hb, hsum, (hsets.mp (List.pairwise_pair.mpr hapart)).2,
    (hmasters.mp (List.pairwise_pair.mpr hapart)).2⟩

end SlotSet

end ClusterTopology
