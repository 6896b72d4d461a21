import ClusterTopology.Proofs.MaximalRuns
import Std.Data.TreeSet.Lemmas

/-!
# All enumerations list the same slots

`SlotSet.sweep` lists the members of a set in the plainest way: it asks for every number of 16 bits
there is. The scan of the slot space, the walk from bit to bit, the ordered set and the runs all
come to this list (`SlotSet.enumerations_agree`), and the size is its length.
-/

namespace ClusterTopology

/-- The slots of runs, one run after the other, ascend. -/
theorem AreRuns.ascending_flatMap {runs : List Interval} (h : AreRuns runs) :
    (runs.flatMap Interval.toList).Pairwise (· < ·) := by
  refine List.pairwise_flatMap.mpr ⟨fun i _ => i.ascending_toList, ?_⟩
  refine h.apart.imp fun {i j} hgap a ha b hb => ?_
  have ha := Interval.mem_iff_toNat.mp (Interval.mem_toList.mp ha)
  have hb := Interval.mem_iff_toNat.mp (Interval.mem_toList.mp hb)
  rw [UInt16.lt_iff_toNat_lt]
  omega

theorem mem_flatMap_toList {intervals : List Interval} {slot : Slot} :
    slot ∈ intervals.flatMap Interval.toList ↔ Covers intervals slot := by
  rw [List.mem_flatMap]
  exact exists_congr fun i => and_congr_right fun _ => Interval.mem_toList

namespace SlotSet

/-- The slots of the slot space, in ascending order. -/
def allSlots : List Slot := (List.range Slot.count).map Nat.toUInt16

theorem ascending_allSlots : allSlots.Pairwise (· < ·) := Slot.ascending_range (by decide)

theorem mem_allSlots {slot : Slot} : slot ∈ allSlots ↔ slot.InSpace := Slot.mem_range (by decide)

theorem toList_toArray (s : SlotSet) : s.toArray.toList = allSlots.filter s.contains := by
  unfold toArray
  rw [Array.toList_filter, Array.toList_map, Array.toList_range, allSlots]

/-- Every number of 16 bits that is in the set, in ascending order. -/
def sweep (s : SlotSet) : List Slot := ((List.range UInt16.size).map Nat.toUInt16).filter s.contains

theorem mem_sweep {s : SlotSet} {slot : Slot} : slot ∈ s.sweep ↔ slot ∈ s := by
  unfold sweep
  rw [List.mem_filter, Slot.mem_range le_rfl]
  exact and_iff_right slot.toNat_lt

theorem ascending_sweep (s : SlotSet) : s.sweep.Pairwise (· < ·) :=
  (Slot.ascending_range le_rfl).filter _

/-- Any ascending list of the members is the sweep. -/
theorem eq_sweep {s : SlotSet} {slots : List Slot} (hasc : slots.Pairwise (· < ·))
    (h : ∀ slot, slot ∈ slots ↔ slot ∈ s) : slots = s.sweep :=
  Slot.eq_of_ascending hasc s.ascending_sweep fun slot => (h slot).trans mem_sweep.symm

theorem toList_eq_sweep (s : SlotSet) : s.toList = s.sweep :=
  eq_sweep s.pairwise_toList fun _ => mem_toList

/-- No slot is missed by a scan that ends with the slot space. -/
theorem toArray_eq_sweep (s : SlotSet) : s.toArray.toList = s.sweep := by
  rw [toList_toArray]
  refine eq_sweep (ascending_allSlots.filter _) fun slot => ?_
  rw [List.mem_filter, mem_allSlots]
  exact and_iff_right_of_imp inSpace_of_mem

theorem mem_toTreeSet {s : SlotSet} {slot : Slot} : slot ∈ s.toTreeSet ↔ slot ∈ s := by
  unfold toTreeSet
  split
  · rename_i hempty
    exact iff_of_false Std.TreeSet.not_mem_emptyc (isEmpty_iff.mp hempty slot)
  · rw [Std.TreeSet.mem_ofList, List.contains_iff_mem, mem_toList]

theorem toTreeSet_eq_sweep (s : SlotSet) : s.toTreeSet.toList = s.sweep := by
  refine eq_sweep (Std.TreeSet.ordered_toList.imp Std.compare_eq_lt.mp) fun slot => ?_
  rw [Std.TreeSet.mem_toList, mem_toTreeSet]

theorem flatMap_runs_eq_sweep (s : SlotSet) : s.runs.flatMap Interval.toList = s.sweep :=
  eq_sweep s.areRuns_runs.ascending_flatMap fun _ => mem_flatMap_toList.trans covers_runs

theorem size_eq_length_sweep (s : SlotSet) : s.size = s.sweep.length := by
  rw [size_eq_length_toList, toList_eq_sweep]

/-- There are no more members than slots that a scan asks for. -/
theorem length_sweep_le (s : SlotSet) : s.sweep.length ≤ Slot.count := by
  rw [← toArray_eq_sweep, toList_toArray]
  calc (allSlots.filter s.contains).length ≤ allSlots.length := List.length_filter_le _ _
    _ = Slot.count := by rw [allSlots, List.length_map, List.length_range]

theorem isEmpty_iff_sweep {s : SlotSet} : s.isEmpty = true ↔ s.sweep = [] := by
  rw [isEmpty_iff, List.eq_nil_iff_forall_not_mem]
  simp only [mem_sweep]

/-- However many words a set has, its members in ascending order are what comes of a scan of the
slot space, of a walk from bit to bit, of the ordered set, and of the runs one after the other. The
size is the length of this list, at most that of the slot space, and the set is empty exactly if the
list is. -/
theorem enumerations_agree (s : SlotSet) :
    s.sweep.Pairwise (· < ·) ∧ (∀ slot, slot ∈ s.sweep ↔ s.contains slot = true) ∧
    s.toArray.toList = s.sweep ∧ s.toList = s.sweep ∧ s.toTreeSet.toList = s.sweep ∧
    s.runs.flatMap Interval.toList = s.sweep ∧
    s.size = s.sweep.length ∧ s.size ≤ 16384 ∧ (s.isEmpty = true ↔ s.sweep = []) :=
  ⟨s.ascending_sweep, fun _ => mem_sweep, s.toArray_eq_sweep, s.toList_eq_sweep,
    s.toTreeSet_eq_sweep, s.flatMap_runs_eq_sweep, s.size_eq_length_sweep,
    s.size_eq_length_sweep.trans_le s.length_sweep_le, isEmpty_iff_sweep⟩

end SlotSet

end ClusterTopology
