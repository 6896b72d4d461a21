import ClusterTopology.Interval
import Mathlib.Data.List.Nodup

/-!
# Ascending lists of slots

A list of slots in ascending order is determined by its members (`Slot.eq_of_ascending`). The first
numbers make such a list (`Slot.ascending_range`), and so do the members of an interval
(`Interval.ascending_toList`).
-/

namespace ClusterTopology

namespace Slot

/-- Two ascending lists with the same members are the same. -/
theorem eq_of_ascending {as bs : List Slot} (ha : as.Pairwise (· < ·)) (hb : bs.Pairwise (· < ·))
    (h : ∀ slot, slot ∈ as ↔ slot ∈ bs) : as = bs := by
  have hperm : as.Perm bs :=
    (List.perm_ext_iff_of_nodup (ha.imp UInt16.ne_of_lt) (hb.imp UInt16.ne_of_lt)).mpr h
  exact hperm.eq_of_pairwise (fun _ _ _ _ h₁ h₂ => absurd h₂ (UInt16.lt_asymm h₁)) ha hb

/-- Numbers of 16 bits keep their order as slots. -/
theorem ascending_map_toUInt16 {ns : List Nat} (h : ns.Pairwise (· < ·))
    (hlt : ∀ n ∈ ns, n < UInt16.size) : (ns.map Nat.toUInt16).Pairwise (· < ·) := by
  refine List.pairwise_map.mpr (h.imp_of_mem fun {m n} hm hn hmn => ?_)
  have hto : ∀ k ∈ ns, k.toUInt16.toNat = k := fun k hk => UInt16.toNat_ofNat_of_lt (hlt k hk)
  rwa [UInt16.lt_iff_toNat_lt, hto m hm, hto n hn]

section Range

variable {k : Nat} (hk : k ≤ UInt16.size)

include hk

theorem ascending_range : ((List.range k).map Nat.toUInt16).Pairwise (· < ·) :=
  ascending_map_toUInt16 List.pairwise_lt_range fun _ hn =>
    Nat.lt_of_lt_of_le (List.mem_range.mp hn) hk

theorem mem_range {slot : Slot} : slot ∈ (List.range k).map Nat.toUInt16 ↔ slot.toNat < k := by
  rw [List.mem_map]
  constructor
  · rintro ⟨n, hn, rfl⟩
    have hlt := List.mem_range.mp hn
    rwa [show n.toUInt16.toNat = n from UInt16.toNat_ofNat_of_lt (Nat.lt_of_lt_of_le hlt hk)]
  · intro h
    exact ⟨slot.toNat, List.mem_range.mpr h, UInt16.ofNat_toNat⟩

end Range

end Slot

theorem Interval.ascending_toList (i : Interval) : i.toList.Pairwise (· < ·) := by
  refine Slot.ascending_map_toUInt16 (List.pairwise_lt_range' 1) fun n hn => ?_
  have hupper := i.upper.toNat_lt
  rw [List.mem_range'_1] at hn
  show n < 65536
  omega

end ClusterTopology
