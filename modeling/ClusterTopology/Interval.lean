import ClusterTopology.Slot
import ClusterTopology.Text.Number

/-!
# Intervals of slots

A closed interval is given by its two ends. It has no member if they are inverted.
-/

namespace ClusterTopology

/-- The slots from `lower` to `upper`, both included. -/
structure Interval where
  lower : Slot
  upper : Slot
deriving DecidableEq, Repr

namespace Interval

instance : Membership Slot Interval where
  mem i slot := i.lower ≤ slot ∧ slot ≤ i.upper

instance (slot : Slot) (i : Interval) : Decidable (slot ∈ i) :=
  inferInstanceAs (Decidable (i.lower ≤ slot ∧ slot ≤ i.upper))

/-- The interval whose only member is `slot`. -/
def singleton (slot : Slot) : Interval := ⟨slot, slot⟩

/-- The members in ascending order. -/
def toList (i : Interval) : List Slot :=
  (List.range' i.lower.toNat (i.upper.toNat + 1 - i.lower.toNat)).map Nat.toUInt16

/-- One number for a single slot, else the two ends around a dash. -/
def chars (i : Interval) : List Char :=
  if i.lower = i.upper then Text.decimal i.lower.toNat
  else Text.decimal i.lower.toNat ++ '-' :: Text.decimal i.upper.toNat

theorem mem_def {slot : Slot} {i : Interval} : slot ∈ i ↔ i.lower ≤ slot ∧ slot ≤ i.upper := Iff.rfl

theorem mem_iff_toNat {slot : Slot} {i : Interval} :
    slot ∈ i ↔ i.lower.toNat ≤ slot.toNat ∧ slot.toNat ≤ i.upper.toNat := by
  rw [mem_def, UInt16.le_iff_toNat_le, UInt16.le_iff_toNat_le]

@[simp] theorem mem_toList {slot : Slot} {i : Interval} : slot ∈ i.toList ↔ slot ∈ i := by
  simp only [toList, List.mem_map, List.mem_range'_1, mem_iff_toNat]
  constructor
  · rintro ⟨n, hn, rfl⟩
    have := i.upper.toNat_lt
    have : n.toUInt16.toNat = n := by
      rw [Nat.toUInt16_eq, UInt16.toNat_ofNat']; omega
    omega
  · intro h
    exact ⟨slot.toNat, by omega, by simp⟩

end Interval

end ClusterTopology
