import ClusterTopology.Refusal

/-!
# The slot space

Keys are spread over `Slot.count` hash slots, numbered from zero. A `Slot` is any 16-bit number, so
it may lie outside of the slot space; `Slot.InSpace` says that it does not.
-/

namespace ClusterTopology

/-- The index of a hash slot. -/
abbrev Slot := UInt16

namespace Slot

/-- The number of hash slots. -/
def count : Nat := 16384

/-- The slot lies in the slot space. -/
def InSpace (slot : Slot) : Prop := slot.toNat < count

instance (slot : Slot) : Decidable slot.InSpace :=
  inferInstanceAs (Decidable (slot.toNat < count))

/-- The slot with index `n`, refused if it lies outside of the slot space. -/
def ofIndex (n : Nat) : Except Refusal Slot :=
  if n < count then .ok n.toUInt16 else .error (.slotOutOfRange n)

end Slot

end ClusterTopology
