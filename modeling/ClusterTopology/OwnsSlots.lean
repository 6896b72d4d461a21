import ClusterTopology.SlotSet.Text

/-!
# Owners of slots

Whatever holds a part of the slot space can be asked which slots it serves.
-/

namespace ClusterTopology

/-- A type whose values own slots. -/
class OwnsSlots (α : Type) where
  /-- The slots that the owner serves. -/
  slots : α → SlotSet

/-- Does the owner serve the slot? -/
def OwnsSlots.serves {α : Type} [OwnsSlots α] (owner : α) (slot : Slot) : Bool :=
  (slots owner).contains slot

instance : OwnsSlots SlotSet := ⟨id⟩

end ClusterTopology
