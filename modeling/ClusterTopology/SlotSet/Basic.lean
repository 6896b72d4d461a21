import ClusterTopology.Interval
import ClusterTopology.Word

/-!
# Sets of slots

A `SlotSet` holds slots of the slot space, contiguous or not, in a bitmap: slot `n` is position
`n % 64` of word `n / 64`. The bitmap may be shorter than the slot space, and missing words are
empty. Two sets are equal, and have the same hash, if they have the same words up to empty words at
the end.
-/

namespace ClusterTopology

/-- The number of words that cover the slot space. -/
def wordCount : Nat := Slot.count / Word.bits

/-- A set of slots, as the words of a bitmap that lies within the slot space. -/
structure SlotSet where
  words : Array UInt64
  size_le : words.size ≤ wordCount
deriving Repr

namespace SlotSet

/-! ## Members -/

/-- Is the slot in the set? No slot outside of the slot space is. -/
def contains (s : SlotSet) (slot : Slot) : Bool :=
  s.words[slot.toNat / Word.bits]?.any (Word.hasBit · (slot.toNat % Word.bits))

instance : Membership Slot SlotSet where
  mem s slot := s.contains slot = true

instance (slot : Slot) (s : SlotSet) : Decidable (slot ∈ s) :=
  inferInstanceAs (Decidable (s.contains slot = true))

theorem mem_def {slot : Slot} {s : SlotSet} : slot ∈ s ↔ s.contains slot = true := Iff.rfl

/-- The number of slots in the set. -/
def size (s : SlotSet) : Nat := s.words.foldl (fun n w => n + Word.popCount w) 0

/-- Is the set without slots? -/
def isEmpty (s : SlotSet) : Bool := s.words.all (· == 0)

/-! ## Construction -/

/-- The set without slots and without words. -/
def empty : SlotSet := ⟨#[], by decide⟩

instance : Inhabited SlotSet := ⟨empty⟩

instance : EmptyCollection SlotSet := ⟨empty⟩

/-- The set without slots whose words cover the first `capacity` slots, as far as the slot space
goes. -/
def blank (capacity : Nat) : SlotSet where
  words := .replicate (min ((capacity + Word.bits - 1) / Word.bits) wordCount) 0
  size_le := by rw [Array.size_replicate]; exact Nat.min_le_right ..

/-- The set with the slot added, provided that its words cover the slot. -/
def insert (s : SlotSet) (slot : Slot) : SlotSet where
  words := s.words.modify (slot.toNat / Word.bits) (Word.setBit · (slot.toNat % Word.bits))
  size_le := by rw [Array.size_modify]; exact s.size_le

/-- The set with all the slots added, provided that its words cover them. -/
def insertAll (s : SlotSet) (slots : List Slot) : SlotSet := slots.foldl insert s

/-- The slots from `lower` to `upper`, none of them if the bounds are inverted. Both bounds have to
lie in the slot space. -/
def ofBounds (lower upper : Slot) : Except Refusal SlotSet := do
  let lower ← Slot.ofIndex lower.toNat
  let upper ← Slot.ofIndex upper.toNat
  return (blank (upper.toNat + 1)).insertAll (Interval.toList ⟨lower, upper⟩)

/-- The slots of an interval whose ends lie in the slot space. -/
def ofInterval (i : Interval) : Except Refusal SlotSet := ofBounds i.lower i.upper

/-- The slots of a list, in any order and with any repetitions. The first one outside of the slot
space is refused. -/
def ofList (slots : List Slot) : Except Refusal SlotSet :=
  if slots.isEmpty then .ok empty
  else
    match slots.find? fun slot => ¬slot.InSpace with
    | some slot => .error (.slotOutOfRange slot.toNat)
    | none => .ok ((blank Slot.count).insertAll slots)

/-- The slots of a bitmap of any length. Its first slot outside of the slot space is refused. -/
def ofWords (words : Array UInt64) : Except Refusal SlotSet :=
  match ((words.toList.drop wordCount).zipIdx wordCount).find? (·.1 != 0) with
  | some (word, i) => .error (.slotOutOfRange (i * Word.bits + Word.lowest word))
  | none => .ok ⟨words.take wordCount, Array.size_extract_le⟩

/-! ## Equality -/

/-- The words up to the last one that is not empty. -/
def trimmedWords (s : SlotSet) : Array UInt64 := s.words.popWhile (· == 0)

instance : BEq SlotSet where
  beq a b := a.trimmedWords == b.trimmedWords

instance : Hashable SlotSet where
  hash s := hash s.trimmedWords

theorem beq_iff {a b : SlotSet} : a == b ↔ a.trimmedWords = b.trimmedWords :=
  beq_iff_eq (a := a.trimmedWords) (b := b.trimmedWords)

instance : EquivBEq SlotSet where
  rfl := beq_iff.2 rfl
  symm h := beq_iff.2 (beq_iff.1 h).symm
  trans h₁ h₂ := beq_iff.2 ((beq_iff.1 h₁).trans (beq_iff.1 h₂))

instance : LawfulHashable SlotSet where
  hash_eq _ _ h := congrArg (hash (α := Array UInt64)) (beq_iff.1 h)

end SlotSet

end ClusterTopology
