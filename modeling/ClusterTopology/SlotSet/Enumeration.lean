import ClusterTopology.SlotSet.Cursor
import Std.Data.TreeSet

/-!
# Enumerations of a set

Three more ways to list a set of slots beside its cursor: as an ordered set, as the answers to one
question per slot of the slot space, and as contiguous runs.
-/

namespace ClusterTopology

/-- The runs with a slot added that lies below all of them. It becomes the start of the first run if
it touches that run. -/
def Interval.extendRuns (slot : Slot) : List Interval → List Interval
  | [] => [singleton slot]
  | run :: runs =>
    if slot + 1 = run.lower then ⟨slot, run.upper⟩ :: runs else singleton slot :: run :: runs

namespace SlotSet

/-- The slots as an ordered set. -/
def toTreeSet (s : SlotSet) : Std.TreeSet Slot :=
  if s.isEmpty then ∅ else Std.TreeSet.ofList s.toList

/-- The slots in ascending order, found by asking for every slot of the slot space. -/
def toArray (s : SlotSet) : Array Slot :=
  ((Array.range Slot.count).map Nat.toUInt16).filter s.contains

/-- The contiguous runs of slots, in ascending order. -/
def runs (s : SlotSet) : List Interval := s.toList.foldr Interval.extendRuns []

end SlotSet

end ClusterTopology
