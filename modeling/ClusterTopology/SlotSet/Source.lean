import ClusterTopology.SlotSet.Text

/-!
# Sources of a set

All the ways to make a set of slots, side by side: from bounds, from a list, from the words of a
bitmap, or from a text.
-/

namespace ClusterTopology

/-- What a set of slots is made from. -/
inductive Source where
  | nothing
  | bounds (lower upper : Slot)
  | interval (interval : Interval)
  | list (slots : List Slot)
  | bitmap (words : Array UInt64)
  | text (cs : String)

namespace Source

/-- The set that is made from the source. -/
def build : Source → Except Refusal SlotSet
  | nothing => .ok SlotSet.empty
  | bounds lower upper => SlotSet.ofBounds lower upper
  | interval i => SlotSet.ofInterval i
  | list slots => SlotSet.ofList slots
  | bitmap words => SlotSet.ofWords words
  | text cs => SlotSet.parse cs

end Source

end ClusterTopology
