import ClusterTopology.Node.Draft
import ClusterTopology.OwnsSlots
import ClusterTopology.Status.Flag
import ClusterTopology.Status.LinkState

/-!
# Cluster nodes

A `ClusterNode` is a node as a cluster reports it at one moment: with the slots that it serves and
its status. Two cluster nodes are equal, and have the same hash, if their nodes are, so a node stays
the same when its slots or its status change.
-/

namespace ClusterTopology

/-- A node with its slots and its status. -/
structure ClusterNode where
  node : Node
  slots : SlotSet := ∅
  /-- The link state, if it is known. -/
  link : Option LinkState := none
  flags : FlagSet := ∅

namespace ClusterNode

instance : OwnsSlots ClusterNode := ⟨slots⟩

/-! ## Construction -/

/-- A node that is known only by its address, with slots to serve. -/
def serving (host : String) (port : UInt16) (slots : SlotSet) : Except Refusal ClusterNode :=
  return { node := ← Node.listeningAt host port, slots }

/-- A node that is known only by its address, and that serves no slots. -/
def listeningAt (host : String) (port : UInt16) : Except Refusal ClusterNode :=
  serving host port ∅

/-- A node that is known only by its id, and that serves no slots. -/
def identifiedBy (id : String) : Except Refusal ClusterNode :=
  return { node := ← (Node.Draft.ofSettings [.identifiedBy id]).build }

/-- A node without address and id, with slots to serve. -/
def anonymous (slots : SlotSet) : ClusterNode := { node := {}, slots }

/-! ## Status -/

/-- Does the node serve the slot? -/
def serves (n : ClusterNode) (slot : Slot) : Bool := n.slots.contains slot

/-- Is the node connected, as far as is known? -/
def isConnected (n : ClusterNode) : Bool := n.link == some .connected

/-- Is the node marked as failed, by a confirmed or a suspected failure? -/
def isFailing (n : ClusterNode) : Bool := n.flags.toList.any Flag.isFailure

/-- Does the report come from the node itself? -/
def isReporter (n : ClusterNode) : Bool := n.flags.has .myself

/-! ## Identity -/

instance : BEq ClusterNode where
  beq a b := a.node == b.node

instance : Hashable ClusterNode where
  hash n := hash n.node

theorem beq_iff {a b : ClusterNode} : a == b ↔ a.node.identity = b.node.identity :=
  Node.beq_iff

instance : EquivBEq ClusterNode where
  rfl := beq_iff.2 rfl
  symm h := beq_iff.2 (beq_iff.1 h).symm
  trans h₁ h₂ := beq_iff.2 ((beq_iff.1 h₁).trans (beq_iff.1 h₂))

instance : LawfulHashable ClusterNode where
  hash_eq a b h := LawfulHashable.hash_eq a.node b.node h

/-! ## Text -/

/-- The text of the node itself. -/
def text (n : ClusterNode) : String := n.node.text

instance : ToString ClusterNode := ⟨text⟩

/-- All that is known about the node, field by field. -/
def layout (n : ClusterNode) : Layout :=
  .record "ClusterNode"
    [("node", n.node.layout),
      ("slot_range", n.slots.layout),
      ("link_state", .option LinkState.layout n.link),
      ("flags", n.flags.layout)]

end ClusterNode

end ClusterTopology
