import ClusterTopology.ClusterNode.Basic
import Std.Data.HashMap

/-!
# Maps keyed by cluster nodes

A `NodeMap` has at most one entry per identity. Its entry holds a whole cluster node: the one it was
created with, even if the value is changed later under an equal node.
-/

namespace ClusterTopology

/-- Values stored under cluster nodes. -/
structure NodeMap (α : Type) where
  entries : Std.HashMap ClusterNode α := ∅

namespace NodeMap

variable {α : Type}

/-- The number of entries. -/
def size (m : NodeMap α) : Nat := m.entries.size

/-- The stored node that equals `n`, with its value. -/
def get? (m : NodeMap α) (n : ClusterNode) : Option (ClusterNode × α) := do
  return (← m.entries.getKey? n, ← m.entries[n]?)

/-- Stores a value and gives the former one. A node stored before stays as it is. -/
def put (m : NodeMap α) (n : ClusterNode) (value : α) : Option α × NodeMap α :=
  (m.entries[n]?, ⟨m.entries.insert ((m.entries.getKey? n).getD n) value⟩)

/-- Stores a value under the new node and gives the former value. -/
def replace (m : NodeMap α) (n : ClusterNode) (value : α) : Option α × NodeMap α :=
  (m.entries[n]?, ⟨(m.entries.erase n).insert n value⟩)

/-- Drops the entry of the node and gives its value. -/
def remove (m : NodeMap α) (n : ClusterNode) : Option α × NodeMap α :=
  (m.entries[n]?, ⟨m.entries.erase n⟩)

end NodeMap

end ClusterTopology
