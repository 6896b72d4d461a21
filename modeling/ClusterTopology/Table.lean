import ClusterTopology.Key
import ClusterTopology.Report

/-!
# The table of a cluster

A `Table` lists the nodes of a cluster in the order in which they were first reported. A report on a
node of the table replaces that node as a whole, and a report that is refused changes nothing. Keys
are routed to the first node that can take them.
-/

namespace ClusterTopology

/-- The nodes of a cluster, in order. -/
structure Table where
  nodes : List ClusterNode := []

namespace Table

/-! ## Reports -/

/-- What a report has changed. -/
structure Update where
  /-- The node that was reported. -/
  node : ClusterNode
  /-- The place of the equal node that it replaced, unless it is new to the table. -/
  replaced : Option Nat
  /-- The table afterwards. -/
  table : Table

/-- Puts the node in the place of the first equal node, or at the end. -/
def put (t : Table) (node : ClusterNode) : Update :=
  match t.nodes.findIdx? (· == node) with
  | some i => { node, replaced := some i, table := ⟨t.nodes.set i node⟩ }
  | none => { node, replaced := none, table := ⟨t.nodes ++ [node]⟩ }

/-- Takes in one report. -/
def refresh (t : Table) (report : Report) : Logged Update := return t.put (← report.node)

/-- The table after one report, whether it is refused or not. -/
def after (t : Table) (report : Report) : Table :=
  match (t.refresh report).outcome with
  | .ok update => update.table
  | .error _ => t

/-- The table after a history of reports. -/
def ofReports (reports : List Report) : Table := reports.foldl after {}

/-! ## Routing -/

/-- The nodes that serve the slot. -/
def owners (t : Table) (slot : Slot) : List ClusterNode := t.nodes.filter (·.serves slot)

/-- The first node that is connected, not marked as failed, and serves the slot. -/
def target (t : Table) (slot : Slot) : Option ClusterNode :=
  t.nodes.find? fun n => n.isConnected && !n.isFailing && n.serves slot

/-- The node that a key is routed to. -/
def route (t : Table) (key : Key) : Option ClusterNode := t.target key.slot

/-! ## Summary -/

def masters (t : Table) : List ClusterNode := t.nodes.filter (·.node.isMaster)

def replicas (t : Table) : List ClusterNode := t.nodes.filter (·.node.isReplica)

def failing (t : Table) : List ClusterNode := t.nodes.filter (·.isFailing)

/-- The nodes that are not known to be connected. -/
def disconnected (t : Table) : List ClusterNode := t.nodes.filter (!·.isConnected)

/-- The nodes that reports come from. -/
def reporters (t : Table) : List ClusterNode := t.nodes.filter (·.isReporter)

/-- The number of slots that the masters serve, each counted once per master. -/
def masterSlots (t : Table) : Nat := t.masters.foldl (fun n m => n + m.slots.size) 0

end Table

end ClusterTopology
