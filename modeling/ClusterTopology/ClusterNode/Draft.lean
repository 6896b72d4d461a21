import ClusterTopology.ClusterNode.Basic
import ClusterTopology.Event

/-!
# Drafts of cluster nodes

As for nodes, settings come in one at a time and a later one of a kind replaces the earlier one.
What is never set stays empty or unknown. Finishing a draft leaves exactly one event.
-/

namespace ClusterTopology.ClusterNode

inductive Setting where
  /-- A setting of the node itself. -/
  | base (setting : Node.Setting)
  | flagged (flags : FlagSet)
  | serving (slots : SlotSet)
  | linked (link : LinkState)

/-- A cluster node that has not been checked yet. -/
structure Draft where
  base : Node.Draft := {}
  flags : FlagSet := ∅
  slots : SlotSet := ∅
  link : Option LinkState := none

namespace Draft

/-- The draft with one more setting. -/
def set (draft : Draft) : Setting → Draft
  | .base setting => { draft with base := draft.base.set setting }
  | .flagged flags => { draft with flags }
  | .serving slots => { draft with slots }
  | .linked link => { draft with link }

/-- The draft after a sequence of settings. -/
def ofSettings (settings : List Setting) : Draft := settings.foldl set {}

/-- The finished cluster node. Its node is checked first, and then it needs a host or an id. -/
def build (draft : Draft) : Logged ClusterNode :=
  match draft.base.build with
  | .error reason => Logged.reject (.nodeRejected reason) reason
  | .ok node =>
    if node.host.isNone && node.id.isNone then Logged.reject .nodeUnaddressable .unaddressable
    else do
      let n : ClusterNode :=
        { node, slots := draft.slots, link := draft.link, flags := draft.flags }
      Logged.log (.nodeBuilt n.text n.slots.size n.flags n.link)
      return n

end Draft

end ClusterTopology.ClusterNode
