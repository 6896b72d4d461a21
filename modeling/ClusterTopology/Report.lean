import ClusterTopology.ClusterNode.Draft
import ClusterTopology.Status.Parser

/-!
# Reports

A `Report` is what a cluster tells about one node, as texts that may be missing. It describes a
cluster node, or it is refused: for its flags, its slots or its link state, whichever comes first,
and then for what the finished draft lacks.
-/

namespace ClusterTopology

/-- The texts about one node. -/
structure Report where
  address : Option (String × UInt16) := none
  id : Option String := none
  flags : Option String := none
  slots : Option String := none
  link : Option String := none
  master : Option String := none
deriving DecidableEq, Repr

namespace Report

/-- A node whose flags do not make it a master is a replica. -/
def role (flags : FlagSet) : Role := if .master ∈ flags then .master else .replica

/-- The settings that the texts stand for, once the flags, the slots and the link state are read. -/
def settingsOf (report : Report) (flags : Option FlagSet) (slots : Option SlotSet)
    (link : Option LinkState) : List ClusterNode.Setting :=
  report.address.toList.map (fun a => .base (.listeningAt a.1 a.2))
    ++ report.id.toList.map (.base ∘ .identifiedBy)
    ++ flags.toList.flatMap (fun flags => [.base (.promotedAs (role flags)), .flagged flags])
    ++ slots.toList.map .serving
    ++ link.toList.map .linked
    ++ report.master.toList.map (.base ∘ .replicaOf)

/-- Reads the texts, and gives the settings that they stand for. -/
def settings (report : Report) : Logged (List ClusterNode.Setting) := do
  let flags ← report.flags.mapM FlagSet.parse
  let slots ← report.slots.mapM fun text => MonadExcept.ofExcept (SlotSet.parse text)
  let link ← report.link.mapM LinkState.parse
  return report.settingsOf flags slots link

/-- The node that the report describes. -/
def node (report : Report) : Logged ClusterNode := do
  (ClusterNode.Draft.ofSettings (← report.settings)).build

end Report

end ClusterTopology
