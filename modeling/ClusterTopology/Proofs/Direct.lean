import ClusterTopology.Proofs.Address
import ClusterTopology.Proofs.Identity
import ClusterTopology.Proofs.RoundTrip

/-!
# Cluster nodes without a draft

A node that is known by its address or by its id alone can be had at once. It is the same, field by
field, as what a draft with just these settings comes to, and it is refused for the same reason.
Only a node without address and id is out of the reach of drafts, so it equals no node that was ever
finished (`ClusterNode.direct_nodes_match_drafts`).
-/

namespace ClusterTopology

theorem Node.listeningAt_eq (host : String) (port : UInt16) : Node.listeningAt host port =
    if host = "" then .error .emptyHost else .ok { host := some host, port := some port } := by
  split_ifs with h
  · rw [h]
    rfl
  · exact listeningAt_eq_ok h port

namespace ClusterNode

/-! ## Nodes with an address -/

theorem serving_eq_map (host : String) (port : UInt16) (slots : SlotSet) :
    serving host port slots = (Node.listeningAt host port).map fun node => { node, slots } := by
  unfold serving
  cases Node.listeningAt host port <;> rfl

theorem map_node_serving (host : String) (port : UInt16) (slots : SlotSet) :
    (serving host port slots).map node = Node.listeningAt host port := by
  rw [serving_eq_map]
  cases Node.listeningAt host port <;> rfl

theorem serving_eq_build (host : String) (port : UInt16) (slots : SlotSet) :
    serving host port slots =
      (Draft.ofSettings [.base (.listeningAt host port), .serving slots]).build.outcome := by
  rw [serving_eq_map, Draft.outcome_build_of_known rfl]
  rfl

/-- A draft serves no slots unless it is told to. -/
theorem listeningAt_eq_build (host : String) (port : UInt16) :
    listeningAt host port = (Draft.ofSettings [.base (.listeningAt host port)]).build.outcome :=
  serving_eq_build host port ∅

/-! ## Nodes with an id -/

theorem identifiedBy_eq_map (id : String) : identifiedBy id =
    (Node.Draft.ofSettings [.identifiedBy id]).build.map fun node => { node } := by
  unfold identifiedBy
  cases (Node.Draft.ofSettings [.identifiedBy id]).build <;> rfl

theorem identifiedBy_eq_build (id : String) :
    identifiedBy id = (Draft.ofSettings [.base (.identifiedBy id)]).build.outcome := by
  rw [identifiedBy_eq_map, Draft.outcome_build_of_known rfl]
  rfl

theorem identifiedBy_eq (id : String) : identifiedBy id =
    if id = "" then .error .emptyId else .ok { node := { id := some id } } := by
  split_ifs with h
  · rw [h]
    rfl
  · have hbuild : (Node.Draft.ofSettings [.identifiedBy id]).build = .ok { id := some id } :=
      Node.Draft.build_eq_ok_iff.mpr ⟨rfl, nofun, fun heq => h (Option.some.inj heq)⟩
    rw [identifiedBy_eq_map, hbuild]
    rfl

/-! ## Nodes without either -/

theorem anonymous_beq_anonymous (slots slots' : SlotSet) :
    (anonymous slots == anonymous slots') = true :=
  beq_iff.mpr rfl

/-- A finished node has a host or an id. -/
theorem anonymous_beq_of_build {settings : List Setting} {n : ClusterNode}
    (h : (Draft.ofSettings settings).build.outcome = .ok n) (slots : SlotSet) :
    (anonymous slots == n) = false := by
  refine Bool.eq_false_iff.mpr fun heq => (complete_of_build h).known ?_
  obtain ⟨hid, hhost, -⟩ := beq_iff_fields.mp heq
  exact ⟨hhost.symm, hid.symm⟩

/-- Nodes that are made at once are those of drafts, with every field and down to the words of their
slots, or they are refused for the same reason. A node that is not of a cluster has the same
address, or the same refusal, again. Slots alone make a node only at once: a draft with slots alone
is refused, and no draft ever comes to an equal node, while all nodes that are made of slots alone
are equal. -/
theorem direct_nodes_match_drafts :
    (∀ host port, Node.listeningAt host port =
      if host = "" then .error .emptyHost else .ok { host := some host, port := some port }) ∧
    (∀ host port slots,
      serving host port slots =
        (Draft.ofSettings [.base (.listeningAt host port), .serving slots]).build.outcome ∧
      (serving host port slots).map node = Node.listeningAt host port) ∧
    (∀ host port,
      listeningAt host port =
        (Draft.ofSettings [.base (.listeningAt host port)]).build.outcome ∧
      (listeningAt host port).map node = Node.listeningAt host port) ∧
    (∀ id,
      identifiedBy id = (Draft.ofSettings [.base (.identifiedBy id)]).build.outcome ∧
      identifiedBy id =
        if id = "" then .error .emptyId else .ok { node := { id := some id } }) ∧
    (∀ slots,
      (anonymous slots).node.identity = (none, none, none) ∧ (anonymous slots).slots = slots ∧
      (Draft.ofSettings [.serving slots]).build.outcome = .error .unaddressable) ∧
    (∀ slots settings n, (Draft.ofSettings settings).build.outcome = .ok n →
      (anonymous slots == n) = false) ∧
    ∀ slots slots', (anonymous slots == anonymous slots') = true := by
  refine ⟨Node.listeningAt_eq, fun host port slots => ?_, fun host port => ?_, fun id => ?_,
    fun slots => ⟨rfl, rfl, rfl⟩, fun slots settings n h => anonymous_beq_of_build h slots,
    anonymous_beq_anonymous⟩
  · exact ⟨serving_eq_build host port slots, map_node_serving host port slots⟩
  · exact ⟨listeningAt_eq_build host port, map_node_serving host port ∅⟩
  · exact ⟨identifiedBy_eq_build id, identifiedBy_eq id⟩

/-- The slots are the same, but one node was found by its id after an empty one was put right. -/
theorem direct_nodes_match_drafts_of_corrected :
    ∃ n, (Draft.ofSettings [.base (.identifiedBy ""), .serving ⟨#[3], by decide⟩,
        .base (.identifiedBy "a")]).build.outcome = .ok n ∧
      (anonymous ⟨#[3], by decide⟩ == n) = false := by
  have hbuild : (Draft.ofSettings [.base (.identifiedBy ""), .serving ⟨#[3], by decide⟩,
        .base (.identifiedBy "a")]).build.outcome =
      .ok { node := { id := some "a" }, slots := ⟨#[3], by decide⟩ } := rfl
  exact ⟨_, hbuild, direct_nodes_match_drafts.2.2.2.2.2.1 _ _ _ hbuild⟩

end ClusterNode

end ClusterTopology
