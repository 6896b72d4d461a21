import ClusterTopology.Proofs.Direct
import Mathlib.Tactic.TFAE

/-!
# What every node satisfies

The type of nodes allows for any fields without the others. The nodes that can be obtained have a
host and a port together, and neither an empty host nor an empty id (`Node.WellFormed`). So a node
shows as its address, or else as its id, or else as unknown. It never shows as a host alone, and a
node that a draft of a cluster node comes to never shows as unknown
(`obtained_nodes_are_well_formed`).
-/

namespace ClusterTopology

namespace Node

/-- The fields of the node go together, and no text among those that identify it is empty. -/
structure WellFormed (n : Node) : Prop where
  host_ne : n.host ≠ some ""
  id_ne : n.id ≠ some ""
  /-- The host and the port are known together. -/
  paired : n.host.isSome = n.port.isSome

/-! ## How a node shows -/

theorem isSome_address (n : Node) : n.address.isSome = (n.host.isSome && n.port.isSome) := by
  unfold address
  cases n.host <;> cases n.port <;> rfl

/-- There is a colon in every address. -/
theorem address_ne_empty (n : Node) : n.address ≠ some "" := by
  intro h
  obtain ⟨host, port, -, -, htext⟩ := address_eq_some_iff.mp h
  have hchars : addressChars host.toList port = [] := by
    rw [← String.toList_ofList (l := addressChars host.toList port), ← htext]
    rfl
  exact List.append_ne_nil_of_right_ne_nil _ (List.cons_ne_nil _ _) hchars

namespace WellFormed

variable {n : Node} (h : n.WellFormed)

include h

theorem isSome_address : n.address.isSome = n.host.isSome := by
  rw [Node.isSome_address, ← h.paired, Bool.and_self]

theorem hasHost_eq : n.hasHost = n.host.isSome := by
  have hne := h.host_ne
  unfold hasHost
  cases hhost : n.host with
  | none => rfl
  | some host =>
    rw [hhost] at hne
    simpa using hne

/-- A host, a port, an address and a host that can be reached are the same thing to ask for. -/
theorem address_tfae :
    [n.host.isSome = true, n.port.isSome = true, n.address.isSome = true,
      n.hasHost = true].TFAE := by
  tfae_have 1 ↔ 2 := by rw [h.paired]
  tfae_have 3 ↔ 1 := by rw [h.isSome_address]
  tfae_have 4 ↔ 1 := by rw [h.hasHost_eq]
  tfae_finish

theorem host_eq_none (haddress : n.address = none) : n.host = none := by
  have hsome := h.isSome_address
  rw [haddress] at hsome
  exact Option.not_isSome_iff_eq_none.mp (by rw [← hsome]; decide)

theorem text_eq : n.text = (n.address.or n.id).getD "<unknown>" := by
  unfold text
  cases haddress : n.address with
  | some address => rfl
  | none =>
    rw [h.host_eq_none haddress]
    cases n.id <;> rfl

theorem text_ne_empty : n.text ≠ "" := by
  rw [h.text_eq]
  cases haddress : n.address with
  | some address => exact fun heq => n.address_ne_empty (haddress.trans (congrArg some heq))
  | none =>
    cases hid : n.id with
    | some id => exact fun heq => h.id_ne (hid.trans (congrArg some heq))
    | none => decide

end WellFormed

/-! ## Where nodes come from -/

theorem wellFormed_unknown : WellFormed {} where
  host_ne := nofun
  id_ne := nofun
  paired := rfl

theorem wellFormed_of_build {settings : List Setting} {n : Node}
    (h : (Draft.ofSettings settings).build = .ok n) : n.WellFormed := by
  obtain ⟨rfl, hhost, hid⟩ := Draft.build_eq_ok_iff.mp h
  refine ⟨hhost, hid, ?_⟩
  rw [Draft.ofSettings_eq]
  exact paired_described settings

end Node

namespace ClusterNode

theorem Complete.wellFormed {n : ClusterNode} (h : n.Complete) : n.node.WellFormed :=
  ⟨h.host_ne, h.id_ne, h.paired⟩

/-- A finished node always has an address or an id to show. -/
theorem Complete.address_or_id_eq {n : ClusterNode} (h : n.Complete) :
    n.node.address.or n.node.id = some n.text := by
  have htext : n.text = (n.node.address.or n.node.id).getD "<unknown>" := h.wellFormed.text_eq
  cases hshown : n.node.address.or n.node.id with
  | some text => rw [htext, hshown, Option.getD_some]
  | none =>
    obtain ⟨haddress, hid⟩ := Option.or_eq_none_iff.mp hshown
    exact absurd ⟨h.wellFormed.host_eq_none haddress, hid⟩ h.known

/-- The cluster nodes that can be obtained: at once, or from a draft. -/
inductive Obtained : ClusterNode → Prop
  | serving {host : String} {port : UInt16} {slots : SlotSet} {n : ClusterNode}
      (h : ClusterNode.serving host port slots = .ok n) : Obtained n
  | listeningAt {host : String} {port : UInt16} {n : ClusterNode}
      (h : ClusterNode.listeningAt host port = .ok n) : Obtained n
  | identifiedBy {id : String} {n : ClusterNode} (h : ClusterNode.identifiedBy id = .ok n) :
      Obtained n
  | anonymous (slots : SlotSet) : Obtained (ClusterNode.anonymous slots)
  | built {settings : List Setting} {n : ClusterNode}
      (h : (Draft.ofSettings settings).build.outcome = .ok n) : Obtained n

/-- All but nodes of slots alone are those of drafts. -/
theorem Obtained.wellFormed {n : ClusterNode} (h : n.Obtained) : n.node.WellFormed := by
  cases h with
  | serving h =>
    rw [serving_eq_build] at h
    exact (complete_of_build h).wellFormed
  | listeningAt h =>
    rw [listeningAt_eq_build] at h
    exact (complete_of_build h).wellFormed
  | identifiedBy h =>
    rw [identifiedBy_eq_build] at h
    exact (complete_of_build h).wellFormed
  | anonymous slots => exact Node.wellFormed_unknown
  | built h => exact (complete_of_build h).wellFormed

end ClusterNode

/-- The nodes that can be obtained: the unknown one, at once, from a draft, or in a cluster node. -/
inductive Node.Obtained : Node → Prop
  | unknown : Obtained {}
  | listeningAt {host : String} {port : UInt16} {n : Node}
      (h : Node.listeningAt host port = .ok n) : Obtained n
  | built {settings : List Node.Setting} {n : Node}
      (h : (Node.Draft.ofSettings settings).build = .ok n) : Obtained n
  | ofCluster {n : ClusterNode} (h : n.Obtained) : Obtained n.node

theorem Node.Obtained.wellFormed {n : Node} (h : n.Obtained) : n.WellFormed := by
  cases h with
  | unknown => exact wellFormed_unknown
  | listeningAt h => exact wellFormed_of_build h
  | built h => exact wellFormed_of_build h
  | ofCluster h => exact h.wellFormed

/-- Every node that can be obtained has its host and its port together, and with them an address and
a host to be reached at. No host and no id is empty. So it shows as its address, or else as its id,
or else as unknown, never as its host alone and never as nothing. A node that a draft of a cluster
node comes to shows as its address or its id. -/
theorem obtained_nodes_are_well_formed :
    (∀ n : Node, n.Obtained →
      [n.host.isSome = true, n.port.isSome = true, n.address.isSome = true,
        n.hasHost = true].TFAE ∧
      n.host ≠ some "" ∧ n.id ≠ some "" ∧
      n.text = (n.address.or n.id).getD "<unknown>" ∧ (n.address = none → n.host = none) ∧
      n.text ≠ "") ∧
    (∀ n : ClusterNode, n.Obtained → n.node.Obtained ∧
      n.text = (n.node.address.or n.node.id).getD "<unknown>" ∧ n.text ≠ "") ∧
    ∀ (settings : List ClusterNode.Setting) (n : ClusterNode),
      (ClusterNode.Draft.ofSettings settings).build.outcome = .ok n →
        n.node.address.or n.node.id = some n.text := by
  refine ⟨fun n hn => ?_, fun n hn => ?_, fun settings n hn => ?_⟩
  · have h := hn.wellFormed
    exact ⟨h.address_tfae, h.host_ne, h.id_ne, h.text_eq, h.host_eq_none, h.text_ne_empty⟩
  · have h := hn.wellFormed
    exact ⟨.ofCluster hn, h.text_eq, h.text_ne_empty⟩
  · exact (ClusterNode.complete_of_build hn).address_or_id_eq

/-- A node whose empty host was replaced, and a cluster node that is known by its id alone. -/
theorem obtained_nodes_are_well_formed_of_replaced :
    (∃ n : Node, (Node.Draft.ofSettings [.listeningAt "" 1, .identifiedBy "a",
        .listeningAt "::1" 6379]).build = .ok n ∧
      n.host.isSome = true ∧ n.hasHost = true ∧ n.text ≠ "") ∧
    ∃ n : ClusterNode, (ClusterNode.Draft.ofSettings [.serving ⟨#[3], by decide⟩,
        .base (.identifiedBy "<unknown>")]).build.outcome = .ok n ∧
      n.node.address.or n.node.id = some n.text := by
  have hbuild : (Node.Draft.ofSettings [.listeningAt "" 1, .identifiedBy "a",
        .listeningAt "::1" 6379]).build =
      .ok { host := some "::1", port := some 6379, id := some "a" } := rfl
  have hcluster : (ClusterNode.Draft.ofSettings [.serving ⟨#[3], by decide⟩,
        .base (.identifiedBy "<unknown>")]).build.outcome =
      .ok { node := { id := some "<unknown>" }, slots := ⟨#[3], by decide⟩ } := rfl
  obtain ⟨htfae, -, -, -, -, htext⟩ := obtained_nodes_are_well_formed.1 _ (.built hbuild)
  exact ⟨⟨_, hbuild, rfl, (htfae.out 0 3).mp rfl, htext⟩,
    ⟨_, hcluster, obtained_nodes_are_well_formed.2.2 _ _ hcluster⟩⟩

end ClusterTopology
