import ClusterTopology.Proofs.Drafts
import ClusterTopology.Proofs.FlagText
import ClusterTopology.Proofs.SlotText.RoundTrip

/-!
# A cluster node made anew from its texts

A finished cluster node has its host and its port together, and nothing of it is empty
(`ClusterNode.Complete`). So it can be described by settings again, with its flags, its slots and
its link state read back from their texts (`ClusterNode.remade`), and the node that comes of it
shows the same in every respect (`ClusterNode.remade_agrees`).
-/

namespace ClusterTopology.ClusterNode

open Setting

/-! ## Finished nodes -/

/-- What finishing a draft makes sure of. -/
structure Complete (n : ClusterNode) : Prop where
  host_ne : n.node.host ≠ some ""
  id_ne : n.node.id ≠ some ""
  known : ¬(n.node.host = none ∧ n.node.id = none)
  /-- The host and the port are known together. -/
  paired : n.node.host.isSome = n.node.port.isSome

theorem paired_described (settings : List Setting) :
    (described settings).node.host.isSome = (described settings).node.port.isSome :=
  Node.paired_described _

theorem complete_of_build {settings : List Setting} {n : ClusterNode}
    (h : (Draft.ofSettings settings).build.outcome = .ok n) : n.Complete := by
  rw [Draft.outcome_build_ofSettings] at h
  split_ifs at h with hhost hid hknown
  cases h
  exact ⟨hhost, hid, hknown, paired_described settings⟩

/-! ## Settings from a node -/

/-- The host and the port, if the node has an address. -/
def endpoint? (n : ClusterNode) : Option (String × UInt16) := do
  return (← n.node.host, ← n.node.port)

/-- The settings that describe the node, with flags, slots and link state as they are given. -/
def settings (n : ClusterNode) (flags : FlagSet) (slots : SlotSet) (link : Option LinkState) :
    List Setting :=
  n.endpoint?.toList.map (fun a => .base (.listeningAt a.1 a.2))
    ++ n.node.id.toList.map (.base ∘ .identifiedBy)
    ++ n.node.name.toList.map (.base ∘ .named)
    ++ n.node.role.toList.map (.base ∘ .promotedAs)
    ++ n.node.masterId.toList.map (.base ∘ .replicaOf)
    ++ [.flagged flags]
    ++ [.serving slots]
    ++ link.toList.map .linked

theorem endpoint?_eq {n : ClusterNode} (h : n.node.host.isSome = n.node.port.isSome) :
    n.endpoint?.map Prod.fst = n.node.host ∧ n.endpoint?.map Prod.snd = n.node.port := by
  unfold endpoint?
  cases hhost : n.node.host with
  | none =>
    rw [hhost] at h
    exact ⟨rfl, (Option.not_isSome_iff_eq_none.mp (by rw [← h]; decide)).symm⟩
  | some host =>
    rw [hhost] at h
    obtain ⟨port, hport⟩ := Option.isSome_iff_exists.mp h.symm
    rw [hport]
    exact ⟨rfl, rfl⟩

/-- They describe the node itself, with the flags, the slots and the link state that are given. -/
theorem described_settings {n : ClusterNode} (h : n.node.host.isSome = n.node.port.isSome)
    (flags : FlagSet) (slots : SlotSet) (link : Option LinkState) :
    described (n.settings flags slots link) = { node := n.node, slots, link, flags } := by
  obtain ⟨hhost, hport⟩ := endpoint?_eq h
  rw [described_eq]
  simp [settings, Function.comp_def, lastGiven_cons, hhost, hport]

theorem Complete.outcome_build {n : ClusterNode} (h : n.Complete) (flags : FlagSet)
    (slots : SlotSet) (link : Option LinkState) :
    (Draft.ofSettings (n.settings flags slots link)).build.outcome =
      .ok { node := n.node, slots, link, flags } := by
  rw [Draft.outcome_build_ofSettings, described_settings h.paired]
  exact (if_neg h.host_ne).trans ((if_neg h.id_ne).trans (if_neg h.known))

/-! ## Texts from a node -/

/-- The node made anew: its flags are read from the given text, its slots and its link state from
their own texts, and then it is described by settings. -/
def remade (n : ClusterNode) (flagText : String) : Logged ClusterNode := do
  let flags ← FlagSet.parse flagText
  let slots ← (MonadExcept.ofExcept (SlotSet.parse n.slots.text) : Logged SlotSet)
  let link ← (n.link.map LinkState.token).mapM LinkState.parse
  (Draft.ofSettings (n.settings flags slots link)).build

theorem outcome_parse_link (link : Option LinkState) :
    ((link.map LinkState.token).mapM LinkState.parse).outcome = .ok link := by
  rw [Logged.outcome_optionMapM]
  cases link with
  | none => rfl
  | some link =>
    show some <$> (LinkState.parse link.token).outcome = _
    rw [LinkState.outcome_parse_eq_ok_iff.mpr rfl]
    rfl

theorem Complete.outcome_remade {n : ClusterNode} (h : n.Complete) {listed : List Flag}
    (hlisted : ∀ flag, flag ∈ listed ↔ flag ∈ n.flags) {flagText : String}
    (htext : FlagSet.Lists listed flagText) :
    (n.remade flagText).outcome = .ok { n with slots := SlotSet.ofIntervals n.slots.runs } := by
  have hflags := FlagSet.outcome_parse_of_lists htext
  rw [FlagSet.ofList_eq hlisted] at hflags
  have hbuild : ∀ flags slots, ((n.link.map LinkState.token).mapM LinkState.parse >>= fun link =>
      (Draft.ofSettings (n.settings flags slots link)).build).Appends := fun _ _ =>
    (Logged.appends_optionMapM LinkState.appends_parse _).bind fun _ => Draft.appends_build _
  have hslots : ∀ flags, ((MonadExcept.ofExcept (SlotSet.parse n.slots.text) : Logged SlotSet) >>=
      fun slots => (n.link.map LinkState.token).mapM LinkState.parse >>= fun link =>
        (Draft.ofSettings (n.settings flags slots link)).build).Appends := fun flags =>
    (Logged.appends_ofExcept _).bind (hbuild flags)
  unfold remade
  rw [Logged.outcome_bind_of_ok hflags hslots,
    Logged.outcome_bind_of_ok ((Logged.outcome_ofExcept _).trans n.slots.parse_text) (hbuild _),
    Logged.outcome_bind_of_ok (outcome_parse_link n.link) fun _ => Draft.appends_build _,
    h.outcome_build]

/-- All that can be seen of the one node is seen of the other. -/
structure ShowsAs (m n : ClusterNode) : Prop where
  host : m.node.host = n.node.host
  port : m.node.port = n.node.port
  id : m.node.id = n.node.id
  name : m.node.name = n.node.name
  role : m.node.role = n.node.role
  masterId : m.node.masterId = n.node.masterId
  flags : m.flags = n.flags
  link : m.link = n.link
  serves : ∀ slot, m.serves slot = n.serves slot
  text : m.text = n.text
  isConnected : m.isConnected = n.isConnected
  isFailing : m.isFailing = n.isFailing
  isReporter : m.isReporter = n.isReporter

/-- Only the words behind its slots may differ. -/
theorem showsAs_of_slots {n : ClusterNode} {slots : SlotSet}
    (h : ∀ slot, slot ∈ slots ↔ slot ∈ n.slots) : ShowsAs { n with slots } n where
  host := rfl
  port := rfl
  id := rfl
  name := rfl
  role := rfl
  masterId := rfl
  flags := rfl
  link := rfl
  serves slot := Bool.eq_iff_iff.mpr (h slot)
  text := rfl
  isConnected := rfl
  isFailing := rfl
  isReporter := rfl

/-- A finished node can be made anew from its own texts. With its flags listed in any order, with
repetitions and with white space around the tokens, every step succeeds, and the node that comes of
it is equal to the first, has the same hash, and shows the same. -/
theorem remade_agrees (settings : List Setting) (n : ClusterNode)
    (hn : (Draft.ofSettings settings).build.outcome = .ok n) (listed : List Flag)
    (hlisted : ∀ flag, flag ∈ listed ↔ flag ∈ n.flags) (flagText : String)
    (htext : FlagSet.Lists listed flagText) :
    ∃ m, (n.remade flagText).outcome = .ok m ∧ (m == n) = true ∧ hash m = hash n ∧
      m.ShowsAs n := by
  have heq : ({ n with slots := SlotSet.ofIntervals n.slots.runs } == n) = true := beq_iff.mpr rfl
  exact ⟨_, (complete_of_build hn).outcome_remade hlisted htext, heq,
    LawfulHashable.hash_eq _ _ heq, showsAs_of_slots fun _ => SlotSet.mem_ofIntervals_runs⟩

/-- A failed master, whose flags are listed in the other order, with a repetition and spaces. -/
theorem remade_agrees_of_spaced :
    ∃ n m, (Draft.ofSettings [.base (.listeningAt "::1" 6379), .flagged (.ofList [.master, .fail]),
        .serving ⟨#[0x8000000000000001], by decide⟩, .linked .connected]).build.outcome = .ok n ∧
      (n.remade "fail , master,fail").outcome = .ok m ∧ (m == n) = true ∧ m.ShowsAs n := by
  have hspace : ∀ c ∈ [' '], Text.WhiteSpace c := by
    rw [List.forall_mem_singleton]
    exact Text.isBlank_iff.mp (by decide)
  have hnone : ∀ c ∈ ([] : List Char), Text.WhiteSpace c := List.forall_mem_nil _
  have hlists : FlagSet.Lists [.fail, .master, .fail] "fail , master,fail" :=
    .cons ⟨[], [' '], rfl, hnone, hspace⟩ <| .cons ⟨[' '], [], rfl, hspace, hnone⟩ <|
      .last ⟨[], [], rfl, hnone, hnone⟩
  have hn : (Draft.ofSettings [.base (.listeningAt "::1" 6379), .flagged (.ofList [.master, .fail]),
        .serving ⟨#[0x8000000000000001], by decide⟩, .linked .connected]).build.outcome =
      .ok { node := { host := some "::1", port := some 6379 }
            slots := ⟨#[0x8000000000000001], by decide⟩
            link := some .connected
            flags := .ofList [.master, .fail] } := rfl
  have hlisted : ∀ flag, flag ∈ [Flag.fail, .master, .fail] ↔
      flag ∈ FlagSet.ofList [.master, .fail] := by
    intro flag
    cases flag <;> decide
  obtain ⟨m, hm, heq, -, hshows⟩ := remade_agrees _ _ hn _ hlisted _ hlists
  exact ⟨_, m, hn, hm, heq, hshows⟩

end ClusterTopology.ClusterNode
