import ClusterTopology.Proofs.History
import ClusterTopology.Proofs.SlotText.Parse
import ClusterTopology.Proofs.Tag

/-!
# Where keys are routed

What routing asks of a node is what the last report on it says: that the link is connected, that no
flag is a failure, and that its slots include the slot of the key (`Report.TakesSlot`). So routing
finds the first node whose last report says so (`Table.route_follows_last_reports`).
-/

namespace ClusterTopology

/-! ## What a report says about its node -/

namespace Report

/-- The report says that its node can take keys of the slot. -/
structure TakesSlot (report : Report) (slot : Slot) : Prop where
  link : report.link = some "connected"
  flags : ∀ text, report.flags = some text → ¬HasToken text "fail" ∧ ¬HasToken text "fail?"
  slots : ∃ text, report.slots = some text ∧ SlotText.Denotes text slot.toNat

section

variable {report : Report} {n : ClusterNode} (h : report.Describes n)

include h

theorem Describes.isConnected_iff : n.isConnected = true ↔ report.link = some "connected" := by
  have hlink := h.link
  unfold ClusterNode.isConnected
  rw [beq_iff_eq]
  cases hr : report.link with
  | none =>
    rw [hr] at hlink
    rw [← Except.ok.inj hlink]
    exact iff_of_false nofun nofun
  | some text =>
    rw [hr] at hlink
    obtain ⟨link, hparse, hsome⟩ := bind_eq_ok_iff.mp hlink
    rw [← Except.ok.inj hsome, ← LinkState.outcome_parse_eq_ok_iff.mp hparse]
    cases link <;> decide

theorem Describes.mem_flags_iff (flag : Flag) :
    flag ∈ n.flags ↔ ∃ text, report.flags = some text ∧ HasToken text flag.token := by
  have hflags := h.flags
  cases hr : report.flags with
  | none =>
    rw [hr] at hflags
    rw [← Except.ok.inj hflags]
    exact iff_of_false nofun nofun
  | some text =>
    rw [hr] at hflags
    simp only [Option.some.injEq, exists_eq_left']
    exact FlagSet.mem_of_parse hflags flag

theorem Describes.serves_iff (slot : Slot) : n.serves slot = true ↔
    ∃ text, report.slots = some text ∧ SlotText.Denotes text slot.toNat := by
  have hslots := h.slots
  show slot ∈ n.slots ↔ _
  cases hr : report.slots with
  | none =>
    rw [hr] at hslots
    rw [← Except.ok.inj hslots]
    exact iff_of_false (SlotSet.not_mem_empty slot) nofun
  | some text =>
    rw [hr] at hslots
    simp only [Option.some.injEq, exists_eq_left']
    exact SlotSet.mem_iff_denotes hslots slot

/-- Routing asks a node for what its report says. -/
theorem Describes.takesSlot_iff (slot : Slot) :
    (n.isConnected && !n.isFailing && n.serves slot) = true ↔ report.TakesSlot slot := by
  have hfail : n.isFailing = false ↔
      ∀ text, report.flags = some text → ¬HasToken text "fail" ∧ ¬HasToken text "fail?" := by
    rw [← Bool.not_eq_true, ClusterNode.isFailing_iff, h.mem_flags_iff, h.mem_flags_iff, not_or]
    simp only [not_exists, not_and]
    exact forall₂_and.symm
  rw [Bool.and_eq_true, Bool.and_eq_true, Bool.not_eq_true', h.isConnected_iff, hfail, h.serves_iff]
  constructor
  · rintro ⟨⟨hlink, hflags⟩, hslots⟩
    exact ⟨hlink, hflags, hslots⟩
  · rintro ⟨hlink, hflags, hslots⟩
    exact ⟨⟨hlink, hflags⟩, hslots⟩

end

end Report

namespace Table

/-! ## Refused reports -/

/-- Refused reports might as well not have come. -/
theorem ofReports_filter (reports : List Report) :
    ofReports (reports.filter (·.faults = [])) = ofReports reports := by
  induction reports using List.reverseRecOn with
  | nil => rfl
  | append_singleton reports report ih =>
    rw [List.filter_append, ofReports_concat]
    by_cases h : report.faults = []
    · have hkept : [report].filter (·.faults = []) = [report] := by simpa using h
      rw [hkept, ofReports_concat, ih]
    · have hgone : [report].filter (·.faults = []) = [] := by simpa using h
      rw [hgone, List.append_nil, ih, after_of_faults _ h]

/-! ## Routes -/

/-- The last report on the node describes it as one that can take keys of the slot. -/
def Takes (reports : List Report) (n : ClusterNode) (slot : Slot) : Prop :=
  ∃ report, latest reports n.node.identity = some report ∧ report.Describes n ∧
    report.TakesSlot slot

theorem takes_iff {reports : List Report} {n : ClusterNode} (hn : n ∈ (ofReports reports).nodes)
    (slot : Slot) :
    (n.isConnected && !n.isFailing && n.serves slot) = true ↔ Takes reports n slot := by
  obtain ⟨report, hlatest, hdescribes⟩ := (follows_ofReports reports).produced n hn
  rw [hdescribes.takesSlot_iff]
  constructor
  · exact fun h => ⟨report, hlatest, hdescribes, h⟩
  · rintro ⟨report', hlatest', -, h⟩
    rwa [Option.some.inj (hlatest.symm.trans hlatest')]

/-- The first element is found among those of which the test and the property say the same. -/
theorem find?_eq_some_iff_of_forall {α : Type} {p : α → Bool} {P : α → Prop} {xs : List α} {a : α}
    (h : ∀ x ∈ xs, p x = true ↔ P x) : xs.find? p = some a ↔
      ∃ before after, xs = before ++ a :: after ∧ P a ∧ ∀ b ∈ before, ¬P b := by
  rw [List.find?_eq_some_iff_append]
  simp only [← exists_and_left]
  refine exists₂_congr fun before after => ?_
  rw [and_left_comm]
  refine and_congr_right fun hxs => ?_
  subst hxs
  refine and_congr (h a (List.mem_append_right before List.mem_cons_self))
    (forall₂_congr fun b hb => ?_)
  rw [Bool.not_eq_true', ← Bool.not_eq_true, h b (List.mem_append_left _ hb)]

theorem target_eq_some_iff {reports : List Report} {slot : Slot} {n : ClusterNode} :
    (ofReports reports).target slot = some n ↔ ∃ before after,
      (ofReports reports).nodes = before ++ n :: after ∧ Takes reports n slot ∧
        ∀ m ∈ before, ¬Takes reports m slot :=
  find?_eq_some_iff_of_forall fun _ hn => takes_iff hn slot

theorem target_eq_none_iff {reports : List Report} {slot : Slot} :
    (ofReports reports).target slot = none ↔
      ∀ n ∈ (ofReports reports).nodes, ¬Takes reports n slot := by
  unfold target
  rw [List.find?_eq_none]
  exact forall₂_congr fun n hn => not_congr (takes_iff hn slot)

/-- Every report without faults is on a node of the table. -/
theorem exists_node_of_report {reports : List Report} {report : Report} (hmem : report ∈ reports)
    (h : report.faults = []) : ∃ n ∈ (ofReports reports).nodes, n.node.identity =
      (report.id, report.address.map Prod.fst, report.address.map Prod.snd) :=
  List.mem_map.mp ((follows_ofReports reports).mem_identities_iff.mpr
    ⟨report, hmem, Report.identity?_of_faults_eq_nil h⟩)

/-- A key is routed to the first node whose last report says that it can take the slot of the key,
and nowhere if there is none. The nodes are those that reports without faults are on. Reports that
were refused do not matter, nor does anything of a key besides its tag. -/
theorem route_follows_last_reports :
    (∀ reports key,
      (∀ report ∈ reports, report.faults = [] → ∃ n ∈ (ofReports reports).nodes,
        n.node.identity =
          (report.id, report.address.map Prod.fst, report.address.map Prod.snd)) ∧
      (∀ n ∈ (ofReports reports).nodes, ∃ report,
        latest reports n.node.identity = some report ∧ report.Describes n) ∧
      (∀ n, (ofReports reports).route key = some n ↔ ∃ before after,
        (ofReports reports).nodes = before ++ n :: after ∧ Takes reports n key.slot ∧
          ∀ m ∈ before, ¬Takes reports m key.slot) ∧
      ((ofReports reports).route key = none ↔
        ∀ n ∈ (ofReports reports).nodes, ¬Takes reports n key.slot)) ∧
    (∀ reports key, (ofReports (reports.filter (·.faults = []))).route key =
      (ofReports reports).route key) ∧
    ∀ reports (key key' tag : Key), key.HasTag tag → key'.HasTag tag →
      (ofReports reports).route key = (ofReports reports).route key' := by
  refine ⟨fun reports key => ⟨fun report hmem h => exists_node_of_report hmem h,
    (follows_ofReports reports).produced, fun n => target_eq_some_iff, target_eq_none_iff⟩,
    fun reports key => ?_, fun reports key key' tag h h' => ?_⟩
  · rw [ofReports_filter]
  · unfold route
    rw [Key.slot_eq_of_hasTag h h']

/-- A node that is reported gets into the table, and keys with one tag go to one node. -/
theorem route_follows_last_reports_of_common_tag :
    (∃ n ∈ (ofReports
        [{ id := some "a", slots := some "0-16383", link := some "connected" }]).nodes,
      n.node.identity = (some "a", none, none)) ∧
    (ofReports [{ id := some "a", slots := some "0-16383", link := some "connected" }]).route
        [123, 97, 125] =
      (ofReports [{ id := some "a", slots := some "0-16383", link := some "connected" }]).route
        [98, 123, 97, 125, 99] := by
  refine ⟨(route_follows_last_reports.1 _ []).1 _ (List.mem_singleton_self _) (by decide), ?_⟩
  exact route_follows_last_reports.2.2 _ _ _ [97]
    ⟨[], [], by decide, by decide, by decide, by decide⟩
    ⟨[98], [99], by decide, by decide, by decide, by decide⟩

end Table

end ClusterTopology
