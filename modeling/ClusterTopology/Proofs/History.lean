import ClusterTopology.Proofs.Reports
import ClusterTopology.Table
import Mathlib.Data.List.Nodup

/-!
# A table after a history of reports

Putting a node into a table keeps the identities in their order, and adds the identity of the node
unless it is there (`Table.identities_put`). So a table lists every identity once, in the order of
the first reports, and each node is the one of the last report on it (`Table.Follows`).
-/

namespace ClusterTopology

namespace Report

/-- The identity that the report is on, unless the report is refused. -/
def identity? (report : Report) : Option Identity :=
  if report.faults = [] then
    some (report.id, report.address.map Prod.fst, report.address.map Prod.snd)
  else none

theorem Describes.identity_eq {report : Report} {n : ClusterNode} (h : report.Describes n) :
    n.node.identity = (report.id, report.address.map Prod.fst, report.address.map Prod.snd) := by
  rw [h.node]
  rfl

theorem identity?_of_faults_eq_nil {report : Report} (h : report.faults = []) : report.identity? =
    some (report.id, report.address.map Prod.fst, report.address.map Prod.snd) :=
  if_pos h

theorem identity?_of_ok {report : Report} {n : ClusterNode} (h : report.node.outcome = .ok n) :
    report.identity? = some n.node.identity := by
  obtain ⟨hfaults, hn⟩ := outcome_node_eq_ok_iff.mp h
  rw [hn.identity_eq]
  exact identity?_of_faults_eq_nil hfaults

theorem identity?_eq_none_iff {report : Report} :
    report.identity? = none ↔ report.faults ≠ [] := by
  unfold identity?
  split_ifs with h
  · exact iff_of_false nofun (not_not_intro h)
  · exact iff_of_true rfl h

/-- Either the report describes a node, or it has a fault. -/
theorem describes_or_faults (report : Report) :
    (∃ n, report.node.outcome = .ok n) ∨ report.faults ≠ [] := by
  by_cases h : report.faults = []
  · refine .inl (refusal?_eq_none_iff.mp ?_)
    rw [refusal?_node, h]
    rfl
  · exact .inr h

end Report

namespace Table

/-! ## One report -/

theorem outcome_refresh (t : Table) (report : Report) :
    (t.refresh report).outcome = report.node.outcome.map t.put :=
  (Logged.outcome_bind _ fun _ => Logged.appends_pure _).trans
    (by cases report.node.outcome <;> rfl)

theorem refresh_eq_error_iff {t : Table} {report : Report} {e : Refusal} :
    (t.refresh report).outcome = .error e ↔ report.faults.head? = some e := by
  rw [outcome_refresh, ← Report.outcome_node_eq_error_iff]
  cases report.node.outcome with
  | ok n => exact iff_of_false nofun nofun
  | error e' =>
    show Except.error e' = Except.error e ↔ _
    rw [Except.error.injEq, Except.error.injEq]

theorem refresh_eq_ok_iff {t : Table} {report : Report} {update : Update} :
    (t.refresh report).outcome = .ok update ↔
      report.faults = [] ∧ ∃ n, report.Describes n ∧ update = t.put n := by
  simp only [← exists_and_left, ← and_assoc, ← Report.outcome_node_eq_ok_iff]
  rw [outcome_refresh]
  cases report.node.outcome with
  | ok n =>
    show Except.ok (t.put n) = Except.ok update ↔ _
    simp only [Except.ok.injEq, exists_eq_left', eq_comm]
  | error e => exact iff_of_false nofun (by rintro ⟨n, ⟨⟩, -⟩)

theorem after_of_ok (t : Table) {report : Report} {n : ClusterNode}
    (h : report.node.outcome = .ok n) : t.after report = (t.put n).table := by
  unfold after
  rw [outcome_refresh, h]
  rfl

theorem after_of_faults (t : Table) {report : Report} (h : report.faults ≠ []) :
    t.after report = t := by
  obtain ⟨e, he⟩ := Option.ne_none_iff_exists'.mp (mt List.head?_eq_none_iff.mp h)
  unfold after
  rw [outcome_refresh, Report.outcome_node_eq_error_iff.mpr he]
  rfl

theorem ofReports_concat (reports : List Report) (report : Report) :
    ofReports (reports ++ [report]) = (ofReports reports).after report :=
  List.foldl_concat ..

/-! ## Putting a node -/

/-- The identities of the nodes, in order. -/
def identities (t : Table) : List Identity := t.nodes.map (·.node.identity)

/-- The identity at the end of the list, unless it is there already. -/
def withIdentity (is : List Identity) (i : Identity) : List Identity :=
  if i ∈ is then is else is ++ [i]

theorem nodup_withIdentity {is : List Identity} (h : is.Nodup) (i : Identity) :
    (withIdentity is i).Nodup := by
  unfold withIdentity
  split_ifs with hi
  · exact h
  · exact List.nodup_append.mpr ⟨h, List.nodup_singleton i, fun a ha b hb =>
      fun hab => hi (List.mem_singleton.mp hb ▸ hab ▸ ha)⟩

/-- A node takes the place of an equal one, or the next place. -/
theorem put_cases (t : Table) (n : ClusterNode) :
    (∃ i, ∃ h : i < t.nodes.length, t.nodes[i].node.identity = n.node.identity ∧
      (t.put n).table = ⟨t.nodes.set i n⟩) ∨
    (n.node.identity ∉ t.identities ∧ (t.put n).table = ⟨t.nodes ++ [n]⟩) := by
  unfold put
  cases hfind : t.nodes.findIdx? (· == n) with
  | some i =>
    obtain ⟨hi, heq, -⟩ := List.findIdx?_eq_some_iff_getElem.mp hfind
    exact .inl ⟨i, hi, ClusterNode.beq_iff.mp heq, rfl⟩
  | none =>
    have hnone := List.findIdx?_eq_none_iff.mp hfind
    refine .inr ⟨fun hmem => ?_, rfl⟩
    obtain ⟨m, hm, heq⟩ := List.mem_map.mp hmem
    exact absurd (ClusterNode.beq_iff.mpr heq) (Bool.eq_false_iff.mp (hnone m hm))

theorem identities_put (t : Table) (n : ClusterNode) :
    (t.put n).table.identities = withIdentity t.identities n.node.identity := by
  unfold withIdentity
  obtain ⟨i, hi, heq, htable⟩ | ⟨hnew, htable⟩ := put_cases t n
  · have hmem : n.node.identity ∈ t.identities :=
      heq ▸ List.mem_map_of_mem (List.getElem_mem hi)
    have hlt : i < t.identities.length := by
      unfold identities
      rwa [List.length_map]
    have hget : t.identities[i] = n.node.identity := by
      rw [← heq]
      exact List.getElem_map ..
    rw [htable, if_pos hmem]
    show (t.nodes.set i n).map _ = _
    rw [List.map_set, ← hget]
    exact List.set_getElem_self _
  · rw [htable, if_neg hnew]
    exact List.map_append ..

theorem mem_put_self (t : Table) (n : ClusterNode) : n ∈ (t.put n).table.nodes := by
  obtain ⟨i, hi, -, htable⟩ | ⟨-, htable⟩ := put_cases t n
  · rw [htable]
    exact List.mem_set hi n
  · rw [htable]
    exact List.mem_append_right t.nodes (List.mem_singleton_self n)

/-- Nothing but the node comes into the table. -/
theorem mem_of_mem_put {t : Table} {n m : ClusterNode} (h : m ∈ (t.put n).table.nodes) :
    m = n ∨ m ∈ t.nodes := by
  obtain ⟨i, -, -, htable⟩ | ⟨-, htable⟩ := put_cases t n
  · rw [htable] at h
    exact (List.mem_or_eq_of_mem_set h).symm
  · rw [htable] at h
    exact (List.mem_append.mp h).symm.imp_left List.mem_singleton.mp

/-! ## A history of reports -/

/-- The identities that the reports are on, in the order of the first report on each. -/
def identitiesOf (reports : List Report) : List Identity :=
  (reports.filterMap Report.identity?).eraseDups

/-- The last report on the identity that was not refused. -/
def latest (reports : List Report) (i : Identity) : Option Report :=
  lastOf Report.identity? (some i) reports

theorem eraseDups_concat (is : List Identity) (i : Identity) :
    (is ++ [i]).eraseDups = withIdentity is.eraseDups i := by
  unfold withIdentity
  rw [List.eraseDups_append]
  split_ifs with h
  · have hnone : [i].removeAll is = [] := by
      simpa [List.removeAll] using List.mem_eraseDups.mp h
    rw [hnone]
    exact List.append_nil _
  · have hall : [i].removeAll is = [i] := by
      simpa [List.removeAll] using mt List.mem_eraseDups.mpr h
    rw [hall]
    rfl

theorem identitiesOf_concat (reports : List Report) (report : Report) :
    identitiesOf (reports ++ [report]) =
      report.identity?.elim (identitiesOf reports) (withIdentity (identitiesOf reports)) := by
  unfold identitiesOf
  rw [List.filterMap_append]
  cases h : report.identity? with
  | none =>
    rw [List.filterMap_cons_none h, List.filterMap_nil, List.append_nil]
    rfl
  | some i =>
    rw [List.filterMap_cons_some h, List.filterMap_nil]
    exact eraseDups_concat _ i

theorem latest_concat (reports : List Report) (report : Report) (i : Identity) :
    latest (reports ++ [report]) i =
      if report.identity? = some i then some report else latest reports i := by
  unfold latest
  rw [lastOf_append, lastOf_singleton]
  split_ifs <;> rfl

/-- The table has every reported identity once, in the order of the first reports, and its nodes are
those of the last reports. -/
structure Follows (t : Table) (reports : List Report) : Prop where
  order : t.identities = identitiesOf reports
  nodup : t.identities.Nodup
  produced : ∀ n ∈ t.nodes, ∃ report, latest reports n.node.identity = some report ∧
    report.Describes n

theorem Follows.after {t : Table} {reports : List Report} (h : t.Follows reports)
    (report : Report) : (t.after report).Follows (reports ++ [report]) := by
  obtain ⟨n, hn⟩ | hfaults := report.describes_or_faults
  · have hidentity := Report.identity?_of_ok hn
    have hnodup : (t.put n).table.identities.Nodup := by
      rw [identities_put]
      exact nodup_withIdentity h.nodup _
    rw [after_of_ok t hn]
    refine ⟨?_, hnodup, fun m hm => ?_⟩
    · rw [identities_put, identitiesOf_concat, hidentity, h.order]
      rfl
    · rw [latest_concat, hidentity]
      by_cases hsame : n.node.identity = m.node.identity
      -- No two nodes of the new table share an identity, so this one is the node that was put.
      · have hmn : n = m := List.inj_on_of_nodup_map hnodup (mem_put_self t n) hm hsame
        rw [if_pos (congrArg some hsame), ← hmn]
        exact ⟨report, rfl, (Report.outcome_node_eq_ok_iff.mp hn).2⟩
      · rw [if_neg (mt Option.some.inj hsame)]
        refine h.produced m ((mem_of_mem_put hm).resolve_left ?_)
        rintro rfl
        exact hsame rfl
  · have hidentity := Report.identity?_eq_none_iff.mpr hfaults
    rw [after_of_faults t hfaults]
    refine ⟨?_, h.nodup, fun n hn => ?_⟩
    · rw [identitiesOf_concat, hidentity, h.order]
      rfl
    · rw [latest_concat, hidentity, if_neg nofun]
      exact h.produced n hn

theorem follows_ofReports (reports : List Report) : (ofReports reports).Follows reports := by
  induction reports using List.reverseRecOn with
  | nil => exact ⟨rfl, List.nodup_nil, fun _ hn => absurd hn List.not_mem_nil⟩
  | append_singleton reports report ih =>
    rw [ofReports_concat]
    exact ih.after report

/-- The table has the identities that reports without faults are on, and no others. -/
theorem Follows.mem_identities_iff {t : Table} {reports : List Report} (h : t.Follows reports)
    {i : Identity} : i ∈ t.identities ↔ ∃ report ∈ reports, report.identity? = some i := by
  rw [h.order]
  unfold identitiesOf
  rw [List.mem_eraseDups, List.mem_filterMap]

/-- Nodes of one table are never equal. -/
theorem Follows.pairwise {t : Table} {reports : List Report} (h : t.Follows reports) :
    t.nodes.Pairwise fun a b => (a == b) = false :=
  (List.pairwise_map.mp h.nodup).imp fun hab =>
    Bool.eq_false_iff.mpr (mt ClusterNode.beq_iff.mp hab)

/-- No two nodes are equal. A report is refused for its first fault, which changes nothing, and else
it puts the node that it describes. The table has the reported identities in the order of the first
reports on them, and each node is described by the last report on its identity alone. -/
theorem ofReports_keeps_last_reports :
    (∀ reports, (ofReports reports).nodes.Pairwise fun a b => (a == b) = false) ∧
    (∀ (t : Table) (report : Report),
      (∀ e, (t.refresh report).outcome = .error e ↔ report.faults.head? = some e) ∧
      (∀ update, (t.refresh report).outcome = .ok update ↔
        report.faults = [] ∧ ∃ n, report.Describes n ∧ update = t.put n) ∧
      (report.faults ≠ [] → t.after report = t)) ∧
    ∀ reports,
      (ofReports reports).nodes.map (·.node.identity) = identitiesOf reports ∧
      ∀ n ∈ (ofReports reports).nodes, ∃ report,
        latest reports n.node.identity = some report ∧ report.Describes n := by
  refine ⟨fun reports => (follows_ofReports reports).pairwise,
    fun t report => ⟨fun _ => refresh_eq_error_iff, fun _ => refresh_eq_ok_iff, after_of_faults t⟩,
    fun reports => ?_⟩
  have hfollows := follows_ofReports reports
  exact ⟨hfollows.order, hfollows.produced⟩

/-- A report without a proper id changes nothing. -/
theorem ofReports_keeps_last_reports_of_empty_id :
    (ofReports [{ id := some "a" }]).after { id := some "" } = ofReports [{ id := some "a" }] :=
  (ofReports_keeps_last_reports.2.1 _ _).2.2 (by decide)

end Table

end ClusterTopology
