import ClusterTopology.Proofs.Drafts
import ClusterTopology.Proofs.Except
import ClusterTopology.Proofs.StatusText
import ClusterTopology.Report
import Mathlib.Data.Prod.Basic

/-!
# What a report comes to

All faults of a report are listed in one order (`Report.faults`). The first one is what the report
is refused for, and a report without faults describes a node, all of whose fields come from the
texts of this report (`Report.outcome_node_eq_error_iff`, `Report.outcome_node_eq_ok_iff`).
-/

namespace ClusterTopology

/-! ## Refusals in sequence -/

section

variable {α β : Type}

/-- Why a result was refused. -/
def refusal? : Except Refusal α → Option Refusal
  | .ok _ => none
  | .error e => some e

theorem refusal?_eq_some_iff {r : Except Refusal α} {e : Refusal} :
    refusal? r = some e ↔ r = .error e := by
  cases r with
  | ok a => exact iff_of_false nofun nofun
  | error e' =>
    show some e' = some e ↔ _
    rw [Option.some.injEq, Except.error.injEq]

theorem refusal?_eq_none_iff {r : Except Refusal α} : refusal? r = none ↔ ∃ a, r = .ok a := by
  cases r with
  | ok a => exact iff_of_true rfl ⟨a, rfl⟩
  | error e => exact iff_of_false nofun (by rintro ⟨a, ⟨⟩⟩)

/-- What comes first is refused first. -/
theorem refusal?_bind {r : Except Refusal α} {f : α → Except Refusal β} {rest : List Refusal}
    (h : ∀ a, refusal? (f a) = rest.head?) :
    refusal? (r >>= f) = ((refusal? r).toList ++ rest).head? := by
  cases r with
  | ok a => exact h a
  | error e => rfl

theorem refusal?_optionMapM (f : α → Except Refusal β) (o : Option α) :
    refusal? (o.mapM f) = o.bind fun a => refusal? (f a) := by
  cases o with
  | none => rfl
  | some a =>
    show refusal? (some <$> f a) = refusal? (f a)
    cases f a <;> rfl

end

namespace Report

open ClusterNode ClusterNode.Setting

/-! ## The faults of a report -/

/-- What a node cannot be made of: an empty host, an empty id, or neither of them. -/
def lacks (report : Report) : List Refusal :=
  (if report.address.map Prod.fst = some "" then [.emptyHost] else []) ++
  ((if report.id = some "" then [.emptyId] else []) ++
  (if report.address = none ∧ report.id = none then [.unaddressable] else []))

/-- All that is wrong with the report: with its flags, its slots and its link state, and then with
the host and the id. -/
def faults (report : Report) : List Refusal :=
  (report.flags.bind fun text => refusal? (FlagSet.parse text).outcome).toList ++
  ((report.slots.bind fun text => refusal? (SlotSet.parse text)).toList ++
  ((report.link.bind fun text => refusal? (LinkState.parse text).outcome).toList ++
  report.lacks))

/-! ## The node of a report -/

theorem lastGiven_flags {β : Type} (f : Setting → Option β) (flags : Option FlagSet) :
    lastGiven f (flags.toList.flatMap fun flags =>
        [.base (.promotedAs (role flags)), .flagged flags]) =
      flags.bind fun flags => (f (.flagged flags)).or (f (.base (.promotedAs (role flags)))) := by
  cases flags with
  | none => rfl
  | some flags =>
    show lastGiven f [.base (.promotedAs (role flags)), .flagged flags] = _
    rw [lastGiven_cons, lastGiven_singleton]
    rfl

/-- The node that they describe. -/
def nodeOf (report : Report) (flags : Option FlagSet) (slots : Option SlotSet)
    (link : Option LinkState) : ClusterNode where
  node :=
    { host := report.address.map Prod.fst
      port := report.address.map Prod.snd
      id := report.id
      role := flags.map role
      masterId := report.master }
  slots := slots.getD ∅
  link
  flags := flags.getD ∅

/-- No kind of setting comes twice, so each text has its field to itself. -/
theorem described_settingsOf (report : Report) (flags : Option FlagSet) (slots : Option SlotSet)
    (link : Option LinkState) :
    described (report.settingsOf flags slots link) = report.nodeOf flags slots link := by
  rw [described_eq]
  simp [nodeOf, settingsOf, lastGiven_flags, Function.comp_def, Option.map_eq_bind]

theorem outcome_build_settingsOf (report : Report) (flags : Option FlagSet)
    (slots : Option SlotSet) (link : Option LinkState) :
    (Draft.ofSettings (report.settingsOf flags slots link)).build.outcome =
      if report.address.map Prod.fst = some "" then .error .emptyHost
      else if report.id = some "" then .error .emptyId
      else if report.address = none ∧ report.id = none then .error .unaddressable
      else .ok (report.nodeOf flags slots link) := by
  rw [Draft.outcome_build_ofSettings, described_settingsOf]
  show (if report.address.map Prod.fst = some "" then _ else if report.id = some "" then _
    else if report.address.map Prod.fst = none ∧ report.id = none then _ else _) = _
  simp only [Option.map_eq_none_iff]

/-- The texts are read in the order of flags, slots and link state. -/
theorem outcome_settings (report : Report) : report.settings.outcome =
    (report.flags.mapM fun text => (FlagSet.parse text).outcome) >>= fun flags =>
      report.slots.mapM SlotSet.parse >>= fun slots =>
        (report.link.mapM fun text => (LinkState.parse text).outcome) >>= fun link =>
          .ok (report.settingsOf flags slots link) := by
  -- Each step only adds to the trace, so it does not matter what was read before it.
  have hlink : ∀ flags slots, (report.link.mapM LinkState.parse >>= fun link =>
      (pure (report.settingsOf flags slots link) : Logged _)).Appends := fun _ _ =>
    (Logged.appends_optionMapM LinkState.appends_parse _).bind fun _ => Logged.appends_pure _
  have hslots : ∀ flags, ((report.slots.mapM fun text =>
      (MonadExcept.ofExcept (SlotSet.parse text) : Logged SlotSet)) >>= fun slots =>
        report.link.mapM LinkState.parse >>= fun link =>
          (pure (report.settingsOf flags slots link) : Logged _)).Appends := fun flags =>
    (Logged.appends_optionMapM (fun _ => Logged.appends_ofExcept _) _).bind (hlink flags)
  refine (Logged.outcome_bind _ hslots).trans ?_
  rw [Logged.outcome_optionMapM]
  congr 1
  funext flags
  rw [Logged.outcome_bind _ (hlink flags), Logged.outcome_optionMapM]
  simp only [Logged.outcome_ofExcept]
  congr 1
  funext slots
  rw [Logged.outcome_bind _ fun _ => Logged.appends_pure _, Logged.outcome_optionMapM]
  rfl

/-- What a report comes to, step by step. -/
theorem outcome_node (report : Report) : report.node.outcome =
    (report.flags.mapM fun text => (FlagSet.parse text).outcome) >>= fun flags =>
      report.slots.mapM SlotSet.parse >>= fun slots =>
        (report.link.mapM fun text => (LinkState.parse text).outcome) >>= fun link =>
          (Draft.ofSettings (report.settingsOf flags slots link)).build.outcome := by
  unfold node
  rw [Logged.outcome_bind _ fun _ => Draft.appends_build _, outcome_settings]
  simp only [bind_assoc]
  rfl

/-- The first fault decides. -/
theorem refusal?_node (report : Report) : refusal? report.node.outcome = report.faults.head? := by
  have hbuild : ∀ flags slots link, refusal? (Draft.ofSettings
      (report.settingsOf flags slots link)).build.outcome = report.lacks.head? := by
    intro flags slots link
    unfold lacks
    rw [outcome_build_settingsOf]
    split_ifs <;> rfl
  unfold faults
  rw [outcome_node, ← refusal?_optionMapM, ← refusal?_optionMapM, ← refusal?_optionMapM]
  exact refusal?_bind fun flags => refusal?_bind fun slots => refusal?_bind (hbuild flags slots)

/-- A report is refused for its first fault. -/
theorem outcome_node_eq_error_iff {report : Report} {e : Refusal} :
    report.node.outcome = .error e ↔ report.faults.head? = some e := by
  rw [← refusal?_node, refusal?_eq_some_iff]

/-- Every field of the node comes from the texts of the report. -/
structure Describes (report : Report) (n : ClusterNode) : Prop where
  node : n.node =
    { host := report.address.map Prod.fst
      port := report.address.map Prod.snd
      id := report.id
      role := report.flags.map fun _ => role n.flags
      masterId := report.master }
  slots : report.slots.elim (.ok ∅) SlotSet.parse = .ok n.slots
  link : (report.link.mapM fun text => (LinkState.parse text).outcome) = .ok n.link
  flags : report.flags.elim (.ok ∅) (fun text => (FlagSet.parse text).outcome) = .ok n.flags

/-- A report describes one node at most. -/
theorem Describes.unique {report : Report} {n m : ClusterNode} (hn : report.Describes n)
    (hm : report.Describes m) : n = m := by
  have hslots : n.slots = m.slots := Except.ok.inj (hn.slots.symm.trans hm.slots)
  have hlink : n.link = m.link := Except.ok.inj (hn.link.symm.trans hm.link)
  have hflags : n.flags = m.flags := Except.ok.inj (hn.flags.symm.trans hm.flags)
  have hnode : n.node = m.node := by rw [hn.node, hm.node, hflags]
  cases n
  cases m
  rw [ClusterNode.mk.injEq]
  exact ⟨hnode, hslots, hlink, hflags⟩

theorem describes_of_ok {report : Report} {n : ClusterNode} (h : report.node.outcome = .ok n) :
    report.Describes n := by
  simp only [outcome_node, bind_eq_ok_iff, outcome_build_settingsOf] at h
  obtain ⟨flags, hflags, slots, hslots, link, hlink, h⟩ := h
  split_ifs at h
  cases h
  refine ⟨?_, elim_eq_ok_of_mapM ∅ hslots, hlink, elim_eq_ok_of_mapM ∅ hflags⟩
  unfold nodeOf
  rw [map_eq_of_mapM role ∅ hflags]

/-- A report without faults describes the node that it comes to. -/
theorem outcome_node_eq_ok_iff {report : Report} {n : ClusterNode} :
    report.node.outcome = .ok n ↔ report.faults = [] ∧ report.Describes n := by
  constructor
  · intro h
    refine ⟨List.head?_eq_none_iff.mp ?_, describes_of_ok h⟩
    rw [← refusal?_node, h]
    rfl
  · rintro ⟨hfaults, hn⟩
    have hnone : refusal? report.node.outcome = none := by
      rw [refusal?_node, hfaults]
      rfl
    obtain ⟨m, hm⟩ := refusal?_eq_none_iff.mp hnone
    rw [hm, hn.unique (describes_of_ok hm)]

end Report

end ClusterTopology
