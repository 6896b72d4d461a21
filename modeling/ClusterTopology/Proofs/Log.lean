import ClusterTopology.Key
import ClusterTopology.Proofs.FlagTokens
import ClusterTopology.Proofs.Mirror
import ClusterTopology.SlotSet.Source

/-!
# The log of a sequence of requests

A request to the library either reads a status, or finishes a cluster node, or takes in a report,
which does both, or has nothing to tell (`Silent`). A reading that fails leaves one event with the
token that was refused, and a cluster node leaves one event whether it is finished or refused.
Nothing else gets into the log, whatever requests come one after the other, and whatever comes of
them (`log_mirrors_outcomes`).
-/

namespace ClusterTopology

/-! ## Entries -/

/-- What is written of an event. -/
structure Entry where
  channel : Event.Channel
  message : String
  details : List (String × String)
deriving DecidableEq, Repr

def Event.entry (event : Event) : Entry := ⟨event.channel, event.message, event.details⟩

/-- What a computation writes, in order. -/
def Logged.entries {α : Type} (x : Logged α) : List Entry := x.events.toList.map Event.entry

theorem Logged.Mirrors.entries_eq {α : Type} {told : α → Option Event} {x : Logged α}
    (h : x.Mirrors told) {r : Except Refusal α} (hr : x.outcome = r) :
    x.entries = (tells told r).toList.map Event.entry := by
  unfold Logged.entries
  rw [h.events_eq, Option.toList_toArray, hr]

/-- Flags are written in the order of `Flag.all`. -/
theorem FlagSet.line_layout (s : FlagSet) : s.layout.line =
    "\x7b" ++ ", ".intercalate ((Flag.all.filter (· ∈ s)).map Flag.label) ++ "\x7d" := by
  have hlist : Flag.all.filter (· ∈ s) = s.toList :=
    List.filter_congr fun _ _ => Bool.decide_eq_true
  rw [hlist]
  unfold layout
  cases s.toList with
  | nil => rfl
  | cons flag flags =>
    show "\x7b" ++ "" ++ ", ".intercalate (((flag :: flags).map Flag.layout).map Layout.line) ++
      "" ++ "\x7d" = _
    rw [List.map_map, String.append_empty, String.append_empty]
    rfl

theorem LinkState.line_layout (link : Option LinkState) : (Layout.option layout link).line =
    link.elim "None" fun link => "Some(" ++ link.label ++ ")" := by
  cases link with
  | none => rfl
  | some link => cases link <;> rfl

/-- A finished node is written with its text, the number of its slots, and its status. -/
theorem ClusterNode.entry_event (n : ClusterNode) : n.event.entry =
    { channel := .assembly
      message := "built cluster node"
      details := [("node", n.text), ("slots", toString n.slots.size),
        ("flags",
          "\x7b" ++ ", ".intercalate ((Flag.all.filter (· ∈ n.flags)).map Flag.label) ++ "\x7d"),
        ("link_state", n.link.elim "None" fun link => "Some(" ++ link.label ++ ")")] } := by
  rw [← FlagSet.line_layout, ← LinkState.line_layout]
  rfl

/-! ## Single computations -/

/-- A text of flags is not told of if it is read, and else by the one token that it is refused for.
-/
theorem FlagSet.entries_parse (text : String) :
    (∃ s, (parse text).outcome = .ok s ∧ (parse text).entries = []) ∨
    ∃ token, (parse text).outcome = .error (.unknownFlag token) ∧
      (parse text).entries = [⟨.status, "rejecting unknown node flag", [("token", token)]⟩] := by
  have hmirrors := mirrors_parse text
  cases ho : (parse text).outcome with
  | ok s => exact .inl ⟨s, rfl, hmirrors.entries_eq ho⟩
  | error e =>
    obtain ⟨_, token, _, -, -, -, rfl⟩ := (isTokens_iff.mpr rfl).outcome_eq_error_iff.mp ho
    exact .inr ⟨token, rfl, hmirrors.entries_eq ho⟩

theorem LinkState.eq_of_outcome_eq_error {token : String} {e : Refusal}
    (h : (parse token).outcome = .error e) : e = .unknownLinkState token := by
  rw [parse_eq] at h
  exact (Logged.outcome_given_eq_error_iff.mp h).2

theorem LinkState.entries_parse (text : String) :
    (∃ link, (parse text).outcome = .ok link ∧ (parse text).entries = []) ∨
    (parse text).outcome = .error (.unknownLinkState text) ∧
      (parse text).entries = [⟨.status, "rejecting unknown link state", [("token", text)]⟩] := by
  have hmirrors := mirrors_parse text
  cases ho : (parse text).outcome with
  | ok link => exact .inl ⟨link, rfl, hmirrors.entries_eq ho⟩
  | error e =>
    obtain rfl := eq_of_outcome_eq_error ho
    exact .inr ⟨rfl, hmirrors.entries_eq ho⟩

namespace ClusterNode

theorem Draft.eq_of_outcome_eq_error {draft : Draft} {e : Refusal}
    (h : draft.build.outcome = .error e) : e = .emptyHost ∨ e = .emptyId ∨ e = .unaddressable := by
  rw [outcome_build] at h
  cases hbuild : draft.base.build with
  | error reason =>
    rw [hbuild] at h
    obtain rfl : reason = e := Except.error.inj h
    exact (Node.Draft.eq_of_build_eq_error hbuild).imp_right .inl
  | ok node =>
    rw [hbuild] at h
    change (if node.host = none ∧ node.id = none then _ else _) = _ at h
    split_ifs at h
    exact .inr (.inr (Except.error.inj h).symm)

/-- A draft is told of once: as the node that it comes to, or as what it is refused for. -/
theorem Draft.entries_build (draft : Draft) :
    (∃ n, draft.build.outcome = .ok n ∧ draft.build.entries =
      [⟨.assembly, "built cluster node",
        [("node", n.text), ("slots", toString n.slots.size),
          ("flags",
            "\x7b" ++ ", ".intercalate ((Flag.all.filter (· ∈ n.flags)).map Flag.label) ++ "\x7d"),
          ("link_state", n.link.elim "None" fun link => "Some(" ++ link.label ++ ")")]⟩]) ∨
    (∃ e, (e = .emptyHost ∨ e = .emptyId) ∧ draft.build.outcome = .error e ∧
      draft.build.entries = [⟨.assembly, "rejecting cluster node", [("err", e.message)]⟩]) ∨
    draft.build.outcome = .error .unaddressable ∧
      draft.build.entries =
        [⟨.assembly, "rejecting cluster node without address and id", []⟩] := by
  have hmirrors := draft.mirrors_build
  cases ho : draft.build.outcome with
  | ok n =>
    refine .inl ⟨n, rfl, ?_⟩
    rw [hmirrors.entries_eq ho, ← n.entry_event]
    rfl
  | error e =>
    have hentries := hmirrors.entries_eq ho
    obtain rfl | rfl | rfl := eq_of_outcome_eq_error ho
    · exact .inr (.inl ⟨_, .inl rfl, rfl, hentries⟩)
    · exact .inr (.inl ⟨_, .inr rfl, rfl, hentries⟩)
    · exact .inr (.inr ⟨rfl, hentries⟩)

end ClusterNode

/-! ## Requests -/

/-- What can be asked about a set of slots, by what the answer is. -/
inductive SlotSet.View : Type → Type
  | contains (slot : Slot) : View Bool
  | size : View Nat
  | isEmpty : View Bool
  /-- The answers to some calls of `next` on a fresh cursor. -/
  | walk (calls : Nat) : View (List (Option Slot))
  | treeSet : View (Std.TreeSet Slot)
  | array : View (Array Slot)
  | runs : View (List Interval)
  | words : View (Array UInt64)
  | equals (other : SlotSet) : View Bool
  | hash : View UInt64
  | text : View String
  | layout : View Layout

def SlotSet.View.answer (s : SlotSet) : {α : Type} → View α → α
  | _, contains slot => s.contains slot
  | _, size => s.size
  | _, isEmpty => s.isEmpty
  | _, walk calls => (s.cursor.nextN calls).1
  | _, treeSet => s.toTreeSet
  | _, array => s.toArray
  | _, runs => s.runs
  | _, words => s.words
  | _, equals other => s == other
  | _, hash => Hashable.hash s
  | _, text => s.text
  | _, layout => s.layout

/-- The requests that have nothing to tell, by what they come to. -/
inductive Silent : Type → Type 1
  | slotSet (source : Source) : Silent SlotSet
  | ask {α : Type} (s : SlotSet) (view : SlotSet.View α) : Silent α
  | keySlot (key : Key) : Silent Slot
  | finishNode (draft : Node.Draft) : Silent Node
  | nodeAt (host : String) (port : UInt16) : Silent Node
  | clusterNodeAt (host : String) (port : UInt16) : Silent ClusterNode
  | identifiedBy (id : String) : Silent ClusterNode
  | serving (host : String) (port : UInt16) (slots : SlotSet) : Silent ClusterNode
  | anonymous (slots : SlotSet) : Silent ClusterNode

def Silent.result : {α : Type} → Silent α → Except Refusal α
  | _, slotSet source => source.build
  | _, ask s view => .ok (view.answer s)
  | _, keySlot key => .ok key.slot
  | _, finishNode draft => draft.build
  | _, nodeAt host port => Node.listeningAt host port
  | _, clusterNodeAt host port => ClusterNode.listeningAt host port
  | _, identifiedBy id => ClusterNode.identifiedBy id
  | _, serving host port slots => ClusterNode.serving host port slots
  | _, anonymous slots => .ok (ClusterNode.anonymous slots)

/-- The requests to the library, by what they come to. -/
inductive Request : Type → Type 1
  | readFlag (token : String) : Request Flag
  | readFlags (text : String) : Request FlagSet
  | readLink (token : String) : Request LinkState
  | finish (draft : ClusterNode.Draft) : Request ClusterNode
  | takeIn (report : Report) : Request ClusterNode
  | silent {α : Type} (request : Silent α) : Request α

namespace Request

def perform : {α : Type} → Request α → Logged α
  | _, readFlag token => Flag.parse token
  | _, readFlags text => FlagSet.parse text
  | _, readLink token => LinkState.parse token
  | _, finish draft => draft.build
  | _, takeIn report => report.node
  | _, silent request => MonadExcept.ofExcept request.result

/-- The event that tells of the outcome of the request. -/
def tells : {α : Type} → Request α → Except Refusal α → Option Event
  | _, readFlag _, r | _, readFlags _, r | _, readLink _, r => Logged.tells (fun _ => none) r
  | _, finish _, r | _, takeIn _, r => Logged.tells (fun n => some n.event) r
  | _, silent _, _ => none

variable {α : Type}

theorem perform_silent (request : Silent α) :
    (silent request).perform.outcome = request.result ∧ (silent request).perform.entries = [] := by
  have hevents := Logged.events_ofExcept request.result
  exact ⟨Logged.outcome_ofExcept _, congrArg (·.toList.map Event.entry) hevents⟩

/-- Whatever was logged before, the outcome is the same, and the event that tells of it is added. -/
theorem run_perform (request : Request α) (trace : Array Event) :
    request.perform.run.run trace =
      (request.perform.outcome,
        trace ++ (request.tells request.perform.outcome).toArray) := by
  cases request with
  | readFlag token => exact Flag.mirrors_parse token trace
  | readFlags text => exact FlagSet.mirrors_parse text trace
  | readLink token => exact LinkState.mirrors_parse token trace
  | finish draft => exact draft.mirrors_build trace
  | takeIn report => exact report.mirrors_node trace
  | silent request =>
    have hrun := Logged.appends_ofExcept request.result trace
    rwa [Logged.events_ofExcept] at hrun

end Request

/-! ## Sequences of requests -/

namespace Request

variable {α : Type}

/-- Does the request leave an event? A reading does if it fails, a draft in any case, and a report
unless it is refused for the text of its slots. -/
def isTold : {α : Type} → Request α → Bool
  | _, readFlag token => !(Flag.parse token).outcome.isOk
  | _, readFlags text => !(FlagSet.parse text).outcome.isOk
  | _, readLink token => !(LinkState.parse token).outcome.isOk
  | _, finish _ => true
  | _, takeIn report =>
    match report.node.outcome with
    | .ok _ => true
    | .error e => !e.isOfSlots
  | _, silent _ => false

theorem isSome_tells_of_refusals {r : Except Refusal α}
    (h : ∀ e, r = .error e → e.event?.isSome = true) :
    (Logged.tells (fun _ => none) r).isSome = !r.isOk := by
  cases r with
  | ok a => rfl
  | error e => exact h e rfl

theorem isSome_tells (request : Request α) :
    (request.tells request.perform.outcome).isSome = request.isTold := by
  cases request with
  | readFlag token =>
    refine isSome_tells_of_refusals fun e he => ?_
    rw [(Flag.outcome_parse_eq_error_iff.mp he).2]
    rfl
  | readFlags text =>
    refine isSome_tells_of_refusals fun e he => ?_
    obtain ⟨_, _, _, -, -, -, rfl⟩ :=
      (FlagSet.isTokens_iff.mpr rfl).outcome_eq_error_iff.mp he
    rfl
  | readLink token =>
    refine isSome_tells_of_refusals fun e he => ?_
    rw [LinkState.eq_of_outcome_eq_error he]
    rfl
  | finish draft =>
    show (Logged.tells _ draft.build.outcome).isSome = true
    cases ho : draft.build.outcome with
    | ok n => rfl
    | error e => obtain rfl | rfl | rfl := ClusterNode.Draft.eq_of_outcome_eq_error ho <;> rfl
  | takeIn report =>
    show (Logged.tells _ report.node.outcome).isSome = match report.node.outcome with
      | .ok _ => true
      | .error e => !e.isOfSlots
    cases report.node.outcome with
    | ok n => rfl
    | error e => exact e.isSome_event?
  | silent request => rfl

/-- The log after one more request, whatever comes of it. -/
def logAfter (trace : Array Event) (request : Σ α, Request α) : Array Event :=
  (request.2.perform.run.run trace).2

/-- The log of a sequence of requests. -/
def log (requests : List (Σ α, Request α)) : Array Event := requests.foldl logAfter #[]

/-- The log has the events that tell of the outcomes, in order. -/
theorem log_eq (requests : List (Σ α, Request α)) : log requests =
    (requests.filterMap fun request => request.2.tells request.2.perform.outcome).toArray := by
  induction requests using List.reverseRecOn with
  | nil => rfl
  | append_singleton requests request ih =>
    have hlast : log (requests ++ [request]) = logAfter (log requests) request :=
      List.foldl_concat ..
    have hsingle : [request].filterMap (fun request => request.2.tells request.2.perform.outcome) =
        (request.2.tells request.2.perform.outcome).toList := by
      cases h : request.2.tells request.2.perform.outcome with
      | none => exact List.filterMap_cons_none h
      | some event => exact List.filterMap_cons_some h
    rw [hlast, logAfter, run_perform, ih, List.filterMap_append, hsingle, ← List.append_toArray,
      Option.toArray_toList]

/-- There is one event for each reading that fails, for each draft, and for each report that is not
refused for the text of its slots, and there are no others. -/
theorem size_log (requests : List (Σ α, Request α)) :
    (log requests).size = requests.countP fun request => request.2.isTold := by
  rw [log_eq, List.size_toArray, List.length_filterMap_eq_countP]
  simp only [isSome_tells]

end Request

/-- The log mirrors what comes of the requests. A text of flags leaves nothing if it is read, and
else one entry with the token that it is refused for, and so does a link state. A draft leaves one
entry with the node that it comes to, or with what it is refused for. Nodes that are made in other
ways, slots of keys and sets of slots leave nothing. So after any sequence of requests the log has
the events that tell of the outcomes, in order: one for each reading that failed, for each draft,
and for each report that was not refused for the text of its slots. -/
theorem log_mirrors_outcomes :
    (∀ text,
      (∃ s, (FlagSet.parse text).outcome = .ok s ∧ (FlagSet.parse text).entries = []) ∨
      ∃ token, (FlagSet.parse text).outcome = .error (.unknownFlag token) ∧
        (FlagSet.parse text).entries =
          [⟨.status, "rejecting unknown node flag", [("token", token)]⟩]) ∧
    (∀ text,
      (∃ link, (LinkState.parse text).outcome = .ok link ∧ (LinkState.parse text).entries = []) ∨
      (LinkState.parse text).outcome = .error (.unknownLinkState text) ∧
        (LinkState.parse text).entries =
          [⟨.status, "rejecting unknown link state", [("token", text)]⟩]) ∧
    (∀ draft : ClusterNode.Draft,
      (∃ n, draft.build.outcome = .ok n ∧ draft.build.entries =
        [⟨.assembly, "built cluster node",
          [("node", n.text), ("slots", toString n.slots.size),
            ("flags", "\x7b" ++
              ", ".intercalate ((Flag.all.filter (· ∈ n.flags)).map Flag.label) ++ "\x7d"),
            ("link_state", n.link.elim "None" fun link => "Some(" ++ link.label ++ ")")]⟩]) ∨
      (∃ e, (e = .emptyHost ∨ e = .emptyId) ∧ draft.build.outcome = .error e ∧
        draft.build.entries = [⟨.assembly, "rejecting cluster node", [("err", e.message)]⟩]) ∨
      draft.build.outcome = .error .unaddressable ∧
        draft.build.entries =
          [⟨.assembly, "rejecting cluster node without address and id", []⟩]) ∧
    (∀ (α : Type) (request : Silent α), (Request.silent request).perform.outcome = request.result ∧
      (Request.silent request).perform.entries = []) ∧
    (∀ (α : Type) (request : Request α) (trace : Array Event),
      request.perform.run.run trace =
        (request.perform.outcome,
          trace ++ (request.tells request.perform.outcome).toArray)) ∧
    ∀ requests : List (Σ α, Request α),
      Request.log requests =
        (requests.filterMap fun request => request.2.tells request.2.perform.outcome).toArray ∧
      (Request.log requests).size = requests.countP fun request => request.2.isTold := by
  refine ⟨FlagSet.entries_parse, LinkState.entries_parse, ClusterNode.Draft.entries_build,
    fun α => Request.perform_silent, fun α => Request.run_perform, fun requests => ?_⟩
  exact ⟨Request.log_eq requests, Request.size_log requests⟩

end ClusterTopology
