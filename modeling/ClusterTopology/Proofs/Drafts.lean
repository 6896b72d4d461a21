import ClusterTopology.ClusterNode.Draft
import ClusterTopology.Proofs.LastGiven
import ClusterTopology.Proofs.Trace

/-!
# What a sequence of settings comes to

Of the settings of a kind only the last one counts: it gives its field, and a field that nothing
gives stays empty or unknown (`Node.described`, `ClusterNode.described`). Finishing the draft then
checks the host, the id and that there is one of them, in this order
(`ClusterNode.build_follows_last_settings`).
-/

namespace ClusterTopology

/-! ## Nodes -/

namespace Node

namespace Setting

/-- The host and the port come together. -/
@[simp] def address? : Setting → Option (String × UInt16)
  | listeningAt host port => some (host, port)
  | _ => none

@[simp] def name? : Setting → Option String
  | named name => some name
  | _ => none

@[simp] def id? : Setting → Option String
  | identifiedBy id => some id
  | _ => none

@[simp] def role? : Setting → Option Role
  | promotedAs role => some role
  | _ => none

@[simp] def masterId? : Setting → Option String
  | replicaOf masterId => some masterId
  | _ => none

end Setting

open Setting

/-- The node that the settings describe. -/
def described (settings : List Setting) : Node where
  host := (lastGiven address? settings).map Prod.fst
  port := (lastGiven address? settings).map Prod.snd
  id := lastGiven id? settings
  name := lastGiven name? settings
  role := lastGiven role? settings
  masterId := lastGiven masterId? settings

theorem Draft.ofSettings_concat (settings : List Setting) (setting : Setting) :
    Draft.ofSettings (settings ++ [setting]) = (Draft.ofSettings settings).set setting :=
  List.foldl_concat ..

theorem Draft.ofSettings_eq (settings : List Setting) :
    Draft.ofSettings settings = ⟨described settings⟩ := by
  induction settings using List.reverseRecOn with
  | nil => rfl
  | append_singleton settings setting ih =>
    rw [Draft.ofSettings_concat, ih]
    unfold described
    simp only [lastGiven_concat]
    cases setting <;> rfl

theorem paired_described (settings : List Setting) :
    (described settings).host.isSome = (described settings).port.isSome := by
  unfold described
  rw [Option.isSome_map, Option.isSome_map]

/-- A finished node is the node of the draft, and its host and its id are not empty. -/
theorem Draft.build_eq_ok_iff {draft : Draft} {n : Node} :
    draft.build = .ok n ↔ draft.node = n ∧ n.host ≠ some "" ∧ n.id ≠ some "" := by
  unfold build
  constructor
  · intro h
    split_ifs at h with hhost hid
    cases h
    exact ⟨rfl, hhost, hid⟩
  · rintro ⟨rfl, hhost, hid⟩
    rw [if_neg hhost, if_neg hid]

theorem Draft.eq_of_build_eq_error {draft : Draft} {e : Refusal} (h : draft.build = .error e) :
    e = .emptyHost ∨ e = .emptyId := by
  unfold build at h
  split_ifs at h
  · exact .inl (Except.error.inj h).symm
  · exact .inr (Except.error.inj h).symm

theorem Draft.build_ofSettings (settings : List Setting) :
    (Draft.ofSettings settings).build =
      if (described settings).host = some "" then .error .emptyHost
      else if (described settings).id = some "" then .error .emptyId
      else .ok (described settings) := by
  rw [Draft.ofSettings_eq]
  rfl

end Node

/-! ## Cluster nodes -/

namespace ClusterNode

/-- The kinds of settings, one for each call that a draft knows. -/
inductive Kind where
  | address
  | id
  | name
  | role
  | masterId
  | flags
  | slots
  | link
deriving DecidableEq, Repr

namespace Setting

@[simp] def kind : Setting → Kind
  | base (.listeningAt ..) => .address
  | base (.identifiedBy _) => .id
  | base (.named _) => .name
  | base (.promotedAs _) => .role
  | base (.replicaOf _) => .masterId
  | flagged _ => .flags
  | serving _ => .slots
  | linked _ => .link

/-- The setting of the node itself. -/
@[simp] def base? : Setting → Option Node.Setting
  | base setting => some setting
  | _ => none

@[simp] def flags? : Setting → Option FlagSet
  | flagged flags => some flags
  | _ => none

@[simp] def slots? : Setting → Option SlotSet
  | serving slots => some slots
  | _ => none

@[simp] def link? : Setting → Option LinkState
  | linked link => some link
  | _ => none

@[simp] def address? (setting : Setting) : Option (String × UInt16) :=
  setting.base?.bind Node.Setting.address?

@[simp] def id? (setting : Setting) : Option String := setting.base?.bind Node.Setting.id?

@[simp] def name? (setting : Setting) : Option String := setting.base?.bind Node.Setting.name?

@[simp] def role? (setting : Setting) : Option Role := setting.base?.bind Node.Setting.role?

@[simp] def masterId? (setting : Setting) : Option String :=
  setting.base?.bind Node.Setting.masterId?

/-! Each kind of setting gives the field of that kind, and no other. -/

section Kinds

variable (setting : Setting)

theorem isSome_address? : setting.address?.isSome = true ↔ setting.kind = .address := by
  rcases setting with (_ | _) | _ | _ | _ <;> simp

theorem isSome_id? : setting.id?.isSome = true ↔ setting.kind = .id := by
  rcases setting with (_ | _) | _ | _ | _ <;> simp

theorem isSome_name? : setting.name?.isSome = true ↔ setting.kind = .name := by
  rcases setting with (_ | _) | _ | _ | _ <;> simp

theorem isSome_role? : setting.role?.isSome = true ↔ setting.kind = .role := by
  rcases setting with (_ | _) | _ | _ | _ <;> simp

theorem isSome_masterId? : setting.masterId?.isSome = true ↔ setting.kind = .masterId := by
  rcases setting with (_ | _) | _ | _ | _ <;> simp

theorem isSome_flags? : setting.flags?.isSome = true ↔ setting.kind = .flags := by
  rcases setting with (_ | _) | _ | _ | _ <;> simp

theorem isSome_slots? : setting.slots?.isSome = true ↔ setting.kind = .slots := by
  rcases setting with (_ | _) | _ | _ | _ <;> simp

theorem isSome_link? : setting.link?.isSome = true ↔ setting.kind = .link := by
  rcases setting with (_ | _) | _ | _ | _ <;> simp

end Kinds

end Setting

open Setting

/-- The cluster node that the settings describe. -/
def described (settings : List Setting) : ClusterNode where
  node := Node.described (settings.filterMap base?)
  slots := (lastGiven slots? settings).getD ∅
  link := lastGiven link? settings
  flags := (lastGiven flags? settings).getD ∅

theorem Draft.ofSettings_concat (settings : List Setting) (setting : Setting) :
    Draft.ofSettings (settings ++ [setting]) = (Draft.ofSettings settings).set setting :=
  List.foldl_concat ..

/-- The settings of the node itself are collected as they would be on their own. -/
theorem Draft.ofSettings_eq (settings : List Setting) :
    Draft.ofSettings settings =
      { base := Node.Draft.ofSettings (settings.filterMap base?)
        flags := (described settings).flags
        slots := (described settings).slots
        link := (described settings).link } := by
  induction settings using List.reverseRecOn with
  | nil => rfl
  | append_singleton settings setting ih =>
    rw [Draft.ofSettings_concat, ih, List.filterMap_append]
    unfold described
    simp only [lastGiven_concat]
    cases h : setting.base? with
    | some base =>
      rw [List.filterMap_cons_some h, List.filterMap_nil, Node.Draft.ofSettings_concat]
      cases setting <;> cases h
      rfl
    | none =>
      rw [List.filterMap_cons_none h, List.filterMap_nil, List.append_nil]
      cases setting with
      | base setting => cases h
      | flagged flags | serving slots | linked link => rfl

theorem described_eq (settings : List Setting) : described settings =
    { node :=
        { host := (lastGiven address? settings).map Prod.fst
          port := (lastGiven address? settings).map Prod.snd
          id := lastGiven id? settings
          name := lastGiven name? settings
          role := lastGiven role? settings
          masterId := lastGiven masterId? settings }
      slots := (lastGiven slots? settings).getD ∅
      link := lastGiven link? settings
      flags := (lastGiven flags? settings).getD ∅ } := by
  unfold described Node.described
  simp only [lastGiven_filterMap]
  rfl

theorem described_congr {xs ys : List Setting}
    (h : ∀ k, lastOf kind k xs = lastOf kind k ys) : described xs = described ys := by
  rw [described_eq, described_eq, lastGiven_congr isSome_address? (h .address),
    lastGiven_congr isSome_id? (h .id), lastGiven_congr isSome_name? (h .name),
    lastGiven_congr isSome_role? (h .role), lastGiven_congr isSome_masterId? (h .masterId),
    lastGiven_congr isSome_flags? (h .flags), lastGiven_congr isSome_slots? (h .slots),
    lastGiven_congr isSome_link? (h .link)]

/-- The draft depends on nothing but the last setting of each kind. -/
theorem Draft.ofSettings_congr {xs ys : List Setting}
    (h : ∀ k, lastOf kind k xs = lastOf kind k ys) : ofSettings xs = ofSettings ys := by
  have hbase : ∀ settings, Node.Draft.ofSettings (settings.filterMap base?) =
      ⟨(described settings).node⟩ := fun settings => Node.Draft.ofSettings_eq _
  rw [Draft.ofSettings_eq, Draft.ofSettings_eq, hbase, hbase, described_congr h]

/-! ## The finished node -/

/-- Finishing a cluster node finishes its node, and then asks for a host or an id. -/
theorem Draft.outcome_build (draft : Draft) : draft.build.outcome =
    draft.base.build >>= fun node =>
      if node.host = none ∧ node.id = none then .error .unaddressable
      else .ok { node, slots := draft.slots, link := draft.link, flags := draft.flags } := by
  unfold build
  cases draft.base.build with
  | error reason => rfl
  | ok node =>
    show (if node.host.isNone && node.id.isNone then _ else _ : Logged ClusterNode).outcome =
      if _ then _ else _
    simp only [Bool.and_eq_true, Option.isNone_iff_eq_none]
    split <;> rfl

/-- With a host or an id, nothing but the node itself is checked. -/
theorem Draft.outcome_build_of_known {draft : Draft}
    (h : (draft.base.node.host.or draft.base.node.id).isSome = true) :
    draft.build.outcome = draft.base.build.map fun node =>
      { node, slots := draft.slots, link := draft.link, flags := draft.flags } := by
  rw [outcome_build]
  cases hbuild : draft.base.build with
  | error reason => rfl
  | ok node =>
    obtain ⟨rfl, -, -⟩ := Node.Draft.build_eq_ok_iff.mp hbuild
    refine if_neg ?_
    rintro ⟨hhost, hid⟩
    rw [hhost, hid] at h
    cases h

/-- The described node is checked for an empty host, an empty id, and for having one of them. -/
theorem Draft.outcome_build_ofSettings (settings : List Setting) :
    (ofSettings settings).build.outcome =
      if (described settings).node.host = some "" then .error .emptyHost
      else if (described settings).node.id = some "" then .error .emptyId
      else if (described settings).node.host = none ∧ (described settings).node.id = none then
        .error .unaddressable
      else .ok (described settings) := by
  rw [outcome_build, ofSettings_eq]
  show (Node.Draft.ofSettings _).build >>= _ = _
  rw [Node.Draft.build_ofSettings]
  show (if (described settings).node.host = some "" then _ else _) >>= _ = _
  split
  · rfl
  · show (if (described settings).node.id = some "" then _ else _) >>= _ = _
    split <;> rfl

theorem Draft.appends_build (draft : Draft) : draft.build.Appends := by
  unfold build
  split
  · exact Logged.appends_reject _ _
  · split
    · exact Logged.appends_reject _ _
    · exact (Logged.appends_log _).bind fun _ => Logged.appends_pure _

theorem host_or_id_iff {settings : List Setting} :
    (described settings).node.host = none ∧ (described settings).node.id = none ↔
      ∀ s ∈ settings, s.kind ≠ .address ∧ s.kind ≠ .id := by
  rw [described_eq]
  show (lastGiven address? settings).map Prod.fst = none ∧ lastGiven id? settings = none ↔ _
  rw [Option.map_eq_none_iff, lastGiven_eq_none_iff, lastGiven_eq_none_iff, ← forall₂_and]
  refine forall₂_congr fun setting _ => ?_
  rw [← Option.not_isSome_iff_eq_none, ← Option.not_isSome_iff_eq_none, isSome_address?, isSome_id?]

/-- Only the last setting of each kind counts. An empty host is refused, then an empty id, and then
settings without host and id, and else the node has every field as it was last given, or without a
value. So neighbours of different kinds may change places, and a setting may go if one of its kind
comes later. A node on its own is finished in the same way, but it needs neither host nor id. -/
theorem build_follows_last_settings :
    (∀ settings : List Setting,
      (Draft.ofSettings settings).build.outcome =
        if (lastGiven address? settings).map Prod.fst = some "" then .error .emptyHost
        else if lastGiven id? settings = some "" then .error .emptyId
        else if ∀ s ∈ settings, s.kind ≠ .address ∧ s.kind ≠ .id then .error .unaddressable
        else .ok
          { node :=
              { host := (lastGiven address? settings).map Prod.fst
                port := (lastGiven address? settings).map Prod.snd
                id := lastGiven id? settings
                name := lastGiven name? settings
                role := lastGiven role? settings
                masterId := lastGiven masterId? settings }
            slots := (lastGiven slots? settings).getD ∅
            link := lastGiven link? settings
            flags := (lastGiven flags? settings).getD ∅ }) ∧
    (∀ (flags : List Flag) (flag : Flag), flag ∈ FlagSet.ofList flags ↔ flag ∈ flags) ∧
    (∀ xs ys : List Setting, (∀ k, lastOf kind k xs = lastOf kind k ys) →
      (Draft.ofSettings xs).build = (Draft.ofSettings ys).build) ∧
    (∀ (before after : List Setting) (a b : Setting), a.kind ≠ b.kind →
      (Draft.ofSettings (before ++ a :: b :: after)).build =
        (Draft.ofSettings (before ++ b :: a :: after)).build) ∧
    (∀ (before after : List Setting) (a b : Setting), a.kind = b.kind → b ∈ after →
      (Draft.ofSettings (before ++ a :: after)).build =
        (Draft.ofSettings (before ++ after)).build) ∧
    ∀ settings : List Setting,
      (Node.Draft.ofSettings (settings.filterMap base?)).build =
        if (lastGiven address? settings).map Prod.fst = some "" then .error .emptyHost
        else if lastGiven id? settings = some "" then .error .emptyId
        else .ok
          { host := (lastGiven address? settings).map Prod.fst
            port := (lastGiven address? settings).map Prod.snd
            id := lastGiven id? settings
            name := lastGiven name? settings
            role := lastGiven role? settings
            masterId := lastGiven masterId? settings } := by
  refine ⟨fun settings => ?_, fun _ _ => FlagSet.mem_ofList,
    fun xs ys h => congrArg Draft.build (Draft.ofSettings_congr h),
    fun before after a b hab => congrArg Draft.build (Draft.ofSettings_congr fun k => ?_),
    fun before after a b hab hb => congrArg Draft.build (Draft.ofSettings_congr fun k => ?_),
    fun settings => ?_⟩
  · rw [Draft.outcome_build_ofSettings]
    simp only [host_or_id_iff]
    rw [described_eq]
  · exact lastOf_swap hab before after
  · exact lastOf_drop hab before hb
  · rw [Node.Draft.build_ofSettings]
    show (if (described settings).node.host = some "" then _
      else if (described settings).node.id = some "" then _
      else Except.ok (described settings).node) = _
    rw [described_eq]

/-- An empty host does not matter once another host is given. -/
theorem build_follows_last_settings_of_overwritten :
    (Draft.ofSettings [.base (.listeningAt "" 1), .base (.identifiedBy "a"),
        .base (.listeningAt "h" 2)]).build =
      (Draft.ofSettings [.base (.identifiedBy "a"), .base (.listeningAt "h" 2)]).build :=
  build_follows_last_settings.2.2.2.2.1 [] [.base (.identifiedBy "a"), .base (.listeningAt "h" 2)]
    (.base (.listeningAt "" 1)) (.base (.listeningAt "h" 2)) rfl
    (List.mem_cons_of_mem _ List.mem_cons_self)

end ClusterNode

end ClusterTopology
