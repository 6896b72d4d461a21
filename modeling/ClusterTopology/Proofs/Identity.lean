import ClusterTopology.Proofs.Drafts

/-!
# What makes two cluster nodes the same

Cluster nodes are equal if their ids, their hosts and their ports are, known or not. This is all
that a node hands to a hash function (`FieldHasher.feed`), so equal nodes feed any hash function
alike, and no others do (`ClusterNode.feed_eq_iff`). Settings of other kinds do not matter to the
identity of the node that they describe, nor to the refusal of its draft
(`ClusterNode.outcome_identifying`).
-/

namespace ClusterTopology

/-! ## Hashing -/

/-- A hash function with states `σ` that takes in whether a field is known, texts and ports. -/
structure FieldHasher (σ : Type) where
  known : σ → Bool → σ
  text : σ → String → σ
  port : σ → UInt16 → σ

namespace FieldHasher

variable {σ β : Type}

/-- The state after taking in a field: whether it is known, and then its value. -/
def field (H : FieldHasher σ) (take : σ → β → σ) (state : σ) : Option β → σ
  | none => H.known state false
  | some b => take (H.known state true) b

/-- The state after taking in a cluster node: its id, its host and its port. -/
def feed (H : FieldHasher σ) (state : σ) (n : ClusterNode) : σ :=
  H.field H.port (H.field H.text (H.field H.text state n.node.id) n.node.host) n.node.port

/-- What a hash function takes in at a time. -/
inductive Datum where
  | known (yes : Bool)
  | text (s : String)
  | port (p : UInt16)

/-- The hash function that keeps all that it takes in, with the latest first. -/
def log : FieldHasher (List Datum) where
  known state yes := .known yes :: state
  text state s := .text s :: state
  port state p := .port p :: state

theorem field_log_inj {make : β → Datum} (hmake : Function.Injective make)
    (hne : ∀ b, make b ≠ .known false) {s t : List Datum} {x y : Option β}
    (h : log.field (fun state b => make b :: state) s x =
      log.field (fun state b => make b :: state) t y) : s = t ∧ x = y := by
  match x, y with
  | none, none => exact ⟨(List.cons.inj h).2, rfl⟩
  | none, some b => exact absurd (List.cons.inj h).1.symm (hne b)
  | some a, none => exact absurd (List.cons.inj h).1 (hne a)
  | some a, some b =>
    obtain ⟨hab, hrest⟩ := List.cons.inj h
    exact ⟨(List.cons.inj hrest).2, congrArg some (hmake hab)⟩

end FieldHasher

namespace ClusterNode

/-! ## Equality -/

theorem beq_iff_fields {a b : ClusterNode} : (a == b) = true ↔
    a.node.id = b.node.id ∧ a.node.host = b.node.host ∧ a.node.port = b.node.port := by
  rw [beq_iff]
  unfold Node.identity
  rw [Prod.mk.injEq, Prod.mk.injEq]

/-- Equal nodes feed any hash function alike, and a hash function that keeps all that it takes in
tells the others apart. -/
theorem feed_eq_iff {a b : ClusterNode} :
    (∀ (σ : Type) (H : FieldHasher σ) (state : σ), H.feed state a = H.feed state b) ↔
      (a == b) = true := by
  rw [beq_iff_fields]
  constructor
  · intro h
    have htext : Function.Injective FieldHasher.Datum.text := fun _ _ => FieldHasher.Datum.text.inj
    have hport : Function.Injective FieldHasher.Datum.port := fun _ _ => FieldHasher.Datum.port.inj
    obtain ⟨hrest, hports⟩ := FieldHasher.field_log_inj hport nofun (h _ .log [])
    obtain ⟨hrest, hhosts⟩ := FieldHasher.field_log_inj htext nofun hrest
    obtain ⟨-, hids⟩ := FieldHasher.field_log_inj htext nofun hrest
    exact ⟨hids, hhosts, hports⟩
  · rintro ⟨hids, hhosts, hports⟩ σ H state
    unfold FieldHasher.feed
    rw [hids, hhosts, hports]

/-! ## Settings that identify -/

open Setting

/-- The settings that take part in the identity: addresses and ids. -/
def identifying (settings : List Setting) : List Setting :=
  settings.filter fun s => s.kind = .address ∨ s.kind = .id

theorem identity_described (settings : List Setting) :
    (described settings).node.identity =
      (lastGiven id? settings, (lastGiven address? settings).map Prod.fst,
        (lastGiven address? settings).map Prod.snd) := by
  rw [described_eq]
  rfl

theorem identity_described_identifying (settings : List Setting) :
    (described (identifying settings)).node.identity = (described settings).node.identity := by
  have haddress : lastGiven address? (identifying settings) = lastGiven address? settings :=
    lastGiven_filter (fun s h => decide_eq_true (.inl (s.isSome_address?.mp h))) settings
  have hid : lastGiven id? (identifying settings) = lastGiven id? settings :=
    lastGiven_filter (fun s h => decide_eq_true (.inr (s.isSome_id?.mp h))) settings
  rw [identity_described, identity_described, haddress, hid]

/-- The identity, unless a finished node cannot have it. -/
def checked (i : Identity) : Except Refusal Identity :=
  if i.2.1 = some "" then .error .emptyHost
  else if i.1 = some "" then .error .emptyId
  else if i.2.1 = none ∧ i.1 = none then .error .unaddressable
  else .ok i

theorem outcome_identity (settings : List Setting) :
    (Draft.ofSettings settings).build.outcome.map (·.node.identity) =
      checked (described settings).node.identity := by
  rw [Draft.outcome_build_ofSettings]
  unfold checked Node.identity
  dsimp only
  split_ifs <;> rfl

/-- A draft is refused for the same reason, or its node has the same identity, if all other settings
are left out. -/
theorem outcome_identifying (settings : List Setting) :
    (Draft.ofSettings settings).build.outcome.map (·.node.identity) =
      (Draft.ofSettings (identifying settings)).build.outcome.map (·.node.identity) := by
  rw [outcome_identity, outcome_identity, identity_described_identifying]

end ClusterNode

end ClusterTopology
