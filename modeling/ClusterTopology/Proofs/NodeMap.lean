import ClusterTopology.NodeMap
import ClusterTopology.Proofs.Identity
import Mathlib.Data.Set.Card
import Std.Data.HashMap.Lemmas

/-!
# Maps keyed by cluster nodes, after a history of operations

An operation changes the entry of one identity and no other (`NodeMap.get?_apply`). So after any
history of operations a map has the values that were stored last and not removed since, under the
nodes that created their entries (`NodeMap.Follows`). A node put on an equal one is not stored, so
the map goes on to show the slots, the flags and the link state of the older one.
-/

namespace ClusterTopology.NodeMap

variable {α : Type}

/-! ## Entries -/

theorem isSome_getKey? (m : NodeMap α) (q : ClusterNode) :
    (m.entries.getKey? q).isSome = m.entries[q]?.isSome := by
  rw [Std.HashMap.isSome_getKey?_eq_contains, Std.HashMap.isSome_getElem?_eq_contains]

@[simp] theorem map_fst_get? (m : NodeMap α) (q : ClusterNode) :
    (m.get? q).map Prod.fst = m.entries.getKey? q := by
  have h := isSome_getKey? m q
  unfold get?
  cases hk : m.entries.getKey? q with
  | none => rfl
  | some k =>
    obtain ⟨v, hv⟩ := Option.isSome_iff_exists.mp (h.symm.trans (by rw [hk]; rfl))
    rw [hv]
    rfl

@[simp] theorem map_snd_get? (m : NodeMap α) (q : ClusterNode) :
    (m.get? q).map Prod.snd = m.entries[q]? := by
  have h := isSome_getKey? m q
  unfold get?
  cases hv : m.entries[q]? with
  | none => cases m.entries.getKey? q <;> rfl
  | some v =>
    obtain ⟨k, hk⟩ := Option.isSome_iff_exists.mp (h.trans (by rw [hv]; rfl))
    rw [hk]
    rfl

/-- A node is found under the nodes that equal it. -/
theorem identity_eq_of_get? {m : NodeMap α} {q k : ClusterNode}
    (h : (m.get? q).map Prod.fst = some k) : k.node.identity = q.node.identity := by
  have hbeq := m.entries.getKey?_beq (k := q)
  rw [map_fst_get?] at h
  rw [h] at hbeq
  exact ClusterNode.beq_iff.mp hbeq

/-- An entry is found if its node and its value are. -/
theorem eq_some_mk_iff {e : Option (ClusterNode × α)} {k : ClusterNode} {v : α} :
    e = some (k, v) ↔ e.map Prod.fst = some k ∧ e.map Prod.snd = some v := by
  cases e with
  | none => simp
  | some e => simp [Prod.ext_iff]

theorem entry_ext {d e : Option (ClusterNode × α)} (hfst : d.map Prod.fst = e.map Prod.fst)
    (hsnd : d.map Prod.snd = e.map Prod.snd) : d = e := by
  cases e with
  | none => simpa using hfst
  | some e => exact eq_some_mk_iff.mpr ⟨hfst, hsnd⟩

theorem get?_empty (q : ClusterNode) : (({} : NodeMap α).get? q) = none := by
  apply entry_ext <;> simp

/-! ## One operation -/

/-- What can be done to a map. -/
inductive Operation (α : Type) where
  | put (n : ClusterNode) (value : α)
  | replace (n : ClusterNode) (value : α)
  | get (n : ClusterNode)
  | remove (n : ClusterNode)

namespace Operation

def key : Operation α → ClusterNode
  | put n _ | replace n _ | get n | remove n => n

def identity (op : Operation α) : Identity := op.key.node.identity

/-- The map after the operation. -/
def apply (m : NodeMap α) : Operation α → NodeMap α
  | put n value => (m.put n value).2
  | replace n value => (m.replace n value).2
  | get _ => m
  | remove n => (m.remove n).2

/-- The value that the operation answers with. -/
def answer (m : NodeMap α) : Operation α → Option α
  | put n value => (m.put n value).1
  | replace n value => (m.replace n value).1
  | get n => (m.get? n).map Prod.snd
  | remove n => (m.remove n).1

/-- What the operation makes of the entry of its identity. -/
def entry (e : Option (ClusterNode × α)) : Operation α → Option (ClusterNode × α)
  | put n value => some ((e.map Prod.fst).getD n, value)
  | replace n value => some (n, value)
  | get _ => e
  | remove _ => none

end Operation

theorem answer_eq (m : NodeMap α) (op : Operation α) :
    op.answer m = (m.get? op.key).map Prod.snd := by
  cases op with
  | get n => rfl
  | put n value | replace n value | remove n => exact (map_snd_get? m n).symm

section Lookup

variable (m : NodeMap α) {n q : ClusterNode}

/-- The node that is stored for `n`, or would be, equals `n`. -/
theorem getD_getKey?_beq : ((m.entries.getKey? n).getD n == n) = true := by
  have h := m.entries.getKey?_beq (k := n)
  cases hk : m.entries.getKey? n with
  | none => exact BEq.refl n
  | some k => rwa [hk] at h

theorem get?_put (value : α) : (m.put n value).2.get? q =
    if n.node.identity = q.node.identity then
      some (((m.get? q).map Prod.fst).getD n, value) else m.get? q := by
  have hsame : ((m.entries.getKey? n).getD n == q) = true ↔
      n.node.identity = q.node.identity := by
    rw [BEq.congr_left (getD_getKey?_beq m), ClusterNode.beq_iff]
  rw [map_fst_get?]
  apply entry_ext
  · rw [map_fst_get?, put, Std.HashMap.getKey?_insert]
    simp only [hsame]
    split_ifs with h
    · rw [m.entries.getKey?_congr (ClusterNode.beq_iff.mpr h)]
      rfl
    · exact (map_fst_get? m q).symm
  · rw [map_snd_get?, put, Std.HashMap.getElem?_insert]
    simp only [hsame]
    split_ifs with h
    · rfl
    · exact (map_snd_get? m q).symm

theorem get?_remove : (m.remove n).2.get? q =
    if n.node.identity = q.node.identity then none else m.get? q := by
  apply entry_ext
  · rw [map_fst_get?, remove, Std.HashMap.getKey?_erase]
    simp only [ClusterNode.beq_iff]
    split_ifs <;> simp
  · rw [map_snd_get?, remove, Std.HashMap.getElem?_erase]
    simp only [ClusterNode.beq_iff]
    split_ifs <;> simp

/-- Replacing is putting where there is nothing any more. -/
theorem replace_eq (value : α) :
    (m.replace n value).2 = ((m.remove n).2.put n value).2 := by
  have hnone : (m.entries.erase n).getKey? n = none := Std.HashMap.getKey?_erase_self
  simp only [replace, put, remove, hnone, Option.getD_none]

theorem get?_replace (value : α) : (m.replace n value).2.get? q =
    if n.node.identity = q.node.identity then some (n, value) else m.get? q := by
  rw [replace_eq, get?_put, get?_remove]
  split_ifs <;> rfl

end Lookup

/-- An operation changes the entry of its identity alone. -/
theorem get?_apply (m : NodeMap α) (op : Operation α) (q : ClusterNode) :
    (op.apply m).get? q =
      if op.identity = q.node.identity then op.entry (m.get? q) else m.get? q := by
  cases op with
  | put n value => exact get?_put m value
  | replace n value => exact get?_replace m value
  | get n => exact (ite_self _).symm
  | remove n => exact get?_remove m

/-! ## A history of operations -/

/-- The map after a sequence of operations. -/
def ofOperations (ops : List (Operation α)) : NodeMap α := ops.foldl Operation.apply {}

theorem ofOperations_concat (ops : List (Operation α)) (op : Operation α) :
    ofOperations (ops ++ [op]) = op.apply (ofOperations ops) :=
  List.foldl_concat ..

namespace Operation

/-- What the operation leaves as the value of its identity, unless it leaves what is there. -/
def leaves? : Operation α → Option (Option α)
  | put _ value | replace _ value => some (some value)
  | get _ => none
  | remove _ => some none

/-- Does the operation create an entry, where `old` is the value before? -/
def Creates (old : Option α) : Operation α → Prop
  | put _ _ => old = none
  | replace _ _ => True
  | get _ | remove _ => False

/-- Does the operation leave an entry of its identity under the node that created it? -/
def Keeps : Operation α → Prop
  | put _ _ | get _ => True
  | replace _ _ | remove _ => False

theorem map_snd_entry (e : Option (ClusterNode × α)) (op : Operation α) :
    (op.entry e).map Prod.snd = op.leaves?.getD (e.map Prod.snd) := by
  cases op <;> rfl

theorem map_fst_entry_eq_some_iff {e : Option (ClusterNode × α)} {op : Operation α}
    {k : ClusterNode} : (op.entry e).map Prod.fst = some k ↔
      op.key = k ∧ op.Creates (e.map Prod.snd) ∨ e.map Prod.fst = some k ∧ op.Keeps := by
  cases op with
  | put n value => cases e <;> simp [entry, key, Creates, Keeps]
  | replace n value | get n | remove n => simp [entry, key, Creates, Keeps]

end Operation

/-- The value that was stored last under the identity, unless it was removed since. -/
def lastValue (ops : List (Operation α)) (i : Identity) : Option α :=
  (lastGiven (fun op => if op.identity = i then op.leaves? else none) ops).join

/-- The node was stored when its entry was created, and the entry is neither made anew nor dropped
since. -/
def Created (ops : List (Operation α)) (k : ClusterNode) : Prop :=
  ∃ before op after, ops = before ++ op :: after ∧ op.key = k ∧
    op.Creates (lastValue before k.node.identity) ∧
    ∀ later ∈ after, later.identity = k.node.identity → later.Keeps

theorem lastValue_concat (ops : List (Operation α)) (op : Operation α) (i : Identity) :
    lastValue (ops ++ [op]) i =
      if op.identity = i then op.leaves?.getD (lastValue ops i) else lastValue ops i := by
  unfold lastValue
  rw [lastGiven_concat]
  split_ifs with h
  · cases op.leaves? <;> rfl
  · rfl

theorem created_concat_iff {ops : List (Operation α)} {op : Operation α} {k : ClusterNode} :
    Created (ops ++ [op]) k ↔
      op.key = k ∧ op.Creates (lastValue ops k.node.identity) ∨
        Created ops k ∧ (op.identity = k.node.identity → op.Keeps) := by
  constructor
  · rintro ⟨before, op', after, hops, hkey, hcreates, hkeeps⟩
    -- Either the last operation created the entry, or one before it did.
    rcases List.eq_nil_or_concat' after with rfl | ⟨after, last, rfl⟩
    · obtain ⟨rfl, hop⟩ := List.append_inj' hops rfl
      cases hop
      exact .inl ⟨hkey, hcreates⟩
    · rw [← List.cons_append, ← List.append_assoc] at hops
      obtain ⟨rfl, hop⟩ := List.append_inj' hops rfl
      cases hop
      rw [List.forall_mem_append, List.forall_mem_singleton] at hkeeps
      exact .inr ⟨⟨before, op', after, rfl, hkey, hcreates, hkeeps.1⟩, hkeeps.2⟩
  · rintro (⟨hkey, hcreates⟩ | ⟨⟨before, op', after, rfl, hkey, hcreates, hkeeps⟩, hop⟩)
    · exact ⟨ops, op, [], rfl, hkey, hcreates, List.forall_mem_nil _⟩
    · refine ⟨before, op', after ++ [op], List.append_assoc .., hkey, hcreates, ?_⟩
      rw [List.forall_mem_append, List.forall_mem_singleton]
      exact ⟨hkeeps, hop⟩

/-- The map has the values of the last operations, under the nodes that created their entries. -/
structure Follows (m : NodeMap α) (ops : List (Operation α)) : Prop where
  value : ∀ q, (m.get? q).map Prod.snd = lastValue ops q.node.identity
  key : ∀ q k, (m.get? q).map Prod.fst = some k ↔
    k.node.identity = q.node.identity ∧ Created ops k

theorem follows_empty : Follows ({} : NodeMap α) [] where
  value q := by
    rw [get?_empty]
    rfl
  key q k := by
    rw [get?_empty]
    simp [Created]

theorem Follows.apply {m : NodeMap α} {ops : List (Operation α)} (h : m.Follows ops)
    (op : Operation α) : (op.apply m).Follows (ops ++ [op]) where
  value q := by
    rw [get?_apply, lastValue_concat, ← h.value q]
    split_ifs
    · exact Operation.map_snd_entry _ op
    · rfl
  key q k := by
    by_cases hk : k.node.identity = q.node.identity
    · rw [get?_apply, created_concat_iff]
      by_cases hop : op.identity = q.node.identity
      · simp only [hop, hk, if_true, true_and, true_implies, Operation.map_fst_entry_eq_some_iff,
          h.value q, h.key q k]
      -- An operation on another identity cannot have stored `k`.
      · have hne : op.key ≠ k := by
          rintro rfl
          exact hop hk
        simp only [hop, hk, hne, if_false, true_and, false_and, false_or, false_implies, and_true,
          h.key q k]
    · exact iff_of_false (mt identity_eq_of_get? hk) fun h => hk h.1

theorem follows_ofOperations (ops : List (Operation α)) : (ofOperations ops).Follows ops := by
  induction ops using List.reverseRecOn with
  | nil => exact follows_empty
  | append_singleton ops op ih =>
    rw [ofOperations_concat]
    exact ih.apply op

/-! ## The identities of a map -/

/-- The identities of the stored nodes. -/
def identities (m : NodeMap α) : List Identity := m.entries.keys.map (·.node.identity)

theorem nodup_identities (m : NodeMap α) : m.identities.Nodup := by
  refine List.pairwise_map.mpr (Std.HashMap.distinct_keys.imp fun hne he => ?_)
  exact Bool.eq_false_iff.mp hne (ClusterNode.beq_iff.mpr he)

theorem mem_identities_iff {m : NodeMap α} {q : ClusterNode} :
    q.node.identity ∈ m.identities ↔ ((m.get? q).map Prod.snd).isSome = true := by
  rw [map_snd_get?, Std.HashMap.isSome_getElem?_eq_contains, ← Std.HashMap.contains_keys,
    List.contains_iff_exists_mem_beq]
  unfold identities
  rw [List.mem_map]
  refine exists_congr fun k => and_congr_right fun _ => ?_
  rw [ClusterNode.beq_iff, eq_comm]

/-- Every identity is that of a node. -/
theorem exists_identity_eq (i : Identity) : ∃ q : ClusterNode, q.node.identity = i :=
  ⟨{ node := { id := i.1, host := i.2.1, port := i.2.2 } }, rfl⟩

theorem Follows.mem_identities_iff {m : NodeMap α} {ops : List (Operation α)} (h : m.Follows ops)
    (i : Identity) : i ∈ m.identities ↔ (lastValue ops i).isSome = true := by
  obtain ⟨q, rfl⟩ := exists_identity_eq i
  rw [NodeMap.mem_identities_iff, h.value q]

theorem Follows.size_eq {m : NodeMap α} {ops : List (Operation α)} (h : m.Follows ops) :
    m.size = {i : Identity | (lastValue ops i).isSome = true}.ncard := by
  have hlive : {i : Identity | (lastValue ops i).isSome = true} = ↑m.identities.toFinset := by
    ext i
    rw [List.coe_toFinset]
    exact (h.mem_identities_iff i).symm
  rw [hlive, Set.ncard_coe_finset, List.toFinset_card_of_nodup m.nodup_identities]
  unfold identities
  rw [List.length_map, Std.HashMap.length_keys]
  rfl

theorem Follows.get?_eq_some_iff {m : NodeMap α} {ops : List (Operation α)} (h : m.Follows ops)
    {q k : ClusterNode} {v : α} : m.get? q = some (k, v) ↔
      k.node.identity = q.node.identity ∧ lastValue ops q.node.identity = some v ∧
        Created ops k := by
  rw [eq_some_mk_iff, h.key, h.value]
  tauto

/-- Nodes are equal if their ids, hosts and ports are, and just then they feed any hash function
alike. This is an equivalence, and settings other than addresses and ids do not affect it. So a map
is a finite map from identities. An operation changes the entry of its identity alone, and answers
with the value that was stored last under it and not removed since. After any history the map has
one entry for each identity with such a value, under the node that created the entry. -/
theorem keyed_by_identity :
    (∀ a b : ClusterNode,
      [(a == b) = true,
        a.node.id = b.node.id ∧ a.node.host = b.node.host ∧ a.node.port = b.node.port,
        ∀ (σ : Type) (H : FieldHasher σ) (state : σ), H.feed state a = H.feed state b].TFAE ∧
      ((a == b) = true → hash a = hash b)) ∧
    (Equivalence fun a b : ClusterNode => (a == b) = true) ∧
    (∀ settings : List ClusterNode.Setting,
      (ClusterNode.Draft.ofSettings settings).build.outcome.map (·.node.identity) =
        (ClusterNode.Draft.ofSettings (ClusterNode.identifying settings)).build.outcome.map
          (·.node.identity)) ∧
    (∀ (α : Type) (m : NodeMap α) (op : Operation α) (q : ClusterNode),
      (op.apply m).get? q =
        if op.identity = q.node.identity then op.entry (m.get? q) else m.get? q) ∧
    ∀ (α : Type) (ops : List (Operation α)),
      (∀ op : Operation α, op.answer (ofOperations ops) = lastValue ops op.identity) ∧
      (∀ (q k : ClusterNode) (v : α), (ofOperations ops).get? q = some (k, v) ↔
        k.node.identity = q.node.identity ∧ lastValue ops q.node.identity = some v ∧
          Created ops k) ∧
      (ofOperations ops).identities.Nodup ∧
      (∀ i : Identity,
        i ∈ (ofOperations ops).identities ↔ (lastValue ops i).isSome = true) ∧
      (ofOperations ops).size = {i : Identity | (lastValue ops i).isSome = true}.ncard := by
  refine ⟨fun a b => ⟨?_, LawfulHashable.hash_eq a b⟩,
    ⟨fun _ => BEq.refl _, BEq.symm, BEq.trans⟩,
    ClusterNode.outcome_identifying, fun _ => get?_apply, fun α ops => ?_⟩
  · tfae_have 1 ↔ 2 := ClusterNode.beq_iff_fields
    tfae_have 3 ↔ 1 := ClusterNode.feed_eq_iff
    tfae_finish
  · have hfollows := follows_ofOperations ops
    exact ⟨fun op => (answer_eq _ op).trans (hfollows.value op.key),
      fun _ _ _ => hfollows.get?_eq_some_iff, nodup_identities _, hfollows.mem_identities_iff,
      hfollows.size_eq⟩

/-- A failed node without slots comes to an entry that still has the slots from before. -/
theorem keyed_by_identity_of_failed :
    (ofOperations [
      .put { node := { id := some "a" }, slots := ⟨#[2047], by decide⟩ } "old",
      .put { node := { id := some "a" }, flags := .ofList [.fail] } "new"]).get?
        { node := { id := some "a" } } =
      some ({ node := { id := some "a" }, slots := ⟨#[2047], by decide⟩ }, "new") :=
  ((keyed_by_identity.2.2.2.2 String _).2.1 _ _ _).mpr
    ⟨rfl, rfl, [], _, _, rfl, rfl, rfl, List.forall_mem_singleton.mpr fun _ => trivial⟩

end ClusterTopology.NodeMap
