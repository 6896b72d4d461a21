import ClusterTopology.Proofs.SlotText.RoundTrip
import Mathlib.Data.Set.Basic
import Mathlib.Tactic.TFAE
import Std.Data.HashSet.Lemmas

/-!
# The bitmap behind a set does not show

Sets with the same members are equal, whatever the lengths of their bitmaps, and no view of them
tells them apart (`SlotSet.views_tfae`). They also hash alike: `Hasher.feed` is what a set hands to
any hash function, and `SlotSet.hash_eq_feed` says that the hash of this library is a case of it.
-/

namespace ClusterTopology

/-! ## Hashing -/

/-- A hash function with states `σ` that takes in lengths and runs of words. -/
structure Hasher (σ : Type) where
  length : σ → Nat → σ
  words : σ → Array UInt64 → σ

/-- The state after taking in a set: the number of its words up to the last one that is not empty,
and these words in order. -/
def Hasher.feed {σ : Type} (h : Hasher σ) (state : σ) (s : SlotSet) : σ :=
  h.words (h.length state s.trimmedWords.size) s.trimmedWords

namespace SlotSet

/-- The hash of a set ignores the number of words, and mixes the words into a seed. -/
theorem hash_eq_feed (s : SlotSet) : hash s =
    Hasher.feed ⟨fun r _ => r, fun r words => words.foldl (fun r w => mixHash r (hash w)) r⟩ 7 s :=
  rfl

theorem feed_eq {a b : SlotSet} (h : (a == b) = true) {σ : Type} (H : Hasher σ) (state : σ) :
    H.feed state a = H.feed state b := by
  unfold Hasher.feed
  rw [beq_iff.mp h]

/-! ## Views -/

/-- Equality, membership, walking, runs and text all distinguish the same sets. -/
theorem views_tfae (a b : SlotSet) :
    [(a == b) = true, ∀ slot, a.contains slot = b.contains slot, a.toList = b.toList,
      ∀ k, (Cursor.nextN k a.cursor).1 = (Cursor.nextN k b.cursor).1, a.runs = b.runs,
      a.text = b.text].TFAE := by
  tfae_have 1 ↔ 2 := beq_iff_contains
  tfae_have 1 ↔ 3 := by rw [beq_iff_mem, toList_eq_iff]
  tfae_have 4 ↔ 3 := answers_eq_iff
  tfae_have 1 ↔ 5 := by rw [beq_iff_mem, runs_eq_iff]
  tfae_have 1 ↔ 6 := by rw [beq_iff_mem, text_eq_iff]
  tfae_finish

section Equal

variable {a b : SlotSet} (h : (a == b) = true)

include h

theorem toList_congr : a.toList = b.toList := toList_eq_iff.mpr (beq_iff_mem.mp h)

theorem size_congr : a.size = b.size := by
  rw [size_eq_length_toList, size_eq_length_toList, toList_congr h]

theorem isEmpty_congr : a.isEmpty = b.isEmpty := by
  rw [Bool.eq_iff_iff, isEmpty_iff, isEmpty_iff]
  simp only [beq_iff_mem.mp h]

theorem toTreeSet_congr : a.toTreeSet = b.toTreeSet := by
  unfold toTreeSet
  rw [isEmpty_congr h, toList_congr h]

theorem toArray_congr : a.toArray = b.toArray := by
  unfold toArray
  rw [funext (beq_iff_contains.mp h)]

end Equal

/-! ## The empty set -/

theorem beq_empty_iff {a : SlotSet} : (a == empty) = true ↔ a.isEmpty = true := by
  rw [beq_iff_mem, isEmpty_iff]
  exact forall_congr' fun slot => iff_false_right (not_mem_empty slot)

theorem size_eq_zero_iff {a : SlotSet} : a.size = 0 ↔ a.isEmpty = true := by
  rw [size_eq_length_toList, List.length_eq_zero_iff, isEmpty_iff, List.eq_nil_iff_forall_not_mem]
  simp only [mem_toList]

/-! ## Sets of sets -/

/-- The slots of the set, apart from how it holds them. -/
def members (s : SlotSet) : Set Slot := {slot | slot ∈ s}

theorem members_eq_iff {a b : SlotSet} : a.members = b.members ↔ (a == b) = true := by
  rw [beq_iff_mem]
  exact Set.ext_iff

theorem members_mem_map_iff {s : SlotSet} {sets : List SlotSet} :
    s.members ∈ sets.map members ↔ sets.contains s = true := by
  rw [List.mem_map, List.contains_iff_exists_mem_beq]
  simp only [members_eq_iff]
  exact exists_congr fun t => and_congr_right fun _ => by rw [BEq.comm]

/-- A hash set keeps one of the sets with the same slots. -/
theorem nodup_members_ofList (sets : List SlotSet) :
    ((Std.HashSet.ofList sets).toList.map members).Nodup := by
  refine List.pairwise_map.mpr (Std.HashSet.distinct_toList.imp fun hne he => ?_)
  rw [members_eq_iff, hne] at he
  exact Bool.false_ne_true he

theorem mem_members_ofList_iff (sets : List SlotSet) (M : Set Slot) :
    M ∈ (Std.HashSet.ofList sets).toList.map members ↔ M ∈ sets.map members := by
  have hcontains : ∀ s : SlotSet,
      (Std.HashSet.ofList sets).toList.contains s = sets.contains s := fun s => by
    rw [Std.HashSet.contains_toList, Std.HashSet.contains_ofList]
  constructor
  · intro hM
    obtain ⟨s, -, rfl⟩ := List.mem_map.mp hM
    rwa [members_mem_map_iff, ← hcontains, ← members_mem_map_iff]
  · intro hM
    obtain ⟨s, -, rfl⟩ := List.mem_map.mp hM
    rwa [members_mem_map_iff, hcontains, ← members_mem_map_iff]

/-- The representation does not show. Equality, membership, the list of a walk, the answers to any
number of calls of `next`, the runs and the text agree on which sets are the same. The same sets
feed any hash function alike and agree in all other views. So equality is an equivalence, the empty
set is the one without slots, and a hash set keeps exactly one set for each set of slots that it is
given. -/
theorem representation_independence :
    (∀ a b : SlotSet,
      [(a == b) = true, ∀ slot, a.contains slot = b.contains slot, a.toList = b.toList,
        ∀ k, (Cursor.nextN k a.cursor).1 = (Cursor.nextN k b.cursor).1, a.runs = b.runs,
        a.text = b.text].TFAE ∧
      ((a == b) = true →
        (∀ (σ : Type) (H : Hasher σ) (state : σ), H.feed state a = H.feed state b) ∧
          hash a = hash b ∧ a.size = b.size ∧ a.isEmpty = b.isEmpty ∧ a.toTreeSet = b.toTreeSet ∧
          a.toArray = b.toArray)) ∧
      (Equivalence fun a b : SlotSet => (a == b) = true) ∧
      (∀ a : SlotSet, [(a == empty) = true, a.isEmpty = true, a.size = 0].TFAE) ∧
      ∀ sets : List SlotSet,
        ((Std.HashSet.ofList sets).toList.map members).Nodup ∧ ∀ M : Set Slot,
          M ∈ (Std.HashSet.ofList sets).toList.map members ↔ M ∈ sets.map members := by
  refine ⟨fun a b => ⟨views_tfae a b, fun h => ?_⟩, ⟨fun _ => BEq.refl _, BEq.symm, BEq.trans⟩,
    fun a => ?_, fun sets => ?_⟩
  · exact ⟨fun _ H state => feed_eq h H state, LawfulHashable.hash_eq a b h, size_congr h,
      isEmpty_congr h, toTreeSet_congr h, toArray_congr h⟩
  · tfae_have 1 ↔ 2 := beq_empty_iff
    tfae_have 3 ↔ 2 := size_eq_zero_iff
    tfae_finish
  · exact ⟨nodup_members_ofList sets, mem_members_ofList_iff sets⟩

/-- Slots 1 and 2 in one word, and with an empty word behind it. -/
theorem representation_independence_of_padded : ∃ a b : SlotSet,
    a.words.size ≠ b.words.size ∧ (a == b) = true ∧ hash a = hash b ∧ a.size = b.size ∧
      a.toTreeSet = b.toTreeSet ∧ a.toArray = b.toArray := by
  have heq : ((⟨#[6], by decide⟩ : SlotSet) == ⟨#[6, 0], by decide⟩) = true := by decide +kernel
  obtain ⟨-, hhash, hsize, -, htree, harray⟩ := (representation_independence.1 _ _).2 heq
  exact ⟨_, _, by decide, heq, hhash, hsize, htree, harray⟩

end SlotSet

end ClusterTopology
