import ClusterTopology.Key
import Mathlib.Data.List.TakeWhile

/-!
# The tag of a key

A key with a tag is hashed by the tag alone (`Key.hashed_of_hasTag`), so keys with one tag have one
slot (`Key.slot_eq_of_hasTag`). A key without a tag is hashed as a whole, and a tag has no tag of
its own. `Key.hashedAt?` finds the hashed bytes by their positions in the key, and says that no
position lies beyond its end (`Key.hashedAt?_eq`).
-/

namespace ClusterTopology.Key

/-- The key has the tag between its first opening brace and the first closing brace after it. -/
def HasTag (key tag : Key) : Prop :=
  ∃ before after, key = before ++ tagOpen :: (tag ++ tagClose :: after) ∧
    tagOpen ∉ before ∧ tagClose ∉ tag ∧ tag ≠ []

/-- The ways for a key to have no tag. -/
inductive Untagged : Key → Prop
  /-- No brace opens a tag. -/
  | notOpened {key : Key} (h : tagOpen ∉ key) : Untagged key
  /-- No brace closes what the first one opens. -/
  | notClosed {before rest : Key} (hbefore : tagOpen ∉ before) (hrest : tagClose ∉ rest) :
      Untagged (before ++ tagOpen :: rest)
  /-- Nothing stands between the two braces, whatever comes after them. -/
  | blank {before after : Key} (hbefore : tagOpen ∉ before) :
      Untagged (before ++ tagOpen :: tagClose :: after)

/-! ## The bytes that decide -/

theorem dropWhile_of_not_mem {before : Key} (h : tagOpen ∉ before) (rest : Key) :
    (before ++ tagOpen :: rest).dropWhile (· ≠ tagOpen) = tagOpen :: rest := by
  rw [List.dropWhile_append_of_pos fun c hc => decide_eq_true (ne_of_mem_of_not_mem hc h)]
  exact List.dropWhile_cons_of_neg (by simp)

/-- Nothing but the tag decides on the slot. -/
theorem hashed_of_hasTag {key tag : Key} (h : key.HasTag tag) : key.hashed = tag := by
  obtain ⟨before, after, rfl, hbefore, htag, hne⟩ := h
  have hclose : (tag ++ tagClose :: after).takeWhile (· ≠ tagClose) = tag := by
    rw [List.takeWhile_append_of_pos fun c hc => decide_eq_true (ne_of_mem_of_not_mem hc htag),
      List.takeWhile_cons_of_neg (by simp), List.append_nil]
  unfold hashed
  simp only [dropWhile_of_not_mem hbefore, List.drop_one, List.tail_cons, hclose]
  exact if_pos ⟨hne, List.mem_append_right tag List.mem_cons_self⟩

/-- Without a tag the whole key decides. -/
theorem hashed_of_untagged {key : Key} (h : key.Untagged) : key.hashed = key := by
  unfold hashed
  cases h with
  | notOpened hopen =>
    have hnil : key.dropWhile (· ≠ tagOpen) = [] := by
      rw [List.dropWhile_eq_nil_iff]
      exact fun c hc => decide_eq_true (ne_of_mem_of_not_mem hc hopen)
    rw [hnil]
    exact if_neg fun h => h.1 rfl
  | notClosed hbefore hrest =>
    rw [dropWhile_of_not_mem hbefore]
    exact if_neg fun h => hrest h.2
  | blank hbefore =>
    rw [dropWhile_of_not_mem hbefore]
    exact if_neg fun h => h.1 (List.takeWhile_cons_of_neg (by simp))

/-- Either the first braces enclose a tag, or there is none. -/
theorem exists_hasTag_or_untagged (key : Key) : (∃ tag, key.HasTag tag) ∨ key.Untagged := by
  by_cases hopen : tagOpen ∈ key
  · obtain ⟨before, rest, rfl, hbefore⟩ := List.eq_append_cons_of_mem hopen
    by_cases hclose : tagClose ∈ rest
    · obtain ⟨tag, after, rfl, htag⟩ := List.eq_append_cons_of_mem hclose
      by_cases hnil : tag = []
      · subst hnil
        exact .inr (.blank hbefore)
      · exact .inl ⟨tag, before, after, rfl, hbefore, htag, hnil⟩
    · exact .inr (.notClosed hbefore hclose)
  · exact .inr (.notOpened hopen)

theorem HasTag.length_lt {key tag : Key} (h : key.HasTag tag) : tag.length < key.length := by
  obtain ⟨before, after, rfl, -⟩ := h
  simp only [List.length_append, List.length_cons]
  omega

theorem untagged_iff {key : Key} : key.Untagged ↔ ∀ tag, ¬key.HasTag tag := by
  constructor
  · intro h tag htag
    have hwhole : tag = key := (hashed_of_hasTag htag).symm.trans (hashed_of_untagged h)
    exact htag.length_lt.ne (congrArg List.length hwhole)
  · intro h
    exact (exists_hasTag_or_untagged key).resolve_left (not_exists.mpr h)

/-- Where nothing closes a tag, there is none. -/
theorem untagged_of_not_mem {key : Key} (h : tagClose ∉ key) : key.Untagged := by
  rw [untagged_iff]
  rintro tag ⟨before, after, rfl, -⟩
  simp at h

/-- A tag ends at the first brace that could close one, so it has no tag of its own. -/
theorem HasTag.hashed_tag {key tag : Key} (h : key.HasTag tag) : tag.hashed = tag := by
  obtain ⟨before, after, -, -, htag, -⟩ := h
  exact hashed_of_untagged (untagged_of_not_mem htag)

theorem hashed_hashed (key : Key) : key.hashed.hashed = key.hashed := by
  rcases exists_hasTag_or_untagged key with ⟨tag, h⟩ | h
  · rw [hashed_of_hasTag h, h.hashed_tag]
  · rw [hashed_of_untagged h, hashed_of_untagged h]

/-! ## Slots -/

theorem slot_eq_of_hasTag {key key' tag : Key} (h : key.HasTag tag) (h' : key'.HasTag tag) :
    key.slot = key'.slot := by
  unfold slot
  rw [hashed_of_hasTag h, hashed_of_hasTag h']

theorem HasTag.slot_eq {key tag : Key} (h : key.HasTag tag) : key.slot = tag.slot := by
  unfold slot
  rw [hashed_of_hasTag h, h.hashed_tag]

theorem toNat_slot (key : Key) :
    key.slot.toNat = (Crc16.checksum key.hashed).toNat % Slot.count := by
  unfold slot
  rw [UInt16.toNat_mod]
  rfl

/-- Every key belongs to the slot space. -/
theorem inSpace_slot (key : Key) : key.slot.InSpace := by
  unfold Slot.InSpace
  rw [toNat_slot]
  exact Nat.mod_lt _ (by decide)

/-! ## Positions -/

/-- The bytes from the position `start` up to the position `stop`, unless the key ends before. -/
def slice? (key : Key) (start stop : Nat) : Option Key :=
  if start ≤ stop ∧ stop ≤ key.length then some ((key.take stop).drop start) else none

/-- The hashed bytes, found by the positions of the braces. -/
def hashedAt? (key : Key) : Option Key :=
  match key.idxOf? tagOpen with
  | none => some key
  | some start => do
    let rest ← key.slice? (start + 1) key.length
    match rest.idxOf? tagClose with
    | some n => if 0 < n then key.slice? (start + 1) (start + 1 + n) else some key
    | none => some key

theorem slice?_append (before mid after : Key) :
    (before ++ (mid ++ after)).slice? before.length (before.length + mid.length) = some mid := by
  have hstop : before.length + mid.length ≤ (before ++ (mid ++ after)).length := by
    simp only [List.length_append]
    omega
  unfold slice?
  rw [if_pos ⟨Nat.le_add_right _ _, hstop⟩, ← List.append_assoc, ← List.length_append,
    List.take_left, List.drop_left]

theorem idxOf?_append_cons {before : Key} {c : UInt8} (h : c ∉ before) (rest : Key) :
    (before ++ c :: rest).idxOf? c = some before.length := by
  have hnone : before.findIdx? (· == c) = none := List.idxOf?_eq_none_iff.mpr h
  unfold List.idxOf?
  rw [List.findIdx?_append, hnone, List.findIdx?_cons, if_pos (beq_self_eq_true c)]
  simp

/-- All that stands behind the first opening brace is a slice of the key. -/
theorem slice?_rest (before rest : Key) :
    (before ++ tagOpen :: rest).slice? (before.length + 1) (before ++ tagOpen :: rest).length =
      some rest := by
  have hlen : (before ++ tagOpen :: rest).length = before.length + 1 + rest.length := by
    simp only [List.length_append, List.length_cons]
    omega
  have h := slice?_append (before ++ [tagOpen]) rest []
  rw [hlen]
  simpa using h

theorem hashedAt?_of_not_mem {before : Key} (h : tagOpen ∉ before) (rest : Key) :
    (before ++ tagOpen :: rest).hashedAt? =
      match rest.idxOf? tagClose with
      | some n =>
        if 0 < n then
          (before ++ tagOpen :: rest).slice? (before.length + 1) (before.length + 1 + n)
        else some (before ++ tagOpen :: rest)
      | none => some (before ++ tagOpen :: rest) := by
  unfold hashedAt?
  rw [idxOf?_append_cons h]
  simp only [slice?_rest]
  rfl

/-- No slice reaches beyond the key. -/
theorem hashedAt?_eq (key : Key) : key.hashedAt? = some key.hashed := by
  rcases exists_hasTag_or_untagged key with ⟨tag, htag⟩ | hnone
  · rw [hashed_of_hasTag htag]
    obtain ⟨before, after, rfl, hbefore, hclose, hne⟩ := htag
    have hslice := slice?_append (before ++ [tagOpen]) tag (tagClose :: after)
    rw [hashedAt?_of_not_mem hbefore, idxOf?_append_cons hclose]
    show (if _ then _ else _) = _
    rw [if_pos (List.length_pos_iff.mpr hne)]
    simpa using hslice
  · rw [hashed_of_untagged hnone]
    cases hnone with
    | notOpened hopen =>
      unfold hashedAt?
      rw [List.idxOf?_eq_none_iff.mpr hopen]
    | notClosed hbefore hrest =>
      rw [hashedAt?_of_not_mem hbefore, List.idxOf?_eq_none_iff.mpr hrest]
    | @blank before after hbefore =>
      have hfirst : (tagClose :: after).idxOf? tagClose = some 0 :=
        idxOf?_append_cons List.not_mem_nil after
      rw [hashedAt?_of_not_mem hbefore, hfirst]
      rfl

/-! ## The slot of a key -/

/-- A key with a tag has the slot of the tag, whatever stands around it. A key without one has the
check value of all its bytes, modulo the number of slots, and there are three ways to have none. So
the choice of the bytes to hash is made once and for all, keys with one tag share a slot, no slice
reaches beyond the key, and no slot lies outside of the slot space. -/
theorem slot_follows_tag :
    (∀ key tag : Key, key.HasTag tag → key.hashed = tag ∧ key.slot = tag.slot) ∧
    (∀ key : Key, (∀ tag, ¬key.HasTag tag) →
      key.hashed = key ∧ key.slot.toNat = (Crc16.checksum key).toNat % 16384) ∧
    (∀ key : Key, (∀ tag, ¬key.HasTag tag) ↔ key.Untagged) ∧
    (∀ key : Key, key.hashed.hashed = key.hashed) ∧
    (∀ key key' tag : Key, key.HasTag tag → key'.HasTag tag → key.slot = key'.slot) ∧
    (∀ key : Key, key.hashedAt? = some key.hashed) ∧
    ∀ key : Key, key.slot.toNat < 16384 := by
  refine ⟨fun key tag h => ⟨hashed_of_hasTag h, h.slot_eq⟩, fun key h => ?_,
    fun key => untagged_iff.symm, hashed_hashed, fun key key' tag => slot_eq_of_hasTag,
    hashedAt?_eq, inSpace_slot⟩
  have hwhole := hashed_of_untagged (untagged_iff.mpr h)
  have hslot := toNat_slot key
  rw [hwhole] at hslot
  exact ⟨hwhole, hslot⟩

/-- The tag of `foo{{bar}}zap` has a brace, and `foo{}{bar}` has no tag. -/
theorem slot_follows_tag_of_braces :
    Key.slot [102, 111, 111, 123, 123, 98, 97, 114, 125, 125, 122, 97, 112] =
      Key.slot [123, 98, 97, 114] ∧
    Key.hashed [102, 111, 111, 123, 125, 123, 98, 97, 114, 125] =
      [102, 111, 111, 123, 125, 123, 98, 97, 114, 125] :=
  ⟨(slot_follows_tag.1 _ [123, 98, 97, 114]
      ⟨[102, 111, 111], [125, 122, 97, 112], by decide, by decide, by decide, by decide⟩).2,
    (slot_follows_tag.2.1 _ ((slot_follows_tag.2.2.1 _).mpr
      (@Untagged.blank [102, 111, 111] [123, 98, 97, 114, 125] (by decide)))).1⟩

end ClusterTopology.Key
