import ClusterTopology.Proofs.Decoding
import ClusterTopology.Proofs.SlotText.RoundTrip

/-!
# All constructions mean the same set

A set of slots can be given by a list, by a bitmap, by two bounds or by a text. Each way refuses the
first slot outside of the slot space, and else the members are the slots that were given. So all
ways to give the same slots make equal sets (`SlotSet.constructions_agree`).
-/

namespace ClusterTopology.SlotSet

open SlotText

/-! ## Lists -/

theorem find?_outside_iff {slots : List Slot} {a : Slot} :
    slots.find? (fun slot => ¬slot.InSpace) = some a ↔
      ¬a.InSpace ∧ ∃ before after, slots = before ++ a :: after ∧ ∀ b ∈ before, b.InSpace := by
  rw [List.find?_eq_some_iff_append, decide_eq_true_eq]
  simp only [decide_not, Bool.not_not, decide_eq_true_eq]

/-- The first slot outside of the slot space decides on the error. -/
theorem ofList_eq_error_iff {slots : List Slot} {e : Refusal} :
    ofList slots = .error e ↔ ∃ before a after, slots = before ++ a :: after ∧
      (∀ b ∈ before, b.InSpace) ∧ ¬a.InSpace ∧ e = .slotOutOfRange a.toNat := by
  unfold ofList
  by_cases hnil : slots = []
  · rw [if_pos (List.isEmpty_iff.mpr hnil), hnil]
    refine iff_of_false nofun ?_
    rintro ⟨before, a, after, h, -⟩
    exact absurd h.symm (List.append_ne_nil_of_right_ne_nil _ (List.cons_ne_nil _ _))
  · rw [if_neg (mt List.isEmpty_iff.mp hnil)]
    cases h : slots.find? (fun slot => ¬slot.InSpace) with
    | some a =>
      obtain ⟨ha, before, after, hslots, hbefore⟩ := find?_outside_iff.mp h
      constructor
      · rintro ⟨⟩
        exact ⟨before, a, after, hslots, hbefore, ha, rfl⟩
      · rintro ⟨before', a', after', hslots', hbefore', ha', rfl⟩
        have h' := find?_outside_iff.mpr ⟨ha', before', after', hslots', hbefore'⟩
        cases h.symm.trans h'
        rfl
    | none =>
      refine iff_of_false nofun ?_
      rintro ⟨before, a, after, hslots, hbefore, ha, -⟩
      cases h.symm.trans (find?_outside_iff.mpr ⟨ha, before, after, hslots, hbefore⟩)

theorem exists_ofList_eq_error_iff {slots : List Slot} :
    (∃ e, ofList slots = .error e) ↔ ∃ a ∈ slots, ¬a.InSpace := by
  simp only [ofList_eq_error_iff]
  constructor
  · rintro ⟨e, before, a, after, rfl, -, ha, -⟩
    exact ⟨a, List.mem_append_right _ List.mem_cons_self, ha⟩
  · rintro ⟨a, hmem, ha⟩
    -- An element outside need not be the first one.
    cases h : slots.find? (fun slot => ¬slot.InSpace) with
    | some b =>
      obtain ⟨hb, before, after, hslots, hbefore⟩ := find?_outside_iff.mp h
      exact ⟨_, before, b, after, hslots, hbefore, hb, rfl⟩
    | none => exact absurd (decide_eq_true ha) (List.find?_eq_none.mp h a hmem)

theorem mem_insertAll_blank {slots : List Slot} (h : ∀ a ∈ slots, a.InSpace) (slot : Slot) :
    slot ∈ (blank Slot.count).insertAll slots ↔ slot ∈ slots := by
  rw [mem_insertAll fun a ha => by rw [size_words_blank_count]; exact div_bits_lt (h a ha)]
  exact or_iff_left (not_mem_blank _ _)

/-- A list of slots of the slot space gives the set of its elements. -/
theorem exists_ofList_eq_ok {slots : List Slot} (h : ∀ a ∈ slots, a.InSpace) :
    ∃ s, ofList slots = .ok s ∧ ∀ slot, slot ∈ s ↔ slot ∈ slots := by
  unfold ofList
  by_cases hnil : slots = []
  · rw [if_pos (List.isEmpty_iff.mpr hnil), hnil]
    exact ⟨empty, rfl, fun slot => iff_of_false (not_mem_empty slot) List.not_mem_nil⟩
  · have hnone : slots.find? (fun slot => ¬slot.InSpace) = none :=
      List.find?_eq_none.mpr fun a ha hn => decide_eq_true_eq.mp hn (h a ha)
    rw [if_neg (mt List.isEmpty_iff.mp hnil), hnone]
    exact ⟨_, rfl, mem_insertAll_blank h⟩

/-! ## Bitmaps -/

/-- The bit of a slot in its word. -/
def slotBit (slot : Slot) : UInt64 := (1 : UInt64) <<< (slot.toNat % 64).toUInt64

/-- The bits of the slots that fall into word `w`, joined by a bitwise or. -/
def orWord (slots : List Slot) (w : Nat) : UInt64 :=
  (slots.filter (·.toNat / 64 = w)).foldl (fun word slot => word ||| slotBit slot) 0

/-- The bits of the slots in the words of the slot space. -/
def orWords (slots : List Slot) : Array UInt64 := Array.ofFn fun w : Fin 256 => orWord slots w

theorem hasBit_foldl_or (slots : List Slot) (word : UInt64) {j : Nat} (hj : j < Word.bits) :
    Word.hasBit (slots.foldl (fun word slot => word ||| slotBit slot) word) j = true ↔
      (∃ slot ∈ slots, slot.toNat % 64 = j) ∨ Word.hasBit word j = true := by
  induction slots generalizing word with
  | nil => simp
  | cons slot slots ih =>
    have hset : Word.hasBit (word ||| slotBit slot) j =
        (slot.toNat % 64 == j || Word.hasBit word j) :=
      Word.hasBit_setBit word (Nat.mod_lt _ (by decide)) hj
    rw [List.foldl_cons, ih, hset, Bool.or_eq_true, beq_iff_eq]
    simp only [List.mem_cons, exists_eq_or_imp]
    rw [← or_assoc, or_comm (a := slot.toNat % 64 = j)]

theorem holds_orWords {slots : List Slot} {n : Nat} (hn : n < Slot.count) :
    holds (orWords slots) n = true ↔ ∃ slot ∈ slots, slot.toNat = n := by
  have hw : n / Word.bits < (orWords slots).size := by
    unfold orWords
    rw [Array.size_ofFn]
    exact (Nat.div_lt_iff_lt_mul (by decide)).mpr hn
  have hword : (orWords slots)[n / Word.bits] = orWord slots (n / Word.bits) :=
    Array.getElem_ofFn hw
  rw [holds_of_lt hw, hword]
  unfold orWord
  rw [hasBit_foldl_or _ _ (Nat.mod_lt _ (by decide)), Word.hasBit_zero]
  simp only [List.mem_filter, Bool.false_eq_true, or_false, Word.bits]
  constructor
  · rintro ⟨slot, ⟨hslot, hdiv⟩, hmod⟩
    have hdiv := of_decide_eq_true hdiv
    exact ⟨slot, hslot, by omega⟩
  · rintro ⟨slot, hslot, rfl⟩
    exact ⟨slot, ⟨hslot, decide_eq_true rfl⟩, rfl⟩

theorem exists_ofWords_orWords {slots : List Slot} (h : ∀ a ∈ slots, a.InSpace) :
    ∃ s, ofWords (orWords slots) = .ok s ∧ ∀ slot, slot ∈ s ↔ slot ∈ slots := by
  have hsize : (orWords slots).size ≤ wordCount := by
    unfold orWords
    rw [Array.size_ofFn]
    decide
  refine ⟨_, ofWords_of_size_le hsize, fun slot => ?_⟩
  by_cases hslot : slot.InSpace
  · rw [mem_def, contains_eq_holds, holds_orWords hslot]
    simp only [UInt16.toNat_inj, exists_eq_right]
  · exact iff_of_false (fun hm => hslot (inSpace_of_mem hm)) fun hm => hslot (h slot hm)

/-! ## Texts -/

theorem toList_toString (n : Nat) : (toString n).toList = Text.decimal n := Nat.toList_repr

/-- The numbers of the slots, with commas or white space between them. -/
def Lists (slots : List Slot) (text : String) : Prop :=
  Joined (slots.map fun slot => (toString slot.toNat).toList) text.toList

theorem exists_parse_of_lists {slots : List Slot} {text : String} (h : ∀ a ∈ slots, a.InSpace)
    (ht : Lists slots text) : ∃ s, parse text = .ok s ∧ ∀ slot, slot ∈ s ↔ slot ∈ slots := by
  have htokens : tokens text.toList = (slots.map Interval.singleton).map Interval.chars := by
    have hwords : (slots.map Interval.singleton).map Interval.chars =
        slots.map fun slot => (toString slot.toNat).toList := by
      rw [List.map_map]
      refine List.map_congr_left fun slot _ => ?_
      rw [toList_toString]
      exact if_pos rfl
    rw [hwords]
    refine tokens_of_joined ht fun word hword => ?_
    obtain ⟨slot, -, rfl⟩ := List.mem_map.mp hword
    rw [toList_toString]
    exact isWord_decimal _
  have hin : ∀ i ∈ slots.map Interval.singleton, i.lower.InSpace ∧ i.upper.InSpace := by
    intro i hi
    obtain ⟨slot, hslot, rfl⟩ := List.mem_map.mp hi
    exact ⟨h slot hslot, h slot hslot⟩
  refine ⟨_, parse_eq_ok_iff.mpr ⟨slots.map Interval.singleton, rfl, ?_⟩, fun slot => ?_⟩
  · rw [htokens]
    exact reads_map_chars hin
  · rw [mem_ofIntervals fun i hi => (hin i hi).2]
    unfold Covers
    simp only [List.mem_map, exists_exists_and_eq_and, Interval.mem_singleton, exists_eq_right']

/-! ## Bounds -/

theorem mem_insertAll_interval {lower upper : Slot} (h : upper.InSpace) (slot : Slot) :
    slot ∈ (blank (upper.toNat + 1)).insertAll (Interval.toList ⟨lower, upper⟩) ↔
      lower ≤ slot ∧ slot ≤ upper := by
  have hlast : upper.toNat / Word.bits < (blank (upper.toNat + 1)).words.size := by
    have hlt : upper.toNat < 16384 := h
    show _ < (Array.replicate _ _).size
    rw [Array.size_replicate]
    simp only [Word.bits, wordCount, Slot.count]
    omega
  exact (mem_insertAll_toList hlast).trans (or_iff_left (not_mem_blank _ _))

/-- What two bounds come to: the lower one is checked first, and else the slots between them are
given. -/
structure Bounded (lower upper : Slot) (r : Except Refusal SlotSet) : Prop where
  lower_refused : 16384 ≤ lower.toNat → r = .error (.slotOutOfRange lower.toNat)
  upper_refused : lower.toNat < 16384 → 16384 ≤ upper.toNat →
    r = .error (.slotOutOfRange upper.toNat)
  between : lower.toNat < 16384 → upper.toNat < 16384 →
    ∃ a, r = .ok a ∧ ∀ slot, slot ∈ a ↔ lower ≤ slot ∧ slot ≤ upper

theorem bounded_check {lower upper : Slot} {f : Slot → Slot → SlotSet}
    (hf : upper.InSpace → ∀ slot, slot ∈ f lower upper ↔ lower ≤ slot ∧ slot ≤ upper) :
    Bounded lower upper
      (do return f (← Slot.ofIndex lower.toNat) (← Slot.ofIndex upper.toNat)) where
  lower_refused hl := by
    rw [Slot.ofIndex_of_le hl]
    rfl
  upper_refused hl hu := by
    rw [ofIndex_toNat hl, Slot.ofIndex_of_le hu]
    rfl
  between hl hu := by
    rw [ofIndex_toNat hl, ofIndex_toNat hu]
    exact ⟨f lower upper, rfl, hf hu⟩

theorem bounded_ofBounds (lower upper : Slot) : Bounded lower upper (ofBounds lower upper) :=
  bounded_check mem_insertAll_interval

/-- Two numbers around a dash. -/
def boundsText (lower upper : Slot) : String :=
  toString lower.toNat ++ "-" ++ toString upper.toNat

theorem toList_boundsText (lower upper : Slot) : (boundsText lower upper).toList =
    Text.decimal lower.toNat ++ '-' :: Text.decimal upper.toNat := by
  unfold boundsText
  rw [String.toList_append, String.toList_append, toList_toString, toList_toString,
    List.append_assoc]
  rfl

/-- A text of two bounds is read as one interval. -/
theorem parse_boundsText (lower upper : Slot) :
    parse (boundsText lower upper) =
      do return ofIntervals [⟨← Slot.ofIndex lower.toNat, ← Slot.ofIndex upper.toNat⟩] := by
  unfold parse
  rw [toList_boundsText, (isWord_pair _ _).tokens, List.mapM_cons, List.mapM_nil, read_pair]
  cases Slot.ofIndex lower.toNat with
  | error e => rfl
  | ok a => cases Slot.ofIndex upper.toNat <;> rfl

theorem bounded_parse (lower upper : Slot) :
    Bounded lower upper (parse (boundsText lower upper)) := by
  rw [parse_boundsText]
  refine bounded_check fun hu slot => ?_
  rw [mem_ofIntervals (List.forall_mem_singleton.mpr hu)]
  unfold Covers
  simp only [List.mem_singleton, exists_eq_left, Interval.mem_def]

/-- The ways to give two bounds: as two numbers, as an interval, and as a text. -/
def boundedWays (lower upper : Slot) : List (Except Refusal SlotSet) :=
  [ofBounds lower upper, ofInterval ⟨lower, upper⟩, parse (boundsText lower upper)]

theorem bounded_of_mem {lower upper : Slot} {r : Except Refusal SlotSet}
    (hr : r ∈ boundedWays lower upper) : Bounded lower upper r := by
  unfold boundedWays at hr
  simp only [List.mem_cons, List.not_mem_nil, or_false] at hr
  rcases hr with rfl | rfl | rfl
  · exact bounded_ofBounds lower upper
  · exact bounded_ofBounds lower upper
  · exact bounded_parse lower upper

theorem length_toList_interval (lower upper : Slot) : (Interval.toList ⟨lower, upper⟩).length =
    if lower ≤ upper then upper.toNat - lower.toNat + 1 else 0 := by
  unfold Interval.toList
  rw [List.length_map, List.length_range']
  simp only [UInt16.le_iff_toNat_le]
  split <;> omega

theorem nodup_toList_interval (lower upper : Slot) : (Interval.toList ⟨lower, upper⟩).Nodup :=
  (Interval.ascending_toList ⟨lower, upper⟩).imp UInt16.ne_of_lt

theorem size_eq_of_between {s : SlotSet} {lower upper : Slot}
    (h : ∀ slot, slot ∈ s ↔ lower ≤ slot ∧ slot ≤ upper) :
    s.size = if lower ≤ upper then upper.toNat - lower.toNat + 1 else 0 := by
  rw [← length_toList_interval]
  exact size_eq_length (nodup_toList_interval lower upper) fun slot =>
    Interval.mem_toList.trans (h slot).symm

/-! ## Agreement -/

/-- A list is refused if a slot lies outside of the slot space, with the first such slot. Else the
members are its elements, and the same set comes from the joined bits of the slots and from their
numbers in a text, in any order and with any repetitions. Two bounds are refused alike in all ways
to give them, the lower one first, and else all ways give the set of the slots between them. -/
theorem constructions_agree :
    (∀ slots : List Slot,
      ((∃ e, ofList slots = .error e) ↔ ∃ a ∈ slots, 16384 ≤ a.toNat) ∧
      (∀ e, ofList slots = .error e ↔ ∃ before a after, slots = before ++ a :: after ∧
        (∀ b ∈ before, b.toNat < 16384) ∧ 16384 ≤ a.toNat ∧ e = .slotOutOfRange a.toNat) ∧
      ((∀ a ∈ slots, a.toNat < 16384) → ∃ s, ofList slots = .ok s ∧
        (∀ slot, s.contains slot = true ↔ slot ∈ slots) ∧
        (∃ w, ofWords (orWords slots) = .ok w ∧ (s == w) = true) ∧
        ∀ (listed : List Slot) (text : String), (∀ slot, slot ∈ listed ↔ slot ∈ slots) →
          Lists listed text → ∃ p, parse text = .ok p ∧ (s == p) = true)) ∧
    ∀ lower upper : Slot,
      (16384 ≤ lower.toNat →
        ∀ r ∈ boundedWays lower upper, r = .error (.slotOutOfRange lower.toNat)) ∧
      (lower.toNat < 16384 → 16384 ≤ upper.toNat →
        ∀ r ∈ boundedWays lower upper, r = .error (.slotOutOfRange upper.toNat)) ∧
      (lower.toNat < 16384 → upper.toNat < 16384 →
        ∃ s, ofList (Interval.toList ⟨lower, upper⟩) = .ok s ∧
          ∀ r ∈ boundedWays lower upper, ∃ a, r = .ok a ∧ (a == s) = true ∧
            (∀ slot, a.contains slot = true ↔ lower ≤ slot ∧ slot ≤ upper) ∧
            a.size = if lower ≤ upper then upper.toNat - lower.toNat + 1 else 0) := by
  refine ⟨fun slots => ⟨?_, fun e => ?_, fun hin => ?_⟩, fun lower upper => ⟨?_, ?_, ?_⟩⟩
  · rw [exists_ofList_eq_error_iff]
    exact exists_congr fun a => and_congr_right fun _ => not_lt
  · rw [ofList_eq_error_iff]
    simp only [Slot.InSpace, Slot.count, not_lt]
  · obtain ⟨s, hs, hmem⟩ := exists_ofList_eq_ok hin
    obtain ⟨w, hw, hmemw⟩ := exists_ofWords_orWords hin
    refine ⟨s, hs, hmem, ⟨w, hw, beq_iff_mem.mpr fun slot => ?_⟩, fun listed text hl ht => ?_⟩
    · rw [hmem, hmemw]
    · obtain ⟨p, hp, hmemp⟩ := exists_parse_of_lists (fun a ha => hin a ((hl a).mp ha)) ht
      refine ⟨p, hp, beq_iff_mem.mpr fun slot => ?_⟩
      rw [hmem, hmemp, hl]
  · exact fun hl r hr => (bounded_of_mem hr).lower_refused hl
  · exact fun hl hu r hr => (bounded_of_mem hr).upper_refused hl hu
  · intro hl hu
    have hin : ∀ a ∈ Interval.toList ⟨lower, upper⟩, a.InSpace := fun a ha =>
      (UInt16.le_iff_toNat_le.mp (Interval.mem_toList.mp ha).2).trans_lt hu
    obtain ⟨s, hs, hmem⟩ := exists_ofList_eq_ok hin
    refine ⟨s, hs, fun r hr => ?_⟩
    obtain ⟨a, ha, hbetween⟩ := (bounded_of_mem hr).between hl hu
    have hlist : ∀ slot, slot ∈ Interval.toList ⟨lower, upper⟩ ↔ slot ∈ a := fun slot => by
      rw [hbetween, Interval.mem_toList, Interval.mem_def]
    refine ⟨a, ha, beq_iff_mem.mpr fun slot => ?_, hbetween, ?_⟩
    · rw [← hlist, hmem]
    · rw [size_eq_length (nodup_toList_interval lower upper) hlist, length_toList_interval]

theorem constructions_agree_of_repeated : ∃ s p, ofList [5, 3, 5] = .ok s ∧ parse "3,5" = .ok p ∧
    (s == p) = true := by
  have hin : ∀ a ∈ ([5, 3, 5] : List Slot), a.toNat < 16384 := by
    rw [List.forall_mem_cons, List.forall_mem_cons, List.forall_mem_singleton]
    exact ⟨by decide, by decide, by decide⟩
  have hmem : ∀ slot, slot ∈ ([3, 5] : List Slot) ↔ slot ∈ ([5, 3, 5] : List Slot) := by
    intro slot
    refine ⟨List.mem_cons_of_mem 5, fun h => (List.mem_cons.mp h).elim ?_ id⟩
    rintro rfl
    exact List.mem_cons_of_mem 3 List.mem_cons_self
  have hsep : ∀ c ∈ [','], IsSeparator c := List.forall_mem_singleton.mpr (.inl rfl)
  have hlists : Lists [3, 5] "3,5" := .cons (List.cons_ne_nil _ _) hsep (.last ['5'])
  obtain ⟨s, hs, -, -, htext⟩ := (constructions_agree.1 [5, 3, 5]).2.2 hin
  obtain ⟨p, hp, hsp⟩ := htext [3, 5] "3,5" hmem hlists
  exact ⟨s, p, hs, hp, hsp⟩

end ClusterTopology.SlotSet
