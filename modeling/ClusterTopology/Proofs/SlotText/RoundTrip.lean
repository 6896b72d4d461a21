import ClusterTopology.Proofs.SlotText.Parse

/-!
# Written texts are read back

Words with separators between them are the tokens of the text (`SlotText.tokens_of_joined`), and the
written form of an interval is a word that is read back (`SlotText.read_chars`). So reading the text
of a set gives a set with the same slots (`SlotSet.parse_text`), and it is a normal form: two texts
are rewritten alike exactly when they denote the same slots (`SlotSet.text_normal_form`).
-/

namespace ClusterTopology

namespace SlotText

/-! ## Words between separators -/

/-- The words in order, with one or more separators after each but the last. -/
inductive Joined : List (List Char) → List Char → Prop
  | nil : Joined [] []
  | last (word : List Char) : Joined [word] word
  | cons {word gap cs : List Char} {words : List (List Char)} (hgap : gap ≠ [])
      (hsep : ∀ c ∈ gap, IsSeparator c) (hrest : Joined words cs) :
      Joined (word :: words) (word ++ gap ++ cs)

/-- A token: not empty, and without separators. -/
def IsWord (word : List Char) : Prop := word ≠ [] ∧ ∀ c ∈ word, SlotSet.isSeparator c = false

theorem IsWord.tokens {word : List Char} (h : IsWord word) : SlotSet.tokens word = [word] := by
  unfold SlotSet.tokens
  rw [List.splitOnP_eq_singleton h.2, List.filter_singleton, List.isEmpty_eq_false_iff.mpr h.1]
  rfl

theorem IsWord.tokens_append {word rest : List Char} {c : Char} (h : IsWord word)
    (hc : IsSeparator c) : SlotSet.tokens (word ++ c :: rest) = word :: SlotSet.tokens rest := by
  unfold SlotSet.tokens
  rw [List.splitOnP_append_cons_of_forall_mem h.2 c (isSeparator_iff.mpr hc), List.filter_cons,
    if_pos (by rw [List.isEmpty_eq_false_iff.mpr h.1]; rfl)]

theorem tokens_separators {gap rest : List Char} (h : ∀ c ∈ gap, IsSeparator c) :
    SlotSet.tokens (gap ++ rest) = SlotSet.tokens rest := by
  induction gap with
  | nil => rfl
  | cons c gap ih =>
    obtain ⟨hc, hgap⟩ := List.forall_mem_cons.mp h
    rw [← ih hgap]
    unfold SlotSet.tokens
    rw [List.cons_append, List.splitOnP_cons_eq_if_modifyHead, if_pos (isSeparator_iff.mpr hc)]
    rfl

/-- Joined words are the tokens of the text. -/
theorem tokens_of_joined {words : List (List Char)} {cs : List Char} (h : Joined words cs)
    (hwords : ∀ word ∈ words, IsWord word) : SlotSet.tokens cs = words := by
  induction h with
  | nil => rfl
  | last word => exact (hwords word List.mem_cons_self).tokens
  | @cons word gap cs words hgap hsep hrest ih =>
    obtain ⟨hword, hwords⟩ := List.forall_mem_cons.mp hwords
    obtain ⟨c, gap, rfl⟩ := List.exists_cons_of_ne_nil hgap
    obtain ⟨hc, hsep⟩ := List.forall_mem_cons.mp hsep
    rw [List.append_assoc, List.cons_append, hword.tokens_append hc, tokens_separators hsep,
      ih hwords]

theorem isSeparator_space : IsSeparator ' ' := isSeparator_iff.mp (by decide)

theorem joined_intercalate (words : List (List Char)) : Joined words ([' '].intercalate words) := by
  induction words with
  | nil => exact .nil
  | cons word words ih =>
    cases words with
    | nil =>
      rw [List.intercalate_singleton]
      exact .last word
    | cons next words =>
      rw [List.intercalate_cons_cons]
      exact .cons (List.cons_ne_nil _ _) (List.forall_mem_singleton.mpr isSeparator_space) ih

/-! ## Written numbers and intervals -/

theorem isSeparator_of_isDigit {c : Char} (h : c.isDigit = true) :
    SlotSet.isSeparator c = false := by
  rw [← Bool.not_eq_true, isSeparator_iff]
  rw [Text.isDigit_iff] at h
  rintro (rfl | hw)
  · exact absurd h.1 (by decide)
  · have h0 : 48 ≤ c.toNat := h.1
    have h9 : c.toNat ≤ 57 := h.2
    unfold Text.WhiteSpace Text.whiteSpace at hw
    simp only [List.mem_cons, List.not_mem_nil, or_false] at hw
    omega

theorem isWord_decimal (n : Nat) : IsWord (Text.decimal n) :=
  ⟨Text.decimal_ne_nil n, fun _ hc => isSeparator_of_isDigit (Text.isDigit_of_mem_decimal hc)⟩

theorem dash_not_mem_decimal (n : Nat) : '-' ∉ Text.decimal n := fun h =>
  absurd (Text.isDigit_of_mem_decimal h) (by decide)

/-- Two numbers around a dash are a word. -/
theorem isWord_pair (m n : Nat) : IsWord (Text.decimal m ++ '-' :: Text.decimal n) := by
  refine ⟨List.append_ne_nil_of_left_ne_nil (Text.decimal_ne_nil m) _, fun c hc => ?_⟩
  rcases List.mem_append.mp hc with hc | hc
  · exact (isWord_decimal m).2 c hc
  · rcases List.mem_cons.mp hc with rfl | hc
    · decide
    · exact (isWord_decimal n).2 c hc

theorem isWord_chars (i : Interval) : IsWord i.chars := by
  unfold Interval.chars
  split
  · exact isWord_decimal _
  · exact isWord_pair _ _

/-- The number of any slot is read back, or refused if it lies outside of the slot space. -/
theorem read_decimal (token : List Char) (slot : Slot) :
    Slot.read token (Text.decimal slot.toNat) = Slot.ofIndex slot.toNat := by
  unfold Slot.read
  rw [Text.number?_decimal (slot.toNat_lt.trans (by decide))]

theorem ofIndex_toNat {slot : Slot} (h : slot.InSpace) : Slot.ofIndex slot.toNat = .ok slot := by
  rw [Slot.ofIndex_of_lt h]
  exact congrArg Except.ok (UInt16.ofNat_toNat)

/-- A pair of written numbers is read as two slots, the lower one first. -/
theorem read_pair (lower upper : Slot) :
    Interval.read (Text.decimal lower.toNat ++ '-' :: Text.decimal upper.toNat) =
      do return ⟨← Slot.ofIndex lower.toNat, ← Slot.ofIndex upper.toNat⟩ := by
  rw [read_bounds (Text.decimal_ne_nil _) (dash_not_mem_decimal _) (Text.decimal_ne_nil _),
    read_decimal, read_decimal]

/-- The written form of an interval of the slot space is read back. -/
theorem read_chars {i : Interval} (hl : i.lower.InSpace) (hu : i.upper.InSpace) :
    Interval.read i.chars = .ok i := by
  unfold Interval.chars
  by_cases h : i.lower = i.upper
  · rw [if_pos h, read_of_not_mem (dash_not_mem_decimal _), read_decimal, ofIndex_toNat hl]
    show Except.ok (⟨i.lower, i.lower⟩ : Interval) = .ok ⟨i.lower, i.upper⟩
    rw [← h]
  · rw [if_neg h, read_pair, ofIndex_toNat hl, ofIndex_toNat hu]
    rfl

theorem reads_map_chars {intervals : List Interval}
    (h : ∀ i ∈ intervals, i.lower.InSpace ∧ i.upper.InSpace) :
    List.Forall₂ (fun token i => Interval.read token = .ok i) (intervals.map Interval.chars)
      intervals := by
  rw [List.forall₂_map_left_iff, List.forall₂_same]
  exact fun i hi => read_chars (h i hi).1 (h i hi).2

end SlotText

namespace SlotSet

open SlotText

/-! ## The text of a set -/

theorem tokens_text (s : SlotSet) : tokens s.text.toList = s.runs.map Interval.chars := by
  unfold text chars
  rw [String.toList_ofList]
  refine tokens_of_joined (joined_intercalate _) fun word hword => ?_
  obtain ⟨i, -, rfl⟩ := List.mem_map.mp hword
  exact isWord_chars i

/-- The text of a set is read back run by run. -/
theorem parse_text (s : SlotSet) : parse s.text = .ok (ofIntervals s.runs) := by
  refine parse_eq_ok_iff.mpr ⟨s.runs, rfl, ?_⟩
  rw [tokens_text]
  refine reads_map_chars fun i hi => ?_
  obtain ⟨hl, hu⟩ := mem_of_mem_runs hi
  exact ⟨inSpace_of_mem hl, inSpace_of_mem hu⟩

theorem mem_ofIntervals_runs {s : SlotSet} {slot : Slot} :
    slot ∈ ofIntervals s.runs ↔ slot ∈ s := by
  rw [mem_ofIntervals fun i hi => inSpace_of_mem (mem_of_mem_runs hi).2, covers_runs]

/-- Two sets are written alike exactly when they have the same members. -/
theorem text_eq_iff {a b : SlotSet} : a.text = b.text ↔ ∀ slot, slot ∈ a ↔ slot ∈ b := by
  constructor
  · intro h slot
    have hp := a.parse_text
    rw [h, b.parse_text] at hp
    rw [← mem_ofIntervals_runs, ← Except.ok.inj hp, mem_ofIntervals_runs]
  · intro h
    unfold text chars
    rw [runs_eq_iff.mpr h]

/-- Reading the text of any set succeeds and gives an equal set. The text is a normal form: sets
that are read from two texts are written alike exactly when the texts denote the same slots, and
their text is not changed by reading it and writing it again. -/
theorem text_normal_form :
    (∀ s : SlotSet, ∃ r, parse s.text = .ok r ∧ (r == s) = true ∧
        ∀ slot, r.contains slot = s.contains slot) ∧
      ∀ (t u : String) (a b : SlotSet), parse t = .ok a → parse u = .ok b →
        (a.text = b.text ↔ ∀ slot : Slot, Denotes t slot.toNat ↔ Denotes u slot.toNat) ∧
          ∃ r, parse a.text = .ok r ∧ r.text = a.text := by
  refine ⟨fun s => ?_, fun t u a b ha hb => ⟨?_, ?_⟩⟩
  · have heq : (ofIntervals s.runs == s) = true := beq_iff_mem.mpr fun _ => mem_ofIntervals_runs
    exact ⟨_, s.parse_text, heq, beq_iff_contains.mp heq⟩
  · rw [text_eq_iff]
    exact forall_congr' fun slot => iff_congr (mem_iff_denotes ha slot) (mem_iff_denotes hb slot)
  · exact ⟨_, a.parse_text, text_eq_iff.mpr fun _ => mem_ofIntervals_runs⟩

theorem text_normal_form_of_overlapping : ∃ a b, parse "5 0-1,1" = .ok a ∧ parse "1,5 0" = .ok b ∧
    (a.text = b.text ↔ ∀ slot : Slot, Denotes "5 0-1,1" slot.toNat ↔ Denotes "1,5 0" slot.toNat) :=
  ⟨_, _, rfl, rfl, (text_normal_form.2 _ _ _ _ rfl rfl).1⟩

end SlotSet

end ClusterTopology
