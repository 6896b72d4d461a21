import ClusterTopology.Proofs.Construction
import ClusterTopology.SlotSet.Source

/-!
# Constructions with every access checked

`SlotSet` skips a word that is not there, and its type bounds the number of words. An execution does
neither: it works on bare words, takes as many as it is asked for, and stops at a word that is
missing (`Stop`). `Source.execute` runs the constructions in this way, and `Source.execute_eq` says
that they never stop but to refuse, with the same words in the end.
-/

namespace ClusterTopology

/-- Why an execution ends early: the input is refused, or something goes wrong. -/
inductive Stop where
  | refused (reason : Refusal)
  /-- The word at `index` is not among the words. -/
  | missingWord (index size : Nat)
  /-- A difference is below zero. -/
  | underflow
  /-- A number does not fit into 16 bits. -/
  | overflow
deriving DecidableEq, Repr

namespace Execution

variable {α : Type}

/-- The execution that only refuses. -/
def check (r : Except Refusal α) : Except Stop α := r.mapError .refused

theorem check_ok (a : α) : check (.ok a) = .ok a := rfl

/-! ## Words -/

/-- As many empty words as it takes to cover the first `capacity` slots. -/
def allocate (capacity : Nat) : Array UInt64 :=
  .replicate ((capacity + Word.bits - 1) / Word.bits) 0

/-- Sets the bit of a slot in its word. -/
def insert (words : Array UInt64) (slot : Slot) : Except Stop (Array UInt64) :=
  if h : slot.toNat / Word.bits < words.size then
    .ok (words.set (slot.toNat / Word.bits)
      (Word.setBit words[slot.toNat / Word.bits] (slot.toNat % Word.bits)))
  else .error (.missingWord (slot.toNat / Word.bits) words.size)

/-- Sets the bits of all slots of the list. -/
def insertAll (words : Array UInt64) (slots : List Slot) : Except Stop (Array UInt64) :=
  slots.foldlM insert words

/-- The first `n` words. -/
def slice (words : Array UInt64) (n : Nat) : Except Stop (Array UInt64) :=
  if n ≤ words.size then .ok (words.take n) else .error (.missingWord n words.size)

/-! ## Constructions -/

/-- The slots between two bounds, in words that reach up to the upper one. -/
def ofBounds (lower upper : Slot) : Except Stop (Array UInt64) := do
  let lower ← check (Slot.ofIndex lower.toNat)
  let upper ← check (Slot.ofIndex upper.toNat)
  insertAll (allocate (upper.toNat + 1)) (Interval.toList ⟨lower, upper⟩)

/-- The slots of a list. Each is checked right before its bit is set. -/
def ofList (slots : List Slot) : Except Stop (Array UInt64) :=
  if slots.isEmpty then .ok #[]
  else slots.foldlM (fun words slot => do insert words (← check (Slot.ofIndex slot.toNat)))
    (allocate Slot.count)

/-- The words themselves, cut off at the end of the slot space. -/
def ofWords (words : Array UInt64) : Except Stop (Array UInt64) :=
  match ((words.toList.drop wordCount).zipIdx wordCount).find? (·.1 != 0) with
  | some (word, i) => .error (.refused (.slotOutOfRange (i * Word.bits + Word.lowest word)))
  | none => slice words (min words.size wordCount)

/-- The slots of a text. The bits of a token are set before the next token is read. -/
def parse (text : String) : Except Stop (Array UInt64) :=
  (SlotSet.tokens text.toList).foldlM
    (fun words token => do insertAll words (← check (Interval.read token)).toList)
    (allocate Slot.count)

end Execution

namespace Source

/-- The words of the set, with every access checked. -/
def execute : Source → Except Stop (Array UInt64)
  | nothing => .ok #[]
  | bounds lower upper => Execution.ofBounds lower upper
  | interval i => Execution.ofBounds i.lower i.upper
  | list slots => Execution.ofList slots
  | bitmap words => Execution.ofWords words
  | text cs => Execution.parse cs

end Source

namespace Execution

/-! ## Steps that do not stop -/

/-- The words of a blank set are as many as are asked for, within the slot space. -/
theorem allocate_eq {capacity : Nat} (h : capacity ≤ Slot.count) :
    allocate capacity = (SlotSet.blank capacity).words := by
  have hle : (capacity + Word.bits - 1) / Word.bits ≤ wordCount := by
    simp only [Word.bits, wordCount, Slot.count] at *
    omega
  show Array.replicate _ _ = Array.replicate _ _
  rw [Nat.min_eq_left hle]

theorem insert_eq {s : SlotSet} {slot : Slot} (h : slot.toNat / Word.bits < s.words.size) :
    insert s.words slot = .ok (s.insert slot).words := by
  unfold insert
  rw [dif_pos h]
  refine congrArg Except.ok (Array.ext_getElem? fun i => ?_)
  show _ = (s.words.modify _ _)[i]?
  rw [Array.getElem?_set, Array.getElem?_modify]
  by_cases hi : slot.toNat / Word.bits = i
  · rw [if_pos hi, if_pos hi, ← hi, Array.getElem?_eq_getElem h, Option.map_some]
  · rw [if_neg hi, if_neg hi]

theorem insertAll_eq {s : SlotSet} {slots : List Slot}
    (h : ∀ a ∈ slots, a.toNat / Word.bits < s.words.size) :
    insertAll s.words slots = .ok (s.insertAll slots).words := by
  unfold insertAll
  induction slots generalizing s with
  | nil => rfl
  | cons a slots ih =>
    obtain ⟨ha, hslots⟩ := List.forall_mem_cons.mp h
    rw [List.foldlM_cons, insert_eq ha]
    exact ih fun b hb => by rw [SlotSet.size_words_insert]; exact hslots b hb

/-! A slot beyond the words does stop the execution. -/

example : insertAll (allocate 64) [64] = .error (.missingWord 1 1) := rfl

/-- All words are there for slots up to one that has its word. -/
theorem insertAll_toList_eq {s : SlotSet} {i : Interval}
    (h : i.upper.toNat / Word.bits < s.words.size) :
    insertAll s.words i.toList = .ok (s.insertAll i.toList).words := by
  refine insertAll_eq fun a ha => ?_
  have hle := (Interval.mem_iff_toNat.mp (Interval.mem_toList.mp ha)).2
  exact (Nat.div_le_div_right hle).trans_lt h

/-! ## Each construction -/

theorem ofBounds_eq (lower upper : Slot) :
    ofBounds lower upper = check ((SlotSet.ofBounds lower upper).map SlotSet.words) := by
  unfold ofBounds SlotSet.ofBounds
  by_cases hl : lower.toNat < 16384
  · by_cases hu : upper.toNat < 16384
    · have hlast : upper.toNat / Word.bits < (SlotSet.blank (upper.toNat + 1)).words.size := by
        rw [← allocate_eq (show upper.toNat + 1 ≤ Slot.count from hu)]
        unfold allocate
        rw [Array.size_replicate]
        simp only [Word.bits]
        omega
      simp only [SlotText.ofIndex_toNat hl, SlotText.ofIndex_toNat hu, check_ok]
      show insertAll (allocate _) _ = _
      rw [allocate_eq (show upper.toNat + 1 ≤ Slot.count from hu)]
      exact insertAll_toList_eq (i := ⟨lower, upper⟩) hlast
    · rw [SlotText.ofIndex_toNat hl, Slot.ofIndex_of_le (not_lt.mp hu)]
      rfl
  · rw [Slot.ofIndex_of_le (not_lt.mp hl)]
    rfl

/-- The slots before the first one outside of the slot space all have their word. -/
theorem foldlM_insert_eq {s : SlotSet} (hs : s.words.size = wordCount) (slots : List Slot) :
    slots.foldlM (fun words slot => do insert words (← check (Slot.ofIndex slot.toNat))) s.words =
      match slots.find? (fun slot => ¬slot.InSpace) with
      | some slot => .error (.refused (.slotOutOfRange slot.toNat))
      | none => .ok (s.insertAll slots).words := by
  induction slots generalizing s with
  | nil => rfl
  | cons a slots ih =>
    rw [List.foldlM_cons]
    by_cases ha : a.InSpace
    · have hword : a.toNat / Word.bits < s.words.size := by
        rw [hs]
        exact SlotSet.div_bits_lt ha
      rw [SlotText.ofIndex_toNat ha, check_ok, List.find?_cons_of_neg (by simpa using ha)]
      show (insert s.words a >>= _) = _
      rw [insert_eq hword]
      exact ih (by rw [SlotSet.size_words_insert, hs])
    · rw [Slot.ofIndex_of_le (not_lt.mp ha), List.find?_cons_of_pos (by simpa using ha)]
      rfl

theorem ofList_eq (slots : List Slot) :
    ofList slots = check ((SlotSet.ofList slots).map SlotSet.words) := by
  unfold ofList SlotSet.ofList
  by_cases hnil : slots.isEmpty
  · rw [if_pos hnil, if_pos hnil]
    rfl
  · rw [if_neg hnil, if_neg hnil, allocate_eq le_rfl,
      foldlM_insert_eq SlotSet.size_words_blank_count]
    cases slots.find? (fun slot => ¬slot.InSpace) <;> rfl

theorem ofWords_eq (words : Array UInt64) :
    ofWords words = check ((SlotSet.ofWords words).map SlotSet.words) := by
  have htake : words.take (min words.size wordCount) = words.take wordCount := by
    apply Array.ext_getElem?
    intro i
    simp only [Array.take_eq_extract, Array.getElem?_extract]
    congr 1
    simp [and_comm]
  unfold ofWords SlotSet.ofWords slice
  rw [if_pos (Nat.min_le_left ..), htake]
  cases ((words.toList.drop wordCount).zipIdx wordCount).find? (·.1 != 0) <;> rfl

/-- A token that is read has both ends in the slot space, so the words of its slots are there. -/
theorem foldlM_insertAll_eq {s : SlotSet} (hs : s.words.size = wordCount)
    (tokens : List (List Char)) :
    tokens.foldlM (fun words token => do insertAll words (← check (Interval.read token)).toList)
        s.words =
      check ((tokens.mapM Interval.read).map fun intervals =>
        (intervals.foldl (fun s i => s.insertAll i.toList) s).words) := by
  induction tokens generalizing s with
  | nil => rfl
  | cons token tokens ih =>
    rw [List.foldlM_cons]
    cases h : Interval.read token with
    | error e =>
      rw [mapM_cons_error h]
      rfl
    | ok i =>
      have hlast : i.upper.toNat / Word.bits < s.words.size := by
        rw [hs]
        exact SlotSet.div_bits_lt (SlotText.inSpace_of_read h).2
      rw [mapM_cons_ok h, check_ok]
      show (insertAll s.words i.toList >>= _) = _
      rw [insertAll_toList_eq hlast]
      show tokens.foldlM _ (s.insertAll i.toList).words = _
      rw [ih (by rw [SlotSet.size_words_insertAll, hs])]
      cases tokens.mapM Interval.read <;> rfl

theorem parse_eq (text : String) :
    parse text = check ((SlotSet.parse text).map SlotSet.words) := by
  unfold parse SlotSet.parse
  rw [allocate_eq le_rfl, foldlM_insertAll_eq SlotSet.size_words_blank_count]
  cases (SlotSet.tokens text.toList).mapM Interval.read <;> rfl

end Execution

/-- A construction never stops but to refuse, and comes to the words of the set that is made. -/
theorem Source.execute_eq (source : Source) :
    source.execute = Execution.check (source.build.map SlotSet.words) := by
  cases source with
  | nothing => rfl
  | bounds lower upper => exact Execution.ofBounds_eq lower upper
  | interval i => exact Execution.ofBounds_eq i.lower i.upper
  | list slots => exact Execution.ofList_eq slots
  | bitmap words => exact Execution.ofWords_eq words
  | text cs => exact Execution.parse_eq cs

end ClusterTopology
