import ClusterTopology.Proofs.Except
import ClusterTopology.Proofs.SlotText.Grammar

/-!
# Reading a slot text

`SlotSet.parse` follows the grammar. It fails exactly if some token has an error, and then with the
first one in the order of the text; else it gives the set of all slots that the text denotes
(`SlotSet.parse_follows_grammar`).
-/

namespace ClusterTopology

namespace SlotText

/-! ## Outcomes of reads -/

theorem outcome_ok_iff {token : List Char} {m n : Nat} :
    TokenOutcome token (.ok (m, n)) ↔
      ∃ i, Interval.read token = .ok i ∧ i.lower.toNat = m ∧ i.upper.toNat = n := by
  rw [tokenOutcome_iff]
  cases Interval.read token with
  | error e => exact ⟨nofun, nofun⟩
  | ok i =>
    show Except.ok (m, n) = .ok (bounds i) ↔ _
    rw [Except.ok.injEq, bounds, Prod.mk.injEq]
    constructor
    · rintro ⟨rfl, rfl⟩
      exact ⟨i, rfl, rfl, rfl⟩
    · rintro ⟨j, ⟨⟩, rfl, rfl⟩
      exact ⟨rfl, rfl⟩

theorem outcome_error_iff {token : List Char} {e : Refusal} :
    TokenOutcome token (.error e) ↔ Interval.read token = .error e := by
  rw [tokenOutcome_iff]
  cases Interval.read token with
  | error e' =>
    show Except.error e = .error e' ↔ _
    rw [Except.error.injEq, Except.error.injEq, eq_comm]
  | ok i => exact ⟨nofun, nofun⟩

theorem exists_outcome_ok_iff {token : List Char} :
    (∃ r, TokenOutcome token (.ok r)) ↔ ∃ i, Interval.read token = .ok i := by
  constructor
  · rintro ⟨⟨m, n⟩, h⟩
    obtain ⟨i, hi, -⟩ := outcome_ok_iff.mp h
    exact ⟨i, hi⟩
  · rintro ⟨i, hi⟩
    exact ⟨(i.lower.toNat, i.upper.toNat), outcome_ok_iff.mpr ⟨i, hi, rfl, rfl⟩⟩

/-- Both ends of an interval that can be read lie in the slot space. -/
theorem inSpace_of_read {token : List Char} {i : Interval} (h : Interval.read token = .ok i) :
    i.lower.InSpace ∧ i.upper.InSpace :=
  (outcome_ok_iff.mpr ⟨i, h, rfl, rfl⟩).lt

theorem inSpace_of_reads {tokens : List (List Char)} {intervals : List Interval}
    (h : List.Forall₂ (fun token i => Interval.read token = .ok i) tokens intervals) :
    ∀ i ∈ intervals, i.lower.InSpace ∧ i.upper.InSpace := by
  induction h with
  | nil => exact fun i hi => absurd hi List.not_mem_nil
  | cons hi _ ih => exact List.forall_mem_cons.mpr ⟨inSpace_of_read hi, ih⟩

/-- Reading all tokens gives intervals that cover exactly the numbers in the tokens. -/
theorem inTokens_iff_covers {tokens : List (List Char)} {intervals : List Interval}
    (h : List.Forall₂ (fun token i => Interval.read token = .ok i) tokens intervals) (slot : Slot) :
    InTokens tokens slot.toNat ↔ Covers intervals slot := by
  induction h with
  | nil =>
    refine iff_of_false ?_ (not_covers_nil slot)
    rintro ⟨token, htoken, -⟩
    exact List.not_mem_nil htoken
  | @cons token i tokens intervals hi _ ih =>
    rw [covers_cons, ← ih, Interval.mem_iff_toNat]
    unfold InTokens
    simp only [List.mem_cons, exists_eq_or_imp]
    refine or_congr_left ?_
    constructor
    · rintro ⟨m, n, hmn, hle⟩
      obtain ⟨j, hj, rfl, rfl⟩ := outcome_ok_iff.mp hmn
      cases hi.symm.trans hj
      exact hle
    · intro hle
      exact ⟨_, _, outcome_ok_iff.mpr ⟨i, hi, rfl, rfl⟩, hle⟩

end SlotText

namespace SlotSet

open SlotText

/-! ## Reading a whole text -/

theorem parse_eq_ok_iff {text : String} {s : SlotSet} :
    parse text = .ok s ↔ ∃ intervals, s = ofIntervals intervals ∧
      List.Forall₂ (fun token i => Interval.read token = .ok i) (tokens text.toList) intervals := by
  unfold parse
  simp only [← mapM_eq_ok_iff]
  cases (tokens text.toList).mapM Interval.read with
  | error e => exact ⟨nofun, nofun⟩
  | ok intervals =>
    constructor
    · rintro ⟨⟩
      exact ⟨intervals, rfl, rfl⟩
    · rintro ⟨_, rfl, ⟨⟩⟩
      rfl

theorem parse_eq_error_iff {text : String} {e : Refusal} :
    parse text = .error e ↔ ∃ before token after, tokens text.toList = before ++ token :: after ∧
      (∀ t ∈ before, ∃ i, Interval.read t = .ok i) ∧ Interval.read token = .error e := by
  rw [← mapM_eq_error_iff]
  unfold parse
  cases (tokens text.toList).mapM Interval.read with
  | error e' =>
    show Except.error e' = .error e ↔ _
    rw [Except.error.injEq, Except.error.injEq]
  | ok intervals => exact ⟨nofun, nofun⟩

/-- A set that is read has exactly the slots in the tokens of the text. -/
theorem mem_of_parse {text : String} {s : SlotSet} (h : parse text = .ok s) (slot : Slot) :
    slot ∈ s ↔ InTokens (tokens text.toList) slot.toNat := by
  obtain ⟨intervals, rfl, hread⟩ := parse_eq_ok_iff.mp h
  rw [inTokens_iff_covers hread, mem_ofIntervals fun i hi => (inSpace_of_reads hread i hi).2]

theorem mem_iff_denotes {text : String} {s : SlotSet} (h : parse text = .ok s) (slot : Slot) :
    slot ∈ s ↔ Denotes text slot.toNat := by
  unfold Denotes
  simp only [isTokens_iff, exists_eq_left]
  exact mem_of_parse h slot

/-- A text is read exactly if each of its tokens is. -/
theorem exists_parse_eq_ok_iff {text : String} :
    (∃ s, parse text = .ok s) ↔ ∀ token ∈ tokens text.toList, ∃ i, Interval.read token = .ok i := by
  rw [← exists_mapM_eq_ok_iff]
  simp only [parse_eq_ok_iff, mapM_eq_ok_iff]
  exact ⟨fun ⟨_, intervals, _, h⟩ => ⟨intervals, h⟩, fun ⟨_, h⟩ => ⟨_, _, rfl, h⟩⟩

/-- Reading follows the grammar. There is one way to cut a text into tokens, and one outcome of each
token. The text is read exactly if no token has an error, and then the slots of the set are those
between the bounds of a token. Else the error is that of the first token that has one. -/
theorem parse_follows_grammar (text : String) :
    ∃ tokens, (∀ ts, IsTokens text.toList ts ↔ ts = tokens) ∧
      (∀ token, ∃! r, TokenOutcome token r) ∧
      ((∃ s, parse text = .ok s) ↔ ∀ token ∈ tokens, ∀ e, ¬TokenOutcome token (.error e)) ∧
      (∀ s, parse text = .ok s → ∀ slot, s.contains slot = true ↔ InTokens tokens slot.toNat) ∧
      (tokens = [] → ∃ s, parse text = .ok s ∧ s.isEmpty = true) ∧
      ∀ e, parse text = .error e ↔ ∃ before token after, tokens = before ++ token :: after ∧
        (∀ t ∈ before, ∃ r, TokenOutcome t (.ok r)) ∧ TokenOutcome token (.error e) := by
  refine ⟨tokens text.toList, fun ts => isTokens_iff,
    fun token => ⟨_, tokenOutcome_read token, fun r hr => hr.eq_read⟩, ?_, ?_, ?_, fun e => ?_⟩
  · rw [exists_parse_eq_ok_iff]
    refine forall₂_congr fun token _ => ?_
    simp only [outcome_error_iff]
    cases Interval.read token with
    | ok i => exact iff_of_true ⟨i, rfl⟩ nofun
    | error e => exact iff_of_false nofun fun h => h e rfl
  · exact fun s hs slot => mem_of_parse hs slot
  · intro hnil
    have hread : ∀ token ∈ tokens text.toList, ∃ i, Interval.read token = .ok i := by
      rw [hnil]
      exact List.forall_mem_nil _
    obtain ⟨s, hs⟩ := exists_parse_eq_ok_iff.mpr hread
    refine ⟨s, hs, isEmpty_iff.mpr fun slot hslot => ?_⟩
    obtain ⟨token, htoken, -⟩ := (mem_of_parse hs slot).mp hslot
    rw [hnil] at htoken
    exact List.not_mem_nil htoken
  · simp only [parse_eq_error_iff, exists_outcome_ok_iff, outcome_error_iff]

/-- A pair that has slot 8 and a number with a sign, and a text without tokens. -/
theorem parse_follows_grammar_of_pair :
    (∃ s, parse "7-9, +3" = .ok s ∧ s.contains 8 = true ∧ s.contains 3 = true) ∧
    ∃ s, parse " ," = .ok s ∧ s.isEmpty = true := by
  constructor
  · obtain ⟨ts, htokens, -, -, hmem, -⟩ := parse_follows_grammar "7-9, +3"
    obtain rfl : [['7', '-', '9'], ['+', '3']] = ts := (htokens _).mp (isTokens_iff.mpr (by decide))
    obtain ⟨s, hs⟩ : ∃ s, parse "7-9, +3" = .ok s := ⟨_, rfl⟩
    have hpair : TokenOutcome ['7', '-', '9'] (.ok (7, 9)) :=
      outcome_ok_iff.mpr ⟨⟨7, 9⟩, rfl, rfl, rfl⟩
    have hsigned : TokenOutcome ['+', '3'] (.ok (3, 3)) :=
      outcome_ok_iff.mpr ⟨⟨3, 3⟩, rfl, rfl, rfl⟩
    exact ⟨s, hs, (hmem s hs 8).mpr ⟨_, by decide, 7, 9, hpair, by decide, by decide⟩,
      (hmem s hs 3).mpr ⟨_, by decide, 3, 3, hsigned, by decide, by decide⟩⟩
  · obtain ⟨ts, htokens, -, -, -, hempty, -⟩ := parse_follows_grammar " ,"
    exact hempty ((htokens _).mp (isTokens_iff.mpr (by decide))).symm

end SlotSet

end ClusterTopology
