import ClusterTopology.Proofs.Cut
import ClusterTopology.Proofs.Numeral
import ClusterTopology.Proofs.Runs

/-!
# What a slot text says

The grammar of slot texts, stated on its own: how a text falls into tokens (`IsTokens`), what a
number and a token come to (`NumberOutcome`, `TokenOutcome`), and which numbers a text denotes
(`Denotes`). A text has exactly one list of tokens (`isTokens_iff`), and each token has exactly one
outcome, the one that `Interval.read` finds (`tokenOutcome_iff`).
-/

namespace ClusterTopology

namespace Slot

theorem ofIndex_of_lt {n : Nat} (h : n < 16384) : ofIndex n = .ok n.toUInt16 := if_pos h

theorem ofIndex_of_le {n : Nat} (h : 16384 ≤ n) : ofIndex n = .error (.slotOutOfRange n) :=
  if_neg (not_lt.mpr h)

theorem toNat_toUInt16 {n : Nat} (h : n < 16384) : n.toUInt16.toNat = n :=
  UInt16.toNat_ofNat_of_lt (h.trans (by decide))

end Slot

namespace SlotText

/-! ## The grammar -/

/-- A comma or white space. -/
def IsSeparator (c : Char) : Prop := c = ',' ∨ Text.WhiteSpace c

/-- The pieces of the text that are not empty, in order. -/
def IsTokens (cs : List Char) (tokens : List (List Char)) : Prop :=
  ∃ pieces, Text.Cut IsSeparator cs pieces ∧ tokens = pieces.filter (· ≠ [])

/-- What a number in a token comes to. A text that is no numeral is blamed on the token. -/
inductive NumberOutcome (token cs : List Char) : Except Refusal Nat → Prop
  | slot {n : Nat} (hn : Text.Numeral cs n) (hlt : n < 16384) : NumberOutcome token cs (.ok n)
  | tooLarge {n : Nat} (hn : Text.Numeral cs n) (hle : 16384 ≤ n) :
      NumberOutcome token cs (.error (.slotOutOfRange n))
  | malformed (h : ∀ n, ¬Text.Numeral cs n) :
      NumberOutcome token cs (.error (.malformedInterval (String.ofList token)))

/-- What a token comes to: a lower and an upper bound, or an error. A pair is cut at its first
dash, and its lower bound is read first. -/
inductive TokenOutcome : List Char → Except Refusal (Nat × Nat) → Prop
  | single {token : List Char} {n : Nat} (hdash : '-' ∉ token)
      (hn : NumberOutcome token token (.ok n)) : TokenOutcome token (.ok (n, n))
  | badSingle {token : List Char} {e : Refusal} (hdash : '-' ∉ token)
      (he : NumberOutcome token token (.error e)) : TokenOutcome token (.error e)
  | noLower {upper : List Char} : TokenOutcome ('-' :: upper) (.error (.missingBound .lower))
  | noUpper {lower : List Char} (hlower : lower ≠ []) (hdash : '-' ∉ lower) :
      TokenOutcome (lower ++ ['-']) (.error (.missingBound .upper))
  | badLower {lower upper : List Char} {e : Refusal} (hlower : lower ≠ []) (hdash : '-' ∉ lower)
      (hupper : upper ≠ []) (he : NumberOutcome (lower ++ '-' :: upper) lower (.error e)) :
      TokenOutcome (lower ++ '-' :: upper) (.error e)
  | badUpper {lower upper : List Char} {m : Nat} {e : Refusal} (hlower : lower ≠ [])
      (hdash : '-' ∉ lower) (hupper : upper ≠ [])
      (hm : NumberOutcome (lower ++ '-' :: upper) lower (.ok m))
      (he : NumberOutcome (lower ++ '-' :: upper) upper (.error e)) :
      TokenOutcome (lower ++ '-' :: upper) (.error e)
  | pair {lower upper : List Char} {m n : Nat} (hlower : lower ≠ []) (hdash : '-' ∉ lower)
      (hupper : upper ≠ []) (hm : NumberOutcome (lower ++ '-' :: upper) lower (.ok m))
      (hn : NumberOutcome (lower ++ '-' :: upper) upper (.ok n)) :
      TokenOutcome (lower ++ '-' :: upper) (.ok (m, n))

/-- The number lies between the bounds of one of the tokens. -/
def InTokens (tokens : List (List Char)) (n : Nat) : Prop :=
  ∃ token ∈ tokens, ∃ lower upper, TokenOutcome token (.ok (lower, upper)) ∧ lower ≤ n ∧ n ≤ upper

theorem NumberOutcome.lt {token cs : List Char} {n : Nat} (h : NumberOutcome token cs (.ok n)) :
    n < 16384 := by
  cases h with
  | slot hn hlt => exact hlt

/-- Both bounds of a token lie in the slot space. -/
theorem TokenOutcome.lt {token : List Char} {m n : Nat} (h : TokenOutcome token (.ok (m, n))) :
    m < 16384 ∧ n < 16384 := by
  cases h with
  | single hdash hn => exact ⟨hn.lt, hn.lt⟩
  | pair hlower hdash hupper hm hn => exact ⟨hm.lt, hn.lt⟩

/-- The text denotes the number. -/
def Denotes (text : String) (n : Nat) : Prop :=
  ∃ tokens, IsTokens text.toList tokens ∧ InTokens tokens n

/-! ## Tokens -/

theorem isSeparator_iff {c : Char} : SlotSet.isSeparator c = true ↔ IsSeparator c := by
  unfold SlotSet.isSeparator IsSeparator
  rw [Bool.or_eq_true, beq_iff_eq, Text.isBlank_iff]

theorem isTokens_iff {cs : List Char} {tokens : List (List Char)} :
    IsTokens cs tokens ↔ tokens = SlotSet.tokens cs := by
  have hsep : IsSeparator = fun c => SlotSet.isSeparator c = true :=
    funext fun c => propext isSeparator_iff.symm
  unfold IsTokens SlotSet.tokens
  simp only [hsep, Text.cut_iff, exists_eq_left, Text.filter_ne_nil]

/-! ## Numbers -/

theorem numberOutcome_iff {token cs : List Char} {r : Except Refusal Nat} :
    NumberOutcome token cs r ↔ r = (Slot.read token cs).map UInt16.toNat := by
  unfold Slot.read
  constructor
  · intro h
    cases h with
    | slot hn hlt =>
      rw [Text.number?_eq_some_iff.mpr hn]
      show _ = (Slot.ofIndex _).map _
      rw [Slot.ofIndex_of_lt hlt, Except.map, Slot.toNat_toUInt16 hlt]
    | tooLarge hn hle =>
      rw [Text.number?_eq_some_iff.mpr hn]
      show _ = (Slot.ofIndex _).map _
      rw [Slot.ofIndex_of_le hle, Except.map]
    | malformed h =>
      rw [Text.number?_eq_none_iff.mpr h]
      rfl
  · rintro rfl
    cases hn : Text.number? cs with
    | none => exact .malformed (Text.number?_eq_none_iff.mp hn)
    | some n =>
      have hn := Text.number?_eq_some_iff.mp hn
      show NumberOutcome token cs ((Slot.ofIndex n).map UInt16.toNat)
      by_cases hlt : n < 16384
      · rw [Slot.ofIndex_of_lt hlt, Except.map, Slot.toNat_toUInt16 hlt]
        exact .slot hn hlt
      · rw [Slot.ofIndex_of_le (not_lt.mp hlt), Except.map]
        exact .tooLarge hn (not_lt.mp hlt)

/-! ## Outcomes of tokens -/

/-- The ends of an interval as numbers. -/
def bounds (i : Interval) : Nat × Nat := (i.lower.toNat, i.upper.toNat)

theorem read_of_not_mem {token : List Char} (h : '-' ∉ token) :
    Interval.read token = (Slot.read token token).map Interval.singleton := by
  have hdrop : token.dropWhile (· ≠ '-') = [] := by
    rw [List.dropWhile_eq_nil_iff]
    exact fun c hc => decide_eq_true fun he : c = '-' => h (he ▸ hc)
  unfold Interval.read
  rw [hdrop]
  cases Slot.read token token <;> rfl

theorem read_append {lower upper : List Char} (h : '-' ∉ lower) :
    Interval.read (lower ++ '-' :: upper) =
      if lower.isEmpty then .error (.missingBound .lower)
      else if upper.isEmpty then .error (.missingBound .upper)
      else do
        let a ← Slot.read (lower ++ '-' :: upper) lower
        let b ← Slot.read (lower ++ '-' :: upper) upper
        return ⟨a, b⟩ := by
  have hne : ∀ c ∈ lower, decide (c ≠ '-') = true :=
    fun c hc => decide_eq_true fun he : c = '-' => h (he ▸ hc)
  have hdrop : (lower ++ '-' :: upper).dropWhile (· ≠ '-') = '-' :: upper := by
    rw [List.dropWhile_append_of_pos hne]
    rfl
  have htake : (lower ++ '-' :: upper).takeWhile (· ≠ '-') = lower := by
    rw [List.takeWhile_append_of_pos hne]
    exact List.append_nil lower
  unfold Interval.read
  rw [hdrop, htake]

theorem read_noUpper {lower : List Char} (hlower : lower ≠ []) (hdash : '-' ∉ lower) :
    Interval.read (lower ++ ['-']) = .error (.missingBound .upper) := by
  rw [read_append hdash, if_neg (mt List.isEmpty_iff.mp hlower)]
  rfl

theorem read_bounds {lower upper : List Char} (hlower : lower ≠ []) (hdash : '-' ∉ lower)
    (hupper : upper ≠ []) : Interval.read (lower ++ '-' :: upper) = do
      let a ← Slot.read (lower ++ '-' :: upper) lower
      let b ← Slot.read (lower ++ '-' :: upper) upper
      return ⟨a, b⟩ := by
  rw [read_append hdash, if_neg (mt List.isEmpty_iff.mp hlower),
    if_neg (mt List.isEmpty_iff.mp hupper)]

/-- A token without a dash, or one that is cut at its first dash. -/
theorem exists_cut_at_dash (token : List Char) :
    '-' ∉ token ∨ ∃ lower upper, '-' ∉ lower ∧ token = lower ++ '-' :: upper := by
  by_cases h : '-' ∈ token
  · obtain ⟨lower, upper, htoken, hlower⟩ := List.eq_append_cons_of_mem h
    exact Or.inr ⟨lower, upper, hlower, htoken⟩
  · exact Or.inl h

/-- The number that is read is the outcome. -/
theorem numberOutcome_of_read {token cs : List Char} {r : Except Refusal Slot}
    (h : Slot.read token cs = r) : NumberOutcome token cs (r.map UInt16.toNat) :=
  numberOutcome_iff.mpr (h ▸ rfl)

theorem tokenOutcome_read (token : List Char) :
    TokenOutcome token ((Interval.read token).map bounds) := by
  rcases exists_cut_at_dash token with hdash | ⟨lower, upper, hdash, rfl⟩
  · rw [read_of_not_mem hdash]
    cases h : Slot.read token token with
    | error e => exact .badSingle hdash (numberOutcome_of_read h)
    | ok a => exact .single hdash (numberOutcome_of_read h)
  · by_cases hlower : lower = []
    · subst hlower
      exact .noLower
    · by_cases hupper : upper = []
      · subst hupper
        rw [read_noUpper hlower hdash]
        exact .noUpper hlower hdash
      · rw [read_bounds hlower hdash hupper]
        cases hm : Slot.read (lower ++ '-' :: upper) lower with
        | error e => exact .badLower hlower hdash hupper (numberOutcome_of_read hm)
        | ok a =>
          cases hn : Slot.read (lower ++ '-' :: upper) upper with
          | error e =>
            exact .badUpper hlower hdash hupper (numberOutcome_of_read hm)
              (numberOutcome_of_read hn)
          | ok b =>
            exact .pair hlower hdash hupper (numberOutcome_of_read hm) (numberOutcome_of_read hn)

theorem read_eq_ok {token cs : List Char} {n : Nat} (h : NumberOutcome token cs (.ok n)) :
    ∃ a, Slot.read token cs = .ok a ∧ a.toNat = n := by
  have hr := numberOutcome_iff.mp h
  cases ha : Slot.read token cs with
  | error e =>
    rw [ha] at hr
    cases hr
  | ok a =>
    rw [ha] at hr
    cases hr
    exact ⟨a, rfl, rfl⟩

theorem read_eq_error {token cs : List Char} {e : Refusal}
    (h : NumberOutcome token cs (.error e)) : Slot.read token cs = .error e := by
  have hr := numberOutcome_iff.mp h
  cases ha : Slot.read token cs with
  | error e' =>
    rw [ha] at hr
    cases hr
    rfl
  | ok a =>
    rw [ha] at hr
    cases hr

theorem TokenOutcome.eq_read {token : List Char} {r : Except Refusal (Nat × Nat)}
    (h : TokenOutcome token r) : r = (Interval.read token).map bounds := by
  cases h with
  | single hdash hn =>
    obtain ⟨a, ha, rfl⟩ := read_eq_ok hn
    rw [read_of_not_mem hdash, ha]
    rfl
  | badSingle hdash he =>
    rw [read_of_not_mem hdash, read_eq_error he]
    rfl
  | noLower => rfl
  | noUpper hlower hdash =>
    rw [read_noUpper hlower hdash]
    rfl
  | badLower hlower hdash hupper he =>
    rw [read_bounds hlower hdash hupper, read_eq_error he]
    rfl
  | badUpper hlower hdash hupper hm he =>
    obtain ⟨a, ha, -⟩ := read_eq_ok hm
    rw [read_bounds hlower hdash hupper, ha, read_eq_error he]
    rfl
  | pair hlower hdash hupper hm hn =>
    obtain ⟨a, ha, rfl⟩ := read_eq_ok hm
    obtain ⟨b, hb, rfl⟩ := read_eq_ok hn
    rw [read_bounds hlower hdash hupper, ha, hb]
    rfl

/-- A token has exactly one outcome. -/
theorem tokenOutcome_iff {token : List Char} {r : Except Refusal (Nat × Nat)} :
    TokenOutcome token r ↔ r = (Interval.read token).map bounds :=
  ⟨TokenOutcome.eq_read, fun h => h ▸ tokenOutcome_read token⟩

end SlotText

end ClusterTopology
