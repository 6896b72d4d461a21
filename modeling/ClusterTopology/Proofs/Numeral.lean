import ClusterTopology.Text.Number
import Mathlib.Data.Nat.Digits.Defs

/-!
# Numerals

A numeral is one or more decimal digits, with a plus sign in front or without, that stand for a
number below `2 ^ 64` (`Numeral`). These are the texts that `number?` reads (`number?_eq_some_iff`),
and what `decimal` writes is one of them (`number?_decimal`).
-/

namespace ClusterTopology.Text

/-- The number that digits stand for, by the places that they stand at. -/
def placeValue (digits : List Char) : Nat :=
  Nat.ofDigits 10 (digits.reverse.map fun c => c.toNat - '0'.toNat)

/-- The text is a numeral for `n`. -/
def Numeral (cs : List Char) (n : Nat) : Prop :=
  ∃ digits, (cs = digits ∨ cs = '+' :: digits) ∧ digits ≠ [] ∧
    (∀ c ∈ digits, '0' ≤ c ∧ c ≤ '9') ∧ placeValue digits = n ∧ n < 2 ^ 64

theorem isDigit_iff {c : Char} : c.isDigit = true ↔ '0' ≤ c ∧ c ≤ '9' := by
  unfold Char.isDigit
  rw [Bool.and_eq_true, decide_eq_true_eq, decide_eq_true_eq]
  rfl

theorem placeValue_cons (c : Char) (digits : List Char) :
    placeValue (c :: digits) = 10 ^ digits.length * (c.toNat - '0'.toNat) + placeValue digits := by
  unfold placeValue
  rw [List.reverse_cons, List.map_append, Nat.ofDigits_append, List.length_map,
    List.length_reverse, List.map_singleton, Nat.ofDigits_singleton, Nat.add_comm]

theorem ofDigitChars_eq_placeValue (digits : List Char) :
    Nat.ofDigitChars 10 digits 0 = placeValue digits := by
  induction digits with
  | nil => rfl
  | cons c digits ih =>
    rw [Nat.ofDigitChars_cons, Nat.ofDigitChars_eq_ofDigitChars_zero, ih, placeValue_cons,
      Nat.mul_zero, Nat.zero_add]

/-! ## Reading -/

theorem dropPlus_cons_plus (cs : List Char) : dropPlus ('+' :: cs) = cs := rfl

theorem dropPlus_eq_self {cs : List Char} (h : ∀ c ∈ cs, c.isDigit = true) : dropPlus cs = cs := by
  unfold dropPlus
  split
  · have := h '+' List.mem_cons_self
    exact absurd this (by decide)
  · rfl

theorem eq_or_eq_cons_dropPlus (cs : List Char) : cs = dropPlus cs ∨ cs = '+' :: dropPlus cs := by
  unfold dropPlus
  split
  · exact Or.inr rfl
  · exact Or.inl rfl

theorem number?_eq_some_iff {cs : List Char} {n : Nat} : number? cs = some n ↔ Numeral cs n := by
  unfold number?
  simp only [ofDigitChars_eq_placeValue]
  constructor
  · intro h
    by_cases hd : ((dropPlus cs).isEmpty || !(dropPlus cs).all Char.isDigit) = true
    · rw [if_pos hd] at h
      cases h
    · rw [if_neg hd] at h
      by_cases hlt : placeValue (dropPlus cs) < UInt64.size
      · rw [if_pos hlt] at h
        cases h
        simp only [Bool.or_eq_true, List.isEmpty_iff, Bool.not_eq_true', not_or,
          Bool.not_eq_false, List.all_eq_true] at hd
        exact ⟨dropPlus cs, eq_or_eq_cons_dropPlus cs, hd.1, fun c hc => isDigit_iff.mp (hd.2 c hc),
          rfl, hlt⟩
      · rw [if_neg hlt] at h
        cases h
  · rintro ⟨digits, hcs, hne, hdig, rfl, hlt⟩
    have hall : ∀ c ∈ digits, c.isDigit = true := fun c hc => isDigit_iff.mpr (hdig c hc)
    have hdrop : dropPlus cs = digits := by
      rcases hcs with rfl | rfl
      · exact dropPlus_eq_self hall
      · exact dropPlus_cons_plus digits
    have hd : ¬(digits.isEmpty || !digits.all Char.isDigit) = true := by
      simp only [Bool.or_eq_true, List.isEmpty_iff, Bool.not_eq_true', not_or, Bool.not_eq_false,
        List.all_eq_true]
      exact ⟨hne, hall⟩
    rw [hdrop, if_neg hd, if_pos (show placeValue digits < UInt64.size from hlt)]

theorem number?_eq_none_iff {cs : List Char} : number? cs = none ↔ ∀ n, ¬Numeral cs n := by
  simp only [Option.eq_none_iff_forall_ne_some, ne_eq, number?_eq_some_iff]

/-! ## Writing -/

theorem decimal_ne_nil (n : Nat) : decimal n ≠ [] := Nat.toDigits_ne_nil

theorem isDigit_of_mem_decimal {n : Nat} {c : Char} (h : c ∈ decimal n) : c.isDigit = true :=
  Nat.isDigit_of_mem_toDigits (by decide) (by decide) h

theorem numeral_decimal {n : Nat} (h : n < 2 ^ 64) : Numeral (decimal n) n := by
  refine ⟨decimal n, Or.inl rfl, decimal_ne_nil n, fun c hc => ?_, ?_, h⟩
  · exact isDigit_iff.mp (isDigit_of_mem_decimal hc)
  · rw [← ofDigitChars_eq_placeValue]
    exact Nat.ofDigitChars_ten_toDigits

theorem number?_decimal {n : Nat} (h : n < 2 ^ 64) : number? (decimal n) = some n :=
  number?_eq_some_iff.mpr (numeral_decimal h)

end ClusterTopology.Text
