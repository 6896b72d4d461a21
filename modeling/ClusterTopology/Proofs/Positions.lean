import ClusterTopology.Word
import Mathlib.Data.Nat.Bitwise

/-!
# The positions of a word

A word is nothing but the set of its positions (`ext_hasBit`). Any word but zero has a least one,
which `lowest` finds (`hasBit_lowest`, `hasBit_of_lt_lowest`) and `clearLowest` takes away without
touching the others (`hasBit_clearLowest`).
-/

namespace ClusterTopology.Word

/-! ## Numbers as a word and a position -/

theorem mul_add_div {i j : Nat} (hj : j < bits) : (i * bits + j) / bits = i := by
  rw [Nat.mul_comm, Nat.mul_add_div (by decide), Nat.div_eq_of_lt hj, Nat.add_zero]

theorem mul_add_mod {i j : Nat} (hj : j < bits) : (i * bits + j) % bits = j := by
  rw [Nat.mul_comm, Nat.mul_add_mod, Nat.mod_eq_of_lt hj]

theorem eq_mul_add_iff {n i j : Nat} (hj : j < bits) :
    n = i * bits + j ↔ n / bits = i ∧ n % bits = j := by
  constructor
  · rintro rfl
    exact ⟨mul_add_div hj, mul_add_mod hj⟩
  · rintro ⟨rfl, rfl⟩
    exact (Nat.div_add_mod' n bits).symm

/-- A position of a word comes before all numbers of later words. -/
theorem mul_add_lt {i j n : Nat} (hj : j < bits) (h : i < n / bits) : i * bits + j < n := by
  have hsplit := Nat.div_add_mod' n bits
  have hmul := Nat.mul_le_mul_right bits (show i + 1 ≤ n / bits from h)
  rw [Nat.add_mul, Nat.one_mul] at hmul
  omega

/-! ## Extensionality -/

/-- Two words with the same positions are the same. -/
theorem ext_hasBit {v w : UInt64} (h : ∀ i < bits, hasBit v i = hasBit w i) : v = w := by
  apply UInt64.toNat.inj
  apply Nat.eq_of_testBit_eq
  intro i
  by_cases hi : i < bits
  · rw [← hasBit_eq_testBit v hi, ← hasBit_eq_testBit w hi, h i hi]
  · have hpow : 2 ^ 64 ≤ 2 ^ i := Nat.pow_le_pow_right (by decide) (not_lt.mp hi)
    rw [Nat.testBit_lt_two_pow (v.toNat_lt.trans_le hpow),
      Nat.testBit_lt_two_pow (w.toNat_lt.trans_le hpow)]

theorem eq_zero_iff {w : UInt64} : w = 0 ↔ ∀ i < bits, hasBit w i = false := by
  constructor
  · rintro rfl i _
    exact hasBit_zero i
  · intro h
    exact ext_hasBit fun i hi => by rw [h i hi, hasBit_zero]

theorem exists_hasBit {w : UInt64} (h : w ≠ 0) : ∃ i < bits, hasBit w i = true := by
  by_contra hn
  refine h (eq_zero_iff.mpr fun i hi => ?_)
  rw [← Bool.not_eq_true]
  exact fun hb => hn ⟨i, hi, hb⟩

theorem ne_zero_of_hasBit {w : UInt64} {i : Nat} (h : hasBit w i = true) : w ≠ 0 := by
  rintro rfl
  rw [hasBit_zero] at h
  exact Bool.false_ne_true h

/-! ## The least position -/

/-- The search stays in its window, skips no position, and stops early only at one. -/
theorem search_spec (w : UInt64) (n i : Nat) :
    i ≤ lowest.search w n i ∧ lowest.search w n i ≤ i + n ∧
      (∀ j, i ≤ j → j < lowest.search w n i → hasBit w j = false) ∧
      (lowest.search w n i < i + n → hasBit w (lowest.search w n i) = true) := by
  induction n generalizing i with
  | zero =>
    refine ⟨le_rfl, le_rfl, fun j hij hj => ?_, fun h => ?_⟩
    · exact absurd hij (not_le.mpr hj)
    · exact absurd h (lt_irrefl _)
  | succ n ih =>
    unfold lowest.search
    by_cases hb : hasBit w i = true
    · rw [if_pos hb]
      exact ⟨le_rfl, Nat.le_add_right _ _, fun j hij hj => absurd hij (not_le.mpr hj), fun _ => hb⟩
    · rw [if_neg hb]
      obtain ⟨hlo, hhi, hskip, hstop⟩ := ih (i + 1)
      refine ⟨by omega, by omega, fun j hij hj => ?_, fun h => hstop (by omega)⟩
      rcases hij.eq_or_lt with rfl | hlt
      · exact Bool.not_eq_true _ ▸ hb
      · exact hskip j hlt hj

theorem hasBit_of_lt_lowest {w : UInt64} {j : Nat} (h : j < lowest w) : hasBit w j = false :=
  (search_spec w bits 0).2.2.1 j (Nat.zero_le j) h

theorem lowest_le {w : UInt64} {i : Nat} (h : hasBit w i = true) : lowest w ≤ i := by
  by_contra hn
  rw [hasBit_of_lt_lowest (not_le.mp hn)] at h
  exact absurd h (by decide)

theorem lowest_lt {w : UInt64} (h : w ≠ 0) : lowest w < bits := by
  obtain ⟨i, hi, hb⟩ := exists_hasBit h
  exact (lowest_le hb).trans_lt hi

theorem hasBit_lowest {w : UInt64} (h : w ≠ 0) : hasBit w (lowest w) = true :=
  (search_spec w bits 0).2.2.2 (by rw [Nat.zero_add]; exact lowest_lt h)

/-! ## Clearing the least position -/

/-- A number splits at its least digit `1` into that digit and the digits above it. -/
theorem eq_of_least_testBit {x t : Nat} (ht : x.testBit t = true)
    (hlt : ∀ j < t, x.testBit j = false) : x = 2 ^ (t + 1) * (x / 2 ^ (t + 1)) + 2 ^ t := by
  have hmod : x % 2 ^ (t + 1) = 2 ^ t := by
    apply Nat.eq_of_testBit_eq
    intro j
    rw [Nat.testBit_mod_two_pow, Nat.testBit_two_pow]
    rcases lt_trichotomy j t with hj | rfl | hj
    · rw [hlt j hj, Bool.and_false, decide_eq_false (by omega)]
    · rw [ht, decide_eq_true (Nat.lt_succ_self j), decide_eq_true rfl, Bool.and_true]
    · rw [decide_eq_false (by omega), decide_eq_false (by omega), Bool.false_and]
  conv_lhs => rw [← Nat.div_add_mod x (2 ^ (t + 1)), hmod]

/-- Subtracting one turns the least digit `1` into `0`, and keeps the digits above it. -/
theorem testBit_sub_one_of_le {x t j : Nat} (ht : x.testBit t = true)
    (hlt : ∀ i < t, x.testBit i = false) (hj : t ≤ j) :
    (x - 1).testBit j = (x.testBit j && j != t) := by
  have hx := eq_of_least_testBit ht hlt
  have hpos : 1 ≤ 2 ^ t := Nat.one_le_two_pow
  have hpow : 2 ^ t < 2 ^ (t + 1) := Nat.pow_lt_pow_right (by decide) (Nat.lt_succ_self t)
  have hsub : x - 1 = 2 ^ (t + 1) * (x / 2 ^ (t + 1)) + (2 ^ t - 1) := by omega
  have hlow : (2 ^ t - 1).testBit j = false :=
    Nat.testBit_lt_two_pow (by have := Nat.pow_le_pow_right (n := 2) (by decide) hj; omega)
  rw [hsub, Nat.testBit_two_pow_mul_add _ (by omega)]
  rcases hj.eq_or_lt with rfl | hj
  · rw [if_pos (Nat.lt_succ_self t), hlow, bne_self_eq_false, Bool.and_false]
  · rw [if_neg (by omega), (bne_iff_ne).mpr (by omega : j ≠ t), Bool.and_true]
    conv_rhs => rw [hx, Nat.testBit_two_pow_mul_add _ hpow, if_neg (by omega)]

theorem toNat_sub_one {w : UInt64} (h : w ≠ 0) : (w - 1).toNat = w.toNat - 1 := by
  have h0 : w.toNat ≠ 0 := fun e => h (UInt64.toNat.inj (by simpa using e))
  rw [UInt64.toNat_sub_of_le _ _ (by rw [UInt64.le_iff_toNat_le]; simp; omega), UInt64.toNat_one]

/-- Clearing the least position takes away that one and no other. -/
theorem hasBit_clearLowest {w : UInt64} (h : w ≠ 0) {i : Nat} (hi : i < bits) :
    hasBit (clearLowest w) i = (hasBit w i && i != lowest w) := by
  have hlow : lowest w < bits := lowest_lt h
  have hb : w.toNat.testBit (lowest w) = true := hasBit_eq_testBit w hlow ▸ hasBit_lowest h
  have hbelow : ∀ j < lowest w, w.toNat.testBit j = false := fun j hj =>
    hasBit_eq_testBit w (hj.trans hlow) ▸ hasBit_of_lt_lowest hj
  rw [hasBit_eq_testBit _ hi, hasBit_eq_testBit _ hi, clearLowest, UInt64.toNat_and,
    Nat.testBit_and, toNat_sub_one h]
  by_cases hil : lowest w ≤ i
  · rw [testBit_sub_one_of_le hb hbelow hil, ← Bool.and_assoc, Bool.and_self]
  · rw [hbelow i (not_le.mp hil), Bool.false_and, Bool.false_and]

end ClusterTopology.Word
