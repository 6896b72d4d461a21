import ClusterTopology.Proofs.Tag
import Mathlib.Algebra.Field.ZMod
import Mathlib.Data.Nat.BitIndices
import Mathlib.Data.Nat.Bitwise
import Mathlib.Data.Nat.Digits.Defs
import Mathlib.RingTheory.AdjoinRoot

/-!
# Check values as remainders

A number stands for the polynomial over the field of two elements whose coefficients are its bits
(`bitPolynomial`), and a string of bytes for that of the number with these digits to the base 256
(`message`). A step of the register multiplies by `x`, modulo the generator, so that the check value
of a string is the remainder of `message * x ^ 16` (`Crc16.bitPolynomial_checksum`). The slot of a
key is the low part of it (`Key.slot_is_remainder`).
-/

namespace ClusterTopology

open Polynomial

noncomputable section

/-! ## Bits as coefficients -/

/-- The polynomial whose coefficients are the bits of the number. -/
def bitPolynomial (n : ℕ) : (ZMod 2)[X] := ∑ i ∈ n.bitIndices.toFinset, X ^ i

theorem coeff_bitPolynomial (n i : ℕ) :
    (bitPolynomial n).coeff i = if n.testBit i then 1 else 0 := by
  unfold bitPolynomial
  simp only [finsetSum_coeff, coeff_X_pow, Finset.sum_ite_eq, List.mem_toFinset,
    Nat.mem_bitIndices]

theorem bitPolynomial_zero : bitPolynomial 0 = 0 := by
  ext i
  rw [coeff_bitPolynomial, Nat.zero_testBit]
  rfl

theorem bitPolynomial_xor (m n : ℕ) :
    bitPolynomial (m ^^^ n) = bitPolynomial m + bitPolynomial n := by
  ext i
  rw [coeff_add, coeff_bitPolynomial, coeff_bitPolynomial, coeff_bitPolynomial, Nat.testBit_xor]
  cases m.testBit i <;> cases n.testBit i <;> decide

theorem bitPolynomial_two_pow (k : ℕ) : bitPolynomial (2 ^ k) = X ^ k := by
  ext i
  rw [coeff_bitPolynomial, coeff_X_pow, Nat.testBit_two_pow]
  simp only [decide_eq_true_eq, eq_comm (a := i)]

theorem coeff_bitPolynomial_of_le {n k i : ℕ} (h : n < 2 ^ k) (hi : k ≤ i) :
    (bitPolynomial n).coeff i = 0 := by
  have hbit : n.testBit i = false :=
    Nat.testBit_lt_two_pow (h.trans_le (Nat.pow_le_pow_right (by decide) hi))
  rw [coeff_bitPolynomial, hbit]
  rfl

theorem degree_bitPolynomial_lt {n k : ℕ} (h : n < 2 ^ k) : (bitPolynomial n).degree < k := by
  rw [degree_lt_iff_coeff_zero]
  exact fun i hi => coeff_bitPolynomial_of_le h hi

/-- Digits to the base `2 ^ k` are coefficients of powers of `X ^ k`. -/
theorem bitPolynomial_mul_add {k low : ℕ} (hlow : low < 2 ^ k) (high : ℕ) :
    bitPolynomial (2 ^ k * high + low) = X ^ k * bitPolynomial high + bitPolynomial low := by
  ext i
  rw [coeff_add, coeff_X_pow_mul', coeff_bitPolynomial, Nat.testBit_two_pow_mul_add high hlow]
  by_cases hi : i < k
  · rw [if_pos hi, if_neg (not_le.mpr hi), zero_add, coeff_bitPolynomial]
  · rw [if_neg hi, if_pos (not_lt.mp hi), coeff_bitPolynomial_of_le hlow (not_lt.mp hi), add_zero,
      coeff_bitPolynomial]

theorem bitPolynomial_injective : Function.Injective bitPolynomial := by
  intro m n h
  refine Nat.eq_of_testBit_eq fun i => ?_
  have hi := congrArg (coeff · i) h
  simp only [coeff_bitPolynomial] at hi
  revert hi
  cases m.testBit i <;> cases n.testBit i <;> decide

/-! ## Strings of bytes -/

/-- The number with the bytes as its digits to the base 256, the first one being the highest. -/
def bigEndian (bytes : List UInt8) : ℕ := Nat.ofDigits 256 (bytes.reverse.map UInt8.toNat)

/-- The polynomial that a string of bytes stands for. The highest bit of the first byte comes
first. -/
def message (bytes : List UInt8) : (ZMod 2)[X] := bitPolynomial (bigEndian bytes)

theorem digit_lt {bytes : List UInt8} : ∀ d ∈ bytes.reverse.map UInt8.toNat, d < 256 := by
  intro d hd
  obtain ⟨b, -, rfl⟩ := List.mem_map.mp hd
  exact b.toNat_lt

theorem bigEndian_lt (bytes : List UInt8) : bigEndian bytes < 2 ^ (8 * bytes.length) := by
  have h := Nat.ofDigits_lt_base_pow_length (by decide) (@digit_lt bytes)
  rw [List.length_map, List.length_reverse] at h
  rwa [pow_mul]

theorem bigEndian_inj {bytes bytes' : List UInt8} (hlen : bytes.length = bytes'.length)
    (h : bigEndian bytes = bigEndian bytes') : bytes = bytes' := by
  have hlen : (bytes.reverse.map UInt8.toNat).length = (bytes'.reverse.map UInt8.toNat).length := by
    simpa using hlen
  have hdigits := Nat.ofDigits_inj_of_len_eq (by decide) hlen digit_lt digit_lt h
  exact List.reverse_injective (List.map_injective_iff.mpr (fun _ _ => UInt8.toNat.inj) hdigits)

theorem message_append (bytes tail : List UInt8) :
    message (bytes ++ tail) = X ^ (8 * tail.length) * message bytes + message tail := by
  have h : bigEndian (bytes ++ tail) =
      2 ^ (8 * tail.length) * bigEndian bytes + bigEndian tail := by
    unfold bigEndian
    rw [List.reverse_append, List.map_append, Nat.ofDigits_append, List.length_map,
      List.length_reverse, Nat.add_comm, pow_mul]
    rfl
  unfold message
  rw [h, bitPolynomial_mul_add (bigEndian_lt tail)]

theorem message_singleton (b : UInt8) : message [b] = bitPolynomial b.toNat := by
  unfold message bigEndian
  rw [List.reverse_singleton, List.map_singleton, Nat.ofDigits_singleton]

namespace Crc16

/-! ## The generator -/

/-- The divisor of the remainders. -/
def generator : (ZMod 2)[X] := X ^ 16 + X ^ 12 + X ^ 5 + 1

theorem generator_eq : generator = X ^ 16 + bitPolynomial polynomial.toNat := by
  have h : polynomial.toNat = 2 ^ 12 ^^^ 2 ^ 5 ^^^ 2 ^ 0 := by decide
  rw [h, bitPolynomial_xor, bitPolynomial_xor, bitPolynomial_two_pow, bitPolynomial_two_pow,
    bitPolynomial_two_pow, pow_zero]
  unfold generator
  ring

theorem degree_polynomial_lt : (bitPolynomial polynomial.toNat).degree < (16 : ℕ) :=
  degree_bitPolynomial_lt (by decide)

theorem monic_generator : generator.Monic := by
  rw [generator_eq]
  exact monic_X_pow_add degree_polynomial_lt

theorem degree_generator : generator.degree = (16 : ℕ) := by
  rw [generator_eq, degree_add_eq_left_of_degree_lt, degree_X_pow]
  rw [degree_X_pow]
  exact degree_polynomial_lt

/-! ## Residues -/

/-- The number as a residue modulo the generator. -/
def residue (n : ℕ) : AdjoinRoot generator := AdjoinRoot.mk generator (bitPolynomial n)

theorem residue_zero : residue 0 = 0 := by
  unfold residue
  rw [bitPolynomial_zero, map_zero]

theorem residue_one : residue 1 = 1 := by
  unfold residue
  rw [show 1 = 2 ^ 0 from rfl, bitPolynomial_two_pow, pow_zero, map_one]

theorem residue_xor (m n : ℕ) : residue (m ^^^ n) = residue m + residue n := by
  unfold residue
  rw [bitPolynomial_xor, map_add]

theorem residue_mul_add {k low : ℕ} (hlow : low < 2 ^ k) (high : ℕ) :
    residue (2 ^ k * high + low) =
      AdjoinRoot.root generator ^ k * residue high + residue low := by
  unfold residue
  rw [bitPolynomial_mul_add hlow, map_add, map_mul, map_pow, AdjoinRoot.mk_X]

theorem residue_two_pow_mul (k n : ℕ) :
    residue (2 ^ k * n) = AdjoinRoot.root generator ^ k * residue n := by
  have h := residue_mul_add (Nat.two_pow_pos k) n
  rwa [residue_zero, add_zero, add_zero] at h

/-- The highest power is the sum of the others. -/
theorem root_pow : AdjoinRoot.root generator ^ 16 = residue polynomial.toNat := by
  unfold residue
  rw [← AdjoinRoot.mk_X, ← map_pow, AdjoinRoot.mk_eq_mk, generator_eq, CharTwo.sub_eq_add]

/-! ## The register -/

theorem and_top_eq_zero_iff (r : UInt16) : r &&& 0x8000 = 0 ↔ r.toNat < 2 ^ 15 := by
  rw [← UInt16.toNat_inj, UInt16.toNat_and]
  show r.toNat &&& 2 ^ 15 = 0 ↔ _
  rw [Nat.and_two_pow]
  constructor
  · intro h
    by_contra hle
    rw [Nat.testBit_of_two_pow_le_and_two_pow_add_one_gt (not_lt.mp hle) r.toNat_lt] at h
    exact absurd h (by decide)
  · intro h
    rw [Nat.testBit_lt_two_pow h]
    rfl

theorem toNat_shiftLeft_one (r : UInt16) : (r <<< 1).toNat = 2 * r.toNat % 2 ^ 16 := by
  rw [UInt16.toNat_shiftLeft]
  show r.toNat <<< 1 % 2 ^ 16 = _
  rw [Nat.shiftLeft_eq, pow_one, Nat.mul_comm]

/-- The bit that is shifted out comes back as the polynomial. -/
theorem residue_shift (r : UInt16) :
    residue (shift r).toNat = AdjoinRoot.root generator * residue r.toNat := by
  have hr := r.toNat_lt
  have hdouble := residue_two_pow_mul 1 r.toNat
  rw [pow_one, pow_one] at hdouble
  rw [← hdouble]
  unfold shift
  split_ifs with htop
  · rw [and_top_eq_zero_iff] at htop
    rw [toNat_shiftLeft_one, Nat.mod_eq_of_lt (by omega)]
  · rw [and_top_eq_zero_iff] at htop
    have hlow : 2 * r.toNat % 2 ^ 16 < 2 ^ 16 := Nat.mod_lt _ (by decide)
    have hsplit : 2 * r.toNat = 2 ^ 16 * 1 + 2 * r.toNat % 2 ^ 16 := by omega
    calc residue ((r <<< 1) ^^^ polynomial).toNat
      _ = residue (2 * r.toNat % 2 ^ 16) + residue polynomial.toNat := by
        rw [UInt16.toNat_xor, residue_xor, toNat_shiftLeft_one]
      _ = AdjoinRoot.root generator ^ 16 * residue 1 + residue (2 * r.toNat % 2 ^ 16) := by
        rw [residue_one, mul_one, root_pow, add_comm]
      _ = residue (2 ^ 16 * 1 + 2 * r.toNat % 2 ^ 16) := (residue_mul_add hlow 1).symm
      _ = residue (2 * r.toNat) := congrArg residue hsplit.symm

theorem residue_repeat_shift (k : ℕ) (r : UInt16) :
    residue (Nat.repeat shift k r).toNat = AdjoinRoot.root generator ^ k * residue r.toNat := by
  induction k with
  | zero => rw [pow_zero, one_mul]; rfl
  | succ k ih =>
    show residue (shift (Nat.repeat shift k r)).toNat = _
    rw [residue_shift, ih, pow_succ', mul_assoc]

theorem toNat_byte_shiftLeft (b : UInt8) : (b.toUInt16 <<< 8).toNat = 2 ^ 8 * b.toNat := by
  have hb := b.toNat_lt
  rw [UInt16.toNat_shiftLeft, UInt8.toNat_toUInt16]
  show b.toNat <<< 8 % 2 ^ 16 = _
  rw [Nat.shiftLeft_eq, Nat.mod_eq_of_lt (by omega), Nat.mul_comm]

/-- A byte goes in at the top, and the register moves on by the eight bits of it. -/
theorem residue_step (r : UInt16) (b : UInt8) : residue (step r b).toNat =
    AdjoinRoot.root generator ^ 8 *
      (residue r.toNat + AdjoinRoot.root generator ^ 8 * residue b.toNat) := by
  unfold step
  rw [residue_repeat_shift, UInt16.toNat_xor, residue_xor, toNat_byte_shiftLeft,
    residue_two_pow_mul]

/-- The register stands for the bytes that it has taken in, moved up by its width. -/
theorem residue_checksum (bytes : List UInt8) : residue (checksum bytes).toNat =
    AdjoinRoot.root generator ^ 16 * AdjoinRoot.mk generator (message bytes) := by
  induction bytes using List.reverseRecOn with
  | nil =>
    show residue 0 = _ * residue 0
    rw [residue_zero, mul_zero]
  | append_singleton bytes b ih =>
    have hstep : checksum (bytes ++ [b]) = step (checksum bytes) b := by
      unfold checksum
      rw [List.foldl_append]
      rfl
    rw [hstep, residue_step, ih, message_append, message_singleton, map_add, map_mul, map_pow,
      AdjoinRoot.mk_X]
    show _ = _ * (_ + residue b.toNat)
    rw [List.length_singleton]
    ring

theorem bitPolynomial_mod {n : ℕ} (h : n < 2 ^ 16) :
    bitPolynomial n %ₘ generator = bitPolynomial n := by
  rw [modByMonic_eq_self_iff monic_generator, degree_generator]
  exact degree_bitPolynomial_lt h

/-- The check value is the remainder of the message, moved up by the width of the register. -/
theorem bitPolynomial_checksum (bytes : List UInt8) :
    bitPolynomial (checksum bytes).toNat = (message bytes * X ^ 16) %ₘ generator := by
  have hdvd : generator ∣ bitPolynomial (checksum bytes).toNat - message bytes * X ^ 16 := by
    rw [← AdjoinRoot.mk_eq_mk, map_mul, map_pow, AdjoinRoot.mk_X, mul_comm]
    exact residue_checksum bytes
  rw [← modByMonic_eq_of_dvd_sub monic_generator hdvd]
  exact (bitPolynomial_mod (checksum bytes).toNat_lt).symm

/-- The digits from one to nine have the check value by which this check is known. -/
example : checksum [49, 50, 51, 52, 53, 54, 55, 56, 57] = 0x31C3 := by decide +kernel

end Crc16

/-! ## Slots -/

namespace Key

/-- The part of a key that decides on its slot: its tag, or else all of it. -/
inductive Selects (key : Key) : Key → Prop
  | tag {tag : Key} (h : key.HasTag tag) : Selects key tag
  | whole (h : ∀ tag, ¬key.HasTag tag) : Selects key key

theorem selects_iff {key part : Key} : key.Selects part ↔ part = key.hashed := by
  constructor
  · rintro (h | h)
    · exact (hashed_of_hasTag h).symm
    · exact (hashed_of_untagged (untagged_iff.mpr h)).symm
  · rintro rfl
    rcases exists_hasTag_or_untagged key with ⟨tag, h⟩ | h
    · rw [hashed_of_hasTag h]
      exact .tag h
    · rw [hashed_of_untagged h]
      exact .whole (untagged_iff.mp h)

theorem testBit_slot (key : Key) (i : ℕ) : key.slot.toNat.testBit i = true ↔
    i < 14 ∧ ((message key.hashed * X ^ 16) %ₘ Crc16.generator).coeff i = 1 := by
  rw [toNat_slot, ← Crc16.bitPolynomial_checksum, coeff_bitPolynomial]
  show (_ % 2 ^ 14).testBit i = true ↔ _
  rw [Nat.testBit_mod_two_pow, Bool.and_eq_true, decide_eq_true_eq]
  refine and_congr_right fun _ => ?_
  cases (Crc16.checksum key.hashed).toNat.testBit i <;> decide

/-- Exactly one part of a key decides on its slot, and the slot has the low bits of the remainder of
this part: the part is read as a polynomial over the field of two elements, with the highest bit of
the first byte in front, multiplied by `X ^ 16`, and divided by the generator. The check value has
all of the bits. -/
theorem slot_is_remainder :
    (∀ key : Key, ∃! part, key.Selects part) ∧
    (∀ key part : Key, key.Selects part → ∀ i, key.slot.toNat.testBit i = true ↔
      i < 14 ∧ ((message part * X ^ 16) %ₘ (X ^ 16 + X ^ 12 + X ^ 5 + 1)).coeff i = 1) ∧
    ∀ bytes : List UInt8, bitPolynomial (Crc16.checksum bytes).toNat =
      (message bytes * X ^ 16) %ₘ (X ^ 16 + X ^ 12 + X ^ 5 + 1) := by
  refine ⟨fun key => ⟨key.hashed, selects_iff.mpr rfl, fun part => selects_iff.mp⟩,
    fun key part h i => ?_, Crc16.bitPolynomial_checksum⟩
  rw [selects_iff.mp h]
  exact key.testBit_slot i

/-- The key `{1}2` is decided by the byte `1`, whose remainder has the terms `X` and `X ^ 13`. -/
theorem slot_is_remainder_of_braced :
    Key.Selects [123, 49, 125, 50] [49] ∧
    ((message [49] * X ^ 16) %ₘ (X ^ 16 + X ^ 12 + X ^ 5 + 1)).coeff 1 = 1 ∧
    ((message [49] * X ^ 16) %ₘ (X ^ 16 + X ^ 12 + X ^ 5 + 1)).coeff 13 = 1 := by
  have hselects : Key.Selects [123, 49, 125, 50] [49] :=
    .tag ⟨[], [50], by decide, by decide, by decide, by decide⟩
  have hbits := slot_is_remainder.2.1 _ _ hselects
  exact ⟨hselects, ((hbits 1).mp (by decide)).2, ((hbits 13).mp (by decide)).2⟩

end Key

end

end ClusterTopology
