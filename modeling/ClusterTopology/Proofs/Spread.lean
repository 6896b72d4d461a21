import ClusterTopology.Proofs.Remainder
import Mathlib.Data.FinEnum
import Mathlib.Data.Set.Card

/-!
# Keys are spread evenly

Strings of bytes that differ in their last two bytes only have different check values
(`Crc16.eq_of_checksum_append`), so that the two last bytes reach every check value exactly once
(`Crc16.bijective_checksum_append`). Each slot is the remainder of four check values, and what comes
before the two bytes does not matter unless it opens a tag (`Key.slots_evenly_reached`).
-/

namespace ClusterTopology

open Polynomial

namespace Crc16

/-! ## The last bytes -/

/-- Multiplying by `X` can be undone modulo the generator, as it has a constant term. -/
theorem isUnit_root : IsUnit (AdjoinRoot.root generator) := by
  have hgenerator : generator = X * (X ^ 15 + X ^ 11 + X ^ 4) + 1 := by
    unfold generator
    ring
  have hinv : AdjoinRoot.root generator * AdjoinRoot.mk generator (X ^ 15 + X ^ 11 + X ^ 4) =
      AdjoinRoot.mk generator 1 := by
    rw [← AdjoinRoot.mk_X, ← map_mul, AdjoinRoot.mk_eq_mk, CharTwo.sub_eq_add]
    exact dvd_of_eq hgenerator
  rw [map_one] at hinv
  exact IsUnit.of_mul_eq_one _ hinv

/-- Different numbers of no more bits than the register are different residues. -/
theorem residue_inj {m n : ℕ} (hm : m < 2 ^ 16) (hn : n < 2 ^ 16) (h : residue m = residue n) :
    m = n := by
  refine bitPolynomial_injective ?_
  rw [← bitPolynomial_mod hm, ← bitPolynomial_mod hn]
  exact modByMonic_eq_of_dvd_sub monic_generator (AdjoinRoot.mk_eq_mk.mp h)

/-- Strings with the same check value that differ in their last two bytes at most are equal. -/
theorem eq_of_checksum_append {bytes tail tail' : List UInt8} (hlen : tail.length = tail'.length)
    (hle : tail.length ≤ 2) (h : checksum (bytes ++ tail) = checksum (bytes ++ tail')) :
    tail = tail' := by
  have hlt : ∀ t : List UInt8, t.length ≤ 2 → bigEndian t < 2 ^ 16 := fun t ht =>
    (bigEndian_lt t).trans_le (Nat.pow_le_pow_right (by decide) (by omega))
  have hres := congrArg (fun r => residue r.toNat) h
  simp only [residue_checksum, message_append, map_add, hlen] at hres
  have htail := add_left_cancel ((isUnit_root.pow 16).mul_left_cancel hres)
  exact bigEndian_inj hlen (residue_inj (hlt tail hle) (hlt tail' (hlen ▸ hle)) htail)

theorem card_pair_eq : Nat.card (UInt8 × UInt8) = Nat.card UInt16 := by
  have hbyte : Nat.card UInt8 = 256 :=
    Nat.card_eq_fintype_card.trans FinEnum.card_eq_fintypeCard.symm
  have hword : Nat.card UInt16 = 256 * 256 :=
    Nat.card_eq_fintype_card.trans FinEnum.card_eq_fintypeCard.symm
  rw [Nat.card_prod, hbyte, hword]

/-- Behind any bytes, two more bytes reach each check value in exactly one way. -/
theorem bijective_checksum_append (bytes : List UInt8) :
    Function.Bijective fun e : UInt8 × UInt8 => checksum (bytes ++ [e.1, e.2]) := by
  refine (Nat.bijective_iff_injective_and_card _).mpr ⟨fun e e' h => ?_, card_pair_eq⟩
  have htail : [e.1, e.2] = [e'.1, e'.2] := eq_of_checksum_append rfl le_rfl h
  simp only [List.cons.injEq, and_true] at htail
  exact Prod.ext htail.1 htail.2

end Crc16

/-! ## Slots -/

namespace Slot

/-- The numbers of 16 bits that have the slot as their remainder, one for each quotient. -/
def withQuotient (s : Slot) (q : Fin 4) : UInt16 := UInt16.ofNat (s.toNat + 16384 * q)

theorem toNat_withQuotient {s : Slot} (h : s.InSpace) (q : Fin 4) :
    (s.withQuotient q).toNat = s.toNat + 16384 * q := by
  have hs : s.toNat < 16384 := h
  have hlt : s.toNat + 16384 * q < 65536 := by omega
  exact UInt16.toNat_ofNat_of_lt hlt

theorem withQuotient_injective {s : Slot} (h : s.InSpace) : Function.Injective s.withQuotient := by
  intro q q' heq
  have hnat := congrArg UInt16.toNat heq
  rw [toNat_withQuotient h, toNat_withQuotient h] at hnat
  omega

theorem mod_count_eq_iff {s : Slot} (h : s.InSpace) {v : UInt16} :
    v % count.toUInt16 = s ↔ ∃ q, s.withQuotient q = v := by
  have hs : s.toNat < 16384 := h
  rw [← UInt16.toNat_inj, UInt16.toNat_mod]
  show v.toNat % 16384 = s.toNat ↔ _
  constructor
  · intro hv
    have hlt := v.toNat_lt
    refine ⟨⟨v.toNat / 16384, by omega⟩, UInt16.toNat.inj ?_⟩
    rw [toNat_withQuotient h]
    show s.toNat + 16384 * (v.toNat / 16384) = v.toNat
    omega
  · rintro ⟨q, rfl⟩
    rw [toNat_withQuotient h]
    omega

theorem ncard_mod_count_eq {s : Slot} (h : s.InSpace) :
    {v : UInt16 | v % count.toUInt16 = s}.ncard = 4 := by
  have hset : {v : UInt16 | v % count.toUInt16 = s} = s.withQuotient '' Set.univ := by
    rw [Set.image_univ]
    ext v
    exact mod_count_eq_iff h
  rw [hset, Set.ncard_image_of_injective _ (withQuotient_injective h), Set.ncard_univ,
    Nat.card_fin]

end Slot

namespace Key

/-- A brace among the last two bytes opens no tag. -/
theorem untagged_append_pair {key : Key} (h : tagOpen ∉ key) (a b : UInt8) :
    (key ++ [a, b]).Untagged := by
  by_cases ha : a = tagOpen
  · subst ha
    by_cases hb : b = tagClose
    · subst hb
      exact .blank h
    · exact .notClosed h (by simpa using Ne.symm hb)
  · by_cases hb : b = tagOpen
    · subst hb
      have hopen : tagOpen ∉ key ++ [a] := by
        simpa using ⟨h, Ne.symm ha⟩
      have hkey : key ++ [a, tagOpen] = (key ++ [a]) ++ tagOpen :: [] := by simp
      rw [hkey]
      exact .notClosed hopen List.not_mem_nil
    · exact .notOpened (by simpa using ⟨h, Ne.symm ha, Ne.symm hb⟩)

theorem slot_append_pair {key : Key} (h : tagOpen ∉ key) (a b : UInt8) :
    (key ++ [a, b]).slot = Crc16.checksum (key ++ [a, b]) % Slot.count.toUInt16 := by
  unfold slot
  rw [hashed_of_untagged (untagged_append_pair h a b)]

/-- Four ways to add two bytes to a key lead to a slot. -/
theorem ncard_slot_append_pair {key : Key} (h : tagOpen ∉ key) {s : Slot} (hs : s.InSpace) :
    {e : UInt8 × UInt8 | (key ++ [e.1, e.2]).slot = s}.ncard = 4 := by
  have hbij := Crc16.bijective_checksum_append key
  have hset : {e : UInt8 × UInt8 | (key ++ [e.1, e.2]).slot = s} =
      Set.preimage (fun e => Crc16.checksum (key ++ [e.1, e.2]))
        {v | v % Slot.count.toUInt16 = s} := by
    ext e
    show (key ++ [e.1, e.2]).slot = s ↔ _
    rw [slot_append_pair h]
    rfl
  have hrange : {v | v % Slot.count.toUInt16 = s} ⊆
      Set.range fun e : UInt8 × UInt8 => Crc16.checksum (key ++ [e.1, e.2]) := by
    rw [hbij.2.range_eq]
    exact Set.subset_univ _
  rw [hset, Set.ncard_preimage_of_injective_subset_range hbij.1 hrange, Slot.ncard_mod_count_eq hs]

theorem exists_slot_append_pair {key : Key} (h : tagOpen ∉ key) {s : Slot} (hs : s.InSpace) :
    ∃ a b, (key ++ [a, b]).slot = s := by
  have hne : {e : UInt8 × UInt8 | (key ++ [e.1, e.2]).slot = s}.ncard ≠ 0 := by
    rw [ncard_slot_append_pair h hs]
    decide
  obtain ⟨e, he⟩ := Set.nonempty_of_ncard_ne_zero hne
  exact ⟨e.1, e.2, he⟩

/-- Of all pairs of bytes behind a key without an opening brace, exactly four lead to any given
slot. So each such key can be completed to one of any slot, and no slot is out of reach. -/
theorem slots_evenly_reached :
    (∀ key : Key, tagOpen ∉ key → ∀ s : Slot, s.toNat < 16384 →
      {e : UInt8 × UInt8 | (key ++ [e.1, e.2]).slot = s}.ncard = 4 ∧
        ∃ a b, (key ++ [a, b]).slot = s) ∧
    ∀ s : Slot, s.toNat < 16384 → ∃ key : Key, key.slot = s := by
  refine ⟨fun key h s hs => ⟨ncard_slot_append_pair h hs, exists_slot_append_pair h hs⟩,
    fun s hs => ?_⟩
  obtain ⟨a, b, h⟩ := exists_slot_append_pair List.not_mem_nil hs
  exact ⟨_, h⟩

/-- Exactly four keys of six bytes start with `key:` and belong to the slot 12182. -/
theorem slots_evenly_reached_of_word :
    tagOpen ∉ ([107, 101, 121, 58] : Key) ∧ (12182 : Slot).toNat < 16384 ∧
    {e : UInt8 × UInt8 | Key.slot ([107, 101, 121, 58] ++ [e.1, e.2]) = 12182}.ncard = 4 :=
  ⟨by decide, by decide, (slots_evenly_reached.1 _ (by decide) 12182 (by decide)).1⟩

end Key

end ClusterTopology
