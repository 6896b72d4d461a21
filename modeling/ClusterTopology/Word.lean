/-!
# Words of a bitmap

A word is read as a set of positions below `Word.bits`, position `0` for its least significant bit.
-/

namespace ClusterTopology.Word

/-- The number of positions of a word. -/
def bits : Nat := 64

/-- The word whose only position is `i`. -/
def mask (i : Nat) : UInt64 := 1 <<< i.toUInt64

/-- Is position `i` in the word? -/
def hasBit (w : UInt64) (i : Nat) : Bool := w &&& mask i != 0

/-- The word with position `i` added. -/
def setBit (w : UInt64) (i : Nat) : UInt64 := w ||| mask i

/-- The number of positions in the word. -/
def popCount (w : UInt64) : Nat := (List.range bits).countP (hasBit w)

/-- The least position in the word, or `bits` if there is none. -/
def lowest (w : UInt64) : Nat := search bits 0
where
  /-- The least position among the next `n` from `i` on, or the one after them. -/
  search : Nat → Nat → Nat
    | 0, i => i
    | n + 1, i => if hasBit w i then i else search n (i + 1)

/-- The word without its least position: subtracting one clears that bit and sets only bits below
it, which the word does not have. -/
def clearLowest (w : UInt64) : UInt64 := w &&& (w - 1)

/-! ## Positions -/

theorem hasBit_zero (i : Nat) : hasBit 0 i = false := by simp [hasBit]

theorem toNat_mask {i : Nat} (h : i < bits) : (mask i).toNat = 1 <<< i := by
  have hi : i.toUInt64.toNat % 64 = i := by
    rw [Nat.toUInt64_eq, UInt64.toNat_ofNat', Nat.mod_eq_of_lt (Nat.lt_trans h (by decide))]
    exact Nat.mod_eq_of_lt h
  have hlt : 2 ^ i < 2 ^ 64 := Nat.pow_lt_pow_right (by decide) h
  rw [mask, UInt64.toNat_shiftLeft, hi, UInt64.toNat_one, Nat.one_shiftLeft,
    Nat.mod_eq_of_lt hlt]

/-- The positions of a word are the binary digits `1` of its number. -/
theorem hasBit_eq_testBit (w : UInt64) {i : Nat} (h : i < bits) :
    hasBit w i = w.toNat.testBit i := by
  rw [hasBit, Bool.eq_iff_iff, bne_iff_ne, ne_eq, ← UInt64.toNat_inj, UInt64.toNat_and,
    toNat_mask h, Nat.one_shiftLeft, UInt64.toNat_zero]
  constructor
  · intro h0
    by_cases hb : w.toNat.testBit i = true
    · exact hb
    · refine absurd (Nat.eq_of_testBit_eq fun j => ?_) h0
      rw [Nat.testBit_and, Nat.testBit_two_pow, Nat.zero_testBit]
      grind
  · intro hb h0
    have := congrArg (Nat.testBit · i) h0
    simp [Nat.testBit_and, hb, Nat.testBit_two_pow_self] at this

/-- Adding a position leaves all others as they are. -/
theorem hasBit_setBit (w : UInt64) {i j : Nat} (hi : i < bits) (hj : j < bits) :
    hasBit (setBit w i) j = (i == j || hasBit w j) := by
  rw [hasBit_eq_testBit _ hj, hasBit_eq_testBit _ hj, setBit, UInt64.toNat_or, toNat_mask hi,
    Nat.one_shiftLeft, Nat.testBit_or, Nat.testBit_two_pow, Bool.or_comm]
  rfl

/-- Clearing the least position makes the number of the word smaller. -/
theorem clearLowest_lt {w : UInt64} (h : w ≠ 0) : clearLowest w < w := by
  have h0 : w.toNat ≠ 0 := fun e => h (UInt64.toNat.inj (by simpa using e))
  have h1 : (w - 1).toNat = w.toNat - 1 := by
    rw [UInt64.toNat_sub_of_le _ _ (by rw [UInt64.le_iff_toNat_le]; simp; omega)]
    rfl
  rw [UInt64.lt_iff_toNat_lt, clearLowest, UInt64.toNat_and, h1]
  have := @Nat.and_le_right w.toNat (w.toNat - 1)
  omega

end ClusterTopology.Word
