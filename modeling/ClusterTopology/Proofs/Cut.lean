import ClusterTopology.Text.Blank
import Mathlib.Data.List.Basic

/-!
# Cutting a text

`Cut` says what it means to cut a text at every separator, without saying how it is done. There is
exactly one way to do it, and `List.splitOnP` finds it (`cut_iff`). `WhiteSpace` lists one by one
the characters with the Unicode property White_Space; these are the blanks (`isBlank_iff`).
-/

namespace ClusterTopology.Text

/-! ## Pieces between separators -/

/-- The text falls into the pieces: none of them has a separator, and one separator stands between
each and the next. -/
inductive Cut (IsSeparator : Char → Prop) : List Char → List (List Char) → Prop
  | last {piece : List Char} (hpiece : ∀ c ∈ piece, ¬IsSeparator c) : Cut IsSeparator piece [piece]
  | next {piece rest : List Char} {c : Char} {pieces : List (List Char)}
      (hpiece : ∀ c ∈ piece, ¬IsSeparator c) (hc : IsSeparator c)
      (hrest : Cut IsSeparator rest pieces) : Cut IsSeparator (piece ++ c :: rest) (piece :: pieces)

namespace Cut

variable {IsSeparator : Char → Prop} {cs : List Char} {pieces : List (List Char)}

/-- A character in front that is no separator belongs to the first piece. -/
theorem cons {c : Char} (hc : ¬IsSeparator c) (h : Cut IsSeparator cs pieces) :
    Cut IsSeparator (c :: cs) (pieces.modifyHead (c :: ·)) := by
  cases h with
  | last hpiece => exact last (List.forall_mem_cons.mpr ⟨hc, hpiece⟩)
  | next hpiece hsep hrest =>
    exact next (List.forall_mem_cons.mpr ⟨hc, hpiece⟩) hsep hrest

theorem splitOnP_eq {p : Char → Bool} (h : Cut (fun c => p c = true) cs pieces) :
    cs.splitOnP p = pieces := by
  induction h with
  | last hpiece => exact List.splitOnP_eq_singleton fun c hc => Bool.not_eq_true _ ▸ hpiece c hc
  | next hpiece hsep hrest ih =>
    rw [List.splitOnP_append_cons_of_forall_mem
      (fun c hc => Bool.not_eq_true _ ▸ hpiece c hc) _ hsep, ih]

end Cut

theorem cut_splitOnP (p : Char → Bool) (cs : List Char) :
    Cut (fun c => p c = true) cs (cs.splitOnP p) := by
  induction cs with
  | nil =>
    rw [List.splitOnP_nil]
    exact Cut.last fun c hc => absurd hc List.not_mem_nil
  | cons c cs ih =>
    rw [List.splitOnP_cons_eq_if_modifyHead]
    by_cases hc : p c = true
    · rw [if_pos hc]
      exact Cut.next (fun c hc => absurd hc List.not_mem_nil) hc ih
    · rw [if_neg hc]
      exact ih.cons hc

/-- There is exactly one way to cut a text. -/
theorem cut_iff {p : Char → Bool} {cs : List Char} {pieces : List (List Char)} :
    Cut (fun c => p c = true) cs pieces ↔ pieces = cs.splitOnP p :=
  ⟨fun h => h.splitOnP_eq.symm, fun h => h ▸ cut_splitOnP p cs⟩

theorem cut_char_iff {c : Char} {cs : List Char} {pieces : List (List Char)} :
    Cut (· = c) cs pieces ↔ pieces = cs.splitOnP (· == c) := by
  have hc : (· = c) = fun d : Char => (d == c) = true := by
    funext d
    rw [beq_iff_eq]
  rw [hc, cut_iff]

theorem filter_ne_nil (pieces : List (List Char)) :
    pieces.filter (· ≠ []) = pieces.filter (!·.isEmpty) := by
  congr 1
  funext piece
  cases piece <;> rfl

/-! ## White space -/

/-- The code points with the property White_Space. -/
def whiteSpace : List Nat :=
  [0x0009, 0x000A, 0x000B, 0x000C, 0x000D, 0x0020, 0x0085, 0x00A0, 0x1680, 0x2000, 0x2001, 0x2002,
   0x2003, 0x2004, 0x2005, 0x2006, 0x2007, 0x2008, 0x2009, 0x200A, 0x2028, 0x2029, 0x202F, 0x205F,
   0x3000]

def WhiteSpace (c : Char) : Prop := c.toNat ∈ whiteSpace

theorem isBlank_iff {c : Char} : isBlank c = true ↔ WhiteSpace c := by
  unfold isBlank inRanges blankRanges WhiteSpace whiteSpace
  simp only [List.any_cons, List.any_nil, Bool.or_eq_true, Bool.and_eq_true, decide_eq_true_eq,
    Bool.false_eq_true, or_false, List.mem_cons, List.not_mem_nil]
  omega

end ClusterTopology.Text
