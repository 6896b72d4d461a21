import ClusterTopology.Proofs.StatusText

/-!
# Written flags are read back

The tokens of flags may be written in any order, with commas between them and white space around
them (`FlagSet.Lists`). Reading such a text gives the set of these flags
(`FlagSet.outcome_parse_of_lists`).
-/

namespace ClusterTopology

namespace Text

/-- The word, with white space before and after it or without. -/
def Padded (word piece : List Char) : Prop :=
  ∃ left right, piece = left ++ word ++ right ∧ (∀ c ∈ left, WhiteSpace c) ∧
    ∀ c ∈ right, WhiteSpace c

/-- The words in order, each of them padded, with a comma between each and the next. The last one
may be followed by a comma, too. -/
inductive CommaList : List (List Char) → List Char → Prop
  | nil {gap : List Char} (hgap : ∀ c ∈ gap, WhiteSpace c) : CommaList [] gap
  | last {word piece : List Char} (h : Padded word piece) : CommaList [word] piece
  | cons {word piece cs : List Char} {words : List (List Char)} (h : Padded word piece)
      (hrest : CommaList words cs) : CommaList (word :: words) (piece ++ ',' :: cs)

/-- A word that can stand in a list: not empty, and without commas and white space. -/
structure IsListWord (word : List Char) : Prop where
  ne_nil : word ≠ []
  not_comma : ',' ∉ word
  not_whiteSpace : ∀ c ∈ word, ¬WhiteSpace c

theorem not_whiteSpace_comma : ¬WhiteSpace ',' := mt isBlank_iff.mpr (by decide)

section

variable {word piece : List Char} (hw : IsListWord word) (h : Padded word piece)

include hw h

theorem IsListWord.comma_not_mem : ',' ∉ piece := by
  obtain ⟨left, right, rfl, hleft, hright⟩ := h
  simp only [List.mem_append, not_or]
  exact ⟨⟨fun hc => not_whiteSpace_comma (hleft _ hc), hw.not_comma⟩,
    fun hc => not_whiteSpace_comma (hright _ hc)⟩

theorem IsListWord.trim_eq : trim piece = word := by
  obtain ⟨left, right, rfl, hleft, hright⟩ := h
  refine (isTrim_iff.mp ⟨left, right, rfl, hleft, hright, fun c hc => ?_⟩).symm
  exact hw.not_whiteSpace c (hc.elim List.mem_of_head? List.mem_of_getLast?)

end

end Text

namespace FlagSet

open Text

/-! ## Tokens -/

/-- A comma cuts a text in two, whatever stands on either side of it. -/
theorem tokens_append_comma (cs rest : List Char) :
    tokens (cs ++ ',' :: rest) = tokens cs ++ tokens rest := by
  unfold tokens
  rw [List.splitOnP_append_cons cs rest (by decide), List.map_append, List.filter_append]

theorem tokens_of_not_mem {piece : List Char} (h : ',' ∉ piece) :
    tokens piece = [trim piece].filter (!·.isEmpty) := by
  have hpiece : ∀ c ∈ piece, (c == ',') = false := fun _ hc =>
    beq_false_of_ne (ne_of_mem_of_not_mem hc h)
  unfold tokens
  rw [List.splitOnP_eq_singleton hpiece, List.map_singleton]

theorem tokens_of_whiteSpace {gap : List Char} (h : ∀ c ∈ gap, WhiteSpace c) : tokens gap = [] := by
  have hcomma : ',' ∉ gap := fun hc => not_whiteSpace_comma (h _ hc)
  have hnone : ∀ c, ([] : List Char).head? = some c ∨ ([] : List Char).getLast? = some c →
      ¬WhiteSpace c := fun c hc => by simp at hc
  have htrim : trim gap = [] := (isTrim_iff.mp ⟨gap, [], by simp, h, nofun, hnone⟩).symm
  rw [tokens_of_not_mem hcomma, htrim]
  rfl

theorem tokens_of_padded {word piece : List Char} (hw : IsListWord word) (h : Padded word piece) :
    tokens piece = [word] := by
  rw [tokens_of_not_mem (hw.comma_not_mem h), hw.trim_eq h]
  exact List.filter_cons_of_pos (by simpa using hw.ne_nil)

/-- The words of a list are its tokens. -/
theorem tokens_of_commaList {words : List (List Char)} {cs : List Char} (h : CommaList words cs)
    (hwords : ∀ word ∈ words, IsListWord word) : tokens cs = words := by
  induction h with
  | nil hgap => exact tokens_of_whiteSpace hgap
  | last h => exact tokens_of_padded (List.forall_mem_singleton.mp hwords) h
  | cons h hrest ih =>
    obtain ⟨hword, hwords⟩ := List.forall_mem_cons.mp hwords
    rw [tokens_append_comma, tokens_of_padded hword h, ih hwords]
    rfl

/-! ## Flags -/

/-- The text lists the flags by their tokens. -/
def Lists (flags : List Flag) (text : String) : Prop :=
  CommaList (flags.map fun flag => flag.token.toList) text.toList

theorem isListWord_token (flag : Flag) : IsListWord flag.token.toList := by
  have hblank : flag.token.toList.any isBlank = false := by cases flag <;> decide
  refine ⟨by cases flag <;> decide, by cases flag <;> decide, fun c hc hspace => ?_⟩
  exact List.any_eq_false.mp hblank c hc (isBlank_iff.mpr hspace)

theorem tokens_of_lists {flags : List Flag} {text : String} (h : Lists flags text) :
    tokens text.toList = flags.map fun flag => flag.token.toList := by
  refine tokens_of_commaList h fun word hword => ?_
  obtain ⟨flag, -, rfl⟩ := List.mem_map.mp hword
  exact isListWord_token flag

/-- Listed flags are read back as the set of them. -/
theorem outcome_parse_of_lists {flags : List Flag} {text : String} (h : Lists flags text) :
    (parse text).outcome = .ok (ofList flags) := by
  refine outcome_parse_eq_ok_iff.mpr ⟨flags, rfl, ?_⟩
  rw [tokens_of_lists h, List.forall₂_map_left_iff, List.forall₂_same]
  intro flag _
  rw [String.ofList_toList]
  exact Flag.outcome_parse_eq_ok_iff.mpr rfl

/-- A set of flags may be listed in any order, and with repetitions. -/
theorem ofList_eq {flags : List Flag} {s : FlagSet} (h : ∀ flag, flag ∈ flags ↔ flag ∈ s) :
    ofList flags = s := by
  ext flag
  exact Bool.eq_iff_iff.mpr (mem_ofList.trans (h flag))

end FlagSet

end ClusterTopology
