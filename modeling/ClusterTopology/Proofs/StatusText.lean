import ClusterTopology.ClusterNode.Basic
import ClusterTopology.Proofs.Cut
import ClusterTopology.Proofs.Except
import ClusterTopology.Proofs.Trace
import ClusterTopology.Status.Parser
import Mathlib.Data.List.TakeWhile

/-!
# What a status text says

A text of flags is cut at its commas, and white space around a piece does not count (`HasToken`).
The flags that are read are those whose tokens the text has (`FlagSet.mem_of_parse`). A link state
is read from its token only (`LinkState.outcome_parse_eq_ok_iff`).
-/

namespace ClusterTopology

namespace Text

/-! ## Trimming -/

/-- What is left of the text without the white space at its two ends. -/
def IsTrim (cs core : List Char) : Prop :=
  ∃ left right, cs = left ++ core ++ right ∧ (∀ c ∈ left, WhiteSpace c) ∧
    (∀ c ∈ right, WhiteSpace c) ∧
    ∀ c, core.head? = some c ∨ core.getLast? = some c → ¬WhiteSpace c

theorem dropWhile_isBlank_eq_iff {cs rest : List Char} :
    cs.dropWhile isBlank = rest ↔ ∃ front, cs = front ++ rest ∧ (∀ c ∈ front, WhiteSpace c) ∧
      ∀ c, rest.head? = some c → ¬WhiteSpace c := by
  constructor
  · rintro rfl
    refine ⟨cs.takeWhile isBlank, List.takeWhile_append_dropWhile.symm, fun c hc => ?_,
      fun c hc => ?_⟩
    · exact isBlank_iff.mp (List.mem_takeWhile_imp hc)
    · have hnot := List.head?_dropWhile_not isBlank cs
      rw [hc] at hnot
      rw [← isBlank_iff, hnot]
      exact Bool.false_ne_true
  · rintro ⟨front, rfl, hfront, hrest⟩
    rw [List.dropWhile_append_of_pos fun c hc => isBlank_iff.mpr (hfront c hc)]
    cases rest with
    | nil => rfl
    | cons c rest => exact List.dropWhile_cons_of_neg (mt isBlank_iff.mp (hrest c rfl))

/-- There is exactly one way to trim a text. -/
theorem isTrim_iff {cs core : List Char} : IsTrim cs core ↔ core = trim cs := by
  unfold trim
  constructor
  · rintro ⟨left, right, rfl, hleft, hright, hcore⟩
    by_cases hnil : core = []
    · have hfront : (left ++ core ++ right).dropWhile isBlank = [] := by
        rw [hnil, List.append_nil, List.dropWhile_eq_nil_iff]
        intro c hc
        exact isBlank_iff.mpr ((List.mem_append.mp hc).elim (hleft c) (hright c))
      rw [hfront, hnil]
      rfl
    · have hfront : (left ++ core ++ right).dropWhile isBlank = core ++ right :=
        dropWhile_isBlank_eq_iff.mpr ⟨left, List.append_assoc .., hleft, fun c hc =>
          hcore c (.inl (by rwa [List.head?_append_of_ne_nil _ hnil] at hc))⟩
      have hback : (core ++ right).reverse.dropWhile isBlank = core.reverse :=
        dropWhile_isBlank_eq_iff.mpr ⟨right.reverse, List.reverse_append, fun c hc =>
          hright c (List.mem_reverse.mp hc), fun c hc =>
          hcore c (.inr (by rwa [List.head?_reverse] at hc))⟩
      rw [hfront, hback, List.reverse_reverse]
  · intro h
    obtain ⟨left, hcs, hleft, hhead⟩ :=
      dropWhile_isBlank_eq_iff.mp (rfl : cs.dropWhile isBlank = cs.dropWhile isBlank)
    obtain ⟨back, hrest, hback, hlast⟩ :=
      dropWhile_isBlank_eq_iff.mp (List.reverse_eq_iff.mp h.symm)
    rw [List.reverse_eq_iff, List.reverse_append, List.reverse_reverse] at hrest
    refine ⟨left, back.reverse, by rw [List.append_assoc, ← hrest, ← hcs], hleft,
      fun c hc => hback c (List.mem_reverse.mp hc), ?_⟩
    rintro c (hc | hc)
    · refine hhead c ?_
      rw [hrest, List.head?_append, hc, Option.some_or]
    · exact hlast c (by rw [List.head?_reverse, hc])

end Text

/-! ## Flags -/

/-- The text has the token between two commas, up to white space around it. -/
def HasToken (text token : String) : Prop :=
  ∃ pieces, Text.Cut (· = ',') text.toList pieces ∧ ∃ piece ∈ pieces, Text.IsTrim piece token.toList

theorem hasToken_iff {text token : String} (h : token ≠ "") :
    HasToken text token ↔ token.toList ∈ FlagSet.tokens text.toList := by
  have hne : (!token.toList.isEmpty) = true := by simpa using h
  unfold HasToken FlagSet.tokens
  simp only [Text.cut_char_iff, exists_eq_left, Text.isTrim_iff]
  rw [List.mem_filter, and_iff_left hne, List.mem_map]
  exact exists_congr fun piece => and_congr_right fun _ => eq_comm

/-- Where every element is found by its own token, it is found by no other. -/
theorem find?_token_eq_some_iff {α : Type} {all : List α} {token : α → String}
    (hself : ∀ a, all.find? (token · == token a) = some a) {text : String} {a : α} :
    all.find? (token · == text) = some a ↔ token a = text := by
  constructor
  · intro h
    have htoken := List.find?_some h
    exact beq_iff_eq.mp htoken
  · rintro rfl
    exact hself a

namespace Flag

theorem ofToken?_eq_some_iff {text : String} {flag : Flag} :
    ofToken? text = some flag ↔ flag.token = text :=
  find?_token_eq_some_iff fun flag => by cases flag <;> rfl

theorem token_injective : Function.Injective token := fun _ _ h =>
  Option.some.inj ((ofToken?_eq_some_iff.mpr h).symm.trans (ofToken?_eq_some_iff.mpr rfl))

theorem parse_eq (token : String) : parse token =
    Logged.given (ofToken? token) (.unknownFlag token) (.unknownFlag token) := by
  unfold parse
  cases ofToken? token <;> rfl

theorem appends_parse (token : String) : (parse token).Appends := by
  rw [parse_eq]
  exact Logged.appends_given _ _ _

/-- A token is read as the flag that it belongs to. -/
theorem outcome_parse_eq_ok_iff {token : String} {flag : Flag} :
    (parse token).outcome = .ok flag ↔ flag.token = token := by
  rw [parse_eq, Logged.outcome_given_eq_ok_iff, ofToken?_eq_some_iff]

end Flag

namespace FlagSet

/-- A text is read token by token. -/
theorem outcome_parse (text : String) : (parse text).outcome = ((tokens text.toList).mapM
    fun token => (Flag.parse (String.ofList token)).outcome).map ofList := by
  unfold parse
  rw [Logged.outcome_bind _ fun _ => Logged.appends_pure _,
    Logged.outcome_mapM fun token => Flag.appends_parse (String.ofList token)]
  cases (tokens text.toList).mapM fun token => (Flag.parse (String.ofList token)).outcome <;> rfl

theorem outcome_parse_eq_ok_iff {text : String} {s : FlagSet} :
    (parse text).outcome = .ok s ↔ ∃ flags, s = ofList flags ∧
      List.Forall₂ (fun token flag => (Flag.parse (String.ofList token)).outcome = .ok flag)
        (tokens text.toList) flags := by
  rw [outcome_parse]
  simp only [← mapM_eq_ok_iff]
  cases (tokens text.toList).mapM fun token => (Flag.parse (String.ofList token)).outcome with
  | error e => exact ⟨nofun, nofun⟩
  | ok flags =>
    constructor
    · rintro ⟨⟩
      exact ⟨flags, rfl, rfl⟩
    · rintro ⟨_, rfl, ⟨⟩⟩
      rfl

theorem mem_iff_of_reads {tokens : List (List Char)} {flags : List Flag}
    (h : List.Forall₂ (fun token flag => (Flag.parse (String.ofList token)).outcome = .ok flag)
      tokens flags) (flag : Flag) : flag ∈ flags ↔ flag.token.toList ∈ tokens := by
  induction h with
  | nil => exact iff_of_false List.not_mem_nil List.not_mem_nil
  | @cons token a tokens flags ha _ ih =>
    have htoken : a.token.toList = token := by
      rw [Flag.outcome_parse_eq_ok_iff.mp ha, String.toList_ofList]
    rw [List.mem_cons, List.mem_cons, ih, ← htoken, String.toList_inj, Flag.token_injective.eq_iff]

/-- The flags that are read are those whose tokens the text has. -/
theorem mem_of_parse {text : String} {s : FlagSet} (h : (parse text).outcome = .ok s)
    (flag : Flag) : flag ∈ s ↔ HasToken text flag.token := by
  obtain ⟨flags, rfl, hread⟩ := outcome_parse_eq_ok_iff.mp h
  rw [mem_ofList, mem_iff_of_reads hread, hasToken_iff (by cases flag <;> decide)]

end FlagSet

theorem ClusterNode.isFailing_iff {n : ClusterNode} :
    n.isFailing = true ↔ .fail ∈ n.flags ∨ .possibleFail ∈ n.flags := by
  unfold isFailing Flag.isFailure
  simp only [List.any_eq_true, FlagSet.mem_toList, Bool.or_eq_true, beq_iff_eq]
  constructor
  · rintro ⟨_, hmem, rfl | rfl⟩
    · exact .inl hmem
    · exact .inr hmem
  · rintro (hmem | hmem)
    · exact ⟨_, hmem, .inl rfl⟩
    · exact ⟨_, hmem, .inr rfl⟩

/-! ## Link states -/

namespace LinkState

theorem ofToken?_eq_some_iff {text : String} {link : LinkState} :
    ofToken? text = some link ↔ link.token = text :=
  find?_token_eq_some_iff fun link => by cases link <;> rfl

theorem parse_eq (token : String) : parse token =
    Logged.given (ofToken? token) (.unknownLinkState token) (.unknownLinkState token) := by
  unfold parse
  cases ofToken? token <;> rfl

theorem appends_parse (token : String) : (parse token).Appends := by
  rw [parse_eq]
  exact Logged.appends_given _ _ _

theorem outcome_parse_eq_ok_iff {token : String} {link : LinkState} :
    (parse token).outcome = .ok link ↔ link.token = token := by
  rw [parse_eq, Logged.outcome_given_eq_ok_iff, ofToken?_eq_some_iff]

end LinkState

end ClusterTopology
