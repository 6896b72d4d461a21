import ClusterTopology.Proofs.FlagText

/-!
# Which flags a text stands for

A text of flags is cut at its commas, and the tokens are what is left of the pieces without the
white space around them (`FlagSet.IsTokens`). The tokens alone decide what is read
(`FlagSet.Outcome`): if each of them is one of eight, the flags with these tokens, and else a
refusal of the first that is not (`FlagSet.parse_follows_tokens`).
-/

namespace ClusterTopology

/-! ## Single tokens -/

namespace Flag

/-- The tokens that name a flag. -/
def wireTokens : List String :=
  ["myself", "master", "slave", "fail", "fail?", "handshake", "noaddr", "noflags"]

theorem map_token_all : all.map token = wireTokens := rfl

theorem mem_wireTokens_iff {t : String} : t ∈ wireTokens ↔ ∃ flag, token flag = t := by
  rw [← map_token_all, List.mem_map]
  exact exists_congr fun flag => and_iff_right (mem_all flag)

theorem exists_outcome_parse_iff {t : String} :
    (∃ flag, (parse t).outcome = .ok flag) ↔ t ∈ wireTokens := by
  rw [mem_wireTokens_iff]
  exact exists_congr fun flag => outcome_parse_eq_ok_iff

/-- What names no flag is refused as it stands. -/
theorem outcome_parse_eq_error_iff {t : String} {e : Refusal} :
    (parse t).outcome = .error e ↔ t ∉ wireTokens ∧ e = .unknownFlag t := by
  have hnone : ofToken? t = none ↔ t ∉ wireTokens := by
    rw [mem_wireTokens_iff, not_exists, Option.eq_none_iff_forall_ne_some]
    exact forall_congr' fun flag => not_congr ofToken?_eq_some_iff
  rw [parse_eq, Logged.outcome_given_eq_error_iff, hnone]

end Flag

namespace FlagSet

/-! ## Tokens of a text -/

/-- The tokens of a text, in order: what is left of the pieces between its commas without white
space at either end, where anything is. -/
def IsTokens (text : String) (ts : List String) : Prop :=
  ∃ pieces cores, Text.Cut (· = ',') text.toList pieces ∧ List.Forall₂ Text.IsTrim pieces cores ∧
    ts = (cores.filter (· ≠ [])).map String.ofList

/-- What tokens come to: the set of their flags, or a refusal of the first that has none. -/
inductive Outcome (ts : List String) : Except Refusal FlagSet → Prop
  | flags {s : FlagSet} (hknown : ∀ t ∈ ts, t ∈ Flag.wireTokens)
      (hs : ∀ flag, flag ∈ s ↔ flag.token ∈ ts) : Outcome ts (.ok s)
  | unknown {before after : List String} {t : String} (hts : ts = before ++ t :: after)
      (hbefore : ∀ u ∈ before, u ∈ Flag.wireTokens) (ht : t ∉ Flag.wireTokens) :
      Outcome ts (.error (.unknownFlag t))

theorem forall₂_isTrim_iff {pieces cores : List (List Char)} :
    List.Forall₂ Text.IsTrim pieces cores ↔ cores = pieces.map Text.trim := by
  rw [eq_comm, ← List.forall₂_eq_eq_eq, List.forall₂_map_left_iff]
  constructor
  · exact .imp fun _ _ h => (Text.isTrim_iff.mp h).symm
  · exact .imp fun _ _ h => Text.isTrim_iff.mpr h.symm

theorem isTokens_iff {text : String} {ts : List String} :
    IsTokens text ts ↔ ts = (tokens text.toList).map String.ofList := by
  unfold IsTokens tokens
  simp only [Text.cut_char_iff, forall₂_isTrim_iff, exists_and_left, exists_eq_left,
    Text.filter_ne_nil]

/-! ## Reading a text -/

section

variable {text : String} {ts : List String} (h : IsTokens text ts)

include h

theorem IsTokens.outcome_parse :
    (parse text).outcome = (ts.mapM fun t => (Flag.parse t).outcome).map ofList := by
  rw [isTokens_iff.mp h, FlagSet.outcome_parse, List.mapM_map]
  rfl

theorem IsTokens.exists_outcome_eq_ok_iff :
    (∃ s, (parse text).outcome = .ok s) ↔ ∀ t ∈ ts, t ∈ Flag.wireTokens := by
  rw [h.outcome_parse, exists_map_eq_ok_iff, exists_mapM_eq_ok_iff]
  simp only [Flag.exists_outcome_parse_iff]

theorem IsTokens.mem_iff {s : FlagSet} (hs : (parse text).outcome = .ok s) (flag : Flag) :
    flag ∈ s ↔ flag.token ∈ ts := by
  have hne : flag.token ≠ "" := by cases flag <;> decide
  rw [mem_of_parse hs, hasToken_iff hne, isTokens_iff.mp h, List.mem_map]
  constructor
  · intro hmem
    exact ⟨_, hmem, String.ofList_toList⟩
  · rintro ⟨token, hmem, heq⟩
    rwa [← heq, String.toList_ofList]

theorem IsTokens.outcome_eq_ok_iff {s : FlagSet} : (parse text).outcome = .ok s ↔
    (∀ t ∈ ts, t ∈ Flag.wireTokens) ∧ ∀ flag, flag ∈ s ↔ flag.token ∈ ts := by
  constructor
  · intro hs
    exact ⟨h.exists_outcome_eq_ok_iff.mp ⟨s, hs⟩, h.mem_iff hs⟩
  · rintro ⟨hknown, hmem⟩
    obtain ⟨s', hs'⟩ := h.exists_outcome_eq_ok_iff.mpr hknown
    have heq : s' = s := by
      ext flag
      exact Bool.eq_iff_iff.mpr ((h.mem_iff hs' flag).trans (hmem flag).symm)
    rw [hs', heq]

/-- The first token that names no flag is the one that is refused. -/
theorem IsTokens.outcome_eq_error_iff {e : Refusal} : (parse text).outcome = .error e ↔
    ∃ before t after, ts = before ++ t :: after ∧ (∀ u ∈ before, u ∈ Flag.wireTokens) ∧
      t ∉ Flag.wireTokens ∧ e = .unknownFlag t := by
  rw [h.outcome_parse, map_eq_error_iff, mapM_eq_error_iff]
  simp only [Flag.exists_outcome_parse_iff, Flag.outcome_parse_eq_error_iff]

theorem IsTokens.outcome_iff (r : Except Refusal FlagSet) :
    Outcome ts r ↔ (parse text).outcome = r := by
  cases r with
  | ok s =>
    rw [h.outcome_eq_ok_iff]
    constructor
    · rintro ⟨hknown, hs⟩
      exact ⟨hknown, hs⟩
    · rintro ⟨hknown, hs⟩
      exact .flags hknown hs
  | error e =>
    rw [h.outcome_eq_error_iff]
    constructor
    · intro houtcome
      cases houtcome with
      | unknown hts hbefore ht => exact ⟨_, _, _, hts, hbefore, ht, rfl⟩
    · rintro ⟨before, t, after, hts, hbefore, ht, rfl⟩
      exact .unknown hts hbefore ht

/-- A node with the flags of a text has failed if one of two tokens says so. -/
theorem IsTokens.isFailing_iff {n : ClusterNode} (hn : (parse text).outcome = .ok n.flags) :
    n.isFailing = true ↔ "fail" ∈ ts ∨ "fail?" ∈ ts := by
  rw [ClusterNode.isFailing_iff, h.mem_iff hn, h.mem_iff hn]
  rfl

end

/-- A text has one list of tokens, and these alone decide what is read: the flags that they name, or
a refusal of the first one that names none. So it does not matter in which order and how often the
tokens occur. No two flags have a common token, listed flags are read back, and a node has failed if
one of two tokens says so. -/
theorem parse_follows_tokens :
    (∀ text, ∃! ts, IsTokens text ts) ∧
    (∀ text ts, IsTokens text ts → ∀ r, Outcome ts r ↔ (parse text).outcome = r) ∧
    (∀ text text' ts ts' s, IsTokens text ts → IsTokens text' ts' → (∀ t, t ∈ ts ↔ t ∈ ts') →
      ((parse text).outcome = .ok s ↔ (parse text').outcome = .ok s)) ∧
    (∀ flag flag' : Flag, flag.token = flag'.token → flag = flag') ∧
    (∀ flags text, Lists flags text →
      ∃ s, (parse text).outcome = .ok s ∧ ∀ flag, flag ∈ s ↔ flag ∈ flags) ∧
    ∀ text ts, ∀ n : ClusterNode, IsTokens text ts → (parse text).outcome = .ok n.flags →
      (n.isFailing = true ↔ "fail" ∈ ts ∨ "fail?" ∈ ts) := by
  refine ⟨fun text => ⟨_, isTokens_iff.mpr rfl, fun ts => isTokens_iff.mp⟩,
    fun text ts h => h.outcome_iff, fun text text' ts ts' s h h' hmem => ?_,
    fun flag flag' h => Flag.token_injective h,
    fun flags text h => ⟨_, outcome_parse_of_lists h, fun flag => mem_ofList⟩,
    fun text ts n h => h.isFailing_iff⟩
  rw [h.outcome_eq_ok_iff, h'.outcome_eq_ok_iff]
  simp only [hmem]

/-- The second of three tokens is the first that is not known, and a suspected failure is read with
white space around it. -/
theorem parse_follows_tokens_of_spaced :
    (IsTokens "fail?,, MASTER ,x" ["fail?", "MASTER", "x"] ∧
      (parse "fail?,, MASTER ,x").outcome = .error (.unknownFlag "MASTER")) ∧
    ∃ n : ClusterNode, (parse " fail? ,").outcome = .ok n.flags ∧ n.isFailing = true := by
  have htokens : IsTokens "fail?,, MASTER ,x" ["fail?", "MASTER", "x"] :=
    isTokens_iff.mpr (by decide)
  have hunknown : Outcome ["fail?", "MASTER", "x"] (.error (.unknownFlag "MASTER")) :=
    @Outcome.unknown _ ["fail?"] ["x"] _ rfl (by decide) (by decide)
  have hsuspected : IsTokens " fail? ," ["fail?"] := isTokens_iff.mpr (by decide)
  have hflags : (parse " fail? ,").outcome = .ok (ofList [.possibleFail]) := by
    refine (parse_follows_tokens.2.1 _ _ hsuspected _).mp (.flags (by decide) fun flag => ?_)
    cases flag <;> decide
  exact ⟨⟨htokens, (parse_follows_tokens.2.1 _ _ htokens _).mp hunknown⟩,
    { node := {}, flags := ofList [.possibleFail] }, hflags,
    (parse_follows_tokens.2.2.2.2.2 _ _ _ hsuspected hflags).mpr (.inr (by decide))⟩

end FlagSet

end ClusterTopology
