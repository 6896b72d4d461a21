import ClusterTopology.Node.Draft
import ClusterTopology.Proofs.Numeral

/-!
# Addresses are unambiguous

The host and the port of a node are read back from its address (`Node.readAddress?`). The last colon
stands before the port, as a numeral has none, and what stands before it has another colon only if
it is a host in brackets. So two nodes have the same address only if they have the same host and the
same port (`Node.address_is_unambiguous`).
-/

namespace ClusterTopology

/-! ## The last colon -/

namespace Text

/-- What stands before the last `c` of a text, and what stands behind it. -/
def cutAtLast (c : Char) : List Char → Option (List Char × List Char)
  | [] => none
  | d :: cs =>
    match cutAtLast c cs with
    | some (before, behind) => some (d :: before, behind)
    | none => if d = c then some ([], cs) else none

theorem cutAtLast_of_not_mem {c : Char} {behind : List Char} (h : c ∉ behind) :
    cutAtLast c behind = none := by
  induction behind with
  | nil => rfl
  | cons d cs ih =>
    obtain ⟨hd, hcs⟩ := not_or.mp (mt List.mem_cons.mpr h)
    unfold cutAtLast
    rw [ih hcs]
    exact if_neg (Ne.symm hd)

theorem cutAtLast_append_cons (before : List Char) {c : Char} {behind : List Char}
    (h : c ∉ behind) : cutAtLast c (before ++ c :: behind) = some (before, behind) := by
  induction before with
  | nil =>
    show cutAtLast c (c :: behind) = _
    unfold cutAtLast
    rw [cutAtLast_of_not_mem h]
    exact if_pos rfl
  | cons d before ih =>
    show cutAtLast c (d :: (before ++ c :: behind)) = _
    unfold cutAtLast
    rw [ih]

/-- There is one way at most to cut a text at its last `c`. -/
theorem cutAtLast_eq_some_iff {c : Char} {cs before behind : List Char} :
    cutAtLast c cs = some (before, behind) ↔ cs = before ++ c :: behind ∧ c ∉ behind := by
  constructor
  · intro h
    by_cases hc : c ∈ cs
    · -- the last place of `c` is its first one in the reversed text
      obtain ⟨front, back, hrev, hfront⟩ := List.eq_append_cons_of_mem (List.mem_reverse.mpr hc)
      have hcs : cs = back.reverse ++ c :: front.reverse := by
        rw [← List.reverse_reverse cs, hrev]
        simp
      have hlast : c ∉ front.reverse := mt List.mem_reverse.mp hfront
      rw [hcs, cutAtLast_append_cons _ hlast] at h
      cases h
      exact ⟨hcs, hlast⟩
    · rw [cutAtLast_of_not_mem hc] at h
      cases h
  · rintro ⟨rfl, h⟩
    exact cutAtLast_append_cons before h

end Text

namespace Node

/-! ## Reading an address -/

/-- The host that an address begins with. If it has a colon, it stands between brackets. -/
def readHost (cs : List Char) : List Char := if ':' ∈ cs then cs.tail.dropLast else cs

/-- The host and the port of an address, with the last colon between them. -/
def readAddress? (address : String) : Option (String × UInt16) := do
  let (host, port) ← Text.cutAtLast ':' address.toList
  let port ← Text.number? port
  if port < UInt16.size then some (String.ofList (readHost host), port.toUInt16) else none

theorem readHost_of_mem {host : List Char} (h : ':' ∈ host) :
    readHost ('[' :: host ++ [']']) = host := by
  have hmem : ':' ∈ '[' :: host ++ [']'] :=
    List.mem_append_left _ (List.mem_cons_of_mem _ h)
  unfold readHost
  rw [if_pos hmem, List.cons_append, List.tail_cons, List.dropLast_concat]

theorem readHost_of_not_mem {host : List Char} (h : ':' ∉ host) : readHost host = host := if_neg h

theorem colon_not_mem_decimal (n : ℕ) : ':' ∉ Text.decimal n := fun h =>
  absurd (Text.isDigit_of_mem_decimal h) (by decide)

/-- What is written is read back, whatever characters the host has. -/
theorem readAddress?_addressChars (host : List Char) (port : UInt16) :
    readAddress? (String.ofList (addressChars host port)) = some (String.ofList host, port) := by
  have hport := port.toNat_lt
  have hnumber : Text.number? (Text.decimal port.toNat) = some port.toNat :=
    Text.number?_decimal (hport.trans (by decide))
  have hhost : readHost (if ':' ∈ host then '[' :: host ++ [']'] else host) = host := by
    split_ifs with hcolon
    · exact readHost_of_mem hcolon
    · exact readHost_of_not_mem hcolon
  unfold readAddress? addressChars
  rw [String.toList_ofList, Text.cutAtLast_append_cons _ (colon_not_mem_decimal _)]
  simp only [Option.bind_eq_bind, Option.bind_some, hnumber, hhost, if_pos hport]
  rw [Nat.toUInt16_eq, UInt16.ofNat_toNat]

/-! ## Addresses of nodes -/

theorem address_eq_some_iff {n : Node} {text : String} : n.address = some text ↔
    ∃ host port, n.host = some host ∧ n.port = some port ∧
      text = String.ofList (addressChars host.toList port) := by
  unfold address
  cases n.host with
  | none => simp
  | some host =>
    cases n.port with
    | none => simp
    | some port => simp [eq_comm]

theorem readAddress?_of_address {n : Node} {text : String} (h : n.address = some text) :
    ∃ host port, n.host = some host ∧ n.port = some port ∧
      readAddress? text = some (host, port) := by
  obtain ⟨host, port, hhost, hport, rfl⟩ := address_eq_some_iff.mp h
  refine ⟨host, port, hhost, hport, ?_⟩
  rw [readAddress?_addressChars, String.ofList_toList]

theorem address_eq_iff {a b : Node} (h : a.address.isSome) :
    a.address = b.address ↔ a.host = b.host ∧ a.port = b.port := by
  constructor
  · intro heq
    obtain ⟨text, htext⟩ := Option.isSome_iff_exists.mp h
    obtain ⟨host, port, hhost, hport, hread⟩ := readAddress?_of_address htext
    obtain ⟨host', port', hhost', hport', hread'⟩ := readAddress?_of_address (heq ▸ htext)
    obtain ⟨rfl, rfl⟩ := Prod.mk.inj (Option.some.inj (hread.symm.trans hread'))
    exact ⟨hhost.trans hhost'.symm, hport.trans hport'.symm⟩
  · rintro ⟨hhost, hport⟩
    unfold address
    rw [hhost, hport]

theorem listeningAt_eq_ok {host : String} (h : host ≠ "") (port : UInt16) :
    listeningAt host port = .ok { host := some host, port := some port } := by
  have hhost : ¬some host = some "" := fun heq => h (Option.some.inj heq)
  exact (if_neg hhost).trans (if_neg nofun)

/-- Addresses are unambiguous. Every host that is not empty and every port make a node with an
address, two nodes have the same address exactly if they have the same host and the same port, and
both are read back from it: what stands behind the last colon is the port, and what stands before it
is the host, between brackets if it has another colon. -/
theorem address_is_unambiguous :
    (∀ host port, host ≠ "" → ∃ n, listeningAt host port = .ok n ∧ n.host = some host ∧
      n.port = some port ∧ n.address.isSome) ∧
    (∀ a b : Node, a.address.isSome →
      (a.address = b.address ↔ a.host = b.host ∧ a.port = b.port)) ∧
    (∀ cs before behind, Text.cutAtLast ':' cs = some (before, behind) ↔
      cs = before ++ ':' :: behind ∧ ':' ∉ behind) ∧
    ∀ n : Node, ∀ text, n.address = some text → ∃ host port, n.host = some host ∧
      n.port = some port ∧ readAddress? text = some (host, port) := by
  refine ⟨fun host port h => ⟨_, listeningAt_eq_ok h port, rfl, rfl, rfl⟩,
    fun a b h => address_eq_iff h, fun cs before behind => Text.cutAtLast_eq_some_iff,
    fun n text h => readAddress?_of_address h⟩

/-- A host that looks like a host in brackets has an address of its own. -/
theorem address_is_unambiguous_of_bracketed :
    ∃ a b, listeningAt "::1" 6379 = .ok a ∧ listeningAt "[::1]" 6379 = .ok b ∧
      a.address = some "[::1]:6379" ∧ a.address ≠ b.address ∧
      readAddress? "[::1]:6379" = some ("::1", 6379) := by
  obtain ⟨a, ha, hhost, hport, hsome⟩ := address_is_unambiguous.1 "::1" 6379 (by decide)
  obtain ⟨b, hb, hhost', -, -⟩ := address_is_unambiguous.1 "[::1]" 6379 (by decide)
  have haddress : a.address = some "[::1]:6379" := by
    unfold address
    rw [hhost, hport]
    rfl
  refine ⟨a, b, ha, hb, haddress, fun heq => ?_, ?_⟩
  · have hsame := ((address_is_unambiguous.2.1 a b hsome).mp heq).1
    rw [hhost, hhost'] at hsame
    exact absurd hsame (by decide)
  · obtain ⟨host, port, hh, hp, hread⟩ := address_is_unambiguous.2.2.2 a _ haddress
    rw [hhost] at hh
    rw [hport] at hp
    rw [hread, Option.some.inj hh, Option.some.inj hp]

end Node

end ClusterTopology
