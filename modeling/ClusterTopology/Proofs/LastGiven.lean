import Mathlib.Data.List.Induction

/-!
# The last element that counts

Of a sequence of elements of several kinds, often only the last one of each kind counts.
`lastOf` finds it, and `lastGiven` what it gives. The last one of every kind stays the same when
neighbours of different kinds change places (`lastOf_swap`), and when an element goes that is
followed by one of its kind (`lastOf_drop`).
-/

namespace ClusterTopology

variable {α β γ κ : Type}

/-- What is given by the last element that gives anything. -/
def lastGiven (f : α → Option β) (xs : List α) : Option β := (xs.filterMap f).getLast?

@[simp] theorem lastGiven_append (f : α → Option β) (xs ys : List α) :
    lastGiven f (xs ++ ys) = (lastGiven f ys).or (lastGiven f xs) := by
  unfold lastGiven
  rw [List.filterMap_append, List.getLast?_append]

@[simp] theorem lastGiven_singleton (f : α → Option β) (x : α) : lastGiven f [x] = f x := by
  unfold lastGiven
  cases h : f x <;> simp [h]

theorem lastGiven_concat (f : α → Option β) (xs : List α) (x : α) :
    lastGiven f (xs ++ [x]) = (f x).or (lastGiven f xs) := by
  rw [lastGiven_append, lastGiven_singleton]

theorem lastGiven_cons (f : α → Option β) (x : α) (xs : List α) :
    lastGiven f (x :: xs) = (lastGiven f xs).or (f x) := by
  rw [← List.singleton_append, lastGiven_append, lastGiven_singleton]

@[simp] theorem lastGiven_toList_map (f : α → Option β) (g : γ → α) (o : Option γ) :
    lastGiven f (o.toList.map g) = o.bind fun c => f (g c) := by
  cases o with
  | none => rfl
  | some c => exact lastGiven_singleton f (g c)

theorem lastGiven_eq_none_iff {f : α → Option β} {xs : List α} :
    lastGiven f xs = none ↔ ∀ x ∈ xs, f x = none := by
  unfold lastGiven
  rw [List.getLast?_eq_none_iff, List.filterMap_eq_nil_iff]

/-- Elements that are passed on by `g` count as what they are passed on as. -/
theorem lastGiven_filterMap (g : α → Option γ) (f : γ → Option β) (xs : List α) :
    lastGiven f (xs.filterMap g) = lastGiven (fun x => (g x).bind f) xs := by
  unfold lastGiven
  rw [List.filterMap_filterMap]

/-- Elements that give nothing do not count. -/
theorem lastGiven_filter {f : α → Option β} {p : α → Bool}
    (h : ∀ x, (f x).isSome = true → p x = true) (xs : List α) :
    lastGiven f (xs.filter p) = lastGiven f xs := by
  have hf : (fun x => if p x = true then f x else none) = f := funext fun x => by
    split_ifs with hp
    · rfl
    · exact (Option.not_isSome_iff_eq_none.mp (mt (h x) hp)).symm
  unfold lastGiven
  rw [List.filterMap_filter, hf]

section Kinds

variable [DecidableEq κ] (kind : α → κ) (k : κ)

/-- The last element of a kind. -/
def lastOf (xs : List α) : Option α := (xs.filter (kind · = k)).getLast?

theorem lastOf_append (xs ys : List α) :
    lastOf kind k (xs ++ ys) = (lastOf kind k ys).or (lastOf kind k xs) := by
  unfold lastOf
  rw [List.filter_append, List.getLast?_append]

theorem lastOf_singleton (x : α) : lastOf kind k [x] = if kind x = k then some x else none := by
  unfold lastOf
  by_cases h : kind x = k <;> simp [h]

variable {kind k}

theorem isSome_lastOf {xs : List α} {x : α} (hx : x ∈ xs) (h : kind x = k) :
    (lastOf kind k xs).isSome = true := by
  unfold lastOf
  rw [Option.isSome_iff_ne_none, ne_eq, List.getLast?_eq_none_iff]
  exact List.ne_nil_of_mem (List.mem_filter.mpr ⟨hx, decide_eq_true h⟩)

/-- What is given by the elements of one kind is given by the last of that kind. -/
theorem lastGiven_eq_bind {f : α → Option β} (hf : ∀ x, (f x).isSome = true ↔ kind x = k)
    (xs : List α) : lastGiven f xs = (lastOf kind k xs).bind f := by
  induction xs using List.reverseRecOn with
  | nil => rfl
  | append_singleton xs x ih =>
    rw [lastGiven_concat, lastOf_append, lastOf_singleton, ih]
    by_cases hx : kind x = k
    · obtain ⟨b, hb⟩ := Option.isSome_iff_exists.mp ((hf x).mpr hx)
      rw [if_pos hx, hb, Option.some_or, Option.some_or, Option.bind_some, hb]
    · have hnone : f x = none := Option.not_isSome_iff_eq_none.mp (mt (hf x).mp hx)
      rw [if_neg hx, hnone, Option.none_or, Option.none_or]

theorem lastGiven_congr {f : α → Option β} (hf : ∀ x, (f x).isSome = true ↔ kind x = k)
    {xs ys : List α} (h : lastOf kind k xs = lastOf kind k ys) :
    lastGiven f xs = lastGiven f ys := by
  rw [lastGiven_eq_bind hf, lastGiven_eq_bind hf, h]

/-- Neighbours of different kinds may change places. -/
theorem lastOf_swap {a b : α} (hab : kind a ≠ kind b) (before after : List α) :
    lastOf kind k (before ++ a :: b :: after) = lastOf kind k (before ++ b :: a :: after) := by
  have hpair : lastOf kind k [a, b] = lastOf kind k [b, a] := by
    show lastOf kind k ([a] ++ [b]) = lastOf kind k ([b] ++ [a])
    simp only [lastOf_append, lastOf_singleton]
    by_cases ha : kind a = k
    · rw [if_pos ha, if_neg fun hb => hab (ha.trans hb.symm)]
      rfl
    · rw [if_neg ha, Option.none_or, Option.or_none]
  show lastOf kind k (before ++ ([a, b] ++ after)) = lastOf kind k (before ++ ([b, a] ++ after))
  simp only [lastOf_append, hpair]

/-- An element goes unnoticed if one of its kind comes later. -/
theorem lastOf_drop {a b : α} (hab : kind a = kind b) (before : List α) {after : List α}
    (hb : b ∈ after) : lastOf kind k (before ++ a :: after) = lastOf kind k (before ++ after) := by
  show lastOf kind k (before ++ ([a] ++ after)) = _
  simp only [lastOf_append, lastOf_singleton]
  by_cases ha : kind a = k
  · obtain ⟨c, hc⟩ := Option.isSome_iff_exists.mp (isSome_lastOf hb (hab.symm.trans ha))
    rw [hc, Option.some_or, Option.some_or]
  · rw [if_neg ha, Option.or_none]

end Kinds

end ClusterTopology
