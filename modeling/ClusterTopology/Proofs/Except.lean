import Mathlib.Data.List.Forall2

/-!
# Computations that may fail

What it takes for a sequence of computations to succeed, and which error it fails with. A list is
read if each of its elements is (`mapM_eq_ok_iff`), and else it fails with the error of the first
element that is not (`mapM_eq_error_iff`).
-/

namespace ClusterTopology

variable {α β γ ε : Type}

/-! ## One after the other -/

theorem bind_eq_ok_iff {r : Except ε α} {f : α → Except ε β} {b : β} :
    r >>= f = .ok b ↔ ∃ a, r = .ok a ∧ f a = .ok b := by
  cases r with
  | ok a =>
    constructor
    · exact fun h => ⟨a, rfl, h⟩
    · rintro ⟨_, ⟨⟩, h⟩
      exact h
  | error e => exact iff_of_false nofun (by rintro ⟨a, ⟨⟩, -⟩)

theorem map_eq_error_iff {g : β → γ} {r : Except ε β} {e : ε} :
    r.map g = .error e ↔ r = .error e := by
  cases r with
  | error e' =>
    show Except.error e' = .error e ↔ _
    rw [Except.error.injEq, Except.error.injEq]
  | ok b => exact ⟨nofun, nofun⟩

theorem exists_map_eq_ok_iff {g : β → γ} {r : Except ε β} :
    (∃ c, r.map g = .ok c) ↔ ∃ b, r = .ok b := by
  cases r with
  | error e => exact ⟨nofun, nofun⟩
  | ok b => exact iff_of_true ⟨g b, rfl⟩ ⟨b, rfl⟩

variable {f : α → Except ε β}

/-! ## Lists -/

theorem mapM_cons_ok {a : α} {as : List α} {b : β} (h : f a = .ok b) :
    (a :: as).mapM f = (as.mapM f).map (b :: ·) := by
  rw [List.mapM_cons, h]
  cases as.mapM f <;> rfl

theorem mapM_cons_error {a : α} {as : List α} {e : ε} (h : f a = .error e) :
    (a :: as).mapM f = .error e := by
  rw [List.mapM_cons, h]
  rfl

theorem mapM_eq_ok_iff {as : List α} {bs : List β} :
    as.mapM f = .ok bs ↔ List.Forall₂ (fun a b => f a = .ok b) as bs := by
  induction as generalizing bs with
  | nil =>
    rw [List.mapM_nil, List.forall₂_nil_left_iff]
    constructor
    · rintro ⟨⟩
      rfl
    · rintro rfl
      rfl
  | cons a as ih =>
    rw [List.forall₂_cons_left_iff]
    cases ha : f a with
    | error e =>
      rw [mapM_cons_error ha]
      constructor
      · rintro ⟨⟩
      · rintro ⟨b, bs, ⟨⟩, -, -⟩
    | ok b =>
      rw [mapM_cons_ok ha]
      constructor
      · intro h
        cases has : as.mapM f with
        | error e =>
          rw [has] at h
          cases h
        | ok bs' =>
          rw [has] at h
          cases h
          exact ⟨b, bs', rfl, ih.mp has, rfl⟩
      · rintro ⟨b', bs', ⟨⟩, hbs, rfl⟩
        rw [ih.mpr hbs]
        rfl

/-- Reading fails with the error of the first element that cannot be read. -/
theorem mapM_eq_error_iff {as : List α} {e : ε} :
    as.mapM f = .error e ↔ ∃ before a after, as = before ++ a :: after ∧
      (∀ x ∈ before, ∃ b, f x = .ok b) ∧ f a = .error e := by
  induction as with
  | nil =>
    rw [List.mapM_nil]
    constructor
    · rintro ⟨⟩
    · rintro ⟨before, a, after, h, -⟩
      exact absurd h (List.append_ne_nil_of_right_ne_nil _ (List.cons_ne_nil _ _)).symm
  | cons a as ih =>
    cases ha : f a with
    | error e' =>
      rw [mapM_cons_error ha]
      constructor
      · rintro ⟨⟩
        exact ⟨[], a, as, rfl, fun x hx => absurd hx List.not_mem_nil, ha⟩
      · rintro ⟨before, x, after, h, hbefore, hx⟩
        cases before with
        | nil =>
          cases h
          cases ha.symm.trans hx
          rfl
        | cons y before =>
          cases h
          obtain ⟨b, hb⟩ := hbefore a List.mem_cons_self
          cases ha.symm.trans hb
    | ok b =>
      rw [mapM_cons_ok ha, map_eq_error_iff, ih]
      constructor
      · rintro ⟨before, x, after, rfl, hbefore, hx⟩
        exact ⟨a :: before, x, after, rfl, List.forall_mem_cons.mpr ⟨⟨b, ha⟩, hbefore⟩, hx⟩
      · rintro ⟨before, x, after, h, hbefore, hx⟩
        cases before with
        | nil =>
          cases h
          cases ha.symm.trans hx
        | cons y before =>
          cases h
          exact ⟨before, x, after, rfl, (List.forall_mem_cons.mp hbefore).2, hx⟩

theorem exists_mapM_eq_ok_iff {as : List α} :
    (∃ bs, as.mapM f = .ok bs) ↔ ∀ a ∈ as, ∃ b, f a = .ok b := by
  constructor
  · rintro ⟨bs, h⟩
    rw [mapM_eq_ok_iff] at h
    induction h with
    | nil => exact List.forall_mem_nil _
    | cons hb _ ih => exact List.forall_mem_cons.mpr ⟨⟨_, hb⟩, ih⟩
  · intro h
    cases hm : as.mapM f with
    | ok bs => exact ⟨bs, rfl⟩
    | error e =>
      obtain ⟨before, a, after, rfl, -, he⟩ := mapM_eq_error_iff.mp hm
      obtain ⟨b, hb⟩ := h a (List.mem_append_right _ List.mem_cons_self)
      cases he.symm.trans hb

/-! ## Options -/

theorem elim_eq_ok_of_mapM {o : Option α} {r : Option β} (default : β) (h : o.mapM f = .ok r) :
    o.elim (.ok default) f = .ok (r.getD default) := by
  cases o with
  | none => cases h; rfl
  | some a =>
    obtain ⟨b, hb, h⟩ := bind_eq_ok_iff.mp h
    cases h
    exact hb

theorem map_eq_of_mapM {o : Option α} {r : Option β} (g : β → γ) (default : β)
    (h : o.mapM f = .ok r) : r.map g = o.map fun _ => g (r.getD default) := by
  cases o with
  | none => cases h; rfl
  | some a =>
    obtain ⟨b, hb, h⟩ := bind_eq_ok_iff.mp h
    cases h
    rfl

end ClusterTopology
