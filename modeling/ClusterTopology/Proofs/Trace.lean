import ClusterTopology.Event
import Mathlib.Data.List.Basic

/-!
# Computations that only add to the trace

A computation may in general look at the events before it. Those of this library do not: they come
to the same outcome after any events, and put their own behind them (`Logged.Appends`). So the
outcome of a sequence is the sequence of the outcomes (`Logged.outcome_bind`,
`Logged.outcome_mapM`).
-/

namespace ClusterTopology.Logged

variable {α β : Type}

/-- Whatever happened before, the outcome is the same and the events come behind. -/
def Appends (x : Logged α) : Prop := ∀ trace, x.run.run trace = (x.outcome, trace ++ x.events)

/-! ## Single steps -/

theorem appends_pure (a : α) : Appends (pure a) := fun _ => rfl

theorem appends_log (event : Event) : Appends (log event) := fun _ => rfl

theorem appends_reject (event : Event) (reason : Refusal) :
    Appends (reject event reason : Logged α) := fun _ => rfl

theorem appends_ofExcept (r : Except Refusal α) : Appends (MonadExcept.ofExcept r) := fun _ => by
  cases r <;> rfl

/-- Gives what is there. What is missing is logged and refused. -/
def given (o : Option α) (event : Event) (reason : Refusal) : Logged α :=
  o.elim (reject event reason) pure

theorem appends_given (o : Option α) (event : Event) (reason : Refusal) :
    Appends (given o event reason) := by
  cases o with
  | none => exact appends_reject event reason
  | some a => exact appends_pure a

theorem outcome_given_eq_ok_iff {o : Option α} {event : Event} {reason : Refusal} {a : α} :
    (given o event reason).outcome = .ok a ↔ o = some a := by
  cases o with
  | none => exact iff_of_false nofun nofun
  | some b =>
    show Except.ok b = Except.ok a ↔ _
    rw [Except.ok.injEq, Option.some.injEq]

theorem outcome_given_eq_error_iff {o : Option α} {event : Event} {reason e : Refusal} :
    (given o event reason).outcome = .error e ↔ o = none ∧ e = reason := by
  cases o with
  | none =>
    show Except.error reason = Except.error e ↔ _
    rw [Except.error.injEq, and_iff_right rfl, eq_comm]
  | some a => exact iff_of_false nofun nofun

@[simp] theorem outcome_pure (a : α) : outcome (pure a) = .ok a := rfl

@[simp] theorem outcome_ofExcept (r : Except Refusal α) : outcome (MonadExcept.ofExcept r) = r := by
  cases r <;> rfl

@[simp] theorem events_ofExcept (r : Except Refusal α) : events (MonadExcept.ofExcept r) = #[] := by
  cases r <;> rfl

/-! ## One computation after another -/

theorem run_bind_ok {x : Logged α} {f : α → Logged β} {trace trace' : Array Event} {a : α}
    (h : x.run.run trace = (.ok a, trace')) : (x >>= f).run.run trace = (f a).run.run trace' := by
  rw [ExceptT.run_bind, StateT.run_bind, h]
  rfl

theorem run_bind_error {x : Logged α} {f : α → Logged β} {trace trace' : Array Event}
    {e : Refusal} (h : x.run.run trace = (.error e, trace')) :
    (x >>= f).run.run trace = (.error e, trace') := by
  rw [ExceptT.run_bind, StateT.run_bind, h]
  rfl

theorem run_empty (x : Logged α) : x.run.run #[] = (x.outcome, x.events) := rfl

/-- The second computation starts from the events of the first, which do not matter to it. -/
theorem outcome_bind (x : Logged α) {f : α → Logged β} (hf : ∀ a, Appends (f a)) :
    (x >>= f).outcome = x.outcome >>= fun a => (f a).outcome := by
  have hx := run_empty x
  show ((x >>= f).run.run #[]).1 = _
  cases ho : x.outcome with
  | error e =>
    rw [ho] at hx
    rw [run_bind_error hx]
    rfl
  | ok a =>
    rw [ho] at hx
    rw [run_bind_ok hx, hf a]
    rfl

theorem outcome_bind_of_ok {x : Logged α} {f : α → Logged β} {a : α} (hx : x.outcome = .ok a)
    (hf : ∀ a, Appends (f a)) : (x >>= f).outcome = (f a).outcome := by
  rw [outcome_bind x hf, hx]
  rfl

theorem Appends.bind {x : Logged α} {f : α → Logged β} (hx : Appends x)
    (hf : ∀ a, Appends (f a)) : Appends (x >>= f) := by
  intro trace
  have hempty := run_empty x
  have htrace := hx trace
  have hall := run_empty (x >>= f)
  cases ho : x.outcome with
  | error e =>
    rw [ho] at hempty htrace
    rw [run_bind_error hempty] at hall
    obtain ⟨hout, hev⟩ := Prod.mk.inj hall
    rw [run_bind_error htrace, ← hout, ← hev]
  | ok a =>
    rw [ho] at hempty htrace
    rw [run_bind_ok hempty, hf a] at hall
    obtain ⟨hout, hev⟩ := Prod.mk.inj hall
    rw [run_bind_ok htrace, hf a, ← hout, ← hev, Array.append_assoc]

@[simp] theorem outcome_map (g : α → β) (x : Logged α) : (g <$> x).outcome = x.outcome.map g := by
  rw [← bind_pure_comp, outcome_bind x fun a => appends_pure (g a)]
  cases x.outcome <;> rfl

theorem Appends.map {x : Logged α} (hx : Appends x) (g : α → β) : Appends (g <$> x) := by
  rw [← bind_pure_comp]
  exact hx.bind fun a => appends_pure (g a)

/-! ## Lists and options of computations -/

section

variable {f : α → Logged β} (hf : ∀ a, Appends (f a))

include hf

theorem appends_mapM (as : List α) : Appends (as.mapM f) := by
  induction as with
  | nil => exact appends_pure []
  | cons a as ih =>
    rw [List.mapM_cons]
    exact (hf a).bind fun b => ih.bind fun bs => appends_pure (b :: bs)

theorem outcome_mapM (as : List α) : (as.mapM f).outcome = as.mapM fun a => (f a).outcome := by
  induction as with
  | nil => rfl
  | cons a as ih =>
    have hrest : ∀ b, Appends (as.mapM f >>= fun bs => pure (b :: bs)) := fun b =>
      (appends_mapM hf as).bind fun bs => appends_pure (b :: bs)
    rw [List.mapM_cons, List.mapM_cons, outcome_bind _ hrest]
    simp only [outcome_bind _ fun bs => appends_pure _, ih, outcome_pure]
    rfl

theorem appends_optionMapM (o : Option α) : Appends (o.mapM f) := by
  cases o with
  | none => exact appends_pure none
  | some a => exact (hf a).map some

end

@[simp] theorem outcome_optionMapM (f : α → Logged β) (o : Option α) :
    (o.mapM f).outcome = o.mapM fun a => (f a).outcome := by
  cases o with
  | none => rfl
  | some a => exact outcome_map some (f a)

end ClusterTopology.Logged
