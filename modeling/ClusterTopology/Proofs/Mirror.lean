import ClusterTopology.Proofs.Drafts
import ClusterTopology.Proofs.SlotText.Parse
import ClusterTopology.Proofs.StatusText
import ClusterTopology.Report

/-!
# Events tell what came of it

Nothing is told of a status that is read, and the event of a refusal tells of what is refused
(`Refusal.event?`). So what a computation adds to the trace can be told from its outcome
(`Logged.Mirrors`). This carries over to one computation after another: the first one that is
refused is the last to leave an event (`Logged.Mirrors.bind`, `Logged.mirrors_mapM`).
-/

namespace ClusterTopology

/-- The event that tells of the refusal. A refused set of slots is not told of. -/
def Refusal.event? : Refusal → Option Event
  | unknownFlag token => some (.unknownFlag token)
  | unknownLinkState token => some (.unknownLinkState token)
  | emptyHost => some (.nodeRejected .emptyHost)
  | emptyId => some (.nodeRejected .emptyId)
  | unaddressable => some .nodeUnaddressable
  | slotOutOfRange _ | malformedInterval _ | missingBound _ => none

/-- Is a set of slots refused? -/
def Refusal.isOfSlots : Refusal → Bool
  | slotOutOfRange _ | malformedInterval _ | missingBound _ => true
  | _ => false

theorem Refusal.isSome_event? (e : Refusal) : e.event?.isSome = !e.isOfSlots := by
  cases e <;> rfl

namespace Logged

variable {α β : Type} {told : α → Option Event}

/-- The event that tells of an outcome. What is told of a value is up to `told`. -/
def tells (told : α → Option Event) : Except Refusal α → Option Event
  | .ok a => told a
  | .error e => e.event?

/-- Whatever happened before, the outcome is the same, and just the event that tells of it comes
behind. -/
def Mirrors (told : α → Option Event) (x : Logged α) : Prop :=
  ∀ trace, x.run.run trace = (x.outcome, trace ++ (tells told x.outcome).toArray)

theorem Mirrors.events_eq {x : Logged α} (h : Mirrors told x) :
    x.events = (tells told x.outcome).toArray := by
  have hrun := congrArg Prod.snd (h #[])
  rwa [Array.empty_append] at hrun

theorem Mirrors.appends {x : Logged α} (h : Mirrors told x) : x.Appends := by
  intro trace
  rw [h.events_eq]
  exact h trace

/-! ## Single steps -/

theorem mirrors_pure {a : α} (h : told a = none) : Mirrors told (pure a) := by
  intro trace
  show (Except.ok a, trace) = (Except.ok a, trace ++ (told a).toArray)
  rw [h]
  rfl

theorem mirrors_reject {event : Event} {reason : Refusal} (h : reason.event? = some event) :
    Mirrors told (reject event reason) := by
  intro trace
  show (Except.error reason, trace.push event) =
    (Except.error reason, trace ++ reason.event?.toArray)
  rw [h]
  rfl

theorem mirrors_given {event : Event} {reason : Refusal} (h : reason.event? = some event)
    (o : Option α) : Mirrors (fun _ => none) (given o event reason) := by
  cases o with
  | none => exact mirrors_reject h
  | some a => exact mirrors_pure rfl

theorem mirrors_ofExcept {r : Except Refusal α} (h : ∀ e, r = .error e → e.event? = none) :
    Mirrors (fun _ => none) (MonadExcept.ofExcept r) := by
  cases r with
  | ok a => exact mirrors_pure rfl
  | error e =>
    intro trace
    show (Except.error e, trace) = (Except.error e, trace ++ e.event?.toArray)
    rw [h e rfl]
    rfl

/-! ## One computation after another -/

/-- Where nothing is told of the first value, the second computation tells of both. -/
theorem Mirrors.bind {x : Logged α} {f : α → Logged β} {told : β → Option Event}
    (hx : Mirrors (fun _ => none) x) (hf : ∀ a, Mirrors told (f a)) : Mirrors told (x >>= f) := by
  intro trace
  have hrun := hx trace
  rw [outcome_bind x fun a => (hf a).appends]
  cases ho : x.outcome with
  | error e =>
    rw [ho] at hrun
    exact run_bind_error hrun
  | ok a =>
    rw [ho] at hrun
    exact (run_bind_ok hrun).trans (hf a trace)

section

variable {f : α → Logged β} (hf : ∀ a, Mirrors (fun _ => none) (f a))

include hf

theorem mirrors_mapM (as : List α) : Mirrors (fun _ => none) (as.mapM f) := by
  induction as with
  | nil => exact mirrors_pure rfl
  | cons a as ih =>
    rw [List.mapM_cons]
    exact (hf a).bind fun b => ih.bind fun bs => mirrors_pure rfl

theorem mirrors_optionMapM (o : Option α) : Mirrors (fun _ => none) (o.mapM f) := by
  cases o with
  | none => exact mirrors_pure rfl
  | some a =>
    show Mirrors _ (some <$> f a)
    rw [← bind_pure_comp]
    exact (hf a).bind fun b => mirrors_pure rfl

end

end Logged

/-! ## Reading a status -/

theorem Flag.mirrors_parse (token : String) : (parse token).Mirrors fun _ => none := by
  rw [parse_eq]
  exact Logged.mirrors_given rfl _

/-- The tokens after the first one that is refused are not told of. -/
theorem FlagSet.mirrors_parse (text : String) : (parse text).Mirrors fun _ => none :=
  (Logged.mirrors_mapM (fun _ => Flag.mirrors_parse _) _).bind fun _ => Logged.mirrors_pure rfl

theorem LinkState.mirrors_parse (token : String) : (parse token).Mirrors fun _ => none := by
  rw [parse_eq]
  exact Logged.mirrors_given rfl _

/-! ## Finishing a cluster node -/

namespace ClusterNode

/-- The event that tells of the finished node. -/
def event (n : ClusterNode) : Event := .nodeBuilt n.text n.slots.size n.flags n.link

theorem Draft.mirrors_build (draft : Draft) : draft.build.Mirrors fun n => some n.event := by
  unfold build
  cases hbuild : draft.base.build with
  | error reason =>
    obtain rfl | rfl := Node.Draft.eq_of_build_eq_error hbuild
    · exact Logged.mirrors_reject rfl
    · exact Logged.mirrors_reject rfl
  | ok node =>
    show Logged.Mirrors _ (if node.host.isNone && node.id.isNone then _ else _)
    split_ifs
    · exact Logged.mirrors_reject rfl
    · exact fun _ => rfl

end ClusterNode

/-! ## Taking in a report -/

theorem SlotText.NumberOutcome.event?_eq_none {token cs : List Char} {e : Refusal}
    (h : NumberOutcome token cs (.error e)) : e.event? = none := by
  cases h with
  | tooLarge hn hle => rfl
  | malformed h => rfl

theorem SlotText.TokenOutcome.event?_eq_none {token : List Char} {e : Refusal}
    (h : TokenOutcome token (.error e)) : e.event? = none := by
  cases h with
  | badSingle hdash he => exact he.event?_eq_none
  | noLower => rfl
  | noUpper hlower hdash => rfl
  | badLower hlower hdash hupper he => exact he.event?_eq_none
  | badUpper hlower hdash hupper hm he => exact he.event?_eq_none

theorem SlotSet.event?_eq_none_of_parse {text : String} {e : Refusal}
    (h : parse text = .error e) : e.event? = none := by
  obtain ⟨_, token, _, -, -, htoken⟩ := parse_eq_error_iff.mp h
  exact (SlotText.outcome_error_iff.mpr htoken).event?_eq_none

namespace Report

/-- Nothing is told of slots, whether their text is read or refused. -/
theorem mirrors_settings (report : Report) : report.settings.Mirrors fun _ => none := by
  have hslots : ∀ text, (MonadExcept.ofExcept (SlotSet.parse text) : Logged SlotSet).Mirrors
      fun _ => none := fun _ => Logged.mirrors_ofExcept fun _ => SlotSet.event?_eq_none_of_parse
  exact (Logged.mirrors_optionMapM FlagSet.mirrors_parse _).bind fun flags =>
    (Logged.mirrors_optionMapM hslots _).bind fun slots =>
      (Logged.mirrors_optionMapM LinkState.mirrors_parse _).bind fun link => Logged.mirrors_pure rfl

/-- A report as a whole is told of as the node that it comes to, or as the fault it is refused for.
-/
theorem mirrors_node (report : Report) : report.node.Mirrors fun n => some n.event :=
  report.mirrors_settings.bind fun _ => ClusterNode.Draft.mirrors_build _

end Report

end ClusterTopology
