/-!
# Runs of a step function

A step function takes a state and an event, and refuses the events that cannot happen there. A
property of all states of a run is traced to a condition on its events: an event leads from a good
state to a good state exactly where it is benign.
-/

namespace FormspecWeb.Async

variable {σ ε : Type}

/-- The states a run passes through, the first one included. -/
def statesOf (step : σ → ε → Option σ) (s : σ) : List ε → Option (List σ)
  | [] => some [s]
  | event :: events => do
      let next ← step s event
      return s :: (← statesOf step next events)

/-- Every event of a run meets a condition in the state it meets. -/
def EveryStep (step : σ → ε → Option σ) (P : σ → ε → Prop) (s : σ) : List ε → Prop
  | [] => True
  | event :: events => P s event ∧ ∀ next, step s event = some next → EveryStep step P next events

variable {step : σ → ε → Option σ} {P : σ → ε → Prop} {s : σ} {events : List ε} {states : List σ}

instance decidableEveryStep [∀ s event, Decidable (P s event)] :
    ∀ (events : List ε) (s : σ), Decidable (EveryStep step P s events)
  | [], _ => isTrue trivial
  | event :: events, s =>
    have : Decidable (∀ next, step s event = some next → EveryStep step P next events) :=
      match step s event with
      | none => isTrue nofun
      | some next =>
        have := decidableEveryStep events next
        decidable_of_iff (EveryStep step P next events)
          ⟨fun h _ heq => Option.some.inj heq ▸ h, fun h => h next rfl⟩
    inferInstanceAs (Decidable (_ ∧ _))

theorem statesOf_cons {event : ε} (h : statesOf step s (event :: events) = some states) :
    ∃ next rest, step s event = some next ∧ statesOf step next events = some rest
      ∧ states = s :: rest := by
  obtain ⟨next, hnext, h⟩ := Option.bind_eq_some_iff.mp h
  obtain ⟨rest, hrest, heq⟩ := Option.bind_eq_some_iff.mp h
  exact ⟨next, rest, hnext, hrest, (Option.some.inj heq).symm⟩

theorem statesOf_step {event : ε} {next : σ} {rest : List σ} (hnext : step s event = some next)
    (hrest : statesOf step next events = some rest) :
    statesOf step s (event :: events) = some (s :: rest) := by
  rw [statesOf, hnext, Option.bind_eq_bind, Option.bind_some, hrest]
  rfl

theorem statesOf_first (h : statesOf step s events = some states) : s ∈ states := by
  cases events with
  | nil => exact Option.some.inj h ▸ List.mem_cons_self
  | cons event events =>
    obtain ⟨next, rest, -, -, rfl⟩ := statesOf_cons h
    exact List.mem_cons_self

theorem everyStep_step {event : ε} {next : σ} (hnext : step s event = some next) (hP : P s event)
    (hrest : EveryStep step P next events) : EveryStep step P s (event :: events) := by
  refine ⟨hP, fun other hother => ?_⟩
  obtain rfl := Option.some.inj (hnext.symm.trans hother)
  exact hrest

theorem everyStep_of_forall (h : ∀ event ∈ events, ∀ reached, P reached event) :
    EveryStep step P s events := by
  induction events generalizing s with
  | nil => trivial
  | cons event events ih =>
    obtain ⟨hevent, hevents⟩ := List.forall_mem_cons.mp h
    exact ⟨hevent s, fun _ _ => ih hevents⟩

theorem everyStep_and {Q : σ → ε → Prop} (hP : EveryStep step P s events)
    (hQ : EveryStep step Q s events) : EveryStep step (fun s event => P s event ∧ Q s event) s events := by
  induction events generalizing s with
  | nil => trivial
  | cons event events ih =>
    exact ⟨⟨hP.1, hQ.1⟩, fun next hnext => ih (hP.2 next hnext) (hQ.2 next hnext)⟩

theorem statesOf_invariant {J : σ → Prop}
    (hstep : ∀ s event next, J s → P s event → step s event = some next → J next) (hs : J s)
    (hP : EveryStep step P s events) (h : statesOf step s events = some states) :
    ∀ reached ∈ states, J reached := by
  induction events generalizing s states with
  | nil => exact Option.some.inj h ▸ by simpa using hs
  | cons event events ih =>
    obtain ⟨next, rest, hnext, hrest, rfl⟩ := statesOf_cons h
    have hnextInv := hstep s event next hs hP.1 hnext
    exact List.forall_mem_cons.mpr ⟨hs, ih hnextInv (hP.2 next hnext) hrest⟩

theorem everyStep_of_invariant {J : σ → Prop} {Q : σ → ε → Prop}
    (hstep : ∀ s event next, J s → P s event → step s event = some next → J next)
    (hQ : ∀ s event, J s → P s event → Q s event) (hs : J s) (hP : EveryStep step P s events) :
    EveryStep step Q s events := by
  induction events generalizing s with
  | nil => trivial
  | cons event events ih =>
    exact ⟨hQ s event hs hP.1, fun next hnext => ih (hstep s event next hs hP.1 hnext) (hP.2 next hnext)⟩

theorem foldlM_invariant {J : σ → Prop} {t : σ}
    (hstep : ∀ s event next, J s → step s event = some next → J next) (hs : J s)
    (h : events.foldlM step s = some t) : J t := by
  induction events generalizing s with
  | nil => exact Option.some.inj h ▸ hs
  | cons event events ih =>
    rw [List.foldlM_cons] at h
    obtain ⟨next, hnext, hrest⟩ := Option.bind_eq_some_iff.mp h
    exact ih (hstep s event next hs hnext) hrest

/-- Where a step from a good state is good exactly if its event is benign, all states of a run are
good exactly if all its events are benign. The invariant holds of every state in any case. -/
theorem statesOf_good_iff {J Good : σ → Prop}
    (hinv : ∀ s event next, J s → step s event = some next → J next)
    (hgood : ∀ s event next, J s → Good s → step s event = some next → (Good next ↔ P s event))
    (hs : J s) (hsGood : Good s) (h : statesOf step s events = some states) :
    (∀ reached ∈ states, Good reached) ↔ EveryStep step P s events := by
  induction events generalizing s states with
  | nil => exact iff_of_true (Option.some.inj h ▸ by simpa using hsGood) trivial
  | cons event events ih =>
    obtain ⟨next, rest, hnext, hrest, rfl⟩ := statesOf_cons h
    have hiff := hgood s event next hs hsGood hnext
    have hnextInv := hinv s event next hs hnext
    rw [List.forall_mem_cons, EveryStep]
    constructor
    · rintro ⟨-, hall⟩
      have hnextGood := hall next (statesOf_first hrest)
      refine ⟨hiff.mp hnextGood, fun other hother => ?_⟩
      obtain rfl := Option.some.inj (hnext.symm.trans hother)
      exact (ih hnextInv hnextGood hrest).mp hall
    · rintro ⟨hbenign, hruns⟩
      exact ⟨hsGood, (ih hnextInv (hiff.mpr hbenign) hrest).mpr (hruns next hnext)⟩

end FormspecWeb.Async
