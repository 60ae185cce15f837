import FormspecWeb.Async.History
import FormspecWeb.Controller.Safety.Restore

/-!
# Runs of the controller

The protocol all calls of the controller follow, and the rule it gives: what
every move keeps holds at the end of every run.
-/

namespace FormspecWeb.Controller

open Ports Engine Async

variable {config : ResponseActionControllerConfig} {F : Schedule}

/-- The calls of the controller follow the protocol under every schedule. -/
def controllerProtocol (config : ResponseActionControllerConfig) (F : Schedule) :
    Protocol (controller config) F.discipline where
  inv := Wellformed F
  rely := Rely F
  guar := Move F
  rely_refl := Rely.refl F
  rely_trans _ _ _ _ := Rely.trans
  guar_rely _ _ _ _ hne hw hmove := hmove.rely hne hw
  guar_inv _ _ _ hw hmove := hmove.wellformed hw
  safe _ _ _ hw hbegins := program_safe hw hbegins

structure Schedule.Run (F : Schedule) (config : ResponseActionControllerConfig)
    (es : List (Event Callbacks Begin Answer))
    (p : Pool (State config) Callbacks Failure Reply) : Prop where
  meets : F.discipline.Meets (controller config) (create config) es
  runs : (controller config).run (create config) es = some p

variable {p : Pool (State config) Callbacks Failure Reply}

variable {es : List (Event Callbacks Begin Answer)}

theorem Schedule.Run.keeps {J : State config → Prop} (h : F.Run config es p)
    (hJ : ∀ t s s', Wellformed F s → Move F t s s' → J s → J s') (hinitial : J (State.initial config)) :
    J p.state :=
  (controllerProtocol config F).run_invariant hJ wellformed_initial hinitial h.meets h.runs

/-- The entries that record a publication, the busy flag, the slots, an accepted
completion or an invalidation; the others are a call's own marks. -/
def Entry.isBookkeeping : Entry config → Bool
  | .published _ | .opened _ _ | .closed _ _ | .stored _ _ | .unchecked _ _ | .accepted _ _ _
  | .invalidated _ => true
  | _ => false

theorem Move.log_cases {t : Nat} {s s' : State config} (h : Move F t s s') :
    s'.log = s.log ∨ ∃ e, s'.log = e :: s.log ∧ (Marks F t s e ∨ e.isBookkeeping = true) := by
  cases h with
  | quiet _ hlog => exact .inl hlog
  | learn _ _ hlog => exact .inl hlog
  | mark e he => exact .inr ⟨e, rfl, .inl he⟩
  | store h => exact .inr ⟨_, h.log, .inr rfl⟩
  | settle => exact .inl rfl
  | update => exact .inl rfl
  | keep => exact .inl rfl
  | _ => exact .inr ⟨_, rfl, .inr rfl⟩

theorem Schedule.Run.throughout {P : Entry config → List (Entry config) → Prop}
    (h : F.Run config es p)
    (hmarks : ∀ t s e, Wellformed F s → Marks F t s e → P e s.log)
    (hbookkeeping : ∀ e older, e.isBookkeeping = true → P e older) : Throughout P p.state.log := by
  refine h.keeps (J := fun s => Throughout P s.log) (fun t s s' hw hmove hall => ?_) throughout_nil
  refine hall.extend (hmove.log_cases.imp_right fun ⟨e, hlog, he⟩ => ⟨e, hlog, ?_⟩)
  rcases he with he | he
  · exact hmarks t s e hw he
  · exact hbookkeeping e s.log he

instance (F : Schedule) (s : State config) (op : Begin) : Decidable (F.discipline.begins s op) :=
  inferInstanceAs (Decidable (F.begins s op = true))

instance (F : Schedule) (s : State config) (l : Await) (answer : Reply l) :
    Decidable (F.discipline.resumes s l answer) :=
  inferInstanceAs (Decidable (F.resumes s l answer = true))

theorem Schedule.exists_run (F : Schedule) (config : ResponseActionControllerConfig)
    (es : List (Event Callbacks Begin Answer))
    (h : (F.discipline.obeys (controller config) (create config) es
      && ((controller config).run (create config) es).isSome) = true) : ∃ p, F.Run config es p := by
  obtain ⟨hobeys, hsome⟩ := Bool.and_eq_true_iff.mp h
  obtain ⟨p, hp⟩ := Option.isSome_iff_exists.mp hsome
  exact ⟨p, Discipline.meets_of_obeys hobeys, hp⟩

theorem Schedule.any_meets (es : List (Event Callbacks Begin Answer))
    (p : Pool (State config) Callbacks Failure Reply) :
    Schedule.any.discipline.Meets (controller config) p es := by
  induction es generalizing p with
  | nil => trivial
  | cons e es ih =>
    refine ⟨?_, fun p' _ => ih p'⟩
    cases e with
    | begin op i =>
      show Schedule.any.begins p.state op = true
      simp [Schedule.begins, Schedule.any, Schedule.clear]
    | resume t answer i =>
      intro k r _ _
      exact Schedule.any_resumes p.state k.label r

theorem Schedule.Run.any
    (h : (controller config).run (create config) es = some p) : Schedule.any.Run config es p :=
  ⟨Schedule.any_meets es (create config), h⟩

theorem moves_between {es later : List (Event Callbacks Begin Answer)}
    {p q : Pool (State config) Callbacks Failure Reply}
    (hrun : (controller config).run (create config) es = some p)
    (hlater : (controller config).run p later = some q) :
    Relation.ReflTransGen (controllerProtocol config Schedule.any).Move p.state q.state := by
  have hinitial : (controllerProtocol config Schedule.any).inv (create config).state := wellformed_initial
  have hcovered : (controllerProtocol config Schedule.any).Covered (create config) :=
    Protocol.covered_initial _ _
  have hmeets := Schedule.any_meets es (create config)
  obtain ⟨-, hw⟩ := (controllerProtocol config Schedule.any).run_moves hinitial hcovered hmeets hrun
  have hreached := (controllerProtocol config Schedule.any).run_covered hinitial hcovered hmeets hrun
  exact ((controllerProtocol config Schedule.any).run_moves hw hreached (Schedule.any_meets later p) hlater).1

end FormspecWeb.Controller
