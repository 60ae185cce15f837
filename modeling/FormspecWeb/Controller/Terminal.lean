import FormspecWeb.Controller.CompletionKey

/-!
# Completion is terminal

A completion is accepted at most once, and nothing is dispatched after it. What
an invocation of the Submit returns later is the accepted completion's outputs
or no completion at all.
-/

namespace FormspecWeb.Controller

open Shared Ports Engine Async

variable {config : ResponseActionControllerConfig} {F : Schedule} {t : Nat} {s s' : State config}

def ReportsAccepted (es : List (Entry config)) (result : InvocationResult) : Prop :=
  ∃ completion, acceptedOf es = some (result.invocationId, completion)
    ∧ submitOutputs config completion = some result.transitionBindings

/-- No port call and no other acceptance follows an accepted completion, and a
Submit that returns completed reports the accepted one. A failure outside the
effect of an action is never reported as completed. -/
def CompletionTerminal : Entry config → List (Entry config) → Prop
  | .called _ _, older => acceptedOf older = none
  | .accepted _ _ _, older => acceptedOf older = none
  | .returned _ (some .submit) result, older =>
    result.status = .completed → ReportsAccepted older result
  | .returned _ none result, _ => result.status = .failed
  | _, _ => True

theorem Wellformed.unaccepted (hw : Wellformed F s) (hcurrent : s.invalidated = false)
    (hopen : s.completionResult = none) : acceptedOf s.log = none := by
  have hcompletion := hw.completion
  rw [hcurrent, hopen] at hcompletion
  exact Option.map_eq_none_iff.mp hcompletion.symm

theorem Wellformed.reports (hw : Wellformed F s) {result : InvocationResult}
    (h : Confirms s.log result.invocationId result.transitionBindings) :
    ReportsAccepted s.log result := by
  obtain ⟨u, completion, hmem, houtputs⟩ := h
  exact ⟨completion, hw.once u result.invocationId completion hmem, houtputs⟩

theorem Marks.terminal {e : Entry config} (hw : Wellformed F s) (h : Marks F t s e) :
    CompletionTerminal e s.log := by
  cases h with
  | called call hcurrent hopen => exact hw.unaccepted hcurrent hopen
  | returned role result hfailed hconfirms =>
    cases role with
    | none => exact hfailed rfl
    | some role =>
      cases role with
      | submit => exact fun hstatus => hw.reports (hconfirms rfl hstatus)
      | _ => trivial
  | _ => trivial

theorem Move.terminal (hw : Wellformed F s) (h : Move F t s s') :
    s'.log = s.log ∨ ∃ e, s'.log = e :: s.log ∧ CompletionTerminal e s.log := by
  cases h with
  | quiet _ hlog => exact .inl hlog
  | learn _ _ hlog => exact .inl hlog
  | settle => exact .inl rfl
  | update => exact .inl rfl
  | keep => exact .inl rfl
  | mark e he => exact .inr ⟨e, rfl, he.terminal hw⟩
  | accept id result hcurrent _ hopen => exact .inr ⟨_, rfl, hw.unaccepted hcurrent hopen⟩
  | store hstore => exact .inr ⟨_, hstore.log, trivial⟩
  | _ => exact .inr ⟨_, rfl, trivial⟩

/-- In every run, nothing is dispatched once a completion was accepted, and what
its invocation returns from then on are its outputs or no completion. -/
theorem completion_terminal {es : List (Event Callbacks Begin Answer)}
    {p : Pool (State config) Callbacks Failure Reply}
    (hrun : (controller config).run (create config) es = some p) :
    Throughout CompletionTerminal p.state.log :=
  (Schedule.Run.any hrun).keeps (J := fun s => Throughout CompletionTerminal s.log)
    (fun _ _ _ hw hmove hall => hall.extend (hmove.terminal hw)) throughout_nil

def sampleCompletion : ResponseCompletionResult := ⟨.intake, ⟨"ok"⟩, []⟩

def confirmedRun : List (Event Callbacks Begin Answer) :=
  sealedRun ++ submitToHash 3 "submit-1" ++
    [.resume 3 (.hash (.ok sampleHash)) sampleCallbacks,
      .resume 3 (.submitOptions (.ok none)) sampleCallbacks,
      .resume 3 (.captured (.ok ⟨.intake, 0⟩)) sampleCallbacks,
      .resume 3 (.completion (.ok sampleCompletion)) sampleCallbacks,
      .resume 3 .done sampleCallbacks, .resume 3 .done sampleCallbacks,
      .begin (.widget (sampleSubmit "submit-1")) sampleCallbacks]

/-- The first and the second delivery both returned completed. -/
example : ((controller sampleConfig).run (create sampleConfig) confirmedRun).any (fun p =>
    (p.state.log.filter fun
      | .returned _ (some .submit) result => result.status == .completed
      | _ => false).length == 2) = true := by decide +kernel

theorem completion_terminal_confirmed_run :
    ∃ p, (controller sampleConfig).run (create sampleConfig) confirmedRun = some p
      ∧ Throughout CompletionTerminal p.state.log := by
  have hsome : ((controller sampleConfig).run (create sampleConfig) confirmedRun).isSome = true := by
    decide +kernel
  obtain ⟨p, hp⟩ := Option.isSome_iff_exists.mp hsome
  exact ⟨p, hp, completion_terminal hp⟩

end FormspecWeb.Controller
