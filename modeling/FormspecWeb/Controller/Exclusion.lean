import FormspecWeb.Controller.Assent

/-!
# One operation at a time

`restoreSavedDraft` and every delivered action take the busy flag between their
admission and their end; `restorePending` and `restoreSigned` only test it. Where
nothing is admitted while such a restoration is open, at most one operation is
open at a time and the published draft version never decreases.
-/

namespace FormspecWeb.Controller

open Shared Ports Engine Async

variable {config : ResponseActionControllerConfig} {F : Schedule}

theorem Exclusive.length_le {es : List (Entry config)} (h : Exclusive es) :
    (openOperations es).length ≤ 1 := by
  cases h with
  | idle ho _ => simp [ho]
  | locked t operation ho _ => simp [ho]
  | restoring t operation ho _ _ => simp [ho]

/-- At every point of the log at most one operation is open, and the versions the
published `saved` slots show, newest first, never increase. -/
structure ExclusionInvariant (es : List (Entry config)) : Prop where
  alone : Throughout (fun e older => (openOperations (e :: older)).length ≤ 1) es
  monotone : (shownVersions es).Pairwise (· ≥ ·)

/-- The schedule of the runs in which nothing is admitted while a restoration
that only tests the busy flag is open, and ports return ever newer drafts. -/
def Schedule.restoringAlone : Schedule := { Schedule.any with restoresAlone := true }

/-- In those runs at most one operation is open at any time, and no published
draft version decreases. -/
theorem operations_exclude {es : List (Event Callbacks Begin Answer)}
    {p : Pool (State config) Callbacks Failure Reply}
    (hrun : Schedule.restoringAlone.Run config es p) : ExclusionInvariant p.state.log where
  alone := by
    refine hrun.keeps (J := fun s => Throughout _ s.log) (fun t s s' hw hmove hall => ?_)
      throughout_nil
    have hexclusive : Exclusive s'.log := (hmove.wellformed hw).exclusive rfl
    refine hall.extend (hmove.log_cases.imp_right fun ⟨e, hlog, _⟩ => ⟨e, hlog, ?_⟩)
    exact hlog ▸ hexclusive.length_le
  monotone := (hrun.keeps (J := Wellformed Schedule.restoringAlone)
    (fun _ _ _ _ hmove hw => hmove.wellformed hw) wellformed_initial).ascending rfl |>.sorted

def restoredConfig : ResponseActionControllerConfig :=
  { sampleConfig with
    restoredResponse := some sampleResponse
    roles := fun
      | .saveOwned => some (sampleRole "save")
      | .sign => some (sampleRole "sign")
      | _ => none }

def samplePending : PendingResponseSigning :=
  { samplePreparation 2 with operationId := sampleCallbacks.generatedKey }

def restoredAnswers : List (Event Callbacks Begin Answer) :=
  [.resume 0 (.evidence ⟨.ok true, .ok sampleHash⟩) sampleCallbacks,
    .resume 0 (.restored (.ok (.prepared (samplePreparation 2) sampleCallbacks.generatedKey)))
      sampleCallbacks,
    .resume 0 (.evidence ⟨.ok true, .ok sampleHash⟩) sampleCallbacks]

/-- A Save of the fifth version, begun while the restoration of the second is open and admitted
behind it. -/
def awaitedRun : List (Event Callbacks Begin Answer) :=
  .begin (.restorePending samplePending) sampleCallbacks
    :: .begin (sampleInvocation "save" "save-1") sampleCallbacks
    :: restoredAnswers ++ sampleAnswers 1 (.saved (.ok (sampleDraft 5)))

theorem operations_exclude_awaited_run :
    ∃ p, Schedule.restoringAlone.Run restoredConfig awaitedRun p ∧ ExclusionInvariant p.state.log
      ∧ 2 ∈ shownVersions p.state.log ∧ 5 ∈ shownVersions p.state.log := by
  have hobeys : Schedule.restoringAlone.discipline.obeys (controller restoredConfig)
      (create restoredConfig) awaitedRun = true := by decide +kernel
  have hshown : ((controller restoredConfig).run (create restoredConfig) awaitedRun).any
      (fun p => decide (2 ∈ shownVersions p.state.log ∧ 5 ∈ shownVersions p.state.log)) = true := by
    decide +kernel
  obtain ⟨p, hp, hversions⟩ := (Option.any_eq_true _ _).mp hshown
  have hrun : Schedule.restoringAlone.Run restoredConfig awaitedRun p :=
    ⟨Discipline.meets_of_obeys hobeys, hp⟩
  exact ⟨p, hrun, operations_exclude hrun, of_decide_eq_true hversions⟩

/-- A Save of the fifth version, begun and ended while the restoration of the
second is open. -/
def overtakenRun : List (Event Callbacks Begin Answer) :=
  .begin (.restorePending samplePending) sampleCallbacks
    :: .begin (sampleInvocation "save" "save-1") sampleCallbacks
    :: sampleAnswers 1 (.saved (.ok (sampleDraft 5)))
    ++ restoredAnswers

/-- The restoration overwrites the newer Save, and the published version decreases. -/
theorem overtaken_run_decreases :
    ∃ p, (controller restoredConfig).run (create restoredConfig) overtakenRun = some p
      ∧ ¬ ExclusionInvariant p.state.log := by
  have hshown : ((controller restoredConfig).run (create restoredConfig) overtakenRun).any
      (fun p => !decide ((shownVersions p.state.log).Pairwise (· ≥ ·))) = true := by decide +kernel
  obtain ⟨p, hp, hdecreases⟩ := (Option.any_eq_true _ _).mp hshown
  refine ⟨p, hp, fun hinvariant => ?_⟩
  simp [hinvariant.monotone] at hdecreases

end FormspecWeb.Controller
