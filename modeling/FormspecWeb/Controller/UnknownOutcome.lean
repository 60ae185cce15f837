import FormspecWeb.Controller.Terminal

/-!
# An unknown outcome

A task completion of unknown outcome refuses every later Submit where it enters
the controller. A Submit that had entered before is not stopped again: it is
admitted when the hash of its Response arrives, and completes a second time. Where
no Submit is admitted after an unknown outcome, none is completed after it.
-/

namespace FormspecWeb.Controller

open Shared Ports Engine Async

variable {config : ResponseActionControllerConfig} {F : Schedule} {t : Nat} {s s' : State config}

def UnknownBlocks : Entry config → List (Entry config) → Prop
  | .called _ (.complete _ _ _), older => hasUnknown older = false
  | _, _ => True

/-- The schedule of the runs in which no Submit is admitted once a completion was
rejected as unknown. -/
def Schedule.blockingUnknown : Schedule := { Schedule.any with unknownBlocks := true }

/-! ## The invariant -/

/-- After an unknown outcome, a Submit that still holds the controller is the one
whose completion was rejected. -/
def HolderSpent (es : List (Entry config)) : Prop :=
  hasUnknown es = true → ∀ u id, lockedBy es = some (u, .action .submit id) →
    unknownSinceOpening u es = true

structure UnknownState (s : State config) : Prop where
  kept : Throughout UnknownBlocks s.log
  spent : HolderSpent s.log

theorem Marks.unknown {e : Entry config} (hw : Wellformed F s) (h : HolderSpent s.log)
    (he : Marks F t s e) : UnknownBlocks e s.log ∧ HolderSpent (e :: s.log) := by
  have hlocked := he.lockedBy hw
  cases he with
  | called call _ _ hcall =>
    refine ⟨?_, h⟩
    cases hcall with
    | complete id delivery hheld _ _ hunspent =>
      show hasUnknown s.log = false
      cases hunknown : hasUnknown s.log with
      | false => rfl
      | true => exact absurd (h hunknown t id hheld) (by simp [hunspent])
    | _ => trivial
  | outcomeUnknown id hheld =>
    refine ⟨trivial, fun _ u key hu => ?_⟩
    obtain ⟨rfl, -⟩ : t = u ∧ _ := Prod.mk.inj (Option.some.inj (hheld.symm.trans hu))
    simp [unknownSinceOpening]
  | opened operation _ hfree =>
    refine ⟨trivial, fun _ u id hu => ?_⟩
    rw [hlocked, hfree] at hu
    cases hu
  | closed operation _ => exact ⟨trivial, fun hunknown u id hu => h hunknown u id (hlocked ▸ hu)⟩
  | _ => exact ⟨trivial, h⟩

theorem HolderSpent.opened {es : List (Entry config)} {operation : Operation}
    (hkey : operation.busyKey.isSome = true)
    (hother : ∀ id, operation = .action .submit id → hasUnknown es = false) :
    HolderSpent (.opened t operation :: es) := by
  intro hunknown u id hu
  have hlocked : lockedBy (.opened t operation :: es) = some (t, operation) := by
    simp [lockedBy, hkey]
  obtain ⟨rfl, rfl⟩ := Prod.mk.inj (Option.some.inj (hlocked.symm.trans hu))
  have hbefore : hasUnknown es = true := hunknown
  rw [hother id rfl] at hbefore
  cases hbefore

theorem HolderSpent.closed {es : List (Entry config)} {operation : Operation}
    (hheld : lockedBy es = some (t, operation)) : HolderSpent (.closed t operation :: es) := by
  intro _ u id hu
  have hfree : lockedBy (.closed t operation :: es) = none := by simp [lockedBy, hheld]
  rw [hfree] at hu
  cases hu

theorem UnknownState.move (hF : F.unknownBlocks = true) (hw : Wellformed F s)
    (hmove : Move F t s s') (h : UnknownState s) : UnknownState s' := by
  have hsame : s'.log = s.log → UnknownState s' := fun hlog =>
    ⟨hlog ▸ h.kept, hlog ▸ h.spent⟩
  have hcons : ∀ e, s'.log = e :: s.log → UnknownBlocks e s.log → HolderSpent (e :: s.log) →
      UnknownState s' := fun e hlog he hspent =>
    ⟨h.kept.extend (.inr ⟨e, hlog, he⟩), hlog ▸ hspent⟩
  cases hmove with
  | quiet _ hlog => exact hsame hlog
  | learn _ _ hlog => exact hsame hlog
  | settle => exact hsame rfl
  | update => exact hsame rfl
  | keep => exact hsame rfl
  | mark e he =>
    obtain ⟨hblocks, hspent⟩ := he.unknown hw h.spent
    exact hcons e rfl hblocks hspent
  | admitCall hashed identity key hadmits =>
    refine hcons _ rfl trivial (HolderSpent.opened rfl fun id hsubmit => ?_)
    exact hadmits.known hF (Operation.action.inj hsubmit).1
  | hold operation hoperation =>
    refine hcons _ rfl trivial (HolderSpent.opened ?_ fun id hsubmit => ?_)
    · rcases hoperation with rfl | rfl <;> rfl
    · rcases hoperation with rfl | rfl <;> cases hsubmit
  | unhold operation hheld => exact hcons _ rfl trivial (.closed hheld)
  | release role id hheld => exact hcons _ rfl trivial (.closed hheld)
  | store hstore => exact hcons _ hstore.log trivial h.spent
  | publish => exact hcons _ rfl trivial h.spent
  | storeUnchecked => exact hcons _ rfl trivial h.spent
  | accept => exact hcons _ rfl trivial h.spent
  | invalidate => exact hcons _ rfl trivial h.spent

/-- In every run in which no Submit is admitted once a completion was rejected as
unknown, no completion is dispatched after that rejection. -/
theorem unknown_blocks {es : List (Event Callbacks Begin Answer)}
    {p : Pool (State config) Callbacks Failure Reply}
    (hrun : Schedule.blockingUnknown.Run config es p) : Throughout UnknownBlocks p.state.log :=
  (hrun.keeps (fun _ _ _ hw hmove h => UnknownState.move rfl hw hmove h)
    ⟨throughout_nil, nofun⟩).kept

def taskConfig : ResponseActionControllerConfig :=
  { sampleConfig with completion := some ⟨.task, fun _ => .ok ()⟩ }

/-- The answers that lead a Submit of call `t` from its hash to its completion. -/
def submitToCompletion (t : Nat) : List (Event Callbacks Begin Answer) :=
  [.resume t (.hash (.ok sampleHash)) sampleCallbacks,
    .resume t (.submitOptions (.ok none)) sampleCallbacks,
    .resume t (.captured (.ok ⟨.task, t⟩)) sampleCallbacks]

/-- The answers that reject the completion of call `t` as unknown, up to its return. -/
def outcomeLost (t : Nat) : List (Event Callbacks Begin Answer) :=
  [.resume t (.completion (.error .outcomeUnknown)) sampleCallbacks,
    .resume t .done sampleCallbacks, .resume t .done sampleCallbacks, .resume t .done sampleCallbacks]

def refusedSubmitRun : List (Event Callbacks Begin Answer) :=
  sealedRun ++ submitToHash 3 "submit-1" ++ submitToCompletion 3 ++ outcomeLost 3
    ++ [.begin (.widget (sampleSubmit "submit-2")) sampleCallbacks]

/-- Two Submits past the check of the flag, the first of unknown outcome. -/
def overtakenSubmitRun : List (Event Callbacks Begin Answer) :=
  sealedRun ++ submitToHash 3 "submit-1" ++ submitToHash 4 "submit-2" ++ submitToCompletion 3
    ++ outcomeLost 3 ++ submitToCompletion 4

theorem unknown_blocks_refused_submit :
    ∃ p, Schedule.blockingUnknown.Run taskConfig refusedSubmitRun p
      ∧ Throughout UnknownBlocks p.state.log := by
  obtain ⟨p, hp⟩ :=
    Schedule.blockingUnknown.exists_run taskConfig refusedSubmitRun (by decide +kernel)
  exact ⟨p, hp, unknown_blocks hp⟩

def completesAfterUnknown : List (Entry config) → Bool
  | .called _ (.complete _ _ _) :: older => hasUnknown older
  | _ => false

/-- The second Submit is completed after the outcome of the first became unknown. -/
theorem overtaken_submit_completes :
    ∃ p, (controller taskConfig).run (create taskConfig) overtakenSubmitRun = some p
      ∧ ¬ Throughout UnknownBlocks p.state.log := by
  have hcompletes : ((controller taskConfig).run (create taskConfig) overtakenSubmitRun).any
      (fun p => completesAfterUnknown p.state.log) = true := by decide +kernel
  obtain ⟨p, hp, hlast⟩ := (Option.any_eq_true _ _).mp hcompletes
  refine ⟨p, hp, fun hall => ?_⟩
  unfold completesAfterUnknown at hlast
  split at hlast
  · rename_i older hlog
    rw [hlog, throughout_cons] at hall
    have hnone : hasUnknown older = false := hall.1
    rw [hnone] at hlast
    cases hlast
  · cases hlast

end FormspecWeb.Controller
