import FormspecWeb.Controller.Exclusion

/-!
# Invalidation is final

Once invalidated, the controller dispatches no port call and shows no
preparation, signature or completion. The application it held stays in what it
shows, as the host continues it; nothing obtained later takes its place.
-/

namespace FormspecWeb.Controller

open Shared Ports Engine Async

variable {config : ResponseActionControllerConfig} {F : Schedule} {t : Nat} {s s' : State config}

/-- The checkpoints stored since the last invalidation, before any check. -/
def lateCheckpoints : List (Entry config) → List SavedResponseDraft
  | [] => []
  | .invalidated _ :: _ => []
  | .unchecked _ draft :: es => draft :: lateCheckpoints es
  | _ :: es => lateCheckpoints es

/-- What a snapshot shows after the invalidation of a controller that held this
application. -/
structure ShowsInvalidated (older : List (Entry config))
    (application : Option ApplicationCaseReceipt) (snapshot : Snapshot) : Prop where
  prepared : snapshot.prepared = none
  signed : snapshot.signed = none
  completion : snapshot.completion = none
  application : snapshot.application = application
  saved : ∀ draft, snapshot.saved = some draft → draft ∈ lateCheckpoints older

/-- No port call follows an invalidation, and what is shown after it was either
held before it or is the checkpoint of an early start that was still running. -/
def InvalidationFinal : Entry config → List (Entry config) → Prop
  | .called _ _, older => invalidatedWith older = none
  | .published snapshot, older => ∀ application, invalidatedWith older = some application →
      ShowsInvalidated older application snapshot
  | _, _ => True

/-! ## The invariant -/

structure InvalidationState (s : State config) : Prop where
  kept : Throughout InvalidationFinal s.log
  prepared : s.invalidated = true → s.prepared = none
  signed : s.invalidated = true → s.signed = none
  application : s.invalidated = true → invalidatedWith s.log = some s.application
  saved : s.invalidated = true → ∀ draft, s.saved = some draft → draft ∈ lateCheckpoints s.log

namespace InvalidationState

section

variable (h : InvalidationState s)
include h

theorem of_current (hcurrent : s'.invalidated = false)
    (hlog : s'.log = s.log ∨ ∃ e, s'.log = e :: s.log ∧ InvalidationFinal e s.log) :
    InvalidationState s' where
  kept := h.kept.extend hlog
  prepared hinv := by rw [hcurrent] at hinv; cases hinv
  signed hinv := by rw [hcurrent] at hinv; cases hinv
  application hinv := by rw [hcurrent] at hinv; cases hinv
  saved hinv := by rw [hcurrent] at hinv; cases hinv

theorem of_slots (hinvalidated : s'.invalidated = s.invalidated)
    (hslots : s'.slots = s.slots) (happlication : s'.application = s.application)
    (hlog : s'.log = s.log ∨ ∃ e, s'.log = e :: s.log ∧ InvalidationFinal e s.log)
    (hinvalid : invalidatedWith s'.log = invalidatedWith s.log)
    (hlate : lateCheckpoints s'.log = lateCheckpoints s.log) : InvalidationState s' where
  kept := h.kept.extend hlog
  prepared hinv := (congrArg Slots.prepared hslots).trans (h.prepared (hinvalidated ▸ hinv))
  signed hinv := (congrArg Slots.signed hslots).trans (h.signed (hinvalidated ▸ hinv))
  application hinv := by rw [hinvalid, happlication]; exact h.application (hinvalidated ▸ hinv)
  saved hinv draft hdraft := by
    have hbefore : s.saved = some draft := (congrArg Slots.saved hslots).symm.trans hdraft
    rw [hlate]
    exact h.saved (hinvalidated ▸ hinv) draft hbefore

theorem publish (hw : Wellformed F s) (phase : Phase)
    (reason : Option ResponseActionControllerReason) : InvalidationState (s.publish phase reason) := by
  refine h.of_slots rfl rfl rfl (.inr ⟨_, rfl, fun application hinvalid => ?_⟩) rfl rfl
  have hinv : s.invalidated = true := by rw [hw.invalid, hinvalid]; rfl
  have hheld : some s.application = some application := (h.application hinv).symm.trans hinvalid
  exact
    { prepared := h.prepared hinv
      signed := h.signed hinv
      completion := by
        show s.completionResult = none
        rw [hw.completion, hinv]
        rfl
      application := Option.some.inj hheld
      saved := h.saved hinv }

theorem mark {e : Entry config} (hw : Wellformed F s)
    (he : Marks F t s e) : InvalidationState (s.note e) := by
  have hinvalid : invalidatedWith (s.note e).log = invalidatedWith s.log := by cases he <;> rfl
  have hlate : lateCheckpoints (s.note e).log = lateCheckpoints s.log := by cases he <;> rfl
  refine h.of_slots rfl rfl rfl (.inr ⟨e, rfl, ?_⟩) hinvalid hlate
  cases he with
  | called call hcurrent =>
    show invalidatedWith s.log = none
    simpa [hcurrent] using hw.invalid.symm
  | _ => trivial

theorem storeUnchecked {draft : SavedResponseDraft} :
    InvalidationState (s.storeUnchecked t draft) where
  kept := throughout_cons.mpr ⟨trivial, h.kept⟩
  __ := h
  saved _ other hother := by
    obtain rfl : draft = other := Option.some.inj hother
    exact List.mem_cons_self

theorem invalidate : InvalidationState s.invalidate where
  kept := throughout_cons.mpr ⟨trivial, h.kept⟩
  prepared _ := rfl
  signed _ := rfl
  application _ := rfl
  saved _ _ hdraft := by cases hdraft

end

theorem move (hw : Wellformed F s) (hmove : Move F t s s') (h : InvalidationState s) :
    InvalidationState s' := by
  cases hmove with
  | quiet hframe hlog hslots happlication =>
    exact h.of_slots hframe.invalidated hslots happlication (.inl hlog) (by rw [hlog])
      (by rw [hlog])
  | learn hcurrent hframe hlog =>
    exact h.of_current (hframe.invalidated.trans hcurrent) (.inl hlog)
  | publish phase reason => exact h.publish hw phase reason
  | mark e he => exact h.mark hw he
  | admitCall => exact h.of_slots rfl rfl rfl (.inr ⟨_, rfl, trivial⟩) rfl rfl
  | hold => exact h.of_slots rfl rfl rfl (.inr ⟨_, rfl, trivial⟩) rfl rfl
  | unhold => exact h.of_slots rfl rfl rfl (.inr ⟨_, rfl, trivial⟩) rfl rfl
  | release => exact h.of_slots rfl rfl rfl (.inr ⟨_, rfl, trivial⟩) rfl rfl
  | accept => exact h.of_slots rfl rfl rfl (.inr ⟨_, rfl, trivial⟩) rfl rfl
  | store hstore =>
    exact h.of_current (hstore.frame.invalidated.trans hstore.current)
      (.inr ⟨_, hstore.log, trivial⟩)
  | storeUnchecked draft => exact h.storeUnchecked
  | settle => exact h.of_slots rfl rfl rfl (.inl rfl) rfl rfl
  | update => exact h.of_slots rfl rfl rfl (.inl rfl) rfl rfl
  | keep => exact h.of_slots rfl rfl rfl (.inl rfl) rfl rfl
  | invalidate => exact h.invalidate

end InvalidationState

theorem invalidation_initial : InvalidationState (State.initial config) where
  kept := throughout_nil
  prepared h := by cases h
  signed h := by cases h
  application h := by cases h
  saved h := by cases h

/-- In every run, nothing is dispatched after an invalidation, and nothing an
operation obtained is shown after it but the application already held. -/
theorem invalidation_final {es : List (Event Callbacks Begin Answer)}
    {p : Pool (State config) Callbacks Failure Reply}
    (hrun : (controller config).run (create config) es = some p) :
    Throughout InvalidationFinal p.state.log :=
  ((Schedule.Run.any hrun).keeps (fun _ _ _ hw hmove h => InvalidationState.move hw hmove h)
    invalidation_initial).kept

/-- An invalidation after the application started, and a later publication. -/
def invalidatedRun : List (Event Callbacks Begin Answer) :=
  receivedStart ++ [.begin .invalidate sampleCallbacks, .begin .retireSignRetry sampleCallbacks]

theorem invalidation_final_invalidated_run :
    ∃ p, (controller sampleConfig).run (create sampleConfig) invalidatedRun = some p
      ∧ Throughout InvalidationFinal p.state.log := by
  have hsome : ((controller sampleConfig).run (create sampleConfig) invalidatedRun).isSome = true := by
    decide +kernel
  obtain ⟨p, hp⟩ := Option.isSome_iff_exists.mp hsome
  exact ⟨p, hp, invalidation_final hp⟩

def ShowsNothingObtained : Entry config → List (Entry config) → Prop
  | .called _ _, older => invalidatedWith older = none
  | .published snapshot, older => invalidatedWith older ≠ none →
      snapshot.saved = none ∧ snapshot.prepared = none ∧ snapshot.signed = none
        ∧ snapshot.completion = none
        ∧ ∀ application, snapshot.application = some application →
          config.restoredApplication = some application
  | _, _ => True

def showsApplicationLate : List (Entry config) → Bool
  | .published snapshot :: older => (invalidatedWith older).isSome && snapshot.application.isSome
  | _ => false

/-- The application an early start obtained is still shown after the invalidation. -/
theorem invalidated_run_shows_application :
    ∃ p, (controller sampleConfig).run (create sampleConfig) invalidatedRun = some p
      ∧ ¬ Throughout ShowsNothingObtained p.state.log := by
  have hshown : ((controller sampleConfig).run (create sampleConfig) invalidatedRun).any
      (fun p => showsApplicationLate p.state.log) = true := by decide +kernel
  obtain ⟨p, hp, hlast⟩ := (Option.any_eq_true _ _).mp hshown
  refine ⟨p, hp, fun hall => ?_⟩
  unfold showsApplicationLate at hlast
  split at hlast
  · rename_i snapshot older hlog
    obtain ⟨hinvalid, hsome⟩ := Bool.and_eq_true_iff.mp hlast
    obtain ⟨application, happlication⟩ := Option.isSome_iff_exists.mp hsome
    rw [hlog, throughout_cons] at hall
    have hnone : (invalidatedWith older) ≠ none := by
      intro hnone
      rw [hnone] at hinvalid
      cases hinvalid
    obtain ⟨-, -, -, -, hrestored⟩ := hall.1 hnone
    cases hrestored application happlication
  · cases hlast

end FormspecWeb.Controller
