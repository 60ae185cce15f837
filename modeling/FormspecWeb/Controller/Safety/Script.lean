import FormspecWeb.Controller.Interference

/-!
# The controller's shared steps keep the protocol

The contract of one call of the controller, and one rule for each shared step a
program of the controller is built from: `current`, `port`, `publish`,
`validateResponse`, `checkEvidence` and `fail`. A program is followed from one
await to the next in a state that is `Running`.
-/

namespace FormspecWeb.Controller

open Ports Engine Async

variable {config : ResponseActionControllerConfig} {F : Schedule} {t : Nat}
  {s s' : State config} {α β : Type}

/-- The contract of call `t`. -/
abbrev keeping (F : Schedule) (t : Nat) : Contract (State config) Reply where
  inv := Wellformed F
  rely := Rely F t
  guar := Move F t
  admits s l answer := F.discipline.resumes s l answer ∧ ∃ a, accept config s l a = some answer

/-- The state while a call runs: well formed, and with no unchecked checkpoint
where the schedule looks for one. -/
structure Running (F : Schedule) (s : State config) : Prop where
  wellformed : Wellformed F s
  clear : F.clear s = true

namespace Running

theorem unwindowed (h : Running F s) (hF : F.checkpointsChecked = true) (u : Nat) :
    uncheckedBy s.log ≠ some u := by
  rw [clear_none h.clear hF]
  exact nofun

theorem of_move (h : Running F s) (hmove : Move F t s s')
    (hunchecked : uncheckedBy s'.log = uncheckedBy s.log) : Running F s' where
  wellformed := hmove.wellformed h.wellformed
  clear := by
    have hclear := h.clear
    simp only [Schedule.clear] at hclear ⊢
    rw [hunchecked]
    exact hclear

theorem publish (h : Running F s) (phase : Phase) (reason : Option ResponseActionControllerReason) :
    Running F (s.publish phase reason) :=
  h.of_move (t := 0) (.publish phase reason h.clear) rfl

theorem note (h : Running F s) {e : Entry config} (he : Marks F t s e) : Running F (s.note e) where
  wellformed := (Move.mark e he).wellformed h.wellformed
  clear := by
    have hclear := h.clear
    simp only [Schedule.clear, Bool.or_eq_true, Bool.not_eq_true'] at hclear ⊢
    refine hclear.imp_right fun hnone => ?_
    have hlog : uncheckedBy s.log = none := by simpa using hnone
    have : uncheckedBy (e :: s.log) = none := by cases he <;> simp [uncheckedBy, hlog]
    simp [State.note, this]

theorem free (h : Running F s) (hbusy : s.isBusy = false) : lockedBy s.log = none := by
  cases hlock : lockedBy s.log with
  | none => rfl
  | some holder =>
    obtain ⟨u, operation⟩ := holder
    have hkey := h.wellformed.key u operation hlock
    have hfalse : s.isBusy = true := by
      simpa [State.isBusy, h.wellformed.busy, hlock] using hkey
    rw [hbusy] at hfalse
    cases hfalse

end Running

theorem Wellformed.isCurrent_zero (h : Wellformed F s) : s.isCurrent 0 = !s.invalidated := by
  cases hinv : s.invalidated with
  | true => simp [State.isCurrent, hinv]
  | false => simp [State.isCurrent, hinv, h.epoch hinv]

theorem isCurrent_current {generation : Nat} (h : s.isCurrent generation = true) :
    s.invalidated = false := by
  simp only [State.isCurrent, Bool.and_eq_true, Bool.not_eq_true'] at h
  exact h.1

def Await.checksCheckpoint : Await → Bool
  | .checkEvidence check => check.purpose == .checkpoint
  | _ => false

theorem Schedule.clear_of_resumes {l : Await} {answer : Reply l}
    (h : F.resumes s l answer = true) (hl : l.checksCheckpoint = false) : F.clear s = true := by
  cases l with
  | checkEvidence check =>
    have hpurpose : check.purpose ≠ .checkpoint := by simpa [Await.checksCheckpoint] using hl
    simp only [Schedule.resumes, if_neg hpurpose, Bool.and_eq_true] at h
    exact h.1
  | hashResponse hashed => simp only [Schedule.resumes, Bool.and_eq_true] at h; exact h.1
  | saveDraft purpose =>
    cases answer with
    | error e => exact h
    | ok draft => simp only [Schedule.resumes, Bool.and_eq_true] at h; exact h.1.1
  | prepare =>
    cases answer with
    | error e => exact h
    | ok draft => simp only [Schedule.resumes, Bool.and_eq_true] at h; exact h.1
  | sign =>
    cases answer with
    | error e => exact h
    | ok draft => simp only [Schedule.resumes, Bool.and_eq_true] at h; exact h.1
  | _ => exact h

variable {Q : Except Failure β → State config → Prop}

theorem awaiting_safe {l : Await} (hl : l.checksCheckpoint = false)
    {f : Reply l → Script config β}
    (h : ∀ s', Rely F t s s' → Running F s' → ∀ answer, F.resumes s' l answer = true →
      (∃ a, accept config s' l a = some answer) → Safe (keeping F t) (f answer) Q s') :
    Safe (keeping F t) (Prog.awaiting l >>= f) Q s :=
  Safe.awaiting fun s' hrely hw answer hadmits =>
    h s' hrely ⟨hw, Schedule.clear_of_resumes hadmits.1 hl⟩ answer hadmits.1 hadmits.2

theorem awaiting_last_safe (l : Await) (hl : l.checksCheckpoint = false)
    {Q : Except Failure (Reply l) → State config → Prop}
    (h : ∀ s', Rely F t s s' → Running F s' → ∀ answer, F.resumes s' l answer = true →
      (∃ a, accept config s' l a = some answer) → Q (.ok answer) s') :
    Safe (keeping F t) (Prog.awaiting l : Script config (Reply l)) Q s :=
  fun s' hrely hw answer hadmits =>
    h s' hrely ⟨hw, Schedule.clear_of_resumes hadmits.1 hl⟩ answer hadmits.1 hadmits.2

/-! ## Shared steps -/

variable {f : Unit → Script config β}

theorem current_safe {generation : Nat}
    (hok : s.isCurrent generation = true → Safe (keeping F t) (f ()) Q s)
    (herror : s.isCurrent generation = false → ∀ e, Q (.error e) s) :
    Safe (keeping F t) (current config generation >>= f) Q s := by
  refine Safe.of_andThen (Safe.get ?_)
  show Safe.andThen _ f Q _ s
  cases hcurrent : s.isCurrent generation with
  | true => exact hok hcurrent
  | false => exact herror hcurrent _

theorem publish_safe {phase : Phase} {reason : Option ResponseActionControllerReason}
    (hrunning : Running F s) (h : Safe (keeping F t) (f ()) Q (s.publish phase reason)) :
    Safe (keeping F t) (publish config phase reason >>= f) Q s :=
  Safe.modify (.publish phase reason hrunning.clear) h

theorem note_safe {e : Entry config}
    (he : Marks F t s e)
    (h : Safe (keeping F t) (f ()) Q (s.note e)) : Safe (keeping F t) (note config e >>= f) Q s :=
  Safe.modify (.mark e he) h

def answered (F : Schedule) (t : Nat) (f : α → Script config β)
    (Q : Except Failure β → State config → Prop) :
    Except Failure (Except Failure α) → State config → Prop
  | .ok (.ok a) => Safe (keeping F t) (f a) Q
  | .ok (.error e) | .error e => Q (.error e)

theorem port_safe {call : Script config (Except Failure α)} {f : α → Script config β}
    (h : Safe (keeping F t) call (answered F t f Q) s) :
    Safe (keeping F t) (port config call >>= f) Q s := by
  refine Safe.of_andThen (Safe.of_andThen (h.mono ?_))
  rintro (e | e | a) s' hs'
  · exact hs'
  · exact hs'
  · exact hs'

theorem validateResponse_safe {response : FormResponse}
    (hok : ∀ s', Rely F t s s' → Running F s' → Safe (keeping F t) (f ()) Q s')
    (herror : ∀ s' e, Rely F t s s' → Running F s' → Q (.error e) s') :
    Safe (keeping F t) (validateResponse config response >>= f) Q s := by
  refine Safe.of_andThen (awaiting_safe rfl fun s' hrely hrunning answer _ _ => ?_)
  show Safe.andThen _ f Q _ s'
  cases assertControllerResponse config response answer with
  | ok _ => exact hok s' hrely hrunning
  | error e => exact herror s' e hrely hrunning

theorem checkEvidence_safe {purpose : EvidencePurpose} {result : SavedResponseDraft}
    {expected : Option FormResponse}
    (hpurpose : purpose ≠ .checkpoint)
    (hunstored : storedSinceOpening t s.log = false) (hagainst : Against t s.log result expected)
    (hok : ∀ s', Rely F t s s' → Running F s' →
      (F.assentsKept = true → purpose.writesPrepared = true → assenting s'.log = []) →
      ∀ evidence : PassedEvidence config, evidence.result = result →
        Marks F t s' (.passed t evidence) →
        Safe (keeping F t) (f ()) Q (s'.note (.passed t evidence)))
    (herror : ∀ s' e, Rely F t s s' → Running F s' → Marks F t s' (.failedEvidence t) →
      Q (.error e) (s'.note (.failedEvidence t))) :
    Safe (keeping F t) (checkEvidence config t purpose result expected >>= f) Q s := by
  refine Safe.of_andThen (Safe.get (awaiting_safe ?_ fun s' hrely hrunning answer hresumes _ => ?_))
  · simpa [Await.checksCheckpoint] using hpurpose
  split
  · rename_i hpassed
    have hmark : Marks F t s' (.passed t ⟨result, expected, s.actor, answer, hpassed⟩) :=
      .passed _ (hagainst.mono hrely.history.kept) fun hF hwindow =>
        absurd hwindow (hrunning.unwindowed hF t)
    refine ⟨.mark _ hmark, hok s' hrely hrunning (fun hF hwrites => ?_) _ rfl hmark⟩
    have hpasses : (EvidenceCheck.mk purpose result expected s.actor).passes config answer = true := by
      simp [EvidenceCheck.passes, hpassed]
    simpa [Schedule.resumes, hpurpose, hrunning.clear, hF, hwrites, hpasses] using hresumes
  · rename_i failure _
    have hmark : Marks F t s' (.failedEvidence t) :=
      .failedEvidence fun _ => hrely.history.stored.trans hunstored
    exact ⟨.mark _ hmark, herror s' failure hrely hrunning hmark⟩

/-- The publication `fail` ends with leaves everything but the snapshot alone. -/
theorem report_safe {failure : Failure} (hrunning : Running F s)
    {Q : Except Failure ResponseActionControllerReason → State config → Prop}
    (hquiet : ∀ reason, Q (.ok reason) s)
    (hpublish : ∀ phase shown reason, Q (.ok reason) (s.publish phase shown)) :
    Safe (keeping F t) (report config failure) Q s := by
  refine Safe.get ?_
  split
  · exact publish_safe hrunning (hpublish _ _ _)
  split
  · exact publish_safe hrunning (hpublish _ _ _)
  · exact hquiet _

theorem fail_safe {failure : Failure} {generation : Nat} (hrunning : Running F s)
    {Q : Except Failure ResponseActionControllerReason → State config → Prop}
    (hquiet : ∀ s' reason, s'.log = s.log → Running F s' → Q (.ok reason) s')
    (hpublish : ∀ s' snapshot reason, s'.log = .published snapshot :: s.log → Running F s' →
      Q (.ok reason) s') :
    Safe (keeping F t) (fail config failure generation) Q s := by
  have hleave : Move F t s s.leaveOutcomeUnknown :=
    .quiet ⟨rfl, rfl, rfl, rfl, rfl, rfl, fun _ => rfl, rfl, Nat.le_refl _⟩ rfl rfl rfl rfl
  refine Safe.get ?_
  split
  · exact hquiet s _ rfl hrunning
  split
  · have hleft : Running F s.leaveOutcomeUnknown := hrunning.of_move hleave rfl
    exact Safe.modify hleave (report_safe hleft (fun _ => hquiet _ _ rfl hleft)
      fun _ _ _ => hpublish _ _ _ rfl (hleft.publish _ _))
  · exact report_safe hrunning (fun _ => hquiet _ _ rfl hrunning)
      fun _ _ _ => hpublish _ _ _ rfl (hrunning.publish _ _)

end FormspecWeb.Controller
