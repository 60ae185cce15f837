import FormspecWeb.Controller.Evidence
import FormspecWeb.Host.ConfigureRuntime

/-!
# What a configured runtime has restored

A call that finds no controller resolves only with one that has restored what the call carries. A call
that finds one skips the restoration, so it is as good as what that controller holds by then.
-/

namespace FormspecWeb.Host.RuntimeHost

open Shared Ports Controller Async

/-- Every call that resolved did so with a controller that held exactly what the call carries, and
that no restoration was still to change. -/
def Complete (s : RuntimeHost) : Prop :=
  ∀ n input session restoring, LeaseEntry.resolved n input session restoring ∈ s.log →
    Restored input session ∧ restoring = false

def accepts (policy : RuntimePolicy) (s : RuntimeHost) (next : RuntimeInput) (fault : Option EngineFault)
    (checks : Bool) : Bool :=
  !s.changesRestoration next && !s.refusesInput policy next
    && !(s.input.isSome && fault == some .setLocale) && fault != some .title && checks

/-- A call that is accepted where there is a controller carries exactly what that controller holds, and
no restoration of it is awaited. -/
def TakesSession (policy : RuntimePolicy) (s : RuntimeHost) : LeaseEvent → Prop
  | .configureRuntime next _ fault checks => ∀ session, s.controller = some session →
      s.accepts policy next fault checks = true → Restored next session ∧ s.isRestoring = false
  | _ => True

/-- Where a call is, the controller holds what has been restored by then. -/
def StageSound (input : RuntimeInput) (session : Session) : LeaseStage → Prop
  | .ended => True
  | .savedEvidence draft _ _ =>
    input.restoredSavedDraft = some draft ∧ isAmbiguous input = false ∧ session.state.slots = .empty
  | .savedCommit _ =>
    (∃ draft, input.restoredSavedDraft = some draft ∧ session.state.slots = ⟨some draft, none, none⟩)
      ∧ isAmbiguous input = false
  | .pendingEvidence pending _ _ | .pendingPort pending _ _ | .pendingSelected pending _ _ _ _ =>
    input.restoredSavedDraft = none ∧ input.restoredPendingSign = some pending
      ∧ session.state.slots = .empty
  | .pendingCommit =>
    input.restoredSavedDraft = none
      ∧ ∃ pending, input.restoredPendingSign = some pending ∧ RestoredPending pending session
  | .signedEvidence signature _ _ =>
    input.restoredSavedDraft = none ∧ input.restoredPendingSign = none
      ∧ input.restoredSigning = some signature ∧ session.state.slots = .empty
  | .signedCommit | .signedDelivery =>
    input.restoredSavedDraft = none ∧ input.restoredPendingSign = none
      ∧ ∃ signature, input.restoredSigning = some signature
        ∧ session.state.slots = ⟨some signature.toSavedResponseDraft, none, some signature⟩

/-- What a call that waits stands on. Once its session was stopped it can only reject. -/
structure Waiting (s : RuntimeHost) (call : LeaseCall) : Prop where
  controller : s.controller.isSome = true
  authority : call.expectedAuthority ≤ s.authorityGeneration
  stage : call.expectedAuthority = s.authorityGeneration →
    ∀ session, s.controller = some session → StageSound call.input session call.stage

/-- The invariant. A call waits only for a restoration, and only one call restores. -/
structure Sound (s : RuntimeHost) : Prop where
  waiting : ∀ (n : Nat) (call : LeaseCall), s.calls[n]? = some call → call.stage ≠ .ended → s.Waiting call
  unique : ∀ (m n : Nat) (other call : LeaseCall), s.calls[m]? = some other → s.calls[n]? = some call →
    other.stage ≠ .ended → call.stage ≠ .ended → m = n

/-! ## Moves -/

variable {policy : RuntimePolicy} {s t : RuntimeHost} {n : Nat} {call : LeaseCall} {session : Session}
  {checks : Bool} {stage : LeaseStage}

/-- A call goes on to another stage, or ends; and it resolves only with what it carries restored. -/
structure Advances (s t : RuntimeHost) (n : Nat) (call : LeaseCall) : Prop where
  stage : ∃ stage, t.calls = s.calls.set n { call with stage }
    ∧ (stage ≠ .ended → t.Waiting { call with stage })
  resolved : ∀ m input session restoring, LeaseEntry.resolved m input session restoring ∈ t.log →
    LeaseEntry.resolved m input session restoring ∈ s.log ∨ Restored input session ∧ restoring = false

theorem Advances.complete (h : Advances s t n call) (hs : s.Complete) : t.Complete := by
  intro m input session restoring hmem
  rcases h.resolved m input session restoring hmem with hmem | hrestored
  · exact hs m input session restoring hmem
  · exact hrestored

/-- No call but this one waits. -/
def OnlyWaits (s : RuntimeHost) (n : Nat) : Prop :=
  ∀ (m : Nat) (other : LeaseCall), s.calls[m]? = some other → other.stage ≠ .ended → m = n

/-- Where the call was the one to wait, or none was, it is the one to wait. -/
theorem Advances.sound (h : Advances s t n call) (halone : s.OnlyWaits n) : t.Sound := by
  obtain ⟨stage, hcalls, hwaiting⟩ := h.stage
  have honly : ∀ (m : Nat) (other : LeaseCall), t.calls[m]? = some other → other.stage ≠ .ended →
      m = n ∧ other = { call with stage } := by
    intro m other hother hwaits
    rw [hcalls] at hother
    rcases of_getElem?_set hother with ⟨hm, hother⟩ | ⟨hm, hother⟩
    · exact ⟨hm, hother⟩
    · exact absurd (halone m other hother hwaits) hm
  constructor
  · intro m other hother hwaits
    obtain ⟨-, rfl⟩ := honly m other hother hwaits
    exact hwaiting hwaits
  · intro m k other found hother hfound hwaits hwaitsFound
    rw [(honly m other hother hwaits).1, (honly k found hfound hwaitsFound).1]

theorem Sound.alone (h : s.Sound) (hcall : s.calls[n]? = some call) (hwaits : call.stage ≠ .ended) :
    s.OnlyWaits n :=
  fun m other hother hwaitsOther => h.unique m n other call hother hcall hwaitsOther hwaits

theorem OnlyWaits.not_restoring (h : s.OnlyWaits n) : (s.setStage n call .ended).isRestoring = false := by
  refine List.any_eq_false.mpr fun other hother hrestores => ?_
  obtain ⟨m, hm⟩ := List.mem_iff_getElem?.mp hother
  have hstage : other.stage.restores = true := (Bool.and_eq_true_iff.mp hrestores).1
  rcases of_getElem?_set hm with ⟨-, rfl⟩ | ⟨hne, hm⟩
  · cases hstage
  · refine hne (h m other hm fun hended => ?_)
    rw [hended] at hstage
    cases hstage

theorem advances_reject : Advances s (s.reject n call) n call where
  stage := ⟨.ended, rfl, fun hne => absurd rfl hne⟩
  resolved m input session restoring hmem := by
    rcases List.mem_cons.mp hmem with heq | hmem
    · cases heq
    · exact Or.inl hmem

theorem advances_setSession (hauthority : call.expectedAuthority ≤ s.authorityGeneration)
    (hstage : call.expectedAuthority = s.authorityGeneration → StageSound call.input session stage) :
    Advances s ((s.setSession session).setStage n call stage) n call where
  stage := by
    refine ⟨stage, rfl, fun _ => ⟨rfl, hauthority, ?_⟩⟩
    intro heq found hfound
    cases hfound
    exact hstage heq
  resolved _ _ _ _ := Or.inl

theorem advances_setStage (hcontroller : s.controller = some session)
    (hauthority : call.expectedAuthority ≤ s.authorityGeneration)
    (hstage : call.expectedAuthority = s.authorityGeneration → StageSound call.input session stage) :
    Advances s (s.setStage n call stage) n call where
  stage := by
    refine ⟨stage, rfl, fun _ => ⟨?_, hauthority, ?_⟩⟩
    · change s.controller.isSome = true
      rw [hcontroller]
      rfl
    · intro heq found hfound
      obtain rfl := Option.some.inj (hcontroller.symm.trans hfound)
      exact hstage heq
  resolved _ _ _ _ := Or.inl

theorem advances_rejectSaved : Advances s (s.rejectSaved n call session) n call :=
  ⟨advances_reject.stage, advances_reject.resolved⟩

theorem authority_of_admits (h : s.admits call = true) : call.expectedAuthority = s.authorityGeneration := by
  simp only [admits, Bool.and_eq_true, beq_iff_eq] at h
  exact h.1.2

theorem advances_finish (halone : s.OnlyWaits n)
    (hrestored : call.expectedAuthority = s.authorityGeneration →
      ∀ session, s.controller = some session → Restored call.input session) :
    Advances s (s.finish n call checks) n call := by
  unfold finish
  cases hcontroller : s.controller with
  | none => exact advances_reject
  | some session =>
    dsimp only
    by_cases hadmits : (s.admits call && checks) = true
    · rw [if_pos hadmits]
      have hauthority := authority_of_admits (Bool.and_eq_true_iff.mp hadmits).1
      refine ⟨⟨.ended, rfl, fun hne => absurd rfl hne⟩, ?_⟩
      intro m input found restoring hmem
      rcases List.mem_cons.mp hmem with heq | hmem
      · cases heq
        exact Or.inr ⟨hrestored hauthority session hcontroller, halone.not_restoring⟩
      · exact Or.inl hmem
    · rw [if_neg hadmits]
      exact advances_reject

theorem restored_of_none {input : RuntimeInput} (hsaved : input.restoredSavedDraft = none)
    (hpending : input.restoredPendingSign = none) (hsigned : input.restoredSigning = none)
    (hempty : session.state.slots = .empty) : Restored input session := by
  refine ⟨?_, ?_, ?_, fun _ _ _ => hempty⟩
  · intro draft hdraft
    rw [hsaved] at hdraft
    cases hdraft
  · intro pending hsome
    rw [hpending] at hsome
    cases hsome
  · intro signature hsome
    rw [hsigned] at hsome
    cases hsome

section

variable (halone : s.OnlyWaits n) (hauthority : call.expectedAuthority ≤ s.authorityGeneration)
include halone hauthority

theorem advances_beginSigned
    (hsaved : call.input.restoredSavedDraft = none) (hpending : call.input.restoredPendingSign = none)
    (hempty : ∀ session, s.controller = some session → session.state.slots = .empty) :
    Advances s (s.beginSigned n call checks) n call := by
  unfold beginSigned
  cases hsigned : call.input.restoredSigning with
  | none =>
    exact advances_finish halone fun _ session hcontroller =>
      restored_of_none hsaved hpending hsigned (hempty session hcontroller)
  | some signature =>
    cases hcontroller : s.controller with
    | none => exact advances_reject
    | some session =>
      dsimp only
      split
      · exact advances_reject
      · exact advances_setStage hcontroller hauthority
          fun _ => ⟨hsaved, hpending, hsigned, hempty session hcontroller⟩

theorem advances_beginPending (hsaved : call.input.restoredSavedDraft = none)
    (hempty : ∀ session, s.controller = some session → session.state.slots = .empty) :
    Advances s (s.beginPending n call checks) n call := by
  unfold beginPending
  cases hpending : call.input.restoredPendingSign with
  | none => exact advances_beginSigned halone hauthority hsaved hpending hempty
  | some pending =>
    cases hcontroller : s.controller with
    | none => exact advances_reject
    | some session =>
      dsimp only
      split
      · exact advances_reject
      · exact advances_setStage hcontroller hauthority
          fun _ => ⟨hsaved, hpending, hempty session hcontroller⟩

theorem advances_beginSaved (hambiguous : isAmbiguous call.input = false)
    (hempty : ∀ session, s.controller = some session → session.state.slots = .empty) :
    Advances s (s.beginSaved n call checks) n call := by
  unfold beginSaved
  cases hsaved : call.input.restoredSavedDraft with
  | none => exact advances_beginPending halone hauthority hsaved hempty
  | some draft =>
    cases hcontroller : s.controller with
    | none => exact advances_reject
    | some session =>
      dsimp only
      split
      · exact advances_reject
      · exact advances_setSession hauthority
          fun _ => ⟨hsaved, hambiguous, hempty session hcontroller⟩

end

theorem sessionOf_eq_some (h : s.sessionOf call = some session) :
    call.expectedAuthority = s.authorityGeneration ∧ s.controller = some session := by
  unfold sessionOf at h
  split at h
  · next heq => exact ⟨heq, h⟩
  · cases h

theorem Waiting.sound {stage : LeaseStage} (hw : s.Waiting call) (h : s.sessionOf call = some session)
    (hstage : call.stage = stage) : StageSound call.input session stage := by
  obtain ⟨heq, hcontroller⟩ := sessionOf_eq_some h
  exact hstage ▸ hw.stage heq session hcontroller

theorem of_slots_empty (h : session.state.slots = .empty) :
    session.state.saved = none ∧ session.state.prepared = none ∧ session.state.signed = none :=
  ⟨congrArg Slots.saved h, congrArg Slots.prepared h, congrArg Slots.signed h⟩

section

variable {draft : SavedResponseDraft} {pending : PendingResponseSigning}
  {signature : SignedResponseSigning} {actor : Option String} {epoch : Nat}
  {checked : Except Failure Unit} {wording : Except Failure Wording}

theorem advances_storeSaved (hauthority : call.expectedAuthority ≤ s.authorityGeneration)
    (hsound : StageSound call.input session (.savedEvidence draft actor epoch)) :
    Advances s (s.storeSaved n call session draft epoch checked) n call := by
  unfold storeSaved
  split
  · exact advances_rejectSaved
  split
  · exact advances_rejectSaved
  · obtain ⟨hsaved, hambiguous, hempty⟩ := hsound
    obtain ⟨-, hprepared, hsigned⟩ := of_slots_empty hempty
    refine advances_setSession hauthority fun _ => ⟨⟨draft, hsaved, ?_⟩, hambiguous⟩
    change (⟨some draft, session.state.prepared, session.state.signed⟩ : Slots) = _
    rw [hprepared, hsigned]

theorem advances_callPort (hcontroller : s.controller = some session)
    (hauthority : call.expectedAuthority ≤ s.authorityGeneration)
    (hsound : StageSound call.input session (.pendingEvidence pending actor epoch)) :
    Advances s (s.callPort n call session pending epoch checked wording) n call := by
  unfold callPort
  split
  · split
    · exact advances_reject
    · exact advances_setStage hcontroller hauthority fun _ => hsound
  · exact advances_reject

theorem advances_storePending {wording : Wording} {result : RestoredPendingResponseSigning}
    (hauthority : call.expectedAuthority ≤ s.authorityGeneration)
    (hsound : StageSound call.input session (.pendingSelected pending wording result actor epoch)) :
    Advances s (s.storePending n call session pending wording result epoch checked) n call := by
  obtain ⟨hsaved, hpending, hempty⟩ := hsound
  obtain ⟨-, hprepared, hsigned⟩ := of_slots_empty hempty
  unfold storePending
  split
  · exact advances_reject
  split
  · exact advances_reject
  · next hcontent =>
    have hcontent : result.selected.content = pending.content := by
      simp only [Bool.or_eq_true, not_or, bne_iff_ne, ne_eq, not_not] at hcontent
      exact hcontent.2
    cases result with
    | signed signature =>
      dsimp only
      split
      · exact advances_reject
      · next hresponse =>
        simp only [Bool.or_eq_true, not_or, bne_iff_ne, ne_eq, not_not] at hresponse
        exact advances_setSession hauthority fun _ => ⟨hsaved, pending, hpending,
          signature.toPreparedResponseSigning, hcontent, rfl, Or.inr ⟨hprepared, rfl, hresponse.1⟩⟩
    | prepared preparation operationId =>
      dsimp only
      split
      · exact advances_reject
      · next hresponse =>
        simp only [Bool.or_eq_true, not_or, bne_iff_ne, ne_eq, not_not] at hresponse
        exact advances_setSession hauthority fun _ => ⟨hsaved, pending, hpending,
          preparation, hcontent, rfl, Or.inl ⟨rfl, hsigned, hresponse.1⟩⟩

theorem advances_storeSigned (hauthority : call.expectedAuthority ≤ s.authorityGeneration)
    (hsound : StageSound call.input session (.signedEvidence signature actor epoch)) :
    Advances s (s.storeSigned n call session signature epoch checked wording) n call := by
  unfold storeSigned
  split
  · split
    · exact advances_reject
    · obtain ⟨hsaved, hpending, hsigned, hempty⟩ := hsound
      obtain ⟨-, hprepared, -⟩ := of_slots_empty hempty
      refine advances_setSession hauthority fun _ => ⟨hsaved, hpending, signature, hsigned, ?_⟩
      change (⟨some signature.toSavedResponseDraft, session.state.prepared, some signature⟩ : Slots) = _
      rw [hprepared]
  · exact advances_reject

end
variable {input : RuntimeInput}

theorem restored_of_signed (h : StageSound input session .signedDelivery) :
    Restored input session := by
  obtain ⟨hsaved, hpending, signature, hsigned, hslots⟩ := h
  constructor
  · intro draft hdraft
    rw [hsaved] at hdraft
    cases hdraft
  · intro pending hsome
    rw [hpending] at hsome
    cases hsome
  · intro found hfound
    obtain rfl := Option.some.inj (hsigned.symm.trans hfound)
    exact hslots
  · intro _ _ hnone
    rw [hsigned] at hnone
    cases hnone

theorem not_isAmbiguous {draft : SavedResponseDraft}
    (hsaved : input.restoredSavedDraft = some draft) (h : isAmbiguous input = false) :
    input.restoredPendingSign = none ∧ input.restoredSigning = none := by
  unfold isAmbiguous at h
  rw [hsaved, Option.isSome_some, Bool.true_and, Bool.or_eq_false_iff] at h
  exact ⟨Option.isSome_eq_false_iff.mp h.1 |> Option.isNone_iff_eq_none.mp,
    Option.isSome_eq_false_iff.mp h.2 |> Option.isNone_iff_eq_none.mp⟩

theorem advances_savedCommit {epoch : Nat} (halone : s.OnlyWaits n)
    (hsound : StageSound call.input session (.savedCommit epoch)) :
    Advances s ((s.setSession (session.modify fun _ => State.unhold n .restoreSavedDraft)).beginPending
      n call checks) n call := by
  obtain ⟨⟨draft, hsaved, hslots⟩, hambiguous⟩ := hsound
  obtain ⟨hpending, hsigned⟩ := not_isAmbiguous hsaved hambiguous
  have hfinish : (s.setSession (session.modify fun _ => State.unhold n .restoreSavedDraft)).beginPending
        n call checks
      = (s.setSession (session.modify fun _ => State.unhold n .restoreSavedDraft)).finish n call checks := by
    unfold beginPending beginSigned
    rw [hpending, hsigned]
  have hadvances : Advances (s.setSession (session.modify fun _ => State.unhold n .restoreSavedDraft))
      ((s.setSession (session.modify fun _ => State.unhold n .restoreSavedDraft)).finish n call checks)
      n call := by
    have halone' : (s.setSession
        (session.modify fun _ => State.unhold n .restoreSavedDraft)).OnlyWaits n := halone
    apply advances_finish halone'
    intro _ found hfound
    cases hfound
    refine ⟨?_, by simp [hpending], by simp [hsigned], by simp [hsaved]⟩
    intro carried hcarried
    obtain rfl := Option.some.inj (hsaved.symm.trans hcarried)
    exact hslots
  rw [hfinish]
  exact ⟨hadvances.stage, hadvances.resolved⟩

theorem advances_pendingCommit (halone : s.OnlyWaits n) (hw : s.Waiting call) (hstage : call.stage = .pendingCommit)
    (heq : call.expectedAuthority = s.authorityGeneration) :
    Advances s (s.beginSigned n call checks) n call := by
  obtain ⟨session, hcontroller⟩ := Option.isSome_iff_exists.mp hw.controller
  have hsound := hw.stage heq session hcontroller
  rw [hstage] at hsound
  obtain ⟨hsaved, pending, hpending, hrestored⟩ := hsound
  unfold beginSigned
  cases hsigned : call.input.restoredSigning with
  | none =>
    apply advances_finish halone
    intro _ found hfound
    obtain rfl := Option.some.inj (hcontroller.symm.trans hfound)
    refine ⟨by simp [hsaved], ?_, by simp [hsigned], by simp [hpending]⟩
    intro carried hcarried
    obtain rfl := Option.some.inj (hpending.symm.trans hcarried)
    exact hrestored
  | some signature =>
    have hrefused : admitsSigned session.state = false := by
      obtain ⟨selected, -, hsome, -⟩ := hrestored
      unfold admitsSigned
      simp [hsome]
    rw [hcontroller]
    dsimp only
    rw [hrefused, if_pos (by simp)]
    exact advances_reject

structure Resumes (s t : RuntimeHost) (n : Nat) : Prop where
  call : ∃ call, s.calls[n]? = some call ∧ call.stage ≠ .ended
    ∧ (s.OnlyWaits n → s.Waiting call → Advances s t n call)

theorem resumes_evidence {answer : EvidenceAnswer} {wording : Except Failure Wording}
    (h : s.evidence n answer wording = some t) : Resumes s t n := by
  obtain ⟨call, hcall, h⟩ := Option.bind_eq_some_iff.mp h
  dsimp only at h
  refine ⟨call, hcall, ?_⟩
  split at h
  case h_1 draft actor epoch session hstage hsession =>
    cases h
    exact ⟨by simp [hstage], fun _ hw => advances_storeSaved hw.authority (hw.sound hsession hstage)⟩
  case h_2 pending actor epoch session hstage hsession =>
    cases h
    have hcontroller := (sessionOf_eq_some hsession).2
    exact ⟨by simp [hstage], fun _ hw =>
      advances_callPort hcontroller hw.authority (hw.sound hsession hstage)⟩
  case h_3 pending selected result actor epoch session hstage hsession =>
    cases h
    exact ⟨by simp [hstage], fun _ hw => advances_storePending hw.authority (hw.sound hsession hstage)⟩
  case h_4 signature actor epoch session hstage hsession =>
    cases h
    exact ⟨by simp [hstage], fun _ hw => advances_storeSigned hw.authority (hw.sound hsession hstage)⟩
  case h_5 hstage _ | h_6 hstage _ | h_7 hstage _ | h_8 hstage _ =>
    cases h
    exact ⟨by simp [hstage], fun _ _ => advances_reject⟩
  case h_9 => cases h

theorem resumes_restored {answer : Except Failure RestoredPendingResponseSigning}
    (h : s.restored n answer = some t) : Resumes s t n := by
  obtain ⟨call, hcall, h⟩ := Option.bind_eq_some_iff.mp h
  refine ⟨call, hcall, ?_⟩
  split at h
  case h_1 pending wording epoch hstage =>
    refine ⟨by simp [hstage], fun _ hw => ?_⟩
    cases answer with
    | error failure => exact Option.some.inj h ▸ advances_reject
    | ok result =>
      cases hsession : s.sessionOf call with
      | none =>
        rw [hsession] at h
        exact Option.some.inj h ▸ advances_reject
      | some session =>
        rw [hsession] at h
        dsimp only at h
        split at h
        · exact Option.some.inj h ▸ advances_reject
        · have hcontroller := (sessionOf_eq_some hsession).2
          have hsound := hw.sound hsession hstage
          exact Option.some.inj h ▸ advances_setStage hcontroller hw.authority fun _ => hsound
  case h_2 => cases h

theorem resumes_committed (h : s.committed n checks = some t) : Resumes s t n := by
  obtain ⟨call, hcall, h⟩ := Option.bind_eq_some_iff.mp h
  refine ⟨call, hcall, ?_⟩
  split at h
  case h_1 epoch hstage =>
    refine ⟨by simp [hstage], fun halone hw => ?_⟩
    cases hsession : s.sessionOf call with
    | none =>
      rw [hsession] at h
      exact Option.some.inj h ▸ advances_reject
    | some session =>
      rw [hsession] at h
      dsimp only at h
      split at h
      · exact Option.some.inj h ▸ advances_rejectSaved
      · exact Option.some.inj h ▸ advances_savedCommit halone (hw.sound hsession hstage)
  case h_2 hstage =>
    refine ⟨by simp [hstage], fun halone hw => ?_⟩
    split at h
    · next hadmits =>
      exact Option.some.inj h ▸ advances_pendingCommit halone hw hstage (authority_of_admits hadmits)
    · exact Option.some.inj h ▸ advances_reject
  case h_3 hstage =>
    refine ⟨by simp [hstage], fun halone hw => ?_⟩
    split at h
    · next hadmits =>
      obtain ⟨session, hcontroller⟩ := Option.isSome_iff_exists.mp hw.controller
      have hsound := hw.stage (authority_of_admits hadmits) session hcontroller
      rw [hstage] at hsound
      exact Option.some.inj h ▸ advances_setStage hcontroller hw.authority fun _ => hsound
    · exact Option.some.inj h ▸ advances_reject
  case h_4 => cases h

theorem resumes_delivered {delivers : Bool} (h : s.delivered n delivers checks = some t) :
    Resumes s t n := by
  obtain ⟨call, hcall, h⟩ := Option.bind_eq_some_iff.mp h
  refine ⟨call, hcall, ?_⟩
  split at h
  case h_1 hstage =>
    refine ⟨by simp [hstage], fun halone hw => ?_⟩
    split at h
    · refine Option.some.inj h ▸ advances_finish halone fun heq session hcontroller => ?_
      have hsound := hw.stage heq session hcontroller
      rw [hstage] at hsound
      exact restored_of_signed hsound
    · exact Option.some.inj h ▸ advances_reject
  case h_2 => cases h

/-! ## Steps -/

theorem Resumes.step (h : Resumes s t n) (hs : s.Sound) : t.Sound ∧ (s.Complete → t.Complete) := by
  obtain ⟨call, hcall, hwaits, hadvances⟩ := h.call
  have halone := hs.alone hcall hwaits
  have hadvances := hadvances halone (hs.waiting n call hcall hwaits)
  exact ⟨hadvances.sound halone, hadvances.complete⟩

theorem Sound.of_same (h : s.Sound) (hcalls : t.calls = s.calls) (hcontroller : t.controller = s.controller)
    (hauthority : t.authorityGeneration = s.authorityGeneration) : t.Sound := by
  constructor
  · intro n call hcall hwaits
    have hw := h.waiting n call (hcalls ▸ hcall) hwaits
    exact ⟨hcontroller ▸ hw.controller, hauthority ▸ hw.authority, hauthority ▸ hcontroller ▸ hw.stage⟩
  · intro m n other call hother hcall
    exact h.unique m n other call (hcalls ▸ hother) (hcalls ▸ hcall)

theorem Sound.of_stopped (h : s.Sound) (hcalls : t.calls = s.calls)
    (hcontroller : s.controller.isSome = true → t.controller.isSome = true)
    (hauthority : t.authorityGeneration = s.authorityGeneration + 1) : t.Sound := by
  constructor
  · intro n call hcall hwaits
    have hw := h.waiting n call (hcalls ▸ hcall) hwaits
    have hle := hw.authority
    refine ⟨hcontroller hw.controller, by omega, fun heq => ?_⟩
    omega
  · intro m n other call hother hcall
    exact h.unique m n other call (hcalls ▸ hother) (hcalls ▸ hcall)

theorem Sound.of_ended (h : s.Sound) (hstage : call.stage = .ended)
    (hcalls : t.calls = s.calls ++ [call]) (hcontroller : t.controller = s.controller)
    (hauthority : t.authorityGeneration = s.authorityGeneration) : t.Sound := by
  have hold : ∀ (m : Nat) (other : LeaseCall), t.calls[m]? = some other → other.stage ≠ .ended →
      s.calls[m]? = some other := by
    intro m other hother hwaits
    rw [hcalls] at hother
    rcases of_getElem?_concat hother with hother | ⟨-, rfl⟩
    · exact hother
    · exact absurd hstage hwaits
  constructor
  · intro n other hother hwaits
    have hw := h.waiting n other (hold n other hother hwaits) hwaits
    exact ⟨hcontroller ▸ hw.controller, hauthority ▸ hw.authority, hauthority ▸ hcontroller ▸ hw.stage⟩
  · intro m n other found hother hfound hwaits hwaitsFound
    exact h.unique m n other found (hold m other hother hwaits) (hold n found hfound hwaitsFound)
      hwaits hwaitsFound

theorem set_new (calls : List LeaseCall) (call other : LeaseCall) :
    (calls ++ [call]).set calls.length other = calls ++ [other] := by
  rw [List.set_append_right _ _ (Nat.le_refl _), Nat.sub_self, List.set_cons_zero]

/-- The host as the body of a new call finds it: with the call, and its session as it was. -/
structure Begun (s t : RuntimeHost) (call : LeaseCall) : Prop where
  calls : t.calls = s.calls ++ [call]
  stage : call.stage = .ended
  controller : t.controller = s.controller
  authority : t.authorityGeneration = s.authorityGeneration
  log : t.log = s.log

theorem Begun.ended {u : RuntimeHost} (h : Begun s t call) (hs : s.Sound)
    (hcalls : u.calls = t.calls.set s.calls.length { call with stage := .ended })
    (hcontroller : u.controller = t.controller)
    (hauthority : u.authorityGeneration = t.authorityGeneration) : u.Sound := by
  have hnew : u.calls = s.calls ++ [{ call with stage := .ended }] := by
    rw [hcalls, h.calls, set_new]
  exact hs.of_ended rfl hnew (hcontroller.trans h.controller) (hauthority.trans h.authority)

theorem Begun.reject (h : Begun s t call) (hs : s.Sound) :
    (t.reject s.calls.length call).Sound
      ∧ (t.reject s.calls.length call).log = .rejected s.calls.length :: s.log :=
  ⟨h.ended hs rfl rfl rfl, congrArg (List.cons _) h.log⟩

theorem complete_of_rejected (hlog : t.log = .rejected n :: s.log) (hs : s.Complete) : t.Complete := by
  intro m input session restoring hmem
  rw [hlog] at hmem
  rcases List.mem_cons.mp hmem with heq | hmem
  · cases heq
  · exact hs m input session restoring hmem

theorem Sound.none_waits (hs : s.Sound) (hcontroller : s.controller = none) (hcall : s.calls[n]? = some call) :
    call.stage = .ended := by
  by_contra hwaits
  have hsome := (hs.waiting n call hcall hwaits).controller
  rw [hcontroller] at hsome
  cases hsome

theorem Begun.restore (h : Begun s t call) (hs : s.Sound)
    (hcontroller : s.controller = none) (hinput : t.input = some input)
    (hambiguous : isAmbiguous call.input = false) (hauthority : call.expectedAuthority = s.authorityGeneration)
    (response : Option FormResponse) :
    let u := (t.start policy response).beginSaved s.calls.length call checks
    u.Sound ∧ (s.Complete → u.Complete) := by
  have hstart : (t.start policy response).calls = s.calls ++ [call]
      ∧ (t.start policy response).authorityGeneration = s.authorityGeneration
      ∧ (t.start policy response).log = s.log
      ∧ ∀ session, (t.start policy response).controller = some session → session.state.slots = .empty := by
    unfold start
    rw [hinput]
    refine ⟨h.calls, h.authority, h.log, fun session hsession => ?_⟩
    cases hsession
    rfl
  obtain ⟨hcalls, hgeneration, hlog, hempty⟩ := hstart
  have hle : call.expectedAuthority ≤ (t.start policy response).authorityGeneration := by
    rw [hgeneration, hauthority]
  have halone : (t.start policy response).OnlyWaits s.calls.length := by
    intro m other hother hwaits
    rw [hcalls] at hother
    rcases of_getElem?_concat hother with hother | ⟨hm, -⟩
    · exact absurd (hs.none_waits hcontroller hother) hwaits
    · exact hm
  have hadvances : Advances (t.start policy response)
      ((t.start policy response).beginSaved s.calls.length call checks) s.calls.length call :=
    advances_beginSaved halone hle hambiguous hempty
  refine ⟨hadvances.sound halone, fun hcomplete => hadvances.complete ?_⟩
  intro m found session restoring hmem
  rw [hlog] at hmem
  exact hcomplete m found session restoring hmem

theorem Begun.isRestoring (h : Begun s t call) :
    (t.setStage s.calls.length call .ended).isRestoring = s.isRestoring := by
  have hcalls : (t.setStage s.calls.length call .ended).calls
      = s.calls ++ [{ call with stage := .ended }] := by
    change t.calls.set _ _ = _
    rw [h.calls, set_new]
  have hauthority : (t.setStage s.calls.length call .ended).authorityGeneration
      = s.authorityGeneration := h.authority
  unfold RuntimeHost.isRestoring
  rw [hcalls, hauthority, List.any_append]
  simp [LeaseStage.restores]

def newCall (s : RuntimeHost) (next : RuntimeInput) : LeaseCall :=
  ⟨next, s.rendererAdmission + 1, s.authorityGeneration, s.visitEpoch, .ended⟩

def withCall (s : RuntimeHost) (next : RuntimeInput) : RuntimeHost :=
  { s with rendererAdmission := s.rendererAdmission + 1, calls := s.calls ++ [s.newCall next] }

def installed (s : RuntimeHost) (next : RuntimeInput) (generatedKey : String) : RuntimeHost :=
  ((s.withCall next).chooseResponseId next generatedKey).install next

section

variable {next : RuntimeInput} {generatedKey : String} {fault : Option EngineFault}

theorem configureRuntime_eq : s.configureRuntime policy next generatedKey fault checks =
    if s.changesRestoration next then
      { s.withCall next with ownedDraftRestoration := none }.reject s.calls.length (s.newCall next)
    else if s.refusesInput policy next then (s.withCall next).reject s.calls.length (s.newCall next)
    else if s.input.isSome && fault == some .setLocale then
      ((s.withCall next).chooseResponseId next generatedKey).reject s.calls.length (s.newCall next)
    else if fault == some .title then
      (s.installed next generatedKey).reject s.calls.length (s.newCall next)
    else if s.controller.isSome then
      (s.installed next generatedKey).finish s.calls.length (s.newCall next) checks
    else if isAmbiguous next then
      (s.installed next generatedKey).reject s.calls.length (s.newCall next)
    else
      ((s.installed next generatedKey).start policy next.restoredResponse).beginSaved s.calls.length
        (s.newCall next) checks :=
  rfl

theorem begun_installed : Begun s (s.installed next generatedKey) (s.newCall next) :=
  ⟨rfl, rfl, rfl, rfl, rfl⟩

theorem configureRuntime_none (hs : s.Sound) (hcontroller : s.controller = none) :
    let t := s.configureRuntime policy next generatedKey fault checks
    t.Sound ∧ (s.Complete → t.Complete) := by
  have hrejected : ∀ t : RuntimeHost, Begun s t (s.newCall next) →
      (t.reject s.calls.length (s.newCall next)).Sound
        ∧ (s.Complete → (t.reject s.calls.length (s.newCall next)).Complete) :=
    fun t hbegun => ⟨(hbegun.reject hs).1, complete_of_rejected (hbegun.reject hs).2⟩
  rw [configureRuntime_eq]
  by_cases hchanges : s.changesRestoration next = true
  · rw [if_pos hchanges]
    exact hrejected _ ⟨rfl, rfl, rfl, rfl, rfl⟩
  rw [if_neg hchanges]
  by_cases hrefuses : s.refusesInput policy next = true
  · rw [if_pos hrefuses]
    exact hrejected _ ⟨rfl, rfl, rfl, rfl, rfl⟩
  rw [if_neg hrefuses]
  by_cases hlocale : (s.input.isSome && fault == some .setLocale) = true
  · rw [if_pos hlocale]
    exact hrejected _ ⟨rfl, rfl, rfl, rfl, rfl⟩
  rw [if_neg hlocale]
  by_cases htitle : (fault == some .title) = true
  · rw [if_pos htitle]
    exact hrejected _ begun_installed
  rw [if_neg htitle, hcontroller, if_neg (by decide)]
  by_cases hambiguous : isAmbiguous next = true
  · rw [if_pos hambiguous]
    exact hrejected _ begun_installed
  rw [if_neg hambiguous]
  exact begun_installed.restore hs hcontroller rfl (Bool.not_eq_true _ ▸ hambiguous) rfl _

theorem configureRuntime_some (hs : s.Sound) (hcontroller : s.controller = some session) :
    let t := s.configureRuntime policy next generatedKey fault checks
    t.Sound ∧ t.log = (if s.accepts policy next fault checks then
        .resolved s.calls.length next session s.isRestoring else .rejected s.calls.length) :: s.log := by
  have hrejected : ∀ t : RuntimeHost, Begun s t (s.newCall next) →
      s.accepts policy next fault checks = false →
      (t.reject s.calls.length (s.newCall next)).Sound
        ∧ (t.reject s.calls.length (s.newCall next)).log = (if s.accepts policy next fault checks then
            .resolved s.calls.length next session s.isRestoring else .rejected s.calls.length) :: s.log := by
    intro t hbegun haccepts
    rw [haccepts]
    exact hbegun.reject hs
  rw [configureRuntime_eq]
  by_cases hchanges : s.changesRestoration next = true
  · rw [if_pos hchanges]
    exact hrejected _ ⟨rfl, rfl, rfl, rfl, rfl⟩ (by simp [accepts, hchanges])
  rw [if_neg hchanges]
  by_cases hrefuses : s.refusesInput policy next = true
  · rw [if_pos hrefuses]
    exact hrejected _ ⟨rfl, rfl, rfl, rfl, rfl⟩ (by simp [accepts, hrefuses])
  rw [if_neg hrefuses]
  by_cases hlocale : (s.input.isSome && fault == some .setLocale) = true
  · rw [if_pos hlocale]
    exact hrejected _ ⟨rfl, rfl, rfl, rfl, rfl⟩ (by rw [accepts, hlocale]; simp)
  rw [if_neg hlocale]
  by_cases htitle : (fault == some .title) = true
  · rw [if_pos htitle]
    exact hrejected _ begun_installed (by rw [accepts, bne, htitle]; simp)
  rw [if_neg htitle, hcontroller, if_pos (show (some session).isSome = true from rfl)]
  have haccepts : s.accepts policy next fault checks = checks := by
    rw [Bool.not_eq_true] at hchanges hrefuses hlocale htitle
    rw [accepts, bne, hchanges, hrefuses, hlocale, htitle]
    rfl
  have hadmits : (s.installed next generatedKey).admits (s.newCall next) = true := by
    simp only [refusesInput, Bool.or_eq_true, not_or, Bool.not_eq_true] at hrefuses
    change (s.rendererAdmission + 1 == s.rendererAdmission + 1 && !s.disposed && !s.cleared
      && s.authorityGeneration == s.authorityGeneration && s.visitEpoch == s.visitEpoch) = true
    rw [hrefuses.1.1.1.1.1, hrefuses.1.1.1.1.2]
    simp
  have hfinish : (s.installed next generatedKey).finish s.calls.length (s.newCall next) checks =
      if checks then
        { (s.installed next generatedKey).setStage s.calls.length (s.newCall next) .ended with
          log := .resolved s.calls.length next session s.isRestoring :: s.log }
      else (s.installed next generatedKey).reject s.calls.length (s.newCall next) := by
    unfold finish
    rw [begun_installed.controller, hcontroller, hadmits, Bool.true_and]
    dsimp only
    rw [begun_installed.isRestoring]
    rfl
  rw [hfinish]
  cases checks with
  | false => exact hrejected _ begun_installed haccepts
  | true =>
    rw [haccepts]
    exact ⟨begun_installed.ended hs rfl rfl rfl, rfl⟩

theorem configureRuntime_some_complete_iff (hs : s.Sound) (hcontroller : s.controller = some session)
    (hcomplete : s.Complete) :
    (s.configureRuntime policy next generatedKey fault checks).Complete
      ↔ (s.accepts policy next fault checks = true →
        Restored next session ∧ s.isRestoring = false) := by
  have hlog : (s.configureRuntime policy next generatedKey fault checks).log
      = (if s.accepts policy next fault checks then
          .resolved s.calls.length next session s.isRestoring else .rejected s.calls.length) :: s.log :=
    (configureRuntime_some hs hcontroller).2
  by_cases haccepts : s.accepts policy next fault checks = true
  · rw [if_pos haccepts] at hlog
    constructor
    · intro h _
      exact h s.calls.length next session s.isRestoring (hlog ▸ List.mem_cons_self)
    · intro h m input found restoring hmem
      rw [hlog] at hmem
      rcases List.mem_cons.mp hmem with heq | hmem
      · cases heq
        exact h haccepts
      · exact hcomplete m input found restoring hmem
  · rw [if_neg haccepts] at hlog
    exact iff_of_true (complete_of_rejected hlog hcomplete) fun h => absurd h haccepts

end

@[simp] theorem start_calls (response : Option FormResponse) : (s.start policy response).calls = s.calls := by
  unfold start
  cases s.input <;> rfl

@[simp] theorem start_authorityGeneration (response : Option FormResponse) :
    (s.start policy response).authorityGeneration = s.authorityGeneration := by
  unfold start
  cases s.input <;> rfl

@[simp] theorem start_log (response : Option FormResponse) : (s.start policy response).log = s.log := by
  unfold start
  cases s.input <;> rfl

theorem start_controller (response : Option FormResponse) (h : s.controller.isSome = true) :
    (s.start policy response).controller.isSome = true := by
  unfold start
  cases s.input with
  | none => exact h
  | some input => rfl

theorem stop_controller (h : s.controller.isSome = true) : s.stop.controller.isSome = true := by
  change (s.controller.map _).isSome = true
  rw [Option.isSome_map]
  exact h

structure Stops (s t : RuntimeHost) : Prop where
  calls : t.calls = s.calls
  controller : s.controller.isSome = true → t.controller.isSome = true
  authority : t.authorityGeneration = s.authorityGeneration + 1
  log : t.log = s.log

theorem stops_edit : Stops s (s.edit policy) where
  calls := start_calls _
  controller h := start_controller _ (stop_controller h)
  authority := start_authorityGeneration _
  log := start_log _

theorem stops_stopClearing : Stops s s.stopClearing where
  calls := rfl
  controller h := stop_controller h
  authority := rfl
  log := rfl

theorem selectLocale_cases (locale : String) :
    s.selectLocale policy locale = s ∨ Stops s (s.selectLocale policy locale) := by
  unfold selectLocale
  split
  · exact Or.inl rfl
  · exact Or.inr ⟨start_calls _, fun h => start_controller _ (stop_controller h),
      start_authorityGeneration _, start_log _⟩

theorem Stops.sound (h : Stops s t) (hs : s.Sound) : t.Sound :=
  hs.of_stopped h.calls h.controller h.authority

theorem complete_of_log (h : t.log = s.log) (hs : s.Complete) : t.Complete := by
  intro n input session restoring hmem
  exact hs n input session restoring (h ▸ hmem)

theorem step_complete_iff {event : LeaseEvent} (hs : s.Sound) (h : s.step policy event = some t) :
    t.Sound ∧ (s.Complete → (t.Complete ↔ TakesSession policy s event)) := by
  have hsame : t.Sound → t.log = s.log → TakesSession policy s event →
      t.Sound ∧ (s.Complete → (t.Complete ↔ TakesSession policy s event)) :=
    fun hsound hlog htakes => ⟨hsound, fun hcomplete => iff_of_true (complete_of_log hlog hcomplete) htakes⟩
  have hresumes : ∀ n, Resumes s t n → TakesSession policy s event →
      t.Sound ∧ (s.Complete → (t.Complete ↔ TakesSession policy s event)) :=
    fun n hresumes htakes =>
      ⟨(hresumes.step hs).1, fun hcomplete => iff_of_true ((hresumes.step hs).2 hcomplete) htakes⟩
  cases event with
  | configureRuntime next generatedKey fault checks =>
    cases h
    cases hcontroller : s.controller with
    | none =>
      obtain ⟨hsound, hkept⟩ := configureRuntime_none hs hcontroller
      refine ⟨hsound, fun hcomplete => iff_of_true (hkept hcomplete) ?_⟩
      intro session hsome
      rw [hcontroller] at hsome
      cases hsome
    | some session =>
      refine ⟨(configureRuntime_some hs hcontroller).1, fun hcomplete => ?_⟩
      rw [configureRuntime_some_complete_iff hs hcontroller hcomplete]
      constructor
      · intro hrestored found hfound
        obtain rfl := Option.some.inj (hcontroller.symm.trans hfound)
        exact hrestored
      · exact fun htakes => htakes session hcontroller
  | evidence n answer wording => exact hresumes n (resumes_evidence h) trivial
  | restored n answer => exact hresumes n (resumes_restored h) trivial
  | committed n checks => exact hresumes n (resumes_committed h) trivial
  | delivered n delivers checks => exact hresumes n (resumes_delivered h) trivial
  | edit =>
    cases h
    exact hsame (stops_edit.sound hs) stops_edit.log trivial
  | selectLocale locale =>
    cases h
    have hcases : s.selectLocale policy locale = s ∨ Stops s (s.selectLocale policy locale) :=
      selectLocale_cases locale
    rcases hcases with heq | hstops
    · rw [heq]
      exact ⟨hs, fun hcomplete => iff_of_true hcomplete trivial⟩
    · exact hsame (hstops.sound hs) hstops.log trivial
  | visit =>
    cases h
    exact hsame (hs.of_same rfl rfl rfl) rfl trivial
  | invalidate =>
    cases h
    exact hsame (stops_stopClearing.sound hs) rfl trivial
  | clearDraftAccess =>
    cases h
    exact hsame (hs.of_stopped rfl stop_controller rfl) rfl trivial
  | dispose =>
    cases h
    exact hsame (hs.of_stopped rfl stop_controller rfl) rfl trivial
  | restoreOwnedDraftAccess restoration =>
    dsimp only [step] at h
    split at h
    · cases h
      exact hsame (hs.of_same rfl rfl rfl) rfl trivial
    · cases h
  | configureSubmittedRuntime responseId locale application applicationLookup =>
    dsimp only [step] at h
    split at h
    · cases h
      exact hsame (hs.of_same rfl rfl rfl) rfl trivial
    · cases h

theorem sound_opened : (opened policy).Sound where
  waiting _ _ hcall := by cases hcall
  unique _ _ _ _ hcall := by cases hcall

theorem complete_opened : (opened policy).Complete :=
  fun _ _ _ _ hmem => absurd hmem List.not_mem_nil

/-- In every run every call that resolves has exactly what it carries restored, exactly where each
call that is accepted beside a controller carries what that controller holds and will hold. -/
theorem restorations_complete_iff {events : List LeaseEvent} {states : List RuntimeHost}
    (h : statesOf (step policy) (opened policy) events = some states) :
    (∀ reached ∈ states, reached.Complete)
      ↔ EveryStep (step policy) (TakesSession policy) (opened policy) events :=
  statesOf_good_iff (fun _ _ _ hs hstep => (step_complete_iff hs hstep).1)
    (fun _ _ _ hs hcomplete hstep => (step_complete_iff hs hstep).2 hcomplete)
    sound_opened complete_opened h

def samplePolicy : RuntimePolicy where
  definition := sampleConfig.context.definition
  controller := sampleConfig
  formId := "f1"
  formVersionId := "fv1"
  responseId := none
  initialLocale := "en"
  native := true

def sampleInput : RuntimeInput where
  definition := sampleConfig.context.definition
  draftKey := sampleConfig.context.draftKey
  activeLocale := "en"
  restoredResponse := some sampleResponse
  restoredApplication := none
  restoredApplicationLookup := none
  restoredSavedDraft := some (sampleDraft 1)
  restoredPendingSign := none
  restoredSigning := none

/-- A call that restores the saved draft, up to the answer of its evidence check. -/
def checkedCall (accepted : Bool) : List LeaseEvent :=
  [.configureRuntime sampleInput sampleCallbacks.generatedKey none true,
    .evidence 0 ⟨.ok accepted, .ok sampleHash⟩ sampleCallbacks.signingContext]

/-- The call resolves, and so does a later one that carries the same draft. -/
def renewedCall : List LeaseEvent :=
  checkedCall true ++ [.committed 0 true,
    .configureRuntime sampleInput sampleCallbacks.generatedKey none true]

def findsDraft (draft : SavedResponseDraft) (s : RuntimeHost) : LeaseEvent → Bool
  | .configureRuntime next _ _ _ =>
    next.restoredSavedDraft == some draft && !isAmbiguous next && !s.isRestoring
      && s.controller.all fun session => session.state.slots == ⟨some draft, none, none⟩
  | _ => true

theorem takesSession_of_findsDraft {draft : SavedResponseDraft} {event : LeaseEvent}
    (h : findsDraft draft s event = true) : TakesSession policy s event := by
  cases event with
  | configureRuntime next generatedKey fault checks =>
    intro session hsession _
    simp only [findsDraft, Bool.and_eq_true, beq_iff_eq, Bool.not_eq_true', hsession,
      Option.all_some] at h
    obtain ⟨⟨⟨hsaved, hambiguous⟩, hrestoring⟩, hslots⟩ := h
    obtain ⟨hpending, hsigned⟩ := not_isAmbiguous hsaved hambiguous
    refine ⟨⟨fun carried hcarried => ?_, by simp [hpending], by simp [hsigned], by simp [hsaved]⟩,
      hrestoring⟩
    obtain rfl := Option.some.inj (hsaved.symm.trans hcarried)
    exact hslots
  | _ => trivial

theorem restorations_complete_checkedCall :
    ∃ states, statesOf (step samplePolicy) (opened samplePolicy) renewedCall = some states
      ∧ (states.getLast?.map fun last => last.log.countP (· matches .resolved ..)) = some 2
      ∧ ∀ reached ∈ states, reached.Complete := by
  have hrun : ((statesOf (step samplePolicy) (opened samplePolicy) renewedCall).bind fun states =>
      states.getLast?.map fun last => last.log.countP (· matches .resolved ..)) = some 2 := by
    decide +kernel
  have hfinds : EveryStep (step samplePolicy) (fun s event => findsDraft (sampleDraft 1) s event = true)
      (opened samplePolicy) renewedCall := by
    decide +kernel
  obtain ⟨states, hstates, hlast⟩ := Option.bind_eq_some_iff.mp hrun
  refine ⟨states, hstates, hlast, (restorations_complete_iff hstates).mpr ?_⟩
  exact everyStep_of_invariant (J := fun _ => True) (fun _ _ _ _ _ _ => trivial)
    (fun _ _ _ hstep => takesSession_of_findsDraft hstep) trivial hfinds

/-- A resolved call that carries a saved draft, with a controller that has none. -/
def skips : LeaseEntry → Bool
  | .resolved _ input session _ => input.restoredSavedDraft.isSome && session.state.saved.isNone
  | .rejected _ => false

/-- The first call rejects when the evidence of its draft is refused; the second finds the controller
the first has left, and resolves without a restoration. -/
theorem retried_call_skips : ∃ states reached,
    statesOf (step samplePolicy) (opened samplePolicy)
        (checkedCall false ++ [.configureRuntime sampleInput sampleCallbacks.generatedKey none true])
      = some states ∧ reached ∈ states ∧ ¬reached.Complete := by
  have hskips : (statesOf (step samplePolicy) (opened samplePolicy)
      (checkedCall false ++ [.configureRuntime sampleInput sampleCallbacks.generatedKey none true])).any
        (fun states => states.any fun reached => reached.log.any skips) = true := by
    decide +kernel
  obtain ⟨states, hstates, hany⟩ := (Option.any_eq_true _ _).mp hskips
  obtain ⟨reached, hreached, hany⟩ := List.any_eq_true.mp hany
  obtain ⟨entry, hentry, hskip⟩ := List.any_eq_true.mp hany
  refine ⟨states, reached, hstates, hreached, fun hcomplete => ?_⟩
  cases entry with
  | rejected n => cases hskip
  | resolved n input session restoring =>
    obtain ⟨hcarries, hnone⟩ := Bool.and_eq_true_iff.mp hskip
    obtain ⟨draft, hdraft⟩ := Option.isSome_iff_exists.mp hcarries
    have hslots := (hcomplete n input session restoring hentry).1.saved draft hdraft
    have hsaved : session.state.saved = some draft := congrArg Slots.saved hslots
    rw [hsaved] at hnone
    cases hnone

end FormspecWeb.Host.RuntimeHost
