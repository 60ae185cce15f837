import FormspecWeb.Controller.Safety.Perform

/-!
# Admission, the early start, and release

The early start is the one operation that stores a receipt before checking it.
While that checkpoint is unchecked the call is followed under the schedule that
does not look for one (`Schedule.loose`), and what it knows is regained once the
check has passed. `perform` is followed from its delivery to its release.
-/

namespace FormspecWeb.Controller

open Ports Engine Async

variable {config : ResponseActionControllerConfig} {F : Schedule} {t : Nat}
  {role : ResponseActionRole} {id : String} {p : Nat} {operationId : String}
  {s s' : State config} {α β : Type}

/-! ## The checkpoint of an early start -/

def Schedule.loose (F : Schedule) : Schedule := { F with checkpointsChecked := false }

theorem Wellformed.loose (h : Wellformed F s) : Wellformed F.loose s := { h with }

theorem Wellformed.of_loose (h : Wellformed F.loose s) : Wellformed F s := { h with }

theorem Rely.loose (h : Rely F t s s') : Rely F.loose t s s' :=
  { h with window := fun hF => by cases hF }

theorem Running.loose (h : Wellformed F s) : Running F.loose s := ⟨h.loose, rfl⟩

/-- What the call of an early start knows while its checkpoint is unchecked. -/
structure Window (F : Schedule) (t : Nat) (role : ResponseActionRole) (id : String) (p : Nat)
    (operationId : String) (response : FormResponse) (result : SavedResponseDraft)
    (s : State config) : Prop extends Vacant F.loose t role id p operationId s where
  looked : F.checkpointsChecked = true → uncheckedBy s.log = some t ∧ s.saved = some result
  against : Against t s.log result (some response)

variable {response : FormResponse}

variable {result : SavedResponseDraft}

theorem Window.store (h : Ready F t .startApplication id p operationId s)
    (hagainst : Against t s.log result (some response))
    (hversion : F.restoresAlone = true → exceedsShown s result.draft.version = true) :
    Move F t s (s.storeUnchecked t result)
      ∧ Window F t .startApplication id p operationId response result (s.storeUnchecked t result) := by
  have hmove : Move F t s (s.storeUnchecked t result) :=
    .storeUnchecked result ⟨id, h.held, h.opened⟩ h.clear h.unfailed fun hF version hmem => by
      have hexceeds := hversion hF
      simp only [exceedsShown, Bool.and_eq_true, List.all_eq_true, decide_eq_true_eq] at hexceeds
      exact Int.le_of_lt (hexceeds.1 version hmem)
  refine ⟨hmove, ?_⟩
  exact
    { wellformed := (hmove.wellformed h.wellformed).loose
      clear := rfl
      held := h.held
      promised := h.promised
      opened := h.opened
      vacant := h.vacant
      delivery := h.delivery
      looked := fun _ => ⟨rfl, rfl⟩
      against := hagainst.mono fun _ => List.mem_cons_of_mem _ }

theorem Window.rely (h : Window F t role id p operationId response result s) (hrely : Rely F t s s')
    (hw : Wellformed F s') : Window F t role id p operationId response result s' where
  toVacant := h.toVacant.rely hrely.loose (Running.loose hw)
  looked hF := by
    obtain ⟨hlog, hsaved⟩ := h.looked hF
    obtain ⟨hlog', hsame⟩ := hrely.window hF hlog
    exact ⟨hlog', hsame.trans hsaved⟩
  against := h.against.mono hrely.history.kept

theorem Window.check_safe {f : Unit → Script config β} {Q : Except Failure β → State config → Prop}
    (h : Window F t role id p operationId response result s)
    (hok : ∀ s', Vacant F t role id p operationId s' → Safe (keeping F t) (f ()) Q s')
    (herror : ∀ s' e, Owns F t role id p s' → Q (.error e) s') :
    Safe (keeping F t) (checkEvidence config t .checkpoint result (some response) >>= f) Q s := by
  refine Safe.of_andThen (Safe.get (Safe.awaiting fun s' hrely hw answer hadmits => ?_))
  have h' := h.rely hrely hw
  have hresumes : F.resumes s' (.checkEvidence ⟨.checkpoint, result, some response, s.actor⟩) answer
      = true := hadmits.1
  split
  · rename_i hpassed
    have hmark : Marks F t s' (.passed t ⟨result, some response, s.actor, answer, hpassed⟩) :=
      .passed _ h'.against fun hF _ => (h'.looked hF).2
    have hclear : F.clear (s'.note (.passed t ⟨result, some response, s.actor, answer, hpassed⟩))
        = true := by
      cases hF : F.checkpointsChecked with
      | false => simp [Schedule.clear, hF]
      | true => simp [Schedule.clear, hF, State.note, uncheckedBy, (h'.looked hF).1]
    refine ⟨.mark _ hmark, hok _ ?_⟩
    exact
      { wellformed := (Move.mark _ hmark).wellformed hw
        clear := hclear
        held := h'.held
        promised := h'.promised
        opened := h'.opened
        vacant := h'.vacant
        delivery := h'.delivery }
  · rename_i failure hfailed
    have hunlooked : F.checkpointsChecked = false := by
      cases hF : F.checkpointsChecked with
      | false => rfl
      | true => simp [Schedule.resumes, hF, EvidenceCheck.passes, hfailed] at hresumes
    have hmark : Marks F t s' (.failedEvidence t) :=
      .failedEvidence fun hF => by rw [hunlooked] at hF; cases hF
    refine ⟨.mark _ hmark, herror _ _ ?_⟩
    exact
      { wellformed := (Move.mark _ hmark).wellformed hw
        clear := by simp [Schedule.clear, hunlooked]
        held := h'.held
        promised := h'.promised }

theorem own_move (actor : String) : Move F t s (s.own actor) :=
  .quiet ⟨rfl, rfl, rfl, rfl, rfl, rfl, fun _ => rfl, rfl, Nat.le_refl _⟩ rfl rfl rfl rfl

variable {call : Call}

section

variable (hrole : call.role = .startApplication)
  (hgeneration : call.generation = 0)
  (hcurrent : s.invalidated = false)
  (h : Ready F t call.role call.deliveryId p operationId s)
include hrole hgeneration hcurrent h

theorem checkpoint_safe :
    Safe (keeping F t) (checkpoint config t call operationId)
      (Stays F t call.role call.deliveryId p (Vacant F t call.role call.deliveryId p operationId)) s := by
  refine Safe.check (fun admission _ => ?_) fun _ _ => h.toOwns
  refine Safe.check (fun tuple _ => ?_) fun _ _ => h.toOwns
  refine Safe.check (fun _ _ => ?_) fun _ _ => h.toOwns
  refine Safe.check (fun _ _ => ?_) fun _ _ => h.toOwns
  have hcall : Marks F t s (.called t (.saveDraft call.response operationId admission)) :=
    .called _ hcurrent (h.vacant hcurrent) (.saveDraft _ _ _)
      (h.toVacant.keyed hcurrent fun _ heq => (Option.some.inj heq).symm)
  refine note_safe hcall (port_safe (awaiting_last_safe (.saveDraft .checkpoint) rfl
    fun s₁ hrely hrunning answer hresumes _ => ?_))
  have h₁ := (h.called hcall).rely hrely hrunning
  rcases answer with e | result
  · exact h₁.toOwns
  have hadmits : (F.checkpointsChecked = true → s₁.invalidated = false)
      ∧ (F.restoresAlone = true → exceedsShown s₁ result.draft.version = true) := by
    simp only [Schedule.resumes, Bool.and_eq_true, Bool.or_eq_true, Bool.not_eq_true'] at hresumes
    grind
  rw [hrole] at h₁ ⊢
  obtain ⟨hmove, hwindow⟩ := Window.store h₁
    (.saved _ _ _ (hrely.history.kept _ List.mem_cons_self)) hadmits.2
  refine Safe.modify hmove (current_safe (fun _ => ?_) fun hobsolete _ => ?_)
  · refine hwindow.check_safe (fun s₂ h₂ => ?_) fun _ _ howns => howns
    refine current_safe (fun _ => ?_) fun _ _ => h₂.toOwns
    refine Safe.get (Safe.check (fun saved _ => ?_) fun _ _ => h₂.toOwns)
    have howned : Vacant F t .startApplication call.deliveryId p operationId (s₂.own saved.actor) :=
      { toOwns := h₂.toOwns.of_move (own_move _) rfl rfl (.of_eq rfl)
        opened := h₂.opened
        vacant := h₂.vacant
        delivery := h₂.delivery }
    refine Safe.modify (own_move _) (publish_safe howned.toRunning ?_)
    exact awaiting_last_safe .afterCommittedDraft rfl fun s₃ hrely hrunning _ _ _ =>
      (howned.publish _ _).rely hrely hrunning
  · have hunlooked : F.checkpointsChecked = false := by
      cases hF : F.checkpointsChecked with
      | false => rfl
      | true =>
        have hcurrent₁ : (s₁.storeUnchecked t result).invalidated = false := hadmits.1 hF
        rw [hgeneration, hwindow.wellformed.isCurrent_zero, hcurrent₁] at hobsolete
        cases hobsolete
    exact
      { wellformed := hwindow.wellformed.of_loose
        clear := by simp [Schedule.clear, hunlooked]
        held := hwindow.held
        promised := hwindow.promised }

theorem ensureOwned_safe :
    Safe (keeping F t) (ensureOwned config t call operationId)
      (Stays F t call.role call.deliveryId p (Vacant F t call.role call.deliveryId p operationId)) s := by
  refine Safe.get ?_
  split
  · exact h.toVacant
  · exact checkpoint_safe hrole hgeneration hcurrent h

theorem startApplication_safe {request : Option RuntimeRequest} :
    Safe (keeping F t) (startApplication config t call request operationId)
      (Ends F t call.role call.deliveryId p) s := by
  have hsubmit : call.role ≠ .submit := by rw [hrole]; decide
  refine Safe.bind (ensureOwned_safe hrole hgeneration hcurrent h) (fun _ s₀ h₀ => ?_)
    fun e s₀ h₀ => Owns.failed h₀ e
  have h₀ : Vacant F t call.role call.deliveryId p operationId s₀ := h₀
  refine current_safe (fun hcurrent₀ => ?_) fun _ => h₀.failed
  have hcurrent₀ := isCurrent_current hcurrent₀
  have hcall : Marks F t s₀ (.called t (.start config.context.draftKey operationId)) :=
    .called _ hcurrent₀ (h₀.vacant hcurrent₀) (.start _ _)
      (h₀.keyed hcurrent₀ fun _ heq => (Option.some.inj heq).symm)
  refine note_safe hcall (port_safe (awaiting_last_safe .start rfl
    fun s₁ hrely hrunning answer _ _ => ?_))
  have h₁ := (h₀.toOwns.note hcall).rely hrely hrunning
  rcases answer with e | receipt
  · exact h₁.failed e
  refine current_safe (fun hcurrent₁ => ?_) fun _ => h₁.failed
  refine Safe.get (Safe.check (fun _ _ => ?_) fun e _ => h₁.failed e)
  have hlearn : Move F t s₁ (s₁.storeApplication receipt) :=
    .learn (isCurrent_current hcurrent₁)
      ⟨rfl, rfl, rfl, rfl, rfl, rfl, fun _ => rfl, rfl, Nat.le_refl _⟩ rfl rfl
  have h₂ := h₁.of_move hlearn rfl rfl (.of_eq rfl)
  refine Safe.modify hlearn (publish_safe h₂.toRunning ?_)
  refine Safe.check (fun request _ => ?_) fun e _ => (h₂.publish _ _).failed e
  show Ends F t call.role call.deliveryId p _ _
  cases orThrow (extractServiceRequestOutputs request receipt.members) with
  | ok outputs => exact (h₂.publish _ _).returned hsubmit fun hkeeps => by rw [hrole] at hkeeps; cases hkeeps
  | error e => exact (h₂.publish _ _).failed e

end
variable {recoveringSign : Bool}

variable {hashed : HashedCall}

theorem operate_safe {request : Option RuntimeRequest}
    (hadmission : config.roles hashed.call.role = some hashed.call.admission)
    (hrequest : requestFor config hashed.call.role hashed.call.admission = .ok request)
    (hgeneration : hashed.call.generation = 0)
    (hassented : hashed.call.role = .sign → s.invalidated = false → Assented F t s)
    (h : Ready F t hashed.call.role hashed.call.deliveryId p operationId s) :
    Safe (keeping F t) (operate config t hashed request operationId recoveringSign)
      (Ends F t hashed.call.role hashed.call.deliveryId p) s := by
  refine Safe.get (Safe.check (fun _ _ => ?_) fun e _ => h.failed e)
  refine current_safe (fun hcurrent => ?_) fun _ => h.failed
  have hcurrent := isCurrent_current hcurrent
  split
  · rename_i hrole
    exact publish_safe h.toRunning ((h.toOwns.publish _ _).returned (by rw [hrole]; decide)
      fun hkeeps => by rw [hrole] at hkeeps; cases hkeeps)
  · rename_i hrole
    exact startApplication_safe hrole hgeneration hcurrent h
  · rename_i hrole
    exact save_safe h (by rw [hrole]; decide) hcurrent
  · rename_i hrole
    exact save_safe h (by rw [hrole]; decide) hcurrent
  · rename_i hrole
    exact Safe.check (fun wording _ => prepare_safe h (by rw [hrole]; decide) hcurrent)
      fun e _ => h.failed e
  · rename_i hrole
    exact Safe.check
      (fun wording _ => sign_safe h (by rw [hrole]; decide) hcurrent (hassented hrole hcurrent))
      fun e _ => h.failed e
  · rename_i hrole
    rw [hrole] at hadmission hrequest
    exact Safe.check (fun wording _ => submit_safe hrole hadmission hrequest h)
      fun e _ => h.failed e

/-- How a delivered action ends: the outputs of a Submit are those of the
accepted completion. -/
def Performed (F : Schedule) (role : ResponseActionRole) (id : String) :
    Except Failure Outputs → State config → Prop :=
  fun result s => Running F s
    ∧ ∀ outputs, role = .submit → result = .ok outputs → Confirms s.log id outputs

theorem Running.failed (h : Running F s) (e : Failure) : Performed F role id (.error e) s :=
  ⟨h, nofun⟩

theorem settling_safe {body : Script config Outputs}
    (hbody : Safe (keeping F t) body (Ends F t role id p) s) :
    Safe (keeping F t) (settling config t role id p body) (Performed F role id) s := by
  have hsettled : Safe (keeping F t)
      (do
        let outcome ← Prog.outcome body
        Prog.modify (State.settle p outcome)
        Prog.awaiting Await.tick
        Prog.check outcome)
      (Ends F t role id p) s := by
    refine Safe.of_andThen (Safe.outcome (hbody.mono fun outcome s₁ hends => ?_))
    obtain ⟨howns, hconfirms, hkept⟩ := hends
    obtain ⟨promise, hpromise, hrole, hid⟩ := howns.promised
    have hsettle : Move F t s₁ (s₁.settle p outcome) :=
      .settle p outcome promise hpromise
        (fun outputs hsubmit hok => hid ▸ hconfirms outputs (hrole.symm.trans hsubmit) hok)
        fun outputs hkeeps hok => hid ▸ hkept outputs (hrole ▸ hkeeps) hok
    refine Safe.modify hsettle (awaiting_safe (l := .tick) rfl fun s₂ hrely hrunning _ _ _ => ?_)
    refine ⟨(howns.of_move hsettle rfl rfl settle_keeps).rely hrely hrunning,
      fun outputs hsubmit hok => ?_, fun outputs hkeeps hok => ?_⟩
    · exact (hconfirms outputs hsubmit hok).mono hrely.history.kept
    · have hsettled : Completed id outputs (s₁.settle p outcome) := hkept outputs hkeeps hok
      exact hsettled.rely hrely howns.held
  refine Safe.ensuring hsettled fun outcome s₁ hends => ?_
  obtain ⟨howns, hconfirms, -⟩ := hends
  have hrelease : Move F t s₁ (s₁.release t role id) := .release role id howns.held
  refine ⟨hrelease, howns.toRunning.of_move hrelease rfl, fun outputs hsubmit hok => ?_⟩
  exact (hconfirms outputs hsubmit hok).mono fun _ => List.mem_cons_of_mem _

/-! ## Admission -/

theorem decideAdmission_ok {identity : OperationIdentity} {admission : Admission}
    (h : decideAdmission s call identity = .ok admission) :
    s.isCurrent call.generation = true ∧
      match admission with
      | .join promise => ∃ delivery, s.deliveries call.deliveryId = some delivery
          ∧ delivery.identity = identity ∧ delivery.pending = some promise
      | .replay outputs => ∃ delivery, s.deliveries call.deliveryId = some delivery
          ∧ delivery.identity = identity ∧ delivery.completed = some outputs
      | .admitted => s.completionResult = none ∧ s.isBusy = false
          ∧ ∀ delivery, s.deliveries call.deliveryId = some delivery →
            delivery.identity = identity ∧ delivery.completed = none := by
  simp only [decideAdmission, refuseIf_bind_ok, Bool.not_eq_false'] at h
  obtain ⟨hcurrent, h⟩ := h
  refine ⟨hcurrent, ?_⟩
  cases hdelivery : s.deliveries call.deliveryId with
  | none =>
    simp only [hdelivery, refuseIf_bind_ok] at h
    obtain ⟨hcompletion, hbusy, -, hadmitted⟩ := h
    obtain rfl : Admission.admitted = admission := Except.ok.inj hadmitted
    exact ⟨by simpa using hcompletion, hbusy, fun _ hnone => by cases hnone⟩
  | some delivery =>
    simp only [hdelivery, refuseIf_bind_ok] at h
    obtain ⟨hidentity, h⟩ := h
    have hidentity : delivery.identity = identity := by simpa using hidentity
    cases hpending : delivery.pending with
    | some promise =>
      simp only [hpending] at h
      obtain rfl : Admission.join promise = admission := Except.ok.inj h
      exact ⟨delivery, rfl, hidentity, hpending⟩
    | none =>
      simp only [hpending, refuseIf_bind_ok] at h
      obtain ⟨-, h⟩ := h
      cases hcompleted : delivery.completed with
      | some outputs =>
        simp only [hcompleted] at h
        obtain rfl : Admission.replay outputs = admission := Except.ok.inj h
        exact ⟨delivery, rfl, hidentity, hcompleted⟩
      | none =>
        simp only [hcompleted, refuseIf_bind_ok] at h
        obtain ⟨hcompletion, hbusy, hadmitted⟩ := h
        obtain rfl : Admission.admitted = admission := Except.ok.inj hadmitted
        refine ⟨by simpa using hcompletion, hbusy, fun other hother => ?_⟩
        obtain rfl : delivery = other := Option.some.inj hother
        exact ⟨hidentity, hcompleted⟩

structure Arrived (F : Schedule) (t : Nat) (call : Call) (s : State config) : Prop
    extends Running F s where
  assented : call.role = .sign → s.invalidated = false → Assented F t s

theorem admitted_ready {identity : OperationIdentity} (generatedKey : String)
    (h : Running F s) (hadmits : Admits F t s hashed identity) :
    Ready F t hashed.call.role hashed.call.deliveryId s.nextObject
      (admittedDelivery s hashed identity generatedKey).operationId
      (s.admitCall t hashed identity generatedKey) where
  toRunning := h.of_move (.admitCall hashed identity generatedKey hadmits) rfl
  held := rfl
  promised := ⟨_, Function.update_self .., rfl, rfl⟩
  opened := List.mem_cons_self
  vacant _ := hadmits.completion
  delivery _ := by
    simp only [State.admitCall, Function.update_self, Option.map_some]
    exact ⟨_, rfl, by split <;> rfl⟩
  unstored := by simp [State.admitCall, storedSinceOpening]
  unfailed := by simp [State.admitCall, failedSinceOpening]
  unspent := by simp [State.admitCall, unknownSinceOpening]
  undone delivery hdelivery := by
    rcases Wellformed.admit_some hdelivery with ⟨-, hcore⟩ | ⟨hne, -⟩
    · exact (core_eq hcore).2.2.2.2.trans (Wellformed.admittedDelivery_identity generatedKey hadmits).2
    · exact absurd rfl hne

theorem joined_safe {promise : Nat} {delivery : Delivery} (h : Running F s)
    (hdelivery : s.deliveries call.deliveryId = some delivery)
    (hrole : delivery.identity.role = call.role) (hpending : delivery.pending = some promise) :
    Safe (keeping F t)
      (port config (Prog.awaiting (Await.joined promise)))
      (Performed F call.role call.deliveryId) s := by
  obtain ⟨settled, hsettled, hrole', hid⟩ := h.wellformed.pending _ delivery promise hdelivery hpending
  refine awaiting_safe (l := .joined promise) rfl fun s' hrely hrunning answer _ haccepted => ?_
  obtain ⟨settled', hsettled', hrole'', hid'⟩ := hrely.promise promise settled hsettled
  obtain ⟨value, hvalue⟩ := haccepted
  have houtcome : settled'.outcome = some answer := by
    cases value <;> simp_all [accept]
  show Performed F call.role call.deliveryId answer s'
  refine ⟨hrunning, fun outputs hsubmit hok => ?_⟩
  rw [hok] at houtcome
  have hpromised := hrunning.wellformed.promised promise settled' outputs hsettled'
    (by rw [hrole'', hrole', hrole, hsubmit]) houtcome
  rw [hid', hid] at hpromised
  exact hpromised

theorem performHashed_safe {request : Option RuntimeRequest} {responseHash : String}
    (hadmission : config.roles hashed.call.role = some hashed.call.admission)
    (hrequest : requestFor config hashed.call.role hashed.call.admission = .ok request)
    (hgeneration : hashed.call.generation = 0)
    (hkey : Shared.truthy hashed.call.deliveryId = true) (h : Arrived F t hashed.call s)
    (hadmitted : admitsCall s hashed (.ok responseHash) = true →
      (F.restoresAlone = true → restoreOpen s.log = false)
        ∧ (F.unknownBlocks = true → hashed.call.role = .submit → hasUnknown s.log = false)) :
    Safe (keeping F t) (performHashed config t hashed request recoveringSign responseHash)
      (Performed F hashed.call.role hashed.call.deliveryId) s := by
  refine Safe.get (Safe.check (fun admission hdecided => ?_) fun e _ => h.failed e)
  obtain ⟨hcurrent, hfound⟩ := decideAdmission_ok hdecided
  cases admission with
  | join promise =>
    obtain ⟨delivery, hdelivery, hidentity, hpending⟩ := hfound
    exact joined_safe h.toRunning hdelivery (by rw [hidentity]; rfl) hpending
  | replay outputs =>
    obtain ⟨delivery, hdelivery, hidentity, hcompleted⟩ := hfound
    refine ⟨h.toRunning, fun other hsubmit hok => ?_⟩
    obtain rfl : outputs = other := by simpa using hok
    exact h.wellformed.completed _ delivery outputs hdelivery
      (by rw [hidentity]; exact hsubmit) hcompleted
  | admitted =>
    obtain ⟨hcompletion, hbusy, hretained⟩ := hfound
    obtain ⟨halone, hknown⟩ := hadmitted (by simp [admitsCall, hdecided])
    have hadmits : Admits F t s hashed (hashed.identity responseHash) :=
      { current := isCurrent_current hcurrent
        free := h.free hbusy
        completion := hcompletion
        key := hkey
        role := rfl
        retained := hretained
        alone := halone
        known := hknown }
    refine Safe.ask fun callbacks => Safe.modify (.admitCall _ _ _ hadmits) ?_
    have hready := admitted_ready callbacks.generatedKey h.toRunning hadmits
    refine publish_safe hready.toRunning (settling_safe ?_)
    refine operate_safe hadmission hrequest hgeneration (fun hsign _ => ?_) ?_
    · exact h.assented hsign (isCurrent_current hcurrent)
    · exact
        { toVacant := hready.toVacant.publish _ _
          unstored := hready.unstored
          unfailed := hready.unfailed
          unspent := hready.unspent
          undone := hready.undone }

/-! ## Before the hash -/

theorem checkSubject_ok {subject : Subject} {input : ActionInput}
    {wording : Wording} {ready : Except Failure Bool} {assent : Assent}
    (h : checkSubject role subject input response wording recoveringSign ready = .ok assent) :
    assent.role = role ∧ subject.preparation = some assent.preparation := by
  unfold checkSubject at h
  split at h
  · cases h
  · rename_i preparation hsubject
    split at h
    · split at h
      · cases h
      split at h
      · cases h
        exact ⟨rfl, hsubject⟩
      · cases h
    · cases h

theorem subjectFor_sign {preparation : PreparedResponseSigning}
    (h : (subjectFor s .sign).preparation = some preparation) : s.prepared = some preparation := by
  cases hprepared : s.prepared with
  | none => simp [subjectFor, hprepared, Subject.preparation] at h
  | some other => simpa [subjectFor, hprepared, Subject.preparation] using h

theorem wordingFor_ok {callbacks : Callbacks} {wording : Option Wording} (hsign : role = .sign)
    (h : wordingFor role callbacks = .ok wording) : wording ≠ none := by
  subst hsign
  cases hcontext : callbacks.signingContext with
  | error e => simp [wordingFor, ResponseActionRole.isUnsignedCheckpoint, hcontext, Except.map] at h
  | ok found =>
    simp only [wordingFor, ResponseActionRole.isUnsignedCheckpoint, hcontext, Except.map] at h
    cases h
    simp

def Awaiting (t : Nat) (role : ResponseActionRole) (s : State config) : Prop :=
  role = .sign → ∃ assent, lastAssent t s.log = some assent ∧ assent.role = .sign
    ∧ t ∈ assenting s.log ∧ s.prepared = some assent.preparation

theorem assent_safe {wording : Option Wording}
    {f : Unit → Script config β} {Q : Except Failure β → State config → Prop} (h : Running F s)
    (hwording : call.role = .sign → wording ≠ none)
    (hok : ∀ s', Running F s' → Awaiting t call.role s' → Safe (keeping F t) (f ()) Q s')
    (herror : ∀ e, Q (.error e) s) :
    Safe (keeping F t)
      (assent config t call (subjectFor s call.role) wording recoveringSign >>= f) Q s := by
  refine Safe.of_andThen ?_
  have hassented : ∀ (callbacks : Callbacks) (wording : Wording) (assent : Assent),
      checkSubject call.role (subjectFor s call.role) call.input call.response wording recoveringSign
        callbacks.reviewReady = .ok assent →
      Safe (keeping F t) (note config (.assented t assent)) (Safe.andThen (keeping F t) f Q) s := by
    intro callbacks wording assent hassent
    obtain ⟨hrole, hsubject⟩ := checkSubject_ok hassent
    have hprepared : call.role = .sign → s.prepared = some assent.preparation := fun hsign =>
      subjectFor_sign (hsign ▸ hsubject)
    have hmark : Marks F t s (.assented t assent) :=
      .assented assent fun hsign => hprepared (hrole.symm.trans hsign)
    refine ⟨.mark _ hmark, hok _ (h.note hmark) fun hsign => ?_⟩
    have hsigns : assent.role = .sign := hrole.trans hsign
    exact ⟨assent, by simp [State.note, lastAssent], hsigns, by simp [State.note, assenting, hsigns],
      hprepared hsign⟩
  unfold assent
  split
  · refine Safe.ask fun callbacks => Safe.check (fun found hfound => ?_) fun e _ => herror e
    exact hassented callbacks _ found hfound
  · refine Safe.ask fun callbacks => Safe.check (fun found hfound => ?_) fun e _ => herror e
    exact hassented callbacks _ found hfound
  · rename_i hunsigned _
    refine hok s h fun hsign => ?_
    obtain ⟨found, hfound⟩ := Option.ne_none_iff_exists'.mp (hwording hsign)
    exact (hunsigned found hsign hfound).elim

theorem perform_safe (hadmission : config.roles call.role = some call.admission)
    (hgeneration : call.generation = 0) (hkey : Shared.truthy call.deliveryId = true)
    (h : Running F s) :
    Safe (keeping F t) (perform config t call) (Performed F call.role call.deliveryId) s := by
  refine Safe.get (Safe.check (fun _ _ => ?_) fun e _ => h.failed e)
  refine Safe.check (fun request hrequest => ?_) fun e _ => h.failed e
  refine validateResponse_safe (fun s₁ hrely₁ h₁ => ?_) fun s₁ e _ h₁ => h₁.failed e
  refine current_safe (fun _ => ?_) fun _ => h₁.failed
  refine Safe.get (Safe.check (fun _ _ => ?_) fun e _ => h₁.failed e)
  refine Safe.ask fun callbacks => Safe.check (fun wording hwording => ?_) fun e _ => h₁.failed e
  show Safe _ (assent config t call (subjectFor s₁ call.role) wording _ >>= _) _ _
  refine assent_safe h₁ (fun hsign => wordingFor_ok hsign hwording)
    (fun s₂ h₂ hawaiting => ?_) h₁.failed
  refine awaiting_safe (l := .hashResponse _) rfl fun s₃ hrely₃ h₃ answer hresumes _ => ?_
  have hmark : Marks F t s₃ (.hashed t) := .hashed
  refine note_safe hmark (Safe.check (fun responseHash hanswer => ?_) fun e _ =>
    (h₃.note hmark).failed e)
  refine performHashed_safe hadmission hrequest hgeneration hkey ?_ fun hadmits => ?_
  · exact
      { toRunning := h₃.note hmark
        assented := fun hsign hcurrent => by
          obtain ⟨assent, hassent, hsigns, hmem, hprepared⟩ := hawaiting hsign
          refine ⟨assent, hrely₃.history.lastAssent.trans hassent, hsigns, fun hF => ?_⟩
          exact (hrely₃.prepared hF hmem hcurrent).trans hprepared }
  · obtain rfl := hanswer
    have hadmits₃ : admitsCall s₃ _ (.ok responseHash) = true := hadmits
    have hrest : (F.restoresAlone = true → restoreOpen s₃.log = false)
        ∧ (F.unknownBlocks = true → call.role = .submit → hasUnknown s₃.log = false) := by
      simp only [Schedule.resumes, h₃.clear, hadmits₃] at hresumes
      grind
    exact hrest

end FormspecWeb.Controller
