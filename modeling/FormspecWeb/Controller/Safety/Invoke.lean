import FormspecWeb.Controller.Safety.Admission

/-!
# Invocations and deliveries keep the protocol

The two entry points around `perform`: the engine's effect loop, the definition
invoker and the widget executor. What they return for a Submit has the outputs
of the accepted completion.
-/

namespace FormspecWeb.Controller

open Ports Engine Async

variable {config : ResponseActionControllerConfig} {F : Schedule} {t : Nat}
  {role : ResponseActionRole} {id : String} {s s' : State config} {α β : Type}

/-! ## The engine's effect loop -/

def Attempted (F : Schedule) (role : ResponseActionRole) (id : String) :
    Except Failure EffectOutcome → State config → Prop
  | .ok (.succeeded outputs), s =>
    Running F s ∧ (role = .submit → Confirms s.log id outputs)
  | _, s => Running F s

def Invoked (F : Schedule) (role : ResponseActionRole) :
    Except Failure InvocationResult → State config → Prop
  | .ok result, s => Running F s ∧ (role = .submit → result.status = .completed →
      Confirms s.log result.invocationId result.transitionBindings)
  | .error _, s => Running F s

theorem Attempted.running {result : Except Failure EffectOutcome}
    (h : Attempted F role id result s) : Running F s := by
  rcases result with e | outputs | reason
  · exact h
  · exact h.1
  · exact h

theorem Invoked.running {result : Except Failure InvocationResult} (h : Invoked F role result s) :
    Running F s := by
  cases result with
  | ok result => exact h.1
  | error e => exact h

theorem dispatchEffect_safe {call : Call}
    (hadmission : config.roles call.role = some call.admission) (hgeneration : call.generation = 0)
    (hkey : Shared.truthy call.deliveryId = true) (h : Running F s) :
    Safe (keeping F t) (dispatchEffect config t call) (Attempted F call.role call.deliveryId) s := by
  have hperformed : Safe (keeping F t)
      (do
        let transitionBindings ← perform config t call
        return EffectOutcome.succeeded transitionBindings)
      (Attempted F call.role call.deliveryId) s :=
    Safe.bind (perform_safe hadmission hgeneration hkey h)
      (fun outputs s' hs' => ⟨hs'.1, fun hsubmit => hs'.2 outputs hsubmit rfl⟩)
      fun e s' hs' => hs'.1
  refine Safe.tryCatch hperformed (fun _ _ hs' => hs') fun failure s₁ _ => ?_
  refine awaiting_safe (l := .tick) rfl fun s₂ _ h₂ _ _ _ => ?_
  exact Safe.of_andThen (fail_safe h₂ (fun s₃ _ _ h₃ => h₃) fun s₃ _ _ _ h₃ => h₃)

theorem dispatchHostEvent_safe {generation : Nat} (hrole : role ≠ .submit) (h : Running F s) :
    Safe (keeping F t) (dispatchHostEvent config generation) (Attempted F role id) s := by
  have hdispatched : Safe (keeping F t)
      (do
        current config generation
        publish config (.role .paper) none
        return EffectOutcome.succeeded [])
      (Attempted F role id) s :=
    current_safe
      (fun _ => publish_safe h ⟨h.publish _ _, fun hsubmit => absurd hsubmit hrole⟩) fun _ _ => h
  exact Safe.tryCatch hdispatched (fun _ _ hs' => hs') fun _ _ hs' => hs'.running

def dispatchesRequest : Effect → Bool
  | .hostEvent _ _ => false
  | _ => true

/-- The Sign request of an attempt is made without a step that others see. -/
def CarriesSafely (F : Schedule) (t : Nat) (carried : Script config (Option SignRetry)) : Prop :=
  ∀ s, Running F s → Safe (keeping F t) carried (fun _ s => Running F s) s

theorem attempt_safe {effect : Effect} {call : Call} {carried : Script config (Option SignRetry)}
    (hadmission : config.roles call.role = some call.admission) (hgeneration : call.generation = 0)
    (heffect : call.role = .submit → dispatchesRequest effect = true)
    (hcarried : CarriesSafely F t carried) (h : Running F s) :
    Safe (keeping F t) (attempt config t effect call carried) (Attempted F call.role call.deliveryId)
      s := by
  unfold attempt
  split
  · refine dispatchHostEvent_safe (fun hsubmit => ?_) h
    cases heffect hsubmit
  split
  · rename_i hkey
    exact Safe.bind (hcarried s h)
      (fun retry _ h' => dispatchEffect_safe hadmission hgeneration hkey h') fun _ _ h' => h'
  · exact h

theorem resultOf_invoked {outcome : EffectOutcome} (h : Attempted F role id (.ok outcome) s) :
    Invoked F role (.ok (resultOf id outcome)) s := by
  cases outcome with
  | succeeded outputs => exact ⟨h.1, fun hsubmit _ => h.2 hsubmit⟩
  | failed reason => exact ⟨h, nofun⟩

theorem Attempted.rely {result : Except Failure EffectOutcome} (h : Attempted F role id result s)
    (hrely : Rely F t s s') (hrunning : Running F s') : Attempted F role id result s' := by
  rcases result with e | outputs | reason
  · exact hrunning
  · exact ⟨hrunning, fun hsubmit => (h.2 hsubmit).mono hrely.history.kept⟩
  · exact hrunning

theorem runEffect_safe {action : ResponseAction} {effect : Effect} {call : Call}
    {carried : Script config (Option SignRetry)}
    (hadmission : config.roles call.role = some call.admission) (hgeneration : call.generation = 0)
    (heffect : call.role = .submit → dispatchesRequest effect = true)
    (hcarried : CarriesSafely F t carried) (h : Running F s) :
    Safe (keeping F t) (runEffect config t action effect call carried) (Invoked F call.role) s := by
  refine Safe.bind (attempt_safe hadmission hgeneration heffect hcarried h) (fun first s₁ h₁ => ?_)
    fun e s₁ h₁ => h₁
  refine awaiting_safe (l := .tick) rfl fun s₂ hrely₂ h₂ _ _ _ => ?_
  have hfirst := h₁.rely hrely₂ h₂
  cases first with
  | succeeded outputs => exact resultOf_invoked hfirst
  | failed reason =>
    show Safe _ (if _ then _ else _) _ _
    split
    · exact ⟨h₂, nofun⟩
    split
    · refine Safe.bind (attempt_safe hadmission hgeneration heffect hcarried h₂)
        (fun second s₃ h₃ => ?_) fun e s₃ h₃ => h₃
      refine awaiting_safe (l := .tick) rfl fun s₄ hrely₄ h₄ _ _ _ => ?_
      exact resultOf_invoked (h₃.rely hrely₄ h₄)
    · exact resultOf_invoked hfirst

variable {admission : QualifiedResponseActionRole}

theorem roleFor_ok {document : ResponseActionsDocument} {actionRef : String}
    (h : roleFor config document actionRef = .ok (role, admission)) :
    config.roles role = some admission ∧ admission.actionRef = actionRef := by
  simp only [roleFor] at h
  split at h
  · rename_i entry hentries
    obtain rfl : entry = (role, admission) := by simpa using h
    have hmem : (role, admission) ∈ [(role, admission)] := List.mem_singleton_self _
    rw [← hentries, List.mem_filter, List.mem_filterMap] at hmem
    obtain ⟨⟨found, -, hfound⟩, hmatches⟩ := hmem
    obtain ⟨admitted, hadmitted, heq⟩ := Option.map_eq_some_iff.mp hfound
    cases heq
    exact ⟨hadmitted, by simpa using (Bool.and_eq_true_iff.mp hmatches).1⟩
  · cases h

theorem requestFor_submit {request : Option RuntimeRequest}
    {action : ResponseAction} {effect : Effect}
    (h : requestFor config .submit admission = .ok request)
    (haction : resolveResponseAction admission.document admission.actionRef = some action)
    (heffect : singleEffect action = .ok effect) : dispatchesRequest effect = true := by
  simp only [requestFor, haction, Shared.sequence_ok, orRefuse_ok, orThrow_ok, refuseIf_ok] at h
  obtain ⟨other, hother, -, -, tuple, -, -, -, found, hfound, h⟩ := h
  obtain rfl : action = other := Option.some.inj hother
  obtain rfl : effect = found := Except.ok.inj (heffect.symm.trans hfound)
  rw [if_neg (by decide)] at h
  obtain ⟨hadmits, -⟩ := refuseIf_bind_ok.mp h
  cases effect with
  | hostEvent name trace => simp [admitsEffect] at hadmits
  | _ => rfl

theorem fail_returned_safe {failure : Failure} {generation : Nat}
    {result : ResponseActionControllerReason → InvocationResult} (h : Running F s)
    (hfailed : ∀ reason, (result reason).status = .failed) :
    Safe (keeping F t)
      (do
        let reason ← fail config failure generation
        note config (.returned t none (result reason)))
      (fun _ s => Running F s) s := by
  have hreturned : ∀ (s' : State config) (reason : ResponseActionControllerReason), Running F s' →
      Safe (keeping F t) (note config (.returned t none (result reason))) (fun _ s => Running F s)
        s' := by
    intro s' reason hrunning
    have hmark : Marks F t s' (.returned t none (result reason)) :=
      .returned _ _ (fun _ => hfailed reason) nofun
    exact ⟨.mark _ hmark, hrunning.note hmark⟩
  exact Safe.of_andThen (fail_safe h (fun s' reason _ h' => hreturned s' reason h')
    fun s' _ reason _ h' => hreturned s' reason h')

theorem invokeGated_safe {request : DefinitionRequest}
    {deliveryId : String} (hadmission : config.roles role = some admission)
    (hrole : role ≠ .submit) (h : Running F s) :
    Safe (keeping F t) (invokeGated config t role admission request deliveryId 0) (Invoked F role)
      s := by
  refine Safe.check (fun action _ => ?_) fun _ _ => h
  refine Safe.check (fun effect _ => ?_) fun _ _ => h
  split
  · exact h
  · exact awaiting_safe (l := .tick) rfl fun s' _ h' _ _ _ =>
      ⟨h', fun hsubmit => absurd hsubmit hrole⟩
  · exact runEffect_safe hadmission rfl (fun hsubmit => absurd hsubmit hrole) (fun _ hs => hs) h

theorem invokeDefinitionAction_safe {request : DefinitionRequest} (h : Running F s) :
    Safe (keeping F t) (invokeDefinitionAction config t request) (fun _ s => Running F s) s := by
  refine Safe.get (Safe.ask fun callbacks => ?_)
  refine Safe.tryCatch (P := fun _ s => Running F s) ?_ (fun _ _ h' => h')
    fun failure s' h' => fail_returned_safe h' fun _ => rfl
  refine current_safe (fun hcurrent => ?_) fun _ _ => h
  have hgeneration : s.epoch = 0 := h.wellformed.epoch (isCurrent_current hcurrent)
  refine Safe.get (Safe.check (fun _ _ => ?_) fun _ _ => h)
  refine Safe.check (fun found hfound => ?_) fun _ _ => h
  obtain ⟨role, admission⟩ := found
  refine Safe.check (fun _ _ => ?_) fun _ _ => h
  refine Safe.check (fun _ hdefinition => ?_) fun _ _ => h
  have hrole : role ≠ .submit := by
    rintro rfl
    simp [definitionRoles] at hdefinition
  refine Safe.check (fun _ _ => ?_) fun _ _ => h
  rw [hgeneration]
  refine Safe.bind (invokeGated_safe (roleFor_ok hfound).1 hrole h) (fun result s' hinvoked => ?_)
    fun _ _ hinvoked => hinvoked
  have hmark : Marks F t s' (.returned t (some role) result) :=
    .returned _ _ nofun fun hsubmit => absurd (Option.some.inj hsubmit) hrole
  exact ⟨.mark _ hmark, hinvoked.running.note hmark⟩

/-! ## Widget deliveries -/

variable {request : WidgetRequest}

variable {retained : Option SignRetry}

theorem carriedRetry_safe {validated : ValidatedResponse} :
    CarriesSafely F t (carriedRetry config role retained request validated) := by
  intro s h
  unfold carriedRetry
  split
  · split
    · exact h
    · have hallocate : Move F t s s.allocate :=
        .quiet ⟨rfl, rfl, rfl, rfl, rfl, rfl, fun _ => rfl, rfl, Nat.le_succ _⟩ rfl rfl rfl rfl
      exact Safe.get (Safe.modify hallocate (h.of_move hallocate rfl))
  · exact h

theorem invokeWidgetGated_safe
    {response : FormResponse} {tuple : ValidationTuple}
    {validated : ValidatedResponse} {runtime : Option RuntimeRequest}
    (hadmission : config.roles role = some admission)
    (hreference : admission.actionRef = request.actionRef)
    (hrequest : requestFor config role admission = .ok runtime) (h : Running F s) :
    Safe (keeping F t)
      (invokeWidgetGated config t role admission request response tuple retained validated 0)
      (Invoked F role) s := by
  refine Safe.check (fun action haction => ?_) fun _ _ => h
  refine Safe.check (fun effect heffect => ?_) fun _ _ => h
  rw [orThrow_ok, ← hreference] at haction
  split
  · exact h
  · rename_i status hgate
    refine awaiting_safe (l := .tick) rfl fun s' _ h' _ _ _ => ⟨h', fun _ hstatus => ?_⟩
    exact absurd hstatus (widgetGate_stopped hgate)
  · refine runEffect_safe hadmission rfl (fun hsubmit => ?_) carriedRetry_safe h
    obtain rfl : role = .submit := hsubmit
    exact requestFor_submit hrequest haction heffect

theorem settleInvocation_safe {generation : Nat}
    {result : InvocationResult} (h : Running F s)
    (hconfirms : role = .submit → result.status = .completed →
      Confirms s.log result.invocationId result.transitionBindings) :
    Safe (keeping F t) (settleInvocation config role request generation result)
      (fun r s => match r with
        | .ok _ => Invoked F role (.ok result) s
        | .error _ => Running F s) s := by
  have hpublished : ∀ (s' : State config) phase reason, Running F s' → s'.log = s.log →
      Invoked F role (.ok result) (s'.publish phase reason) := fun s' phase reason h' hlog =>
    ⟨h'.publish phase reason, fun hsubmit hstatus =>
      (hconfirms hsubmit hstatus).mono fun _ hmem => List.mem_cons_of_mem _ (hlog ▸ hmem)⟩
  refine Safe.get ?_
  split
  · have hretain : ∀ retry, Move F t s (s.setRetryable retry) := fun retry =>
      .quiet ⟨rfl, rfl, rfl, rfl, rfl, rfl, fun _ => rfl, rfl, Nat.le_refl _⟩ rfl rfl rfl rfl
    have hretained := fun retry => h.of_move (hretain retry) rfl
    refine Safe.modify (hretain _) (Safe.get ?_)
    split
    · exact ⟨.publish _ _ (hretained _).clear, hpublished _ _ _ (hretained _) rfl⟩
    · exact ⟨hretained _, hconfirms⟩
  split
  · rename_i hcompleted
    simp only [Bool.and_eq_true, beq_iff_eq] at hcompleted
    obtain ⟨⟨hsubmit, hstatus⟩, -⟩ := hcompleted
    refine current_safe (fun hcurrent => ?_) fun _ _ => h
    have hkeep : Move F t s (s.keepCompleted request.identity result) :=
      .keep _ _ (isCurrent_current hcurrent) hstatus (hconfirms hsubmit hstatus)
    exact ⟨hkeep, h.of_move hkeep rfl, hconfirms⟩
  split
  · exact ⟨.publish _ _ h.clear, hpublished _ _ _ h rfl⟩
  · exact ⟨h, hconfirms⟩

theorem frozenValidation_safe {f : ValidatedResponse → Script config β}
    {Q : Except Failure β → State config → Prop} (h : Running F s)
    (hok : ∀ s' validated, Rely F t s s' → Running F s' → Safe (keeping F t) (f validated) Q s')
    (herror : ∀ s' e, Running F s' → Q (.error e) s') :
    Safe (keeping F t) (frozenValidation config retained >>= f) Q s := by
  cases retained with
  | some retry => exact hok s retry.validated (.refl F t s) h
  | none =>
    refine port_safe (awaiting_last_safe .validateFrozenResponse rfl
      fun s' hrely h' answer _ _ => ?_)
    rcases answer with e | validated
    · exact herror s' e h'
    · exact hok s' validated hrely h'

theorem deliverWidget_safe (h : Running F s) :
    Safe (keeping F t) (deliverWidget config t request 0) (fun _ s => Running F s) s := by
  refine Safe.get (Safe.check (fun found hfound => ?_) fun _ _ => h)
  obtain ⟨role, admission⟩ := found
  obtain ⟨hadmission, hreference⟩ := roleFor_ok hfound
  refine Safe.check (fun _ _ => ?_) fun _ _ => h
  refine Safe.check (fun response _ => ?_) fun _ _ => h
  refine Safe.check (fun runtime hrequest => ?_) fun _ _ => h
  refine validateResponse_safe (fun s₂ hrely₂ h₂ => ?_) fun _ _ _ h₂ => h₂
  refine current_safe (fun _ => ?_) fun _ _ => h₂
  refine Safe.get (Safe.check (fun _ _ => ?_) fun _ _ => h₂)
  refine Safe.check (fun tuple _ => ?_) fun _ _ => h₂
  refine Safe.check (fun _ _ => ?_) fun _ _ => h₂
  refine frozenValidation_safe h₂ (fun s₃ validated hrely₃ h₃ => ?_) fun _ _ h₃ => h₃
  refine current_safe (fun _ => ?_) fun _ _ => h₃
  refine Safe.check (fun _ _ => ?_) fun _ _ => h₃
  refine Safe.bind (invokeWidgetGated_safe hadmission hreference hrequest h₃)
    (fun result s₄ h₄ => ?_) fun _ _ h₄ => h₄
  refine Safe.bind (settleInvocation_safe h₄.1 h₄.2) (fun _ s₅ h₅ => ?_) fun _ _ h₅ => h₅
  have h₅ : Invoked F role (.ok result) s₅ := h₅
  have hmark : Marks F t s₅ (.returned t (some role) result) :=
    .returned _ _ nofun fun hsubmit hstatus => h₅.2 (Option.some.inj hsubmit) hstatus
  exact ⟨.mark _ hmark, h₅.running.note hmark⟩

theorem replayedSubmit_ok {result : InvocationResult}
    (h : replayedSubmit s request = .ok (some result)) :
    ∃ identity, s.completedSubmit = some (identity, result) := by
  unfold replayedSubmit at h
  split at h
  · obtain ⟨-, h⟩ := refuseIf_bind_ok.mp h
    split at h
    · rename_i identity retained hretained
      obtain ⟨-, h⟩ := refuseIf_bind_ok.mp h
      obtain rfl : retained = result := Option.some.inj (Except.ok.inj h)
      exact ⟨identity, hretained⟩
    · cases h
  · cases h

theorem widgetExecutor_safe (h : Running F s) :
    Safe (keeping F t) (widgetExecutor config t request) (fun _ s => Running F s) s := by
  refine Safe.get ?_
  refine Safe.tryCatch (P := fun _ s => Running F s) ?_ (fun _ _ h' => h')
    fun failure s' h' => fail_returned_safe h' fun _ => rfl
  refine current_safe (fun hcurrent => ?_) fun _ _ => h
  have hcurrent := isCurrent_current hcurrent
  refine Safe.get (Safe.check (fun replayed hreplayed => ?_) fun _ _ => h)
  cases replayed with
  | some result =>
    obtain ⟨identity, hretained⟩ := replayedSubmit_ok hreplayed
    have hmark : Marks F t s (.returned t (some .submit) result) :=
      .returned _ _ nofun fun _ _ => (h.wellformed.retained identity result hretained).2
    exact ⟨.mark _ hmark, h.note hmark⟩
  | none =>
    show Safe _ (deliverWidget config t request s.epoch) _ _
    rw [h.wellformed.epoch hcurrent]
    exact deliverWidget_safe h

end FormspecWeb.Controller
