import FormspecWeb.Async.Bodies
import FormspecWeb.Controller.Restore

/-!
# Where the hash of a delivery arrives

Every call of the controller that awaits the hash of a Response does so in `perform`, whichever way it
got there: what comes of the arrival is what `perform` makes of it, and the caller goes on with that.
It answers with the outputs of `perform`, or with a refusal where this failed.
-/

namespace FormspecWeb.Controller

open Shared Ports Engine Async

variable (config : ResponseActionControllerConfig)

/-- `perform` from the answer of the hash on. -/
def arrived (t : Nat) (hashed : HashedCall) (request : Option RuntimeRequest) (recoveringSign : Bool)
    (answer : Except Failure String) : Script config Outputs := do
  note config (.hashed t)
  let responseHash ← Prog.check answer
  performHashed config t hashed request recoveringSign responseHash

def Await.isHash : Await → Bool
  | .hashResponse _ => true
  | _ => false

/-- The way of a call from `perform` to its return: publications, ticks and writes that leave the log,
as long as `J` holds, and no port call. It may leave for one more attempt where `again` says so. -/
def returning (J : State config → Prop) (again : Bool) (t : Nat)
    (returns : Option ResponseActionRole → InvocationResult → Prop) : Course (State config) Await where
  reads := J
  writes update := ∀ s, (update s).log = s.log ∨ ∃ snapshot, (update s).log = .published snapshot :: s.log
  ends update := ∃ role result, update = State.note (.returned t role result) ∧ returns role result
  awaits l := l = .tick
  leaves l := again = true ∧ l = .validateResponse

/-- As long as the controller is current, the call returns completed with these outputs. -/
def returningOutputs (t : Nat) (call : Call) (outputs : Outputs) : Course (State config) Await :=
  returning config (fun s => s.isCurrent call.generation = true) false t fun role result =>
    role = some call.role ∧ result = resultOf call.deliveryId (.succeeded outputs)

/-- The call returns a result that is not completed, or its action is attempted again. -/
def returningFailure (t : Nat) (call : Call) : Course (State config) Await :=
  returning config (fun _ => True) true t fun _ result =>
    result.invocationId = call.deliveryId ∧ result.status ≠ .completed

/-- The caller of `perform` answers for it. -/
structure Served (t : Nat) (call : Call) (caller : Except Failure Outputs → Script config Unit) : Prop where
  succeeded : ∀ outputs,
    Follows (returningOutputs config t call outputs) (fun _ => False) (caller (.ok outputs))
  failed : ∀ failure, Follows (returningFailure config t call) (fun _ => False) (caller (.error failure))

inductive Arrives (t : Nat) : (l : Await) → (Reply l → Script config Unit) → Prop
  | hash (hashed : HashedCall) (request : Option RuntimeRequest) (recoveringSign : Bool)
      (caller : Except Failure Outputs → Script config Unit) (served : Served config t hashed.call caller) :
      Arrives t (.hashResponse hashed)
        (fun answer => (arrived config t hashed request recoveringSign answer).sequel caller)

variable {config} {t : Nat}

/-! ## Programs that await no hash -/

@[simp] theorem unhashed_current {generation : Nat} : Silent Await.isHash (current config generation) := by
  simp [current]

@[simp] theorem unhashed_port {α : Type} {call : Script config (Except Failure α)}
    (h : Silent Await.isHash call) : Silent Await.isHash (port config call) := by
  simp [port, h]

@[simp] theorem unhashed_publish {phase : Phase} {reason : Option ResponseActionControllerReason} :
    Silent Await.isHash (publish config phase reason) := by
  simp [publish]

@[simp] theorem unhashed_note {e : Entry config} : Silent Await.isHash (note config e) := by
  simp [note]

@[simp] theorem unhashed_validateResponse {response : FormResponse} :
    Silent Await.isHash (validateResponse config response) := by
  exact Silent.bind (silent_awaiting rfl) fun _ => silent_check _

@[simp] theorem unhashed_checkEvidence {purpose : EvidencePurpose} {result : SavedResponseDraft}
    {expected : Option FormResponse} : Silent Await.isHash (checkEvidence config t purpose result expected) := by
  refine Silent.bind silent_get fun s => Silent.bind (silent_awaiting rfl) fun answer => ?_
  split <;> simp

@[simp] theorem unhashed_afterCommit : Silent Await.isHash (afterCommit config) := silent_awaiting rfl

@[simp] theorem unhashed_report {failure : Failure} : Silent Await.isHash (report config failure) := by
  refine Silent.bind silent_get fun s => ?_
  split
  · simp
  · split <;> simp

@[simp] theorem unhashed_fail {failure : Failure} {generation : Nat} :
    Silent Await.isHash (fail config failure generation) := by
  refine Silent.bind silent_get fun s => ?_
  split
  · simp
  · split <;> simp

@[simp] theorem unhashed_save {call : Call} {request : Option RuntimeRequest} {operationId : String} :
    Silent Await.isHash (save config t call request operationId) := by
  refine Silent.bind unhashed_note fun _ => Silent.bind (unhashed_port (silent_awaiting rfl)) fun result => ?_
  repeat refine Silent.bind (by simp) fun _ => ?_
  simp

@[simp] theorem unhashed_prepare {call : Call} {request : Option RuntimeRequest} {wording : Wording} :
    Silent Await.isHash (prepare config t call request wording) := by
  refine Silent.bind unhashed_note fun _ => Silent.bind (unhashed_port (silent_awaiting rfl)) fun result => ?_
  repeat refine Silent.bind (by simp) fun _ => ?_
  simp

@[simp] theorem unhashed_reviewAgain {subject : Option PreparedResponseSigning} {wording : Wording} :
    Silent Await.isHash (reviewAgain config subject wording) := by
  simp [reviewAgain]

@[simp] theorem unhashed_sign {call : Call} {request : Option RuntimeRequest} {operationId : String}
    {wording : Wording} {recoveringSign : Bool} :
    Silent Await.isHash (sign config t call request operationId wording recoveringSign) := by
  refine Silent.bind silent_get fun s => Silent.bind ?_ fun _ => Silent.bind ?_ fun _ => ?_
  · unfold reviewUnlessRecovering
    split <;> simp
  · unfold retainSignRetry
    split <;> simp
  · refine Silent.bind unhashed_note fun _ => Silent.bind (unhashed_port (silent_awaiting rfl)) fun signature => ?_
    repeat refine Silent.bind (by simp) fun _ => ?_
    simp

@[simp] theorem unhashed_ensureCaptured {call : Call} {completion : ResponseCompletion} :
    Silent Await.isHash (ensureCaptured config call completion) := by
  refine Silent.bind silent_get fun s => ?_
  split
  · exact silent_pure _
  · refine Silent.bind (unhashed_port (silent_awaiting rfl)) fun submitOptions =>
      Silent.bind unhashed_current fun _ => Silent.bind (silent_check _) fun _ =>
      Silent.bind (unhashed_port (silent_awaiting rfl)) fun preparation => silent_modify _

@[simp] theorem unhashed_noteOutcome {answer : Except Failure ResponseCompletionResult} :
    Silent Await.isHash (noteOutcome config t answer) := by
  unfold noteOutcome
  split <;> simp

@[simp] theorem unhashed_submit {call : Call} {request : Option RuntimeRequest} {operationId : String}
    {wording : Wording} : Silent Await.isHash (submit config t call request operationId wording) := by
  refine Silent.bind (silent_check _) fun completion => Silent.bind unhashed_ensureCaptured fun _ =>
    Silent.bind unhashed_current fun _ => Silent.bind silent_get fun s => Silent.bind unhashed_reviewAgain fun _ =>
    Silent.bind unhashed_note fun _ => Silent.bind (silent_awaiting rfl) fun answer => ?_
  repeat refine Silent.bind (by simp) fun _ => ?_
  simp

@[simp] theorem unhashed_ensureOwned {call : Call} {operationId : String} :
    Silent Await.isHash (ensureOwned config t call operationId) := by
  refine Silent.bind silent_get fun s => ?_
  split
  · exact silent_pure _
  · refine Silent.bind (silent_check _) fun admission => Silent.bind (silent_check _) fun tuple =>
      Silent.bind (silent_check _) fun _ => Silent.bind (silent_check _) fun _ => Silent.bind unhashed_note fun _ =>
      Silent.bind (unhashed_port (silent_awaiting rfl)) fun result => ?_
    repeat refine Silent.bind (by simp) fun _ => ?_
    simp

@[simp] theorem unhashed_startApplication {call : Call} {request : Option RuntimeRequest}
    {operationId : String} : Silent Await.isHash (startApplication config t call request operationId) := by
  refine Silent.bind unhashed_ensureOwned fun _ => Silent.bind unhashed_current fun _ =>
    Silent.bind unhashed_note fun _ => Silent.bind (unhashed_port (silent_awaiting rfl)) fun receipt => ?_
  repeat refine Silent.bind (by simp) fun _ => ?_
  simp

@[simp] theorem unhashed_operate {hashed : HashedCall} {request : Option RuntimeRequest}
    {operationId : String} {recoveringSign : Bool} :
    Silent Await.isHash (operate config t hashed request operationId recoveringSign) := by
  refine Silent.bind silent_get fun s => Silent.bind (silent_check _) fun _ =>
    Silent.bind unhashed_current fun _ => ?_
  split <;> simp

@[simp] theorem unhashed_settling {role : ResponseActionRole} {id : String} {promise : Nat}
    {body : Script config Outputs} (h : Silent Await.isHash body) :
    Silent Await.isHash (settling config t role id promise body) :=
  Silent.ensuring (Silent.bind h.outcome fun _ => Silent.bind (silent_modify _) fun _ =>
    Silent.bind (silent_awaiting rfl) fun _ => silent_check _)

theorem unhashed_performHashed {hashed : HashedCall} {request : Option RuntimeRequest}
    {recoveringSign : Bool} {responseHash : String} :
    Silent Await.isHash (performHashed config t hashed request recoveringSign responseHash) := by
  refine Silent.bind silent_get fun s => Silent.bind (silent_check _) fun admission => ?_
  cases admission with
  | join promise => exact unhashed_port (silent_awaiting rfl)
  | replay outputs => simp
  | admitted =>
    exact Silent.bind silent_ask fun _ => Silent.bind (silent_modify _) fun _ =>
      Silent.bind unhashed_publish fun _ => unhashed_settling unhashed_operate

@[simp] theorem unhashed_assent {call : Call} {subject : Subject} {wording : Option Wording}
    {recoveringSign : Bool} : Silent Await.isHash (assent config t call subject wording recoveringSign) := by
  unfold assent
  split <;> simp

@[simp] theorem unhashed_dispatchHostEvent {generation : Nat} :
    Silent Await.isHash (dispatchHostEvent config generation) :=
  Silent.tryCatch (Silent.bind unhashed_current fun _ => Silent.bind unhashed_publish fun _ =>
    silent_pure _) fun _ => silent_pure _

@[simp] theorem unhashed_carriedRetry {role : ResponseActionRole} {retained : Option SignRetry}
    {request : WidgetRequest} {validated : ValidatedResponse} :
    Silent Await.isHash (carriedRetry config role retained request validated) := by
  unfold carriedRetry
  split
  · split <;> simp
  · simp

@[simp] theorem unhashed_frozenValidation {retained : Option SignRetry} :
    Silent Await.isHash (frozenValidation config retained) := by
  unfold frozenValidation
  split
  · exact silent_pure _
  · exact unhashed_port (silent_awaiting rfl)

@[simp] theorem unhashed_settleInvocation {role : ResponseActionRole} {request : WidgetRequest}
    {generation : Nat} {result : InvocationResult} :
    Silent Await.isHash (settleInvocation config role request generation result) := by
  refine Silent.bind silent_get fun s => ?_
  split
  · refine Silent.bind (silent_modify _) fun _ => Silent.bind silent_get fun _ => ?_
    split <;> simp
  split
  · simp
  · split <;> simp

theorem unhashed_restorePending {value : PendingResponseSigning} :
    Silent Await.isHash (restorePending config t value) := by
  have hstore : ∀ wording result, Silent Await.isHash (storePending config t value wording result) := by
    intro wording result
    unfold storePending
    split
    all_goals
      repeat refine Silent.bind (by simp) fun _ => ?_
      simp
  refine Silent.bind silent_get fun s => Silent.bind unhashed_current fun _ => Silent.bind (silent_check _) fun _ =>
    Silent.bind unhashed_note fun _ => Silent.ensuring ?_
  refine Silent.bind unhashed_checkEvidence fun _ => Silent.bind unhashed_current fun _ =>
    Silent.bind (silent_check _) fun admission => Silent.bind (silent_check _) fun _ =>
    Silent.bind silent_ask fun callbacks => Silent.bind (silent_check _) fun wording =>
    Silent.bind (unhashed_port (silent_awaiting rfl)) fun result => ?_
  exact Silent.bind unhashed_current fun _ => Silent.bind unhashed_checkEvidence fun _ =>
    Silent.bind unhashed_current fun _ => Silent.bind (silent_check _) fun _ => hstore wording result

theorem unhashed_restoreSavedDraft {value : SavedResponseDraft} :
    Silent Await.isHash (restoreSavedDraft config t value) := by
  refine Silent.bind silent_get fun s => Silent.bind unhashed_current fun _ =>
    Silent.bind (silent_check _) fun _ => Silent.bind (silent_modify _) fun _ => Silent.ensuring ?_
  repeat refine Silent.bind (by simp) fun _ => ?_
  simp

theorem unhashed_restoreSigned {value : SignedResponseSigning} :
    Silent Await.isHash (restoreSigned config t value) := by
  refine Silent.bind silent_get fun s => Silent.bind unhashed_current fun _ =>
    Silent.bind (silent_check _) fun _ => Silent.bind unhashed_note fun _ => Silent.ensuring ?_
  repeat refine Silent.bind (by simp) fun _ => ?_
  simp

theorem unhashed_refreshApplication : Silent Await.isHash (refreshApplication config t) := by
  refine Silent.bind silent_get fun s => Silent.bind unhashed_current fun _ =>
    Silent.bind (silent_check _) fun _ => Silent.bind (silent_modify _) fun _ => Silent.ensuring ?_
  refine Silent.bind (unhashed_port (silent_awaiting rfl)) fun receipt => ?_
  repeat refine Silent.bind (by simp) fun _ => ?_
  simp

/-! ## From `perform` to the return of its call -/

section

variable {J : State config → Prop} {again : Bool}
  {returns : Option ResponseActionRole → InvocationResult → Prop} {α : Type}
  {post : Except Failure α → Prop}

theorem follows_write {update : State config → State config} {p : Script config α}
    (h : ∀ s, (update s).log = s.log) (hp : Follows (returning config J again t returns) post p) :
    Follows (returning config J again t returns) post (Prog.modify update >>= fun _ => p) :=
  .inr ⟨fun s => .inl (h s), hp⟩

theorem follows_publish {phase : Phase} {reason : Option ResponseActionControllerReason} :
    Follows (returning config J again t returns) (fun result => result = .ok ())
      (publish config phase reason) :=
  .inr ⟨fun _ => .inr ⟨_, rfl⟩, rfl⟩

theorem follows_tick {p : Script config α} (hp : Follows (returning config J again t returns) post p) :
    Follows (returning config J again t returns) post (Prog.awaiting Await.tick >>= fun _ => p) :=
  .inr ⟨rfl, fun _ => hp⟩

theorem follows_note {role : Option ResponseActionRole} {result : InvocationResult}
    {post : Except Failure Unit → Prop} (h : returns role result) :
    Follows (returning config J again t returns) post (note config (.returned t role result)) :=
  .inl ⟨role, result, rfl, h⟩

theorem follows_report {failure : Failure} :
    Follows (returning config J again t returns) (fun result => ∃ reason, result = .ok reason)
      (report config failure) := by
  refine follows_get fun s _ => ?_
  split
  · exact follows_publish.bind (fun _ _ => ⟨_, rfl⟩) nofun
  split
  · exact follows_publish.bind (fun _ _ => ⟨_, rfl⟩) nofun
  · exact ⟨_, rfl⟩

theorem follows_fail {failure : Failure} {generation : Nat} :
    Follows (returning config J again t returns) (fun result => ∃ reason, result = .ok reason)
      (fail config failure generation) := by
  refine follows_get fun s _ => ?_
  split
  · exact ⟨_, rfl⟩
  split
  · exact follows_write (fun _ => rfl) follows_report
  · exact follows_report

theorem follows_failing {failure : Failure} {generation : Nat} :
    Follows (returning config J again t returns)
      (fun result => ∃ reason, result = .ok (EffectOutcome.failed reason))
      (do
        Prog.awaiting Await.tick
        let reason ← fail config failure generation
        return EffectOutcome.failed (some reason)) := by
  refine follows_tick (follows_fail.bind (fun reason _ => ⟨some reason, rfl⟩) fun failure h => ?_)
  obtain ⟨reason, h⟩ := h
  cases h

end

section

variable {call : Call}

/-- The caller of `dispatchEffect` answers for what it returned. -/
structure Effected (config : ResponseActionControllerConfig) (t : Nat) (call : Call)
    (f : Except Failure EffectOutcome → Script config Unit) : Prop where
  succeeded : ∀ outputs,
    Follows (returningOutputs config t call outputs) (fun _ => False) (f (.ok (.succeeded outputs)))
  failed : ∀ reason, Follows (returningFailure config t call) (fun _ => False) (f (.ok (.failed reason)))

/-- The caller of `runEffect` answers for what it returned. -/
structure Resulted (config : ResponseActionControllerConfig) (t : Nat) (call : Call)
    (f : Except Failure InvocationResult → Script config Unit) : Prop where
  succeeded : ∀ outputs, Follows (returningOutputs config t call outputs) (fun _ => False)
    (f (.ok (resultOf call.deliveryId (.succeeded outputs))))
  failed : ∀ result, result.invocationId = call.deliveryId → result.status ≠ .completed →
    Follows (returningFailure config t call) (fun _ => False) (f (.ok result))

theorem hands_perform {f : Except Failure Outputs → Script config Unit} (hf : Served config t call f) :
    Hands Await.isHash (Arrives config t) f (perform config t call) := by
  refine Silent.thenHands silent_get fun s => Silent.thenHands (silent_check _) fun _ =>
    Silent.thenHands (silent_check _) fun request => Silent.thenHands unhashed_validateResponse fun _ =>
    Silent.thenHands unhashed_current fun _ => Silent.thenHands silent_get fun s' =>
    Silent.thenHands (silent_check _) fun _ => Silent.thenHands silent_ask fun callbacks =>
    Silent.thenHands (silent_check _) fun wording => Silent.thenHands unhashed_assent fun _ => ?_
  refine Hands.of_body (.hash _ request (recovers s call) f hf) fun answer => ?_
  exact Silent.bind unhashed_note fun _ => Silent.bind (silent_check _) fun _ => unhashed_performHashed

theorem hands_dispatchEffect {f : Except Failure EffectOutcome → Script config Unit}
    (hf : Effected config t call f) :
    Hands Await.isHash (Arrives config t) f (dispatchEffect config t call) := by
  refine Hands.tryCatch (Hands.bind (hands_perform ⟨hf.succeeded, fun failure => ?_⟩) fun _ => trivial)
    fun failure => ?_
  · refine follows_failing.sequel fun result hresult => ?_
    obtain ⟨reason, rfl⟩ := hresult
    exact hf.failed reason
  · exact (Silent.bind (silent_awaiting rfl) fun _ => Silent.bind unhashed_fail fun _ =>
      silent_pure _).hands

variable {carried : Script config (Option SignRetry)}

variable {effect : Effect}

theorem attempt_durable
    (h : ∀ name onError, effect ≠ .hostEvent name onError) : attempt config t effect call carried =
      if truthy call.deliveryId then do
        let signRetry ← carried
        dispatchEffect config t { call with signRetry := signRetry }
      else pure (.failed none) := by
  cases effect with
  | hostEvent name onError => exact absurd rfl (h name onError)
  | serviceRequest => rfl
  | other => rfl

theorem hands_attempt
    {f : Except Failure EffectOutcome → Script config Unit} (hcarried : Silent Await.isHash carried)
    (h : ∀ name onError, effect ≠ .hostEvent name onError) (hf : Effected config t call f) :
    Hands Await.isHash (Arrives config t) f (attempt config t effect call carried) := by
  rw [attempt_durable h]
  split
  · exact hcarried.thenHands fun signRetry => hands_dispatchEffect ⟨hf.succeeded, hf.failed⟩
  · trivial

variable {returns : Option ResponseActionRole → InvocationResult → Prop}

/-- One more `perform` fails before the response is validated once more. -/
theorem follows_perform :
    Follows (returning config (fun _ => True) true t returns)
      (fun result => ∃ failure, result = Except.error failure) (perform config t call) := by
  refine follows_get fun s _ => ?_
  refine Follows.bind (follows_check _) (fun _ _ => ?_) fun failure _ => ⟨failure, rfl⟩
  refine Follows.bind (follows_check _) (fun request _ => ?_) fun failure _ => ⟨failure, rfl⟩
  exact .inl ⟨rfl, rfl⟩

theorem follows_dispatchEffect :
    Follows (returning config (fun _ => True) true t returns)
      (fun result => ∃ reason, result = .ok (EffectOutcome.failed reason))
      (dispatchEffect config t call) := by
  have hfails : Follows (returning config (fun _ => True) true t returns)
      (fun result => ∃ failure, result = Except.error failure)
      (do let transitionBindings ← perform config t call; return EffectOutcome.succeeded transitionBindings) := by
    refine follows_perform.bind (fun transitionBindings h => ?_) fun failure _ => ⟨failure, rfl⟩
    obtain ⟨failure, h⟩ := h
    cases h
  refine hfails.sequel fun result hresult => ?_
  obtain ⟨failure, rfl⟩ := hresult
  exact follows_failing

theorem follows_attempt (hcarried : Follows (returning config (fun _ => True) true t returns)
      (fun result => ∃ retry, result = .ok retry) carried)
    (h : ∀ name onError, effect ≠ .hostEvent name onError) :
    Follows (returning config (fun _ => True) true t returns)
      (fun result => ∃ reason, result = .ok (EffectOutcome.failed reason))
      (attempt config t effect call carried) := by
  rw [attempt_durable h]
  split
  · refine hcarried.bind (fun signRetry _ => follows_dispatchEffect) fun failure h => ?_
    obtain ⟨retry, h⟩ := h
    cases h
  · exact ⟨none, rfl⟩

theorem follows_again (hcarried : Follows (returning config (fun _ => True) true t returns)
      (fun result => ∃ retry, result = .ok retry) carried)
    (h : ∀ name onError, effect ≠ .hostEvent name onError) :
    Follows (returning config (fun _ => True) true t returns)
      (fun result => ∃ reason, result = .ok (resultOf call.deliveryId (.failed reason)))
      (do
        let second ← attempt config t effect call carried
        Prog.awaiting Await.tick
        return resultOf call.deliveryId second) := by
  refine (follows_attempt hcarried h).bind (fun second hsecond => ?_) fun failure hthrown => ?_
  · obtain ⟨reason, ⟨⟩⟩ := hsecond
    exact follows_tick ⟨reason, rfl⟩
  · obtain ⟨reason, h⟩ := hthrown
    cases h

variable {f : Except Failure InvocationResult → Script config Unit}

/-- What `runEffect` returns is answered for, whichever attempt it is of. -/
theorem hands_runEffect {action : ResponseAction} (hsilent : Silent Await.isHash carried)
    (hcarried : Follows (returningFailure config t call) (fun result => ∃ retry, result = .ok retry) carried)
    (hf : Resulted config t call f) :
    Hands Await.isHash (Arrives config t) f (runEffect config t action effect call carried) := by
  by_cases hhost : ∃ name onError, effect = .hostEvent name onError
  · obtain ⟨name, onError, rfl⟩ := hhost
    refine Silent.hands (Silent.bind unhashed_dispatchHostEvent fun first =>
      Silent.bind (silent_awaiting rfl) fun _ => ?_)
    split
    · trivial
    split
    · trivial
    split
    · exact Silent.bind unhashed_dispatchHostEvent fun _ => Silent.bind (silent_awaiting rfl) fun _ => trivial
    · trivial
  · have hdurable : ∀ name onError, effect ≠ .hostEvent name onError :=
      fun name onError h => hhost ⟨name, onError, h⟩
    refine Hands.bind (hands_attempt hsilent hdurable ⟨fun outputs => ?_, fun reason => ?_⟩) fun first => ?_
    · exact follows_tick (hf.succeeded outputs)
    · refine .inr ⟨rfl, fun _ => ?_⟩
      show Follows _ _ (Prog.sequel (ite _ _ (ite _ _ _)) f)
      split
      · exact hf.failed _ rfl (by simp)
      split
      · refine (follows_again hcarried hdurable).sequel fun result hresult => ?_
        obtain ⟨reason, rfl⟩ := hresult
        exact hf.failed _ rfl (by simp [resultOf])
      · exact hf.failed _ rfl (by simp [resultOf])
    · refine (Silent.thenHands (silent_awaiting rfl) fun _ => ?_)
      split
      · trivial
      split
      · trivial
      split
      · refine Hands.bind (hands_attempt hsilent hdurable ⟨fun outputs => ?_, fun reason => ?_⟩) fun second =>
          (Silent.bind (silent_awaiting rfl) fun _ => silent_pure _).hands
        · exact follows_tick (hf.succeeded outputs)
        · exact follows_tick (hf.failed _ rfl (by simp [resultOf]))
      · trivial

/-! ### Definition invocations -/

variable {role : ResponseActionRole}

variable {generation : Nat}

theorem hands_invokeGated {admission : QualifiedResponseActionRole}
    {request : DefinitionRequest} {deliveryId : String}
    (hf : ∀ call : Call, call.role = role → call.deliveryId = deliveryId → Resulted config t call f) :
    Hands Await.isHash (Arrives config t) f
      (invokeGated config t role admission request deliveryId generation) := by
  refine Silent.thenHands (silent_check _) fun action => Silent.thenHands (silent_check _) fun effect => ?_
  split
  · trivial
  · exact (Silent.bind (silent_awaiting rfl) fun _ => silent_pure _).hands
  · exact hands_runEffect (silent_pure _) ⟨none, rfl⟩ (hf _ rfl rfl)

theorem hands_invokeDefinitionAction {request : DefinitionRequest} :
    Hands Await.isHash (Arrives config t) .done (invokeDefinitionAction config t request) := by
  refine Silent.thenHands silent_get fun s => Silent.thenHands silent_ask fun callbacks =>
    Hands.tryCatch ?_ fun failure =>
      (Silent.bind unhashed_fail fun reason => unhashed_note).hands
  refine Silent.thenHands unhashed_current fun _ => Silent.thenHands silent_get fun _ =>
    Silent.thenHands (silent_check _) fun _ => Silent.thenHands (silent_check _) fun found =>
    Silent.thenHands (silent_check _) fun _ => Silent.thenHands (silent_check _) fun _ =>
    Silent.thenHands (silent_check _) fun _ => Hands.bind (hands_invokeGated ?_) fun _ => unhashed_note.hands
  rintro call hrole hid
  refine ⟨fun outputs => ?_, fun result hsame hstatus => ?_⟩
  · exact .inl ⟨_, _, rfl, by rw [hrole], rfl⟩
  · exact .inl ⟨_, _, rfl, hsame, hstatus⟩

/-! ### Widget deliveries -/

variable {request : WidgetRequest}

variable {J : State config → Prop}

variable {again : Bool}

theorem follows_carriedRetry {retained : Option SignRetry} {validated : ValidatedResponse} :
    Follows (returning config J again t returns) (fun result => ∃ retry, result = .ok retry)
      (carriedRetry config role retained request validated) := by
  unfold carriedRetry
  split
  · split
    · exact ⟨_, rfl⟩
    · exact follows_get fun s _ => follows_write (fun _ => rfl) ⟨_, rfl⟩
  · exact ⟨none, rfl⟩

theorem hands_invokeWidgetGated {admission : QualifiedResponseActionRole}
    {response : FormResponse} {tuple : ValidationTuple}
    {retained : Option SignRetry} {validated : ValidatedResponse}
    (hf : ∀ call : Call, call.role = role → call.deliveryId = request.invocationId →
      call.generation = generation → Resulted config t call f) :
    Hands Await.isHash (Arrives config t) f
      (invokeWidgetGated config t role admission request response tuple retained validated generation) := by
  refine Silent.thenHands (silent_check _) fun action => Silent.thenHands (silent_check _) fun effect => ?_
  split
  · trivial
  · exact (Silent.bind (silent_awaiting rfl) fun _ => silent_pure _).hands
  · exact hands_runEffect unhashed_carriedRetry follows_carriedRetry (hf _ rfl rfl rfl)

variable {result : InvocationResult}

/-- What was not completed is settled without a throw. -/
theorem follows_settle_failed
    (h : result.status ≠ .completed) :
    Follows (returning config J again t returns) (fun answer => answer = .ok ())
      (settleInvocation config role request generation result) := by
  refine follows_get fun s _ => ?_
  split
  · refine follows_write (fun _ => rfl) (follows_get fun s _ => ?_)
    split
    · exact follows_publish
    · exact rfl
  split
  · rename_i hcompleted
    simp [h] at hcompleted
  split
  · exact follows_publish
  · exact rfl

/-- As long as the controller is current, a completed action is settled without a throw. -/
theorem follows_settle_completed
    (h : result.status = .completed) :
    Follows (returning config (fun s => s.isCurrent generation = true) again t returns)
      (fun answer => answer = .ok ()) (settleInvocation config role request generation result) := by
  refine follows_get fun s _ => ?_
  split
  · rename_i hfailed
    simp [h] at hfailed
  split
  · refine follows_get fun s' hs' => ?_
    refine (follows_check _).bind (fun _ _ => follows_write (fun _ => rfl) rfl) fun failure hthrown => ?_
    rw [hs'] at hthrown
    cases hthrown
  split
  · exact follows_publish
  · exact rfl

theorem follows_settled {p : Script config Unit}
    (hp : Follows (returning config J again t returns) (fun answer => answer = .ok ()) p)
    (h : returns (some role) result) :
    Follows (returning config J again t returns) (fun _ => False)
      (p >>= fun _ => note config (.returned t (some role) result)) := by
  refine hp.bind (fun _ _ => follows_note h) fun failure hthrown => ?_
  cases hthrown

theorem hands_deliverWidget
    {f : Except Failure Unit → Script config Unit} :
    Hands Await.isHash (Arrives config t) f (deliverWidget config t request generation) := by
  refine Silent.thenHands silent_get fun s => Silent.thenHands (silent_check _) fun found =>
    Silent.thenHands (silent_check _) fun _ => Silent.thenHands (silent_check _) fun response =>
    Silent.thenHands (silent_check _) fun _ => Silent.thenHands unhashed_validateResponse fun _ =>
    Silent.thenHands unhashed_current fun _ => Silent.thenHands silent_get fun s =>
    Silent.thenHands (silent_check _) fun _ => Silent.thenHands (silent_check _) fun tuple =>
    Silent.thenHands (silent_check _) fun _ => Silent.thenHands unhashed_frozenValidation fun validated =>
    Silent.thenHands unhashed_current fun _ => Silent.thenHands (silent_check _) fun _ =>
    Hands.bind (hands_invokeWidgetGated ?_) fun result =>
      (Silent.bind unhashed_settleInvocation fun _ => unhashed_note).hands
  rintro call hrole hid rfl
  refine ⟨fun outputs => ?_, fun result hsame hstatus => ?_⟩
  · exact (follows_settled (follows_settle_completed rfl) ⟨by rw [hrole], rfl⟩).ended
  · exact (follows_settled (follows_settle_failed hstatus) ⟨hsame, hstatus⟩).ended

theorem hands_widgetExecutor {f : Except Failure Unit → Script config Unit} :
    Hands Await.isHash (Arrives config t) f (widgetExecutor config t request) := by
  refine Silent.thenHands silent_get fun s => Hands.tryCatch ?_ fun failure =>
    (Silent.bind unhashed_fail fun reason => unhashed_note).hands
  refine Silent.thenHands unhashed_current fun _ => Silent.thenHands silent_get fun _ =>
    Silent.thenHands (silent_check _) fun replayed => ?_
  split
  · exact unhashed_note.hands
  · exact hands_deliverWidget

theorem hands_retrySign : Hands Await.isHash (Arrives config t) .done (retrySign config t) := by
  refine Silent.thenHands silent_get fun s => ?_
  split
  · trivial
  · exact Silent.thenHands unhashed_current fun _ => Silent.thenHands (silent_check _) fun retry =>
      Silent.thenHands (silent_check _) fun _ => Silent.thenHands (silent_modify _) fun _ =>
      Hands.bind hands_widgetExecutor fun _ =>
        (Silent.bind (silent_awaiting rfl) fun _ => silent_modify _).hands

theorem hands_program (op : Begin) : Hands Await.isHash (Arrives config t) .done (program config t op) := by
  cases op with
  | definition request => exact hands_invokeDefinitionAction
  | widget request => exact hands_widgetExecutor
  | retireSignRetry =>
    exact (Silent.bind (silent_modify _) fun _ => Silent.bind silent_get fun _ => unhashed_publish).hands
  | retrySign => exact hands_retrySign
  | refreshApplication => exact unhashed_refreshApplication.hands
  | restoreSavedDraft value => exact unhashed_restoreSavedDraft.hands
  | restorePending value => exact unhashed_restorePending.hands
  | restoreSigned value => exact unhashed_restoreSigned.hands
  | invalidate => exact (Silent.bind (silent_modify _) fun _ => unhashed_publish).hands

theorem arrives_of_run {es : List (Event Callbacks Begin Answer)}
    {q : Pool (State config) Callbacks Failure Reply}
    (hrun : (controller config).run (create config) es = some q) {hashed : HashedCall}
    {next : Except Failure String → Script config Unit}
    (hawaits : q.threads t = some ⟨.hashResponse hashed, next⟩) :
    ∃ request recoveringSign caller, Served config t hashed.call caller ∧
      next = fun answer => (arrived config t hashed request recoveringSign answer).sequel caller := by
  have hhands : Arrives config t (.hashResponse hashed) next :=
    System.run_hands (fun t op => hands_program (t := t) op) (fun u k hk => by cases hk) hrun hawaits rfl
  cases hhands with
  | hash _ request recoveringSign caller served => exact ⟨request, recoveringSign, caller, served, rfl⟩

end

end FormspecWeb.Controller
