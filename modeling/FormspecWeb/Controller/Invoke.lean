import FormspecWeb.Controller.Perform

/-!
# Definition invocations and widget deliveries

The two entry points that run an action through the engine, and the engine's
effect loop as far as a single effect drives it: a failed effect defers, runs
once more under `retry-once`, or fails the invocation.
-/

namespace FormspecWeb.Controller

open Shared Ports Engine Async

variable (config : ResponseActionControllerConfig)

inductive EffectOutcome where
  | succeeded (transitionBindings : Outputs)
  | failed (reason : Option ResponseActionControllerReason)

/-- `dispatchEffect`: run the effect, reporting a thrown value. -/
def dispatchEffect (t : Nat) (call : Call) : Script config EffectOutcome :=
  MonadExcept.tryCatch (do
      let transitionBindings ← perform config t call
      return .succeeded transitionBindings)
    fun failure => do
      Prog.awaiting Await.tick
      let reason ← fail config failure call.generation
      return .failed (some reason)

/-- `dispatchHostEvent`; the engine swallows what it throws. -/
def dispatchHostEvent (generation : Nat) : Script config EffectOutcome :=
  MonadExcept.tryCatch (do
      current config generation
      publish config (.role .paper) none
      return .succeeded [])
    fun _ => pure (.failed none)

/-- One attempt of the single effect. A durable effect needs a non-empty
idempotency key, and a host event is dispatched synchronously. -/
def attempt (t : Nat) (effect : Effect) (call : Call) (carried : Script config (Option SignRetry)) :
    Script config EffectOutcome :=
  match effect with
  | .hostEvent _ _ => dispatchHostEvent config call.generation
  | _ =>
    if truthy call.deliveryId then do
      let signRetry ← carried
      dispatchEffect config t { call with signRetry := signRetry }
    else pure (.failed none)

def resultOf (invocationId : String) : EffectOutcome → InvocationResult
  | .succeeded transitionBindings => ⟨.completed, invocationId, transitionBindings, none⟩
  | .failed reason => ⟨.failed, invocationId, [], reason⟩

/-- `invokeResponseActionAsync` from its effects on, for a single effect. Each attempt has a
Sign request of its own where none was retained. -/
def runEffect (t : Nat) (action : ResponseAction) (effect : Effect) (call : Call)
    (carried : Script config (Option SignRetry)) : Script config InvocationResult := do
  let first ← attempt config t effect call carried
  Prog.awaiting Await.tick
  match first with
  | .succeeded _ => return resultOf call.deliveryId first
  | .failed reason =>
    if effect.defersOnError then return ⟨.deferred, call.deliveryId, [], reason⟩
    else if action.onFailure == some "retry-once" then do
      let second ← attempt config t effect call carried
      Prog.awaiting Await.tick
      return resultOf call.deliveryId second
    else return resultOf call.deliveryId first

inductive EngineGate where
  | dispatch (response : FormResponse)
  | stopped (status : InvocationStatus)
  | threw

structure DefinitionRequest where
  document : ResponseActionsDocument
  actionRef : String
  /-- `{ nodeId }`. -/
  source : Json
  invocationId : Option String
  /-- What the engine makes of the React ports of this invocation. -/
  gate : EngineGate

def definitionRoles : List ResponseActionRole :=
  [.startApplication, .saveInitial, .saveOwned, .prepare, .paper]

def invokeGated (t : Nat) (role : ResponseActionRole) (admission : QualifiedResponseActionRole)
    (request : DefinitionRequest) (deliveryId : String) (generation : Nat) :
    Script config InvocationResult := do
  let action ← Prog.check (orThrow (resolveResponseAction admission.document request.actionRef))
  let effect ← Prog.check (singleEffect action)
  match request.gate with
  | .threw => throw .other
  | .stopped status => do
      Prog.awaiting Await.tick
      return ⟨status, deliveryId, [], none⟩
  | .dispatch response =>
    runEffect config t action effect
      { role := role, admission := admission, response := response, input := [],
        deliveryId := deliveryId, source := request.source, generation := generation,
        signRetry := none } (pure none)

/-- The result `failure` builds for a thrown value. -/
def failureResult (invocationId : String) (reason : ResponseActionControllerReason) :
    InvocationResult :=
  ⟨.failed, invocationId, [], some reason⟩

def invokeDefinitionAction (t : Nat) (request : DefinitionRequest) : Script config Unit := do
  let begun ← Prog.get
  let callbacks ← Prog.ask
  let generation := begun.epoch
  let deliveryId := request.invocationId.getD callbacks.generatedKey
  MonadExcept.tryCatch (do
      current config generation
      let s ← Prog.get
      Prog.check (refuseIf s.completionResult.isSome .operationConflict)
      let (role, admission) ← Prog.check (roleFor config request.document request.actionRef)
      Prog.check (refuseIf (role == .submit && s.completionOutcomeUnknown)
        .completionOutcomeUnknown)
      Prog.check (refuseIf (!definitionRoles.contains role) .actionUnadmitted)
      let _ ← Prog.check (requestFor config role admission)
      let result ← invokeGated config t role admission request deliveryId generation
      note config (.returned t (some role) result))
    fun failure => do
      let reason ← fail config failure generation
      note config (.returned t none (failureResult deliveryId reason))

/-! ## Widget deliveries -/

variable {config} in
/-- A redelivery after the completion: the retained result, a refusal, or none
where the result was not retained. -/
def replayedSubmit (s : State config) (request : WidgetRequest) :
    Except Failure (Option InvocationResult) :=
  if s.completionResult.isSome then do
    refuseIf (some request.invocationId != s.confirmedDelivery) .operationConflict
    match s.completedSubmit with
    | some (identity, result) => do
        refuseIf (request.identity != identity) .operationConflict
        return some result
    | none => return none
  else return none

def admittedResponse (role : ResponseActionRole) (admission : QualifiedResponseActionRole)
    (request : WidgetRequest) : Except Failure FormResponse := do
  refuseIf (!([.sign, .submit, .paper].contains role)
    || admission.widgetSource != some request.source) .contextMismatch
  let context ← orRefuse .contextMismatch request.responseContext
  let source ← orRefuse .contextMismatch admission.responseSource
  refuseIf (context.inputName != source.inputName || context.catalogRef != source.catalogRef
    || context.sourceRef != source.sourceRef
    || context.definition != config.context.definition) .contextMismatch
  return context.response

variable {config} in
def shownResponse (s : State config) : ResponseActionRole → Option FormResponse
  | .sign => s.prepared.map (·.response)
  | _ => s.signed.map (·.response)

def checkValidated (validated : ValidatedResponse) (response : FormResponse)
    (tuple : ValidationTuple) : Except Failure Unit :=
  refuseIf (validated.response != response || validated.validationTuple != tuple
    || !(validated.validationReport.any fun report =>
      report.definitionUrl == response.definitionUrl
        && report.definitionVersion == response.definitionVersion)) .contextMismatch

/-- The engine's decision before the effects of a widget action: no precondition
can be evaluated, and the frozen validation is its evidence. -/
def widgetGate (action : ResponseAction) (tuple : ValidationTuple)
    (validated : ValidatedResponse) : EngineGate :=
  let valid := validated.validationReport.bind (·.valid)
  if !action.preconditions.isEmpty then .stopped .failed
  else if tuple.profile != "off" && valid.isNone then .stopped .failed
  else if tuple.blocking == "block-on-error" && valid == some false then .stopped .blocked
  else .dispatch validated.response

theorem widgetGate_stopped {action : ResponseAction} {tuple : ValidationTuple}
    {validated : ValidatedResponse} {status : InvocationStatus}
    (h : widgetGate action tuple validated = .stopped status) : status ≠ .completed := by
  simp only [widgetGate] at h
  grind

def frozenValidation (retained : Option SignRetry) : Script config ValidatedResponse :=
  match retained with
  | some retry => pure retry.validated
  | none => port config (Prog.awaiting Await.validateFrozenResponse)

variable {config} in
def retainedRetry (s : State config) (role : ResponseActionRole) (invocationId : String) :
    Option SignRetry :=
  if role == .sign && config.reconcileSignRetries then
    (s.deliveries invocationId).bind (·.signRetry)
  else none

/-- The Sign request a delivery carries: the retained object, or a new one. -/
def carriedRetry (role : ResponseActionRole) (retained : Option SignRetry)
    (request : WidgetRequest) (validated : ValidatedResponse) : Script config (Option SignRetry) :=
  if role == .sign && config.reconcileSignRetries then
    match retained with
    | some retry => pure (some retry)
    | none => do
        let s ← Prog.get
        Prog.modify State.allocate
        return some ⟨s.nextObject, request, validated⟩
  else pure none

/-- `retryableSign = retry; if (retryableSign) publish(snapshot.phase, snapshot.reason)`. -/
def retainRetryable (retry : Option SignRetry) : Script config Unit := do
  Prog.modify (State.setRetryable retry)
  let s ← Prog.get
  if retry.isSome then publish config s.snapshot.phase s.snapshot.reason else pure ()

/-- After the engine returned: a failed Sign stays retryable, a completed Submit
is retained, and a blocked action is reported. -/
def settleInvocation (role : ResponseActionRole) (request : WidgetRequest) (generation : Nat)
    (result : InvocationResult) : Script config Unit := do
  let s ← Prog.get
  if role == .sign && result.status == .failed && s.isCurrent generation then
    retainRetryable config (((s.deliveries request.invocationId).bind (·.signRetry)).or s.retryableSign)
  else if role == .submit && result.status == .completed && s.completionResult.isSome then
    current config generation
    Prog.modify (State.keepCompleted request.identity result)
  else if result.status == .blocked && s.isCurrent generation && s.completionResult.isNone then
    publish config .refused (some .responseInvalid)
  else pure ()

def invokeWidgetGated (t : Nat) (role : ResponseActionRole)
    (admission : QualifiedResponseActionRole) (request : WidgetRequest) (response : FormResponse)
    (tuple : ValidationTuple) (retained : Option SignRetry) (validated : ValidatedResponse)
    (generation : Nat) : Script config InvocationResult := do
  let action ← Prog.check (orThrow (resolveResponseAction admission.document request.actionRef))
  let effect ← Prog.check (singleEffect action)
  match widgetGate action tuple validated with
  | .threw => throw .other
  | .stopped status => do
      Prog.awaiting Await.tick
      return ⟨status, request.invocationId, [], none⟩
  | .dispatch _ =>
    runEffect config t action effect
      { role := role, admission := admission, response := response, input := request.input,
        deliveryId := request.invocationId, source := request.source, generation := generation,
        signRetry := none }
      (carriedRetry config role retained request validated)

def deliverWidget (t : Nat) (request : WidgetRequest) (generation : Nat) : Script config Unit := do
  let s ← Prog.get
  let (role, admission) ← Prog.check (roleFor config request.document request.actionRef)
  Prog.check (refuseIf (role == .submit && s.completionOutcomeUnknown) .completionOutcomeUnknown)
  let response ← Prog.check (admittedResponse config role admission request)
  let _ ← Prog.check (requestFor config role admission)
  validateResponse config response
  current config generation
  let s ← Prog.get
  Prog.check (refuseIf (role != .paper && shownResponse s role != some response) .contextMismatch)
  let tuple ← Prog.check (tupleFor admission)
  let retained := retainedRetry s role request.invocationId
  Prog.check (refuseIf (retained.any fun retry => retry.identity != request.identity)
    .operationConflict)
  let validated ← frozenValidation config retained
  current config generation
  Prog.check (checkValidated validated response tuple)
  let result ← invokeWidgetGated config t role admission request response tuple retained validated
    generation
  settleInvocation config role request generation result
  note config (.returned t (some role) result)

def widgetExecutor (t : Nat) (request : WidgetRequest) : Script config Unit := do
  let begun ← Prog.get
  let generation := begun.epoch
  MonadExcept.tryCatch (do
      current config generation
      let s ← Prog.get
      let replayed ← Prog.check (replayedSubmit s request)
      match replayed with
      | some result => note config (.returned t (some .submit) result)
      | none => deliverWidget config t request generation)
    fun failure => do
      let reason ← fail config failure generation
      note config (.returned t none (failureResult request.invocationId reason))

end FormspecWeb.Controller
