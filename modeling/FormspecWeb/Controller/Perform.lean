import FormspecWeb.Controller.Script

/-!
# The effect of an admitted action

`perform` as the controller runs it for a definition invocation or a widget
delivery: the checks before the Response is hashed, the admission of the
delivery, and the operation of its role. A call runs the operation at most once
at a time for each delivery id; later deliveries join its promise.
-/

namespace FormspecWeb.Controller

open Shared Ports Engine Async

variable (config : ResponseActionControllerConfig)

def checkBranch (s : State config) (role : ResponseActionRole) : Except Failure Unit := do
  refuseIf (s.applicationLookup.isSome && (role == .startApplication || role == .submit))
    .branchMismatch
  refuseIf (role == .startApplication
    && (!(config.applicationLifecycle.any fun capabilities => capabilities.earlyCaseCreation
        && capabilities.formVersionId == config.context.formVersionId)
      || s.signed.isSome)) .branchMismatch
  refuseIf (config.restoredResponse.any FormResponse.isSigned && s.signed.isNone)
    .restorationUnresolved

def ResponseActionRole.isUnsignedCheckpoint : ResponseActionRole → Bool
  | .saveInitial | .saveOwned | .startApplication => true
  | _ => false

def wordingFor (role : ResponseActionRole) (callbacks : Callbacks) :
    Except Failure (Option Wording) :=
  if role.isUnsignedCheckpoint then .ok none else callbacks.signingContext.map some

variable {config} in
def subjectFor (s : State config) : ResponseActionRole → Subject
  | .sign => s.prepared.elim .absent .prepared
  | .submit => s.signed.elim .absent .signed
  | _ => s.saved.elim .absent .saved

variable {config} in
/-- The retained Sign request of a delivery is the one this call carries. -/
def recovers (s : State config) (call : Call) : Bool :=
  call.role == .sign && config.reconcileSignRetries && call.signRetry.isSome
    && (s.deliveries call.deliveryId).bind (·.signRetry) == call.signRetry

def assent (t : Nat) (call : Call) (subject : Subject) (wording : Option Wording)
    (recoveringSign : Bool) : Script config Unit :=
  match call.role, wording with
  | .sign, some wording | .submit, some wording => do
      let callbacks ← Prog.ask
      let assent ← Prog.check (checkSubject call.role subject call.input call.response wording
        recoveringSign callbacks.reviewReady)
      note config (.assented t assent)
  | _, _ => pure ()

/-! ## The operations -/

variable {config} in
def checkPlan (s : State config) (hashed : HashedCall) (request : Option RuntimeRequest) :
    Except Failure Unit :=
  let call := hashed.call
  match request with
  | none => .ok ()
  | some request =>
    if call.role != .submit && call.role != .startApplication
        && (call.role != .saveOwned || s.saved.isSome) then do
      let planned ← orThrow (config.planServiceRequest request
        { input := call.input, formId := config.context.formId
          draftId := hashed.subject.draft.map (·.id)
          draftVersion := hashed.subject.draft.map (·.version)
          frozenResponse := call.response })
      let id := (hashed.subject.draft.map (·.id)).getD ""
      refuseIf (call.role == .sign
        && (planned.method != "POST" || planned.path != "/drafts/" ++ encodeURIComponent id ++ "/sign"))
        .actionUnadmitted
    else .ok ()

namespace State

variable {config}

/-- `saved = result; actor = result.actor.id; owned = true; prepared = undefined`. -/
def storeSaved (t : Nat) (result : SavedResponseDraft) (s : State config) : State config :=
  { s with
    saved := some result
    actor := some result.actor
    owned := true
    prepared := none
    log := .stored t ⟨some result, none, s.signed⟩ :: s.log }

/-- `prepared = preparation; saved = preparation; actor = preparation.actor.id`. -/
def storePrepared (t : Nat) (preparation : PreparedResponseSigning) (s : State config) :
    State config :=
  { s with
    prepared := some preparation
    saved := some preparation.toSavedResponseDraft
    actor := some preparation.actor
    log := .stored t ⟨some preparation.toSavedResponseDraft, some preparation, s.signed⟩ :: s.log }

/-- `retryableSign = undefined; pendingOperationId = undefined; signed = signature;
saved = signature`. -/
def storeSigned (t : Nat) (signature : SignedResponseSigning) (s : State config) : State config :=
  { s with
    retryableSign := none
    pendingOperationId := none
    signed := some signature
    saved := some signature.toSavedResponseDraft
    log := .stored t ⟨some signature.toSavedResponseDraft, s.prepared, some signature⟩ :: s.log }

/-- The checkpoint of an early start: `saved = await saveDraft(...)`. -/
def storeUnchecked (t : Nat) (result : SavedResponseDraft) (s : State config) : State config :=
  { s with saved := some result, log := .unchecked t result :: s.log }

/-- `actor = saved.actor.id; owned = true`. -/
def own (actor : String) (s : State config) : State config :=
  { s with actor := some actor, owned := true }

def storeApplication (receipt : ApplicationCaseReceipt) (s : State config) : State config :=
  { s with application := some receipt }

/-- `completionResult = result; confirmedDelivery = deliveryId`. -/
def accept (t : Nat) (deliveryId : String) (result : ResponseCompletionResult) (s : State config) :
    State config :=
  { s with
    completionResult := some result
    confirmedDelivery := some deliveryId
    log := .accepted t deliveryId result :: s.log }

def settle (promise : Nat) (outcome : Except Failure Outputs) (s : State config) : State config :=
  { s with
    promises := Function.update s.promises promise
      ((s.promises promise).map fun p => { p with outcome := some outcome }) }

/-- `operation.pending = undefined; if (busy === deliveryId) busy = undefined`. -/
def release (t : Nat) (role : ResponseActionRole) (deliveryId : String) (s : State config) : State config :=
  let freed := s.updateDelivery deliveryId fun delivery => { delivery with pending := none }
  { freed with
    busy := if s.busy = some deliveryId then none else s.busy
    log := .closed t (.action role deliveryId) :: s.log }

end State

/-- The outputs of a Save, Prepare or Sign, kept on the delivery before the
downstream checks run. -/
def finish (call : Call) (request : Option RuntimeRequest) (result : SavedResponseDraft) :
    Script config Outputs := do
  let request ← Prog.check (orThrow request)
  let outputs ← Prog.check (orThrow (extractServiceRequestOutputs request result.evidence.members))
  Prog.modify (State.updateDelivery call.deliveryId fun delivery =>
    { delivery with
      retired := delivery.retired || call.role.isSave || call.role == .prepare
      completed := some outputs })
  afterCommit config
  return outputs

def save (t : Nat) (call : Call) (request : Option RuntimeRequest) (operationId : String) :
    Script config Outputs := do
  note config (.called t (.saveDraft call.response operationId call.admission))
  let result ← port config (Prog.awaiting (Await.saveDraft .save))
  current config call.generation
  checkEvidence config t .save result (some call.response)
  current config call.generation
  Prog.modify (State.storeSaved t result)
  publish config .saved none
  finish config call request result

def prepare (t : Nat) (call : Call) (request : Option RuntimeRequest) (wording : Wording) :
    Script config Outputs := do
  note config (.called t (.prepare call.response wording call.admission))
  let preparation ← port config (Prog.awaiting Await.prepare)
  current config call.generation
  checkEvidence config t .prepare preparation.toSavedResponseDraft (some call.response)
  current config call.generation
  Prog.check (refuseIf (preparation.content.source != wording.source
    || preparation.content.locale != wording.locale) .contextMismatch)
  Prog.modify (State.storePrepared t preparation)
  publish config .prepared none
  finish config call request preparation.toSavedResponseDraft

/-- The signature carries delegated evidence over the content of the preparation. -/
def checkSignature (prepared : Option PreparedResponseSigning) (signature : SignedResponseSigning) :
    Except Failure Unit := do
  let prepared ← orThrow prepared
  refuseIf (signature.content != prepared.content || !signature.response.isSigned
    || signature.verification.mode != "delegated-service-key"
    || !truthy signature.verification.provider || !truthy signature.verification.keyId)
    .contextMismatch

/-- The review `perform` repeats right before its effect; a missing subject is a
type error there. -/
def reviewAgain (subject : Option PreparedResponseSigning) (wording : Wording) :
    Script config Unit := do
  let callbacks ← Prog.ask
  let subject ← Prog.check (orThrow subject)
  Prog.check (review subject wording callbacks.reviewReady)

/-- `if (config.reconcileSignRetries && signRetry) operation.signRetry = signRetry`. -/
def retainSignRetry (call : Call) : Script config Unit :=
  if config.reconcileSignRetries && call.signRetry.isSome then
    Prog.modify (State.updateDelivery call.deliveryId fun delivery =>
      { delivery with signRetry := call.signRetry })
  else pure ()

def reviewUnlessRecovering (recoveringSign : Bool) (prepared : Option PreparedResponseSigning)
    (wording : Wording) : Script config Unit :=
  if recoveringSign then pure () else reviewAgain config prepared wording

def sign (t : Nat) (call : Call) (request : Option RuntimeRequest) (operationId : String)
    (wording : Wording) (recoveringSign : Bool) : Script config Outputs := do
  let s ← Prog.get
  reviewUnlessRecovering config recoveringSign s.prepared wording
  retainSignRetry config call
  note config (.called t (.sign s.prepared operationId call.admission))
  let signature ← port config (Prog.awaiting Await.sign)
  current config call.generation
  checkEvidence config t .sign signature.toSavedResponseDraft none
  current config call.generation
  let s ← Prog.get
  Prog.check (checkSignature s.prepared signature)
  Prog.modify (State.storeSigned t signature)
  publish config .signed none
  finish config call request signature.toSavedResponseDraft

variable {config} in
/-- `operation.completionPreparation`. -/
def retainedPreparation (s : State config) (deliveryId : String) :
    Option PreparedResponseCompletion :=
  (s.deliveries deliveryId).bind (·.completionPreparation)

def captureCompletion (call : Call) (completion : ResponseCompletion) : Script config Unit := do
  let submitOptions ← port config (Prog.awaiting Await.captureSubmitOptions)
  current config call.generation
  Prog.check (refuseIf (completion.kind == .task
    && (submitOptions.bind (·.nativeCurrentCheck)).isSome) .branchMismatch)
  let preparation ← port config (Prog.awaiting Await.capture)
  Prog.modify (State.updateDelivery call.deliveryId fun delivery =>
    { delivery with completionPreparation := some preparation })

def ensureCaptured (call : Call) (completion : ResponseCompletion) : Script config Unit := do
  let s ← Prog.get
  if (retainedPreparation s call.deliveryId).isSome then pure ()
  else captureCompletion config call completion

/-- The rejection of `completion.complete` with `TaskCompletionOutcomeUnknown`. -/
def noteOutcome (t : Nat) (answer : Except Failure ResponseCompletionResult) : Script config Unit :=
  match answer with
  | .error .outcomeUnknown => note config (.outcomeUnknown t)
  | _ => pure ()

def complete (t : Nat) (call : Call) (request : Option RuntimeRequest) (operationId : String)
    (wording : Wording) (completion : ResponseCompletion) : Script config Outputs := do
  current config call.generation
  let s ← Prog.get
  reviewAgain config (s.signed.map (·.toPreparedResponseSigning)) wording
  note config (.called t (.complete call.deliveryId (retainedPreparation s call.deliveryId)
    operationId))
  let answer ← Prog.awaiting Await.complete
  noteOutcome config t answer
  let result ← Prog.check answer
  current config call.generation
  Prog.check (refuseIf (result.kind != completion.kind) .contextMismatch)
  Prog.modify (State.accept t call.deliveryId result)
  publish config .submitted none
  let request ← Prog.check (orThrow request)
  let outputs ← Prog.check (orThrow (extractServiceRequestOutputs request result.evidence))
  Prog.modify (State.updateDelivery call.deliveryId fun delivery =>
    { delivery with completed := some outputs })
  return outputs

def submit (t : Nat) (call : Call) (request : Option RuntimeRequest) (operationId : String)
    (wording : Wording) : Script config Outputs := do
  let completion ← Prog.check (orThrow config.completion)
  ensureCaptured config call completion
  complete config t call request operationId wording completion

def checkpoint (t : Nat) (call : Call) (operationId : String) : Script config Unit := do
  let checkpoint ← Prog.check (orRefuse .actionUnadmitted (config.roles .saveInitial))
  let tuple ← Prog.check (tupleFor checkpoint)
  Prog.check (refuseIf (tuple != ⟨"off", "non-blocking", "draft-checkpoint"⟩) .actionUnadmitted)
  let _ ← Prog.check (requestFor config .saveInitial checkpoint)
  note config (.called t (.saveDraft call.response operationId checkpoint))
  let result ← port config (Prog.awaiting (Await.saveDraft .checkpoint))
  Prog.modify (State.storeUnchecked t result)
  current config call.generation
  checkEvidence config t .checkpoint result (some call.response)
  current config call.generation
  let s ← Prog.get
  let saved ← Prog.check (orThrow s.saved)
  Prog.modify (State.own saved.actor)
  publish config (.role .startApplication) none
  afterCommit config

variable {config} in
def checkApplication (s : State config) (receipt : ApplicationCaseReceipt) :
    Except Failure Unit := do
  refuseIf (s.application.any fun application =>
    application.caseLedgerId != receipt.caseLedgerId || application.draftRef != receipt.draftRef)
    .contextMismatch
  refuseIf (s.saved.any fun saved => receipt.draftRef != "urn:formspec:draft:" ++ saved.draft.id)
    .contextMismatch

/-- `if (!owned) { ... }`. -/
def ensureOwned (t : Nat) (call : Call) (operationId : String) : Script config Unit := do
  let s ← Prog.get
  if s.owned then pure () else checkpoint config t call operationId

def startApplication (t : Nat) (call : Call) (request : Option RuntimeRequest)
    (operationId : String) : Script config Outputs := do
  ensureOwned config t call operationId
  current config call.generation
  note config (.called t (.start config.context.draftKey operationId))
  let receipt ← port config (Prog.awaiting Await.start)
  current config call.generation
  let s ← Prog.get
  Prog.check (checkApplication s receipt)
  Prog.modify (State.storeApplication receipt)
  publish config .saved none
  let request ← Prog.check (orThrow request)
  Prog.check (orThrow (extractServiceRequestOutputs request receipt.members))

def operate (t : Nat) (hashed : HashedCall) (request : Option RuntimeRequest)
    (operationId : String) (recoveringSign : Bool) : Script config Outputs := do
  let call := hashed.call
  let s ← Prog.get
  Prog.check (checkPlan s hashed request)
  current config call.generation
  match call.role with
  | .paper => do
      publish config (.role .paper) none
      return []
  | .startApplication => startApplication config t call request operationId
  | .saveInitial | .saveOwned => save config t call request operationId
  | .prepare => do
      let wording ← Prog.check (orThrow hashed.wording)
      prepare config t call request wording
  | .sign => do
      let wording ← Prog.check (orThrow hashed.wording)
      sign config t call request operationId wording recoveringSign
  | .submit => do
      let wording ← Prog.check (orThrow hashed.wording)
      submit config t call request operationId wording

/-- Settle the promise of an operation, wait for it, and release the controller. -/
def settling (t : Nat) (role : ResponseActionRole) (deliveryId : String) (promise : Nat) (body : Script config Outputs) :
    Script config Outputs :=
  Prog.ensuring (do
      let outcome ← Prog.outcome body
      Prog.modify (State.settle promise outcome)
      Prog.awaiting Await.tick
      Prog.check outcome)
    (State.release t role deliveryId)

/-- `perform` from the arrival of the hash on. -/
def performHashed (t : Nat) (hashed : HashedCall) (request : Option RuntimeRequest)
    (recoveringSign : Bool) (responseHash : String) : Script config Outputs := do
  let identity := hashed.identity responseHash
  let s ← Prog.get
  let admission ← Prog.check (decideAdmission s hashed.call identity)
  match admission with
  | .join promise => port config (Prog.awaiting (Await.joined promise))
  | .replay outputs => return outputs
  | .admitted => do
      let callbacks ← Prog.ask
      let operationId := (admittedDelivery s hashed identity callbacks.generatedKey).operationId
      Prog.modify fun s => s.admitCall t hashed identity callbacks.generatedKey
      publish config (.role hashed.call.role) none
      settling config t hashed.call.role hashed.call.deliveryId s.nextObject
        (operate config t hashed request operationId recoveringSign)

def perform (t : Nat) (call : Call) : Script config Outputs := do
  let s ← Prog.get
  Prog.check (refuseIf (s.pendingOperationId.isSome && call.role != .sign) .operationConflict)
  let request ← Prog.check (requestFor config call.role call.admission)
  let recoveringSign := recovers s call
  validateResponse config call.response
  current config call.generation
  let s ← Prog.get
  Prog.check (checkBranch config s call.role)
  let callbacks ← Prog.ask
  let wording ← Prog.check (wordingFor call.role callbacks)
  let subject := subjectFor s call.role
  assent config t call subject wording recoveringSign
  let baseline := match s.deliveries call.deliveryId with
    | some delivery => delivery.baselineDraft
    | none => subject.draft
  let hashed : HashedCall := ⟨call, subject, wording, baseline⟩
  let answer ← Prog.awaiting (Await.hashResponse hashed)
  note config (.hashed t)
  let responseHash ← Prog.check answer
  performHashed config t hashed request recoveringSign responseHash

end FormspecWeb.Controller
