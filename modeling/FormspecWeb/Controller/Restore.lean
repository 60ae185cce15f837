import FormspecWeb.Controller.Invoke

/-!
# Restoration, refresh and invalidation

The remaining operations of the controller. `restoreSavedDraft` and
`refreshApplication` take the busy flag; `restorePending` and `restoreSigned`
only test it.
-/

namespace FormspecWeb.Controller

open Shared Ports Engine Async

variable (config : ResponseActionControllerConfig)

namespace State

variable {config}

/-- `busy` is taken by an operation that is no delivery. -/
def hold (t : Nat) (operation : Operation) (s : State config) : State config :=
  { s with busy := operation.busyKey, log := .opened t operation :: s.log }

/-- `finally { busy = undefined; }`. -/
def unhold (t : Nat) (operation : Operation) (s : State config) : State config :=
  { s with busy := none, log := .closed t operation :: s.log }

/-- `saved = result; actor = result.actor.id; owned = true`. -/
def storeRestored (t : Nat) (result : SavedResponseDraft) (s : State config) : State config :=
  { s with
    saved := some result
    actor := some result.actor
    owned := true
    log := .stored t ⟨some result, s.prepared, s.signed⟩ :: s.log }

/-- `prepared = preparation; saved = prepared; actor = prepared.actor.id;
pendingOperationId = operationId`. -/
def storeRestoredPreparation (t : Nat) (preparation : PreparedResponseSigning)
    (operationId : String) (s : State config) : State config :=
  { s with
    prepared := some preparation
    saved := some preparation.toSavedResponseDraft
    actor := some preparation.actor
    pendingOperationId := some operationId
    log := .stored t ⟨some preparation.toSavedResponseDraft, some preparation, s.signed⟩ :: s.log }

/-- `signed = result; saved = signed; actor = signed.actor.id`. -/
def storeRestoredSignature (t : Nat) (signature : SignedResponseSigning) (s : State config) :
    State config :=
  { s with
    signed := some signature
    saved := some signature.toSavedResponseDraft
    actor := some signature.actor
    log := .stored t ⟨some signature.toSavedResponseDraft, s.prepared, some signature⟩ :: s.log }

/-- `signed = result; saved = result; actor = result.actor.id; owned = true`. -/
def storeRestoredSigned (t : Nat) (signature : SignedResponseSigning) (s : State config) :
    State config :=
  { s.storeRestoredSignature t signature with owned := true }

/-- `application = receipt; applicationLookup = undefined`. -/
def storeLoaded (receipt : Option ApplicationCaseReceipt) (s : State config) : State config :=
  { s with application := receipt, applicationLookup := none }

end State

/-- `restoreSavedDraft` may begin. -/
def admitsSavedDraft {config : ResponseActionControllerConfig} (s : State config) : Bool :=
  (config.restoredResponse.any fun restored => !restored.isSigned && restored.signingContent.isNone)
    && s.prepared.isNone && s.signed.isNone && s.saved.isNone && !s.isBusy
    && s.pendingOperationId.isNone && s.completionResult.isNone

def restoreSavedDraft (t : Nat) (value : SavedResponseDraft) : Script config Unit := do
  let s ← Prog.get
  let generation := s.epoch
  current config generation
  Prog.check (refuseIf (!admitsSavedDraft s) .restorationUnresolved)
  Prog.modify (State.hold t .restoreSavedDraft)
  Prog.ensuring (do
      Prog.check (refuseIf (value.response.id != some config.context.responseId
        || value.response.definitionUrl != config.context.definition.url
        || value.response.definitionVersion != config.context.definition.version
        || !config.context.draftKey.admitsSubject value.actor) .contextMismatch)
      checkEvidence config t .restoreSavedDraft value config.restoredResponse
      current config generation
      Prog.modify (State.storeRestored t value)
      publish config .saved none
      afterCommit config
      current config generation)
    (State.unhold t .restoreSavedDraft)

/-- `restorePending` may begin with a pending signing. -/
def admitsPending {config : ResponseActionControllerConfig} (s : State config)
    (value : PendingResponseSigning) : Bool :=
  !(config.completion.any fun completion => completion.kind == .task)
    && s.prepared.isNone && s.signed.isNone && s.saved.isNone && !s.isBusy
    && s.completionResult.isNone && config.restoresPending
    && config.restoredResponse == some value.response

/-- Commit what `signing.restorePending` found. -/
def storePending (t : Nat) (value : PendingResponseSigning) (wording : Wording) :
    RestoredPendingResponseSigning → Script config Unit
  | .signed signature => do
      Prog.check (refuseIf (signature.response.withoutSignatures != value.response.withoutSignatures)
        .contextMismatch)
      Prog.check (assertRestoredSignedResponseEvidence config signature wording)
      Prog.modify (State.storeRestoredSignature t signature)
      publish config .signed none
      afterCommit config
  | .prepared preparation operationId => do
      Prog.check (refuseIf (preparation.response != value.response.withoutSigningContent
        || !isUuidV7IdempotencyKey operationId) .contextMismatch)
      Prog.modify (State.storeRestoredPreparation t preparation operationId)
      publish config .prepared none

def restorePending (t : Nat) (value : PendingResponseSigning) : Script config Unit := do
  let s ← Prog.get
  let generation := s.epoch
  current config generation
  Prog.check (refuseIf (!admitsPending s value) .restorationUnresolved)
  note config (.opened t .restorePending)
  Prog.ensuring (do
      checkEvidence config t .restorePending value.toSavedResponseDraft config.restoredResponse
      current config generation
      let admission ← Prog.check (orRefuse .actionUnadmitted (config.roles .sign))
      Prog.check (refuseIf (!(admission.requestRef.any truthy)) .actionUnadmitted)
      let callbacks ← Prog.ask
      let wording ← Prog.check callbacks.signingContext
      let result ← port config (Prog.awaiting Await.restorePending)
      current config generation
      let selected := result.selected
      checkEvidence config t .restoredPending selected.toSavedResponseDraft (some selected.response)
      current config generation
      Prog.check (refuseIf (selected.content != value.content) .contextMismatch)
      storePending config t value wording result)
    (State.note (.closed t .restorePending))

/-- `restoreSigned` may begin. -/
def admitsSigned {config : ResponseActionControllerConfig} (s : State config) : Bool :=
  config.restoredResponse.any FormResponse.isSigned
    && s.prepared.isNone && s.signed.isNone && s.saved.isNone && !s.isBusy
    && s.completionResult.isNone

def restoreSigned (t : Nat) (value : SignedResponseSigning) : Script config Unit := do
  let s ← Prog.get
  let generation := s.epoch
  current config generation
  Prog.check (refuseIf (!admitsSigned s) .restorationUnresolved)
  note config (.opened t .restoreSigned)
  Prog.ensuring (do
      checkEvidence config t .restoreSigned value.toSavedResponseDraft config.restoredResponse
      current config generation
      let callbacks ← Prog.ask
      let wording ← Prog.check callbacks.signingContext
      Prog.check (assertRestoredSignedResponseEvidence config value wording)
      Prog.check (refuseIf ((config.completion.any fun completion => completion.kind == .task)
        && !isSignedTaskDraft value.evidence.taskDraft value.draft) .contextMismatch)
      Prog.modify (State.storeRestoredSigned t value)
      publish config .signed none
      afterCommit config)
    (State.note (.closed t .restoreSigned))

variable {config} in
def continuesApplication (s : State config) (receipt : Option ApplicationCaseReceipt) : Bool :=
  match s.application, receipt with
  | none, _ => true
  | some _, none => false
  | some application, some receipt =>
    receipt.caseLedgerId == application.caseLedgerId && receipt.draftRef == application.draftRef
      && !(application.status == "submitted" && receipt.status != "submitted")

def refreshApplication (t : Nat) : Script config Unit := do
  let s ← Prog.get
  let generation := s.epoch
  current config generation
  Prog.check (refuseIf ((s.application.isNone && s.applicationLookup.isNone)
    || config.applicationLifecycle.isNone || s.isBusy) .branchMismatch)
  Prog.modify (State.hold t .refreshApplication)
  Prog.ensuring (do
      let receipt ← port config (Prog.awaiting Await.loadApplication)
      current config generation
      let s ← Prog.get
      Prog.check (refuseIf (!continuesApplication s receipt) .contextMismatch)
      Prog.modify (State.storeLoaded receipt)
      publish config s.snapshot.phase s.snapshot.reason)
    (State.unhold t .refreshApplication)

def retireSignRetry : Script config Unit := do
  Prog.modify State.retireSignRetry
  let s ← Prog.get
  publish config s.snapshot.phase s.snapshot.reason

/-- `retrySign`: a running retry is shared, an available one is redelivered. -/
def retrySign (t : Nat) : Script config Unit := do
  let s ← Prog.get
  if s.retryingSign.isSome then return ()
  else do
    current config s.epoch
    let retry ← Prog.check (orRefuse .branchMismatch s.retryableSign)
    Prog.check (refuseIf (s.isBusy || !config.reconcileSignRetries) .branchMismatch)
    Prog.modify (State.beginRetry t)
    widgetExecutor config t retry.request
    Prog.awaiting Await.tick
    Prog.modify (State.endRetry t)

def invalidate : Script config Unit := do
  Prog.modify State.invalidate
  publish config .refused (some .contextObsolete)

inductive Begin where
  | definition (request : DefinitionRequest)
  | widget (request : WidgetRequest)
  | retireSignRetry
  | retrySign
  | refreshApplication
  | restoreSavedDraft (value : SavedResponseDraft)
  | restorePending (value : PendingResponseSigning)
  | restoreSigned (value : SignedResponseSigning)
  | invalidate

def program (t : Nat) : Begin → Script config Unit
  | .definition request => invokeDefinitionAction config t request
  | .widget request => widgetExecutor config t request
  | .retireSignRetry => retireSignRetry config
  | .retrySign => retrySign config t
  | .refreshApplication => refreshApplication config t
  | .restoreSavedDraft value => restoreSavedDraft config t value
  | .restorePending value => restorePending config t value
  | .restoreSigned value => restoreSigned config t value
  | .invalidate => invalidate config

/-- `createResponseActionController(config)`. -/
def controller : System (State config) Callbacks Failure Begin Answer Reply where
  program := program config
  accept := accept config

def create : Pool (State config) Callbacks Failure Reply := Pool.initial (State.initial config)

end FormspecWeb.Controller
