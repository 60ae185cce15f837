import Mathlib.Logic.Function.Basic
import FormspecWeb.Controller.Config

/-!
# State of the response action controller

The closure variables of `createResponseActionController`, the snapshots it
publishes, and a log of what it does, newest entry first. The log is no variable
of the program: it records publications, port calls and the points at which an
operation opens, closes and passes its checks, so that properties of whole runs
are properties of one list.

Promises and retained Sign requests are objects compared by identity; the model
numbers them from `nextObject`.
-/

namespace FormspecWeb.Controller

open Shared Ports Engine

inductive Phase where
  | idle
  | role (role : ResponseActionRole)
  | saved
  | prepared
  | signed
  | submitted
  | refused
  | failed
  | outcomeUnknown
deriving DecidableEq

/-- A published `ResponseActionControllerSnapshot`. -/
structure Snapshot where
  phase : Phase
  owned : Bool
  pendingSign : Bool
  retrySignAvailable : Bool
  reason : Option ResponseActionControllerReason
  application : Option ApplicationCaseReceipt
  applicationLookup : Option ApplicationCaseLookupUnavailable
  saved : Option SavedResponseDraft
  prepared : Option PreparedResponseSigning
  signed : Option SignedResponseSigning
  completion : Option ResponseCompletionResult
  confirmation : Option Json
deriving DecidableEq

structure ResponseContext where
  inputName : String
  catalogRef : String
  sourceRef : String
  definition : FormDefinition
  response : FormResponse
deriving DecidableEq

structure WidgetRequest where
  document : ResponseActionsDocument
  actionRef : String
  source : Json
  responseContext : Option ResponseContext
  input : ActionInput
  invocationId : String
deriving DecidableEq

/-- The canonical identity of a widget delivery: all of its input but the invocation id. -/
structure WidgetIdentity where
  document : ResponseActionsDocument
  actionRef : String
  source : Json
  responseContext : Option ResponseContext
  input : ActionInput
deriving DecidableEq

def WidgetRequest.identity (request : WidgetRequest) : WidgetIdentity :=
  ⟨request.document, request.actionRef, request.source, request.responseContext, request.input⟩

structure ValidationReport where
  definitionUrl : String
  definitionVersion : String
  valid : Option Bool
deriving DecidableEq

/-- What `validateFrozenResponse` returns. -/
structure ValidatedResponse where
  response : FormResponse
  validationTuple : ValidationTuple
  validationReport : Option ValidationReport
deriving DecidableEq

/-- A retained Sign request; `ref` is the identity of the object. -/
structure SignRetry where
  ref : Nat
  request : WidgetRequest
  validated : ValidatedResponse
deriving DecidableEq

def SignRetry.identity (retry : SignRetry) : WidgetIdentity := retry.request.identity

/-- The canonical identity of a delivered operation. The controller's context is
a constant of the identity and is left out. -/
structure OperationIdentity where
  admission : QualifiedResponseActionRole
  role : ResponseActionRole
  source : Json
  generation : Nat
  responseHash : String
  draft : Option DraftReference
  input : ActionInput
  wording : Option Wording
deriving DecidableEq

structure Delivery where
  identity : OperationIdentity
  operationId : String
  pending : Option Nat
  completionPreparation : Option PreparedResponseCompletion
  baselineDraft : Option DraftReference
  signRetry : Option SignRetry
  retired : Bool
  completed : Option Outputs
deriving DecidableEq

structure Promise where
  role : ResponseActionRole
  deliveryId : String
  outcome : Option (Except Failure Outputs)

inductive InvocationStatus where
  | completed
  | failed
  | deferred
  | blocked
  | unresolved
deriving DecidableEq

/-- A `ResponseActionInvocationResult`. -/
structure InvocationResult where
  status : InvocationStatus
  invocationId : String
  transitionBindings : Outputs
  failureReason : Option ResponseActionControllerReason
deriving DecidableEq

inductive PortCall where
  | saveDraft (response : FormResponse) (operationId : String) (action : QualifiedResponseActionRole)
  | prepare (response : FormResponse) (wording : Wording) (action : QualifiedResponseActionRole)
  | sign (preparation : Option PreparedResponseSigning) (operationId : String)
      (action : QualifiedResponseActionRole)
  | start (draftKey : DraftKey) (operationId : String)
  | complete (deliveryId : String) (preparation : Option PreparedResponseCompletion)
      (operationId : String)

/-- What a call of the controller is between its admission and its completion. -/
inductive Operation where
  | action (role : ResponseActionRole) (deliveryId : String)
  | restoreSavedDraft
  | restorePending
  | restoreSigned
  | refreshApplication
deriving DecidableEq

/-- The value an operation holds `busy` with, for those that take it. -/
def Operation.busyKey : Operation → Option String
  | .action _ deliveryId => some deliveryId
  | .restoreSavedDraft => some "draft-restoration"
  | .refreshApplication => some "application-refresh"
  | .restorePending | .restoreSigned => none

structure Slots where
  saved : Option SavedResponseDraft
  prepared : Option PreparedResponseSigning
  signed : Option SignedResponseSigning
deriving DecidableEq

def Slots.empty : Slots := ⟨none, none, none⟩

variable (config : ResponseActionControllerConfig)

/-- One entry of the log; `t` numbers the call of the controller it belongs to. -/
inductive Entry where
  | published (snapshot : Snapshot)
  | called (t : Nat) (call : PortCall)
  | assented (t : Nat) (assent : Assent)
  | hashed (t : Nat)
  | opened (t : Nat) (operation : Operation)
  | closed (t : Nat) (operation : Operation)
  | passed (t : Nat) (evidence : PassedEvidence config)
  | failedEvidence (t : Nat)
  /-- A receipt that had passed was written; `slots` is what the slots hold now. -/
  | stored (t : Nat) (slots : Slots)
  /-- The `saved` slot was written with a receipt still to be checked. -/
  | unchecked (t : Nat) (draft : SavedResponseDraft)
  | outcomeUnknown (t : Nat)
  | accepted (t : Nat) (deliveryId : String) (result : ResponseCompletionResult)
  /-- An invocation returned; its role is known unless it failed outside its effect. -/
  | returned (t : Nat) (role : Option ResponseActionRole) (result : InvocationResult)
  /-- The controller was invalidated while it held this application. -/
  | invalidated (application : Option ApplicationCaseReceipt)

def Entry.thread {config : ResponseActionControllerConfig} : Entry config → Option Nat
  | .published _ | .invalidated _ => none
  | .called t _ | .assented t _ | .hashed t | .opened t _ | .closed t _ | .passed t _
  | .failedEvidence t | .stored t _ | .unchecked t _ | .outcomeUnknown t | .accepted t _ _
  | .returned t _ _ => some t

structure State where
  epoch : Nat
  invalidated : Bool
  owned : Bool
  actor : Option String
  application : Option ApplicationCaseReceipt
  applicationLookup : Option ApplicationCaseLookupUnavailable
  saved : Option SavedResponseDraft
  prepared : Option PreparedResponseSigning
  pendingOperationId : Option String
  signed : Option SignedResponseSigning
  busy : Option String
  retryableSign : Option SignRetry
  retryingSign : Option Nat
  confirmedDelivery : Option String
  completedSubmit : Option (WidgetIdentity × InvocationResult)
  completionResult : Option ResponseCompletionResult
  completionOutcomeUnknown : Bool
  snapshot : Snapshot
  deliveries : String → Option Delivery
  promises : Nat → Option Promise
  nextObject : Nat
  log : List (Entry config)

namespace State

/-- The variables as `createResponseActionController` sets them. -/
def initial : State config where
  epoch := 0
  invalidated := false
  owned := config.restoredResponse.isSome
  actor := config.context.expectedActor
  application := config.restoredApplication
  applicationLookup := config.restoredApplicationLookup
  saved := none
  prepared := none
  pendingOperationId := none
  signed := none
  busy := none
  retryableSign := none
  retryingSign := none
  confirmedDelivery := none
  completedSubmit := none
  completionResult := none
  completionOutcomeUnknown := false
  snapshot :=
    { phase := .idle, owned := config.restoredResponse.isSome, pendingSign := false,
      retrySignAvailable := false, reason := none, application := config.restoredApplication,
      applicationLookup := config.restoredApplicationLookup, saved := none, prepared := none,
      signed := none, completion := none, confirmation := none }
  deliveries := fun _ => none
  promises := fun _ => none
  nextObject := 0
  log := []

variable {config}

def slots (s : State config) : Slots := ⟨s.saved, s.prepared, s.signed⟩

/-- `Boolean(busy)`. -/
def isBusy (s : State config) : Bool := s.busy.any truthy

def note (entry : Entry config) (s : State config) : State config :=
  { s with log := entry :: s.log }

/-- The snapshot `publish` builds. -/
def currentSnapshot (s : State config) (phase : Phase)
    (reason : Option ResponseActionControllerReason) : Snapshot where
  phase := phase
  owned := s.owned
  pendingSign := s.pendingOperationId.isSome
  retrySignAvailable := s.retryableSign.isSome && !s.isBusy
  reason := reason
  application := s.application
  applicationLookup := s.applicationLookup
  saved := s.saved
  prepared := s.prepared
  signed := s.signed
  completion := s.completionResult
  confirmation := match s.completionResult with
    | some result => if result.kind = .intake then some result.outcome else none
    | none => none

def publish (phase : Phase) (reason : Option ResponseActionControllerReason) (s : State config) :
    State config :=
  let snapshot := s.currentSnapshot phase reason
  { s with snapshot := snapshot, log := .published snapshot :: s.log }

def retireSignRetry (s : State config) : State config :=
  { s with
    retryableSign := none
    deliveries := fun id => (s.deliveries id).map fun delivery => { delivery with signRetry := none } }

def updateDelivery (id : String) (f : Delivery → Delivery) (s : State config) : State config :=
  { s with deliveries := Function.update s.deliveries id ((s.deliveries id).map f) }

def invalidate (s : State config) : State config :=
  { s with
    completionResult := none
    epoch := s.epoch + 1
    invalidated := true
    retryableSign := none
    confirmedDelivery := none
    completedSubmit := none
    deliveries := fun _ => none
    owned := false
    saved := none
    prepared := none
    signed := none
    log := .invalidated s.application :: s.log }

/-- `completionOutcomeUnknown = true`. -/
def leaveOutcomeUnknown (s : State config) : State config :=
  { s with completionOutcomeUnknown := true }

def allocate (s : State config) : State config := { s with nextObject := s.nextObject + 1 }

/-- `retryableSign = retry`. -/
def setRetryable (retry : Option SignRetry) (s : State config) : State config :=
  { s with retryableSign := retry }

/-- `completedSubmit = { identity, result }`. -/
def keepCompleted (identity : WidgetIdentity) (result : InvocationResult) (s : State config) :
    State config :=
  { s with completedSubmit := some (identity, result) }

/-- `retryingSign = pending`, for the retry begun as call `t`. -/
def beginRetry (t : Nat) (s : State config) : State config := { s with retryingSign := some t }

/-- `if (retryingSign === pending) retryingSign = undefined`. -/
def endRetry (t : Nat) (s : State config) : State config :=
  { s with retryingSign := if s.retryingSign = some t then none else s.retryingSign }

/-- `current(generation)` does not throw. -/
def isCurrent (s : State config) (generation : Nat) : Bool :=
  !s.invalidated && generation == s.epoch

end State

/-! ## Admission of one delivery -/

/-- One delivered action, as `perform` receives it. -/
structure Call where
  role : ResponseActionRole
  admission : QualifiedResponseActionRole
  response : FormResponse
  input : ActionInput
  deliveryId : String
  source : Json
  generation : Nat
  signRetry : Option SignRetry

/-- What `perform` holds while it awaits the hash of the Response. -/
structure HashedCall where
  call : Call
  subject : Subject
  wording : Option Wording
  baseline : Option DraftReference

def HashedCall.identity (hashed : HashedCall) (responseHash : String) : OperationIdentity where
  admission := hashed.call.admission
  role := hashed.call.role
  source := hashed.call.source
  generation := hashed.call.generation
  responseHash := responseHash
  draft := hashed.baseline
  input := hashed.call.input
  wording := hashed.wording

inductive Admission where
  | join (promise : Nat)
  | replay (outputs : Outputs)
  | admitted

variable {config}

def branchRefused (s : State config) (role : ResponseActionRole) : Bool :=
  (role == .saveInitial && s.owned) || (role == .saveOwned && !s.owned)
    || (role == .prepare && (!s.owned || s.saved.isNone))
    || (role == .sign && s.signed.isSome)
    || ((role.isSave || role == .prepare) && s.signed.isSome)

/-- What `perform` decides once the hash has arrived. -/
def decideAdmission (s : State config) (call : Call) (identity : OperationIdentity) :
    Except Failure Admission := do
  refuseIf (!s.isCurrent call.generation) .contextObsolete
  match s.deliveries call.deliveryId with
  | some delivery => do
      refuseIf (delivery.identity != identity) .operationConflict
      match delivery.pending with
      | some promise => return .join promise
      | none => do
          refuseIf delivery.retired .operationConflict
          match delivery.completed with
          | some outputs => return .replay outputs
          | none => do
              refuseIf s.completionResult.isSome .operationConflict
              refuseIf s.isBusy .operationPending
              return .admitted
  | none => do
      refuseIf s.completionResult.isSome .operationConflict
      refuseIf s.isBusy .operationPending
      refuseIf (branchRefused s call.role) .branchMismatch
      return .admitted

/-- The delivery an admitted call runs under: the retained one, or a fresh one
that keeps a pending operation's id. -/
def admittedDelivery (s : State config) (hashed : HashedCall) (identity : OperationIdentity)
    (generatedKey : String) : Delivery :=
  (s.deliveries hashed.call.deliveryId).getD
    { identity := identity
      operationId := s.pendingOperationId.getD generatedKey
      pending := none
      completionPreparation := none
      baselineDraft := hashed.subject.draft
      signRetry := none
      retired := false
      completed := none }

/-- The writes of an admission, up to its publication: the delivery is retained
with a new pending promise, a Save or Prepare retires the Sign retries, and the
controller is busy. -/
def State.admitCall (s : State config) (t : Nat) (hashed : HashedCall) (identity : OperationIdentity)
    (generatedKey : String) : State config :=
  let id := hashed.call.deliveryId
  let delivery := { admittedDelivery s hashed identity generatedKey with pending := some s.nextObject }
  let retires := hashed.call.role.isSave || hashed.call.role == .prepare
  { s with
    deliveries := fun key => (Function.update s.deliveries id (some delivery) key).map fun delivery =>
      if retires then { delivery with signRetry := none } else delivery
    retryableSign := if retires then none else s.retryableSign
    busy := some id
    promises := Function.update s.promises s.nextObject (some ⟨hashed.call.role, id, none⟩)
    nextObject := s.nextObject + 1
    log := .opened t (.action hashed.call.role id) :: s.log }

end FormspecWeb.Controller
