import FormspecWeb.Async.Steps
import FormspecWeb.Controller.Restore

/-!
# Configuring the runtime of a native host

`configureRuntime` installs the input of a form lease, creates the controller of the host where there
is none, has it restore what the input carries, and resolves with a lease. It awaits nothing but the
restorations, and checks after each that its admission stands.
-/

namespace FormspecWeb.Host

open Shared Ports Controller

/-- `RespondentOwnedRuntimeInput`, less its engine and its claim. -/
structure RuntimeInput where
  definition : FormDefinition
  draftKey : DraftKey
  activeLocale : String
  restoredResponse : Option FormResponse
  restoredApplication : Option ApplicationCaseReceipt
  restoredApplicationLookup : Option ApplicationCaseLookupUnavailable
  restoredSavedDraft : Option SavedResponseDraft
  restoredPendingSign : Option PendingResponseSigning
  restoredSigning : Option SignedResponseSigning

structure RuntimePolicy where
  definition : FormDefinition
  /-- `policy.controller`, and what `start` passes with it of the policy. -/
  controller : ResponseActionControllerConfig
  formId : String
  formVersionId : String
  responseId : Option String
  initialLocale : String
  native : Bool

structure Session where
  config : ResponseActionControllerConfig
  state : State config

def Session.modify (session : Session) (f : ∀ config, State config → State config) : Session :=
  ⟨session.config, f session.config session.state⟩

def RestoredPending (pending : PendingResponseSigning) (session : Session) : Prop :=
  ∃ selected : PreparedResponseSigning, selected.content = pending.content
    ∧ session.state.saved = some selected.toSavedResponseDraft
    ∧ (session.state.prepared = some selected ∧ session.state.signed = none
          ∧ selected.response = pending.response.withoutSigningContent
        ∨ session.state.prepared = none
          ∧ session.state.signed.map (·.toPreparedResponseSigning) = some selected
          ∧ selected.response.withoutSignatures = pending.response.withoutSignatures)

/-- A controller holds exactly what an input carries, and nothing where it carries nothing. -/
structure Restored (input : RuntimeInput) (session : Session) : Prop where
  saved : ∀ draft, input.restoredSavedDraft = some draft → session.state.slots = ⟨some draft, none, none⟩
  pending : ∀ pending, input.restoredPendingSign = some pending → RestoredPending pending session
  signed : ∀ signature, input.restoredSigning = some signature →
    session.state.slots = ⟨some signature.toSavedResponseDraft, none, some signature⟩
  nothing : input.restoredSavedDraft = none → input.restoredPendingSign = none →
    input.restoredSigning = none → session.state.slots = .empty

/-- What a call awaits of the controller; the actor and the wording are those it read before. -/
inductive LeaseStage where
  | savedEvidence (draft : SavedResponseDraft) (actor : Option String) (epoch : Nat)
  | savedCommit (epoch : Nat)
  | pendingEvidence (pending : PendingResponseSigning) (actor : Option String) (epoch : Nat)
  | pendingPort (pending : PendingResponseSigning) (wording : Wording) (epoch : Nat)
  | pendingSelected (pending : PendingResponseSigning) (wording : Wording)
      (result : RestoredPendingResponseSigning) (actor : Option String) (epoch : Nat)
  | pendingCommit
  | signedEvidence (signature : SignedResponseSigning) (actor : Option String) (epoch : Nat)
  | signedCommit
  /-- `await pendingDelivery`. -/
  | signedDelivery
  | ended

/-- The controller has not restored yet what the call waits for. -/
def LeaseStage.restores : LeaseStage → Bool
  | .ended | .signedDelivery => false
  | _ => true

structure LeaseCall where
  input : RuntimeInput
  admission : Nat
  expectedAuthority : Nat
  expectedVisit : Nat
  stage : LeaseStage

inductive LeaseEntry where
  | rejected (call : Nat)
  /-- With the controller of the lease, and whether a restoration of it was still awaited. -/
  | resolved (call : Nat) (input : RuntimeInput) (session : Session) (restoring : Bool)

structure OwnedRestoration where
  saved : SavedResponseDraft
  signed : Bool

structure RuntimeHost where
  rendererAdmission : Nat
  authorityGeneration : Nat
  visitEpoch : Nat
  disposed : Bool
  cleared : Bool
  submitted : Bool
  locale : String
  responseId : Option String
  application : Option ApplicationCaseReceipt
  applicationLookup : Option ApplicationCaseLookupUnavailable
  ownedResponseSeed : Option FormResponse
  ownedDraftRestoration : Option OwnedRestoration
  input : Option RuntimeInput
  controller : Option Session
  calls : List LeaseCall
  /-- Newest first. -/
  log : List LeaseEntry

/-- An engine that throws where a call touches it first. -/
inductive EngineFault where
  | setLocale
  | title
deriving DecidableEq

namespace RuntimeHost

variable (policy : RuntimePolicy)

def opened : RuntimeHost where
  rendererAdmission := 0
  authorityGeneration := 0
  visitEpoch := 0
  disposed := false
  cleared := false
  submitted := false
  locale := policy.initialLocale
  responseId := policy.responseId
  application := none
  applicationLookup := none
  ownedResponseSeed := none
  ownedDraftRestoration := none
  input := none
  controller := none
  calls := []
  log := []

/-- The configuration `start` passes to the controller. -/
def controllerConfig (s : RuntimeHost) (draftKey : DraftKey) : ResponseActionControllerConfig :=
  { policy.controller with
    reconcileSignRetries := policy.native
    restoredApplication := s.application
    restoredApplicationLookup := s.applicationLookup
    restoredResponse := s.ownedResponseSeed
    context := {
      definition := policy.definition
      draftKey := draftKey
      formId := policy.formId
      formVersionId := policy.formVersionId
      responseId := s.responseId.getD ""
      generation := toString s.authorityGeneration
      expectedActor := none } }

def start (s : RuntimeHost) (restoredResponse : Option FormResponse) : RuntimeHost :=
  match s.input with
  | none => s
  | some input =>
    let s := { s with ownedResponseSeed := restoredResponse.or s.ownedResponseSeed }
    { s with controller := some ⟨_, State.initial (s.controllerConfig policy input.draftKey)⟩ }

/-- `controller?.invalidate()`. -/
def invalidateController (s : RuntimeHost) : RuntimeHost :=
  { s with controller := s.controller.map fun session =>
      session.modify fun _ state => (state.invalidate).publish .refused (some .contextObsolete) }

/-- `stop(reason)`, of an edit or a locale. -/
def stop (s : RuntimeHost) : RuntimeHost :=
  ({ s with authorityGeneration := s.authorityGeneration + 1 }).invalidateController

/-- `stop(reason)`, of a clear or a disposal. -/
def stopClearing (s : RuntimeHost) : RuntimeHost :=
  ({ s with
    ownedDraftRestoration := none
    application := none
    applicationLookup := none
    ownedResponseSeed := none
    submitted := false
    input := s.input.map fun (input : RuntimeInput) => { input with restoredSavedDraft := none } }).stop

/-- `publicSnapshot?.saved?.response`. -/
def savedResponse (s : RuntimeHost) : Option FormResponse :=
  (s.controller.bind fun session => session.state.saved).map fun draft => draft.response

/-- An edit stops the session and starts another with the Response that was saved. -/
def edit (s : RuntimeHost) : RuntimeHost :=
  s.stop.start policy s.savedResponse

/-- `selectLocale(value)`, where the locale is admitted. -/
def selectLocale (s : RuntimeHost) (locale : String) : RuntimeHost :=
  if s.submitted || (s.controller.bind fun session => session.state.signed).isSome || s.disposed
      || s.cleared || s.input.isNone then s
  else ({ s.stop with locale }).start policy s.savedResponse

def setStage (s : RuntimeHost) (n : Nat) (call : LeaseCall) (stage : LeaseStage) : RuntimeHost :=
  { s with calls := s.calls.set n { call with stage } }

def reject (s : RuntimeHost) (n : Nat) (call : LeaseCall) : RuntimeHost :=
  { s.setStage n call .ended with log := .rejected n :: s.log }

/-- `assertAdmission()` does not throw. -/
def admits (s : RuntimeHost) (call : LeaseCall) : Bool :=
  call.admission == s.rendererAdmission && !s.disposed && !s.cleared
    && call.expectedAuthority == s.authorityGeneration && call.expectedVisit == s.visitEpoch

/-- The controller of a call, where the session it was made in goes on. A session that was stopped
has had its controller invalidated, which refuses to go on. -/
def sessionOf (s : RuntimeHost) (call : LeaseCall) : Option Session :=
  if call.expectedAuthority = s.authorityGeneration then s.controller else none

/-- A call still restores the controller of the host. -/
def isRestoring (s : RuntimeHost) : Bool :=
  s.calls.any fun call => call.stage.restores && call.expectedAuthority == s.authorityGeneration

/-- The end of the call. `checks` says that what it asks of the policy and the engine, after the last
await, does not throw. -/
def finish (s : RuntimeHost) (n : Nat) (call : LeaseCall) (checks : Bool) : RuntimeHost :=
  match s.controller with
  | none => s.reject n call
  | some session =>
    if s.admits call && checks then
      { s.setStage n call .ended with
        log := .resolved n call.input session (s.setStage n call .ended).isRestoring :: s.log }
    else s.reject n call

/-- `await controller!.restoreSigned(next.restoredSigning)`, up to its first await, or the end. -/
def beginSigned (s : RuntimeHost) (n : Nat) (call : LeaseCall) (checks : Bool) : RuntimeHost :=
  match call.input.restoredSigning with
  | none => s.finish n call checks
  | some signature =>
    match s.controller with
    | none => s.reject n call
    | some session =>
      if some signature.response != call.input.restoredResponse
          || !session.state.isCurrent session.state.epoch || !admitsSigned session.state then
        s.reject n call
      else s.setStage n call (.signedEvidence signature session.state.actor session.state.epoch)

/-- `await controller!.restorePending(next.restoredPendingSign)`, up to its first await. -/
def beginPending (s : RuntimeHost) (n : Nat) (call : LeaseCall) (checks : Bool) : RuntimeHost :=
  match call.input.restoredPendingSign with
  | none => s.beginSigned n call checks
  | some pending =>
    match s.controller with
    | none => s.reject n call
    | some session =>
      if !session.state.isCurrent session.state.epoch || !admitsPending session.state pending then
        s.reject n call
      else s.setStage n call (.pendingEvidence pending session.state.actor session.state.epoch)

def setSession (s : RuntimeHost) (session : Session) : RuntimeHost := { s with controller := some session }

def savedDraftAgrees (config : ResponseActionControllerConfig) (draft : SavedResponseDraft) : Bool :=
  draft.response.id == some config.context.responseId
    && draft.response.definitionUrl == config.context.definition.url
    && draft.response.definitionVersion == config.context.definition.version
    && config.context.draftKey.admitsSubject draft.actor

/-- `await controller!.restoreSavedDraft(next.restoredSavedDraft)`, up to its first await. -/
def beginSaved (s : RuntimeHost) (n : Nat) (call : LeaseCall) (checks : Bool) : RuntimeHost :=
  match call.input.restoredSavedDraft with
  | none => s.beginPending n call checks
  | some draft =>
    match s.controller with
    | none => s.reject n call
    | some session =>
      if !session.state.isCurrent session.state.epoch || !admitsSavedDraft session.state
          || !savedDraftAgrees session.config draft then
        s.reject n call
      else
        (s.setSession (session.modify fun _ => State.hold n .restoreSavedDraft)).setStage n call
          (.savedEvidence draft session.state.actor session.state.epoch)

def refusesInput (s : RuntimeHost) (next : RuntimeInput) : Bool :=
  s.disposed || s.cleared || s.submitted || next.definition != policy.definition
    || (s.responseId.any fun responseId => truthy responseId
        && next.restoredResponse.any fun response => response.id != some responseId)
    || s.input.any fun input => input.draftKey != next.draftKey

def changesRestoration (s : RuntimeHost) (next : RuntimeInput) : Bool :=
  s.input.isNone && s.ownedDraftRestoration.any fun restoration =>
    (if restoration.signed then next.restoredSigning.map (·.toSavedResponseDraft) else next.restoredSavedDraft)
      != some restoration.saved

/-- The input, with the locale of the session, and what the first one brings, are installed. -/
def install (s : RuntimeHost) (next : RuntimeInput) : RuntimeHost :=
  let locale := if s.input.isSome then s.locale else next.activeLocale
  { s with
    locale
    application := if s.input.isNone then next.restoredApplication.or s.application else s.application
    applicationLookup :=
      if s.input.isNone then next.restoredApplicationLookup.or s.applicationLookup else s.applicationLookup
    input := some { next with activeLocale := locale } }

/-- `responseId ??= next.restoredResponse?.id ?? generateIdempotencyKey()`. -/
def chooseResponseId (s : RuntimeHost) (next : RuntimeInput) (generatedKey : String) : RuntimeHost :=
  { s with responseId := some (s.responseId.getD ((next.restoredResponse.bind (·.id)).getD generatedKey)) }

def isAmbiguous (input : RuntimeInput) : Bool :=
  input.restoredSavedDraft.isSome && (input.restoredPendingSign.isSome || input.restoredSigning.isSome)

/-- `configureRuntime(next)`, up to its first await. -/
def configureRuntime (s : RuntimeHost) (next : RuntimeInput) (generatedKey : String)
    (fault : Option EngineFault) (checks : Bool) : RuntimeHost :=
  let n := s.calls.length
  let call : LeaseCall := ⟨next, s.rendererAdmission + 1, s.authorityGeneration, s.visitEpoch, .ended⟩
  let s := { s with rendererAdmission := s.rendererAdmission + 1, calls := s.calls ++ [call] }
  if s.changesRestoration next then { s with ownedDraftRestoration := none }.reject n call
  else if s.refusesInput policy next then s.reject n call
  else
    let s := s.chooseResponseId next generatedKey
    if s.input.isSome && fault == some .setLocale then s.reject n call
    else
      let s := s.install next
      if fault == some .title then s.reject n call
      else if s.controller.isSome then s.finish n call checks
      else if isAmbiguous next then s.reject n call
      else (s.start policy next.restoredResponse).beginSaved n call checks

/-- `finally { busy = undefined; }`, and the call rejects. -/
def rejectSaved (s : RuntimeHost) (n : Nat) (call : LeaseCall) (session : Session) : RuntimeHost :=
  (s.setSession (session.modify fun _ => State.unhold n .restoreSavedDraft)).reject n call

/-- `restoreSavedDraft`, after its evidence check, up to the next await. -/
def storeSaved (s : RuntimeHost) (n : Nat) (call : LeaseCall) (session : Session)
    (draft : SavedResponseDraft) (epoch : Nat) (checked : Except Failure Unit) : RuntimeHost :=
  match checked with
  | .error _ => s.rejectSaved n call session
  | .ok () =>
    if !session.state.isCurrent epoch then s.rejectSaved n call session
    else
      (s.setSession (session.modify fun _ state =>
        (state.storeRestored n draft).publish .saved none)).setStage n call (.savedCommit epoch)

/-- `restorePending`, after its first evidence check, up to its call of the port. -/
def callPort (s : RuntimeHost) (n : Nat) (call : LeaseCall) (session : Session)
    (pending : PendingResponseSigning) (epoch : Nat) (checked : Except Failure Unit)
    (wording : Except Failure Wording) : RuntimeHost :=
  match checked, wording with
  | .ok (), .ok wording =>
    if !session.state.isCurrent epoch
        || !((session.config.roles .sign).any fun admission => admission.requestRef.any truthy) then
      s.reject n call
    else s.setStage n call (.pendingPort pending wording epoch)
  | _, _ => s.reject n call

/-- `restorePending`, after its second evidence check, to its end or to `afterCommit`. -/
def storePending (s : RuntimeHost) (n : Nat) (call : LeaseCall) (session : Session)
    (pending : PendingResponseSigning) (wording : Wording) (result : RestoredPendingResponseSigning)
    (epoch : Nat) (checked : Except Failure Unit) : RuntimeHost :=
  match checked with
  | .error _ => s.reject n call
  | .ok () =>
    if !session.state.isCurrent epoch || result.selected.content != pending.content then s.reject n call
    else match result with
    | .signed signature =>
      if signature.response.withoutSignatures != pending.response.withoutSignatures
          || !(assertRestoredSignedResponseEvidence session.config signature wording).isOk then
        s.reject n call
      else
        (s.setSession (session.modify fun _ state =>
          (state.storeRestoredSignature n signature).publish .signed none)).setStage n call .pendingCommit
    | .prepared preparation operationId =>
      if preparation.response != pending.response.withoutSigningContent
          || !isUuidV7IdempotencyKey operationId then
        s.reject n call
      else
        (s.setSession (session.modify fun _ state =>
          (state.storeRestoredPreparation n preparation operationId).publish .prepared none)).setStage
            n call .pendingCommit

/-- `restoreSigned`, after its evidence check, up to `afterCommit`. -/
def storeSigned (s : RuntimeHost) (n : Nat) (call : LeaseCall) (session : Session)
    (signature : SignedResponseSigning) (epoch : Nat) (checked : Except Failure Unit)
    (wording : Except Failure Wording) : RuntimeHost :=
  match checked, wording with
  | .ok (), .ok wording =>
    if !session.state.isCurrent epoch
        || !(assertRestoredSignedResponseEvidence session.config signature wording).isOk
        || ((session.config.completion.any fun completion => completion.kind == .task)
          && !isSignedTaskDraft signature.evidence.taskDraft signature.draft) then
      s.reject n call
    else
      (s.setSession (session.modify fun _ state =>
        (state.storeRestoredSigned n signature).publish .signed none)).setStage n call .signedCommit
  | _, _ => s.reject n call

/-- The evidence of a restoration has been checked, with these answers of the ports. -/
def evidence (s : RuntimeHost) (n : Nat) (answer : EvidenceAnswer) (wording : Except Failure Wording) :
    Option RuntimeHost := do
  let call ← s.calls[n]?
  let check (session : Session) (draft : SavedResponseDraft) (expected : Option FormResponse)
      (actor : Option String) : Except Failure Unit :=
    assertSavedResponseDraftEvidence session.config draft expected actor answer
  match call.stage, s.sessionOf call with
  | .savedEvidence draft actor epoch, some session =>
    return s.storeSaved n call session draft epoch
      (check session draft session.config.restoredResponse actor)
  | .pendingEvidence pending actor epoch, some session =>
    return s.callPort n call session pending epoch
      (check session pending.toSavedResponseDraft session.config.restoredResponse actor) wording
  | .pendingSelected pending wording result actor epoch, some session =>
    return s.storePending n call session pending wording result epoch
      (check session result.selected.toSavedResponseDraft (some result.selected.response) actor)
  | .signedEvidence signature actor epoch, some session =>
    return s.storeSigned n call session signature epoch
      (check session signature.toSavedResponseDraft session.config.restoredResponse actor) wording
  | .savedEvidence .., none | .pendingEvidence .., none | .pendingSelected .., none
  | .signedEvidence .., none => return s.reject n call
  | _, _ => none

/-- `signing.restorePending` has answered, or has thrown. -/
def restored (s : RuntimeHost) (n : Nat) (answer : Except Failure RestoredPendingResponseSigning) :
    Option RuntimeHost := do
  let call ← s.calls[n]?
  let .pendingPort pending wording epoch := call.stage | none
  match answer, s.sessionOf call with
  | .ok result, some session =>
    if !session.state.isCurrent epoch then return s.reject n call
    else return s.setStage n call (.pendingSelected pending wording result session.state.actor epoch)
  | _, _ => return s.reject n call

/-- A restoration ends, with `afterCommit` where it awaits that, and the call goes on. -/
def committed (s : RuntimeHost) (n : Nat) (checks : Bool) : Option RuntimeHost := do
  let call ← s.calls[n]?
  match call.stage with
  | .savedCommit epoch =>
    match s.sessionOf call with
    | none => return s.reject n call
    | some session =>
      if !session.state.isCurrent epoch || !s.admits call then return s.rejectSaved n call session
      else
        return (s.setSession (session.modify fun _ => State.unhold n .restoreSavedDraft)).beginPending
          n call checks
  | .pendingCommit => if s.admits call then return s.beginSigned n call checks else return s.reject n call
  | .signedCommit =>
    if s.admits call then return s.setStage n call .signedDelivery else return s.reject n call
  | _ => none

def delivered (s : RuntimeHost) (n : Nat) (delivers checks : Bool) : Option RuntimeHost := do
  let call ← s.calls[n]?
  let .signedDelivery := call.stage | none
  if delivers then return s.finish n call checks else return s.reject n call

inductive LeaseEvent where
  | configureRuntime (next : RuntimeInput) (generatedKey : String) (fault : Option EngineFault)
      (checks : Bool)
  | evidence (call : Nat) (answer : EvidenceAnswer) (wording : Except Failure Wording)
  | restored (call : Nat) (answer : Except Failure RestoredPendingResponseSigning)
  | committed (call : Nat) (checks : Bool)
  | delivered (call : Nat) (delivers checks : Bool)
  | edit
  | selectLocale (locale : String)
  | visit
  | invalidate
  | clearDraftAccess
  | dispose
  /-- `restoreOwnedDraftAccess(saved, assertCurrent, mode)` has admitted the draft. -/
  | restoreOwnedDraftAccess (restoration : OwnedRestoration)
  /-- `configureSubmittedRuntime(next)`, where the state is admitted. -/
  | configureSubmittedRuntime (responseId locale : String) (application : Option ApplicationCaseReceipt)
      (applicationLookup : Option ApplicationCaseLookupUnavailable)

/-- The host has neither an input nor a controller yet, and may still take one. -/
def isUnused (s : RuntimeHost) : Bool :=
  !s.disposed && !s.cleared && s.controller.isNone && s.input.isNone

def step (s : RuntimeHost) : LeaseEvent → Option RuntimeHost
  | .configureRuntime next generatedKey fault checks =>
    some (s.configureRuntime policy next generatedKey fault checks)
  | .evidence n answer wording => s.evidence n answer wording
  | .restored n answer => s.restored n answer
  | .committed n checks => s.committed n checks
  | .delivered n delivers checks => s.delivered n delivers checks
  | .edit => some (s.edit policy)
  | .selectLocale locale => some (s.selectLocale policy locale)
  | .visit => some { s with visitEpoch := s.visitEpoch + 1 }
  | .invalidate => some s.stopClearing
  | .clearDraftAccess => some { s.stopClearing with cleared := true }
  | .dispose => some { s.stopClearing with disposed := true }
  | .restoreOwnedDraftAccess restoration =>
    if s.isUnused && !s.submitted then some { s with ownedDraftRestoration := some restoration } else none
  | .configureSubmittedRuntime responseId locale application applicationLookup =>
    if s.isUnused then
      some { s with
        submitted := true
        locale
        responseId := some responseId
        application
        applicationLookup }
    else none

end RuntimeHost

end FormspecWeb.Host
