import FormspecWeb.Async.History
import FormspecWeb.Async.Pool
import FormspecWeb.Shared.Checks
import FormspecWeb.Shared.Text
import FormspecWeb.Shared.Value

/-!
# The form session of a respondent

`handleSubmit` and the listener that drains the offline queue, as programs over the state of
one form session. A handler is the closure of a render: its guard reads the submit state that
render saw.
-/

namespace FormspecWeb.App

open Shared Async

abbrev Failure := String

structure Money where
  amountMinorUnits : Int
  currency : String
deriving DecidableEq

structure SubmitConfirmation where
  referenceNumber : String
deriving DecidableEq

structure Authorization where
  authorizationId : String
deriving DecidableEq

structure CaptureReceipt where
  receiptId : String
deriving DecidableEq

inductive SubmitState where
  | idle
  | submitting
  | invalid (message : String)
  | error (error : Failure)
  | queued (idempotencyKey : String)
  | authorizingPayment (amount : Money)
  | capturingPayment (authorization : Authorization)
  | voidingPayment (authorization : Authorization)
  | paymentVoidedAfterSubmitFailure (error : Failure)
  | awaitingNextParty (nextPartyLabel : String) (signedCount totalCount : Nat)
  | captureFailed (confirmation : SubmitConfirmation) (error : Failure)
  | confirmed (confirmation : SubmitConfirmation) (captureReceipt : Option CaptureReceipt)
deriving DecidableEq

structure MultiPartyPartySlot where
  partyRef : String
  label : String

structure MultiPartyPolicy where
  slots : List MultiPartyPartySlot

structure MultiPartySignature where
  partyRef : String
  subjectRef : String

structure MultiPartySignerProgress where
  activePartyRef : String
  signatures : List MultiPartySignature

structure RuntimeProfile where
  /-- `enabled.has('payment')`. -/
  payment : Bool
  /-- `enabled.has('offlineSubmit')`. -/
  offlineSubmit : Bool
  /-- `mode === 'demo'`. -/
  demo : Bool
  safeAddress : Bool
  multiParty : Option MultiPartyPolicy

structure ReadyState where
  definition : Value
  subjectRef : Option String
  multiPartyState : Option MultiPartySignerProgress
  runtimeProfile : RuntimeProfile
  ownedRuntime : Bool

structure Render where
  respondentState : ReadyState
  submitState : SubmitState

structure ValidationReport where
  valid : Bool
  /-- `counts?.error ?? 0`. -/
  errorCount : Nat

structure SubmitResult where
  validationReport : Option ValidationReport

/-! ## The session -/

structure QueuedSubmit where
  idempotencyKey : String
  /-- The attempt that queued it; one of an earlier session has none. -/
  attempt : Option Nat

/-- What happened: an attempt passed the guard, the transport was called and accepted an intake
of an attempt, the intake of an attempt was queued, and an attempt ended. Attempts are numbered. -/
inductive Entry where
  | fired (attempt : Nat)
  | sent (attempt : Option Nat) (key : String)
  | accepted (attempt : Option Nat) (key : String)
  | queued (attempt : Nat) (key : String)
  | ended (attempt : Nat)

structure SessionState where
  owners : List Nat
  respondentState : ReadyState
  submitState : SubmitState
  /-- The renders so far, oldest first. -/
  renders : List Render
  submissionInProgress : Bool
  terminalClearRequested : Bool
  /-- The entries of the offline queue, oldest first. -/
  queue : List QueuedSubmit
  /-- The effect that listens for the window to be online, and the key it was set up for. -/
  listener : Option (Nat × String)
  effects : Nat
  /-- What happened, newest entry first. -/
  log : List Entry

/-- A form that was just loaded; `leftover` was queued by earlier sessions. -/
def SessionState.initial (ready : ReadyState) (leftover : List String) : SessionState where
  owners := []
  respondentState := ready
  submitState := .idle
  renders := []
  submissionInProgress := false
  terminalClearRequested := false
  queue := leftover.map fun key => ⟨key, none⟩
  listener := none
  effects := 0
  log := []

structure Callbacks where
  /-- `generateIdempotencyKey()`. -/
  idempotencyKey : String
  /-- `engine.getResponse(..)`. -/
  engineResponse : Except Failure Unit
  /-- `buildMultiPartyAggregateResponse(..)`. -/
  aggregateResponse : Except Failure Unit
  navigatorOnLine : Bool
  onSubmitConfirmed : Except Failure Unit

inductive Step where
  | localeSaves
  | resolvedIssuer
  | save
  | safeAddress
  | handoff
  | enqueued
  | replayed
  | voidAuthorization (authorization : Authorization) (voidKey : String)

inductive Label where
  | step (step : Step)
  /-- An asynchronous function of this module returns to the one that awaits it. -/
  | returned
  | recordSigner
  /-- `deriveUuidV7FromString(key, suffix)`. -/
  | railKey (key suffix : String)
  | authorize (amount : Money) (methodToken authorizeKey : String)
  | reply (key : String)
  | capture (authorization : Authorization) (captureKey : String)

def Rep : Label → Type
  | .step _ => Except Failure Unit
  | .returned => Unit
  | .recordSigner => Except Failure MultiPartySignerProgress
  | .railKey _ _ => Except Failure String
  | .authorize _ _ _ => Except Failure Authorization
  | .reply _ => Except Failure SubmitConfirmation
  | .capture _ _ => Except Failure CaptureReceipt

abbrev Op := Prog SessionState Callbacks Failure Rep

namespace SessionState

def note (entry : Entry) (s : SessionState) : SessionState := { s with log := entry :: s.log }

def setSubmitState (state : SubmitState) (s : SessionState) : SessionState :=
  { s with submitState := state }

def fire (thread : Nat) (s : SessionState) : SessionState :=
  { s with
    owners := s.owners ++ [thread]
    submissionInProgress := true
    submitState := .submitting
    log := .fired s.owners.length :: s.log }

/-- What an attempt sets last, with its `finally`. -/
def finish (attempt : Nat) (state : SubmitState) (s : SessionState) : SessionState :=
  { s with submissionInProgress := false, submitState := state, log := .ended attempt :: s.log }

def setMultiPartyState (progress : MultiPartySignerProgress) (s : SessionState) : SessionState :=
  { s with respondentState := { s.respondentState with multiPartyState := some progress } }

/-- `enqueue(handoff, key)`; a key that is queued already is left as it is. -/
def enqueue (attempt : Nat) (key : String) (s : SessionState) : SessionState :=
  { s with
    queue := if s.queue.any (·.idempotencyKey == key) then s.queue else s.queue ++ [⟨key, some attempt⟩]
    log := .queued attempt key :: s.log }

def dequeue (key : String) (s : SessionState) : SessionState :=
  { s with queue := s.queue.filter (·.idempotencyKey != key) }

def render (s : SessionState) : SessionState :=
  { s with renders := s.renders ++ [⟨s.respondentState, s.submitState⟩] }

def queuedIdempotencyKey (s : SessionState) : Option String :=
  match s.renders.getLast? with
  | some ⟨_, .queued key⟩ => some key
  | _ => none

/-- The effect of the last render: where the queued key changed, the old listener is removed. -/
def runEffects (s : SessionState) : SessionState :=
  if s.listener.map (·.2) = s.queuedIdempotencyKey then s
  else { s with
    listener := s.queuedIdempotencyKey.map fun key => (s.effects, key)
    effects := s.effects + 1 }

def cancelled (effect : Nat) (s : SessionState) : Bool := s.listener.map (·.1) != some effect

end SessionState

def step (step : Step) : Op Unit := do
  let result : Except Failure Unit ← Prog.awaiting (Label.step step)
  Prog.check result

/-- `await` of an asynchronous function of this module. -/
def awaited {α : Type} (p : Op α) : Op α := do
  let outcome ← p.outcome
  let _ : Unit ← Prog.awaiting Label.returned
  Prog.check outcome

/-- `submitTransport.submit(handoff, key)`, with its outcome. -/
def submitIntake (attempt : Option Nat) (key : String) : Op (Except Failure SubmitConfirmation) := do
  Prog.modify (·.note (.sent attempt key))
  let reply : Except Failure SubmitConfirmation ← Prog.awaiting (Label.reply key)
  if reply.isOk then Prog.modify (·.note (.accepted attempt key))
  return reply

/-- `onSubmitConfirmedRef.current?.(confirmation)`. -/
def notifyConfirmed : Op Unit := do
  let callbacks ← Prog.ask
  Prog.check callbacks.onSubmitConfirmed

/-! ## Payment -/

/-- `definition.extensions?.[name]`. -/
def definitionExtension? (definition : Value) (name : String) : Option Value :=
  (definition.get? "extensions").bind (·.get? name)

def extractPaymentAmount (definition : Value) : Option Money := do
  let raw ← definitionExtension? definition "x-formspec-payment-amount"
  match raw.get? "amountMinorUnits", raw.get? "currency" with
  | some (.number amount), some (.string currency) =>
    if amount.den = 1 ∧ 0 ≤ amount.num ∧ currency ≠ "" then some ⟨amount.num, currency⟩ else none
  | _, _ => none

def readMethodToken (ready : ReadyState) : Except Failure String :=
  match (definitionExtension? ready.definition "x-formspec-payment-method-token").bind
      (·.nonEmptyString?) with
  | some token => .ok token
  | none =>
    if ready.runtimeProfile.demo then .ok "demo-method-stub"
    else .error "No payment method token available: caller did not supply `methodToken`, and the form did not declare extensions[\"x-formspec-payment-method-token\"]. Production compositions must wire a rail-specific picker UX that provides the token."

inductive SubmitWithPaymentOutcome where
  | submittedWithPayment (confirmation : SubmitConfirmation) (captureReceipt : CaptureReceipt)
  | authorizeFailed (error : Failure)
  | submitFailedPaymentVoided (error : Failure)
  | voidFailedAfterSubmitFailure (submitError voidError : Failure)
  | captureFailed (confirmation : SubmitConfirmation) (error : Failure)

def resolveRailKey (key suffix : String) : Op String := do
  let derived : Except Failure String ← Prog.awaiting (Label.railKey key suffix)
  Prog.check derived

def submitAuthorized (attempt : Nat) (key : String) (authorization : Authorization)
    (captureKey voidKey : String) : Op SubmitWithPaymentOutcome := do
  let reply ← submitIntake (some attempt) key
  match reply with
  | .error submitError => do
      let voided : Except Failure Unit ←
        Prog.awaiting (Label.step (.voidAuthorization authorization voidKey))
      match voided with
      | .error voidError => return .voidFailedAfterSubmitFailure submitError voidError
      | .ok () => return .submitFailedPaymentVoided submitError
  | .ok confirmation => do
      let captured : Except Failure CaptureReceipt ←
        Prog.awaiting (Label.capture authorization captureKey)
      match captured with
      | .error error => return .captureFailed confirmation error
      | .ok captureReceipt => return .submittedWithPayment confirmation captureReceipt

/-- `submitWithPayment`, once payment is enabled and the amount is known. -/
def submitAmount (ready : ReadyState) (attempt : Nat) (key : String) (amount : Money) :
    Op SubmitWithPaymentOutcome := do
  let methodToken ← Prog.check (readMethodToken ready)
  let authorizeKey ← awaited (resolveRailKey key "authorize")
  let captureKey ← awaited (resolveRailKey key "capture")
  let voidKey ← awaited (resolveRailKey key "void")
  let authorized : Except Failure Authorization ←
    Prog.awaiting (Label.authorize amount methodToken authorizeKey)
  match authorized with
  | .error error => return .authorizeFailed error
  | .ok authorization => submitAuthorized attempt key authorization captureKey voidKey

def submitWithPayment (ready : ReadyState) (attempt : Nat) (key : String) :
    Op SubmitWithPaymentOutcome :=
  if !ready.runtimeProfile.payment then
    throw "submitWithPayment invoked with payment disabled in the resolved profile; route free-form submits through submitOrQueue."
  else
    match extractPaymentAmount ready.definition with
    | none => throw "Payment is enabled for this form but extensions[\"x-formspec-payment-amount\"] is missing or malformed."
    | some amount => submitAmount ready attempt key amount

def settlePayment : SubmitWithPaymentOutcome → Op SubmitState
  | .submittedWithPayment confirmation captureReceipt => do
      notifyConfirmed
      return .confirmed confirmation (some captureReceipt)
  | .authorizeFailed error => return .error error
  | .submitFailedPaymentVoided error => return .paymentVoidedAfterSubmitFailure error
  | .voidFailedAfterSubmitFailure submitError _ => return .paymentVoidedAfterSubmitFailure submitError
  | .captureFailed confirmation error => do
      notifyConfirmed
      return .captureFailed confirmation error

inductive SubmitOrQueueOutcome where
  | submitted (confirmation : SubmitConfirmation)
  | queued (queuedSubmit : String)

def assertUuidV7IdempotencyKey (key : String) : Except Failure Unit :=
  failIf (!isUuidV7IdempotencyKey key) "Expected idempotency-key to be a UUIDv7 value"

def submitOrQueue (ready : ReadyState) (attempt : Nat) (key : String) (navigatorOnLine : Bool) :
    Op SubmitOrQueueOutcome :=
  if !navigatorOnLine && ready.runtimeProfile.offlineSubmit then do
    Prog.check (assertUuidV7IdempotencyKey key)
    Prog.modify (·.enqueue attempt key)
    step .enqueued
    return .queued key
  else do
    let reply ← submitIntake (some attempt) key
    let confirmation ← Prog.check reply
    return .submitted confirmation

def settleUnpaid : SubmitOrQueueOutcome → Op SubmitState
  | .submitted confirmation => do
      notifyConfirmed
      return .confirmed confirmation none
  | .queued queuedSubmit => return .queued queuedSubmit

/-- An outcome of `replay`: the intake was sent, or the call failed. -/
structure ReplayOutcome where
  idempotencyKey : String
  result : Except Failure SubmitConfirmation

def replayKeys : List String → Op (List ReplayOutcome)
  | [] => return []
  | key :: rest => do
      let s ← Prog.get
      match s.queue.find? (·.idempotencyKey == key) with
      | none => replayKeys rest
      | some entry => do
          let reply ← submitIntake entry.attempt key
          -- A failed entry stays queued for the next replay.
          if reply.isOk then Prog.modify (·.dequeue key)
          let outcomes ← replayKeys rest
          return ⟨key, reply⟩ :: outcomes

def replay : Op (List ReplayOutcome) := do
  let s ← Prog.get
  let outcomes ← replayKeys (s.queue.map (·.idempotencyKey))
  step .replayed
  return outcomes

/-! ## The submit handler -/

def multiPartyComplete (policy : MultiPartyPolicy) (progress : MultiPartySignerProgress) : Bool :=
  policy.slots.all fun slot => progress.signatures.any (·.partyRef == slot.partyRef)

def assertMultiPartySignerCanSubmit (subjectRef : Option String) (policy : MultiPartyPolicy)
    (progress : MultiPartySignerProgress) : Except Failure Unit :=
  match subjectRef with
  | none => .error "Multi-party forms require each signer to authenticate before signing."
  | some subjectRef => do
      failIf (progress.signatures.any (·.partyRef == progress.activePartyRef))
        ("Party \"" ++ progress.activePartyRef ++ "\" has already signed.")
      failIf (progress.signatures.any fun signature =>
          signature.subjectRef == subjectRef && signature.partyRef != progress.activePartyRef)
        "Each party must sign with a distinct authenticated identity."
      failIf (!policy.slots.any (·.partyRef == progress.activePartyRef))
        ("Unknown active party \"" ++ progress.activePartyRef ++ "\".")

def ReadyState.multiParty? (ready : ReadyState) : Option (MultiPartyPolicy × MultiPartySignerProgress) :=
  ready.runtimeProfile.multiParty.bind fun policy =>
    ready.multiPartyState.map fun progress => (policy, progress)

def ReadyState.signerCanSubmit (ready : ReadyState) : Except Failure Unit :=
  match ready.multiParty? with
  | none => .ok ()
  | some (policy, progress) => assertMultiPartySignerCanSubmit ready.subjectRef policy progress

def awaitingNextParty (policy : MultiPartyPolicy) (completed : MultiPartySignerProgress) : SubmitState :=
  .awaitingNextParty
    (((policy.slots.find? (·.partyRef == completed.activePartyRef)).map (·.label)).getD "the next signer")
    completed.signatures.length policy.slots.length

def validationMessage (report : ValidationReport) : String :=
  if report.errorCount = 1 then "Check the required field marked with an error, then submit again."
  else "Check the " ++ toString report.errorCount ++ " fields marked with errors, then submit again."

def deliver (ready : ReadyState) (attempt : Nat) (key : String) : Op SubmitState := do
  step .handoff
  if ready.runtimeProfile.payment then do
    match extractPaymentAmount ready.definition with
    | some amount => Prog.modify (·.setSubmitState (.authorizingPayment amount))
    | none => pure ()
    let outcome ← awaited (submitWithPayment ready attempt key)
    settlePayment outcome
  else do
    let callbacks ← Prog.ask
    let outcome ← awaited (submitOrQueue ready attempt key callbacks.navigatorOnLine)
    settleUnpaid outcome

/-- The signature of the active party; the form goes to the transport once all have signed. -/
def deliverSigned (ready : ReadyState) (attempt : Nat) (key : String) (policy : MultiPartyPolicy) :
    Op SubmitState := do
  let recorded : Except Failure MultiPartySignerProgress ← Prog.awaiting Label.recordSigner
  let completed ← Prog.check recorded
  step .save
  Prog.modify (·.setMultiPartyState completed)
  if !multiPartyComplete policy completed then return awaitingNextParty policy completed
  else do
    let callbacks ← Prog.ask
    Prog.check callbacks.aggregateResponse
    step .save
    deliver ready attempt key

def handIn (ready : ReadyState) (attempt : Nat) (key : String) : Op SubmitState :=
  match ready.multiParty? with
  | none => deliver ready attempt key
  | some (policy, _) => deliverSigned ready attempt key policy

def complete (ready : ReadyState) (attempt : Nat) : Op SubmitState := do
  let callbacks ← Prog.ask
  Prog.check callbacks.engineResponse
  if ready.runtimeProfile.safeAddress then step .safeAddress
  step .save
  handIn ready attempt callbacks.idempotencyKey

/-- The `try` of the handler: the state it sets last. -/
def submission (ready : ReadyState) (result : SubmitResult) (attempt : Nat) : Op SubmitState := do
  step .localeSaves
  step .resolvedIssuer
  Prog.check ready.signerCanSubmit
  step .save
  match result.validationReport.filter (!·.valid) with
  | some report => return .invalid (validationMessage report)
  | none => complete ready attempt

def refusesSubmit : SubmitState → Bool
  | .submitting | .confirmed _ _ | .queued _ | .awaitingNextParty _ _ _ | .authorizingPayment _
  | .capturingPayment _ | .voidingPayment _ => true
  | _ => false

def Render.refuses (closure : Render) (terminalClearRequested : Bool) : Bool :=
  closure.respondentState.ownedRuntime || terminalClearRequested || refusesSubmit closure.submitState

def settledState : Except Failure SubmitState → SubmitState
  | .ok state => state
  | .error error => .error error

def attemptSubmit (thread attempt : Nat) (ready : ReadyState) (result : SubmitResult) : Op Unit := do
  Prog.modify (·.fire thread)
  let outcome ← (submission ready result attempt).outcome
  Prog.modify (·.finish attempt (settledState outcome))

def handleSubmit (thread : Nat) (render : Nat) (result : SubmitResult) : Op Unit := do
  let s ← Prog.get
  match s.renders[render]? with
  | none => pure ()
  | some closure =>
    if closure.refuses s.terminalClearRequested then pure ()
    else attemptSubmit thread s.owners.length closure.respondentState result

def settleReplay (effect : Nat) (queuedKey : String) (outcomes : List ReplayOutcome) : Op Unit := do
  let s ← Prog.get
  if s.cancelled effect then pure ()
  else
    match outcomes.find? fun outcome => outcome.idempotencyKey == queuedKey && outcome.result.isOk with
    | some ⟨_, .ok confirmation⟩ => do
        notifyConfirmed
        Prog.modify (·.setSubmitState (.confirmed confirmation none))
    | _ =>
      match outcomes.find? fun outcome =>
        outcome.idempotencyKey == queuedKey && !outcome.result.isOk with
      | some ⟨_, .error error⟩ => Prog.modify (·.setSubmitState (.error error))
      | _ => pure ()

/-- The `catch` of the listener. -/
def failReplay (effect : Nat) (error : Failure) : Op Unit := do
  let s ← Prog.get
  if s.cancelled effect then pure ()
  else Prog.modify (·.setSubmitState (.error error))

def onlineListener : Op Unit := do
  let s ← Prog.get
  match s.listener with
  | none => pure ()
  | some (effect, queuedKey) =>
    tryCatch (do
      let outcomes ← awaited replay
      settleReplay effect queuedKey outcomes) (failReplay effect)

inductive SessionOp where
  | submit (render : Nat) (result : SubmitResult)
  | render
  | runEffects
  | online
  /-- Another handler sets a ready state, as when the claim is refreshed. -/
  | setRespondentState (ready : ReadyState)
  | requestTerminalClear (requested : Bool)

inductive Arrival where
  | done (result : Except Failure Unit)
  | returned
  | recorded (result : Except Failure MultiPartySignerProgress)
  | derived (result : Except Failure String)
  | authorized (result : Except Failure Authorization)
  | replied (result : Except Failure SubmitConfirmation)
  | captured (result : Except Failure CaptureReceipt)

def accept : SessionState → (l : Label) → Arrival → Option (Rep l)
  | _, .step _, .done result => some result
  | _, .returned, .returned => some ()
  | _, .recordSigner, .recorded result => some result
  | _, .railKey _ _, .derived result => some result
  | _, .authorize _ _ _, .authorized result => some result
  | _, .reply _, .replied result => some result
  | _, .capture _ _, .captured result => some result
  | _, _, _ => none

def program (thread : Nat) : SessionOp → Op Unit
  | .submit render result => handleSubmit thread render result
  | .render => Prog.modify (·.render)
  | .runEffects => Prog.modify (·.runEffects)
  | .online => onlineListener
  | .setRespondentState ready => Prog.modify fun s => { s with respondentState := ready }
  | .requestTerminalClear requested =>
    Prog.modify fun s => { s with terminalClearRequested := requested }

def formSession : System SessionState Callbacks Failure SessionOp Arrival Rep where
  program := program
  accept := accept

end FormspecWeb.App
