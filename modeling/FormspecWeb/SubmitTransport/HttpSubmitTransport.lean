import FormspecWeb.Async.History
import FormspecWeb.Async.Pool
import FormspecWeb.Shared.Checks
import FormspecWeb.Shared.Text
import FormspecWeb.Shared.Value

/-!
# The HTTP submit transport

`submit` as a program over the finalized handoffs and the replay map of one transport,
with the callers' objects, which their owners may change between calls.
-/

namespace FormspecWeb.SubmitTransport

open Shared Async

inductive SubmitError where
  | failed (message : String)
  | http (status : Nat)
deriving DecidableEq

structure HttpSubmitTransportConfig where
  /-- The `canonicalize` package. -/
  canonicalize : Value → Option String
  /-- `snapshotFiniteJson` of the surface package. -/
  snapshotFiniteJson : Value → Except SubmitError Value

structure Finalized where
  handoff : Value
  options : Value

structure SubmitConfirmation where
  recordKind : String
  referenceNumber : Value
  status : Value

structure ResponseView where
  responseId : Value
  status : Value

/-- The members of the body that are read off the handoff and its options. -/
structure HandoffBody where
  responseId : Option String
  responseData : Value
  canonicalResponse : Value
  nativeCurrentCheck : Option Value
  subjectRef : Value
  partyRef : Option String

structure SubmitRequest extends HandoffBody where
  draftId : String
  anonymousSessionToken : Option String
  signingRequested : Bool

def isCanonicalResponse (value : Value) : Bool :=
  value.isPlainObject && (value.get? "data").any (·.isPlainObject)

/-- `handoff.extensions?.[name]`. -/
def extension? (handoff : Value) (name : String) : Option Value :=
  (handoff.get? "extensions").bind (·.get? name)

def requireCanonicalResponse (handoff : Value) : Except SubmitError Value :=
  match (extension? handoff "x-formspec-response").filter isCanonicalResponse with
  | some response => .ok response
  | none => .error
      (.failed "HTTP SubmitTransport requires a canonical Response snapshot with object data")

def partyRefFromHandoff (handoff : Value) : Option String :=
  (extension? handoff "x-formspec-active-party-ref").bind (·.nonEmptyString?)

def isRunRevision : Value → Bool
  | .number value => value.den == 1 && 1 ≤ value.num
  | _ => false

/-- `Number.isSafeInteger(value)`. -/
def isSafeIntegerValue : Value → Bool
  | .number value => value.den == 1 && isSafeInteger value.num
  | _ => false

def isNativeCurrentCheck (value : Value) : Bool :=
  value.isPlainObject
    && (value.get? "selectionHash").any (fun hash => hash.text?.any isSha256Digest)
    && (value.get? "runId").any (fun run => run.text?.any fun id => 1 ≤ id.length && id.length ≤ 2048)
    && (value.get? "runRevision").any isRunRevision
    && value.members.all fun (name, _) => ["selectionHash", "runId", "runRevision"].contains name

variable (config : HttpSubmitTransportConfig)

def snapshotNativeCurrentCheck (value : Value) : Except SubmitError Value := do
  let selected ← config.snapshotFiniteJson value
  failIf (!isNativeCurrentCheck selected) (.failed "Invalid native selector")
  failIf (!(selected.get? "runRevision").any isSafeIntegerValue)
    (.failed "Invalid native selector revision")
  return selected

def snapshotSubmitOptions (options : Value) : Except SubmitError Value :=
  if !options.isPlainObject || options.members.any (fun (name, _) => name != "nativeCurrentCheck") then
    .error (.failed "Invalid native selector options")
  else
    match options.get? "nativeCurrentCheck" with
    | none => .ok (.object [])
    | some value => do
        let selected ← snapshotNativeCurrentCheck config value
        return .object [("nativeCurrentCheck", selected)]

def snapshotId (canonicalResponse : Value) : Option String :=
  (canonicalResponse.get? "id").bind (·.text?)

def snapshotData (canonicalResponse : Value) : Value := (canonicalResponse.get? "data").getD .undefined

def handoffBody (finalized : Finalized) (canonicalResponse : Value) (responseId : Option String) :
    HandoffBody where
  responseId := responseId
  responseData := snapshotData canonicalResponse
  canonicalResponse := canonicalResponse
  nativeCurrentCheck := finalized.options.get? "nativeCurrentCheck"
  subjectRef := (finalized.handoff.get? "subjectRef").getD .null
  partyRef := partyRefFromHandoff finalized.handoff

/-- What happened: a call with what it was called with and the submission it takes part in,
the request of a submission, its answer, its outcome, and what a call returned. Calls are
numbered, and a submission has the number of the call that started it. -/
inductive Entry where
  | called (call : Nat) (key : String) (handoff options : Value)
      (current : Except SubmitError Unit) (admission : Except SubmitError Nat)
  | sent (call : Nat) (key : String) (request : SubmitRequest)
  | answered (call : Nat) (key : String)
  | settled (call : Nat) (key : String) (outcome : Except SubmitError SubmitConfirmation)
  | returned (call : Nat) (key : String) (outcome : Except SubmitError SubmitConfirmation)

structure TransportState where
  owners : List Nat
  objects : Nat → Value
  finalizedHandoffs : String → Option Finalized
  replay : String → Option Nat
  outcomes : Nat → Option (Except SubmitError SubmitConfirmation)
  /-- What happened, newest entry first. -/
  log : List Entry

def TransportState.initial : TransportState :=
  ⟨[], fun _ => .undefined, fun _ => none, fun _ => none, fun _ => none, []⟩

/-- The synchronous callbacks of one segment; a resolver that is not configured returns none. -/
structure Callbacks where
  assertCurrent : Except SubmitError Unit
  responseDataResolver : Except SubmitError (Option Value)
  responseIdResolver : Except SubmitError (Option String)
  signingRequested : Except SubmitError Bool

inductive Label where
  /-- `draftIdResolver(handoff)`. -/
  | draftId (handoff : Value)
  /-- `anonymousSessionToken(handoff)`. -/
  | token (handoff : Value)
  | credentials
  | reply (call : Nat) (key : String) (request : SubmitRequest)
  | submission (call : Nat)

def Rep : Label → Type
  | .draftId _ => Except SubmitError (Option String)
  | .token _ => Except SubmitError (Option String)
  | .credentials => Except SubmitError Unit
  | .reply _ _ _ => Except SubmitError ResponseView
  | .submission _ => Except SubmitError SubmitConfirmation

abbrev Op := Prog TransportState Callbacks SubmitError Rep

namespace TransportState

def begin (thread : Nat) (s : TransportState) : TransportState := { s with owners := s.owners ++ [thread] }

def note (entry : Entry) (s : TransportState) : TransportState := { s with log := entry :: s.log }

/-- `finalizedHandoffs.set(idempotencyKey, finalized)`. -/
def finalize (key : String) (finalized : Finalized) (s : TransportState) : TransportState :=
  { s with finalizedHandoffs := Function.update s.finalizedHandoffs key (some finalized) }

/-- `replay.set(idempotencyKey, submission)`. -/
def start (key : String) (call : Nat) (s : TransportState) : TransportState :=
  { s with replay := Function.update s.replay key (some call) }

/-- `replay.delete(idempotencyKey)`. -/
def forget (key : String) (s : TransportState) : TransportState :=
  { s with replay := Function.update s.replay key none }

def settle (call : Nat) (outcome : Except SubmitError SubmitConfirmation) (s : TransportState) :
    TransportState :=
  { s with outcomes := Function.update s.outcomes call (some outcome) }

end TransportState

def failed {α : Type} (message : String) : Op α := .done (.error (.failed message))

/-- `assertSynchronousGuard(assertCurrent)`. -/
def current : Op Unit := do
  let callbacks ← Prog.ask
  Prog.check callbacks.assertCurrent

def isStatus (reply : Except SubmitError ResponseView) : Bool :=
  match reply with
  | .error (.http _) => true
  | _ => false

/-- `client.postJson`; the request is in flight until its answer is read. -/
def postJson (call : Nat) (key : String) (request : SubmitRequest) : Op ResponseView := do
  current
  let credentials : Except SubmitError Unit ← Prog.awaiting Label.credentials
  Prog.check credentials
  current
  Prog.modify (·.note (.sent call key request))
  let reply : Except SubmitError ResponseView ← Prog.awaiting (Label.reply call key request)
  Prog.modify (·.note (.answered call key))
  -- A failure of the transport is not followed by the guard.
  if reply.isOk || isStatus reply then current
  Prog.check reply

/-- The configured data or identity is not that of the canonical Response. -/
def conflicts (canonicalResponse : Value) (configuredAnswers : Option Value)
    (configuredId : Option String) : Bool :=
  (configuredAnswers.any fun answers =>
    config.canonicalize answers != config.canonicalize (snapshotData canonicalResponse))
  || (configuredId.any fun id => some id != snapshotId canonicalResponse)

def isOtherResponse (canonicalResponse : Value) (response : ResponseView) : Bool :=
  ((snapshotId canonicalResponse).filter truthy).any fun id => !response.responseId.isString id

def submitDraft (call : Nat) (finalized : Finalized) (canonicalResponse : Value) (key : String)
    (draftId : String) : Op SubmitConfirmation := do
  let callbacks ← Prog.ask
  let configuredAnswers ← Prog.check callbacks.responseDataResolver
  let configuredId ← Prog.check callbacks.responseIdResolver
  if conflicts config canonicalResponse configuredAnswers configuredId then
    failed "Submission data or identity conflicts with the canonical Response"
  else do
    let resolved : Except SubmitError (Option String) ←
      Prog.awaiting (Label.token finalized.handoff)
    let token ← Prog.check resolved
    current
    let callbacks ← Prog.ask
    let signingRequested ← Prog.check callbacks.signingRequested
    let response ← postJson call key
      { toHandoffBody := handoffBody finalized canonicalResponse
          (configuredId.or (snapshotId canonicalResponse))
        draftId := draftId, anonymousSessionToken := token, signingRequested := signingRequested }
    if isOtherResponse canonicalResponse response then
      failed "Server response identity differs from the canonical Response"
    else return ⟨"response", response.responseId, response.status⟩

def submitOnce (call : Nat) (finalized : Finalized) (canonicalResponse : Value) (key : String) :
    Op SubmitConfirmation := do
  let resolved : Except SubmitError (Option String) ←
    Prog.awaiting (Label.draftId finalized.handoff)
  let draftId ← Prog.check resolved
  current
  match draftId.filter truthy with
  | none => failed "HTTP SubmitTransport requires a draft id for formspec-server submission"
  | some draftId => submitDraft config call finalized canonicalResponse key draftId

/-! ## Calls -/

/-- The checks of a call, with what it submits and the canonical Response in it. -/
def checkCall (s : TransportState) (assertCurrent : Except SubmitError Unit) (key : String)
    (handoff options : Value) : Except SubmitError (Finalized × Value) := do
  assertCurrent
  failIf (!isUuidV7IdempotencyKey key)
    (.failed "Expected idempotency-key to be a UUIDv7 value")
  let _ ← requireCanonicalResponse handoff
  let selectedOptions ← snapshotSubmitOptions config options
  match s.finalizedHandoffs key with
  | none => do
      let canonicalResponse ← requireCanonicalResponse handoff
      return (⟨handoff, selectedOptions⟩, canonicalResponse)
  | some finalized => do
      failIf (config.canonicalize finalized.handoff != config.canonicalize handoff)
        (.failed "A submission retry must preserve the finalized Response snapshot")
      failIf (config.canonicalize finalized.options != config.canonicalize selectedOptions)
        (.failed "A submission retry must preserve its native selector")
      let canonicalResponse ← requireCanonicalResponse finalized.handoff
      return (finalized, canonicalResponse)

/-- A call that is admitted while a submission of its key is in flight or confirmed. -/
def join (call : Nat) (key : String) (submission : Nat) : Op Unit := do
  let outcome : Except SubmitError SubmitConfirmation ← Prog.awaiting (Label.submission submission)
  Prog.modify (·.note (.returned call key outcome))

def launch (call : Nat) (finalized : Finalized) (canonicalResponse : Value) (key : String) :
    Op Unit := do
  let outcome ← (submitOnce config call finalized canonicalResponse key).outcome
  Prog.modify fun s => (s.settle call outcome).note (.settled call key outcome)
  let outcome : Except SubmitError SubmitConfirmation ← Prog.awaiting (Label.submission call)
  if !outcome.isOk then Prog.modify (·.forget key)
  Prog.modify (·.note (.returned call key outcome))

def proceed (call : Nat) (key : String) (handoff options : Value) (current : Except SubmitError Unit)
    (existing : Option Nat) : Except SubmitError (Finalized × Value) → Op Unit
  | .error error =>
    Prog.modify (·.note (.called call key handoff options current (.error error)))
  | .ok (finalized, canonicalResponse) =>
    match existing with
    | some submission => do
        Prog.modify fun s =>
          (s.finalize key finalized).note (.called call key handoff options current (.ok submission))
        join call key submission
    | none => do
        Prog.modify fun s =>
          ((s.finalize key finalized).note (.called call key handoff options current (.ok call))).start
            key call
        launch config call finalized canonicalResponse key

def submit (thread : Nat) (handoffObject : Nat) (key : String) (optionsObject : Nat) : Op Unit := do
  let callbacks ← Prog.ask
  let s ← Prog.get
  let handoff := s.objects handoffObject
  let options := (s.objects optionsObject).defined?.getD (.object [])
  Prog.modify (·.begin thread)
  proceed config s.owners.length key handoff options callbacks.assertCurrent (s.replay key)
    (checkCall config s callbacks.assertCurrent key handoff options)

inductive TransportOp where
  | submit (handoffObject : Nat) (key : String) (optionsObject : Nat)
  | mutate (object : Nat) (value : Value)

inductive Arrival where
  | resolved (result : Except SubmitError (Option String))
  | credentials (result : Except SubmitError Unit)
  | replied (result : Except SubmitError ResponseView)
  | settled

def accept (s : TransportState) : (l : Label) → Arrival → Option (Rep l)
  | .draftId _, .resolved result => some result
  | .token _, .resolved result => some result
  | .credentials, .credentials result => some result
  | .reply _ _ _, .replied result => some result
  | .submission call, .settled => s.outcomes call
  | _, _ => none

def program (thread : Nat) : TransportOp → Op Unit
  | .submit handoffObject key optionsObject => submit config thread handoffObject key optionsObject
  | .mutate object value => Prog.modify fun s =>
    { s with objects := Function.update s.objects object value }

def submitTransport : System TransportState Callbacks SubmitError TransportOp Arrival Rep where
  program := program config
  accept := accept

end FormspecWeb.SubmitTransport
