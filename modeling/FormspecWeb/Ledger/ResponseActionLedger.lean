import FormspecWeb.Shared.Base64
import FormspecWeb.Shared.Checks
import FormspecWeb.Shared.Value
import Mathlib.Algebra.Order.Ring.Rat

/-!
# The ledger of response actions

An invoker runs an action on the engine, records its lifecycle, and sends one batch of what happened
to the ledger under an idempotency key of the batch. The ledger answers with a receipt. What the engine
records and what the servers answer are inputs of the model.
-/

namespace FormspecWeb.Ledger

open Shared

structure LifecyclePayload where
  actionId : String
  invocationId : String
  attempt : Rat
  terminal : Option String
  effectIndex : Option Nat
  replayTokenRef : Option String
  priorInvocationRef : Option String
  causeRef : Option String
deriving DecidableEq

structure LifecycleOp where
  kind : String
  payload : LifecyclePayload
deriving DecidableEq

structure EffectOutcome where
  type : String
  status : String
  idempotencyKey : Option String
  outcomeRef : Option String
  reason : Option String
  replayToken : Option String
deriving DecidableEq

structure InvocationResult where
  status : String
  /-- The id of the action of the resolution, where it is resolved. -/
  action : Option String
  effectTrace : List EffectOutcome
  blockedCause : Option String
  blockedPreconditionId : Option String
  deferredPreconditionId : Option String
  failedPreconditionId : Option String
  failedEffectIndex : Option Nat
  deferredEffectIndex : Option Nat
  failureReason : Option String
  replayToken : Option String
deriving DecidableEq

/-- What `invokeResponseAction` records in its order, and what it returns. -/
structure InvocationRecord where
  lifecycle : List LifecycleOp
  invocation : InvocationResult

structure EffectOutcomeOp where
  actionId : String
  invocationId : String
  effectIndex : Nat
  effectType : String
  status : String
  idempotencyKey : Option String
  outcomeRef : Option String
  reason : Option String
  replayToken : Option String
deriving DecidableEq

structure InvocationOp where
  actionId : String
  invocationId : String
  status : String
  blockedCause : Option String
  blockedPreconditionId : Option String
  deferredPreconditionId : Option String
  failedPreconditionId : Option String
  failedEffectIndex : Option Nat
  deferredEffectIndex : Option Nat
  failureReason : Option String
  replayToken : Option String
  durableEffectCount : Nat
deriving DecidableEq

inductive SemanticOp where
  | lifecycle (op : LifecycleOp)
  | effectOutcome (op : EffectOutcomeOp)
  | invocation (op : InvocationOp)
deriving DecidableEq

structure AuthorActor where
  id : String
  kind : String
  actChannel : String
deriving DecidableEq

structure SessionRef where
  id : String
  openedAt : String
  actors : List String
deriving DecidableEq

structure SessionOpBatch where
  version : String
  sessionRef : SessionRef
  branchId : String
  actor : AuthorActor
  artifactRefs : List String
  previousHeads : List String
  newHeads : List String
  semanticOps : List SemanticOp
  changeHashes : List String
deriving DecidableEq

structure AppendCommand where
  ledgerScope : String
  sessionRef : SessionRef
  branchId : String
  opBatch : SessionOpBatch
  opBatchHash : String
  idempotencyKey : String
  mode : String
deriving DecidableEq

/-! ## The batch -/

/-- `outcome.type === 'hostEvent'`: it leaves nothing durable. -/
def isHostEvent (outcome : EffectOutcome) : Bool := outcome.type == "hostEvent"

def effectOutcomeSemanticOp (actionId invocationId : String) (outcome : EffectOutcome)
    (effectIndex : Nat) : EffectOutcomeOp where
  actionId
  invocationId
  effectIndex
  effectType := outcome.type
  status := outcome.status
  idempotencyKey := outcome.idempotencyKey
  outcomeRef := outcome.outcomeRef
  reason := outcome.reason
  replayToken := outcome.replayToken

def effectOutcomeSemanticOps (actionId invocationId : String) (effectTrace : List EffectOutcome) :
    List EffectOutcomeOp :=
  effectTrace.zipIdx.flatMap fun (outcome, effectIndex) =>
    if isHostEvent outcome then []
    else [effectOutcomeSemanticOp actionId invocationId outcome effectIndex]

def invocationSemanticOp (invocation : InvocationResult) (actionId invocationId : String)
    (durableEffectCount : Nat) : InvocationOp where
  actionId
  invocationId
  status := invocation.status
  blockedCause := invocation.blockedCause
  blockedPreconditionId := invocation.blockedPreconditionId
  deferredPreconditionId := invocation.deferredPreconditionId
  failedPreconditionId := invocation.failedPreconditionId
  failedEffectIndex := invocation.failedEffectIndex
  deferredEffectIndex := invocation.deferredEffectIndex
  failureReason := invocation.failureReason
  replayToken := invocation.replayToken
  durableEffectCount

/-- The hashes of the platform; none where a value has no canonical text. -/
structure LedgerHashing where
  computeJcsSha256Digest : SessionOpBatch → Option String
  sha256Prefixed : String → String

def lengthPrefixed (part : String) : String := toString (codeUnits part).length ++ ":" ++ part

def idempotencyMaterial (ledgerScope branchId opBatchHash : String) : String :=
  "|".intercalate ([ledgerScope, branchId, opBatchHash].map lengthPrefixed)

def studioLedgerIdempotencyKey (hashing : LedgerHashing) (ledgerScope branchId opBatchHash : String) :
    String :=
  hashing.sha256Prefixed (idempotencyMaterial ledgerScope branchId opBatchHash)

/-- What the invoker adds to an invocation; an option that is not set has its default. -/
structure LedgerInput where
  sessionId : String
  invocationId : Option String
  branchId : String
  actor : AuthorActor
  artifactRefs : List String
  previousHeads : List String
  newHeads : List String
  changeHashes : List String
  now : String

def canonicalizeError : String := "canonicalize() returned non-string for the supplied value"

/-- The command of an invocation; an action that is not resolved has none. -/
def invokeWithLedger (hashing : LedgerHashing) (input : LedgerInput) (record : InvocationRecord) :
    Except String (Option AppendCommand) :=
  match record.invocation.action with
  | none => .ok none
  | some actionId =>
    let invocationId := (record.lifecycle.head?.map (·.payload.invocationId)).getD
      (input.invocationId.getD (actionId ++ ":unknown-invocation"))
    let durableEffectOps :=
      effectOutcomeSemanticOps actionId invocationId record.invocation.effectTrace
    let ledgerScope := "urn:formspec:session:" ++ input.sessionId
    let sessionRef : SessionRef := ⟨ledgerScope, input.now, [input.actor.id]⟩
    let opBatch : SessionOpBatch := {
      version := "1.0.0"
      sessionRef
      branchId := input.branchId
      actor := input.actor
      artifactRefs := input.artifactRefs
      previousHeads := input.previousHeads
      newHeads := input.newHeads
      semanticOps := record.lifecycle.map .lifecycle ++ durableEffectOps.map .effectOutcome
        ++ [.invocation (invocationSemanticOp record.invocation actionId invocationId
          durableEffectOps.length)]
      changeHashes := input.changeHashes }
    match hashing.computeJcsSha256Digest opBatch with
    | none => .error canonicalizeError
    | some opBatchHash => .ok (some {
        ledgerScope
        sessionRef
        branchId := input.branchId
        opBatch
        opBatchHash
        idempotencyKey := studioLedgerIdempotencyKey hashing ledgerScope input.branchId opBatchHash
        mode := "require-anchored" })

/-! ## Replies -/

/-- The answer of a server; none for a body that is no JSON. -/
structure LedgerReply where
  ok : Bool
  status : Nat
  statusText : String
  payload : Option Value

def problemDetail (reply : LedgerReply) : String :=
  let member := fun key => (reply.payload.bind (·.get? key)).bind Value.text?
  match member "detail", member "title" with
  | some detail, _ => detail
  | none, some title => title
  | none, none => if reply.statusText.isEmpty then "HTTP " ++ toString reply.status else reply.statusText

structure AppendReceipt where
  ledgerScope : String
  priorEventHash : Option String
  eventHash : String
  idempotencyKey : String
  substrateEventId : Option String
  sequence : Option Rat
  checkpointReference : Option String
deriving DecidableEq

def stringField (payload : Value) (field : String) : Except String String :=
  match (payload.get? field).bind Value.nonEmptyString? with
  | some entry => .ok entry
  | none => .error s!"Response Actions Ledger append response missing string field: {field}."

def nullableStringField (payload : Value) (field : String) : Except String (Option String) :=
  match payload.get? field with
  | none | some .null => .ok none
  | some entry =>
    match entry.nonEmptyString? with
    | some text => .ok (some text)
    | none => .error s!"Response Actions Ledger append response has invalid field: {field}."

def optionalStringField (payload : Value) (field : String) : Option String :=
  (payload.get? field).bind Value.nonEmptyString?

def optionalNumberField (payload : Value) (field : String) : Option Rat :=
  match payload.get? field with
  | some (.number value) => some value
  | _ => none

def notAnchored : String :=
  "Response Actions Ledger append response must be an anchored JSON object."

def parseAnchoredReceipt (payload : Value) : Except String AppendReceipt :=
  if !(payload.isPlainObject && (payload.get? "status").any (·.isString "anchored")) then
    .error notAnchored
  else do
    let ledgerScope ← stringField payload "ledgerScope"
    let priorEventHash ← nullableStringField payload "priorEventHash"
    let eventHash ← stringField payload "eventHash"
    let idempotencyKey ← stringField payload "idempotencyKey"
    return {
      ledgerScope, priorEventHash, eventHash, idempotencyKey
      substrateEventId := optionalStringField payload "substrateEventId"
      sequence := optionalNumberField payload "sequence"
      checkpointReference := optionalStringField payload "checkpointReference" }

/-- `value && value.trim() === value`. -/
def isTrimmedText (value : String) : Bool :=
  value != "" && value.toList.head?.all (!isTrimmed ·) && value.toList.getLast?.all (!isTrimmed ·)

/-- A value `Headers.set` takes. -/
def isHeaderValue (value : String) : Bool :=
  value.toList.all fun c => c.toNat ≤ 0xFF && c.toNat != 0 && c.toNat != 10 && c.toNat != 13

def badCapability : String :=
  "Response Actions Ledger capability must be a non-empty trimmed string."

def noJson : String := "Unexpected end of JSON input"

def noReply : String := "Failed to fetch"

def badHeader : String := "Invalid header value"

/-- Sends a command under a capability; none for a request that fails. -/
def appendSessionOpBatch (capability : String) (reply : Option LedgerReply) :
    Except String AppendReceipt :=
  if !isTrimmedText capability then .error badCapability
  else if !isHeaderValue capability then .error badHeader
  else match reply with
    | none => .error noReply
    | some reply =>
      if !reply.ok then
        .error s!"Response Actions Ledger append failed ({reply.status}): {problemDetail reply}"
      else match reply.payload with
        | none => .error noJson
        | some payload => parseAnchoredReceipt payload

end FormspecWeb.Ledger
