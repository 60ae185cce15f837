import FormspecWeb.Async.Steps
import FormspecWeb.Shared.Text
import FormspecWeb.Shared.Value
import Mathlib.Data.List.Sort

/-!
# The HTTP task completion port

One call of `complete`, from await to await: the POST of the submission, the receipt it is accepted
with, and the reads of that receipt until it carries the outcome. The guards of the caller and of
the session are run behind every await; what they throw comes with the event, and so does what the
deadline or the caller aborts with.
-/

namespace FormspecWeb.Completion

open Shared

/-- What is thrown; a timeout is a `DOMException` of the name `TimeoutError`. -/
inductive Failure where
  | timeout
  | http (status : Nat) (responseBody : Value)
  | other (message : String)

structure TaskCompletionSelection where
  taskId : String
  processId : String
  definitionUrl : String
  definitionVersion : String

structure HttpTaskCompletionConfig where
  selection : TaskCompletionSelection
  submissionShape : Value → Bool
  outcomeShape : Value → Bool
  snapshotFiniteJson : Value → Except Failure Value
  /-- The bytes of `JSON.stringify(value)`. -/
  jsonByteLength : Value → Nat

structure PendingReceipt where
  acceptedCommandRef : String
  receiptUrl : String
deriving DecidableEq

inductive TaskRequest where
  | post (path : String) (body : Value) (idempotencyKey : String)
  | get (path : String)

structure TaskReply where
  status : Nat
  json : Bool
  /-- `cache-control` has `no-store`. -/
  noStore : Bool

inductive TaskResult where
  | completed (event : Value)
  | outcomeUnknown
  | failed (failure : Failure)

/-- What `complete` waits for, with the receipt it reads; none before the POST is answered. -/
inductive TaskStage where
  | idle
  | credentials (receipt : Option PendingReceipt)
  | requested (receipt : Option PendingReceipt)
  | reading (receipt : Option PendingReceipt) (reply : TaskReply)
  | waiting (receipt : PendingReceipt)
  | settled (result : TaskResult)

structure TaskCall where
  stage : TaskStage
  operationId : String
  body : Value
  dispatched : Bool
  requests : List TaskRequest
  replies : List (Nat × Value)
  failure : Option Failure

namespace TaskCall

variable (config : HttpTaskCompletionConfig)

def opened : TaskCall := ⟨.idle, "", .undefined, false, [], [], none⟩

def sortedKeys (value : Value) : String :=
  ",".intercalate ((value.members.map Prod.fst).insertionSort (· ≤ ·))

def textAt (value : Value) (key : String) : Option String := (value.get? key).bind Value.text?

/-- `/^[A-Za-z0-9_-]{1,128}$/`. -/
def isCommandRef (value : String) : Bool :=
  let chars := value.toList
  1 ≤ chars.length && chars.length ≤ 128
    && chars.all fun c => isAsciiLetter c || isAsciiDigit c || c == '_' || c == '-'

def receiptOf (value : Value) : Option PendingReceipt := do
  let acceptedCommandRef ← textAt value "acceptedCommandRef"
  let receiptUrl ← textAt value "receiptUrl"
  if value.isPlainObject && sortedKeys value == "acceptedCommandRef,receiptUrl"
      && isCommandRef acceptedCommandRef
      && receiptUrl == "/api/v1/accepted-commands/" ++ acceptedCommandRef
        ++ "?operation=task-submit" then
    some ⟨acceptedCommandRef, receiptUrl⟩
  else none

def pendingReceipt (error : Failure) (original : Option PendingReceipt) :
    Except Failure PendingReceipt :=
  match error with
  | .http 202 value =>
    match receiptOf value with
    | some receipt =>
      if original.all (· == receipt) then .ok receipt
      else .error (.other "Pending task receipt mismatch")
    | none => .error (.other "Pending task receipt mismatch")
  | error => .error error

def admits (body : Value) (operationId : String) : Bool :=
  let response := (body.get? "response").getD .undefined
  config.submissionShape body
    && ["definitionUrl,definitionVersion,response",
      "definitionUrl,definitionVersion,response,signedDraft"].contains (sortedKeys body)
    && textAt body "definitionUrl" == some config.selection.definitionUrl
    && textAt body "definitionVersion" == some config.selection.definitionVersion
    && textAt response "definitionUrl" == textAt body "definitionUrl"
    && textAt response "definitionVersion" == textAt body "definitionVersion"
    && textAt response "status" == some "completed"
    && ((response.get? "authoredSignatures").bind Value.entries?).any (!·.isEmpty)
    && isLosslessHttpIdempotencyKey operationId
    && config.jsonByteLength body ≤ 2 * 1024 * 1024

def completes (event : Value) : Bool :=
  config.outcomeShape event && textAt event "taskId" == some config.selection.taskId
    && textAt event "processId" == some config.selection.processId
    && textAt event "outcome" == some "completed" && textAt event "newStatus" == some "submitted"

def path : String :=
  "/api/v1/tasks/" ++ encodeURIComponent config.selection.taskId ++ "/response"

/-- The `catch` around `complete`. -/
def fail (s : TaskCall) (failure : Failure) : TaskCall :=
  let result := match failure with
    | .timeout => if s.dispatched then .outcomeUnknown else .failed .timeout
    | failure => .failed failure
  { s with stage := .settled result, failure := some failure }

/-- A check throws, or the call goes on. -/
def guarded (s : TaskCall) (guard : Option Failure) (next : TaskCall → TaskCall) : TaskCall :=
  match guard with
  | some failure => s.fail failure
  | none => next s

def request (s : TaskCall) (receipt : Option PendingReceipt) : TaskCall :=
  match receipt with
  | none => { s with
      stage := .requested none
      dispatched := true
      requests := s.requests ++ [.post (path config) s.body s.operationId] }
  | some receipt => { s with
      stage := .requested (some receipt)
      requests := s.requests ++ [.get receipt.receiptUrl] }

def conclude (s : TaskCall) (raw : Value) : TaskCall :=
  match config.snapshotFiniteJson raw with
  | .error failure => s.fail failure
  | .ok event =>
    if completes config event then { s with stage := .settled (.completed event) }
    else s.fail (.other "Task completion outcome mismatch")

/-- A payload was read; `late` is what the check of the outcome throws. -/
def received (s : TaskCall) (receipt : Option PendingReceipt) (reply : TaskReply) (payload : Value)
    (late : Option Failure) : TaskCall :=
  if reply.status != 200 then
    match pendingReceipt (.http reply.status payload) receipt with
    | .ok receipt => { s with stage := .waiting receipt }
    | .error failure => s.fail failure
  else if receipt.isSome && !reply.noStore then
    s.fail (.other "HTTP response must prohibit storage")
  else s.guarded late fun s => s.conclude config payload

inductive Event where
  | complete (submission : Value) (operationId : String) (guard : Option Failure)
  | token (token : Except Failure String) (session guard : Option Failure)
  | reply (reply : TaskReply) (guard : Option Failure)
  | unreachable (failure : Failure)
  | body (payload : Except Failure Value) (guard late : Option Failure)
  | timer (guard : Option Failure)
  | abort (reason : Failure)

def step (s : TaskCall) : Event → Option TaskCall
  | .complete submission operationId guard =>
    match s.stage with
    | .idle => some (s.guarded guard fun s =>
      match config.snapshotFiniteJson submission with
      | .error failure => s.fail failure
      | .ok body =>
        if admits config body operationId then
          { s with stage := .credentials none, operationId := operationId, body := body }
        else s.fail (.other "Task completion candidate mismatch"))
    | _ => none
  | .token token session guard =>
    match s.stage with
    | .credentials receipt =>
      match token with
      | .error failure => some (s.fail failure)
      | .ok token => some (s.guarded session fun s =>
        if hasText token then s.guarded guard fun s => s.request config receipt
        else s.fail (.other "Selected WOS session is unavailable"))
    | _ => none
  | .reply reply guard =>
    match s.stage with
    | .requested receipt => some (s.guarded guard fun s =>
      if reply.json then { s with stage := .reading receipt reply }
      else s.fail (.other "HTTP response must contain JSON"))
    | _ => none
  | .unreachable failure =>
    match s.stage with
    | .requested _ => some (s.fail failure)
    | _ => none
  | .body payload guard late =>
    match s.stage with
    | .reading receipt reply =>
      match payload with
      | .error failure => some (s.fail failure)
      | .ok payload =>
        some (({ s with replies := s.replies ++ [(reply.status, payload)] } : TaskCall).guarded
          guard fun s => s.received config receipt reply payload late)
    | _ => none
  | .timer guard =>
    match s.stage with
    | .waiting receipt =>
      some (s.guarded guard fun s => { s with stage := .credentials (some receipt) })
    | _ => none
  | .abort reason =>
    match s.stage with
    | .idle | .settled _ => none
    | _ => some (s.fail reason)

end TaskCall

end FormspecWeb.Completion
