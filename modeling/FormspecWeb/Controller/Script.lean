import FormspecWeb.Async.Pool
import FormspecWeb.Controller.State

/-!
# Await points and shared steps of the controller

Each asynchronous call of the controller awaits one port at a time. `Await`
lists the await points, `Reply` the type of each answer, and `Script` is a
program of the controller over its state. The synchronous callbacks of the
configuration are answered once for each segment, by `Callbacks`.
-/

namespace FormspecWeb.Controller

open Shared Ports Engine Async

/-- Which check of `checkEvidence` is awaited. -/
inductive EvidencePurpose where
  | checkpoint
  | save
  | prepare
  | sign
  | restoreSavedDraft
  | restorePending
  | restoredPending
  | restoreSigned
deriving DecidableEq

structure EvidenceCheck where
  purpose : EvidencePurpose
  result : SavedResponseDraft
  expected : Option FormResponse
  actor : Option String

inductive Await where
  | validateResponse
  | validateFrozenResponse
  | hashResponse (hashed : HashedCall)
  | checkEvidence (check : EvidenceCheck)
  | saveDraft (purpose : EvidencePurpose)
  | start
  | prepare
  | sign
  | captureSubmitOptions
  | capture
  | complete
  | afterCommittedDraft
  | joined (promise : Nat)
  | tick
  | loadApplication
  | restorePending

abbrev Reply : Await → Type
  | .validateResponse => Except Failure Bool
  | .validateFrozenResponse => Except Failure ValidatedResponse
  | .hashResponse _ => Except Failure String
  | .checkEvidence _ => EvidenceAnswer
  | .saveDraft _ => Except Failure SavedResponseDraft
  | .start => Except Failure ApplicationCaseReceipt
  | .prepare => Except Failure PreparedResponseSigning
  | .sign => Except Failure SignedResponseSigning
  | .captureSubmitOptions => Except Failure (Option SubmitOptions)
  | .capture => Except Failure PreparedResponseCompletion
  | .complete => Except Failure ResponseCompletionResult
  | .afterCommittedDraft => Unit
  | .joined _ => Except Failure Outputs
  | .tick => Unit
  | .loadApplication => Except Failure (Option ApplicationCaseReceipt)
  | .restorePending => Except Failure RestoredPendingResponseSigning

inductive Answer where
  | valid (answer : Except Failure Bool)
  | validated (answer : Except Failure ValidatedResponse)
  | hash (answer : Except Failure String)
  | evidence (answer : EvidenceAnswer)
  | saved (answer : Except Failure SavedResponseDraft)
  | receipt (answer : Except Failure ApplicationCaseReceipt)
  | preparation (answer : Except Failure PreparedResponseSigning)
  | signature (answer : Except Failure SignedResponseSigning)
  | submitOptions (answer : Except Failure (Option SubmitOptions))
  | captured (answer : Except Failure PreparedResponseCompletion)
  | completion (answer : Except Failure ResponseCompletionResult)
  | loaded (answer : Except Failure (Option ApplicationCaseReceipt))
  | restored (answer : Except Failure RestoredPendingResponseSigning)
  | done

/-- What the configuration's synchronous callbacks answer during one segment. -/
structure Callbacks where
  signingContext : Except Failure Wording
  reviewReady : Except Failure Bool
  generatedKey : String

variable (config : ResponseActionControllerConfig)

abbrev Script (α : Type) := Prog (State config) Callbacks Failure Reply α

/-- A joined promise answers with its settled outcome; every other await takes
the answer delivered to it. -/
def accept (s : State config) : (l : Await) → Answer → Option (Reply l)
  | .validateResponse, .valid answer => some answer
  | .validateFrozenResponse, .validated answer => some answer
  | .hashResponse _, .hash answer => some answer
  | .checkEvidence _, .evidence answer => some answer
  | .saveDraft _, .saved answer => some answer
  | .start, .receipt answer => some answer
  | .prepare, .preparation answer => some answer
  | .sign, .signature answer => some answer
  | .captureSubmitOptions, .submitOptions answer => some answer
  | .capture, .captured answer => some answer
  | .complete, .completion answer => some answer
  | .loadApplication, .loaded answer => some answer
  | .restorePending, .restored answer => some answer
  | .joined promise, .done => (s.promises promise).bind (·.outcome)
  | .tick, .done => some ()
  | .afterCommittedDraft, .done => some ()
  | _, _ => none

def current (generation : Nat) : Script config Unit := do
  let s ← Prog.get
  Prog.check (refuseIf (!s.isCurrent generation) .contextObsolete)

/-- A port call that throws its failed answer. -/
def port {α : Type} (call : Script config (Except Failure α)) : Script config α := do
  let answer ← call
  Prog.check answer

def publish (phase : Phase) (reason : Option ResponseActionControllerReason) :
    Script config Unit :=
  Prog.modify (State.publish phase reason)

def note (entry : Entry config) : Script config Unit := Prog.modify (State.note entry)

def validateResponse (response : FormResponse) : Script config Unit := do
  let answer ← Prog.awaiting Await.validateResponse
  Prog.check (assertControllerResponse config response answer)

/-- `checkEvidence`. The actor pin is read when the check begins. -/
def checkEvidence (t : Nat) (purpose : EvidencePurpose) (result : SavedResponseDraft)
    (expected : Option FormResponse) : Script config Unit := do
  let s ← Prog.get
  let answer ← Prog.awaiting (Await.checkEvidence ⟨purpose, result, expected, s.actor⟩)
  match h : assertSavedResponseDraftEvidence config result expected s.actor answer with
  | .ok () => note config (.passed t ⟨result, expected, s.actor, answer, h⟩)
  | .error failure => do
      note config (.failedEvidence t)
      throw failure

/-- `afterCommit`: a rejected downstream check changes nothing. -/
def afterCommit : Script config Unit := Prog.awaiting Await.afterCommittedDraft

/-- The reason `fail` reports for a thrown value. -/
def Failure.reason : Failure → ResponseActionControllerReason
  | .refusal code => code
  | .completionRefusal code => code.reason
  | .outcomeUnknown | .other => .portFailed

/-- The phase `fail` publishes for a thrown value. -/
def Failure.phase : Failure → Phase
  | .refusal _ | .completionRefusal _ => .refused
  | .outcomeUnknown | .other => .failed

def Failure.leavesOutcomeUnknown (failure : Failure) : Bool :=
  (config.completion.any fun completion => completion.kind == .task) && failure == .outcomeUnknown

/-- The publication `fail` ends with and the reason it returns. -/
def report (failure : Failure) : Script config ResponseActionControllerReason := do
  let s ← Prog.get
  if s.completionOutcomeUnknown then
    publish config .outcomeUnknown (some .completionOutcomeUnknown)
    return .completionOutcomeUnknown
  else if failure.reason != .contextObsolete && s.completionResult.isNone then
    publish config failure.phase (some failure.reason)
    return failure.reason
  else
    return failure.reason

def fail (failure : Failure) (generation : Nat) : Script config ResponseActionControllerReason := do
  let s ← Prog.get
  if generation != s.epoch then
    return .contextObsolete
  else if failure.leavesOutcomeUnknown config then
    Prog.modify State.leaveOutcomeUnknown
    report config failure
  else
    report config failure

end FormspecWeb.Controller
