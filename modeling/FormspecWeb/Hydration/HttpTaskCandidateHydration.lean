import FormspecWeb.Evaluation.Composition
import FormspecWeb.Shared.InsertionMap

/-!
# Task candidate hydration

A call reads the candidate of one saved draft: it hashes what it asks for, compares the reply with what
it asked, and hands a qualified view to the selected verifier. It waits in between, and a later call,
an edit or the disposal of the object retires it. The candidate that it returns is asked again and
again whether it is current. Replies come decoded; a call whose signal is aborted is rejected at once,
and what is left of its body changes nothing.
-/

namespace FormspecWeb.Hydration

open Shared Evaluation

/-! ## What is compared -/

structure TaskDraftAssociation where
  version : Rat
  associationHash : String
  taskBindingHash : String
  deriving DecidableEq

/-- The members of `selection` that are read, and the whole of it. -/
structure Selection where
  scope : Value
  formVersionId : String
  definitionUrl : String
  definitionVersion : String
  definitionHash : String
  requiredSources : List String
  value : Value

structure Identity where
  issuer : String
  subject : String
  clientId : Option String
  deriving DecidableEq

structure SavedResponseDraft where
  actorId : String
  keySubjectRef : String
  keyFormUrl : String
  keyFormVersion : String
  draftId : String
  draftVersion : Rat
  responseDefinitionUrl : String
  responseDefinitionVersion : String
  response : Value
  data : Value
  taskDraft : Option TaskDraftAssociation
  evidenceSubjectRef : String
  evidenceFormVersionId : String
  evidenceStatus : String
  evidenceDraftId : String
  evidenceDraftVersion : Rat
  canonicalResponse : Value
  draftState : Value

structure Authenticated where
  subjectRef : String
  sessionId : String
  identity : Identity

structure Owner where
  sessionId : String
  subjectRef : String
  authenticated : Option Authenticated
  value : Value

structure View where
  scope : Value
  selection : Value
  owner : Owner
  formVersionHash : String
  draftId : String
  draftVersion : Rat
  candidateHash : String
  sources : Value
  requestHash : String
  results : List EvaluationHydrationResult
  providerReceipt : Option Value

structure HydrationPlatform where
  canonicalize : Value → String
  /-- `computeJcsSha256Digest`, with what it rejects with. -/
  hash : Value → Except String String

def HydrationPlatform.equal (platform : HydrationPlatform) (left right : Value) : Bool :=
  platform.canonicalize left == platform.canonicalize right

structure HttpTaskCandidateHydrationConfig where
  platform : HydrationPlatform
  definition : Value
  selection : Selection
  formVersionHash : String
  taskDraft : TaskDraftAssociation
  subjectRef : String
  identity : Identity
  /-- `receiptVerifier` is selected. -/
  receiptVerifier : Bool

def fail (detail : String) : String := "Source task candidate hydration " ++ detail

/-- `value.source`, where it is a string. -/
def sourceOf (value : Value) : Option String := (value.get? "source").bind Value.text?

/-- `Object.entries(definition.instances ?? {})`, of the instances whose source is a string. -/
def sourceEntries (definition : Value) : List (String × Value) :=
  (((definition.get? "instances").getD (.object [])).members).filter fun (_, value) => (sourceOf value).isSome

def declared (definition : Value) : List (String × String) :=
  (sourceEntries definition).map fun (name, value) => (name, (sourceOf value).getD "")

def isReadonlyFalse (value : Value) : Bool :=
  match value.get? "readonly" with
  | some (.bool false) => true
  | _ => false

def coverageMismatch (config : HttpTaskCandidateHydrationConfig) : Bool :=
  let entries := sourceEntries config.definition
  let required := config.selection.requiredSources
  required.dedup.length != required.length || entries.length != required.length
    || entries.any (fun (name, value) => !hasText name || !(required.contains ((sourceOf value).getD ""))
      || isReadonlyFalse value)
    || ((declared config.definition).map (·.2)).dedup.length != required.length

/-- `Object.fromEntries(entries.map(([name, value]) => [name, value.source]))` -/
def sources (definition : Value) : List (String × String) :=
  (declared definition).foldl (fun members (name, source) => setEntry name source members) []

def sourcesValue (definition : Value) : Value :=
  .object ((sources definition).map fun (name, source) => (name, .string source))

def isSafeIntegerNumber (value : Rat) : Bool := value.den == 1 && isSafeInteger value.num

def savedMismatch (config : HttpTaskCandidateHydrationConfig) (saved : SavedResponseDraft) : Bool :=
  saved.taskDraft != some config.taskDraft
    || saved.evidenceSubjectRef != config.subjectRef || saved.actorId != config.subjectRef
    || saved.keySubjectRef != config.subjectRef
    || saved.evidenceFormVersionId != config.selection.formVersionId || saved.evidenceStatus != "in_progress"
    || saved.evidenceDraftId != saved.draftId || saved.evidenceDraftVersion != saved.draftVersion
    || !hasText saved.draftId || [".", ".."].contains saved.draftId
    || !isSafeIntegerNumber saved.draftVersion || decide (saved.draftVersion < 1)
    || saved.keyFormUrl != config.selection.definitionUrl
    || saved.keyFormVersion != config.selection.definitionVersion
    || saved.responseDefinitionUrl != config.selection.definitionUrl
    || saved.responseDefinitionVersion != config.selection.definitionVersion
    || !config.platform.equal saved.response saved.canonicalResponse
    || !config.platform.equal saved.data saved.draftState

def viewMismatch (config : HttpTaskCandidateHydrationConfig) (saved : SavedResponseDraft)
    (candidateHash : String) (view : View) : Bool :=
  !config.platform.equal view.scope config.selection.scope
    || !config.platform.equal view.selection config.selection.value
    || view.formVersionHash != config.formVersionHash || view.draftId != saved.draftId
    || view.draftVersion != saved.draftVersion || view.candidateHash != candidateHash
    || !config.platform.equal view.sources (sourcesValue config.definition)
    || view.owner.subjectRef != config.subjectRef
    || view.owner.authenticated.all fun authenticated =>
      authenticated.subjectRef != config.subjectRef || authenticated.sessionId != view.owner.sessionId
        || authenticated.identity != config.identity

def requestValue (config : HttpTaskCandidateHydrationConfig) (saved : SavedResponseDraft)
    (candidateHash : String) (view : View) : Value :=
  .object [("operation", .string "hydrate"), ("scope", config.selection.scope), ("owner", view.owner.value),
    ("selection", config.selection.value), ("formVersionHash", .string config.formVersionHash),
    ("draftId", .string saved.draftId), ("draftVersion", .number saved.draftVersion),
    ("candidateHash", .string candidateHash), ("sources", sourcesValue config.definition)]

/-! ## The state -/

structure Candidate where
  view : View
  /-- None is `Infinity`. -/
  deadline : Option Rat
  retired : Option String

inductive Phase where
  | definitionHash
  | responseHash
  | reply (candidateHash : String)
  | requestHash (candidateHash : String) (view : View)
  /-- The digest of a qualified result's data; the names of the results so far, and the results to come. -/
  | dataHash (view : View) (names : List String) (data : Value) (stated : String)
      (rest : List EvaluationHydrationResult)
  | proof (view : View)
  | returned (candidate : Candidate)
  | failed (error : String)

structure Call where
  saved : SavedResponseDraft
  generation : Nat
  aborted : Option String
  /-- None while the clock was not read. -/
  started : Option Rat
  phase : Phase

/-- The verifier answered, for this call, about this draft and this view. -/
structure Acceptance where
  call : Nat
  saved : SavedResponseDraft
  view : View
  validForMilliseconds : Rat

structure HttpTaskCandidateHydration where
  generation : Nat
  active : Option Nat
  disposed : Bool
  /-- The reason `lifetime.signal` was aborted with. -/
  lifetimeAborted : Option String
  /-- None is `-Infinity`. -/
  lastElapsed : Option Rat
  calls : List Call
  acceptances : List Acceptance

structure Reading where
  lifetimeCurrent : Except String Unit
  sourceCurrent : Except String Unit
  callCurrent : Except String Unit
  /-- None is not finite. -/
  now : Option Rat

namespace HttpTaskCandidateHydration

def initial : HttpTaskCandidateHydration := ⟨0, none, false, none, none, [], []⟩

def setCall (s : HttpTaskCandidateHydration) (k : Nat) (call : Call) : HttpTaskCandidateHydration :=
  { s with calls := s.calls.set k call }

def throwIfAborted : Option String → Except String Unit
  | some reason => .error reason
  | none => .ok ()

def now (s : HttpTaskCandidateHydration) (reading : Reading) : Except String Rat :=
  match reading.now with
  | none => .error (fail "elapsed clock mismatch")
  | some value =>
    if s.lastElapsed.any (value < ·) then .error (fail "elapsed clock mismatch") else .ok value

/-- `check`, of the object. -/
def checkOwner (s : HttpTaskCandidateHydration) (reading : Reading) : Except String Unit := do
  failIf s.disposed (fail "disposed")
  throwIfAborted s.lifetimeAborted
  reading.lifetimeCurrent
  reading.sourceCurrent

/-- `check`, of a call. -/
def check (s : HttpTaskCandidateHydration) (call : Call) (reading : Reading) : Except String Unit := do
  throwIfAborted call.aborted
  s.checkOwner reading
  reading.callCurrent
  failIf (call.generation != s.generation) (fail "candidate retired")

/-- `remaining()`: the state, the candidate and the milliseconds that are left, of which none is
`Infinity`. -/
def remaining (s : HttpTaskCandidateHydration) (call : Call) (candidate : Candidate) (reading : Reading) :
    HttpTaskCandidateHydration × Candidate × Except String (Option Rat) :=
  match candidate.retired with
  | some error => (s, candidate, .error error)
  | none =>
    match s.check call reading >>= fun _ => s.now reading with
    | .ok value => ({ s with lastElapsed := some value }, candidate, .ok (candidate.deadline.map (max 0 <| · - value)))
    | .error error => (s, { candidate with retired := some error }, .error error)

/-- What `current()` makes of what is left. -/
def current (left : Except String (Option Rat)) : Except String Unit := do
  let left ← left
  failIf (left == some 0) (fail "original proof expired")

def candidate? (s : HttpTaskCandidateHydration) (k : Nat) : Option (Call × Candidate) :=
  match s.calls[k]? with
  | some call =>
    match call.phase with
    | .returned candidate => some (call, candidate)
    | _ => none
  | none => none

/-- `assertCurrent()` of the candidate of a call. -/
def assertCurrent (s : HttpTaskCandidateHydration) (k : Nat) (reading : Reading) : Except String Unit :=
  match s.candidate? k with
  | some (call, candidate) => current (s.remaining call candidate reading).2.2
  | none => .error "no candidate"

def assertReady (s : HttpTaskCandidateHydration) (k : Nat) (reading : Reading) : Except String Unit := do
  s.assertCurrent k reading
  failIf ((s.candidate? k).any fun (_, candidate) => candidate.view.results.any (!·.isQualified))
    (fail "selected sources pending or unavailable")

def refreshRequired (s : HttpTaskCandidateHydration) (k : Nat) (reading : Reading) : Except String Bool :=
  match s.candidate? k with
  | some (call, candidate) => (s.remaining call candidate reading).2.2.map (· == some 0)
  | none => .error "no candidate"

def consult (s : HttpTaskCandidateHydration) (k : Nat) (reading : Reading) : HttpTaskCandidateHydration :=
  match s.candidate? k with
  | some (call, candidate) =>
    let (s', candidate', _) := s.remaining call candidate reading
    s'.setCall k { call with phase := .returned candidate' }
  | none => s

def inFlight : Phase → Bool
  | .returned _ | .failed _ => false
  | _ => true

def abortedCall (reason : String) (call : Call) : Call :=
  if call.aborted.isSome then call
  else { call with aborted := some reason, phase := if inFlight call.phase then .failed reason else call.phase }

def abortCall (s : HttpTaskCandidateHydration) (k : Nat) (reason : String) : HttpTaskCandidateHydration :=
  match s.calls[k]? with
  | some call => s.setCall k (abortedCall reason call)
  | none => s

def retireFacts (s : HttpTaskCandidateHydration) : HttpTaskCandidateHydration :=
  let s := match s.active with
    | some k => s.abortCall k "Source task candidate retired"
    | none => s
  { s with generation := s.generation + 1, active := none }

def dispose (s : HttpTaskCandidateHydration) : HttpTaskCandidateHydration := { s.retireFacts with disposed := true }

def abortLifetime (s : HttpTaskCandidateHydration) (reason : String) : HttpTaskCandidateHydration :=
  { s with lifetimeAborted := some (s.lifetimeAborted.getD reason), calls := s.calls.map (abortedCall reason) }

def settle (s : HttpTaskCandidateHydration) (k : Nat) (call : Call) : Except String Phase → HttpTaskCandidateHydration
  | .ok phase => s.setCall k { call with phase }
  | .error error => s.setCall k { call with phase := .failed error }

def complete (s : HttpTaskCandidateHydration) (k : Nat) (call : Call) (view : View) (deadline : Option Rat)
    (reading : Reading) : HttpTaskCandidateHydration :=
  let (s', candidate, left) := s.remaining call ⟨view, deadline, none⟩ reading
  s'.settle k call (current left >>= fun _ => .ok (.returned candidate))

def walk (sources : List (String × String)) (view : View) (names : List String) :
    List EvaluationHydrationResult → Except String (Option Phase)
  | [] => .ok none
  | result :: rest => do
      failIf (sources.lookup result.instanceName != some result.sourceRef || names.contains result.instanceName)
        (fail "result coverage mismatch")
      match result with
      | .qualified _ _ data dataHash .. => return some (.dataHash view (result.instanceName :: names) data dataHash rest)
      | _ => walk sources view (result.instanceName :: names) rest

/-- Behind the last result, the verifier is asked where some result is qualified. -/
def walked (config : HttpTaskCandidateHydrationConfig) (s : HttpTaskCandidateHydration) (k : Nat) (call : Call)
    (view : View) (reading : Reading) : Except String (Option Phase) → HttpTaskCandidateHydration
  | .error error => s.settle k call (.error error)
  | .ok (some phase) => s.settle k call (.ok phase)
  | .ok none =>
    if view.results.any (·.isQualified) then
      s.settle k call (do
        failIf (view.providerReceipt.isNone || !config.receiptVerifier) (fail "task-origin proof verifier unavailable")
        return .proof view)
    else s.complete k call view none reading

def hashed (config : HttpTaskCandidateHydrationConfig) (s : HttpTaskCandidateHydration) (k : Nat) (call : Call)
    (reading : Reading) : HttpTaskCandidateHydration :=
  let hash := config.platform.hash
  match call.phase with
  | .definitionHash => s.settle k call (do
      let definitionHash ← hash config.definition
      failIf (definitionHash != config.selection.definitionHash) (fail "saved candidate binding mismatch")
      failIf (coverageMismatch config) (fail "selected source coverage mismatch")
      return .responseHash)
  | .responseHash => s.settle k call (do
      let candidateHash ← hash call.saved.response
      s.check call reading
      return .reply candidateHash)
  | .requestHash candidateHash view => s.walked config k call view reading (do
      let requestHash ← hash (requestValue config call.saved candidateHash view)
      failIf (view.requestHash != requestHash || view.results.length != (sourceEntries config.definition).length)
        (fail "request binding mismatch")
      walk (sources config.definition) view [] view.results)
  | .dataHash view names data stated rest => s.walked config k call view reading (do
      let dataHash ← hash data
      failIf (dataHash != stated) (fail "result data digest mismatch")
      walk (sources config.definition) view names rest)
  | _ => s

def replied (config : HttpTaskCandidateHydrationConfig) (s : HttpTaskCandidateHydration) (k : Nat) (call : Call)
    (reply : Except String View) (reading : Reading) : HttpTaskCandidateHydration :=
  match call.phase with
  | .reply candidateHash => s.settle k call (do
      let view ← reply
      s.check call reading
      failIf (viewMismatch config call.saved candidateHash view) (fail "returned candidate binding mismatch")
      return .requestHash candidateHash view)
  | _ => s

def validity (proof : Except String (Option Rat)) : Except String Rat := do
  match ← proof with
  | some value =>
    if isSafeIntegerNumber value ∧ 0 < value then return value
    else throw (fail "original proof validity unavailable")
  | none => throw (fail "original proof validity unavailable")

def proved (s : HttpTaskCandidateHydration) (k : Nat) (call : Call) (proof : Except String (Option Rat))
    (reading : Reading) : HttpTaskCandidateHydration :=
  match call.phase, call.started with
  | .proof view, some started =>
    match validity proof with
    | .ok value =>
      let s := { s with acceptances := s.acceptances ++ [Acceptance.mk k call.saved view value] }
      s.complete k call view (some (started + value)) reading
    | .error error => s.settle k call (.error error)
  | _, _ => s

/-- A call begins; `signal` is the reason its caller's signal is aborted with already. -/
def qualifySaved (config : HttpTaskCandidateHydrationConfig) (s : HttpTaskCandidateHydration)
    (input : SavedResponseDraft) (signal : Option String) (reading : Reading) : HttpTaskCandidateHydration :=
  let s := s.retireFacts
  let call : Call := ⟨input, s.generation, s.lifetimeAborted.or signal, none, .definitionHash⟩
  let s := { s with active := some s.calls.length }
  match s.check call reading >>= fun _ => s.now reading with
  | .error error => { s with calls := s.calls ++ [{ call with phase := .failed error }] }
  | .ok started =>
    let phase : Phase :=
      if savedMismatch config input then .failed (fail "saved candidate binding mismatch") else .definitionHash
    { s with lastElapsed := some started, calls := s.calls ++ [{ call with started := some started, phase }] }

end HttpTaskCandidateHydration

inductive Event where
  | qualifySaved (input : SavedResponseDraft) (signal : Option String) (reading : Reading)
  | retireFacts
  | dispose
  | abortLifetime (reason : String)
  /-- The caller's signal; the deadline of a call in flight ends it in the same way. -/
  | abortCall (call : Nat) (reason : String)
  | hashed (call : Nat) (reading : Reading)
  | replied (call : Nat) (reply : Except String View) (reading : Reading)
  | proved (call : Nat) (proof : Except String (Option Rat)) (reading : Reading)
  | consult (call : Nat) (reading : Reading)

namespace HttpTaskCandidateHydration

def atCall (s : HttpTaskCandidateHydration) (k : Nat) (go : Call → HttpTaskCandidateHydration) :
    HttpTaskCandidateHydration :=
  match s.calls[k]? with
  | some call => go call
  | none => s

def step (config : HttpTaskCandidateHydrationConfig) (s : HttpTaskCandidateHydration) :
    Event → HttpTaskCandidateHydration
  | .qualifySaved input signal reading => s.qualifySaved config input signal reading
  | .retireFacts => s.retireFacts
  | .dispose => s.dispose
  | .abortLifetime reason => s.abortLifetime reason
  | .abortCall k reason => s.abortCall k reason
  | .hashed k reading => s.atCall k fun call => s.hashed config k call reading
  | .replied k reply reading => s.atCall k fun call => s.replied config k call reply reading
  | .proved k proof reading => s.atCall k fun call => s.proved k call proof reading
  | .consult k reading => s.consult k reading

def run (config : HttpTaskCandidateHydrationConfig) (s : HttpTaskCandidateHydration) (events : List Event) :
    HttpTaskCandidateHydration :=
  events.foldl (step config) s

end HttpTaskCandidateHydration

end FormspecWeb.Hydration
