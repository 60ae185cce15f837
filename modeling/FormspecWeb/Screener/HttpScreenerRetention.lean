import FormspecWeb.Ports.ResponseSigning
import FormspecWeb.Screener.NativeScreenerCoordinator
import FormspecWeb.Shared.Decimals
import Mathlib.Data.List.Sort

/-!
# The screener retention over HTTP

Every reply becomes an issued view only behind the checks of its operation, and only an issued view
can be refreshed, loaded or associated. A reply comes with its event, decoded and valid against its
schema; digests and `Date.parse` are given. Objects are kept as their members in the order of the
keys, so that the source's `equal` is equality. A revision is a whole double of any size.
-/

namespace FormspecWeb.Screener.Retention

open Shared Ports

/-! ## Data -/

structure EvaluationSelection where
  scope : String
  formId : String
  formVersionId : String
  definitionUrl : String
  definitionVersion : String
  definitionHash : String
  requiredSources : List String
deriving DecidableEq

structure Selection where
  evaluationSelection : EvaluationSelection
  formVersionHash : String
  sourceRef : String
  screenerUrl : String
  screenerVersion : String
  screenerRawHash : String
  screenerHash : String
  allowedTargets : List String
  instanceMappingHash : Option String
deriving DecidableEq

structure AuthenticatedOwner where
  issuer : String
  subject : String
  principalId : String
  profile : String
  actorRef : String
  subjectRef : String
  sessionId : String
  clientId : Option String
deriving DecidableEq

structure Owner where
  sessionId : String
  subjectRef : String
  authenticated : AuthenticatedOwner
deriving DecidableEq

inductive Primitive where
  | string (value : String)
  | number (value : Rat)
  | boolean (value : Bool)
deriving DecidableEq

inductive Answer where
  | answered (value : Primitive)
  | declined
  | notPresented
deriving DecidableEq

structure ScreenerRef where
  url : String
  version : String
deriving DecidableEq

structure Determination where
  screener : ScreenerRef
  timestamp : String
  status : String
  validUntil : Option String
  rest : Json
deriving DecidableEq

/-- A run without its `evidenceHash`. -/
structure RunEvidence where
  scope : String
  runId : String
  revision : Nat
  selectionHash : String
  owner : Owner
  answers : List (String × Answer)
  answersHash : String
  evaluatedAt : String
  determination : Determination
  determinationHash : String
  qualification : ScreenerQualification
  evidenceRef : String
deriving DecidableEq

structure RunView where
  selection : Selection
  run : RunEvidence
  evidenceHash : String
  acceptance : Option ScreenerAcceptance
deriving DecidableEq

structure Association where
  scope : String
  draftId : String
  draftVersion : Int
  candidateHash : String
  selectionHash : String
  owner : Owner
  runId : String
  runRevision : Nat
  evidenceHash : String
deriving DecidableEq

structure RecoveryView where
  scope : String
  owner : Owner
  formVersionHash : String
  draftId : String
  draftVersion : Int
  candidateHash : String
  selectionHash : String
  /-- `result`, where its status is `retained`: whether it relates to the current candidate, the
  association and the history. -/
  result : Option (Bool × Association × RunView)

structure CompletionDocument where
  url : Option String
  version : Option String
  rest : Json
deriving DecidableEq

structure RetainRequest where
  completionId : String
  document : CompletionDocument
  screenerRef : ScreenerRef
  answers : List (String × Primitive)
  target : String

/-- `computeJcsSha256Digest` of what is hashed. -/
structure Digests where
  selection : Selection → String
  document : CompletionDocument → String
  answers : List (String × Answer) → String
  determination : Determination → String
  evidence : RunEvidence → String
  response : FormResponse → String

structure HttpScreenerRetentionConfig where
  selection : Selection
  selectionHash : String
  digest : Digests
  /-- `Date.parse`, in milliseconds. -/
  parse : String → Option Int
  answersBytes : List (String × Answer) → Nat
  admitsCreate : List (String × Answer) → Bool
  admitsUpdate : RunEvidence → Bool

variable (config : HttpScreenerRetentionConfig)

/-! ## Checks -/

/-- `Date.parse(left) < Date.parse(right)` -/
def parsedBefore (left right : String) : Bool :=
  match config.parse left, config.parse right with
  | some left, some right => decide (left < right)
  | _, _ => false

/-- `Date.parse(checkedAt) >= Date.parse(until)`, where there is one. -/
def outlived (checkedAt : String) (validUntil : Option String) : Bool :=
  match validUntil with
  | none => false
  | some validUntil =>
    match config.parse checkedAt, config.parse validUntil with
    | some checked, some limit => decide (limit ≤ checked)
    | _, _ => false

/-- `requireIdentity(view, context)` -/
def hasIdentity (view : RunView) (identity : Identity) : Bool :=
  let owner := view.run.owner
  owner.authenticated.issuer == identity.issuer && owner.authenticated.subject == identity.subject
    && owner.authenticated.clientId == identity.clientId
    && owner.sessionId == owner.authenticated.sessionId
    && owner.subjectRef == owner.authenticated.subjectRef

def evidenceRefOf (run : RunEvidence) : String :=
  s!"urn:formspec:source:screener:{run.runId}:revision:" ++ String.ofList (numberChars run.revision)

def hashesItself (view : RunView) : Bool :=
  let run := view.run
  run.answersHash == config.digest.answers run.answers
    && run.determinationHash == config.digest.determination run.determination
    && view.evidenceHash == config.digest.evidence run
    && run.evidenceRef == evidenceRefOf run
    && run.determination.timestamp == run.evaluatedAt

/-- `{ state: 'answered', value }` for every answer. -/
def answered (answers : List (String × Primitive)) : List (String × Answer) :=
  (answers.map fun answer => (answer.1, Answer.answered answer.2)).insertionSort (·.1 ≤ ·.1)

/-- A view that is ready was checked behind its evaluation, for a target, and while it was valid. -/
def readyChecks (view : RunView) (targetOk : String → Bool) : Bool :=
  match view.acceptance with
  | none => true
  | some acceptance =>
    match acceptance.qualification with
    | .pending _ => true
    | .ready target => view.run.qualification == .ready target && targetOk target
        && view.run.determination.status == "completed"
        && !outlived config acceptance.checkedAt view.run.determination.validUntil

def checkedBehind (view : RunView) : Bool :=
  view.acceptance.all fun acceptance => !parsedBefore config acceptance.checkedAt view.run.evaluatedAt

/-- The pins of `retain`. -/
def retainPins (request : RetainRequest) : Bool :=
  isLosslessHttpIdempotencyKey request.completionId
    && config.selection.allowedTargets.contains request.target
    && request.screenerRef == ⟨config.selection.screenerUrl, config.selection.screenerVersion⟩
    && request.document.url == some request.screenerRef.url
    && request.document.version == some request.screenerRef.version
    && config.digest.selection config.selection == config.selectionHash
    && config.digest.document request.document == config.selection.screenerHash
    && config.admitsCreate (answered request.answers)
    && decide (config.answersBytes (answered request.answers) ≤ 65536)

def retains (request : RetainRequest) (identity : Identity) (view : RunView) : Bool :=
  hasIdentity view identity && view.selection == config.selection
    && view.run.scope == config.selection.evaluationSelection.scope
    && view.run.selectionHash == config.selectionHash
    && view.run.answers == answered request.answers
    && hashesItself config view
    && view.run.determination.screener == request.screenerRef
    && view.acceptance.isSome && checkedBehind config view
    && readyChecks config view (· == request.target)

/-- What `recover` checks of the saved candidate. -/
def recoverPins (saved : SavedResponseDraft) : Bool :=
  let selected := config.selection.evaluationSelection
  saved.draft.id != "." && saved.draft.id != ".."
    && saved.actor == saved.evidence.subjectRef && saved.evidence.status == "in_progress"
    && saved.draft.id == saved.evidence.draftId && saved.draft.version == saved.evidence.draftVersion
    && saved.evidence.formVersionId == selected.formVersionId
    && saved.draftKey.formUrl == selected.definitionUrl
    && saved.draftKey.formVersion == some selected.definitionVersion
    && saved.response == saved.evidence.canonicalResponse
    && decide (1 ≤ saved.draft.version)

def namesCandidate (saved : SavedResponseDraft) (recovered : RecoveryView) : Bool :=
  recovered.scope == config.selection.evaluationSelection.scope
    && recovered.formVersionHash == config.selection.formVersionHash
    && recovered.draftId == saved.draft.id && recovered.draftVersion == saved.draft.version
    && recovered.candidateHash == config.digest.response saved.response
    && recovered.selectionHash == config.selectionHash

/-- The association is of the candidate, or of a prior one, and of the history. -/
def namesHistory (saved : SavedResponseDraft) (current : Bool) (association : Association)
    (history : RunView) : Bool :=
  association.owner == history.run.owner && association.scope == history.run.scope
    && association.draftId == saved.draft.id && association.selectionHash == config.selectionHash
    && decide (association.draftVersion ≤ saved.draft.version)
    && association.runId == history.run.runId && association.runRevision == history.run.revision
    && association.evidenceHash == history.evidenceHash
    && (if current then association.draftVersion == saved.draft.version
        && association.candidateHash == config.digest.response saved.response
      else decide (association.draftVersion < saved.draft.version))

def historyMatches (saved : SavedResponseDraft) (identity : Identity) (history : RunView) : Bool :=
  hasIdentity history identity && history.selection == config.selection
    && history.acceptance.isNone
    && history.run.scope == config.selection.evaluationSelection.scope
    && history.run.owner.subjectRef == saved.actor
    && history.run.selectionHash == config.selectionHash
    && hashesItself config history
    && history.run.determination.screener
      == ⟨config.selection.screenerUrl, config.selection.screenerVersion⟩

def recovers (saved : SavedResponseDraft) (identity : Identity) (recovered : RecoveryView) :
    Option RunView :=
  match recovered.result with
  | none => none
  | some (current, association, history) =>
    if namesCandidate config saved recovered && recovered.owner == history.run.owner
        && namesHistory config saved current association history
        && historyMatches config saved identity history then
      some history
    else none

/-- `validateSuccessor(value, input, appended)` -/
def succeeds (previous : RunView) (identity : Identity) (appended : Bool) (view : RunView) : Bool :=
  let run := view.run
  hasIdentity view identity && view.selection == config.selection
    && run.scope == previous.run.scope && run.owner == previous.run.owner
    && run.selectionHash == config.selectionHash && run.runId == previous.run.runId
    && (if appended then decide (run.revision = Doubles.toDouble (previous.run.revision + 1))
      else decide (previous.run.revision ≤ run.revision))
    && run.answers == previous.run.answers
    && hashesItself config view
    && run.determination.screener
      == ⟨config.selection.screenerUrl, config.selection.screenerVersion⟩
    && !parsedBefore config run.evaluatedAt previous.run.evaluatedAt
    && view.acceptance.isSome == appended && checkedBehind config view
    && readyChecks config view config.selection.allowedTargets.contains

/-- What `associate` checks of the run and the saved candidate. -/
def associatePins (view : RunView) (saved : SavedResponseDraft) (identity : Identity) : Bool :=
  let selected := config.selection.evaluationSelection
  hasIdentity view identity && saved.draft.id != "." && saved.draft.id != ".."
    && isSafeInteger saved.draft.version && decide (1 ≤ saved.draft.version)
    && saved.draftKey.formUrl == selected.definitionUrl
    && saved.draftKey.formVersion == some selected.definitionVersion
    && saved.evidence.formVersionId == selected.formVersionId
    && saved.draft.id == saved.evidence.draftId && saved.draft.version == saved.evidence.draftVersion
    && saved.evidence.status == "in_progress" && saved.response == saved.evidence.canonicalResponse
    && saved.actor == view.run.owner.subjectRef && saved.evidence.subjectRef == view.run.owner.subjectRef

def associates (view : RunView) (saved : SavedResponseDraft) (association : Association) : Bool :=
  let run := view.run
  association.scope == run.scope && association.owner == run.owner
    && association.draftId == saved.draft.id && association.draftVersion == saved.draft.version
    && association.candidateHash == config.digest.response saved.response
    && association.selectionHash == config.selectionHash && association.runId == run.runId
    && association.runRevision == run.revision && association.evidenceHash == view.evidenceHash

/-! ## Operations -/

inductive Origin where
  | retained
  | recovered
  | refreshed (previous : Nat)
  | loaded (previous : Nat)
deriving DecidableEq

structure Issued where
  view : RunView
  identity : Identity
  origin : Origin
deriving DecidableEq

inductive Pending where
  | retain (request : RetainRequest) (identity : Identity)
  | recover (saved : SavedResponseDraft) (identity : Identity)
  | refresh (previous : Nat) (identity : Identity)
  | load (previous : Nat) (identity : Identity)
  | associate (run : Nat) (saved : SavedResponseDraft) (identity : Identity)

inductive RunHandle where
  | issued (number : Nat)
  | foreign (view : RunView)

inductive Reply where
  | view (view : RunView)
  | recovery (view : RecoveryView)
  | association (association : Association)
  | failed

structure HttpScreenerRetention where
  issued : List Issued
  calls : List (Option Pending)
  /-- The views that requests for an association were sent for, newest first. -/
  associations : List Nat
  associated : List Nat

namespace HttpScreenerRetention

def created : HttpScreenerRetention := ⟨[], [], [], []⟩

def call (s : HttpScreenerRetention) (sends : Bool) (pending : Pending) : HttpScreenerRetention :=
  { s with calls := s.calls ++ [if sends then some pending else none] }

/-- `issued.has(run)`, with the view. -/
def find (s : HttpScreenerRetention) : RunHandle → Option (Nat × RunView)
  | .foreign _ => none
  | .issued number => (s.issued[number]?).map fun found => (number, found.view)

/-- `refresh` and `load` up to their request. -/
def callSuccessor (s : HttpScreenerRetention) (run : RunHandle) (identity : Identity) (current : Bool)
    (appended : Bool) : HttpScreenerRetention :=
  match s.find run with
  | none => { s with calls := s.calls ++ [none] }
  | some (number, view) =>
    s.call (current && hasIdentity view identity && (!appended || config.admitsUpdate view.run))
      (if appended then .refresh number identity else .load number identity)

def isReady (view : RunView) : Bool :=
  view.acceptance.any fun acceptance => acceptance.qualification.isReady

def callAssociate (s : HttpScreenerRetention) (run : RunHandle) (saved : SavedResponseDraft)
    (identity : Identity) (current : Bool) : HttpScreenerRetention :=
  match s.find run with
  | none => { s with calls := s.calls ++ [none] }
  | some (number, view) =>
    if current && isReady view && associatePins config view saved identity then
      { s.call true (.associate number saved identity) with
        associations := number :: s.associations }
    else { s with calls := s.calls ++ [none] }

def settle (s : HttpScreenerRetention) (call : Nat) : HttpScreenerRetention :=
  { s with calls := s.calls.set call none }

def issue (s : HttpScreenerRetention) (view : RunView) (identity : Identity) (origin : Origin) :
    HttpScreenerRetention :=
  { s with issued := s.issued ++ [⟨view, identity, origin⟩] }

def takeUp (s : HttpScreenerRetention) (call : Nat) : Pending → Reply → HttpScreenerRetention
  | .retain request identity, .view view =>
    if retains config request identity view then (s.settle call).issue view identity .retained
    else s.settle call
  | .recover saved identity, .recovery recovered =>
    match recovers config saved identity recovered with
    | none => s.settle call
    | some history => (s.settle call).issue history identity .recovered
  | .refresh previous identity, .view view =>
    if (s.issued[previous]?).any fun found => succeeds config found.view identity true view then
      (s.settle call).issue view identity (.refreshed previous)
    else s.settle call
  | .load previous identity, .view view =>
    if (s.issued[previous]?).any fun found => succeeds config found.view identity false view then
      (s.settle call).issue view identity (.loaded previous)
    else s.settle call
  | .associate run saved _, .association association =>
    if (s.issued[run]?).any fun found => associates config found.view saved association then
      { s.settle call with associated := call :: s.associated }
    else s.settle call
  | _, _ => s.settle call

inductive Event where
  /-- A call, with whether its context is current up to the request. -/
  | retain (request : RetainRequest) (identity : Identity) (current : Bool)
  | recover (saved : SavedResponseDraft) (identity : Identity) (current : Bool)
  | refresh (run : RunHandle) (identity : Identity) (current : Bool)
  | load (run : RunHandle) (identity : Identity) (current : Bool)
  | associate (run : RunHandle) (saved : SavedResponseDraft) (identity : Identity) (current : Bool)
  | reply (call : Nat) (reply : Reply) (current : Bool)

def step (s : HttpScreenerRetention) : Event → Option HttpScreenerRetention
  | .retain request identity current =>
    some (s.call (current && retainPins config request) (.retain request identity))
  | .recover saved identity current =>
    some (s.call (current && recoverPins config saved) (.recover saved identity))
  | .refresh run identity current => some (s.callSuccessor config run identity current true)
  | .load run identity current => some (s.callSuccessor config run identity current false)
  | .associate run saved identity current => some (s.callAssociate config run saved identity current)
  | .reply call reply current =>
    match s.calls[call]? with
    | some (some pending) =>
      if current then some (s.takeUp config call pending reply) else some (s.settle call)
    | _ => none

end HttpScreenerRetention

end FormspecWeb.Screener.Retention
