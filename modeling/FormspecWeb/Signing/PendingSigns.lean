import FormspecWeb.Signing.Markers
import FormspecWeb.Async.Steps
import Mathlib.Data.List.Basic
import Mathlib.Logic.Function.Basic

/-!
# Pending signs

How the signing adapter marks an act, drives it to its signature, and renews it after a reload. The
server takes a conditional write where it still holds the version the write expects, at any time
after it was dispatched. The checks that read neither markers nor versions answer with the event.
-/

namespace FormspecWeb.Signing

open Shared

structure SigningConfig where
  canonicalize : Value → String
  handoffHash : Value → String
  validateResponse : Value → Bool
  expectedIssuer : String
  /-- `fence.scopeFor` of the key a draft is worked on under; a draft has one scope. -/
  scopeOf : String → String

/-- `canonicalize(left) === canonicalize(right)`. -/
def SigningConfig.same (config : SigningConfig) (left right : Value) : Bool :=
  config.canonicalize left == config.canonicalize right

structure ServerDraft where
  version : Int
  response : Value

inductive DraftWrite where
  | save (response : Value)
  | sign

structure WriteRequest where
  draftId : String
  expected : Int
  write : DraftWrite

/-! ## The adapter -/

structure Preparation where
  draftId : String
  version : Int
  response : Value
  actor : String
  content : Value
  renewalOperationId : Option String

structure FrozenAct where
  operationId : String
  preparation : Preparation
  candidate : Value
  version : Int
  /-- There is a `result`. -/
  resolved : Bool

structure Recovery where
  marker : PendingMarker
  original : Value
  successor : Value

inductive ActStage where
  | reading
  | saving
  | rereading
  | signing
  | recovering

/-- The operation the fence runs for a scope, where it waits for the server. -/
inductive Running where
  | executing (operationId : String) (stage : ActStage)
  | renewing (recovery : Recovery)

structure SigningState where
  drafts : String → ServerDraft
  requests : List WriteRequest
  /-- The slot `response-signing-operations`. -/
  slot : Option Value
  /-- The slot `response-draft-create-operations`. -/
  createSlot : Option Value
  preparations : List Preparation
  acts : List FrozenAct
  running : String → Option Running
  /-- What `writeMarkers` was called with last; so `writtenCreates`. -/
  written : List PendingMarker
  writtenCreates : List CreateMarker

namespace SigningState

variable (config : SigningConfig)

def opened (drafts : String → ServerDraft) : SigningState :=
  ⟨drafts, [], none, none, [], [], fun _ => none, [], []⟩

def putMarkers (s : SigningState) (markers : List PendingMarker) : SigningState :=
  { s with slot := writeMarkers markers, written := markers }

def putCreateMarkers (s : SigningState) (markers : List CreateMarker) : SigningState :=
  { s with createSlot := writeCreateMarkers markers, writtenCreates := markers }

def go (s : SigningState) (scope : String) (running : Option Running) : SigningState :=
  { s with running := Function.update s.running scope running }

def addPreparation (s : SigningState) (preparation : Preparation) : SigningState :=
  { s with preparations := s.preparations ++ [preparation] }

def dispatch (s : SigningState) (request : WriteRequest) : SigningState :=
  { s with requests := s.requests ++ [request] }

def pendingMarkerFor (s : SigningState) (draftId : String) : Option PendingMarker := do
  let markers ← readMarkers s.slot
  let creates ← readCreateMarkers s.createSlot
  if creates.any (·.scope == config.scopeOf draftId) then none
  else
    match markers.filter (·.scope == config.scopeOf draftId) with
    | [marker] =>
      if marker.draftId != draftId || !isUuidV7IdempotencyKey marker.operationId then none
      else some marker
    | _ => none

def recoveryOf (marker : PendingMarker) (version : Int) (response : Value) : Option Recovery :=
  let unsigned := withoutSignatures response
  let original := (marker.renewal.map Renewal.originalCandidate).getD unsigned
  let successor := withoutContent original
  if marker.renewal.any (fun renewal => config.handoffHash original != renewal.originalHash
      || config.handoffHash successor != renewal.successorHash) then none
  else if isSigned response then
    if version != marker.version + 1 || !config.same unsigned original then none
    else some ⟨marker, original, successor⟩
  else if version == marker.version then
    if config.same response original then some ⟨marker, original, successor⟩ else none
  else if marker.renewal.any (fun renewal =>
      version == renewal.version || some version == renewal.previousVersion) then
    if config.same response successor then some ⟨marker, original, successor⟩ else none
  else none

/-- `pendingRecoveryFor(key, draftId, version, response)`; none where it throws. -/
def pendingRecoveryFor (s : SigningState) (draftId : String) (version : Int) (response : Value) :
    Option Recovery :=
  (s.pendingMarkerFor config draftId).bind fun marker => recoveryOf config marker version response

/-- `refuseUnresolved(key)` throws. -/
def unresolved (s : SigningState) (scope : String) : Bool :=
  match readCreateMarkers s.createSlot, readMarkers s.slot with
  | some creates, some markers => creates.any (·.scope == scope) || markers.any (·.scope == scope)
      || s.acts.any fun act => !act.resolved && config.scopeOf act.preparation.draftId == scope
  | _, _ => true

/-- A write of the draft store or a Prepare, or what follows it, is refused. -/
def refused (s : SigningState) (scope : String) : Bool :=
  s.unresolved config scope || (s.running scope).isSome

def retains (s : SigningState) (marker : PendingMarker) : Bool :=
  (s.pendingMarkerFor config marker.draftId).any fun found =>
    config.same found.toValue marker.toValue

structure SignInput where
  preparation : Nat
  operationId : String
  signerName : String
  signedAt : String
  documentHash : String
  /-- The act that has the operation id, if any, has the identity of this one. -/
  identical : Bool
  /-- The action and the assent are admitted, and the time is a date. -/
  admitted : Bool
  writes : Bool

def commitment (preparation : Preparation) (input : SignInput) : Value :=
  .object [("version", .string "1.0"), ("issuer", .string config.expectedIssuer),
    ("draftId", .string preparation.draftId), ("draftVersion", .number (preparation.version + 1)),
    ("actorRef", .string preparation.actor), ("signerName", .string input.signerName),
    ("signedAt", .string input.signedAt), ("consentAccepted", .bool true),
    ("content", preparation.content), ("documentHash", .string input.documentHash),
    ("documentHashAlgorithm", .string "sha-256")]

def freezeAct (preparation : Preparation) (input : SignInput) : FrozenAct where
  operationId := input.operationId
  preparation := preparation
  candidate := withContent preparation.response (commitment config preparation input)
  version := preparation.version + 1
  resolved := false

def renews (s : SigningState) (preparation : Preparation) (operationId : String) : Bool :=
  (s.pendingMarkerFor config preparation.draftId).any fun marker =>
    marker.renewal.any fun renewal =>
      renewal.operationId == operationId && renewal.version == preparation.version

def maySign (s : SigningState) (preparation : Preparation) (operationId : String) : Bool :=
  match preparation.renewalOperationId with
  | some renewalOperationId =>
    operationId == renewalOperationId && s.renews config preparation operationId
  | none => !s.unresolved config (config.scopeOf preparation.draftId)

def markerOf (act : FrozenAct) : PendingMarker :=
  ⟨config.scopeOf act.preparation.draftId, act.operationId, act.preparation.draftId, act.version,
    none⟩

/-- `mark(act)`, and the start of its execution. -/
def mark (s : SigningState) (act : FrozenAct) (writes : Bool) : SigningState :=
  let marker := markerOf config act
  match readMarkers s.slot with
  | none => s
  | some markers =>
    if act.preparation.renewalOperationId.isSome
        && !s.renews config act.preparation act.operationId
        || act.preparation.renewalOperationId.isNone && markers.any (·.scope == marker.scope)
        || !writes then s
    else
      let s := s.putMarkers (markers.filter (·.scope != marker.scope) ++ [marker])
      if s.retains config marker then
        { s with acts := s.acts ++ [act] }.go marker.scope
          (some (.executing act.operationId .reading))
      else s

def sign (s : SigningState) (input : SignInput) : Option SigningState :=
  match s.preparations[input.preparation]? with
  | none => none
  | some preparation =>
    let scope := config.scopeOf preparation.draftId
    if !isUuidV7IdempotencyKey input.operationId || (s.running scope).isSome then some s
    else
      match s.acts.find? (·.operationId == input.operationId) with
      | some _ =>
        if input.identical then
          some (s.go scope (some (.executing input.operationId .reading)))
        else some s
      | none =>
        let act := freezeAct config preparation input
        if !s.maySign config preparation input.operationId || !hasText input.signerName
            || !input.admitted || !config.validateResponse act.candidate then some s
        else some (s.mark config act input.writes)

def unmark (s : SigningState) (operationId : String) : SigningState :=
  match readMarkers s.slot with
  | none => s
  | some markers => s.putMarkers (markers.filter (·.operationId != operationId))

def resolve (s : SigningState) (operationId : String) : SigningState :=
  { s with acts := s.acts.map fun act =>
      if act.operationId == operationId then { act with resolved := true } else act }

structure Answers where
  /-- The signature and the action are admitted, or the request succeeds. -/
  admitted : Bool
  writes : Bool

/-- `acceptSigned(act, draft)` and `unmark(act)`. -/
def accept (s : SigningState) (act : FrozenAct) (answers : Answers) : SigningState :=
  let draft := s.drafts act.preparation.draftId
  let scope := config.scopeOf act.preparation.draftId
  if answers.admitted && draft.version == act.version + 1 && isSigned draft.response
      && config.same (withoutSignatures draft.response) act.candidate then
    let s := s.resolve act.operationId
    (if answers.writes then s.unmark act.operationId else s).go scope none
  else s.go scope none

def postSign (s : SigningState) (act : FrozenAct) (answers : Answers) : SigningState :=
  let draft := s.drafts act.preparation.draftId
  let scope := config.scopeOf act.preparation.draftId
  if draft.version == act.version && config.same draft.response act.candidate
      && answers.admitted then
    (s.dispatch ⟨act.preparation.draftId, act.version, .sign⟩).go scope
      (some (.executing act.operationId .signing))
  else s.go scope none

/-- `execute(act)`, from one answer of the server to the next. -/
def execute (s : SigningState) (scope : String) (answers : Answers) : Option SigningState :=
  match s.running scope with
  | some (.executing operationId stage) =>
    match s.acts.find? (·.operationId == operationId) with
    | none => none
    | some act =>
      let draft := s.drafts act.preparation.draftId
      match stage with
      | .reading =>
        if draft.version == act.version + 1 then some (s.accept config act answers)
        else if draft.version != act.version && draft.version == act.preparation.version
            && config.same draft.response act.preparation.response then
          some ((s.dispatch ⟨act.preparation.draftId, act.preparation.version,
            .save act.candidate⟩).go scope (some (.executing operationId .saving)))
        else some (s.postSign config act answers)
      | .saving => some (s.go scope (some (.executing operationId .rereading)))
      | .rereading => some (s.postSign config act answers)
      | .signing =>
        if answers.admitted then some (s.accept config act answers)
        else some (s.go scope (some (.executing operationId .recovering)))
      | .recovering =>
        if draft.version == act.version + 1 then some (s.accept config act answers)
        else some (s.go scope none)
  | _ => none

structure RestoreInput where
  draftId : String
  operationId : String
  renewUnsignedRevision : Bool
  /-- The key `generateIdempotencyKey` draws. -/
  drawn : String
  actor : String
  content : Value
  answers : Answers

/-- A renewal is written into the marker, which must be read back as it was before and after; none
where it is not. -/
def writeRenewal (s : SigningState) (marker : PendingMarker) (renewal : Renewal) (writes : Bool) :
    SigningState × Option PendingMarker :=
  let next := { marker with renewal := some renewal }
  if !s.retains config marker || !writes then (s, none)
  else
    let s := s.putMarkers (((readMarkers s.slot).getD []).map fun found =>
      if found.scope == marker.scope then next else found)
    (s, if s.retains config next then some next else none)

def renewAgain (s : SigningState) (input : RestoreInput) (marker : PendingMarker) :
    SigningState × Option PendingMarker :=
  let draft := s.drafts input.draftId
  match marker.renewal with
  | none => (s, some marker)
  | some renewal =>
    if !isSigned draft.response && input.renewUnsignedRevision
        && draft.version == renewal.version then
      s.writeRenewal config marker { renewal with
        previousVersion := some draft.version
        version := draft.version + 1
        operationId := input.drawn } input.answers.writes
    else (s, some marker)

def renewFirst (s : SigningState) (input : RestoreInput) (recovery : Recovery) :
    SigningState × Option PendingMarker :=
  match recovery.marker.renewal with
  | some _ => (s, some recovery.marker)
  | none => s.writeRenewal config recovery.marker
      ⟨input.drawn, recovery.marker.version + 1, none, recovery.original,
        config.handoffHash recovery.original, config.handoffHash recovery.successor⟩
      input.answers.writes

/-- `restorePending` behind its last read. -/
def finishRestore (s : SigningState) (recovery : Recovery) (actor : String) (content : Value)
    (answers : Answers) : SigningState :=
  let marker := recovery.marker
  let draft := s.drafts marker.draftId
  if isSigned draft.response then
    if answers.admitted && draft.version == marker.version + 1
        && config.same (withoutSignatures draft.response) recovery.original && answers.writes then
      (s.unmark marker.operationId).go marker.scope none
    else s.go marker.scope none
  else
    match marker.renewal with
    | none => s.go marker.scope none
    | some renewal =>
      if draft.version == renewal.version && config.same draft.response recovery.successor
          && answers.admitted then
        (s.addPreparation ⟨marker.draftId, draft.version, draft.response, actor, content,
          some renewal.operationId⟩).go marker.scope none
      else s.go marker.scope none

/-- `restorePending` where the successor is to be saved, up to the Save, or else its end. -/
def saveSuccessor (s : SigningState) (input : RestoreInput) (recovery : Recovery) : SigningState :=
  let draft := s.drafts input.draftId
  if !isSigned draft.response && (draft.version == recovery.marker.version
      || recovery.marker.renewal.any fun renewal =>
        some draft.version == renewal.previousVersion) then
    if !config.validateResponse recovery.successor then s
    else
      match s.renewFirst config input recovery with
      | (s, none) => s
      | (s, some marker) =>
        (s.dispatch ⟨input.draftId, draft.version, .save recovery.successor⟩).go marker.scope
          (some (.renewing { recovery with marker := marker }))
  else s.finishRestore config recovery input.actor input.content input.answers

/-- `restorePending(input, operationId)` up to its Save. -/
def restorePending (s : SigningState) (input : RestoreInput) : SigningState :=
  let draft := s.drafts input.draftId
  if !isUuidV7IdempotencyKey input.operationId
      || (s.running (config.scopeOf input.draftId)).isSome then s
  else
    match s.pendingRecoveryFor config input.draftId draft.version draft.response with
    | none => s
    | some recovery =>
      if recovery.marker.operationId != input.operationId || !input.answers.admitted then s
      else
        match s.renewAgain config input recovery.marker with
        | (s, none) => s
        | (s, some marker) => s.saveSuccessor config input { recovery with marker := marker }

/-- `restorePending` behind its Save. -/
def renewed (s : SigningState) (scope actor : String) (content : Value) (answers : Answers) :
    Option SigningState :=
  match s.running scope with
  | some (.renewing recovery) => some (s.finishRestore config recovery actor content answers)
  | _ => none

def save (s : SigningState) (draftId : String) (expected : Int) (response : Value) : SigningState :=
  if s.refused config (config.scopeOf draftId) then s
  else s.dispatch ⟨draftId, expected, .save response⟩

def prepare (s : SigningState) (draftId actor : String) (content : Value) : SigningState :=
  let draft := s.drafts draftId
  if s.refused config (config.scopeOf draftId) || isSigned draft.response then s
  else
    s.addPreparation ⟨draftId, draft.version, draft.response, actor, content, none⟩

def create (s : SigningState) (scope operationId definitionUrl definitionVersion : String)
    (response : Value) (writes : Bool) : SigningState :=
  match readCreateMarkers s.createSlot with
  | none => s
  | some creates =>
    if s.refused config scope || !isUuidV7IdempotencyKey operationId || !writes then s
    else s.putCreateMarkers (creates ++ [⟨scope, operationId, definitionUrl, definitionVersion,
      config.handoffHash response⟩])

def created (s : SigningState) (scope : String) : SigningState :=
  match readCreateMarkers s.createSlot with
  | none => s
  | some creates => s.putCreateMarkers (creates.filter (·.scope != scope))

def clearScope (s : SigningState) (scope : String) : SigningState :=
  let s := { s with
    acts := s.acts.filter (fun act => config.scopeOf act.preparation.draftId != scope) }
  match readMarkers s.slot with
  | none => s
  | some markers => (s.putMarkers (markers.filter (·.scope != scope))).created scope

def reload (s : SigningState) : SigningState :=
  { s with preparations := [], acts := [], running := fun _ => none }

/-- The server decides a write, in a signature with the response it makes. -/
def land (s : SigningState) (request : Nat) (signed : Value) : Option SigningState :=
  match s.requests[request]? with
  | none => none
  | some request =>
    let draft := s.drafts request.draftId
    if draft.version != request.expected then some s
    else
      match request.write with
      | .save response =>
        some { s with drafts :=
          Function.update s.drafts request.draftId ⟨draft.version + 1, response⟩ }
      | .sign =>
        if !isSigned draft.response && isSigned signed
            && config.same (withoutSignatures signed) draft.response then
          some { s with drafts :=
            Function.update s.drafts request.draftId ⟨draft.version + 1, signed⟩ }
        else none

inductive Event where
  | save (draftId : String) (expected : Int) (response : Value)
  | prepare (draftId actor : String) (content : Value)
  | create (scope operationId definitionUrl definitionVersion : String) (response : Value)
      (writes : Bool)
  | created (scope : String)
  | sign (input : SignInput)
  | execute (scope : String) (answers : Answers)
  | restorePending (input : RestoreInput)
  | renewed (scope actor : String) (content : Value) (answers : Answers)
  | halt (scope : String)
  | clearScope (scope : String)
  | reload
  | land (request : Nat) (signed : Value)

def draws (s : SigningState) (drawn : String) : Bool :=
  isUuidV7IdempotencyKey drawn && s.written.all (·.operationId != drawn)

def step (s : SigningState) : Event → Option SigningState
  | .save draftId expected response => some (s.save config draftId expected response)
  | .prepare draftId actor content => some (s.prepare config draftId actor content)
  | .create scope operationId definitionUrl definitionVersion response writes =>
    some (s.create config scope operationId definitionUrl definitionVersion response writes)
  | .created scope => some (s.created scope)
  | .sign input => s.sign config input
  | .execute scope answers => s.execute config scope answers
  | .restorePending input =>
    if s.draws input.drawn then some (s.restorePending config input) else none
  | .renewed scope actor content answers => s.renewed config scope actor content answers
  | .halt scope => some (s.go scope none)
  | .clearScope scope => if (s.running scope).isSome then none else some (s.clearScope config scope)
  | .reload => some s.reload
  | .land request signed => s.land config request signed

end SigningState

end FormspecWeb.Signing
