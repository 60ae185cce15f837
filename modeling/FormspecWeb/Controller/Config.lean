import FormspecWeb.Engine.ResponseActions
import FormspecWeb.Ports.TaskDraftWire
import FormspecWeb.Shared.Checks

/-!
# Configuration and admission of the response action controller

The loaded artifacts that select the controller's roles, and the checks the
controller makes on them and on the values the ports return. Every check is a
pure function of what it reads; a check that awaits a port takes the port's
answer as an argument.
-/

namespace FormspecWeb.Controller

open Shared Ports Engine

inductive ResponseActionRole where
  | startApplication
  | saveInitial
  | saveOwned
  | prepare
  | sign
  | submit
  | paper
deriving DecidableEq

def ResponseActionRole.all : List ResponseActionRole :=
  [.startApplication, .saveInitial, .saveOwned, .prepare, .sign, .submit, .paper]

/-- `role === 'saveInitial' || role === 'saveOwned'`. -/
def ResponseActionRole.isSave : ResponseActionRole → Bool
  | .saveInitial | .saveOwned => true
  | _ => false

inductive ResponseActionControllerReason where
  | actionUnadmitted
  | contextMismatch
  | responseInvalid
  | branchMismatch
  | outputsUnsupported
  | reviewUnready
  | operationConflict
  | operationPending
  | contextObsolete
  | restorationUnresolved
  | portFailed
  | completionOutcomeUnknown
deriving DecidableEq

/-- The codes of `ResponseCompletionRefusal`. -/
inductive CompletionRefusalCode where
  | actionUnadmitted
  | outputsUnsupported
  | contextMismatch
deriving DecidableEq

def CompletionRefusalCode.reason : CompletionRefusalCode → ResponseActionControllerReason
  | .actionUnadmitted => .actionUnadmitted
  | .outputsUnsupported => .outputsUnsupported
  | .contextMismatch => .contextMismatch

/-- What a thrown value is to the controller. -/
inductive Failure where
  | refusal (code : ResponseActionControllerReason)
  | completionRefusal (code : CompletionRefusalCode)
  | outcomeUnknown
  | other
deriving DecidableEq

/-- `if (condition) throw new ControllerRefusal(code)`. -/
def refuseIf (condition : Bool) (code : ResponseActionControllerReason) : Except Failure Unit :=
  if condition then .error (.refusal code) else .ok ()

@[simp] theorem refuseIf_ok {condition : Bool} {code : ResponseActionControllerReason} {u : Unit} :
    refuseIf condition code = .ok u ↔ condition = false :=
  failIf_ok

@[simp] theorem refuseIf_bind_ok {α : Type} {condition : Bool}
    {code : ResponseActionControllerReason} {f : Unit → Except Failure α} {a : α} :
    (refuseIf condition code >>= f) = .ok a ↔ condition = false ∧ f () = .ok a :=
  failIf_bind_ok

/-- An engine call that throws `none`. -/
def orThrow {α : Type} : Option α → Except Failure α
  | some a => .ok a
  | none => .error .other

/-- An engine call whose `none` the controller refuses. -/
def orRefuse {α : Type} (code : ResponseActionControllerReason) : Option α → Except Failure α
  | some a => .ok a
  | none => .error (.refusal code)

structure ResponseSource where
  inputName : String
  catalogRef : String
  sourceRef : String
deriving DecidableEq

structure QualifiedResponseActionRole where
  document : ResponseActionsDocument
  artifactRef : String
  artifactDigest : String
  actionRef : String
  requestRef : Option String
  widgetSource : Option Json
  responseSource : Option ResponseSource
deriving DecidableEq

structure ResponseActionControllerContext where
  definition : FormDefinition
  draftKey : DraftKey
  formId : String
  formVersionId : String
  responseId : String
  generation : String
  expectedActor : Option String
deriving DecidableEq

/-- What `signingContext()` returns. -/
structure Wording where
  source : Json
  locale : String
deriving DecidableEq

structure ResponseCompletion where
  kind : CompletionKind
  admitRequest : RuntimeRequest → Except Failure Unit

structure ResponseActionControllerConfig where
  applicationLifecycle : Option ApplicationLifecycleCapabilities
  restoredApplication : Option ApplicationCaseReceipt
  restoredApplicationLookup : Option ApplicationCaseLookupUnavailable
  context : ResponseActionControllerContext
  roles : ResponseActionRole → Option QualifiedResponseActionRole
  restoredResponse : Option FormResponse
  completion : Option ResponseCompletion
  reconcileSignRetries : Bool
  /-- `config.signing.restorePending` is implemented. -/
  restoresPending : Bool
  /-- The engine's request planner; a thrown error is `none`. -/
  planServiceRequest : RuntimeRequest → PlanInput → Option PlannedRequest

@[simp] theorem orThrow_ok {α : Type} {value : Option α} {a : α} :
    orThrow value = .ok a ↔ value = some a := by
  cases value <;> simp [orThrow]

@[simp] theorem orRefuse_ok {α : Type} {code : ResponseActionControllerReason} {value : Option α}
    {a : α} : orRefuse code value = .ok a ↔ value = some a := by
  cases value <;> simp [orRefuse]

abbrev ActionInput := List (String × Member)

variable (config : ResponseActionControllerConfig)

def roleFor (document : ResponseActionsDocument) (actionRef : String) :
    Except Failure (ResponseActionRole × QualifiedResponseActionRole) :=
  let entries := ResponseActionRole.all.filterMap fun role => (config.roles role).map (role, ·)
  match entries.filter fun (_, admission) =>
      admission.actionRef == actionRef && admission.document == document with
  | [entry] => .ok entry
  | _ => .error (.refusal .actionUnadmitted)

def outputFields : ResponseActionRole → List String
  | .startApplication => ["/caseLedgerId", "/caseReference", "/draftRef", "/status"]
  | _ => ["/draft_id", "/form_version_id", "/subject_ref", "/draft_version", "/draft_state",
      "/canonical_response", "/status"]

/-- The evidence members that may leave the controller as transition bindings. -/
def transitionFields : List String :=
  ["/draft_id", "/form_version_id", "/subject_ref", "/status", "/response_id"]

def supportsOutput (role : ResponseActionRole) (name : String) (output : RequestOutput) : Bool :=
  isBindingName name && (outputFields role).contains output.path
    && (match output.exposure with
      | none => true
      | some exposure => ["internal", "transition"].contains exposure)
    && !(output.exposure == some "transition"
      && (role == .startApplication || !transitionFields.contains output.path))

def admitsEffect (admission : QualifiedResponseActionRole) : Effect → Bool
  | .serviceRequest requestRef idempotencyKey _ =>
    some requestRef == admission.requestRef && idempotencyKey == "@invocation.id"
      && truthy admission.artifactRef && truthy admission.artifactDigest
  | _ => false

def admitsPaper : Effect → Bool
  | .hostEvent eventName _ => eventName != "formspec-submit"
  | _ => false

/-- `action.effects` holds exactly one effect. -/
def singleEffect (action : ResponseAction) : Except Failure Effect :=
  match action.effects with
  | some [effect] => .ok effect
  | _ => .error (.refusal .actionUnadmitted)

def requestFor (role : ResponseActionRole) (admission : QualifiedResponseActionRole) :
    Except Failure (Option RuntimeRequest) := do
  let action ← orRefuse .actionUnadmitted
    (resolveResponseAction admission.document admission.actionRef)
  refuseIf (admission.document.scope == some "app"
    || admission.document.targetDefinitionUrl != some config.context.definition.url) .actionUnadmitted
  let tuple ← orThrow (resolveResponseActionValidationTuple action)
  refuseIf (role == .startApplication && (action.intent != "x-start-application"
    || tuple != ⟨"off", "non-blocking", "none"⟩)) .actionUnadmitted
  let effect ← singleEffect action
  if role == .paper then
    refuseIf (!admitsPaper effect) .actionUnadmitted
    return none
  refuseIf (!admitsEffect admission effect) .actionUnadmitted
  let request ← orThrow
    (resolveServiceRequest admission.document.runtimeRequests admission.requestRef)
  if role == .submit then
    let completion ← orRefuse .actionUnadmitted config.completion
    completion.admitRequest request
    return some request
  refuseIf (request.successStatuses != some [200]) .actionUnadmitted
  refuseIf (request.outputs.any fun (name, output) => !supportsOutput role name output)
    .outputsUnsupported
  return some request

def tupleFor (admission : QualifiedResponseActionRole) : Except Failure ValidationTuple := do
  let action ← orThrow (resolveResponseAction admission.document admission.actionRef)
  orThrow (resolveResponseActionValidationTuple action)

/-- `assertControllerResponse`, given the answer of `validate`. -/
def assertControllerResponse (response : FormResponse) (validate : Except Failure Bool) :
    Except Failure Unit := do
  let context := config.context
  refuseIf (response.id != some context.responseId
    || response.definitionUrl != context.definition.url
    || response.definitionVersion != context.definition.version) .responseInvalid
  let valid ← validate
  refuseIf (!valid) .responseInvalid
  refuseIf (context.draftKey.formUrl != response.definitionUrl
    || context.draftKey.formVersion != some response.definitionVersion
    || !truthy context.formVersionId || !truthy context.formId) .contextMismatch

structure EvidenceAnswer where
  validate : Except Failure Bool
  hash : Except Failure String

/-- The receipt's own fields agree with each other, with the context and with
what the caller expects. -/
def receiptAgrees (result : SavedResponseDraft) (expected : Option FormResponse)
    (actor : Option String) : Bool :=
  result.draftKey == config.context.draftKey && hasText result.actor && hasText result.draft.id
    && isSha256Hex result.draft.responseHash
    && (match actor with
      | some actor => !truthy actor || actor == result.actor
      | none => true)
    && result.evidence.subjectRef == result.actor
    && result.evidence.formVersionId == config.context.formVersionId
    && result.evidence.draftId == result.draft.id
    && result.evidence.draftVersion == result.draft.version
    && isSafeInteger result.draft.version && 1 ≤ result.draft.version
    && result.evidence.status == "in_progress"
    && result.evidence.canonicalResponse == result.response
    && result.evidence.draftState == result.response.data
    && (match expected with
      | some expected => result.response == expected
      | none => true)

/-- `assertSavedResponseDraftEvidence`, given the answers of its two ports. -/
def assertSavedResponseDraftEvidence (result : SavedResponseDraft) (expected : Option FormResponse)
    (actor : Option String) (answer : EvidenceAnswer) : Except Failure Unit := do
  assertControllerResponse config result.response answer.validate
  refuseIf (!receiptAgrees config result expected actor) .contextMismatch
  let hash ← answer.hash
  refuseIf (result.draft.responseHash != hash) .contextMismatch

/-- A receipt that passed `assertSavedResponseDraftEvidence`. -/
structure PassedEvidence where
  result : SavedResponseDraft
  expected : Option FormResponse
  actor : Option String
  answer : EvidenceAnswer
  passes : assertSavedResponseDraftEvidence config result expected actor answer = .ok ()

def assertRestoredSignedResponseEvidence (result : SignedResponseSigning) (wording : Wording) :
    Except Failure Unit :=
  refuseIf (!(config.context.draftKey.admitsSubject result.actor
    && some result.content == result.response.signingContent.map (·.content)
    && result.content.source == wording.source && result.content.locale == wording.locale
    && result.verification.mode == "delegated-service-key"
    && (match result.response.authoredSignatures with
      | some [signature] => result.verification.provider == signature.signatureProvider
      | _ => false)
    && truthy result.verification.keyId)) .contextMismatch

/-- `review`, given the answer of `reviewReady`. -/
def review (result : PreparedResponseSigning) (wording : Wording) (ready : Except Failure Bool) :
    Except Failure Unit := do
  refuseIf (result.content.source != wording.source || result.content.locale != wording.locale)
    .reviewUnready
  let ready ← ready
  refuseIf (!ready) .reviewUnready

inductive Subject where
  | absent
  | saved (draft : SavedResponseDraft)
  | prepared (preparation : PreparedResponseSigning)
  | signed (signature : SignedResponseSigning)
deriving DecidableEq

def Subject.receipt : Subject → Option SavedResponseDraft
  | .absent => none
  | .saved draft => some draft
  | .prepared preparation => some preparation.toSavedResponseDraft
  | .signed signature => some signature.toSavedResponseDraft

def Subject.draft (subject : Subject) : Option DraftReference := subject.receipt.map (·.draft)

def Subject.preparation : Subject → Option PreparedResponseSigning
  | .prepared preparation => some preparation
  | .signed signature => some signature.toPreparedResponseSigning
  | _ => none

/-- The input of a Sign names exactly this preparation, wording and consent. -/
def signInputMatches (input : ActionInput) (subject : PreparedResponseSigning)
    (response : FormResponse) (wording : Wording) : Bool :=
  input.lookup "draftId" == some (.text subject.draft.id)
    && input.lookup "draftVersion" == some (.number subject.draft.version)
    && input.lookup "responseId" == response.id.map .text
    && input.lookup "responseHash" == some (.text subject.draft.responseHash)
    && input.lookup "source" == some (.structured wording.source)
    && input.lookup "locale" == some (.text wording.locale)
    && (match input.lookup "signerName" with
      | some (.text name) => hasText name
      | _ => false)
    && input.lookup "consentAccepted" == some (.flag true)

def submitInputMatches (input : ActionInput) (subject : PreparedResponseSigning)
    (response : FormResponse) : Bool :=
  input.lookup "draftId" == some (.text subject.draft.id)
    && input.lookup "draftVersion" == some (.number subject.draft.version)
    && input.lookup "canonical_response" == some (.response response)

def allowedInput : ResponseActionRole → List String
  | .sign => ["draftId", "draftVersion", "responseId", "responseHash", "source", "locale",
      "signerName", "consentAccepted"]
  | _ => ["draftId", "draftVersion", "canonical_response"]

/-- The draft, version, Response, hash, wording and consent checks of a Sign or Submit. -/
def inputMatches (role : ResponseActionRole) (input : ActionInput)
    (subject : PreparedResponseSigning) (response : FormResponse) (wording : Wording) : Bool :=
  (role != .sign || signInputMatches input subject response wording)
    && (role != .submit || submitInputMatches input subject response)
    && input.all fun (key, _) => (allowedInput role).contains key

/-- A Sign or Submit whose subject, Response and input were found to agree. -/
structure Assent where
  role : ResponseActionRole
  input : ActionInput
  response : FormResponse
  wording : Wording
  preparation : PreparedResponseSigning
  sameResponse : preparation.response = response
  sameInput : inputMatches role input preparation response wording = true

/-- What `perform` checks of the subject of a Sign or Submit before it hashes
the Response; a recovered Sign skips the review. -/
def checkSubject (role : ResponseActionRole) (subject : Subject) (input : ActionInput)
    (response : FormResponse) (wording : Wording) (recoveringSign : Bool)
    (ready : Except Failure Bool) : Except Failure Assent :=
  match subject.preparation with
  | none => .error (.refusal .contextMismatch)
  | some preparation =>
    if hresponse : preparation.response = response then
      match if recoveringSign then .ok () else review preparation wording ready with
      | .error failure => .error failure
      | .ok () =>
        if hinput : inputMatches role input preparation response wording = true then
          .ok ⟨role, input, response, wording, preparation, hresponse, hinput⟩
        else .error (.refusal .contextMismatch)
    else .error (.refusal .contextMismatch)

end FormspecWeb.Controller
