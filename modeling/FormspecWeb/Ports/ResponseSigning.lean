import FormspecWeb.Shared.Text

/-!
# Values the response ports exchange

A `Json` value the program never looks into is kept as its canonical text, so
that the source's `same` (equality of canonical serialisations) is equality of
the model's values.
-/

namespace FormspecWeb.Ports

structure Json where
  canonical : String
deriving DecidableEq

/-- Authored signing content; `source` is its `SigningContentSource`. -/
structure SigningContent where
  source : Json
  locale : String
  rest : Json
deriving DecidableEq

/-- The `x-formspec-signing-content` extension of a Response. -/
structure SigningContentCommitment where
  draftId : String
  draftVersion : Int
  actorRef : String
  signerName : String
  signedAt : String
  content : SigningContent
  rest : Json
deriving DecidableEq

structure ResponseExtensions where
  signingContent : Option SigningContentCommitment
  rest : Json
deriving DecidableEq

structure AuthoredSignature where
  signatureProvider : String
  rest : Json
deriving DecidableEq

structure FormResponse where
  id : Option String
  definitionUrl : String
  definitionVersion : String
  status : String
  data : Json
  displayedLocale : Option Json
  authoredSignatures : Option (List AuthoredSignature)
  extensions : Option ResponseExtensions
  rest : Json
deriving DecidableEq

namespace FormResponse

/-- `Boolean(response.authoredSignatures?.length)`. -/
def isSigned (r : FormResponse) : Bool := !(r.authoredSignatures.getD []).isEmpty

/-- `response.extensions?.['x-formspec-signing-content']`. -/
def signingContent (r : FormResponse) : Option SigningContentCommitment :=
  r.extensions.bind (·.signingContent)

/-- A copy without `authoredSignatures`. -/
def withoutSignatures (r : FormResponse) : FormResponse := { r with authoredSignatures := none }

def withoutSigningContent (r : FormResponse) : FormResponse :=
  { r with extensions := r.extensions.map fun e => { e with signingContent := none } }

end FormResponse

structure FormDefinition where
  url : String
  version : String
  rest : Json
deriving DecidableEq

structure DraftKey where
  formUrl : String
  formVersion : Option String
  subjectRef : Option String
  partyRef : Option String
deriving DecidableEq

/-- `key.subjectRef && id !== key.subjectRef` does not hold. -/
def DraftKey.admitsSubject (key : DraftKey) (id : String) : Bool :=
  match key.subjectRef with
  | some subject => !Shared.truthy subject || id == subject
  | none => true

/-- A member of a JSON object the program reads: a string, a number, a boolean,
a Response, or any other value. -/
inductive Member where
  | text (value : String)
  | number (value : Int)
  | flag (value : Bool)
  | response (value : FormResponse)
  | structured (value : Json)
deriving DecidableEq

structure TaskPrefill where
  version : Int
  editableDataPaths : List String
  readOnlyDataPaths : List String
deriving DecidableEq

structure SignedTaskDraft where
  draftId : String
  expectedSignedDraftVersion : Int
  expectedSignedResponseHash : String
  associationHash : String
  taskBindingHash : String
deriving DecidableEq

structure TaskDraftAssociation where
  version : Int
  associationHash : String
  taskBindingHash : String
  taskPrefill : Option TaskPrefill
  signedDraft : Option SignedTaskDraft
deriving DecidableEq

structure VerifiedDraftEvidence where
  draftId : String
  formVersionId : String
  subjectRef : String
  draftVersion : Int
  draftState : Json
  canonicalResponse : FormResponse
  status : String
  taskDraft : Option TaskDraftAssociation
deriving DecidableEq

def VerifiedDraftEvidence.members (e : VerifiedDraftEvidence) : List (String × Member) :=
  [("/draft_id", .text e.draftId), ("/form_version_id", .text e.formVersionId),
    ("/subject_ref", .text e.subjectRef),
    ("/draft_version", .number e.draftVersion),
    ("/draft_state", .structured e.draftState),
    ("/canonical_response", .response e.canonicalResponse),
    ("/status", .text e.status)]

structure DraftReference where
  id : String
  version : Int
  responseHash : String
deriving DecidableEq

structure SavedResponseDraft where
  draftKey : DraftKey
  response : FormResponse
  draft : DraftReference
  actor : String
  evidence : VerifiedDraftEvidence
deriving DecidableEq

structure PreparedResponseSigning extends SavedResponseDraft where
  content : SigningContent
deriving DecidableEq

structure PendingResponseSigning extends PreparedResponseSigning where
  operationId : String
deriving DecidableEq

structure Verification where
  mode : String
  provider : String
  keyId : String
deriving DecidableEq

structure SignedResponseSigning extends PreparedResponseSigning where
  verification : Verification
deriving DecidableEq

inductive RestoredPendingResponseSigning where
  | prepared (preparation : PreparedResponseSigning) (operationId : String)
  | signed (signed : SignedResponseSigning)
deriving DecidableEq

/-- `selected` of a restoration result. -/
def RestoredPendingResponseSigning.selected :
    RestoredPendingResponseSigning → PreparedResponseSigning
  | .prepared preparation _ => preparation
  | .signed result => result.toPreparedResponseSigning

structure ApplicationCaseReceipt where
  caseLedgerId : String
  caseReference : String
  draftRef : String
  status : String
deriving DecidableEq

def ApplicationCaseReceipt.members (r : ApplicationCaseReceipt) :
    List (String × Member) :=
  [("/caseLedgerId", .text r.caseLedgerId), ("/caseReference", .text r.caseReference),
    ("/draftRef", .text r.draftRef), ("/status", .text r.status)]

structure ApplicationCaseLookupUnavailable where
  statusCode : Nat
deriving DecidableEq

structure ApplicationLifecycleCapabilities where
  earlyCaseCreation : Bool
  persistentSaving : Bool
  formVersionId : String
deriving DecidableEq

inductive CompletionKind where
  | intake
  | task
deriving DecidableEq

/-- The object `completion.capture` returned; `ref` is its identity. -/
structure PreparedResponseCompletion where
  kind : CompletionKind
  ref : Nat
deriving DecidableEq

/-- The accepted completion: its confirmation or task outcome and its evidence. -/
structure ResponseCompletionResult where
  kind : CompletionKind
  outcome : Json
  evidence : List (String × Member)
deriving DecidableEq

structure SubmitOptions where
  nativeCurrentCheck : Option Json
deriving DecidableEq

end FormspecWeb.Ports
