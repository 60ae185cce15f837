import FormspecWeb.Photo.MeasureAttachment
import FormspecWeb.Shared.Base64
import FormspecWeb.Shared.CaseMapping
import FormspecWeb.Shared.JsonPointer

/-!
# Binding a request

A request is bound to the selected provider, to the definition it names and to the bytes of the
attachments it brings. The response refers to attachments wherever it likes; the request brings each
of them once: as many as there are references, each the canonical equal of one of them, no two of
the same.
-/

namespace FormspecWeb.Photo

open Shared

def attachmentUrn : List Char := "urn:formspec:attachment:".toList

/-- `typeof value[key] === 'string' && value[key].toLowerCase().startsWith(…)`. -/
def namesAttachment (mapping : CaseMapping) (value : Value) (key : String) : Bool :=
  match value.get? key with
  | some (.string text) => attachmentUrn.isPrefixOf (mapping.toLowerCase text.toList)
  | _ => false

def isReference (mapping : CaseMapping) (value : Value) : Bool :=
  value.isPlainObject
    && ((value.hasOwn "contentType" && (value.hasOwn "url" || value.hasOwn "data"))
      || (value.get? "kind").any (·.isString "attachment-ref")
      || ["uri", "url"].any (namesAttachment mapping value))

/-- The values are pushed in reverse, so that the first of them is on top. -/
def referencesWalk (mapping : CaseMapping) : Walk Value Value where
  found value := if isReference mapping value then [value] else []
  pushed value := if isReference mapping value then [] else value.values
  size := Value.size
  shrinks value := by
    have h := value.values_size
    split
    · simp only [List.map_nil, List.sum_nil]
      omega
    · exact h

def references (mapping : CaseMapping) (data : Value) : List Value :=
  (referencesWalk mapping).run [data] []

structure NativeRequest where
  operation : String
  scope : String
  owner : Value
  selection : Selection
  formVersion : Value
  draftId : String
  draftVersion : Value
  canonicalResponse : Value
  candidateHash : String
  requestHash : String
  sources : List (String × String)

structure RequestAttachment where
  reference : Value
  hash : String
  contentType : String
  bytesBase64 : String

structure ProviderRequest where
  providerId : String
  providerVersion : String
  registrationHash : String
  outputSchemaHash : String
  requestHash : String
  callHash : String
  requestedAt : String
  nativeRequest : NativeRequest
  attachments : List RequestAttachment
  budgets : Budgets

def sourcesJson (sources : List (String × String)) : Value :=
  .object (sources.map fun (name, source) => (name, .string source))

def requestPreimage (native : NativeRequest) (formVersionHash : String) : Value :=
  .object [("operation", .string native.operation), ("scope", .string native.scope),
    ("owner", native.owner), ("selection", native.selection.json),
    ("formVersionHash", .string formVersionHash), ("draftId", .string native.draftId),
    ("draftVersion", native.draftVersion), ("candidateHash", .string native.candidateHash),
    ("sources", sourcesJson native.sources)]

/-- `if (condition) fail(409)`. -/
def refuseIf (condition : Bool) : Except BindRefusal Unit := failIf condition .mismatch

/-- A step that throws is answered like a mismatch. -/
def orRefuse {α : Type} : Option α → Except BindRefusal α
  | some a => .ok a
  | none => .error .mismatch

theorem orRefuse_ok {α : Type} {value : Option α} {a : α} :
    orRefuse value = .ok a ↔ value = some a := by
  cases value <;> simp [orRefuse]

/-- `value[key] === text`. -/
def reads (value : Value) (key text : String) : Bool := (value.get? key).any (·.isString text)

/-- `Object.entries(value)`. -/
def ownEntries : Value → List (String × Value)
  | .object members => members
  | .array entries => entries.zipIdx.map fun (entry, i) => (toString i, entry)
  | _ => []

def declaredSources (definition : Value) (requiredSources : List String) :
    List (String × String) :=
  (ownEntries ((definition.get? "instances").getD .undefined)).filterMap fun (name, instanceJson) =>
    match instanceJson.get? "source" with
    | some (.string source) => if requiredSources.contains source then some (name, source) else none
    | _ => none

def checkDefinition (platform : Platform) (selected : Selected) (native : NativeRequest) :
    Except BindRefusal Unit := do
  let hashing := platform.hashing
  let config := selected.config
  let selection := config.registration.selection
  let version := native.formVersion
  match version.get? "definition_json" with
  | some (.string text) =>
    refuseIf (!reads version "form_id" selection.formId
      || !reads version "form_version_id" selection.formVersionId
      || !reads version "definition_url" selection.definitionUrl
      || !reads version "definition_version" selection.definitionVersion
      || !reads version "definition_hash" selection.definitionHash
      || 2 * 1024 * 1024 < (codeUnits text).length)
    let definition ← orRefuse (parseDocument platform (textBytes text) (2 * 1024 * 1024)).toOption
    let policy ← orRefuse (JsonPointer.lookup definition config.policyPointer)
    let photoInstance := ((definition.get? "instances").bind fun instances =>
      JsonPointer.ownMember instances config.photoInstanceName).getD .undefined
    refuseIf (hashing.jsonHash policy != some config.policyHash
      || hashing.equalJson policy selected.policy.json != some true
      || !(native.sources.lookup config.photoInstanceName).any fun source =>
        reads photoInstance "source" source)
    refuseIf (hashing.equalJson (sourcesJson (declaredSources definition selection.requiredSources))
      (sourcesJson native.sources) != some true)
  | _ => .error .mismatch

structure DecodedAttachment where
  reference : Value
  bytes : List UInt8
  hash : String

structure Gathered where
  decoded : List DecodedAttachment
  inventory : List Value
  seen : List String
  total : Nat

def RequestAttachment.bytes (attachment : RequestAttachment) : List UInt8 :=
  Base64.decode attachment.bytesBase64.toList

def RequestAttachment.decoded (attachment : RequestAttachment) : DecodedAttachment :=
  { reference := attachment.reference, bytes := attachment.bytes, hash := attachment.hash }

def RequestAttachment.listed (attachment : RequestAttachment) : Value :=
  .object [("reference", attachment.reference), ("hash", .string attachment.hash),
    ("contentType", .string attachment.contentType), ("size", .number attachment.bytes.length)]

def startsWithUrn : Option Value → Bool
  | some (.string uri) => attachmentUrn.isPrefixOf uri.toList
  | _ => false

def statedSize (reference : Value) : Option Nat :=
  (safeInteger? (reference.get? "size")).bind fun size =>
    if size < 0 then none else some size.toNat

def bindAttachment (hashing : Hashing) (budgets : Budgets) (refs : List Value)
    (found : Gathered) (attachment : RequestAttachment) : Except BindRefusal Gathered := do
  let ref := attachment.reference
  let refHash ← orRefuse (hashing.jsonHash ref)
  let known ← orRefuse (refs.anyM (m := Option) fun candidate => hashing.equalJson ref candidate)
  let size ← orRefuse (statedSize ref)
  refuseIf (found.seen.contains refHash || !known || !reads ref "kind" "attachment-ref"
    || !startsWithUrn (ref.get? "uri") || !reads ref "hash" attachment.hash
    || !reads ref "mimeType" attachment.contentType || budgets.attachmentBytes < size
    || (size + 2) / 3 * 4 < (codeUnits attachment.bytesBase64).length)
  let bytes := attachment.bytes
  let total := found.total + bytes.length
  refuseIf (String.ofList (Base64.encode bytes) != attachment.bytesBase64 || bytes.length != size
    || hashing.byteHash bytes != attachment.hash || budgets.totalAttachmentBytes < total)
  return {
    decoded := found.decoded ++ [attachment.decoded]
    inventory := found.inventory ++ [attachment.listed]
    seen := refHash :: found.seen
    total }

def bindAttachments (hashing : Hashing) (budgets : Budgets) (refs : List Value)
    (attachments : List RequestAttachment) : Except BindRefusal Gathered := do
  refuseIf (refs.length != attachments.length || budgets.attachmentCount < refs.length)
  attachments.foldlM (bindAttachment hashing budgets refs)
    { decoded := [], inventory := [], seen := [], total := 0 }

structure Bound where
  photo : Option DecodedAttachment
  requestHash : String
  missing : Bool

def selectPhoto (hashing : Hashing) (decoded : List DecodedAttachment) :
    Option Value → Option (Option DecodedAttachment)
  | none => some none
  | some chosen => decoded.findM? fun attachment => hashing.equalJson attachment.reference chosen

def responseData (native : NativeRequest) : Value :=
  (native.canonicalResponse.get? "data").getD .undefined

def bindRequest (platform : Platform) (mapping : CaseMapping)
    (validateRequest : Value → Option ProviderRequest) (selected : Selected) (body : Value)
    (now : Rat) : Except BindRefusal Bound := do
  let hashing := platform.hashing
  let config := selected.config
  let registration := config.registration
  let selection := registration.selection
  match validateRequest body with
  | none => .error .shape
  | some request =>
    let native := request.nativeRequest
    refuseIf (request.providerId != registration.providerId
      || request.providerVersion != registration.providerVersion
      || request.registrationHash != config.registrationHash
      || request.outputSchemaHash != registration.outputSchemaHash
      || hashing.equalJson request.budgets.json registration.budgets.json != some true
      || hashing.equalJson native.selection.json selection.json != some true
      || hashing.equalJson (.string native.scope) (.string selection.scope) != some true
      || hashing.equalJson (.ofStrings (sortTexts (native.sources.map (·.2))))
        (.ofStrings (sortTexts selection.requiredSources)) != some true
      || (native.sources.lookup config.photoInstanceName).isNone)
    let requested ← orRefuse (platform.dateParse request.requestedAt)
    refuseIf (now + 30000 < requested
      || (registration.budgets.maxEvidenceAgeSeconds * 1000 : Rat) < now - requested)
    refuseIf (hashing.jsonHash native.canonicalResponse != some native.candidateHash
      || hashing.jsonHash native.formVersion != some config.formVersionHash)
    let requestHash ← orRefuse (hashing.jsonHash (requestPreimage native config.formVersionHash))
    refuseIf (requestHash != native.requestHash || requestHash != request.requestHash)
    checkDefinition platform selected native
    let refs := references mapping (responseData native)
    let gathered ← bindAttachments hashing registration.budgets refs request.attachments
    refuseIf (hashing.jsonHash (.object [("requestHash", .string requestHash),
      ("registrationHash", .string request.registrationHash),
      ("outputSchemaHash", .string request.outputSchemaHash),
      ("requestedAt", .string request.requestedAt),
      ("attachments", .array gathered.inventory)]) != some request.callHash)
    let selectedPhoto := JsonPointer.lookup native.canonicalResponse config.photoPointer
    let photo ← orRefuse (selectPhoto hashing gathered.decoded selectedPhoto)
    return {
      photo, requestHash
      missing := selectedPhoto.all fun value => match value with | .null => true | _ => false }

end FormspecWeb.Photo
