import FormspecWeb.Photo.CanonicalJson
import FormspecWeb.Shared.Checks

/-!
# The photo provider's configuration

The provider's own documents, as their closed schemas let them through, and the checks across them
before the provider is selected. What a schema says of a number or a text is kept with it.
-/

namespace FormspecWeb.Photo

open Shared

/-! ## Documents -/

structure Budgets where
  requestBytes : Nat
  responseBytes : Nat
  attachmentCount : Nat
  attachmentBytes : Nat
  totalAttachmentBytes : Nat
  concurrency : Nat
  deadlineMillis : Nat
  maxEvidenceAgeSeconds : Nat
  maxValiditySeconds : Nat

def Budgets.entries (budgets : Budgets) : List (String × Nat) :=
  [("requestBytes", budgets.requestBytes), ("responseBytes", budgets.responseBytes),
    ("attachmentCount", budgets.attachmentCount), ("attachmentBytes", budgets.attachmentBytes),
    ("totalAttachmentBytes", budgets.totalAttachmentBytes), ("concurrency", budgets.concurrency),
    ("deadlineMillis", budgets.deadlineMillis),
    ("maxEvidenceAgeSeconds", budgets.maxEvidenceAgeSeconds),
    ("maxValiditySeconds", budgets.maxValiditySeconds)]

def Budgets.json (budgets : Budgets) : Value :=
  .object (budgets.entries.map fun (key, bound) => (key, .number bound))

structure Selection where
  scope : String
  formId : String
  formVersionId : String
  definitionUrl : String
  definitionVersion : String
  definitionHash : String
  requiredSources : List String

def Selection.json (selection : Selection) : Value :=
  .object [("scope", .string selection.scope), ("formId", .string selection.formId),
    ("formVersionId", .string selection.formVersionId),
    ("definitionUrl", .string selection.definitionUrl),
    ("definitionVersion", .string selection.definitionVersion),
    ("definitionHash", .string selection.definitionHash),
    ("requiredSources", .ofStrings selection.requiredSources)]

structure CredentialIdentity where
  scope : String
  endpoint : String
  issuer : String
  requiredScopes : List String
  allowedClients : List String
  allowDevelopmentLoopbackHttp : Bool
  clientId : String
  scopes : List String

structure Registration where
  json : Value
  selection : Selection
  providerId : String
  providerVersion : String
  endpoint : String
  allowDevelopmentLoopbackHttp : Bool
  budgets : Budgets
  outputSchemaHash : String
  credentialIdentity : CredentialIdentity

structure Limits where
  maxBytes : Nat
  maxPixels : Nat
  deadlineMillis : Nat
  maxBytes_range : 1 ≤ maxBytes ∧ maxBytes ≤ 15728640
  maxPixels_range : 1 ≤ maxPixels ∧ maxPixels ≤ 16000000
  deadlineMillis_range : 1 ≤ deadlineMillis ∧ deadlineMillis ≤ 10000

structure ConfigDocument where
  registrationHash : String
  registration : Registration
  formVersionHash : String
  policyHash : String
  jwksHash : String
  photoInstanceName : String
  photoPointer : String
  policyPointer : String
  limits : Limits

structure PolicyRule where
  ruleId : String
  required : Bool
  configuration : Value
  file_size : ruleId = "file-size" →
    configuration.get? "minimumBytes" = some (.number 54000)
      ∧ configuration.get? "maximumBytes" = some (.number 10000000)

structure PolicyDocument where
  json : Value
  edition : String
  edition_text : edition ≠ ""
  automaticRules : List PolicyRule
  unsupportedAutomatic : String

structure Url where
  protocol : String
  username : String
  password : String
  hostname : String
  pathname : String
  search : String
  hash : String

structure Platform where
  hashing : Hashing
  /-- `new URL(text)`. -/
  parseUrl : String → Option Url
  /-- A name after `urn:` that begins with a letter is a path of its own, and takes any text. -/
  parseUrl_urn : ∀ name, name.head?.any (·.isAlpha) → (parseUrl ("urn:" ++ String.ofList name)).isSome
  /-- `Date.parse(text)`, where it is finite. -/
  dateParse : String → Option Rat
  /-- `JSON.parse` of the bytes as UTF-8. -/
  parseJson : List UInt8 → Option Value
  /-- `validateConfig`, with the members the schema lets through. -/
  readConfig : Value → Option ConfigDocument
  /-- `validatePolicy`, likewise. -/
  readPolicy : Value → Option PolicyDocument

def parseDocument (platform : Platform) (bytes : List UInt8) (maximum : Nat) :
    Except String Value := do
  failIf (decide (maximum < bytes.length)) "document exceeds bound"
  match platform.parseJson bytes with
  | none => .error "document does not parse"
  | some value =>
    failIf (!checkJsonTree value) "JSON complexity exceeds budget"
    return value

/-! ## Selection -/

def outputSchemaPin : String :=
  "sha256:56a3a9af49ad3137f93420558aaa39bfd859d3d0f0e475b1fe0b7ebe338a7985"

structure Selected where
  config : ConfigDocument
  policy : PolicyDocument
  jwks : Value
  endpointPath : String
  /-- `minimumBytes` and `maximumBytes`, as the rule's configuration has them. -/
  sizeRange : Option Value × Option Value

def present {α : Type} (message : String) : Option α → Except String α
  | some a => .ok a
  | none => .error message

structure Selected.Admitted (hashing : Hashing) (selected : Selected) : Prop where
  policyHash : isSha256Digest selected.config.policyHash
  maxBytes : selected.config.registration.budgets.attachmentBytes ≤ selected.config.limits.maxBytes
  sizeRange : selected.sizeRange = (some (.number 54000), some (.number 10000000))

end FormspecWeb.Photo
