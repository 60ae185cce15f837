import FormspecWeb.Shared.Checks
import FormspecWeb.Shared.Chunks
import FormspecWeb.Shared.JsonMembers
import FormspecWeb.Shared.Text
import FormspecWeb.Shared.Utf16
import Mathlib.Algebra.Order.Ring.Rat

/-!
# The attachment store of a server

A file is uploaded to the attachments of a form, or of a task's draft, and the server answers with the
reference that the response keeps. Reading goes the other way: the reference is checked against the form
or the task, and the bytes of the reply against the reference. Numbers that are not finite have no value.
-/

namespace FormspecWeb.Attachments.HttpStore

open Shared JsonText

abbrev Bytes := List UInt8

abbrev Reference := Json (Option Rat)

structure TaskBinding where
  draftId : String
  fieldPaths : List (String × String)

structure HttpAttachmentStoreConfig where
  formId : String
  maxUploadBytes : Option Nat
  scopeKey : Option String
  taskBinding : Option TaskBinding

structure ParsedUrl where
  origin : Text
  pathname : Text
  hash : Text
  searchParams : List (Text × Text)

structure StorePlatform where
  /-- `new URL(text, 'https://attachment.invalid')`, none where it throws. -/
  parseUrl : Text → Option ParsedUrl
  format : NumberFormat (Option Rat)
  sha256 : Bytes → Bytes
  /-- `crypto.subtle` is there. -/
  subtle : Bool

structure Reply where
  status : Nat
  redirected : Bool
  /-- Its type is `opaque`. -/
  isOpaque : Bool
  header : String → Option Text
  body : Option (List (Except String Bytes))
  json : Except String Reference

/-- What the world answers to a call: the checks of its signals and its guard in their order, the token,
whether the request can be made, and the reply. -/
structure Exchange where
  checks : Nat → Except String Unit
  token : Except String String
  request : Except String Unit
  reply : Except String Reply

structure StoreError where
  code : Option String
  message : String
  deriving DecidableEq

def plain (message : String) : StoreError := ⟨none, message⟩

def uploadError (code message : String) : StoreError := ⟨some code, message⟩

def thrown {α : Type} : Except String α → Except StoreError α
  | .ok a => .ok a
  | .error message => .error (plain message)

def utf16 (text : String) : Text := charsText text.toList

/-- `fieldPath.replace(/\[\d+\]$/, '')` -/
def withoutIndex (fieldPath : String) : String :=
  let reversed := fieldPath.toList.reverse
  let digits := (reversed.drop 1).takeWhile isAsciiDigit
  if reversed.head? = some ']' ∧ digits ≠ [] ∧ (reversed.drop (1 + digits.length)).head? = some '[' then
    String.ofList (reversed.drop (2 + digits.length)).reverse
  else fieldPath

def path (config : HttpAttachmentStoreConfig) (fieldPath : Option String) : Except StoreError (Option Text) :=
  match config.taskBinding with
  | none => .ok none
  | some task =>
    let selected := match fieldPath with
      | none => none
      | some fieldPath =>
        let exact := if fieldPath == "" then none else task.fieldPaths.lookup fieldPath
        exact.or (if withoutIndex fieldPath == "" then none else task.fieldPaths.lookup (withoutIndex fieldPath))
    match selected with
    | some selected =>
      if selected == "" then .error (plain "Task attachment field path is unselected") else .ok (some (utf16 selected))
    | none => .error (plain "Task attachment field path is unselected")

def basePath (config : HttpAttachmentStoreConfig) : String :=
  match config.taskBinding with
  | some task => "/runtime/drafts/" ++ encodeURIComponent task.draftId ++ "/attachments"
  | none => "/runtime/forms/" ++ encodeURIComponent config.formId ++ "/attachments"

/-- `taskBinding ? basePath() : undefined` -/
def taskBasePath (config : HttpAttachmentStoreConfig) : Option Text :=
  config.taskBinding.map fun _ => utf16 (basePath config)

/-! ## References -/

def isLowerHexUnit (u : Nat) : Bool := (48 ≤ u && u ≤ 57) || (97 ≤ u && u ≤ 102)

/-- `prefix` and 64 lower-case hexadecimal digits. -/
def isDigestAfter (lead : String) (text : Text) : Bool :=
  (utf16 lead).isPrefixOf text && (text.drop lead.length).length == 64
    && (text.drop lead.length).all isLowerHexUnit

/-- `/^sha256:[a-f0-9]{64}$/` -/
def isSha256 (text : Text) : Bool := isDigestAfter "sha256:" text

/-- `/^urn:formspec:attachment:(upload_[a-f0-9]{64})$/.exec(uri)?.[1]` -/
def uploadIdOf (uri : Text) : Option Text :=
  let lead := "urn:formspec:attachment:"
  if (utf16 lead).isPrefixOf uri && isDigestAfter "upload_" (uri.drop lead.length) then some (uri.drop lead.length)
  else none

def text? : Option Reference → Option Text
  | some (.string text) => some text
  | _ => none

def number? : Option Reference → Option Rat
  | some (.number value) => value
  | _ => none

def present : Option Reference → Option Reference
  | some .null => none
  | value => value

def isRecord : Reference → Bool
  | .object _ => true
  | _ => false

/-- `ref[key] !== undefined && ref[key] !== expected` -/
def differs (ref : Reference) (key : String) (expected : Text) : Bool :=
  (ref.member? (utf16 key)).isSome && text? (ref.member? (utf16 key)) != some expected

def readableTypes : List Text := ["application/pdf", "image/png", "image/jpeg", "text/csv"].map utf16

/-- A name that is not blank, of at most 255 bytes and without control characters. -/
def isReadableName (filename : Text) : Bool :=
  filename.any (fun u => !isTrimmed (Char.ofNat u)) && decide ((encodeText filename).length ≤ 255)
    && !filename.any fun u => u < 32 || (127 ≤ u && u ≤ 159)

/-- `Number.isSafeInteger(size) && size >= 0` -/
def isSize (size : Rat) : Bool := size.den == 1 && isSafeInteger size.num && decide (0 ≤ size)

structure Qualified where
  uploadId : Text
  mimeType : Text
  size : Nat
  hash : Text

/-- `ref.uri ?? ref.url` -/
def uriOf (ref : Reference) : Option Reference :=
  (present (ref.member? (utf16 "uri"))).or (ref.member? (utf16 "url"))

/-- `ref.mimeType ?? ref.contentType` -/
def mimeTypeOf (ref : Reference) : Option Reference :=
  (present (ref.member? (utf16 "mimeType"))).or (ref.member? (utf16 "contentType"))

def formReadUrl (formId : String) (uploadId : Text) : Text :=
  utf16 ("/runtime/forms/" ++ encodeURIComponent formId ++ "/attachments/") ++ uploadId

/-- The conditions that hold of a form's and a task's descriptors alike, and a form's own. -/
def qualifyReference (ref : Reference) (formId : String) (isTask : Bool) : Option Qualified := do
  let uri ← text? (uriOf ref)
  let uploadId ← uploadIdOf uri
  let hash ← text? (ref.member? (utf16 "hash"))
  let size ← number? (ref.member? (utf16 "size"))
  let mimeType ← text? (mimeTypeOf ref)
  let filename ← text? (ref.member? (utf16 "filename"))
  if differs ref "kind" (utf16 "attachment-ref") || !isSha256 hash || !isSize size
    || !readableTypes.contains mimeType || !isReadableName filename
    || differs ref "uri" uri || differs ref "url" uri || differs ref "mimeType" mimeType
    || differs ref "contentType" mimeType || differs ref "upload_id" uploadId
    || (!isTask && differs ref "read_url" (formReadUrl formId uploadId)) then none
  else some ⟨uploadId, mimeType, size.num.toNat, hash⟩

def checkTaskUrl (platform : StorePlatform) (ref : Reference) (base : Text) (dataPath : Option Text)
    (uploadId : Text) : Except StoreError Unit := do
  match text? (ref.member? (utf16 "read_url")) with
  | none => .error (plain "Task attachment read reference is missing")
  | some readUrl =>
    failIf (readUrl.head? != some 47) (plain "Task attachment read reference is missing")
    match platform.parseUrl readUrl with
    | none => .error (plain "Invalid URL")
    | some url =>
      failIf (url.origin != utf16 "https://attachment.invalid" || url.pathname != base ++ utf16 "/" ++ uploadId
        || !url.hash.isEmpty || url.searchParams.map (·.1) != [utf16 "dataPath"]
        || url.searchParams.lookup (utf16 "dataPath") != dataPath)
        (plain "Task attachment read reference differs from its draft or path")

def qualifyReadDescriptor (platform : StorePlatform) (ref : Reference) (formId : String) (base : Option Text)
    (dataPath : Option Text) : Except StoreError Qualified := do
  failIf (!isRecord ref) (plain "Attachment descriptor is unavailable")
  match qualifyReference ref formId base.isSome with
  | none => .error (plain "Attachment descriptor does not match this form read reference")
  | some qualified =>
    match base with
    | some base => do
        checkTaskUrl platform ref base dataPath qualified.uploadId
        return qualified
    | none => .ok qualified

structure ExpectedRef where
  size : Nat
  filename : Text
  mimeType : Text

def isUploadedRef (value : Reference) (expected : ExpectedRef) : Bool :=
  isRecord value && text? (value.member? (utf16 "kind")) == some (utf16 "attachment-ref")
    && (text? (value.member? (utf16 "uri"))).any (!·.isEmpty)
    && (text? (value.member? (utf16 "hash"))).any isSha256
    && number? (value.member? (utf16 "size")) == some (expected.size : Rat)
    && text? (value.member? (utf16 "filename")) == some expected.filename
    && text? (value.member? (utf16 "mimeType")) == some expected.mimeType

def collect (expectedSize : Nat) : List (Except String Bytes) → List Bytes → Nat → Except StoreError (List Bytes × Nat)
  | [], chunks, size => .ok (chunks, size)
  | .error message :: _, _, _ => .error (plain message)
  | .ok chunk :: rest, chunks, size =>
    if expectedSize < size + chunk.length then .error (plain "Attachment read exceeds its retained size")
    else collect expectedSize rest (chunks ++ [chunk]) (size + chunk.length)

def readExactBytes (body : Option (List (Except String Bytes))) (expectedSize : Nat) (exact : Bool) :
    Except StoreError Bytes :=
  match body with
  | none =>
    if expectedSize = 0 ∨ exact = false then .ok []
    else .error (plain "Attachment read returned no bytes")
  | some body => do
      let (chunks, size) ← collect expectedSize body [] 0
      failIf (exact && size != expectedSize) (plain "Attachment read differs from its retained size")
      return joinChunks chunks size

def hexUnits (byte : UInt8) : Text := [hexUnit (byte.toNat / 16), hexUnit (byte.toNat % 16)]

/-- `sha256:` and the digest in hexadecimal. -/
def digestText (platform : StorePlatform) (bytes : Bytes) : Text :=
  utf16 "sha256:" ++ (platform.sha256 bytes).flatMap hexUnits

structure Blob where
  bytes : Bytes
  type : Text

/-- The checks that a read makes of a descriptor, the limit of its size among them. -/
def checkDescriptor (platform : StorePlatform) (config : HttpAttachmentStoreConfig) (descriptor : Reference)
    (fieldPath : Option String) : Except StoreError Qualified := do
  let dataPath ← path config fieldPath
  let qualified ← qualifyReadDescriptor platform descriptor config.formId (taskBasePath config) dataPath
  failIf (config.maxUploadBytes.any (· < qualified.size)) (plain "Attachment exceeds the configured read limit")
  return qualified

/-- A read; the configuration and the session are checked before the request. -/
def read (platform : StorePlatform) (config : HttpAttachmentStoreConfig) (descriptor : Reference)
    (fieldPath : Option String) (exchange : Exchange) : Except StoreError Blob := do
  let dataPath ← path config fieldPath
  let qualified ← qualifyReadDescriptor platform descriptor config.formId (taskBasePath config) dataPath
  thrown (exchange.checks 0)
  failIf config.maxUploadBytes.isNone (plain "A finite attachment read limit is required")
  failIf (config.maxUploadBytes.any (· < qualified.size)) (plain "Attachment exceeds the configured read limit")
  failIf config.scopeKey.isNone (plain "Attachment read requires the deployment scope key")
  failIf (!platform.subtle) (plain "Attachment digest verification is unavailable")
  thrown (exchange.checks 1)
  let token ← thrown exchange.token
  failIf (token == "") (plain "An owned attachment session is required")
  thrown (exchange.checks 2)
  thrown exchange.request
  let reply ← thrown exchange.reply
  thrown (exchange.checks 3)
  failIf (reply.status != 200 || reply.redirected || reply.isOpaque
    || reply.header "content-type" != some qualified.mimeType
    || reply.header "cache-control" != some (utf16 "private, no-store")
    || reply.header "x-content-type-options" != some (utf16 "nosniff"))
    (plain "Attachment read status or MIME type differs from its descriptor")
  let bytes ← readExactBytes reply.body qualified.size true
  thrown (exchange.checks 4)
  failIf (digestText platform bytes != qualified.hash) (plain "Attachment bytes differ from their retained digest")
  return ⟨bytes, qualified.mimeType⟩

structure AttachmentUploadMetadata where
  fieldPath : Option String
  filename : Text
  mimeType : Text

/-- `metadata.mimeType || blob.type || 'application/octet-stream'` -/
def effectiveType (blob : Blob) (metadata : AttachmentUploadMetadata) : Text :=
  if !metadata.mimeType.isEmpty then metadata.mimeType
  else if !blob.type.isEmpty then blob.type
  else utf16 "application/octet-stream"

def statusCode (status : Nat) : String :=
  if status = 413 then "file-too-large" else if status = 415 then "mime-rejected" else "unavailable"

/-- `contentType?.split(';')[0].trim()` -/
def mediaType (contentType : Option Text) : Option Text :=
  contentType.map fun text =>
    let isBlank := fun u => isTrimmed (Char.ofNat u)
    (((text.takeWhile (· != 59)).dropWhile isBlank).reverse.dropWhile isBlank).reverse

def withoutMark : Text → Text
  | 0xFEFF :: text => text
  | text => text

/-- `JSON.parse(new TextDecoder('utf-8', { fatal: true }).decode(bytes))` -/
def parseReference (platform : StorePlatform) (bytes : Bytes) : Option Reference := do
  let text ← decodeText bytes
  let value ← parse platform.format (withoutMark text)
  return value.built

def invalidJson : StoreError := uploadError "unknown" "File upload returned invalid JSON"

def replyValue (platform : StorePlatform) (config : HttpAttachmentStoreConfig) (reply : Reply) :
    Except StoreError Reference :=
  match config.taskBinding with
  | some _ =>
    match readExactBytes reply.body (16 * 1024) false with
    | .ok bytes => ((parseReference platform bytes).map Except.ok).getD (.error invalidJson)
    | .error _ => .error invalidJson
  | none =>
    match reply.json with
    | .ok value => .ok value
    | .error _ => .error invalidJson

def sent : Except String Reply → Except StoreError Reply
  | .ok reply => .ok reply
  | .error _ => .error (uploadError "network" "File upload failed")

def checkUploadReply (config : HttpAttachmentStoreConfig) (reply : Reply) : Except StoreError Unit := do
  failIf (reply.status < 200 || 300 ≤ reply.status)
    (uploadError (statusCode reply.status) s!"File upload failed: HTTP {reply.status}")
  failIf (config.taskBinding.isSome && (reply.status != 201 || reply.redirected
    || reply.header "cache-control" != some (utf16 "private, no-store")
    || mediaType (reply.header "content-type") != some (utf16 "application/json")))
    (uploadError "unknown" "Task upload response differs from the maintained route")

def upload (platform : StorePlatform) (config : HttpAttachmentStoreConfig) (blob : Blob)
    (metadata : AttachmentUploadMetadata) (exchange : Exchange) : Except StoreError Reference := do
  let dataPath ← path config metadata.fieldPath
  thrown (exchange.checks 0)
  failIf (config.maxUploadBytes.any (· < blob.bytes.length))
    (uploadError "file-too-large" "File exceeds the configured upload limit")
  let token ← thrown exchange.token
  failIf (token == "") (uploadError "unavailable" "An upload session is required")
  thrown (exchange.checks 1)
  let mimeType := effectiveType blob metadata
  thrown exchange.request
  let reply ← sent exchange.reply
  thrown (exchange.checks 2)
  checkUploadReply config reply
  let value ← replyValue platform config reply
  thrown (exchange.checks 3)
  failIf (!isUploadedRef value ⟨blob.bytes.length, metadata.filename, mimeType⟩)
    (uploadError "unknown" "File upload returned an invalid reference")
  if config.taskBinding.isSome then
    let _ ← qualifyReadDescriptor platform value config.formId (some (utf16 (basePath config))) dataPath
  return value

end FormspecWeb.Attachments.HttpStore
