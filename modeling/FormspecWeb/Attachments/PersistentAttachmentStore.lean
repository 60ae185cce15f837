import FormspecWeb.Shared.Base64RoundTrip
import FormspecWeb.Shared.Chunks
import FormspecWeb.Shared.Decimals
import FormspecWeb.Shared.Doubles
import FormspecWeb.Shared.InsertionMap
import FormspecWeb.Shared.JsonRoundTrip

/-!
# The attachment store of the demo

An upload is kept as a text in the browser's storage, or in memory where the storage refuses it. The
number of the upload, which makes its URI, is counted in the same two places. Which calls of the
storage throw comes from outside.
-/

namespace FormspecWeb.Attachments

open Shared JsonText Doubles

variable {ν Fault : Type}

/-- The storage, where there is one, and the texts that are kept in memory. -/
structure DemoStorage where
  storage : Option (List (Text × Text))
  fallback : List (Text × Text)

namespace DemoStorage

def held (s : DemoStorage) (key : Text) : Option Text := s.storage.bind (·.lookup key)

def getItem (s : DemoStorage) (key : Text) (throws : Bool) : Option Text :=
  if throws then s.fallback.lookup key else (s.held key).or (s.fallback.lookup key)

def setItem (s : DemoStorage) (key value : Text) (throws : Bool) : DemoStorage :=
  match s.storage with
  | none => { s with fallback := setEntry key value s.fallback }
  | some items =>
    if throws then { s with fallback := setEntry key value s.fallback }
    else ⟨some (setEntry key value items), deleteEntry key s.fallback⟩

def removeItem (s : DemoStorage) (key : Text) (throws : Bool) : DemoStorage :=
  match s.storage with
  | none => { s with fallback := deleteEntry key s.fallback }
  | some items =>
    ⟨some (if throws then items else deleteEntry key items), deleteEntry key s.fallback⟩

end DemoStorage

def itemKey (metadataNamespace uri : Text) : Text := metadataNamespace ++ units ":item:" ++ uri

def counterKey (metadataNamespace : Text) : Text := metadataNamespace ++ units ":counter"

/-- The number after one that was read. The sum of doubles is exact below `2 ** 53`. -/
def nextNumber : Option Int → Int
  | none => 1
  | some n =>
    if 0 ≤ n && n < 2 ^ 53 then n + 1
    else if 2 ^ 1024 ≤ |toDouble n| then 1
    else (toDouble (toDouble n + 1)).floor

def nextCounter (metadataNamespace : Text) (s : DemoStorage) (readThrows writeThrows : Bool) :
    Int × DemoStorage :=
  let key := counterKey metadataNamespace
  let next := nextNumber (parseInt ((s.getItem key readThrows).getD (units "0")))
  (next, s.setItem key (decimalInt next) writeThrows)

structure Blob where
  bytes : List UInt8
  type : Text
  deriving DecidableEq

structure AttachmentRef where
  uri : Text
  hash : Text
  size : Nat
  mimeType : Text
  filename : Text
  deriving DecidableEq

structure AttachmentUploadMetadata where
  filename : Text
  mimeType : Text

structure UploadProgress where
  loadedBytes : Nat
  totalBytes : Nat
  chunksUploaded : Nat
  chunkCount : Nat

/-- What the store takes from its platform: numbers, and the digest of bytes. -/
structure DemoPlatform (ν Fault : Type) where
  format : NumberFormat ν
  ofSize : Nat → ν
  isFinite : ν → Bool
  finite_ofSize : ∀ n, isFinite (format.reread (ofSize n)) = true
  sha256 : List UInt8 → Except Fault Text

/-- `JSON.stringify({ ref, bytesBase64: bytesToBase64(bytes) })` -/
def storedText (platform : DemoPlatform ν Fault) (ref : AttachmentRef) (bytes : List UInt8) : Text :=
  print platform.format (.object [
    (units "ref", .object [
      (units "kind", .string (units "attachment-ref")),
      (units "uri", .string ref.uri),
      (units "hash", .string ref.hash),
      (units "size", .number (platform.ofSize ref.size)),
      (units "mimeType", .string ref.mimeType),
      (units "filename", .string ref.filename)]),
    (units "bytesBase64", .string ((Base64.encode bytes).map Char.toNat))])

def stringMember (value : Json ν) (name : String) : Option Text :=
  match value.member? (units name) with
  | some (.string text) => some text
  | _ => none

/-- The MIME type of a value that is a reference: `isStoredAttachmentRef`. -/
def storedRefType (isFinite : ν → Bool) (value : Json ν) : Option Text := do
  let kind ← stringMember value "kind"
  let _ ← stringMember value "uri"
  let _ ← stringMember value "hash"
  let mimeType ← stringMember value "mimeType"
  let _ ← stringMember value "filename"
  match value.member? (units "size") with
  | some (.number size) => if kind = units "attachment-ref" && isFinite size then some mimeType else none
  | _ => none

def parseStoredAttachment (platform : DemoPlatform ν Fault) (raw : Text) : Option (Text × Text) := do
  let value ← parse platform.format raw
  let bytesBase64 ← stringMember value "bytesBase64"
  let ref ← value.member? (units "ref")
  let mimeType ← storedRefType platform.isFinite ref
  return (bytesBase64, mimeType)

structure DemoStoreConfig where
  metadataNamespace : Text
  chunkSizeBytes : Int

/-- The chunk sizes an upload asks for, and what its progress callback does with a report. -/
structure UploadOptions (Fault : Type) where
  chunkSizeBytes : Option Int
  onProgress : UploadProgress → Except Fault Unit

/-- The calls of the storage in an upload that throw. -/
structure UploadFaults where
  readCounter : Bool
  writeCounter : Bool
  writeItem : Bool

/-- The slices of a blob at the offsets of the loop; an empty blob has one, without bytes. -/
def blobChunks (chunkSize : Nat) (bytes : List UInt8) : List (List UInt8) :=
  (List.range (max 1 ((bytes.length + chunkSize - 1) / chunkSize))).map fun chunkIndex =>
    (bytes.drop (chunkIndex * chunkSize)).take chunkSize

def progressReports (totalBytes chunkCount : Nat) :
    Nat → Nat → List (List UInt8) → List UploadProgress
  | _, _, [] => []
  | chunkIndex, loadedBytes, chunk :: chunks =>
    ⟨loadedBytes + chunk.length, totalBytes, min (chunkIndex + 1) chunkCount, chunkCount⟩
      :: progressReports totalBytes chunkCount (chunkIndex + 1) (loadedBytes + chunk.length) chunks

def persistentUri (counter : Int) : Text := units "attachment:demo-persistent-" ++ decimalInt counter

def uploadResumable (platform : DemoPlatform ν Fault) (config : DemoStoreConfig) (s : DemoStorage)
    (blob : Blob) (metadata : AttachmentUploadMetadata) (options : UploadOptions Fault)
    (faults : UploadFaults) : Except Fault AttachmentRef × DemoStorage :=
  let chunkSize := (max 1 (options.chunkSizeBytes.getD config.chunkSizeBytes)).toNat
  let chunks := blobChunks chunkSize blob.bytes
  let size := blob.bytes.length
  let bytes := joinChunks chunks size
  match (progressReports size chunks.length 0 0 chunks).forM options.onProgress with
  | .error error => (.error error, s)
  | .ok () =>
    match platform.sha256 bytes with
    | .error error => (.error error, s)
    | .ok hash =>
      let (counter, s) := nextCounter config.metadataNamespace s faults.readCounter faults.writeCounter
      let uri := persistentUri counter
      let ref : AttachmentRef := ⟨uri, hash, size, metadata.mimeType, metadata.filename⟩
      (.ok ref, s.setItem (itemKey config.metadataNamespace uri) (storedText platform ref bytes)
        faults.writeItem)

def delete (config : DemoStoreConfig) (s : DemoStorage) (uri : Text) (throws : Bool) : DemoStorage :=
  s.removeItem (itemKey config.metadataNamespace uri) throws

def storedBlob (platform : DemoPlatform ν Fault) (raw : Text) : Option Blob := do
  let (bytesBase64, mimeType) ← parseStoredAttachment platform raw
  let bytes ← Base64.atob (bytesBase64.map Char.ofNat)
  return ⟨bytes, mimeType⟩

def getStoredBytes (platform : DemoPlatform ν Fault) (config : DemoStoreConfig) (s : DemoStorage)
    (uri : Text) (throws : Bool) : Option Blob :=
  (s.getItem (itemKey config.metadataNamespace uri) throws).bind (storedBlob platform)

end FormspecWeb.Attachments
