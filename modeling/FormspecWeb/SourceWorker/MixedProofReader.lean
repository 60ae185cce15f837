import FormspecWeb.Async.Steps
import FormspecWeb.Shared.Checks
import FormspecWeb.Shared.Text
import FormspecWeb.Shared.Value
import Mathlib.Algebra.Order.Ring.Rat
import Mathlib.Algebra.GroupWithZero.Nat

/-!
# The mixed proof reader

The reader asks for the proofs of a hydration, has them indexed, and downloads the indexed objects
two at a time. The two requests of a batch run at once: the first that fails aborts its sibling, and
the next batch waits for both. Replies, the index and what the caller's guard answers come with the
events.
-/

namespace FormspecWeb.SourceWorker

open Shared

abbrev Bytes := List UInt8

def smallCap : Nat := 2 * 1024 * 1024

def totalCap : Nat := 64 * 1024 * 1024

def responseCap : Nat := 4 * 1024 * 1024 + 4096

def snapshotInput (bytes : Bytes) (cap : Nat) : Option Bytes :=
  if cap < bytes.length then none else some bytes

structure MixedProofInputs where
  selectionBytes : Bytes
  hydrationBytes : Bytes
  proofIndexBytes : Bytes
  buffers : List Bytes

/-- The running total of the inputs' lengths; none is what throws. -/
def countBytes (total : Nat) (bytes : Bytes) : Option Nat :=
  if totalCap < total + bytes.length then none else some (total + bytes.length)

def snapshotMixedInputs (input : MixedProofInputs) : Option MixedProofInputs := do
  let controls := [input.selectionBytes, input.hydrationBytes, input.proofIndexBytes]
  if 256 < input.buffers.length then none
  else do
    let _ ← (controls ++ input.buffers).foldlM countBytes 0
    if controls.any fun bytes => decide (smallCap < bytes.length) then none
    else do
      let selectionBytes ← snapshotInput input.selectionBytes smallCap
      let hydrationBytes ← snapshotInput input.hydrationBytes smallCap
      let proofIndexBytes ← snapshotInput input.proofIndexBytes smallCap
      let buffers ← input.buffers.mapM fun bytes => snapshotInput bytes totalCap
      return { selectionBytes, hydrationBytes, proofIndexBytes, buffers }

structure ProofCodec where
  canonicalize : Value → Option String
  decode : Bytes → Option Value
  /-- The bytes of a member, as they stand in an object's text. -/
  field : Bytes → String → Option Bytes
  /-- `new TextEncoder().encode(JSON.stringify(value))`. -/
  encode : Value → Bytes

namespace ProofCodec

variable (codec : ProofCodec)

def equal (left right : Option Value) : Bool :=
  codec.canonicalize (left.getD .undefined) == codec.canonicalize (right.getD .undefined)

def decodeBoundedProofJson (bytes : Bytes) (cap : Nat) : Option Value :=
  (snapshotInput bytes cap).bind codec.decode

def boundedProofJsonField (bytes : Bytes) (name : String) (cap : Nat) : Option Bytes :=
  (codec.decodeBoundedProofJson bytes cap).bind fun _ => codec.field bytes name

end ProofCodec

/-- `Object.keys(value)` are these, in some order. -/
def hasKeys (value : Value) (fields : List String) : Bool :=
  value.members.length == fields.length && fields.all value.hasOwn

structure ReaderConfig where
  codec : ProofCodec
  scopeKey : String

structure NativeHydrationRequest where
  scope : String
  owner : Value
  selection : Value
  draftId : String
  draftVersion : Int
  candidateHash : String
  requestHash : String
  sources : Value

structure ObjectSelector where
  objectKey : String
  byteLength : Nat
deriving DecidableEq

inductive DownloadStage where
  | credentials
  | inFlight
  | loaded (bytes : Bytes)
  | failed

structure Download where
  selector : ObjectSelector
  stage : DownloadStage

structure PreparedMixedProof where
  hydrationBytes : Bytes
  proofIndexBytes : Bytes
  buffers : List Bytes

inductive ReaderStage where
  | proofs
  | index
  | downloading
  | returned (prepared : PreparedMixedProof)
  | rejected

structure Reader where
  hydrationBytes : Bytes
  view : Value
  aborted : Bool
  stage : ReaderStage
  proofs : Value
  proofIndex : Value
  objects : List ObjectSelector
  offset : Nat
  downloads : List Download
  siblingsAborted : Bool
  buffers : List (ObjectSelector × Bytes)
  started : Nat

inductive ReaderEvent where
  | abort
  | proofs (response : Option Bytes) (current : Bool)
  /-- The index, what the guard answers to it, and what it answers to the requests it leads to. -/
  | indexed (bytes : Option Bytes) (current : Bool) (answers : List Bool)
  | credentials (number : Nat) (current : Bool)
  | failed (number : Nat)
  | reply (number : Nat) (bytes : Bytes) (current : Bool)
  | settled (current : Bool) (answers : List Bool)

/-- `typeof value[key] === 'string'`. -/
def textMember (value : Value) (key : String) : Option String := (value.get? key).bind Value.text?

/-- `Number.isSafeInteger(value[key])` of a number that is not negative. -/
def countMember (value : Value) (key : String) : Option Nat :=
  match value.get? key with
  | some (.number n) => if n.isInt && isSafeInteger n.num && 0 ≤ n then some n.num.toNat else none
  | _ => none

def readSelector (item entry : Value) (position : Nat) : Option ObjectSelector := do
  let objectKey ← textMember item "objectKey"
  let sha256 ← textMember item "sha256"
  let byteLength ← countMember item "byteLength"
  if hasKeys item ["objectKey", "bufferIndex", "sha256", "byteLength"]
      && hasKeys entry ["key", "bytes"] && isSha256Digest objectKey
      && countMember item "bufferIndex" == some position && textMember entry "key" == some objectKey
      && countMember entry "bytes" == some position && isSha256Digest sha256 && 1 ≤ byteLength then
    some { objectKey, byteLength }
  else none

def readSelectors : List Value → List Value → Nat → Option (List ObjectSelector)
  | item :: items, entry :: entries, position => do
      let selector ← readSelector item entry position
      let selectors ← readSelectors items entries (position + 1)
      return selector :: selectors
  | _, _, _ => some []

def ascending : List ObjectSelector → Bool
  | first :: second :: rest => first.objectKey < second.objectKey && ascending (second :: rest)
  | _ => true

/-- The proof index and the objects of an index that is bound to the proofs. -/
def readIndex (codec : ProofCodec) (proofs indexed : Value) :
    Option (Value × List ObjectSelector) := do
  let entries ← (indexed.get? "objects").bind Value.entries?
  let proofIndex ← indexed.get? "proofIndex"
  let proofBuffers ← (proofIndex.get? "buffers").bind Value.entries?
  if hasKeys indexed ["version", "status", "proofIndex", "objects"]
      && countMember indexed "version" == some 1 && textMember indexed "status" == some "indexed"
      && entries.length ≤ 256 && proofIndex.isPlainObject
      && hasKeys proofIndex ["version", "references", "buffers"]
      && countMember proofIndex "version" == some 1
      && codec.equal (proofIndex.get? "references") (some proofs)
      && proofBuffers.length == entries.length then do
    let objects ← readSelectors entries proofBuffers 0
    if (objects.map (·.byteLength)).sum ≤ totalCap && ascending objects then
      some (proofIndex, objects)
    else none
  else none

/-! ## Steps -/

namespace Reader

variable (config : ReaderConfig)

/-- `readAll(hydration, request, …)`, up to the request of the proofs. -/
def opened (hydration : Bytes) (request : NativeHydrationRequest) : Option Reader := do
  let codec := config.codec
  let hydrationBytes ← snapshotInput hydration smallCap
  let view ← codec.decodeBoundedProofJson hydrationBytes smallCap
  if config.scopeKey == request.scope && textMember view "operation" == some "hydrate"
      && textMember view "draftId" == some request.draftId
      && codec.equal (view.get? "draftVersion") (some (.number request.draftVersion))
      && textMember view "candidateHash" == some request.candidateHash
      && textMember view "requestHash" == some request.requestHash
      && codec.equal (view.get? "scope") (some (.string request.scope))
      && codec.equal (view.get? "owner") (some request.owner)
      && codec.equal (view.get? "selection") (some request.selection)
      && codec.equal (view.get? "sources") (some request.sources)
      && request.draftId != "" && !([".", ".."].contains request.draftId) then
    some {
      hydrationBytes, view, aborted := false, stage := .proofs, proofs := .undefined
      proofIndex := .undefined, objects := [], offset := 0, downloads := [], siblingsAborted := false
      buffers := [], started := 0 }
  else none

def reject (s : Reader) : Reader := { s with stage := .rejected }

/-- Opens the requests of a batch; one that may not go on aborts those after it. -/
def openDownloads (aborted : Bool) : List ObjectSelector → List Bool → Bool → List Download × Bool
  | [], _, failed => ([], failed)
  | selector :: selectors, answers, failed =>
    let refused := aborted || failed || !(answers.headD true)
    let (downloads, failed) := openDownloads aborted selectors answers.tail (failed || refused)
    (⟨selector, if refused then .failed else .credentials⟩ :: downloads, failed)

def proceed (s : Reader) (answers : List Bool) : Reader :=
  if s.objects.length ≤ s.offset then
    match snapshotInput (config.codec.encode s.proofIndex) smallCap with
    | some proofIndexBytes =>
      { s with
        downloads := []
        stage := .returned {
          hydrationBytes := s.hydrationBytes, proofIndexBytes
          buffers := s.buffers.map (·.2) } }
    | none => s.reject
  else
    let (downloads, failed) :=
      openDownloads s.aborted ((s.objects.drop s.offset).take 2) answers false
    { s with
      downloads, siblingsAborted := failed
      stage := if failed then .rejected else .downloading }

/-- A request of the batch fails: its sibling is aborted, and the reader rejects. -/
def fail (s : Reader) (number : Nat) (download : Download) : Reader :=
  { s with
    downloads := s.downloads.set number { download with stage := .failed }
    siblingsAborted := true
    stage := .rejected }

def loadedBytes (download : Download) : Option (ObjectSelector × Bytes) :=
  match download.stage with
  | .loaded bytes => some (download.selector, bytes)
  | _ => none

def onProofs (s : Reader) (response : Option Bytes) (current : Bool) : Reader :=
  match response with
  | none => s.reject
  | some bytes =>
    if s.aborted || !current then s.reject
    else match config.codec.decodeBoundedProofJson bytes responseCap with
      | none => s.reject
      | some returned =>
        if returned.isPlainObject && hasKeys returned ["version", "hydration", "proofs"]
            && countMember returned "version" == some 1
            && config.codec.equal (returned.get? "hydration") (some s.view)
            && ((config.codec.boundedProofJsonField bytes "proofs" responseCap).bind fun found =>
              snapshotInput found smallCap).isSome then
          { s with stage := .index, proofs := (returned.get? "proofs").getD .undefined }
        else s.reject

def onIndexed (s : Reader) (bytes : Option Bytes) (current : Bool) (answers : List Bool) : Reader :=
  match (bytes.bind fun bytes => config.codec.decodeBoundedProofJson bytes smallCap).bind
      fun indexed => if s.aborted || !current then none else readIndex config.codec s.proofs indexed with
  | none => s.reject
  | some (proofIndex, objects) => ({ s with proofIndex, objects } : Reader).proceed config answers

/-- The credentials of a request are there: it is sent, unless it has been retired. -/
def onCredentials (s : Reader) (number : Nat) (current : Bool) : Option Reader :=
  match s.downloads[number]? with
  | some download =>
    match download.stage with
    | .credentials =>
      if s.aborted || s.siblingsAborted || !current then some (s.fail number download)
      else some { s with
        downloads := s.downloads.set number { download with stage := .inFlight }
        started := s.started + 1 }
    | _ => none
  | none => none

def onFailed (s : Reader) (number : Nat) : Option Reader :=
  match s.downloads[number]? with
  | some download =>
    match download.stage with
    | .credentials | .inFlight => some (s.fail number download)
    | _ => none
  | none => none

def onReply (s : Reader) (number : Nat) (bytes : Bytes) (current : Bool) : Option Reader :=
  match s.downloads[number]? with
  | some download =>
    match download.stage with
    | .inFlight =>
      if s.aborted || s.siblingsAborted || !current
          || bytes.length != download.selector.byteLength then
        some (s.fail number download)
      else some { s with
        downloads := s.downloads.set number { download with stage := .loaded bytes } }
    | _ => none
  | none => none

def onSettled (s : Reader) (current : Bool) (answers : List Bool) : Option Reader :=
  match s.stage, s.downloads.mapM loadedBytes with
  | .downloading, some loaded =>
    if s.aborted || !current then some s.reject
    else some (({ s with
      buffers := s.buffers ++ loaded, offset := s.offset + 2 } : Reader).proceed config answers)
  | _, _ => none

def step (s : Reader) : ReaderEvent → Option Reader
  | .abort => some { s with aborted := true }
  | .proofs response current =>
    match s.stage with
    | .proofs => some (s.onProofs config response current)
    | _ => none
  | .indexed bytes current answers =>
    match s.stage with
    | .index => some (s.onIndexed config bytes current answers)
    | _ => none
  | .credentials number current => s.onCredentials number current
  | .failed number => s.onFailed number
  | .reply number bytes current => s.onReply number bytes current
  | .settled current answers => s.onSettled config current answers

end Reader

end FormspecWeb.SourceWorker
