import FormspecWeb.Shared.Text
import FormspecWeb.Shared.Value
import Mathlib.Data.List.Basic
import Mathlib.Data.Rat.Defs

/-!
# Signing markers

What the signing adapter keeps of a pending act across reloads, in two slots of tab metadata: the
value it writes, as it survives serialization, and the checks it reads the slot back through. A
marker that passes the checks reads back as it was written.
-/

namespace FormspecWeb.Signing

open Shared

/-! ## Responses -/

/-- `Boolean(response.authoredSignatures?.length)`. -/
def isSigned (response : Value) : Bool :=
  match response.get? "authoredSignatures" with
  | some (.array (_ :: _)) => true
  | _ => false

def withoutMember (key : String) : Value → Value
  | .object members => .object (members.filter fun (name, _) => name != key)
  | value => value

/-- A copy, with `authoredSignatures` deleted. -/
def withoutSignatures (response : Value) : Value := withoutMember "authoredSignatures" response

def signingContentKey : String := "x-formspec-signing-content"

/-- A copy, with `extensions?.['x-formspec-signing-content']` deleted. -/
def withoutContent : Value → Value
  | .object members => .object (members.map fun (name, value) =>
    (name, if name == "extensions" then withoutMember signingContentKey value else value))
  | value => value

/-- A copy, with `{ ...extensions, 'x-formspec-signing-content': content }`. -/
def withContent (response content : Value) : Value :=
  let extensions := ((response.get? "extensions").getD .undefined).members
  .object (spread response.members
    [("extensions", .object (spread extensions [(signingContentKey, content)]))])

variable {response : Value}

theorem get?_withoutContent :
    (withoutContent response).get? "authoredSignatures" = response.get? "authoredSignatures" := by
  cases response with
  | object members =>
    rw [withoutContent, Value.get?, Value.get?, Value.members, Value.members,
      lookup_map_value fun name value =>
        if name == "extensions" then withoutMember signingContentKey value else value]
    cases members.lookup "authoredSignatures" with
    | none => rfl
    | some value => rfl
  | _ => rfl

theorem get?_withoutSignatures :
    (withoutSignatures response).get? "authoredSignatures" = none := by
  cases response with
  | object members =>
    rw [withoutSignatures, withoutMember, Value.get?, Value.members,
      lookup_filter_key fun name => name != "authoredSignatures"]
    rfl
  | _ => rfl

theorem get?_withContent {response content : Value} :
    (withContent response content).get? "authoredSignatures"
      = response.get? "authoredSignatures" := by
  rw [withContent, Value.get?, Value.get?, Value.members, lookup_spread]
  rfl

theorem isSigned_withoutContent :
    isSigned (withoutContent response) = isSigned response := by
  rw [isSigned, isSigned, get?_withoutContent]

theorem isSigned_withoutSignatures :
    isSigned (withoutSignatures response) = false := by
  rw [isSigned, get?_withoutSignatures]

theorem isSigned_withContent {response content : Value} :
    isSigned (withContent response content) = isSigned response := by
  rw [isSigned, isSigned, get?_withContent]

theorem withoutSignatures_of_unsigned
    (h : response.hasOwn "authoredSignatures" = false) : withoutSignatures response = response := by
  cases response with
  | object members =>
    rw [withoutSignatures, withoutMember, List.filter_eq_self.mpr]
    intro entry hentry
    rw [bne_iff_ne]
    intro heq
    have hnone : members.lookup "authoredSignatures" = none := by
      simpa [Value.hasOwn, Value.members] using h
    have hne := List.lookup_eq_none_iff.mp hnone entry hentry
    rw [heq] at hne
    cases hne
  | _ => rfl

theorem isTruthy_withoutContent :
    (withoutContent response).isTruthy = response.isTruthy := by
  cases response <;> rfl

section Slots

variable {α : Type}

/-- The entries of a slot; none where the slot holds no array, or an entry is refused. -/
def readSlot (read : Value → Option α) : Option Value → Option (List α)
  | none => some []
  | some (.array values) => values.mapM read
  | some _ => none

def writeSlot (toValue : α → Value) (entries : List α) : Option Value :=
  if entries.isEmpty then none else some (.array (entries.map toValue))

theorem readSlot_writeSlot {read : Value → Option α} {toValue : α → Value} {entries : List α}
    (h : ∀ entry ∈ entries, read (toValue entry) = some entry) :
    readSlot read (writeSlot toValue entries) = some entries := by
  have hall : (entries.map toValue).mapM read = some entries := by
    induction entries with
    | nil => rfl
    | cons entry entries ih =>
      obtain ⟨hentry, hentries⟩ := List.forall_mem_cons.mp h
      rw [List.map_cons, List.mapM_cons, hentry, ih hentries]
      rfl
  rw [writeSlot]
  split
  · next hempty =>
    obtain rfl := List.isEmpty_iff.mp hempty
    rfl
  · exact hall

theorem readSlot_of_writeSlot {read : Value → Option α} {toValue : α → Value}
    {entries found : List α} (h : ∀ entry ∈ entries, ∀ other, read (toValue entry) = some other →
      other = entry) (hread : readSlot read (writeSlot toValue entries) = some found) :
    found = entries := by
  have hall : ∀ found, (entries.map toValue).mapM read = some found → found = entries := by
    clear hread
    induction entries with
    | nil =>
      intro found hfound
      exact (Option.some.inj hfound).symm
    | cons entry entries ih =>
      intro found hfound
      obtain ⟨hentry, hentries⟩ := List.forall_mem_cons.mp h
      rw [List.map_cons, List.mapM_cons] at hfound
      obtain ⟨first, hfirst, hrest⟩ := Option.bind_eq_some_iff.mp hfound
      obtain ⟨rest, hmap, hsome⟩ := Option.bind_eq_some_iff.mp hrest
      rw [← Option.some.inj hsome, hentry first hfirst, ih hentries rest hmap]
  rw [writeSlot] at hread
  split at hread
  · next hempty =>
    obtain rfl := List.isEmpty_iff.mp hempty
    exact (Option.some.inj hread).symm
  · exact hall found hread

end Slots

/-! ## Pending acts -/

structure Renewal where
  operationId : String
  version : Int
  previousVersion : Option Int
  originalCandidate : Value
  originalHash : String
  successorHash : String

structure PendingMarker where
  scope : String
  operationId : String
  draftId : String
  version : Int
  renewal : Option Renewal

namespace Renewal

/-- The value that is written; `previousVersion` has no member before the second renewal. -/
def toValue (renewal : Renewal) : Value :=
  .object ([("operationId", .string renewal.operationId), ("version", .number renewal.version)]
    ++ Value.optionalMember "previousVersion"
      (renewal.previousVersion.map fun version => .number version)
    ++ [("originalCandidate", renewal.originalCandidate),
      ("originalHash", .string renewal.originalHash),
      ("successorHash", .string renewal.successorHash)])

def isReadable (operationId : String) (version : Int) (renewal : Renewal) : Bool :=
  isUuidV7IdempotencyKey renewal.operationId && renewal.operationId != operationId
    && isSafeInteger renewal.version && version < renewal.version
    && (match renewal.previousVersion with
      | none => renewal.version == version + 1
      | some previous => isSafeInteger previous && version + 1 ≤ previous
          && renewal.version == previous + 1)
    && renewal.originalCandidate.isTruthy
    && isSha256Hex renewal.originalHash && isSha256Hex renewal.successorHash

end Renewal

namespace PendingMarker

def toValue (marker : PendingMarker) : Value :=
  .object ([("scope", .string marker.scope), ("operationId", .string marker.operationId),
    ("draftId", .string marker.draftId), ("version", .number marker.version)]
    ++ Value.optionalMember "renewal" (marker.renewal.map Renewal.toValue))

def isReadable (marker : PendingMarker) : Bool :=
  isSafeInteger marker.version
    && marker.renewal.all (·.isReadable marker.operationId marker.version)

end PendingMarker

def integer? : Value → Option Int
  | .number value => if value.den = 1 then some value.num else none
  | _ => none

def text? (value : Value) (key : String) : Option String := (value.get? key).bind Value.text?

/-- `undefined`, or an integer. -/
def optionalInteger? : Option Value → Option (Option Int)
  | none => some none
  | some value => (integer? value).map some

def readRenewal (operationId : String) (version : Int) (value : Value) : Option Renewal := do
  let renewal : Renewal := {
    operationId := ← text? value "operationId"
    version := ← (value.get? "version").bind integer?
    previousVersion := ← optionalInteger? (value.get? "previousVersion")
    originalCandidate := ← value.get? "originalCandidate"
    originalHash := ← text? value "originalHash"
    successorHash := ← text? value "successorHash" }
  if renewal.isReadable operationId version then some renewal else none

/-- `marker.renewal && ...`, with the renewal. -/
def readOptionalRenewal (operationId : String) (version : Int) :
    Option Value → Option (Option Renewal)
  | none => some none
  | some value =>
    if value.isTruthy then (readRenewal operationId version value).map some else some none

def readMarker (value : Value) : Option PendingMarker := do
  let scope ← text? value "scope"
  let operationId ← text? value "operationId"
  let draftId ← text? value "draftId"
  let version ← ((value.get? "version").bind integer?).filter isSafeInteger
  let renewal ← readOptionalRenewal operationId version (value.get? "renewal")
  return ⟨scope, operationId, draftId, version, renewal⟩

/-- `markers()`; none where it throws. -/
def readMarkers (slot : Option Value) : Option (List PendingMarker) := readSlot readMarker slot

/-- `writeMarkers(markers)`, with what it leaves in the slot. -/
def writeMarkers (markers : List PendingMarker) : Option Value :=
  writeSlot PendingMarker.toValue markers

@[simp] theorem integer?_number (n : Int) : integer? (.number n) = some n := by
  simp [integer?]

theorem readRenewal_toValue {renewal : Renewal} {operationId : String} {version : Int}
    (h : renewal.isReadable operationId version = true) :
    readRenewal operationId version renewal.toValue = some renewal := by
  obtain ⟨id, number, previous, original, originalHash, successorHash⟩ := renewal
  have hdefined : original.defined? = some original := by
    cases original with
    | undefined => simp [Renewal.isReadable, Value.isTruthy] at h
    | _ => rfl
  cases previous with
  | none =>
    have hversion : ((Renewal.mk id number none original originalHash successorHash).toValue.get?
        "version").bind integer? = some number := integer?_number number
    have horiginal : (Renewal.mk id number none original originalHash successorHash).toValue.get?
        "originalCandidate" = some original := hdefined
    rw [readRenewal, hversion, horiginal]
    exact if_pos h
  | some previous =>
    have hversion : ((Renewal.mk id number (some previous) original originalHash
        successorHash).toValue.get? "version").bind integer? = some number := integer?_number number
    have hprevious : optionalInteger? ((Renewal.mk id number (some previous) original originalHash
        successorHash).toValue.get? "previousVersion") = some (some previous) :=
      congrArg (Option.map some) (integer?_number previous)
    have horiginal : (Renewal.mk id number (some previous) original originalHash
        successorHash).toValue.get? "originalCandidate" = some original := hdefined
    rw [readRenewal, hversion, hprevious, horiginal]
    exact if_pos h

theorem readMarker_toValue {marker : PendingMarker} (h : marker.isReadable = true) :
    readMarker marker.toValue = some marker := by
  obtain ⟨scope, operationId, draftId, version, renewal⟩ := marker
  obtain ⟨hsafe, hrenewal⟩ := Bool.and_eq_true_iff.mp h
  have hfilter : (some version).filter isSafeInteger = some version :=
    Option.filter_eq_some_iff.mpr ⟨rfl, hsafe⟩
  cases renewal with
  | none =>
    have hversion : ((PendingMarker.mk scope operationId draftId version none).toValue.get?
        "version").bind integer? = some version := integer?_number version
    rw [readMarker, hversion, hfilter]
    rfl
  | some renewal =>
    have hversion : ((PendingMarker.mk scope operationId draftId version
        (some renewal)).toValue.get? "version").bind integer? = some version :=
      integer?_number version
    have hread : readOptionalRenewal operationId version ((PendingMarker.mk scope operationId
        draftId version (some renewal)).toValue.get? "renewal") = some (some renewal) :=
      congrArg (Option.map some) (readRenewal_toValue hrenewal)
    rw [readMarker, hversion, hfilter]
    exact congrArg (Option.bind · fun renewal =>
      some (PendingMarker.mk scope operationId draftId version renewal)) hread

theorem readMarkers_writeMarkers {markers : List PendingMarker}
    (h : ∀ marker ∈ markers, marker.isReadable = true) :
    readMarkers (writeMarkers markers) = some markers :=
  readSlot_writeSlot fun marker hmarker => readMarker_toValue (h marker hmarker)

structure CreateMarker where
  scope : String
  operationId : String
  definitionUrl : String
  definitionVersion : String
  candidateHash : String
deriving DecidableEq

namespace CreateMarker

def toValue (marker : CreateMarker) : Value :=
  .object [("scope", .string marker.scope), ("operationId", .string marker.operationId),
    ("definitionUrl", .string marker.definitionUrl),
    ("definitionVersion", .string marker.definitionVersion),
    ("candidateHash", .string marker.candidateHash)]

def isReadable (marker : CreateMarker) : Bool :=
  truthy marker.scope && isUuidV7IdempotencyKey marker.operationId && hasText marker.definitionUrl
    && hasText marker.definitionVersion && isSha256Hex marker.candidateHash

def keys : List String :=
  ["scope", "operationId", "definitionUrl", "definitionVersion", "candidateHash"]

end CreateMarker

def readCreateMarker (value : Value) : Option CreateMarker := do
  let marker : CreateMarker := {
    scope := ← text? value "scope"
    operationId := ← text? value "operationId"
    definitionUrl := ← text? value "definitionUrl"
    definitionVersion := ← text? value "definitionVersion"
    candidateHash := ← text? value "candidateHash" }
  if marker.isReadable && value.members.all (CreateMarker.keys.contains ·.1) then some marker
  else none

/-- `createMarkers()`; none where it throws. -/
def readCreateMarkers (slot : Option Value) : Option (List CreateMarker) :=
  readSlot readCreateMarker slot

/-- `writeCreateMarkers(markers)`, with what it leaves in the slot. -/
def writeCreateMarkers (markers : List CreateMarker) : Option Value :=
  writeSlot CreateMarker.toValue markers

theorem readCreateMarker_toValue {marker : CreateMarker} :
    readCreateMarker marker.toValue = some marker ↔ marker.isReadable = true := by
  have hkeys : marker.toValue.members.all (CreateMarker.keys.contains ·.1) = true := rfl
  have hread : readCreateMarker marker.toValue
      = if marker.isReadable && marker.toValue.members.all (CreateMarker.keys.contains ·.1)
        then some marker else none := rfl
  rw [hread, hkeys, Bool.and_true]
  cases marker.isReadable <;> simp

theorem readCreateMarkers_of_writeCreateMarkers {markers found : List CreateMarker}
    (h : readCreateMarkers (writeCreateMarkers markers) = some found) : found = markers := by
  apply readSlot_of_writeSlot _ h
  intro marker _ other hother
  by_cases hreadable : marker.isReadable = true
  · rw [readCreateMarker_toValue.mpr hreadable] at hother
    exact (Option.some.inj hother).symm
  · have hread : readCreateMarker marker.toValue = if marker.isReadable
        && marker.toValue.members.all (CreateMarker.keys.contains ·.1) then some marker else none :=
      rfl
    rw [hread, Bool.eq_false_iff.mpr hreadable] at hother
    cases hother

theorem readCreateMarkers_writeCreateMarkers {markers : List CreateMarker}
    (h : ∀ marker ∈ markers, marker.isReadable = true) :
    readCreateMarkers (writeCreateMarkers markers) = some markers :=
  readSlot_writeSlot fun marker hmarker => readCreateMarker_toValue.mpr (h marker hmarker)

end FormspecWeb.Signing
