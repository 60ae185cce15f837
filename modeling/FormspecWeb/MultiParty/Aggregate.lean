import FormspecWeb.MultiParty.ResponseHash
import FormspecWeb.MultiParty.Sessions
import FormspecWeb.Shared.Decimals

/-!
# The aggregate of a multi-party form

The response that is submitted once all parties have signed: it lists the signatures, and beside each the
response it is of. Between two signers the progress may be saved and restored as JSON, from any earlier
save.
-/

namespace FormspecWeb.MultiParty

open Shared JsonText

structure SignedResponse where
  partyRef : String
  roleId : String
  subjectRef : String
  response : FormResponse

def signedResponse (responses : List MultiPartyStoredResponse) (signature : MultiPartySignatureRecord) :
    Except Failure SignedResponse :=
  match responses.find? (·.partyRef == signature.partyRef) with
  | none => .error ("Missing response slice for party \"" ++ signature.partyRef ++ "\".")
  | some stored => .ok ⟨signature.partyRef, signature.roleId, signature.subjectRef, stored.response⟩

/-- `Object.assign(merged, data)`; a member of the name `__proto__` would set the prototype. -/
def assigned (merged : List (String × Value)) (data : Option Value) : List (String × Value) :=
  spread merged ((data.elim [] Value.members).filter (·.1 != "__proto__"))

def mergedData (signed : List SignedResponse) : List (String × Value) :=
  signed.foldl (fun merged entry => assigned merged (entry.response.value.get? "data")) []

def signedMembers (entry : SignedResponse) : List (String × Value) :=
  [("partyRef", .string entry.partyRef), ("roleId", .string entry.roleId),
    ("subjectRef", .string entry.subjectRef)]

def responseDataValue (entry : SignedResponse) : Value :=
  .object (signedMembers entry ++ [Value.member "responseId" (entry.response.value.get? "id"),
    Value.member "responseData" (entry.response.value.get? "data")])

def partyResponseValue (entry : SignedResponse) : Value :=
  .object (signedMembers entry ++ [("response", entry.response.value)])

def aggregateResponse (definition : FormDefinition) (id now : String)
    (signatures : List MultiPartySignatureRecord) (signed : List SignedResponse) : FormResponse where
  value := .object [("$formspecResponse", .string "1.0"),
    ("definitionUrl", .string definition.url), ("definitionVersion", .string definition.version),
    ("status", .string "completed"), ("id", .string id),
    ("data", .object (spread (mergedData signed) [(multiPartyDataKey, .object [
      ("partySignatures", .array (signatures.map signatureRecordValue)),
      ("partyResponses", .array (signed.map responseDataValue))])])),
    ("authored", .string now),
    ("extensions", .object [(multiPartyDataKey, .object [
      ("partySignatures", .array (signatures.map signatureRecordValue)),
      ("partyResponses", .array (signed.map partyResponseValue))])])]
  isObject := rfl
  version := by rfl

def buildMultiPartyAggregateResponse (definition : FormDefinition) (id now : String)
    (state : MultiPartyPersistedState) : Except Failure FormResponse := do
  let signed ← state.progress.signatures.mapM (signedResponse state.responses)
  return aggregateResponse definition id now state.progress.signatures signed

def partyResponseOf (value : Value) : Option SignedResponse := do
  let text := fun key => (value.get? key).bind (·.text?)
  return {
    partyRef := ← text "partyRef"
    roleId := ← text "roleId"
    subjectRef := ← text "subjectRef"
    response := ← (value.get? "response").bind formResponseOf }

/-- `aggregate.extensions[key]`, of the form's parties. -/
def partyExtension (aggregate : FormResponse) (key : String) : Option Value :=
  ((aggregate.value.get? "extensions").bind (·.get? multiPartyDataKey)).bind (·.get? key)

def partySignatures (aggregate : FormResponse) : List MultiPartySignatureRecord :=
  entriesOf signatureRecordOf (partyExtension aggregate "partySignatures")

def partyResponses (aggregate : FormResponse) : List SignedResponse :=
  entriesOf partyResponseOf (partyExtension aggregate "partyResponses")

theorem partyResponseOf_value (entry : SignedResponse) :
    partyResponseOf (partyResponseValue entry) = some entry := by
  obtain ⟨partyRef, roleId, subjectRef, response⟩ := entry
  have hresponse : (partyResponseValue ⟨partyRef, roleId, subjectRef, response⟩).get? "response"
      = some response.value := by
    obtain ⟨value, isObject, version⟩ := response
    cases value with
    | object members => rfl
    | _ => cases isObject
  have hparty : (partyResponseValue ⟨partyRef, roleId, subjectRef, response⟩).get? "partyRef"
      = some (.string partyRef) := rfl
  have hrole : (partyResponseValue ⟨partyRef, roleId, subjectRef, response⟩).get? "roleId"
      = some (.string roleId) := rfl
  have hsubject : (partyResponseValue ⟨partyRef, roleId, subjectRef, response⟩).get? "subjectRef"
      = some (.string subjectRef) := rfl
  simp only [partyResponseOf, hparty, hrole, hsubject, hresponse, Option.bind_some, formResponseOf_value]
  rfl

variable {definition : FormDefinition} {id now : String} {signatures : List MultiPartySignatureRecord}
  {entries : List SignedResponse}

theorem partySignatures_aggregate :
    partySignatures (aggregateResponse definition id now signatures entries) = signatures :=
  entriesOf_written signatureRecordOf_value signatures

theorem partyResponses_aggregate :
    partyResponses (aggregateResponse definition id now signatures entries) = entries :=
  entriesOf_written partyResponseOf_value entries

/-! ## Runs -/

variable (format : NumberText) (sha256 : List UInt8 → List UInt8)

def reloaded (draft : FormResponse) : Option Value :=
  (draft.value.stringify format.toNumberFormat).bind (Value.parse format.toNumberFormat)

/-- The states that submissions of signers reach, with saves and restores of the progress between
them. -/
inductive Run (policy : ResolvedMultiPartyPolicy) : MultiPartyPersistedState → Prop where
  | start {state : MultiPartyPersistedState} :
      createMultiPartyPersistedState policy = .ok state → Run policy state
  /-- A response is an object of the runtime, whose objects have one member of each name; it is hashed
  where the runtime has a digest. -/
  | submit {state next : MultiPartyPersistedState} {input : SignerInput}
      {digest : Option (List UInt8 → List UInt8)} :
      Run policy state → (∀ found ∈ digest, found = sha256) →
      input.responseHash = responseHash format.toNumberFormat digest input.response →
      (∀ json, input.response.value.json? = some json → OneEach json) →
      recordMultiPartySignerState policy input state = .ok next → Run policy next
  | restore {state next : MultiPartyPersistedState} {definition : FormDefinition} {now : String}
      {draft : Value} :
      Run policy state → reloaded format (multiPartyStateDraftResponse definition now state) = some draft →
      multiPartyStateFromDraft (some draft) policy = .ok next → Run policy next

structure Bound (slots : List MultiPartyPartySlot) (state : MultiPartyPersistedState) : Prop where
  sound : SoundState slots state
  json : ∀ entry ∈ state.responses, entry.response.value.IsJson
  stored : ∀ signature ∈ state.progress.signatures, ∃ entry ∈ state.responses,
    entry.partyRef = signature.partyRef
  hashed : ∀ signature ∈ state.progress.signatures, ∀ entry ∈ state.responses,
    entry.partyRef = signature.partyRef →
    responseHash format.toNumberFormat (some sha256) entry.response = .ok signature.responseHash

variable {format sha256} {policy : ResolvedMultiPartyPolicy} {slots : List MultiPartyPartySlot}
  {state next : MultiPartyPersistedState}

theorem responseHash_ok {digest : Option (List UInt8 → List UInt8)} {response : FormResponse} {hash : String}
    (h : responseHash format.toNumberFormat digest response = .ok hash) :
    (∃ found, digest = some found) ∧ ∃ json, response.value.json? = some json := by
  cases digest with
  | none => cases h
  | some found =>
    refine ⟨⟨found, rfl⟩, ?_⟩
    obtain ⟨encoded, hencoded, -⟩ := sequence_ok.mp h
    obtain ⟨snapshot, hsnapshot, -⟩ := sequence_ok.mp hencoded
    rw [jsonSnapshot] at hsnapshot
    split at hsnapshot
    · next json hjson => exact ⟨json, hjson⟩
    · cases hsnapshot

theorem record_hash {input : SignerInput} {progress after : MultiPartySignerProgress}
    (h : recordMultiPartySigner policy input progress = .ok after) {record : MultiPartySignatureRecord}
    (hrecord : after.signatures = progress.signatures ++ [record]) :
    input.responseHash = .ok record.responseHash := by
  obtain ⟨slot, -, h⟩ := sequence_ok.mp h
  cases hclaim : input.claim with
  | none =>
    rw [hclaim] at h
    cases h
  | some claim =>
    rw [hclaim] at h
    obtain ⟨hash, hhash, h⟩ := sequence_ok.mp h
    obtain ⟨found, -, h⟩ := sequence_ok.mp h
    cases h
    have hlast := List.append_cancel_left hrecord
    rw [hhash, ← (List.cons.inj hlast).1]

theorem create_bound (hslots : requiredMultiPartySlots policy = .ok slots)
    (h : createMultiPartyPersistedState policy = .ok state) : Bound format sha256 slots state := by
  obtain ⟨found, hfound, hsound⟩ := createState_sound h
  obtain rfl := Except.ok.inj (hslots.symm.trans hfound)
  obtain ⟨progress, hprogress, heq⟩ := sequence_ok.mp h
  cases heq
  obtain ⟨first, rest, -, rfl⟩ := create_ok hprogress
  exact ⟨hsound, by simp, by simp, by simp⟩

theorem submit_bound {input : SignerInput} {digest : Option (List UInt8 → List UInt8)}
    (hslots : requiredMultiPartySlots policy = .ok slots) (hbound : Bound format sha256 slots state)
    (hdigest : ∀ found ∈ digest, found = sha256)
    (hhash : input.responseHash = responseHash format.toNumberFormat digest input.response)
    (hone : ∀ json, input.response.value.json? = some json → OneEach json)
    (h : recordMultiPartySignerState policy input state = .ok next) : Bound format sha256 slots next := by
  obtain ⟨hprogress, hresponses⟩ := recordState_ok h
  obtain ⟨record, hactive, hfresh, -, -, hsignatures, -⟩ := record_ok hslots hprogress
  have hrecorded := hhash.symm.trans (record_hash hprogress hsignatures)
  obtain ⟨⟨found, rfl⟩, json, hjson⟩ := responseHash_ok hrecorded
  obtain rfl := hdigest found rfl
  have hothers : ∀ signature ∈ state.progress.signatures,
      signature.partyRef ≠ state.progress.activePartyRef := by
    intro signature hmem heq
    exact hfresh (List.mem_map.mpr ⟨signature, hmem, heq.trans hactive.symm⟩)
  refine ⟨recordState_sound hslots hbound.sound h, ?_, ?_, ?_⟩
  · rw [hresponses]
    intro entry hentry
    rcases List.mem_append.mp hentry with hold | hnew
    · exact hbound.json entry (List.mem_of_mem_filter hold)
    · obtain rfl := List.mem_singleton.mp hnew
      exact ⟨json, hjson, hone json hjson⟩
  · rw [hresponses, hsignatures]
    intro signature hsignature
    rcases List.mem_append.mp hsignature with hold | hnew
    · obtain ⟨entry, hentry, hparty⟩ := hbound.stored signature hold
      refine ⟨entry, List.mem_append_left _ (List.mem_filter.mpr ⟨hentry, ?_⟩), hparty⟩
      rw [bne_iff_ne, hparty]
      exact hothers signature hold
    · obtain rfl := List.mem_singleton.mp hnew
      exact ⟨_, List.mem_append_right _ List.mem_cons_self, hactive.symm⟩
  · rw [hresponses, hsignatures]
    intro signature hsignature entry hentry hparty
    rcases List.mem_append.mp hsignature with hold | hnew <;>
      rcases List.mem_append.mp hentry with hkept | hlast
    · exact hbound.hashed signature hold entry (List.mem_of_mem_filter hkept) hparty
    · obtain rfl := List.mem_singleton.mp hlast
      exact absurd hparty.symm (hothers signature hold)
    · obtain rfl := List.mem_singleton.mp hnew
      have hne := (List.mem_filter.mp hkept).2
      rw [bne_iff_ne, hparty, hactive] at hne
      exact absurd rfl hne
    · obtain rfl := List.mem_singleton.mp hnew
      obtain rfl := List.mem_singleton.mp hlast
      exact hrecorded

def MultiPartyPersistedState.reread (format : NumberFormat Rat) (state : MultiPartyPersistedState) :
    MultiPartyPersistedState :=
  ⟨state.progress, state.responses.map fun entry => ⟨entry.partyRef, entry.response.reread format⟩⟩

theorem isJson_signature (record : MultiPartySignatureRecord) : (signatureRecordValue record).IsJson := by
  refine Value.isJson_object (by simp) ?_
  simp [Value.isJson_string]

theorem isJson_stored {entry : MultiPartyStoredResponse} (h : entry.response.value.IsJson) :
    (storedResponseValue entry).IsJson := by
  refine Value.isJson_object (by simp) ?_
  simp [Value.isJson_string, h]

theorem isJson_draft (h : ∀ entry ∈ state.responses, entry.response.value.IsJson)
    (definition : FormDefinition) (now : String) :
    (multiPartyStateDraftResponse definition now state).value.IsJson := by
  have hsignatures : (Value.array (state.progress.signatures.map signatureRecordValue)).IsJson := by
    refine Value.isJson_array fun value hvalue => ?_
    obtain ⟨record, -, rfl⟩ := List.mem_map.mp hvalue
    exact isJson_signature record
  have hresponses : (Value.array (state.responses.map storedResponseValue)).IsJson := by
    refine Value.isJson_array fun value hvalue => ?_
    obtain ⟨entry, hentry, rfl⟩ := List.mem_map.mp hvalue
    exact isJson_stored (h entry hentry)
  have hprogress : (Value.object [("activePartyRef", .string state.progress.activePartyRef),
      ("signatures", .array (state.progress.signatures.map signatureRecordValue)),
      ("responses", .array (state.responses.map storedResponseValue))]).IsJson := by
    refine Value.isJson_object (by simp) ?_
    simp [Value.isJson_string, hsignatures, hresponses]
  have hdata : (Value.object [(multiPartyDataKey, .object [
      ("activePartyRef", .string state.progress.activePartyRef),
      ("signatures", .array (state.progress.signatures.map signatureRecordValue)),
      ("responses", .array (state.responses.map storedResponseValue))])]).IsJson := by
    refine Value.isJson_object (by simp) ?_
    simp [hprogress]
  refine Value.isJson_object (by simp) ?_
  simp [Value.isJson_string, hdata]

theorem reread_draft (format : NumberFormat Rat) (definition : FormDefinition) (now : String) :
    (multiPartyStateDraftResponse definition now state).value.reread format
      = (multiPartyStateDraftResponse definition now (state.reread format)).value := by
  have hsignature : ∀ record : MultiPartySignatureRecord,
      (signatureRecordValue record).reread format = signatureRecordValue record := fun _ => rfl
  have hsignatures : Value.rereadEntries format (state.progress.signatures.map signatureRecordValue)
      = state.progress.signatures.map signatureRecordValue := by
    rw [Value.rereadEntries_eq, List.map_map]
    exact List.map_congr_left fun record _ => hsignature record
  have hresponses : Value.rereadEntries format (state.responses.map storedResponseValue)
      = (state.reread format).responses.map storedResponseValue := by
    rw [Value.rereadEntries_eq, List.map_map, MultiPartyPersistedState.reread, List.map_map]
    rfl
  simp only [multiPartyStateDraftResponse, Value.reread, Value.rereadMembers, hsignatures, hresponses]
  rfl

theorem restored {definition : FormDefinition} {now : String} {draft : Value} (hformed : WellFormed policy)
    (hslots : requiredMultiPartySlots policy = .ok slots) (hbound : Bound format sha256 slots state)
    (hdraft : reloaded format (multiPartyStateDraftResponse definition now state) = some draft)
    (h : multiPartyStateFromDraft (some draft) policy = .ok next) :
    next = state.reread format.toNumberFormat := by
  rw [reloaded, Value.IsJson.parse_stringify _ (isJson_draft hbound.json definition now), reread_draft] at hdraft
  cases hdraft
  have hsound : SoundState slots (state.reread format.toNumberFormat) := by
    refine ⟨hbound.sound.progress, fun entry hentry => ?_⟩
    obtain ⟨source, hsource, rfl⟩ := List.mem_map.mp hentry
    exact hbound.sound.responses source hsource
  rw [fromDraft_written hformed hslots hsound] at h
  exact (Except.ok.inj h).symm

theorem reread_bound (hbound : Bound format sha256 slots state) :
    Bound format sha256 slots (state.reread format.toNumberFormat) := by
  refine ⟨⟨hbound.sound.progress, ?_⟩, ?_, ?_, ?_⟩
  · intro entry hentry
    obtain ⟨source, hsource, rfl⟩ := List.mem_map.mp hentry
    exact hbound.sound.responses source hsource
  · intro entry hentry
    obtain ⟨source, hsource, rfl⟩ := List.mem_map.mp hentry
    exact (hbound.json source hsource).reread _
  · intro signature hsignature
    obtain ⟨entry, hentry, hparty⟩ := hbound.stored signature hsignature
    exact ⟨_, List.mem_map_of_mem hentry, hparty⟩
  · intro signature hsignature entry hentry hparty
    obtain ⟨source, hsource, rfl⟩ := List.mem_map.mp hentry
    rw [responseHash_reread (hbound.json source hsource)]
    exact hbound.hashed signature hsignature source hsource hparty

theorem run_bound (hformed : WellFormed policy) (h : Run format sha256 policy state) :
    ∃ slots, requiredMultiPartySlots policy = .ok slots ∧ Bound format sha256 slots state := by
  induction h with
  | start hcreate =>
    obtain ⟨slots, hslots, -⟩ := createState_sound hcreate
    exact ⟨slots, hslots, create_bound hslots hcreate⟩
  | submit _ hdigest hhash hone hrecord ih =>
    obtain ⟨slots, hslots, hbound⟩ := ih
    exact ⟨slots, hslots, submit_bound hslots hbound hdigest hhash hone hrecord⟩
  | restore _ hdraft hrestored ih =>
    obtain ⟨slots, hslots, hbound⟩ := ih
    rw [restored hformed hslots hbound hdraft hrestored]
    exact ⟨slots, hslots, reread_bound hbound⟩

/-! ## The law of the aggregate -/

/-- The aggregate lists every required slot once, and beside each signature the response whose hash the
signature records. -/
structure Binds (format : NumberText) (sha256 : List UInt8 → List UInt8) (policy : ResolvedMultiPartyPolicy)
    (aggregate : FormResponse) : Prop where
  slots : ∃ slots, requiredMultiPartySlots policy = .ok slots
    ∧ ((partyResponses aggregate).map fun entry => (entry.partyRef, entry.roleId)).Perm
      (slots.map fun slot => (slot.partyRef, slot.roleId))
  pairs : List.Forall₂ (fun signature entry => entry.partyRef = signature.partyRef
      ∧ entry.roleId = signature.roleId ∧ entry.subjectRef = signature.subjectRef
      ∧ responseHash format.toNumberFormat (some sha256) entry.response = .ok signature.responseHash)
    (partySignatures aggregate) (partyResponses aggregate)

/-- Every complete state of a run has an aggregate, which binds its signatures. -/
def AggregateLaw (format : NumberText) (sha256 : List UInt8 → List UInt8)
    (policy : ResolvedMultiPartyPolicy) : Prop :=
  ∀ state, Run format sha256 policy state → multiPartyComplete policy state.progress = .ok true →
    ∀ definition id now, ∃ aggregate,
      buildMultiPartyAggregateResponse definition id now state = .ok aggregate
        ∧ Binds format sha256 policy aggregate

theorem signedResponse_ok (hbound : Bound format sha256 slots state) {signature : MultiPartySignatureRecord}
    (h : signature ∈ state.progress.signatures) :
    ∃ entry, signedResponse state.responses signature = .ok entry ∧ entry.partyRef = signature.partyRef
      ∧ entry.roleId = signature.roleId ∧ entry.subjectRef = signature.subjectRef
      ∧ responseHash format.toNumberFormat (some sha256) entry.response = .ok signature.responseHash := by
  rw [signedResponse]
  cases hfind : state.responses.find? (·.partyRef == signature.partyRef) with
  | none =>
    obtain ⟨entry, hentry, hparty⟩ := hbound.stored signature h
    exact absurd (beq_iff_eq.mpr hparty) (List.find?_eq_none.mp hfind entry hentry)
  | some stored =>
    have hparty : stored.partyRef = signature.partyRef := eq_of_beq (List.find?_some hfind :)
    exact ⟨_, rfl, rfl, rfl, rfl, hbound.hashed signature h stored (List.mem_of_find?_eq_some hfind) hparty⟩

theorem build_ok (hbound : Bound format sha256 slots state) (definition : FormDefinition) (id now : String) :
    ∃ signed, buildMultiPartyAggregateResponse definition id now state
        = .ok (aggregateResponse definition id now state.progress.signatures signed)
      ∧ List.Forall₂ (fun signature entry => entry.partyRef = signature.partyRef
        ∧ entry.roleId = signature.roleId ∧ entry.subjectRef = signature.subjectRef
        ∧ responseHash format.toNumberFormat (some sha256) entry.response = .ok signature.responseHash)
        state.progress.signatures signed := by
  have hall : ∀ signatures : List MultiPartySignatureRecord,
      (∀ signature ∈ signatures, signature ∈ state.progress.signatures) →
      ∃ signed, signatures.mapM (signedResponse state.responses) = .ok signed
        ∧ List.Forall₂ (fun signature entry => entry.partyRef = signature.partyRef
          ∧ entry.roleId = signature.roleId ∧ entry.subjectRef = signature.subjectRef
          ∧ responseHash format.toNumberFormat (some sha256) entry.response = .ok signature.responseHash)
          signatures signed := by
    intro signatures hmem
    induction signatures with
    | nil => exact ⟨[], rfl, .nil⟩
    | cons signature signatures ih =>
      obtain ⟨hfirst, hrest⟩ := List.forall_mem_cons.mp hmem
      obtain ⟨entry, hentry, hof⟩ := signedResponse_ok hbound hfirst
      obtain ⟨signed, hsigned, hpairs⟩ := ih hrest
      refine ⟨entry :: signed, ?_, .cons hof hpairs⟩
      rw [List.mapM_cons, hentry, hsigned]
      rfl
  obtain ⟨signed, hsigned, hpairs⟩ := hall _ fun _ hmem => hmem
  refine ⟨signed, ?_, hpairs⟩
  rw [buildMultiPartyAggregateResponse, hsigned]
  rfl

theorem signatures_perm (hsound : Sound slots state.progress) (hrefs : (slots.map (·.partyRef)).Nodup)
    (hcomplete : ∀ slot ∈ slots, signed state.progress.signatures slot.partyRef = true) :
    (state.progress.signatures.map fun signature => (signature.partyRef, signature.roleId)).Perm
      (slots.map fun slot => (slot.partyRef, slot.roleId)) := by
  have hsigned : (state.progress.signatures.map fun signature =>
      (signature.partyRef, signature.roleId)).Nodup := by
    refine List.Nodup.of_map Prod.fst ?_
    rw [List.map_map]
    exact hsound.parties
  have hslots : (slots.map fun slot => (slot.partyRef, slot.roleId)).Nodup := by
    refine List.Nodup.of_map Prod.fst ?_
    rw [List.map_map]
    exact hrefs
  rw [List.perm_ext_iff_of_nodup hsigned hslots]
  rintro ⟨partyRef, roleId⟩
  simp only [List.mem_map, Prod.mk.injEq]
  constructor
  · rintro ⟨signature, hsignature, rfl, rfl⟩
    exact hsound.ofSlots signature hsignature
  · rintro ⟨slot, hslot, rfl, rfl⟩
    obtain ⟨signature, hsignature, hparty⟩ := List.mem_map.mp (signed_iff.mp (hcomplete slot hslot))
    obtain ⟨other, hother, hotherRef, hotherRole⟩ := hsound.ofSlots signature hsignature
    obtain rfl := List.inj_on_of_nodup_map hrefs hother hslot (hotherRef.trans hparty)
    exact ⟨signature, hsignature, hparty, hotherRole.symm⟩

theorem signatures_le {progress : MultiPartySignerProgress} (hsound : Sound slots progress) :
    progress.signatures.length ≤ slots.length := by
  have hsubset : progress.signatures.map (·.partyRef) ⊆ slots.map (·.partyRef) := by
    intro ref href
    obtain ⟨signature, hsignature, rfl⟩ := List.mem_map.mp href
    obtain ⟨slot, hslot, hparty, -⟩ := hsound.ofSlots signature hsignature
    exact List.mem_map.mpr ⟨slot, hslot, hparty⟩
  simpa using (hsound.parties.subperm hsubset).length_le

def plainSubmission (format : NumberText) (sha256 : List UInt8 → List UInt8) (claim : IdentityClaim) :
    SignerInput where
  claim := some claim
  idempotencyKey := "key"
  response := plainResponse
  responseHash := responseHash format.toNumberFormat (some sha256) plainResponse
  now := "2024-01-01T00:00:00.000Z"

theorem plainResponse_one {json : Json Rat} (h : plainResponse.value.json? = some json) : OneEach json := by
  cases h
  intro members hmembers
  cases hmembers with
  | self => exact List.nodup_singleton _
  | member hmember hinner =>
    obtain ⟨rfl, rfl⟩ := Prod.mk.inj (List.mem_singleton.mp hmember)
    cases hinner

section

variable (hslots : requiredMultiPartySlots policy = .ok slots)
  (h : Run format sha256 policy state)
  (hbound : Bound format sha256 slots state)
include hslots h hbound

theorem exists_submission
    (hunsigned : signed state.progress.signatures state.progress.activePartyRef = false) :
    ∃ next, Run format sha256 policy next ∧ Bound format sha256 slots next
      ∧ next.progress.signatures.length = state.progress.signatures.length + 1 := by
  obtain ⟨claim, slot, hassert⟩ := canSubmit_of_unsigned hslots hbound.sound hunsigned
  obtain ⟨hash, hhash⟩ :
      ∃ hash, responseHash format.toNumberFormat (some sha256) plainResponse = .ok hash := ⟨_, rfl⟩
  have hsubmits : ∃ next,
      recordMultiPartySignerState policy (plainSubmission format sha256 claim) state = .ok next := by
    rw [recordMultiPartySignerState, recordMultiPartySigner]
    simp only [plainSubmission, hassert, hhash, hslots, bind, Except.bind, pure, Except.pure]
    exact ⟨_, rfl⟩
  obtain ⟨next, hnext⟩ := hsubmits
  have hdigest : ∀ found ∈ some sha256, found = sha256 := by simp
  have hone : ∀ json, (plainSubmission format sha256 claim).response.value.json? = some json → OneEach json :=
    fun _ => plainResponse_one
  refine ⟨next, .submit h hdigest rfl hone hnext, submit_bound hslots hbound hdigest rfl hone hnext, ?_⟩
  obtain ⟨record, -, -, -, -, hsignatures, -⟩ := record_ok hslots (recordState_ok hnext).1
  rw [hsignatures, List.length_append, List.length_singleton]

theorem exists_complete :
    ∃ complete, Run format sha256 policy complete
      ∧ multiPartyComplete policy complete.progress = .ok true := by
  -- every submission adds a signature, and there are no more of them than slots
  induction hleft : slots.length - state.progress.signatures.length using Nat.strong_induction_on
    generalizing state with
  | _ left ih =>
    by_cases hsigned : signed state.progress.signatures state.progress.activePartyRef = true
    · refine ⟨state, h, (complete_ok hslots).mpr ?_⟩
      exact (List.all_eq_true.mpr (hbound.sound.progress.waiting hsigned)).symm
    · obtain ⟨next, hnext, hnextBound, hlength⟩ :=
        exists_submission hslots h hbound (Bool.eq_false_iff.mpr hsigned)
      have hroom := signatures_le hnextBound.sound.progress
      exact ih _ (by omega) hnext hnextBound rfl

end

theorem listed_parties {entries : List SignedResponse}
    (h : List.Forall₂ (fun signature entry => entry.partyRef = signature.partyRef
      ∧ entry.roleId = signature.roleId ∧ entry.subjectRef = signature.subjectRef
      ∧ responseHash format.toNumberFormat (some sha256) entry.response = .ok signature.responseHash)
      signatures entries) :
    (entries.map fun entry => (entry.partyRef, entry.roleId))
      = signatures.map fun signature => (signature.partyRef, signature.roleId) := by
  induction h with
  | nil => rfl
  | cons hof _ ih => rw [List.map_cons, List.map_cons, ih, hof.1, hof.2.1]

theorem unambiguous_of_law (hformed : WellFormed policy) (hlaw : AggregateLaw format sha256 policy)
    (henumerable : Enumerable policy) : Unambiguous policy := by
  have hslots := requiredMultiPartySlots_ok.mpr ⟨henumerable, rfl⟩
  obtain ⟨first, rest, hfirst⟩ := List.exists_cons_of_ne_nil (slots_ne_nil hformed hslots)
  have hcreate : ∃ state, createMultiPartyPersistedState policy = .ok state := by
    rw [createMultiPartyPersistedState, createMultiPartySignerProgress, hslots, hfirst]
    exact ⟨_, rfl⟩
  obtain ⟨state, hcreate⟩ := hcreate
  have hstart : Run format sha256 policy state := .start hcreate
  obtain ⟨complete, hrun, hcomplete⟩ := exists_complete hslots hstart (create_bound hslots hcreate)
  obtain ⟨aggregate, hbuild, hbinds⟩ := hlaw complete hrun hcomplete ⟨"", ""⟩ "" ""
  obtain ⟨found, hfound, hbound⟩ := run_bound hformed hrun
  obtain rfl := Except.ok.inj (hslots.symm.trans hfound)
  obtain ⟨entries, hbuilt, hpairs⟩ := build_ok hbound ⟨"", ""⟩ "" ""
  obtain rfl := Except.ok.inj (hbuilt.symm.trans hbuild)
  obtain ⟨listed, hlisted, hperm⟩ := hbinds.slots
  obtain rfl := Except.ok.inj (hslots.symm.trans hlisted)
  rw [partyResponses_aggregate, listed_parties hpairs] at hperm
  have hparties := hperm.map Prod.fst
  rw [List.map_map, List.map_map] at hparties
  exact (slotRefs_nodup_iff hformed).mp (hparties.nodup_iff.mp hbound.sound.progress.parties)

/-- An accepted policy keeps the law exactly where no role that needs one signer is named like a slot of a
role that needs several, or its slots cannot be listed and no form begins. -/
theorem aggregate_iff (haccepted : Accepted policy) :
    AggregateLaw format sha256 policy ↔ (Enumerable policy → Unambiguous policy) := by
  have hformed := haccepted.wellFormed
  constructor
  · exact unambiguous_of_law hformed
  · intro hunambiguous state hrun hcomplete definition id now
    obtain ⟨slots, hslots, hbound⟩ := run_bound hformed hrun
    obtain ⟨henumerable, rfl⟩ := requiredMultiPartySlots_ok.mp hslots
    have hrefs := (slotRefs_nodup_iff hformed).mpr (hunambiguous henumerable)
    have hall := List.all_eq_true.mp ((complete_ok hslots).mp hcomplete).symm
    obtain ⟨entries, hbuilt, hpairs⟩ := build_ok hbound definition id now
    refine ⟨_, hbuilt, ⟨_, hslots, ?_⟩, ?_⟩
    · rw [partyResponses_aggregate, listed_parties hpairs]
      exact signatures_perm hbound.sound.progress hrefs hall
    · rw [partySignatures_aggregate, partyResponses_aggregate]
      exact hpairs

def roundedNumbers : NumberText where
  print n := wholeNumbers.print n.floor.toNat
  read text := (wholeNumbers.read text).map fun n => (n : Rat)
  reread n := n.floor.toNat
  print_units n := wholeNumbers.print_units _
  print_ne n := wholeNumbers.print_ne _
  read_print n := by
    rw [wholeNumbers.read_print]
    rfl
  print_reread n := by
    rw [show ((n.floor.toNat : Rat)).floor = (n.floor.toNat : Int) from Rat.floor_intCast _, Int.toNat_natCast]

def plainDigest : List UInt8 → List UInt8 := fun _ =>
  [248, 249, 82, 233, 185, 160, 201, 4, 23, 17, 192, 254, 20, 88, 70, 37,
    107, 199, 151, 56, 137, 136, 226, 177, 197, 34, 205, 140, 200, 157, 81, 133]

theorem aggregate_iff_lease : AggregateLaw roundedNumbers plainDigest oneTenantPolicy :=
  (aggregate_iff oneTenantPolicy_accepted).mpr fun _ => by decide

/-- Two signers complete a form of three slots, and the aggregate lists two. -/
theorem aggregate_misses_sharedRef :
    Accepted sharedRefPolicy
      ∧ (∃ state slots aggregate, Run roundedNumbers plainDigest sharedRefPolicy state
        ∧ multiPartyComplete sharedRefPolicy state.progress = .ok true
        ∧ requiredMultiPartySlots sharedRefPolicy = .ok slots ∧ slots.length = 3
        ∧ buildMultiPartyAggregateResponse leaseDefinition "aggregate" "2024-01-02T00:00:00.000Z" state
          = .ok aggregate
        ∧ (partyResponses aggregate).length = 2)
      ∧ ¬ AggregateLaw roundedNumbers plainDigest sharedRefPolicy := by
  have hcreated : createMultiPartyPersistedState sharedRefPolicy = .ok ⟨⟨"signer:1", []⟩, []⟩ := by rfl
  have hruns : ∃ first second, recordMultiPartySignerState sharedRefPolicy
        (plainSubmission roundedNumbers plainDigest ⟨"ana"⟩) ⟨⟨"signer:1", []⟩, []⟩ = .ok first
      ∧ recordMultiPartySignerState sharedRefPolicy
        (plainSubmission roundedNumbers plainDigest ⟨"ben"⟩) first = .ok second
      ∧ multiPartyComplete sharedRefPolicy second.progress = .ok true
      ∧ ∃ aggregate, buildMultiPartyAggregateResponse leaseDefinition "aggregate" "2024-01-02T00:00:00.000Z"
          second = .ok aggregate
        ∧ (partyResponses aggregate).length = 2 := ⟨_, _, rfl, rfl, rfl, _, rfl, rfl⟩
  obtain ⟨first, second, hfirst, hsecond, hcomplete, aggregate, hbuild, hlength⟩ := hruns
  have hdigest : ∀ found ∈ some plainDigest, found = plainDigest := by simp
  have hrun : Run roundedNumbers plainDigest sharedRefPolicy second :=
    .submit (.submit (.start hcreated) hdigest rfl (fun _ => plainResponse_one) hfirst) hdigest rfl
      (fun _ => plainResponse_one) hsecond
  have hslots : ∃ slots, requiredMultiPartySlots sharedRefPolicy = .ok slots ∧ slots.length = 3 := ⟨_, rfl, rfl⟩
  obtain ⟨slots, hslots, hthree⟩ := hslots
  refine ⟨sharedRefPolicy_accepted,
    ⟨second, slots, aggregate, hrun, hcomplete, hslots, hthree, hbuild, hlength⟩, fun hlaw => ?_⟩
  have hunambiguous := unambiguous_of_law sharedRefPolicy_accepted.wellFormed hlaw (by decide)
  exact absurd hunambiguous (by decide)

end FormspecWeb.MultiParty
