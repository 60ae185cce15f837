import FormspecWeb.MultiParty.Quorum

/-!
# Saved signer progress

The state of a multi-party form as its progress draft carries it, and what is restored from a
draft.
-/

namespace FormspecWeb.MultiParty

open Shared

structure MultiPartyStoredResponse where
  partyRef : String
  response : FormResponse

structure MultiPartyPersistedState where
  progress : MultiPartySignerProgress
  responses : List MultiPartyStoredResponse

structure FormDefinition where
  url : String
  version : String

def multiPartyDataKey : String := "x-formspec-multi-party"

def createMultiPartyPersistedState (policy : ResolvedMultiPartyPolicy) :
    Except Failure MultiPartyPersistedState := do
  return ⟨← createMultiPartySignerProgress policy, []⟩

def recordMultiPartySignerState (policy : ResolvedMultiPartyPolicy) (input : SignerInput)
    (state : MultiPartyPersistedState) : Except Failure MultiPartyPersistedState := do
  let activePartyRef := state.progress.activePartyRef
  let progress ← recordMultiPartySigner policy input state.progress
  return ⟨progress,
    state.responses.filter (·.partyRef != activePartyRef) ++ [⟨activePartyRef, input.response⟩]⟩

def signatureRecordValue (record : MultiPartySignatureRecord) : Value :=
  .object [("partyRef", .string record.partyRef), ("roleId", .string record.roleId),
    ("subjectRef", .string record.subjectRef), ("responseRef", .string record.responseRef),
    ("responseHash", .string record.responseHash), ("signedAt", .string record.signedAt)]

def storedResponseValue (entry : MultiPartyStoredResponse) : Value :=
  .object [("partyRef", .string entry.partyRef), ("response", entry.response.value)]

def multiPartyStateDraftResponse (definition : FormDefinition) (now : String)
    (state : MultiPartyPersistedState) : FormResponse where
  value := .object [("$formspecResponse", .string "1.0"),
    ("definitionUrl", .string definition.url), ("definitionVersion", .string definition.version),
    ("status", .string "in-progress"),
    ("data", .object [(multiPartyDataKey, .object [
      ("activePartyRef", .string state.progress.activePartyRef),
      ("signatures", .array (state.progress.signatures.map signatureRecordValue)),
      ("responses", .array (state.responses.map storedResponseValue))])]),
    ("authored", .string now)]
  isObject := rfl
  version := by rfl

/-! ## Reading -/

/-- The record a value is, where it passes `isMultiPartySignatureRecord`. -/
def signatureRecordOf (value : Value) : Option MultiPartySignatureRecord := do
  let text := fun key => (value.get? key).bind (·.text?)
  return {
    partyRef := ← text "partyRef"
    roleId := ← text "roleId"
    subjectRef := ← text "subjectRef"
    responseRef := ← text "responseRef"
    responseHash := ← text "responseHash"
    signedAt := ← text "signedAt" }

def formResponseOf (value : Value) : Option FormResponse :=
  if isObject : value.isPlainObject = true then
    if version : (value.get? "$formspecResponse").any (·.isString "1.0") = true then
      some ⟨value, isObject, version⟩
    else none
  else none

/-- The entry a value is, where it passes `isMultiPartyStoredResponse`. -/
def storedResponseOf (value : Value) : Option MultiPartyStoredResponse := do
  return ⟨← (value.get? "partyRef").bind (·.text?), ← (value.get? "response").bind formResponseOf⟩

/-- `Array.isArray(value) ? value.filter(isEntry) : []`. -/
def entriesOf {α : Type} (read : Value → Option α) (value : Option Value) : List α :=
  ((value.bind (·.entries?)).getD []).filterMap read

/-- The active party a candidate names, or the first slot where it names none of the slots. -/
def activeOf (slotRefs : List String) (candidate : Value) : Option String :=
  match (candidate.get? "activePartyRef").bind (·.text?) with
  | some ref => if slotRefs.contains ref then some ref else slotRefs.head?
  | none => slotRefs.head?

def recordedSignatures (candidate : Value) : List MultiPartySignatureRecord :=
  entriesOf signatureRecordOf (candidate.get? "signatures")

def recordedResponses (candidate : Value) : List MultiPartyStoredResponse :=
  entriesOf storedResponseOf (candidate.get? "responses")

def restoredState (policy : ResolvedMultiPartyPolicy) (candidate : Value) :
    Except Failure MultiPartyPersistedState := do
  let slotRefs := (← requiredMultiPartySlots policy).map (·.partyRef)
  match (activeOf slotRefs candidate).filter truthy with
  | none => createMultiPartyPersistedState policy
  | some activePartyRef =>
    return ⟨⟨activePartyRef,
        (recordedSignatures candidate).filter fun signature => slotRefs.contains signature.partyRef⟩,
      (recordedResponses candidate).filter fun entry => slotRefs.contains entry.partyRef⟩

def multiPartyStateFromDraft (response : Option Value) (policy : ResolvedMultiPartyPolicy) :
    Except Failure MultiPartyPersistedState :=
  match response with
  | none => createMultiPartyPersistedState policy
  | some response =>
    match response.get? "data" with
    | none => .error ("Cannot read properties of undefined (reading '" ++ multiPartyDataKey ++ "')")
    | some .null => .error ("Cannot read properties of null (reading '" ++ multiPartyDataKey ++ "')")
    | some data =>
      match data.get? multiPartyDataKey with
      | some (.object members) => restoredState policy (.object members)
      | _ => createMultiPartyPersistedState policy

theorem signatureRecordOf_value (record : MultiPartySignatureRecord) :
    signatureRecordOf (signatureRecordValue record) = some record := by
  rfl

theorem formResponseOf_value (response : FormResponse) :
    formResponseOf response.value = some response := by
  rw [formResponseOf, dif_pos response.isObject, dif_pos response.version]

theorem storedResponseOf_value (entry : MultiPartyStoredResponse) :
    storedResponseOf (storedResponseValue entry) = some entry := by
  obtain ⟨partyRef, response⟩ := entry
  have hresponse : (storedResponseValue ⟨partyRef, response⟩).get? "response"
      = some response.value := by
    obtain ⟨value, isObject, version⟩ := response
    cases value with
    | object members => rfl
    | _ => cases isObject
  have hparty : (storedResponseValue ⟨partyRef, response⟩).get? "partyRef"
      = some (.string partyRef) := rfl
  rw [storedResponseOf, hparty, hresponse, Option.bind_some, Option.bind_some, formResponseOf_value]
  rfl

theorem entriesOf_written {α : Type} {read : Value → Option α} {write : α → Value}
    (h : ∀ a, read (write a) = some a) (entries : List α) :
    entriesOf read (some (.array (entries.map write))) = entries := by
  rw [entriesOf, Option.bind_some, Value.entries?, Option.getD_some, List.filterMap_map]
  rw [show read ∘ write = some from funext h, List.filterMap_some]

/-! ## Reachable states -/

variable {policy : ResolvedMultiPartyPolicy} {slots : List MultiPartyPartySlot}
  {state next : MultiPartyPersistedState}

inductive ReachableState (policy : ResolvedMultiPartyPolicy) : MultiPartyPersistedState → Prop where
  | start {state : MultiPartyPersistedState} :
      createMultiPartyPersistedState policy = .ok state → ReachableState policy state
  | step {state next : MultiPartyPersistedState} {input : SignerInput} :
      ReachableState policy state → recordMultiPartySignerState policy input state = .ok next →
      ReachableState policy next

structure SoundState (slots : List MultiPartyPartySlot) (state : MultiPartyPersistedState) :
    Prop where
  progress : Sound slots state.progress
  responses : ∀ entry ∈ state.responses, entry.partyRef ∈ slots.map (·.partyRef)

theorem createState_sound (h : createMultiPartyPersistedState policy = .ok state) :
    ∃ slots, requiredMultiPartySlots policy = .ok slots ∧ SoundState slots state := by
  obtain ⟨progress, hprogress, heq⟩ := sequence_ok.mp h
  cases heq
  obtain ⟨first, rest, hslots, -⟩ := create_ok hprogress
  exact ⟨_, hslots, create_sound hslots hprogress, by simp⟩

theorem recordState_ok {input : SignerInput}
    (h : recordMultiPartySignerState policy input state = .ok next) :
    recordMultiPartySigner policy input state.progress = .ok next.progress
      ∧ next.responses = state.responses.filter (·.partyRef != state.progress.activePartyRef)
        ++ [⟨state.progress.activePartyRef, input.response⟩] := by
  obtain ⟨progress, hprogress, heq⟩ := sequence_ok.mp h
  cases heq
  exact ⟨hprogress, rfl⟩

theorem recordState_sound {input : SignerInput} (hslots : requiredMultiPartySlots policy = .ok slots)
    (hsound : SoundState slots state)
    (h : recordMultiPartySignerState policy input state = .ok next) : SoundState slots next := by
  obtain ⟨hprogress, hresponses⟩ := recordState_ok h
  refine ⟨record_sound hslots hsound.progress hprogress, fun entry hmem => ?_⟩
  rw [hresponses] at hmem
  rcases List.mem_append.mp hmem with hold | hnew
  · exact hsound.responses entry (List.mem_of_mem_filter hold)
  · obtain rfl := List.mem_singleton.mp hnew
    obtain ⟨slot, hslot, hactive⟩ := hsound.progress.active
    exact List.mem_map.mpr ⟨slot, hslot, hactive⟩

theorem reachableState_sound (h : ReachableState policy state) :
    ∃ slots, requiredMultiPartySlots policy = .ok slots ∧ SoundState slots state := by
  induction h with
  | start hcreate => exact createState_sound hcreate
  | step _ hrecord ih =>
    obtain ⟨slots, hslots, hsound⟩ := ih
    exact ⟨slots, hslots, recordState_sound hslots hsound hrecord⟩

theorem slotRef_named {party : MultiPartyRolePolicy} (h : party.roleId ≠ "") (index : Nat) :
    slotRef party index ≠ "" := by
  unfold slotRef
  split
  · exact h
  · intro heq
    have hlength := congrArg String.length heq
    simp only [String.length_append] at hlength
    exact absurd hlength (by change _ + 1 + _ ≠ 0; omega)

theorem slot_named (hformed : WellFormed policy)
    (hslots : requiredMultiPartySlots policy = .ok slots) {slot : MultiPartyPartySlot}
    (hslot : slot ∈ slots) : slot.partyRef ≠ "" := by
  obtain ⟨-, rfl⟩ := requiredMultiPartySlots_ok.mp hslots
  obtain ⟨party, hparty, hof⟩ := List.mem_flatMap.mp hslot
  obtain ⟨index, -, rfl⟩ := mem_slotsOf.mp hof
  exact slotRef_named (hformed.named party hparty) index

def progressOf (draft : Value) : Option Value :=
  ((draft.get? "data").bind (·.get? multiPartyDataKey)).filter (·.isPlainObject)

theorem fromDraft_with {draft candidate : Value} (h : progressOf draft = some candidate) :
    multiPartyStateFromDraft (some draft) policy = restoredState policy candidate := by
  obtain ⟨hfound, hobject⟩ := Option.filter_eq_some_iff.mp h
  obtain ⟨data, hdata, hmember⟩ := Option.bind_eq_some_iff.mp hfound
  cases candidate with
  | object members =>
    cases data with
    | object found => simp only [multiPartyStateFromDraft, hdata, hmember]
    | _ => cases hmember
  | _ => cases hobject

theorem fromDraft_without {draft : Value} (hprogress : progressOf draft = none)
    (h : multiPartyStateFromDraft (some draft) policy = .ok state) :
    createMultiPartyPersistedState policy = .ok state := by
  unfold multiPartyStateFromDraft at h
  split at h
  · exact h
  · rename_i response heq
    cases heq
    split at h
    · cases h
    · cases h
    · rename_i data _ hdata
      split at h
      · rename_i members hmember
        rw [progressOf, hdata, Option.bind_some, hmember] at hprogress
        cases hprogress
      · exact h

theorem activeOf_mem {slotRefs : List String} {candidate : Value} {active : String}
    (h : activeOf slotRefs candidate = some active) : active ∈ slotRefs := by
  unfold activeOf at h
  split at h
  · split at h
    · cases h
      exact List.contains_iff_mem.mp ‹_›
    · exact List.mem_of_head? h
  · exact List.mem_of_head? h

theorem restoredState_ok (hformed : WellFormed policy)
    (hslots : requiredMultiPartySlots policy = .ok slots) {candidate : Value} {active : String}
    (hactive : activeOf (slots.map (·.partyRef)) candidate = some active) :
    restoredState policy candidate = .ok
      ⟨⟨active, (recordedSignatures candidate).filter
          fun signature => (slots.map (·.partyRef)).contains signature.partyRef⟩,
        (recordedResponses candidate).filter
          fun entry => (slots.map (·.partyRef)).contains entry.partyRef⟩ := by
  obtain ⟨slot, hslot, hname⟩ := List.mem_map.mp (activeOf_mem hactive)
  have hnamed : active ≠ "" := hname ▸ slot_named hformed hslots hslot
  have htruthy : (some active).filter truthy = some active := by
    rw [Option.filter_some, if_pos (by simpa [truthy] using hnamed)]
  simp only [restoredState, hslots, hactive, htruthy, bind, Except.bind]
  rfl

theorem progressOf_written (definition : FormDefinition) (now : String)
    (state : MultiPartyPersistedState) :
    ∃ candidate, progressOf (multiPartyStateDraftResponse definition now state).value = some candidate
      ∧ (candidate.get? "activePartyRef").bind (·.text?) = some state.progress.activePartyRef
      ∧ recordedSignatures candidate = state.progress.signatures
      ∧ recordedResponses candidate = state.responses := by
  refine ⟨_, rfl, rfl, ?_, ?_⟩
  · exact entriesOf_written signatureRecordOf_value state.progress.signatures
  · exact entriesOf_written storedResponseOf_value state.responses

theorem fromDraft_written (hformed : WellFormed policy)
    (hslots : requiredMultiPartySlots policy = .ok slots) (hsound : SoundState slots state)
    (definition : FormDefinition) (now : String) :
    multiPartyStateFromDraft (some (multiPartyStateDraftResponse definition now state).value) policy
      = .ok state := by
  obtain ⟨slot, hslot, hactive⟩ := hsound.progress.active
  have hmem : (slots.map (·.partyRef)).contains state.progress.activePartyRef = true :=
    List.contains_iff_mem.mpr (List.mem_map.mpr ⟨slot, hslot, hactive⟩)
  obtain ⟨candidate, hprogress, hnamed, hsignatures, hresponses⟩ :=
    progressOf_written definition now state
  have hrestored : activeOf (slots.map (·.partyRef)) candidate = some state.progress.activePartyRef := by
    simp only [activeOf, hnamed, hmem, if_true]
  have hallSigned : state.progress.signatures.filter (fun signature =>
      (slots.map (·.partyRef)).contains signature.partyRef) = state.progress.signatures := by
    refine List.filter_eq_self.mpr fun signature hsignature => ?_
    obtain ⟨found, hfound, hparty, -⟩ := hsound.progress.ofSlots signature hsignature
    exact List.contains_iff_mem.mpr (List.mem_map.mpr ⟨found, hfound, hparty⟩)
  have hallStored : state.responses.filter (fun entry =>
      (slots.map (·.partyRef)).contains entry.partyRef) = state.responses :=
    List.filter_eq_self.mpr fun entry hentry =>
      List.contains_iff_mem.mpr (hsound.responses entry hentry)
  rw [fromDraft_with hprogress, restoredState_ok hformed hslots hrestored, hsignatures, hresponses,
    hallSigned, hallStored]

/-! ## The law of drafts -/

def Waiting (policy : ResolvedMultiPartyPolicy) (state : MultiPartyPersistedState) : Prop :=
  signed state.progress.signatures state.progress.activePartyRef = true →
    multiPartyComplete policy state.progress = .ok true

def Records (candidate : Value) (partyRef : String) : Prop :=
  ∃ record ∈ recordedSignatures candidate, record.partyRef = partyRef

/-- A draft without progress, or one in which the slot it names as active, or the first slot where
it names none, has no record of a signature, unless all slots have. -/
def ActiveUnrecorded (policy : ResolvedMultiPartyPolicy) (draft : Option Value) : Prop :=
  ∀ candidate slots active, draft.bind progressOf = some candidate →
    requiredMultiPartySlots policy = .ok slots →
    activeOf (slots.map (·.partyRef)) candidate = some active →
    Records candidate active → ∀ slot ∈ slots, Records candidate slot.partyRef

theorem signed_recorded {candidate : Value} {slotRefs : List String} {partyRef : String}
    (href : partyRef ∈ slotRefs) :
    signed ((recordedSignatures candidate).filter fun signature =>
        slotRefs.contains signature.partyRef) partyRef = true
      ↔ Records candidate partyRef := by
  rw [signed_iff, List.mem_map]
  constructor
  · rintro ⟨record, hmem, heq⟩
    exact ⟨record, List.mem_of_mem_filter hmem, heq⟩
  · rintro ⟨record, hmem, rfl⟩
    exact ⟨record, List.mem_filter.mpr ⟨hmem, List.contains_iff_mem.mpr href⟩, rfl⟩

theorem createState_waiting (h : createMultiPartyPersistedState policy = .ok state) :
    Waiting policy state := by
  obtain ⟨progress, hprogress, heq⟩ := sequence_ok.mp h
  cases heq
  obtain ⟨first, rest, -, rfl⟩ := create_ok hprogress
  intro hsigned
  cases hsigned

theorem slots_ne_nil (hformed : WellFormed policy)
    (hslots : requiredMultiPartySlots policy = .ok slots) : slots ≠ [] := by
  obtain ⟨-, rfl⟩ := requiredMultiPartySlots_ok.mp hslots
  have hsome : policy.parties ≠ [] := by
    intro hnone
    exact absurd (hnone ▸ hformed.several) (by decide)
  obtain ⟨party, hparty⟩ := List.exists_mem_of_ne_nil _ hsome
  have hslot : partySlot party 0 ∈ slotsOf party :=
    mem_slotsOf.mpr ⟨0, hformed.positive party hparty, rfl⟩
  exact List.ne_nil_of_mem (List.mem_flatMap.mpr ⟨party, hparty, hslot⟩)

theorem activeOf_some (hformed : WellFormed policy)
    (hslots : requiredMultiPartySlots policy = .ok slots) (candidate : Value) :
    ∃ active, activeOf (slots.map (·.partyRef)) candidate = some active := by
  obtain ⟨first, rest, rfl⟩ := List.exists_cons_of_ne_nil (slots_ne_nil hformed hslots)
  unfold activeOf
  split
  · split
    · exact ⟨_, rfl⟩
    · exact ⟨_, rfl⟩
  · exact ⟨_, rfl⟩

theorem restored_waiting_iff (hformed : WellFormed policy) {draft : Option Value}
    (h : multiPartyStateFromDraft draft policy = .ok state) :
    Waiting policy state ↔ ActiveUnrecorded policy draft := by
  cases hprogress : draft.bind progressOf with
  | none =>
    have hcreate : createMultiPartyPersistedState policy = .ok state := by
      cases draft with
      | none => exact h
      | some draft => exact fromDraft_without hprogress h
    refine ⟨fun _ candidate slots active hfound => ?_, fun _ => createState_waiting hcreate⟩
    cases hprogress.symm.trans hfound
  | some candidate =>
    obtain ⟨draft, rfl, hcandidate⟩ := Option.bind_eq_some_iff.mp hprogress
    rw [fromDraft_with hcandidate] at h
    obtain ⟨slots, hslots, -⟩ := sequence_ok.mp h
    obtain ⟨active, hactive⟩ := activeOf_some hformed hslots candidate
    rw [restoredState_ok hformed hslots hactive] at h
    have hrestored : Waiting policy state ↔ (Records candidate active →
        ∀ slot ∈ slots, Records candidate slot.partyRef) := by
      rw [← Except.ok.inj h]
      refine imp_congr (signed_recorded (activeOf_mem hactive)) ?_
      rw [complete_ok hslots, eq_comm, List.all_eq_true]
      exact forall₂_congr fun slot hslot =>
        signed_recorded (List.mem_map.mpr ⟨slot, hslot, rfl⟩)
    rw [hrestored]
    constructor
    · intro hrecords found other named hfound hother hnamed
      obtain rfl := Option.some.inj (hprogress.symm.trans hfound)
      obtain rfl := Except.ok.inj (hslots.symm.trans hother)
      obtain rfl := Option.some.inj (hactive.symm.trans hnamed)
      exact hrecords
    · intro hunrecorded
      exact hunrecorded candidate slots active hprogress hslots hactive

/-- Every state a run of signers reaches under an accepted policy is restored from the draft it is
saved in; and what any draft restores waits for its active party exactly where the draft has no
record of a signature of that party, or of every slot. -/
theorem draft_restores (haccepted : Accepted policy) :
    (∀ state, ReachableState policy state → ∀ definition now,
        multiPartyStateFromDraft
          (some (multiPartyStateDraftResponse definition now state).value) policy = .ok state)
      ∧ ∀ draft state, multiPartyStateFromDraft draft policy = .ok state →
        (Waiting policy state ↔ ActiveUnrecorded policy draft) := by
  have hformed := haccepted.wellFormed
  refine ⟨fun state hreachable definition now => ?_, fun draft state h => ?_⟩
  · obtain ⟨slots, hslots, hsound⟩ := reachableState_sound hreachable
    exact fromDraft_written hformed hslots hsound definition now
  · exact restored_waiting_iff hformed h

def oneTenantPolicy : ResolvedMultiPartyPolicy where
  parties := [⟨"landlord", none, 1⟩, ⟨"tenant", none, 1⟩]

def twoTenantsPolicy : ResolvedMultiPartyPolicy where
  parties := [⟨"landlord", none, 1⟩, ⟨"tenant", none, 2⟩]

theorem twoTenantsPolicy_accepted : Accepted twoTenantsPolicy := by
  have hresolved : signingPolicy [signingParty "landlord" 1, signingParty "tenant" 2]
      = some twoTenantsPolicy := by rfl
  exact signingPolicy_accepted hresolved

def leaseDefinition : FormDefinition := ⟨"https://forms.example/lease", "1.0.0"⟩

def landlordSigned : MultiPartyPersistedState where
  progress := ⟨"tenant", [⟨"landlord", "landlord", "ana", "response:key", "sha256:00",
    "2024-01-01T00:00:00.000Z"⟩]⟩
  responses := [⟨"landlord", plainResponse⟩]

def firstTenantAwaited : MultiPartyPersistedState where
  progress := ⟨"tenant:1", landlordSigned.progress.signatures⟩
  responses := landlordSigned.responses

theorem draft_restores_twoTenants :
    ReachableState twoTenantsPolicy firstTenantAwaited
      ∧ multiPartyStateFromDraft
          (some (multiPartyStateDraftResponse leaseDefinition "2024-01-02T00:00:00.000Z"
            firstTenantAwaited).value) twoTenantsPolicy = .ok firstTenantAwaited
      ∧ firstTenantAwaited.progress.signatures ≠ [] ∧ firstTenantAwaited.responses ≠ []
      ∧ Waiting twoTenantsPolicy firstTenantAwaited := by
  have hreached : ReachableState twoTenantsPolicy firstTenantAwaited := by
    have hcreated : createMultiPartyPersistedState twoTenantsPolicy
        = .ok ⟨⟨"landlord", []⟩, []⟩ := by rfl
    have hrecorded : recordMultiPartySignerState twoTenantsPolicy (signerInput "ana")
        ⟨⟨"landlord", []⟩, []⟩ = .ok firstTenantAwaited := by rfl
    exact .step (.start hcreated) hrecorded
  obtain ⟨hwritten, hwaiting⟩ := draft_restores twoTenantsPolicy_accepted
  have hrestored := hwritten _ hreached leaseDefinition "2024-01-02T00:00:00.000Z"
  refine ⟨hreached, hrestored, List.cons_ne_nil _ _, List.cons_ne_nil _ _,
    (hwaiting _ _ hrestored).mpr ?_⟩
  intro candidate slots active hfound hslots hactive hrecords
  cases hfound
  cases hslots
  -- the draft names the first tenant, of whom it keeps no signature
  cases hactive
  obtain ⟨record, hrecord, hparty⟩ := hrecords
  obtain rfl := List.mem_singleton.mp hrecord
  exact absurd hparty (by decide)

/-- The draft of the earlier policy makes the landlord active again, who has signed. -/
theorem draft_restores_signed_landlord :
    ∃ state, multiPartyStateFromDraft
        (some (multiPartyStateDraftResponse leaseDefinition "2024-01-02T00:00:00.000Z"
          landlordSigned).value) twoTenantsPolicy = .ok state
      ∧ ReachableState oneTenantPolicy landlordSigned ∧ Accepted twoTenantsPolicy
      ∧ state.progress.activePartyRef = "landlord"
      ∧ signed state.progress.signatures "landlord" = true
      ∧ multiPartyComplete twoTenantsPolicy state.progress = .ok false
      ∧ ¬ Waiting twoTenantsPolicy state := by
  refine ⟨⟨⟨"landlord", landlordSigned.progress.signatures⟩, landlordSigned.responses⟩, by rfl, ?_,
    twoTenantsPolicy_accepted, rfl, rfl, rfl, fun hwaiting => ?_⟩
  · have hcreated : createMultiPartyPersistedState oneTenantPolicy = .ok ⟨⟨"landlord", []⟩, []⟩ := by
      rfl
    have hrecorded : recordMultiPartySignerState oneTenantPolicy (signerInput "ana")
        ⟨⟨"landlord", []⟩, []⟩ = .ok landlordSigned := by rfl
    exact .step (.start hcreated) hrecorded
  · cases hwaiting rfl

end FormspecWeb.MultiParty
