import FormspecWeb.MultiParty.Slots
import Mathlib.Data.List.Perm.Subperm

/-!
# Signer progress

The signers of a multi-party form sign one after the other; each signature is of the slot that
is active, and the form is complete when every required slot is signed.
-/

namespace FormspecWeb.MultiParty

open Shared

structure FormResponse where
  value : Value
  isObject : value.isPlainObject = true
  version : (value.get? "$formspecResponse").any (·.isString "1.0") = true

def FormResponse.id? (response : FormResponse) : Option String :=
  (response.value.get? "id").bind (·.text?)

structure IdentityClaim where
  subjectRef : String

structure MultiPartySignatureRecord where
  partyRef : String
  roleId : String
  subjectRef : String
  responseRef : String
  responseHash : String
  signedAt : String
deriving DecidableEq

structure MultiPartySignerProgress where
  activePartyRef : String
  signatures : List MultiPartySignatureRecord
deriving DecidableEq

def createMultiPartySignerProgress (policy : ResolvedMultiPartyPolicy) :
    Except Failure MultiPartySignerProgress := do
  match ← requiredMultiPartySlots policy with
  | [] => .error "multiParty requires at least one required party slot"
  | first :: _ => return ⟨first.partyRef, []⟩

def signed (signatures : List MultiPartySignatureRecord) (partyRef : String) : Bool :=
  signatures.any (·.partyRef == partyRef)

def assertMultiPartySignerCanSubmit (claim : Option IdentityClaim)
    (policy : ResolvedMultiPartyPolicy) (progress : MultiPartySignerProgress) :
    Except Failure MultiPartyPartySlot := do
  match claim with
  | none =>
    .error "Multi-party forms require each signer to authenticate before signing."
  | some claim =>
    failIf (signed progress.signatures progress.activePartyRef)
      ("Party \"" ++ progress.activePartyRef ++ "\" has already signed.")
    failIf (progress.signatures.any fun signature =>
        signature.subjectRef == claim.subjectRef && signature.partyRef != progress.activePartyRef)
      "Each party must sign with a distinct authenticated identity."
    match (← requiredMultiPartySlots policy).find? (·.partyRef == progress.activePartyRef) with
    | none => .error ("Unknown active party \"" ++ progress.activePartyRef ++ "\".")
    | some slot => return slot

def multiPartyComplete (policy : ResolvedMultiPartyPolicy) (progress : MultiPartySignerProgress) :
    Except Failure Bool := do
  return (← requiredMultiPartySlots policy).all fun slot => signed progress.signatures slot.partyRef

structure SignerInput where
  claim : Option IdentityClaim
  idempotencyKey : String
  response : FormResponse
  /-- `responseHash(response)`, which needs secure hashing. -/
  responseHash : Except Failure String
  /-- `new Date().toISOString()`. -/
  now : String

def recordMultiPartySigner (policy : ResolvedMultiPartyPolicy) (input : SignerInput)
    (progress : MultiPartySignerProgress) : Except Failure MultiPartySignerProgress := do
  let activeSlot ← assertMultiPartySignerCanSubmit input.claim policy progress
  match input.claim with
  | none => .error "Multi-party forms require each signer to authenticate before signing."
  | some claim =>
    let hash ← input.responseHash
    let nextSignatures := progress.signatures ++
      [{ partyRef := activeSlot.partyRef
         roleId := activeSlot.roleId
         subjectRef := claim.subjectRef
         responseRef := "response:" ++ input.response.id?.getD input.idempotencyKey
         responseHash := hash
         signedAt := input.now }]
    let nextSlot := (← requiredMultiPartySlots policy).find? fun slot =>
      !signed nextSignatures slot.partyRef
    return ⟨(nextSlot.map (·.partyRef)).getD activeSlot.partyRef, nextSignatures⟩

variable {policy : ResolvedMultiPartyPolicy} {slots : List MultiPartyPartySlot}
  {progress next : MultiPartySignerProgress}

theorem signed_iff {signatures : List MultiPartySignatureRecord} {partyRef : String} :
    signed signatures partyRef = true ↔ partyRef ∈ signatures.map (·.partyRef) := by
  simp [signed]

theorem create_ok (h : createMultiPartySignerProgress policy = .ok progress) :
    ∃ first rest, requiredMultiPartySlots policy = .ok (first :: rest)
      ∧ progress = ⟨first.partyRef, []⟩ := by
  obtain ⟨slots, hslots, h⟩ := sequence_ok.mp h
  cases slots with
  | nil => cases h
  | cons first rest => exact ⟨first, rest, hslots, (Except.ok.inj h).symm⟩

theorem assert_ok {claim : Option IdentityClaim} {slot : MultiPartyPartySlot} :
    assertMultiPartySignerCanSubmit claim policy progress = .ok slot
      ↔ ∃ found, claim = some found ∧ signed progress.signatures progress.activePartyRef = false
        ∧ (∀ signature ∈ progress.signatures, signature.subjectRef = found.subjectRef →
          signature.partyRef = progress.activePartyRef)
        ∧ ∃ slots, requiredMultiPartySlots policy = .ok slots
          ∧ slots.find? (·.partyRef == progress.activePartyRef) = some slot := by
  cases claim with
  | none => simp [assertMultiPartySignerCanSubmit]
  | some found =>
    have hsubject : (progress.signatures.any fun signature =>
          signature.subjectRef == found.subjectRef
            && signature.partyRef != progress.activePartyRef) = false
        ↔ ∀ signature ∈ progress.signatures, signature.subjectRef = found.subjectRef →
          signature.partyRef = progress.activePartyRef := by
      simp [List.any_eq_false]
    simp only [assertMultiPartySignerCanSubmit, failIf_bind_ok, hsubject, Option.some.injEq,
      exists_eq_left']
    refine and_congr_right fun _ => and_congr_right fun _ => ?_
    rw [sequence_ok]
    refine exists_congr fun slots => and_congr_right fun _ => ?_
    cases slots.find? (·.partyRef == progress.activePartyRef) with
    | none => simp
    | some first => exact Except.ok.injEq first slot ▸ Iff.of_eq (Option.some.injEq first slot).symm

/-- A recorded signature is of the active slot, which had none, by a subject that had not
signed; the next active slot is the first without a signature. -/
theorem record_ok {input : SignerInput} (hslots : requiredMultiPartySlots policy = .ok slots)
    (h : recordMultiPartySigner policy input progress = .ok next) :
    ∃ record : MultiPartySignatureRecord, record.partyRef = progress.activePartyRef
      ∧ record.partyRef ∉ progress.signatures.map (·.partyRef)
      ∧ record.subjectRef ∉ progress.signatures.map (·.subjectRef)
      ∧ (∃ slot ∈ slots, slot.partyRef = record.partyRef ∧ slot.roleId = record.roleId)
      ∧ next.signatures = progress.signatures ++ [record]
      ∧ next.activePartyRef = ((slots.find? fun slot => !signed next.signatures slot.partyRef).map
          (·.partyRef)).getD progress.activePartyRef := by
  obtain ⟨slot, hassert, h⟩ := sequence_ok.mp h
  obtain ⟨claim, hclaim, hunsigned, hsubject, found, hfound, hslot⟩ := assert_ok.mp hassert
  obtain rfl := Except.ok.inj (hslots.symm.trans hfound)
  have hactive : slot.partyRef = progress.activePartyRef := by simpa using List.find?_some hslot
  rw [hclaim] at h
  simp only [sequence_ok, hslots, Except.ok.injEq, exists_eq_left'] at h
  obtain ⟨hash, -, h⟩ := h
  cases h
  have hfresh : progress.activePartyRef ∉ progress.signatures.map (·.partyRef) := by
    rw [← signed_iff, hunsigned]
    exact Bool.false_ne_true
  refine ⟨_, hactive, hactive ▸ hfresh, fun hmem => ?_,
    ⟨slot, List.mem_of_find?_eq_some hslot, rfl, rfl⟩, rfl, by rw [hactive]⟩
  obtain ⟨signature, hmem, hsame⟩ := List.mem_map.mp hmem
  exact hfresh (List.mem_map.mpr ⟨signature, hmem, hsubject signature hmem hsame⟩)

inductive Reachable (policy : ResolvedMultiPartyPolicy) : MultiPartySignerProgress → Prop where
  | start {progress : MultiPartySignerProgress} :
      createMultiPartySignerProgress policy = .ok progress → Reachable policy progress
  | step {progress next : MultiPartySignerProgress} {input : SignerInput} :
      Reachable policy progress → recordMultiPartySigner policy input progress = .ok next →
      Reachable policy next

structure Sound (slots : List MultiPartyPartySlot) (progress : MultiPartySignerProgress) : Prop where
  active : ∃ slot ∈ slots, slot.partyRef = progress.activePartyRef
  ofSlots : ∀ signature ∈ progress.signatures,
    ∃ slot ∈ slots, slot.partyRef = signature.partyRef ∧ slot.roleId = signature.roleId
  parties : (progress.signatures.map (·.partyRef)).Nodup
  subjects : (progress.signatures.map (·.subjectRef)).Nodup
  waiting : signed progress.signatures progress.activePartyRef = true →
    ∀ slot ∈ slots, signed progress.signatures slot.partyRef = true

theorem create_sound (hslots : requiredMultiPartySlots policy = .ok slots)
    (h : createMultiPartySignerProgress policy = .ok progress) : Sound slots progress := by
  obtain ⟨first, rest, hfound, rfl⟩ := create_ok h
  obtain rfl := Except.ok.inj (hslots.symm.trans hfound)
  exact
    { active := ⟨first, List.mem_cons_self, rfl⟩
      ofSlots := by simp
      parties := List.nodup_nil
      subjects := List.nodup_nil
      waiting := fun hsigned => by cases hsigned }

theorem record_sound {input : SignerInput} (hslots : requiredMultiPartySlots policy = .ok slots)
    (hsound : Sound slots progress) (h : recordMultiPartySigner policy input progress = .ok next) :
    Sound slots next := by
  obtain ⟨record, hactive, hparty, hsubject, hslot, hsignatures, hnext⟩ := record_ok hslots h
  constructor
  · rw [hnext]
    cases hfind : slots.find? fun slot => !signed next.signatures slot.partyRef with
    | none => exact hsound.active
    | some found => exact ⟨found, List.mem_of_find?_eq_some hfind, rfl⟩
  · rw [hsignatures]
    intro signature hmem
    rcases List.mem_append.mp hmem with hold | hnew
    · exact hsound.ofSlots signature hold
    · obtain rfl := List.mem_singleton.mp hnew
      exact hslot
  · rw [hsignatures, List.map_append, List.map_singleton]
    exact List.nodup_append_comm.mp (List.nodup_cons.mpr ⟨hparty, hsound.parties⟩)
  · rw [hsignatures, List.map_append, List.map_singleton]
    exact List.nodup_append_comm.mp (List.nodup_cons.mpr ⟨hsubject, hsound.subjects⟩)
  · rw [hnext]
    cases hfind : slots.find? fun slot => !signed next.signatures slot.partyRef with
    | none =>
      intro _ slot hmem
      simpa using List.find?_eq_none.mp hfind slot hmem
    | some found =>
      have hunsigned := List.find?_some hfind
      intro hsigned
      simp only [Option.map_some, Option.getD_some] at hsigned
      simp [hsigned] at hunsigned

theorem reachable_sound (h : Reachable policy progress) :
    ∃ slots, requiredMultiPartySlots policy = .ok slots ∧ Sound slots progress := by
  induction h with
  | start hcreate =>
    obtain ⟨first, rest, hslots, -⟩ := create_ok hcreate
    exact ⟨_, hslots, create_sound hslots hcreate⟩
  | step _ hrecord ih =>
    obtain ⟨slots, hslots, hsound⟩ := ih
    exact ⟨slots, hslots, record_sound hslots hsound hrecord⟩

end FormspecWeb.MultiParty
