import FormspecWeb.MultiParty.Signers

/-!
# The quorum of a multi-party form

When a complete form has the signatures every role requires, each by a subject of its own.
-/

namespace FormspecWeb.MultiParty

open Shared Policy

variable {policy : ResolvedMultiPartyPolicy} {slots : List MultiPartyPartySlot}
  {progress : MultiPartySignerProgress}

theorem complete_ok {complete : Bool} (hslots : requiredMultiPartySlots policy = .ok slots) :
    multiPartyComplete policy progress = .ok complete
      ↔ complete = slots.all fun slot => signed progress.signatures slot.partyRef := by
  simp only [multiPartyComplete, sequence_ok, hslots, Except.ok.injEq, exists_eq_left']
  exact ⟨fun h => (Except.ok.inj h).symm, fun h => congrArg Except.ok h.symm⟩

def signaturesOf (progress : MultiPartySignerProgress) (party : MultiPartyRolePolicy) :
    List MultiPartySignatureRecord :=
  progress.signatures.filter (·.roleId == party.roleId)

theorem signatures_cover_role (hsound : Sound slots progress)
    (hrefs : (slots.map (·.partyRef)).Nodup)
    (hcomplete : ∀ slot ∈ slots, signed progress.signatures slot.partyRef = true)
    (party : MultiPartyRolePolicy) :
    (slots.filter (·.roleId == party.roleId)).length ≤ (signaturesOf progress party).length := by
  have hcovered : ((slots.filter (·.roleId == party.roleId)).map (·.partyRef))
      ⊆ (signaturesOf progress party).map (·.partyRef) := by
    intro ref href
    obtain ⟨slot, hslot, rfl⟩ := List.mem_map.mp href
    obtain ⟨hmem, hrole⟩ := List.mem_filter.mp hslot
    obtain ⟨signature, hsignature, hsame⟩ :=
      List.mem_map.mp (signed_iff.mp (hcomplete slot hmem))
    obtain ⟨other, hother, hparty, hroleId⟩ := hsound.ofSlots signature hsignature
    -- the slot the signature is of has the same reference, and so is this slot
    obtain rfl := List.inj_on_of_nodup_map hrefs hother hmem (hparty.trans hsame)
    exact List.mem_map.mpr ⟨signature,
      List.mem_filter.mpr ⟨hsignature, hroleId ▸ hrole⟩, hsame⟩
  have hdistinct : ((slots.filter (·.roleId == party.roleId)).map (·.partyRef)).Nodup :=
    hrefs.sublist (List.filter_sublist.map _)
  simpa using (hdistinct.subperm hcovered).length_le

/-- The law of the quorum: the required slots have references of their own, as many for each
role as it needs signers, and every run that completes the form has collected as many signatures
in each role, all by different subjects. -/
structure QuorumLaw (policy : ResolvedMultiPartyPolicy) : Prop where
  yields : ∃ slots, requiredMultiPartySlots policy = .ok slots
    ∧ (slots.map (·.partyRef)).Nodup
    ∧ (∀ slot ∈ slots, ∃ party ∈ policy.parties, party.roleId = slot.roleId)
    ∧ ∀ party ∈ policy.parties,
      (slots.filter (·.roleId == party.roleId)).length = party.min
  collects : ∀ progress, Reachable policy progress →
    multiPartyComplete policy progress = .ok true →
    (progress.signatures.map (·.subjectRef)).Nodup
      ∧ ∀ party ∈ policy.parties, party.min ≤ (signaturesOf progress party).length

theorem slots_length {party : MultiPartyRolePolicy} (h : WellFormed policy)
    (hparty : party ∈ policy.parties) :
    ((policy.parties.flatMap slotsOf).filter (·.roleId == party.roleId)).length = party.min := by
  rw [slots_of_role h.distinct hparty, slotsOf, List.length_map, List.length_range]

/-- An accepted policy keeps the law exactly where no role that needs one signer is named like a
slot of a role that needs several, and no role needs more signers than an array can hold. -/
theorem quorum_iff (haccepted : Accepted policy) :
    QuorumLaw policy ↔ Unambiguous policy ∧ Enumerable policy := by
  have hformed := haccepted.wellFormed
  constructor
  · intro hlaw
    obtain ⟨slots, hslots, hrefs, -, -⟩ := hlaw.yields
    obtain ⟨henumerable, rfl⟩ := requiredMultiPartySlots_ok.mp hslots
    exact ⟨(slotRefs_nodup_iff hformed).mp hrefs, henumerable⟩
  · rintro ⟨hunambiguous, henumerable⟩
    have hrefs := (slotRefs_nodup_iff hformed).mpr hunambiguous
    refine ⟨⟨_, requiredMultiPartySlots_ok.mpr ⟨henumerable, rfl⟩, hrefs, ?_, ?_⟩, ?_⟩
    · intro slot hslot
      obtain ⟨party, hparty, hof⟩ := List.mem_flatMap.mp hslot
      obtain ⟨index, -, rfl⟩ := mem_slotsOf.mp hof
      exact ⟨party, hparty, rfl⟩
    · exact fun party hparty => slots_length hformed hparty
    · intro progress hreachable hcomplete
      obtain ⟨slots, hslots, hsound⟩ := reachable_sound hreachable
      obtain ⟨-, rfl⟩ := requiredMultiPartySlots_ok.mp hslots
      have hall := List.all_eq_true.mp ((complete_ok hslots).mp hcomplete).symm
      refine ⟨hsound.subjects, fun party hparty => ?_⟩
      rw [← slots_length hformed hparty]
      exact signatures_cover_role hsound hrefs hall party

/-! ## Two policies -/

def signingParty (roleId : String) (min : Nat) : Value :=
  .object [("roleId", .string roleId), ("role", .string "coEqual"),
    ("visibilityScope", .string "shared"),
    ("cardinality", .object [("min", .number min), ("max", .string "unbounded")])]

def signingInput (parties : List Value) : ResolveRuntimeFeaturesInput where
  mode := .production
  instanceCapabilities := fun
    | .multiParty => .available
    | _ => .unavailable
  org := ⟨[], fun _ => none, none⟩
  form := ⟨[("multiParty", some .required)],
    fun
    | .multiParty => some (.object [("tier", .string "coEqual"), ("parties", .array parties)])
    | _ => none,
    none⟩
  urlOrigin := fun _ => none

def signingPolicy (parties : List Value) : Option ResolvedMultiPartyPolicy :=
  ((resolveRuntimeFeatures (signingInput parties)).toOption.bind (·.multiParty)).bind policyOf

theorem signingPolicy_accepted {parties : List Value}
    (h : signingPolicy parties = some policy) : Accepted policy := by
  obtain ⟨value, hvalue, hpolicy⟩ := Option.bind_eq_some_iff.mp h
  obtain ⟨profile, hprofile, hmultiParty⟩ := Option.bind_eq_some_iff.mp hvalue
  refine ⟨signingInput parties, profile, value, ?_, hmultiParty, hpolicy⟩
  cases hresolved : resolveRuntimeFeatures (signingInput parties) with
  | error e =>
    rw [hresolved] at hprofile
    cases hprofile
  | ok found =>
    rw [hresolved] at hprofile
    exact congrArg _ (Option.some.inj hprofile)

def leasePolicy : ResolvedMultiPartyPolicy where
  parties := [⟨"landlord", none, 2⟩, ⟨"tenant", none, 1⟩]

theorem leasePolicy_accepted : Accepted leasePolicy := by
  have hresolved :
      signingPolicy [signingParty "landlord" 2, signingParty "tenant" 1] = some leasePolicy := by rfl
  exact signingPolicy_accepted hresolved

theorem quorum_iff_lease : QuorumLaw leasePolicy :=
  (quorum_iff leasePolicy_accepted).mpr ⟨by decide +kernel, by decide⟩

/-- Two signers of one role, and one signer of a role that is named like the second of them. -/
def sharedRefPolicy : ResolvedMultiPartyPolicy where
  parties := [⟨"signer", none, 2⟩, ⟨"signer:2", none, 1⟩]

theorem sharedRefPolicy_accepted : Accepted sharedRefPolicy := by
  have hresolved : signingPolicy [signingParty "signer" 2, signingParty "signer:2" 1]
      = some sharedRefPolicy := by rfl
  exact signingPolicy_accepted hresolved

def plainResponse : FormResponse where
  value := .object [("$formspecResponse", .string "1.0")]
  isObject := rfl
  version := rfl

def signerInput (subjectRef : String) : SignerInput where
  claim := some ⟨subjectRef⟩
  idempotencyKey := "key"
  response := plainResponse
  responseHash := .ok "sha256:00"
  now := "2024-01-01T00:00:00.000Z"

def signAll (policy : ResolvedMultiPartyPolicy) (subjects : List String) :
    Except Failure MultiPartySignerProgress := do
  subjects.foldlM (fun progress subject => recordMultiPartySigner policy (signerInput subject) progress)
    (← createMultiPartySignerProgress policy)

theorem signAll_reachable {subjects : List String} (h : signAll policy subjects = .ok progress) :
    Reachable policy progress := by
  rw [signAll, sequence_ok] at h
  obtain ⟨first, hfirst, h⟩ := h
  have hreachable : Reachable policy first := .start hfirst
  clear hfirst
  induction subjects generalizing first with
  | nil => exact Except.ok.inj h ▸ hreachable
  | cons subject subjects ih =>
    rw [List.foldlM_cons] at h
    obtain ⟨next, hnext, hrest⟩ := sequence_ok.mp h
    exact ih next hrest (.step hreachable hnext)

/-- Two signers complete the form, and no one has signed in the other role. -/
theorem quorum_missed_sharedRef :
    Accepted sharedRefPolicy ∧ (∃ progress, Reachable sharedRefPolicy progress
        ∧ multiPartyComplete sharedRefPolicy progress = .ok true
        ∧ signaturesOf progress ⟨"signer:2", none, 1⟩ = [])
      ∧ ¬ QuorumLaw sharedRefPolicy := by
  have hrun : ∃ progress, signAll sharedRefPolicy ["ana", "ben"] = .ok progress
      ∧ multiPartyComplete sharedRefPolicy progress = .ok true
      ∧ signaturesOf progress ⟨"signer:2", none, 1⟩ = [] := ⟨_, rfl, rfl, rfl⟩
  obtain ⟨progress, hsigned, hcomplete, hnone⟩ := hrun
  have hreachable := signAll_reachable hsigned
  refine ⟨sharedRefPolicy_accepted, ⟨progress, hreachable, hcomplete, hnone⟩, fun hlaw => ?_⟩
  have hcount := (hlaw.collects progress hreachable hcomplete).2 ⟨"signer:2", none, 1⟩
    (List.mem_cons_of_mem _ List.mem_cons_self)
  rw [hnone] at hcount
  exact absurd hcount (by decide)

end FormspecWeb.MultiParty
