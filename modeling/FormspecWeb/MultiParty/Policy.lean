import FormspecWeb.Policy.Resolver

/-!
# Resolved multi-party policies

A multi-party policy as the respondent flow reads it off a resolved profile, and what the
checks of the resolver leave of it.
-/

namespace FormspecWeb.MultiParty

open Shared Policy

structure MultiPartyRolePolicy where
  roleId : String
  label : Option Value
  min : Nat

structure ResolvedMultiPartyPolicy where
  parties : List MultiPartyRolePolicy

def roleOf (party : Value) : Option MultiPartyRolePolicy := do
  let roleId ← (party.get? "roleId").bind (·.text?)
  let min ← ((party.get? "cardinality").bind (·.get? "min")).bind integer?
  return ⟨roleId, party.get? "label", min.toNat⟩

def policyOf (value : Value) : Option ResolvedMultiPartyPolicy := do
  let entries ← (value.get? "parties").bind (·.entries?)
  return ⟨← entries.mapM roleOf⟩

def Accepted (policy : ResolvedMultiPartyPolicy) : Prop :=
  ∃ input profile value, resolveRuntimeFeatures input = .ok profile
    ∧ profile.multiParty = some value ∧ policyOf value = some policy

/-! ## What the checks leave -/

variable {layer : PolicyLayer}

theorem validateMultiPartyCardinality_ok {value : Option Value}
    (h : validateMultiPartyCardinality layer value = .ok ()) :
    ∃ min : Int, (value.bind (·.get? "min")).bind integer? = some min ∧ 1 ≤ min := by
  simp only [validateMultiPartyCardinality, failIf_bind_ok] at h
  obtain ⟨-, hmin, -⟩ := h
  rw [Bool.not_eq_false', Option.any_eq_true] at hmin
  obtain ⟨min, hfound, hpositive⟩ := hmin
  exact ⟨min, hfound, of_decide_eq_true hpositive⟩

theorem validateParty_ok {roleIds after : List String} {party : Value}
    (h : validateParty layer roleIds party = .ok after) :
    ∃ role, roleOf party = some role ∧ after = role.roleId :: roleIds
      ∧ role.roleId ∉ roleIds ∧ role.roleId ≠ "" ∧ 1 ≤ role.min := by
  simp only [validateParty, failIf_bind_ok] at h
  obtain ⟨-, h⟩ := h
  cases htext : (party.get? "roleId").bind (·.nonEmptyString?) with
  | none =>
    rw [htext] at h
    cases h
  | some roleId =>
    rw [htext] at h
    simp only [then_ok] at h
    obtain ⟨hnew, -, -, hcardinality, -, -, hafter⟩ := h
    obtain ⟨min, hmin, hpositive⟩ := validateMultiPartyCardinality_ok hcardinality
    obtain ⟨found, hfound, hnonEmpty⟩ := Option.bind_eq_some_iff.mp htext
    obtain ⟨hread, hnamed⟩ := Value.nonEmptyString_text hnonEmpty
    refine ⟨⟨roleId, party.get? "label", min.toNat⟩, ?_, (Except.ok.inj hafter).symm, ?_,
      hnamed, ?_⟩
    · simp [roleOf, hfound, hread, hmin]
    · simpa using hnew
    · change 1 ≤ min.toNat
      omega

theorem validateParties_ok {roleIds after : List String}
    {parties : List Value} (h : parties.foldlM (validateParty layer) roleIds = .ok after) :
    ∃ roles, parties.mapM roleOf = some roles ∧ roles.length = parties.length
      ∧ (roles.map (·.roleId)).Nodup ∧ (∀ role ∈ roles, role.roleId ∉ roleIds)
      ∧ ∀ role ∈ roles, role.roleId ≠ "" ∧ 1 ≤ role.min := by
  induction parties generalizing roleIds with
  | nil => exact ⟨[], rfl, rfl, List.nodup_nil, by simp, by simp⟩
  | cons party parties ih =>
    rw [List.foldlM_cons, sequence_ok] at h
    obtain ⟨between, hparty, hrest⟩ := h
    obtain ⟨role, hrole, rfl, hnew, hfilled⟩ := validateParty_ok hparty
    obtain ⟨roles, hroles, hlength, hnodup, hapart, hall⟩ := ih hrest
    refine ⟨role :: roles, by simp [hrole, hroles], by simp [hlength], ?_, ?_, ?_⟩
    · refine List.nodup_cons.mpr ⟨fun hmem => ?_, hnodup⟩
      obtain ⟨other, hother, heq⟩ := List.mem_map.mp hmem
      exact hapart other hother (heq ▸ List.mem_cons_self)
    · exact List.forall_mem_cons.mpr
        ⟨hnew, fun other hother hmem => hapart other hother (List.mem_cons_of_mem _ hmem)⟩
    · exact List.forall_mem_cons.mpr ⟨hfilled, hall⟩

theorem withMember_get? {value member : Value} {key other : String} (hne : other ≠ key) :
    (withMember value key member).get? other = value.get? other := by
  cases value with
  | object members =>
    have hkey : (other == key) = false := by simpa using hne
    simp [withMember, Value.get?, Value.members, lookup_spread, List.lookup_cons, hkey]
  | _ => rfl

/-- The roles of a policy have names of their own, need at least one signer each, and are two
or more. -/
structure WellFormed (policy : ResolvedMultiPartyPolicy) : Prop where
  distinct : (policy.parties.map (·.roleId)).Nodup
  named : ∀ party ∈ policy.parties, party.roleId ≠ ""
  positive : ∀ party ∈ policy.parties, 1 ≤ party.min
  several : 2 ≤ policy.parties.length

theorem resolveMultiPartyPolicy_ok {limit : Option Value} {value : Value}
    (h : resolveMultiPartyPolicy limit = .ok value) :
    ∃ policy, policyOf value = some policy ∧ WellFormed policy := by
  simp only [resolveMultiPartyPolicy, then_ok] at h
  obtain ⟨hvalid, h⟩ := h
  cases limit with
  | none => cases h
  | some candidate =>
    cases h
    simp only [validateMultiPartyLimits, failIf_bind_ok] at hvalid
    obtain ⟨-, -, hseveral, hvalid⟩ := hvalid
    obtain ⟨after, hparties, -⟩ := sequence_ok.mp hvalid
    obtain ⟨roles, hroles, hlength, hdistinct, -, hfilled⟩ := validateParties_ok hparties
    have hmany : 2 ≤ roles.length := by
      rw [hlength]
      exact Nat.not_lt.mp (of_decide_eq_false hseveral)
    cases hentries : (candidate.get? "parties").bind (·.entries?) with
    | none => simp [hentries] at hseveral
    | some entries =>
      rw [hentries, Option.getD_some] at hroles
      exact ⟨⟨roles⟩, by simp [policyOf, withMember_get?, hentries, hroles],
        hdistinct, fun role hrole => (hfilled role hrole).1,
        fun role hrole => (hfilled role hrole).2, hmany⟩

theorem resolved_policy {input : ResolveRuntimeFeaturesInput} {profile : ResolvedRuntimeProfile}
    {value : Value} (h : resolveRuntimeFeatures input = .ok profile)
    (hvalue : profile.multiParty = some value) :
    ∃ policy, policyOf value = some policy ∧ WellFormed policy := by
  simp only [resolveRuntimeFeatures, sequence_ok] at h
  obtain ⟨_, -, decisions, -, multiParty, hmultiParty, safeAddress, -, heq⟩ := h
  cases heq
  unfold whenEnabled at hmultiParty
  split at hmultiParty
  · obtain ⟨config, hconfig, hsome⟩ := sequence_ok.mp hmultiParty
    cases hsome
    cases hvalue
    exact resolveMultiPartyPolicy_ok hconfig
  · cases hmultiParty
    cases hvalue

theorem Accepted.wellFormed {policy : ResolvedMultiPartyPolicy} (h : Accepted policy) :
    WellFormed policy := by
  obtain ⟨input, profile, value, hresolved, hvalue, hpolicy⟩ := h
  obtain ⟨found, hfound, hformed⟩ := resolved_policy hresolved hvalue
  obtain rfl := Option.some.inj (hpolicy.symm.trans hfound)
  exact hformed

end FormspecWeb.MultiParty
