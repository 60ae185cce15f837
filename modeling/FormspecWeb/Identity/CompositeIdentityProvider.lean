import FormspecWeb.Async.Steps

/-!
# Several identity providers behind one

What a subscriber of the composite is told, as the wrapped providers replay the claims they hold
and emit later ones.
-/

namespace FormspecWeb.Identity

open Async

inductive AssuranceLevel where
  | L1
  | L2
  | L3
  | L4
deriving DecidableEq

inductive CredentialType where
  | oidcToken
  | verifiableCredential
  | proofOfPersonhood
  | delegationAssertion
  | providerAssertion
  | other
deriving DecidableEq

inductive PersonhoodCheck where
  | passed
  | failed
  | inconclusive
  | notPerformed
deriving DecidableEq

inductive SubjectBinding where
  | respondent
  | subject
  | delegate
  | other
  | unknown
deriving DecidableEq

inductive PrivacyTier where
  | anonymous
  | pseudonymous
  | identified
  | publicTier
deriving DecidableEq

structure NistAssurance where
  ial : Option String
  aal : Option String
  fal : Option String
deriving DecidableEq

structure IdentityClaim where
  provider : String
  adapter : String
  subjectRef : String
  did : Option String
  verificationMethod : Option String
  credentialType : CredentialType
  credentialRef : Option String
  personhoodCheck : Option PersonhoodCheck
  subjectBinding : SubjectBinding
  assuranceLevel : AssuranceLevel
  privacyTier : Option PrivacyTier
  selectiveDisclosureProfile : Option String
  evidenceRef : Option String
  expiresAt : Option String
  nistAssurance : Option NistAssurance
deriving DecidableEq

def nistAssuranceEquivalent : Option NistAssurance → Option NistAssurance → Bool
  | some a, some b => a.ial == b.ial && a.aal == b.aal && a.fal == b.fal
  | none, none => true
  | _, _ => false

def claimEquivalent (a : Option (Option IdentityClaim)) (b : Option IdentityClaim) : Bool :=
  match a, b with
  | none, _ => false
  | some (some a), some b =>
    a.subjectRef == b.subjectRef
      && a.provider == b.provider
      && a.adapter == b.adapter
      && a.credentialType == b.credentialType
      && a.credentialRef == b.credentialRef
      && a.evidenceRef == b.evidenceRef
      && a.expiresAt == b.expiresAt
      && a.did == b.did
      && a.verificationMethod == b.verificationMethod
      && a.personhoodCheck == b.personhoodCheck
      && a.subjectBinding == b.subjectBinding
      && a.privacyTier == b.privacyTier
      && a.selectiveDisclosureProfile == b.selectiveDisclosureProfile
      && a.assuranceLevel == b.assuranceLevel
      && nistAssuranceEquivalent a.nistAssurance b.nistAssurance
  | some a, b => a.isNone && b.isNone

structure Subscription where
  held : List (Option IdentityClaim)
  lastEmitted : Option (Option IdentityClaim)
  /-- What the subscriber was told, newest first. -/
  delivered : List (Option IdentityClaim)
deriving DecidableEq

namespace Subscription

def dedupedListener (s : Subscription) (claim : Option IdentityClaim) : Subscription :=
  if claimEquivalent s.lastEmitted claim then s
  else { s with lastEmitted := some claim, delivered := claim :: s.delivered }

/-- `subscribe(listener)`, where each wrapped provider replays the claim it holds. -/
def subscribe (held : List (Option IdentityClaim)) : Subscription :=
  let s := held.foldl dedupedListener ⟨held, none, []⟩
  if s.lastEmitted.isNone then
    { s with lastEmitted := some none, delivered := none :: s.delivered }
  else s

structure Emission where
  provider : Nat
  claim : Option IdentityClaim

def emit (s : Subscription) (emission : Emission) : Option Subscription :=
  if emission.provider < s.held.length then
    some ({ s with held := s.held.set emission.provider emission.claim }.dedupedListener
      emission.claim)
  else none

/-- The last value delivered is a claim exactly if some wrapped provider holds one, and is then
such a claim. -/
def Tracks (s : Subscription) : Prop :=
  ∃ last, s.delivered.head? = some last
    ∧ (last.isSome = true ↔ ∃ claim, some claim ∈ s.held)
    ∧ ∀ claim, last = some claim → some claim ∈ s.held

theorem nistAssuranceEquivalent_iff {a b : Option NistAssurance} :
    nistAssuranceEquivalent a b = true ↔ a = b := by
  cases a with
  | none => cases b <;> simp [nistAssuranceEquivalent]
  | some a =>
    cases b with
    | none => simp [nistAssuranceEquivalent]
    | some b =>
      obtain ⟨ial, aal, fal⟩ := a
      obtain ⟨ial', aal', fal'⟩ := b
      simp [nistAssuranceEquivalent, and_assoc]

theorem claimEquivalent_iff {a : Option (Option IdentityClaim)} {b : Option IdentityClaim} :
    claimEquivalent a b = true ↔ a = some b := by
  match a, b with
  | none, _ => simp [claimEquivalent]
  | some none, none => simp [claimEquivalent]
  | some none, some _ => simp [claimEquivalent]
  | some (some _), none => simp [claimEquivalent]
  | some (some a), some b =>
    cases a
    cases b
    simp only [claimEquivalent, Bool.and_eq_true, beq_iff_eq, nistAssuranceEquivalent_iff,
      Option.some.injEq, IdentityClaim.mk.injEq]
    constructor
    · rintro ⟨⟨⟨⟨⟨⟨⟨⟨⟨⟨⟨⟨⟨⟨h1, h2⟩, h3⟩, h4⟩, h5⟩, h6⟩, h7⟩, h8⟩, h9⟩, h10⟩, h11⟩, h12⟩, h13⟩, h14⟩, h15⟩
      exact ⟨h2, h3, h1, h8, h9, h4, h5, h10, h11, h14, h12, h13, h6, h7, h15⟩
    · rintro ⟨h2, h3, h1, h8, h9, h4, h5, h10, h11, h14, h12, h13, h6, h7, h15⟩
      exact ⟨⟨⟨⟨⟨⟨⟨⟨⟨⟨⟨⟨⟨⟨h1, h2⟩, h3⟩, h4⟩, h5⟩, h6⟩, h7⟩, h8⟩, h9⟩, h10⟩, h11⟩, h12⟩, h13⟩, h14⟩, h15⟩

def Told (s : Subscription) (claim : Option IdentityClaim) : Prop :=
  s.lastEmitted = some claim ∧ s.delivered.head? = some claim

variable {s : Subscription}

theorem dedupedListener_told (h : ∀ last, s.lastEmitted = some last → s.Told last)
    (claim : Option IdentityClaim) :
    (s.dedupedListener claim).Told claim ∧ (s.dedupedListener claim).held = s.held := by
  unfold dedupedListener
  split
  · exact ⟨h claim (claimEquivalent_iff.mp ‹_›), rfl⟩
  · exact ⟨⟨rfl, rfl⟩, rfl⟩

theorem foldl_told (h : ∀ last, s.lastEmitted = some last → s.Told last)
    (claims : List (Option IdentityClaim)) :
    (claims.foldl dedupedListener s).held = s.held
      ∧ ∀ last, claims.getLast? = some last → (claims.foldl dedupedListener s).Told last := by
  induction claims generalizing s with
  | nil => exact ⟨rfl, fun last hlast => by cases hlast⟩
  | cons claim claims ih =>
    obtain ⟨htold, hheld⟩ := dedupedListener_told h claim
    have hnext : ∀ last, (s.dedupedListener claim).lastEmitted = some last →
        (s.dedupedListener claim).Told last := by
      intro last hlast
      obtain rfl := Option.some.inj (htold.1.symm.trans hlast)
      exact htold
    obtain ⟨hrest, hlast⟩ := ih hnext
    refine ⟨hrest.trans hheld, fun last hfound => ?_⟩
    cases claims with
    | nil =>
      obtain rfl := Option.some.inj hfound
      exact htold
    | cons next claims => exact hlast last (by simpa using hfound)

theorem subscribe_told (held : List (Option IdentityClaim)) :
    (subscribe held).held = held ∧ (subscribe held).Told (held.getLast?.getD none) := by
  have hempty : ∀ last, (⟨held, none, []⟩ : Subscription).lastEmitted = some last →
      (⟨held, none, []⟩ : Subscription).Told last := fun last hlast => by cases hlast
  obtain ⟨hheld, hlast⟩ := foldl_told hempty held
  unfold subscribe
  cases hfound : held.getLast? with
  | none =>
    obtain rfl := List.getLast?_eq_none_iff.mp hfound
    exact ⟨rfl, rfl, rfl⟩
  | some last =>
    have htold := hlast last hfound
    simp only [htold.1, Option.isNone_some, Bool.false_eq_true, if_false]
    exact ⟨hheld, htold⟩

/-! ## When the subscriber is told right -/

/-- A claim that was emitted is held where it comes from; that nothing is held is right only if no
other provider holds a claim. -/
def Right (held : List (Option IdentityClaim)) (claim : Option IdentityClaim) : Prop :=
  claim = none → ∀ other ∈ held, other = none

theorem tracks_iff {claim : Option IdentityClaim} (htold : s.Told claim)
    (hheld : ∀ found, claim = some found → some found ∈ s.held) :
    s.Tracks ↔ Right s.held claim := by
  constructor
  · rintro ⟨last, hlast, hiff, -⟩ hnone other hother
    obtain rfl := Option.some.inj (htold.2.symm.trans hlast)
    cases other with
    | none => rfl
    | some found =>
      rw [hnone] at hiff
      cases hiff.mpr ⟨found, hother⟩
  · intro hright
    refine ⟨claim, htold.2, ?_, hheld⟩
    cases claim with
    | some found => exact iff_of_true rfl ⟨found, hheld found rfl⟩
    | none =>
      refine iff_of_false (by simp) ?_
      rintro ⟨found, hfound⟩
      cases hright rfl _ hfound

def Sound (s : Subscription) : Prop := ∃ claim, s.Told claim

theorem Sound.listener (h : s.Sound) :
    ∀ last, s.lastEmitted = some last → s.Told last := by
  obtain ⟨claim, htold⟩ := h
  intro last hlast
  obtain rfl := Option.some.inj (htold.1.symm.trans hlast)
  exact htold

variable {s next : Subscription}

variable {emission : Emission}

theorem emit_told (h : s.Sound) (hemit : s.emit emission = some next) :
    next.Told emission.claim ∧ next.held = s.held.set emission.provider emission.claim
      ∧ emission.claim ∈ next.held := by
  unfold emit at hemit
  split at hemit
  · rename_i hprovider
    cases hemit
    let held := { s with held := s.held.set emission.provider emission.claim }
    obtain ⟨htold, hheld⟩ := dedupedListener_told (s := held)
      (fun last hlast => h.listener last hlast) emission.claim
    exact ⟨htold, hheld, hheld ▸ List.mem_set hprovider emission.claim⟩
  · cases hemit

def Benign (s : Subscription) (emission : Emission) : Prop :=
  Right (s.held.set emission.provider emission.claim) emission.claim

theorem emit_sound (h : s.Sound) (hemit : s.emit emission = some next) : next.Sound :=
  ⟨emission.claim, (emit_told h hemit).1⟩

theorem emit_tracks_iff (h : s.Sound)
    (hemit : s.emit emission = some next) : next.Tracks ↔ Benign s emission := by
  obtain ⟨htold, hheld, hmem⟩ := emit_told h hemit
  rw [Benign, ← hheld]
  exact tracks_iff htold fun found hfound => hfound ▸ hmem

theorem subscribe_tracks_iff (held : List (Option IdentityClaim)) :
    (subscribe held).Tracks ↔ Right held (held.getLast?.getD none) := by
  obtain ⟨hheld, htold⟩ := subscribe_told held
  refine (tracks_iff htold fun found hfound => ?_).trans (by rw [hheld])
  cases hlast : held.getLast? with
  | none =>
    rw [hlast] at hfound
    cases hfound
  | some last =>
    rw [hlast] at hfound
    obtain rfl : last = some found := hfound
    exact hheld.symm ▸ List.mem_of_getLast? hlast

/-- After subscribing and after every later emission the subscriber is told right, exactly where
the last provider holds a claim or none does at first, and every emission is a claim or leaves no
claim held. -/
theorem subscription_tracks_iff {held : List (Option IdentityClaim)} {emissions : List Emission}
    {states : List Subscription} (h : statesOf emit (subscribe held) emissions = some states) :
    (∀ s ∈ states, s.Tracks)
      ↔ Right held (held.getLast?.getD none) ∧ EveryStep emit Benign (subscribe held) emissions := by
  have hsound : (subscribe held).Sound := ⟨_, (subscribe_told held).2⟩
  have hrun : (subscribe held).Tracks →
      ((∀ s ∈ states, s.Tracks) ↔ EveryStep emit Benign (subscribe held) emissions) := by
    intro htracks
    exact statesOf_good_iff (fun _ _ _ => emit_sound) (fun _ _ _ h _ => emit_tracks_iff h)
      hsound htracks h
  rw [← subscribe_tracks_iff]
  constructor
  · intro hall
    have htracks := hall _ (statesOf_first h)
    exact ⟨htracks, (hrun htracks).mp hall⟩
  · rintro ⟨htracks, hbenign⟩
    exact (hrun htracks).mpr hbenign

def sampleClaim (provider : String) : IdentityClaim where
  provider := provider
  adapter := "oidc"
  subjectRef := "subject:1"
  did := none
  verificationMethod := none
  credentialType := .oidcToken
  credentialRef := none
  personhoodCheck := none
  subjectBinding := .respondent
  assuranceLevel := .L2
  privacyTier := none
  selectiveDisclosureProfile := none
  evidenceRef := none
  expiresAt := none
  nistAssurance := none

theorem subscription_tracks_iff_signed_in :
    ∃ states, statesOf emit (subscribe [none, none])
        [⟨0, some (sampleClaim "login.example")⟩, ⟨0, none⟩] = some states
      ∧ ∀ s ∈ states, s.Tracks := by
  have hrun : ∃ states, statesOf emit (subscribe [none, none])
      [⟨0, some (sampleClaim "login.example")⟩, ⟨0, none⟩] = some states := ⟨_, rfl⟩
  obtain ⟨states, hstates⟩ := hrun
  refine ⟨states, hstates, (subscription_tracks_iff hstates).mpr ⟨fun _ => by decide, ?_⟩⟩
  have hsignedIn : (subscribe [none, none]).emit ⟨0, some (sampleClaim "login.example")⟩
      = some ⟨[some (sampleClaim "login.example"), none],
        some (some (sampleClaim "login.example")), [some (sampleClaim "login.example"), none]⟩ := by
    rfl
  refine everyStep_step hsignedIn nofun ⟨fun _ => by decide, ?_⟩
  exact fun _ _ => trivial

/-- The first provider holds a claim, and the subscriber is told that there is none. -/
theorem claim_hidden_by_null :
    (subscribe [some (sampleClaim "login.example"), none]).delivered.head? = some none
      ∧ ∃ states, statesOf emit (subscribe [some (sampleClaim "login.example"), none]) []
          = some states
        ∧ ¬ ∀ s ∈ states, s.Tracks := by
  refine ⟨by rfl, _, rfl, fun hall => ?_⟩
  obtain ⟨last, hlast, hiff, -⟩ := hall _ List.mem_cons_self
  obtain rfl : last = none := (Option.some.inj hlast).symm
  exact absurd (hiff.mpr ⟨sampleClaim "login.example", List.mem_cons_self⟩) (by simp)

end Subscription

end FormspecWeb.Identity
