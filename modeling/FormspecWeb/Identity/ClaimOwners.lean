import FormspecWeb.Identity.CompositeIdentityProvider
import FormspecWeb.Shared.InsertionMap
import Mathlib.Logic.Function.Basic

/-!
# Who is asked to revoke a claim

The composite remembers, under the subject of a claim, which wrapped provider the claim came from. A
later claim of the same subject takes the place of the earlier one, and a revocation forgets the
subject; without an entry every wrapped provider is asked.
-/

namespace FormspecWeb.Identity

open Async Subscription

inductive MagicLinkChannel where
  | email
  | sms
deriving DecidableEq

inductive IdpOption where
  | magicLink (channel : MagicLinkChannel) (minAssurance : AssuranceLevel)
  | oidc (issuer displayName : String) (minAssurance : AssuranceLevel)
  | anonymous
deriving DecidableEq

def optionKey : IdpOption → String
  | .oidc issuer _ _ => "oidc:" ++ issuer
  | .magicLink .email _ => "magic-link:email"
  | .magicLink .sms _ => "magic-link:sms"
  | .anonymous => "anonymous"

/-- What a call of `authenticate` waits for. -/
inductive AuthenticateCall (Provider : Type) where
  /-- The discovery it started itself, as nothing was discovered before. -/
  | discovering (option : IdpOption)
  | discovered (option : IdpOption)
  | asked (owner : Provider)
  | settled

inductive ClaimEntry (Provider : Type) where
  /-- `authenticate` of this wrapped provider returned the claim. -/
  | issued (claim : IdentityClaim) (owner : Provider)
  /-- The claim, the provider it came from if it was issued here, and the providers whose `revoke`
  was called. -/
  | revoked (claim : IdentityClaim) (issuer : Option Provider) (asked : List Provider)

structure ClaimOwners (Provider : Type) where
  optionOwnerCache : Option (List (String × Provider))
  claimOwnerCache : String → Option Provider
  calls : List (AuthenticateCall Provider)
  /-- The claims that were returned, in their order, with the providers they came from. -/
  issued : List (IdentityClaim × Provider)
  /-- Newest first. -/
  log : List (ClaimEntry Provider)

namespace ClaimOwners

variable {Provider : Type} (providers : List Provider)

def created : ClaimOwners Provider := ⟨none, fun _ => none, [], [], []⟩

def offer (provider : Provider) (cache : List (String × Provider)) (option : IdpOption) :
    List (String × Provider) :=
  if (cache.lookup (optionKey option)).isSome then cache
  else cache ++ [(optionKey option, provider)]

/-- What `discover` caches; a provider whose own `discover` fails offers nothing. -/
def discoveredOwners (offers : List (Option (List IdpOption))) : List (String × Provider) :=
  (providers.zip offers).foldl
    (fun cache entry => (entry.2.getD []).foldl (offer entry.1) cache) []

def discover (s : ClaimOwners Provider) (offers : List (Option (List IdpOption))) :
    ClaimOwners Provider :=
  { s with optionOwnerCache := some (discoveredOwners providers offers) }

/-- `cache?.get(target)`, and what the call does with it. -/
def askOwner (s : ClaimOwners Provider) (option : IdpOption) : AuthenticateCall Provider :=
  match (s.optionOwnerCache.getD []).lookup (optionKey option) with
  | some owner => .asked owner
  | none => .settled

def authenticate (s : ClaimOwners Provider) (option : IdpOption) : ClaimOwners Provider :=
  if s.optionOwnerCache.isSome then { s with calls := s.calls ++ [s.askOwner option] }
  else { s with calls := s.calls ++ [.discovering option] }

def setCall (s : ClaimOwners Provider) (call : Nat) (next : AuthenticateCall Provider) :
    ClaimOwners Provider :=
  { s with calls := s.calls.set call next }

def discovered (s : ClaimOwners Provider) (call : Nat) (offers : List (Option (List IdpOption))) :
    Option (ClaimOwners Provider) := do
  let .discovering option ← s.calls[call]? | none
  return (s.discover providers offers).setCall call (.discovered option)

def resumed (s : ClaimOwners Provider) (call : Nat) : Option (ClaimOwners Provider) := do
  let .discovered option ← s.calls[call]? | none
  return s.setCall call (s.askOwner option)

/-- The provider returns a claim, or throws. -/
def authenticated (s : ClaimOwners Provider) (call : Nat) (claim : Option IdentityClaim) :
    Option (ClaimOwners Provider) := do
  let .asked owner ← s.calls[call]? | none
  match claim with
  | none => return s.setCall call .settled
  | some claim =>
    return { s.setCall call .settled with
      claimOwnerCache := Function.update s.claimOwnerCache claim.subjectRef (some owner)
      issued := s.issued ++ [(claim, owner)]
      log := .issued claim owner :: s.log }

/-- `revoke(claim)`, of a claim that came from the issuer. -/
def revoke (s : ClaimOwners Provider) (claim : IdentityClaim) (issuer : Option Provider) :
    ClaimOwners Provider :=
  match s.claimOwnerCache claim.subjectRef with
  | some owner =>
    { s with
      claimOwnerCache := Function.update s.claimOwnerCache claim.subjectRef none
      log := .revoked claim issuer [owner] :: s.log }
  | none => { s with log := .revoked claim issuer providers :: s.log }

inductive Event where
  | discover (offers : List (Option (List IdpOption)))
  | authenticate (option : IdpOption)
  | discovered (call : Nat) (offers : List (Option (List IdpOption)))
  | resumed (call : Nat)
  | authenticated (call : Nat) (claim : Option IdentityClaim)
  /-- A claim that was returned is revoked, the first of them being number 0. -/
  | revoke (number : Nat)
  | revokeForeign (claim : IdentityClaim)

def step (s : ClaimOwners Provider) : Event → Option (ClaimOwners Provider)
  | .discover offers => some (s.discover providers offers)
  | .authenticate option => some (s.authenticate option)
  | .discovered call offers => s.discovered providers call offers
  | .resumed call => s.resumed call
  | .authenticated call claim => s.authenticated call claim
  | .revoke number => (s.issued[number]?).map fun entry => s.revoke providers entry.1 (some entry.2)
  | .revokeForeign claim => some (s.revoke providers claim none)

def ReachesIssuer : ClaimEntry Provider → Prop
  | .revoked _ (some issuer) asked => issuer ∈ asked ∧ ∀ provider ∈ asked, provider = issuer
  | _ => True

/-- The provider of the last claim of a subject, unless the subject was revoked since. -/
def lastIssuer (subjectRef : String) : List (ClaimEntry Provider) → Option Provider
  | [] => none
  | .issued claim owner :: older =>
    if claim.subjectRef = subjectRef then some owner else lastIssuer subjectRef older
  | .revoked claim _ _ :: older =>
    if claim.subjectRef = subjectRef then none else lastIssuer subjectRef older

/-- The last claim of the subject came from the issuer too, and was not revoked since; or there is no
other provider to ask. -/
def StillOwned (log : List (ClaimEntry Provider)) (claim : IdentityClaim) (issuer : Provider) : Prop :=
  lastIssuer claim.subjectRef log = some issuer
    ∨ lastIssuer claim.subjectRef log = none ∧ ∀ provider ∈ providers, provider = issuer

def RevokesOwned (s : ClaimOwners Provider) : Event → Prop
  | .revoke number => ∀ entry ∈ s.issued[number]?, StillOwned providers s.log entry.1 entry.2
  | _ => True

/-! ## What the caches hold -/

structure Inv (s : ClaimOwners Provider) : Prop where
  cached : ∀ subjectRef, s.claimOwnerCache subjectRef = lastIssuer subjectRef s.log
  option_owner : ∀ key owner, (s.optionOwnerCache.getD []).lookup key = some owner → owner ∈ providers
  asked_owner : ∀ owner, .asked owner ∈ s.calls → owner ∈ providers
  issuer : ∀ entry ∈ s.issued, entry.2 ∈ providers

variable {providers} {s t : ClaimOwners Provider} {call : Nat}

theorem inv_created : Inv providers (created : ClaimOwners Provider) where
  cached := fun _ => rfl
  option_owner := by
    intro key owner h
    cases h
  asked_owner := by
    intro owner h
    cases h
  issuer := by
    intro entry h
    cases h

theorem mem_foldl_offer {provider : Provider} {options : List IdpOption}
    {cache : List (String × Provider)} {entry : String × Provider}
    (h : entry ∈ options.foldl (offer provider) cache) : entry ∈ cache ∨ entry.2 = provider := by
  induction options generalizing cache with
  | nil => exact Or.inl h
  | cons option options ih =>
    rcases ih h with hmem | heq
    · unfold offer at hmem
      split at hmem
      · exact Or.inl hmem
      · rcases List.mem_append.mp hmem with hold | hnew
        · exact Or.inl hold
        · rw [List.mem_singleton.mp hnew]
          exact Or.inr rfl
    · exact Or.inr heq

theorem mem_discoveredOwners {offers : List (Option (List IdpOption))} {entry : String × Provider}
    (h : entry ∈ discoveredOwners providers offers) : entry.2 ∈ providers := by
  suffices hfold : ∀ (pairs : List (Provider × Option (List IdpOption)))
      (cache : List (String × Provider)),
      entry ∈ pairs.foldl (fun cache pair => (pair.2.getD []).foldl (offer pair.1) cache) cache →
        entry ∈ cache ∨ ∃ pair ∈ pairs, entry.2 = pair.1 by
    rcases hfold _ _ h with hnil | ⟨pair, hpair, heq⟩
    · cases hnil
    · rw [heq]
      exact (List.of_mem_zip hpair).1
  intro pairs
  induction pairs with
  | nil => exact fun cache hmem => Or.inl hmem
  | cons pair pairs ih =>
    intro cache hmem
    rcases ih _ hmem with hmem | ⟨found, hfound, heq⟩
    · rcases mem_foldl_offer hmem with hold | heq
      · exact Or.inl hold
      · exact Or.inr ⟨pair, List.mem_cons_self, heq⟩
    · exact Or.inr ⟨found, List.mem_cons_of_mem _ hfound, heq⟩

section

variable (h : Inv providers s)
include h

theorem inv_discover {offers : List (Option (List IdpOption))} :
    Inv providers (s.discover providers offers) :=
  { h with
    option_owner := by
      intro key owner hlookup
      exact mem_discoveredOwners (Shared.mem_of_lookup hlookup) }

theorem inv_calls {calls : List (AuthenticateCall Provider)}
    (hcalls : ∀ owner, .asked owner ∈ calls → owner ∈ providers) :
    Inv providers { s with calls := calls } :=
  { h with asked_owner := hcalls }

theorem askOwner_mem {option : IdpOption} {owner : Provider}
    (hasked : .asked owner = s.askOwner option) : owner ∈ providers := by
  unfold askOwner at hasked
  split at hasked
  · next found hlookup =>
    cases hasked
    exact h.option_owner _ _ hlookup
  · cases hasked

theorem inv_setCall {next : AuthenticateCall Provider}
    (hnext : ∀ owner, .asked owner = next → owner ∈ providers) :
    Inv providers (s.setCall call next) := by
  apply inv_calls h
  intro owner hmem
  rcases List.mem_or_eq_of_mem_set hmem with hmem | heq
  · exact h.asked_owner owner hmem
  · exact hnext owner heq

theorem inv_authenticate {option : IdpOption} :
    Inv providers (s.authenticate option) := by
  unfold authenticate
  split
  · apply inv_calls h
    intro owner hmem
    rcases List.mem_append.mp hmem with hmem | hmem
    · exact h.asked_owner owner hmem
    · exact askOwner_mem h (List.mem_singleton.mp hmem)
  · apply inv_calls h
    intro owner hmem
    rcases List.mem_append.mp hmem with hmem | hmem
    · exact h.asked_owner owner hmem
    · cases List.mem_singleton.mp hmem

theorem inv_authenticated {claim : Option IdentityClaim}
    (hstep : s.authenticated call claim = some t) : Inv providers t := by
  unfold authenticated at hstep
  obtain ⟨stage, hcall, hstep⟩ := Option.bind_eq_some_iff.mp hstep
  cases stage with
  | discovering option => cases hstep
  | discovered option => cases hstep
  | settled => cases hstep
  | asked owner =>
    have howner : owner ∈ providers := h.asked_owner owner (List.mem_of_getElem? hcall)
    have hset : Inv providers (s.setCall call .settled) :=
      inv_setCall h (by intro other heq; cases heq)
    cases claim with
    | none => exact Option.some.inj hstep ▸ hset
    | some claim =>
      cases hstep
      refine ⟨?_, hset.option_owner, hset.asked_owner, ?_⟩
      · intro subjectRef
        show Function.update s.claimOwnerCache claim.subjectRef (some owner) subjectRef
          = if claim.subjectRef = subjectRef then some owner else lastIssuer subjectRef s.log
        by_cases heq : claim.subjectRef = subjectRef
        · rw [if_pos heq, ← heq, Function.update_self]
        · rw [if_neg heq, Function.update_of_ne (Ne.symm heq)]
          exact h.cached subjectRef
      · intro entry hentry
        rcases List.mem_append.mp hentry with hold | hnew
        · exact h.issuer entry hold
        · rw [List.mem_singleton.mp hnew]
          exact howner

theorem inv_revoke {claim : IdentityClaim} {issuer : Option Provider} :
    Inv providers (s.revoke providers claim issuer) := by
  unfold revoke
  split
  · refine { h with cached := ?_ }
    intro subjectRef
    show Function.update s.claimOwnerCache claim.subjectRef none subjectRef
      = if claim.subjectRef = subjectRef then none else lastIssuer subjectRef s.log
    by_cases heq : claim.subjectRef = subjectRef
    · rw [if_pos heq, ← heq, Function.update_self]
    · rw [if_neg heq, Function.update_of_ne (Ne.symm heq)]
      exact h.cached subjectRef
  · next hnone =>
    refine { h with cached := ?_ }
    intro subjectRef
    show s.claimOwnerCache subjectRef
      = if claim.subjectRef = subjectRef then none else lastIssuer subjectRef s.log
    by_cases heq : claim.subjectRef = subjectRef
    · rw [if_pos heq, ← heq]
      exact hnone
    · rw [if_neg heq]
      exact h.cached subjectRef

end

/-! ## Which revocations reach the issuer -/

theorem log_revoke {claim : IdentityClaim} {issuer : Option Provider} (h : Inv providers s) :
    (s.revoke providers claim issuer).log
      = .revoked claim issuer ((lastIssuer claim.subjectRef s.log).elim providers fun owner => [owner])
        :: s.log := by
  rw [← h.cached]
  unfold revoke
  split
  · next owner howner =>
    rw [howner]
    rfl
  · next hnone =>
    rw [hnone]
    rfl

theorem reachesIssuer_iff {claim : IdentityClaim} {issuer : Provider} (hissuer : issuer ∈ providers)
    (log : List (ClaimEntry Provider)) :
    ReachesIssuer (.revoked claim (some issuer)
        ((lastIssuer claim.subjectRef log).elim providers fun owner => [owner]))
      ↔ StillOwned providers log claim issuer := by
  unfold ReachesIssuer StillOwned
  cases lastIssuer claim.subjectRef log with
  | none => simpa using fun _ => hissuer
  | some owner =>
    simp only [Option.elim_some, List.mem_singleton, forall_eq, Option.some.injEq, reduceCtorEq,
      false_and, or_false]
    exact ⟨fun h => h.2, fun h => ⟨h.symm, h⟩⟩

def AllReach (s : ClaimOwners Provider) : Prop := ∀ entry ∈ s.log, ReachesIssuer entry

theorem judged_step {event : Event} (h : Inv providers s) (hstep : s.step providers event = some t) :
    Inv providers t ∧ (s.AllReach → (t.AllReach ↔ RevokesOwned providers s event)) := by
  have hquiet : t.log = s.log → s.AllReach → (t.AllReach ↔ True) := by
    intro hlog hgood
    unfold AllReach
    rw [hlog]
    exact iff_of_true hgood trivial
  cases event with
  | discover offers =>
    cases hstep
    exact ⟨inv_discover h, hquiet rfl⟩
  | authenticate option =>
    cases hstep
    refine ⟨inv_authenticate h, hquiet ?_⟩
    unfold authenticate
    split <;> rfl
  | discovered call offers =>
    obtain ⟨stage, hcall, hstep⟩ := Option.bind_eq_some_iff.mp hstep
    cases stage with
    | discovering option =>
      cases hstep
      exact ⟨inv_setCall (inv_discover h) (by intro owner heq; cases heq), hquiet rfl⟩
    | _ => cases hstep
  | resumed call =>
    obtain ⟨stage, hcall, hstep⟩ := Option.bind_eq_some_iff.mp hstep
    cases stage with
    | discovered option =>
      cases hstep
      exact ⟨inv_setCall h fun owner hasked => askOwner_mem h hasked, hquiet rfl⟩
    | _ => cases hstep
  | authenticated call claim =>
    refine ⟨inv_authenticated h hstep, ?_⟩
    obtain ⟨stage, hcall, hstep⟩ := Option.bind_eq_some_iff.mp hstep
    cases stage with
    | asked owner =>
      cases claim with
      | none =>
        cases hstep
        exact hquiet rfl
      | some claim =>
        cases hstep
        exact fun hgood => iff_of_true (List.forall_mem_cons.mpr ⟨trivial, hgood⟩) trivial
    | _ => cases hstep
  | revoke number =>
    obtain ⟨entry, hentry, rfl⟩ := Option.map_eq_some_iff.mp hstep
    refine ⟨inv_revoke h, fun hgood => ?_⟩
    have hissuer : entry.2 ∈ providers := h.issuer entry (List.mem_of_getElem? hentry)
    have howned : RevokesOwned providers s (.revoke number)
        ↔ StillOwned providers s.log entry.1 entry.2 := by
      show (∀ found ∈ s.issued[number]?, StillOwned providers s.log found.1 found.2) ↔ _
      rw [hentry]
      simp
    unfold AllReach
    rw [howned, log_revoke h, List.forall_mem_cons, reachesIssuer_iff hissuer]
    exact and_iff_left hgood
  | revokeForeign claim =>
    cases hstep
    refine ⟨inv_revoke h, fun hgood => iff_of_true ?_ trivial⟩
    unfold AllReach
    rw [log_revoke h]
    exact List.forall_mem_cons.mpr ⟨trivial, hgood⟩

/-- Every revocation of a claim reaches the provider the claim came from and no other, exactly where
the last claim of its subject came from the same provider and was not revoked, or no other provider is
wrapped. -/
theorem revocations_reach_issuer_iff {events : List Event} {states : List (ClaimOwners Provider)}
    (h : statesOf (step providers) created events = some states) :
    (∀ s ∈ states, s.AllReach) ↔ EveryStep (step providers) (RevokesOwned providers) created events :=
  statesOf_good_iff (fun _ _ _ hs hstep => (judged_step hs hstep).1)
    (fun _ _ _ hs hgood hstep => (judged_step hs hstep).2 hgood) inv_created
    (by intro entry hentry; cases hentry) h

def sampleOffers : List (Option (List IdpOption)) :=
  [some [.oidc "login.example" "Login" .L2], some [.magicLink .email .L2]]

def signedIn : List Event :=
  [.discover sampleOffers, .authenticate (.oidc "login.example" "Login" .L2),
    .authenticated 0 (some (sampleClaim "login.example"))]

theorem revocations_reach_issuer_signedIn :
    ∃ states, statesOf (step ["oidc", "magic-link"]) created (signedIn ++ [.revoke 0]) = some states
      ∧ ∀ s ∈ states, s.AllReach := by
  have hrun : (statesOf (step ["oidc", "magic-link"]) created (signedIn ++ [.revoke 0])).isSome
      = true := by
    rfl
  obtain ⟨states, hstates⟩ := Option.isSome_iff_exists.mp hrun
  refine ⟨states, hstates, (revocations_reach_issuer_iff hstates).mpr ?_⟩
  refine everyStep_step rfl trivial (everyStep_step rfl trivial (everyStep_step rfl trivial ?_))
  refine ⟨?_, fun _ _ => trivial⟩
  intro entry hentry
  cases hentry
  exact Or.inl rfl

/-- The other provider issues a claim of the same subject before the first claim is revoked. -/
def signedInTwice : List Event :=
  signedIn ++ [.authenticate (.magicLink .email .L2),
    .authenticated 1 (some (sampleClaim "mail.example"))]

/-- The provider of the later claim is asked to revoke the earlier one. -/
theorem later_issuer_asked : ¬ ∀ (events : List Event) (states : List (ClaimOwners String)),
    statesOf (step ["oidc", "magic-link"]) created events = some states →
      ∀ s ∈ states, s.AllReach := by
  intro hall
  have hrun : ∃ states, statesOf (step ["oidc", "magic-link"]) created
      (signedInTwice ++ [.revoke 0]) = some states := ⟨_, rfl⟩
  obtain ⟨states, hstates⟩ := hrun
  have hsteps := (revocations_reach_issuer_iff hstates).mp (hall _ states hstates)
  have hlast : ¬ StillOwned ["oidc", "magic-link"]
      [.issued (sampleClaim "mail.example") "magic-link",
        .issued (sampleClaim "login.example") "oidc"] (sampleClaim "login.example") "oidc" := by
    rintro (heq | ⟨heq, -⟩)
    · revert heq
      decide
    · revert heq
      decide
  apply hlast
  exact (((((hsteps.2 _ rfl).2 _ rfl).2 _ rfl).2 _ rfl).2 _ rfl).1 _ rfl

end ClaimOwners

end FormspecWeb.Identity
