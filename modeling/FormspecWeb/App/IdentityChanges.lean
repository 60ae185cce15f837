import FormspecWeb.Async.History
import FormspecWeb.DraftStore.BindingRegistry
import FormspecWeb.Identity.CompositeIdentityProvider
import FormspecWeb.MultiParty.Draft

/-!
# Identity changes of a mounted form

The claims a respondent runtime is told of once it has booted, the invalidations of drafts and the
form loads they start, and the clearing of a form that leaves the claims unheeded while it lasts.
-/

namespace FormspecWeb.App

open Shared Async Identity DraftStore
open MultiParty (FormDefinition MultiPartyPersistedState ResolvedMultiPartyPolicy)

structure MountConfig where
  /-- `composition.mode === 'production'`. -/
  production : Bool
  /-- `config.identity.mode === 'oidc-required'`. -/
  oidcRequired : Bool

abbrev Claim := Option Identity.IdentityClaim

/-- `claim?.subjectRef`. -/
def subjectOf (claim : Claim) : Option String := claim.map (·.subjectRef)

def identityClaimAllowedForPolicy (config : MountConfig) (claim : Claim) : Bool :=
  !config.production || !config.oidcRequired || claim.any (·.credentialType == .oidcToken)

/-- The check of `assertIdentityPolicySatisfied`. -/
def identityPolicySatisfied (config : MountConfig) (claim : Claim) : Bool :=
  !(config.production && config.oidcRequired && claim.isNone)

def assuranceRank : AssuranceLevel → Nat
  | .L1 => 1
  | .L2 => 2
  | .L3 => 3
  | .L4 => 4

def identityClaimMeetsAssurance (claim : Claim) : Option AssuranceLevel → Bool
  | none => true
  | some required => claim.any fun claim => assuranceRank required ≤ assuranceRank claim.assuranceLevel

def subjectRefInvalidatedByIdentityChange (previous next : Claim) : Option String :=
  match subjectOf previous with
  | none => none
  | some subjectRef =>
    if !truthy subjectRef || subjectOf next == some subjectRef then none else some subjectRef

def identitySubjectChanged (previous next : Claim) : Bool := subjectOf previous != subjectOf next

/-! ## The respondent state -/

/-- A multi-party configuration of the profile, with what its policy is read as. -/
structure MultiPartyConfig where
  tier : Value
  invitationChannel : Value
  parties : Value
  policy : ResolvedMultiPartyPolicy

structure ReadyForm where
  definition : FormDefinition
  draftSubjectRef : Option String
  claim : Claim
  multiParty : Option (MultiPartyConfig × MultiPartyPersistedState)

/-- `{ formUrl: definition.url, formVersion: definition.version, subjectRef: claim?.subjectRef }`, of
the claim the form was loaded with. -/
def ReadyForm.draftKey (form : ReadyForm) : DraftKey :=
  ⟨form.definition.url, some form.definition.version, form.draftSubjectRef, none⟩

inductive RespondentState where
  | loading
  | initialSignIn
  | ready (form : ReadyForm)
  | authRequired (claim : Claim) (assuranceFloor : Option AssuranceLevel)
  | draftConflict (claim : Claim)
  | submitted (claim : Claim)
  | terminalCleared
  | error

def RespondentState.loadedFor : RespondentState → Option (Option String)
  | .loading => none
  | .initialSignIn => some none
  | .ready form => some form.draftSubjectRef
  | .authRequired claim _ => some (subjectOf claim)
  | .draftConflict claim => some (subjectOf claim)
  | .submitted claim => some (subjectOf claim)
  | .terminalCleared => none
  | .error => none

/-- `{ ...current, claim }` of a state that is ready. -/
def RespondentState.withClaim (claim : Claim) : RespondentState → RespondentState
  | .ready form => .ready { form with claim := claim }
  | state => state

/-- How the rest of `createReadyState` ends. -/
inductive LoadOutcome where
  | ready (definition : FormDefinition) (multiParty : Option (MultiPartyConfig × MultiPartyPersistedState))
  | authRequired (assuranceFloor : Option AssuranceLevel)
  | draftConflict
  | submitted
  | failed

def createReadyState (config : MountConfig) (claim : Claim) (outcome : LoadOutcome) : RespondentState :=
  if identityPolicySatisfied config claim then
    match outcome with
    | .ready definition multiParty => .ready ⟨definition, subjectOf claim, claim, multiParty⟩
    | .authRequired assuranceFloor => .authRequired claim assuranceFloor
    | .draftConflict => .draftConflict claim
    | .submitted => .submitted claim
    | .failed => .error
  else .error

def RespondentState.pendingFloor : RespondentState → Option AssuranceLevel
  | .authRequired _ assuranceFloor => assuranceFloor
  | _ => none

/-- What is deleted: the draft, to start the form again, or all a terminal left on the computer. -/
inductive Clearing where
  | restart
  | terminal
deriving DecidableEq

structure Mounted where
  activeClaim : Claim
  pendingAssuranceFloor : Option AssuranceLevel
  respondentState : RespondentState
  reloadSequence : Nat
  /-- The calls of `applyReadyState` that wait for their load, each with its sequence. -/
  loads : List (Option (Nat × Claim))
  /-- The draft invalidations that are pending, each with the claim that was emitted. -/
  invalidations : List (Option Claim)
  terminalClearRequested : Bool
  clearing : Option Clearing
  /-- The last claim that was emitted and allowed, or that of the boot. -/
  lastClaim : Claim

namespace Mounted

variable (config : MountConfig)

def applyReadyState (s : Mounted) (claim : Claim) : Mounted :=
  { s with
    reloadSequence := s.reloadSequence + 1
    respondentState := .loading
    loads := s.loads ++ [some (s.reloadSequence + 1, claim)] }

/-- A state that was loaded is installed; after an error the claims stay as they were. -/
def install (s : Mounted) (claim : Claim) : RespondentState → Mounted
  | .error => { s with respondentState := .error }
  | loaded =>
    { s with
      activeClaim := claim
      pendingAssuranceFloor := loaded.pendingFloor
      respondentState := loaded }

/-- The load of a call ends; it is discarded where a later call took its place. -/
def loaded (s : Mounted) (call : Nat) (outcome : LoadOutcome) : Option Mounted := do
  let some (sequence, claim) ← s.loads[call]? | none
  let done := { s with loads := s.loads.set call none }
  return if sequence = s.reloadSequence then done.install claim (createReadyState config claim outcome)
  else done

/-- How the boot ended: with a form loaded for its claim, or with options to sign in. -/
inductive Boot where
  | loaded (claim : Claim) (outcome : LoadOutcome)
  | signIn

def bootLoad (claim : Claim) : Mounted := ⟨none, none, .loading, 1, [], [], false, none, claim⟩

def booted : Boot → Mounted
  | .loaded claim outcome =>
    let loaded := (bootLoad claim).install claim (createReadyState config claim outcome)
    { loaded with activeClaim := claim }
  | .signIn => ⟨none, none, .initialSignIn, 0, [], [], false, none, none⟩

def nextClaim (received : Claim) : Claim :=
  if identityClaimAllowedForPolicy config received then received else none

def assuranceStepUpSatisfied (s : Mounted) (next : Claim) : Bool :=
  s.pendingAssuranceFloor.isSome
    && identityClaimMeetsAssurance next s.pendingAssuranceFloor
    && !identityClaimMeetsAssurance s.activeClaim s.pendingAssuranceFloor

def takenForChange (s : Mounted) (next : Claim) : Bool :=
  identitySubjectChanged s.activeClaim next || s.assuranceStepUpSatisfied next

def emitted (s : Mounted) (received : Claim) : Mounted :=
  let next := nextClaim config received
  let told := { s with lastClaim := next }
  if s.terminalClearRequested then { told with activeClaim := next }
  else if !s.takenForChange next then
    { told with activeClaim := next, respondentState := s.respondentState.withClaim next }
  else
    match subjectRefInvalidatedByIdentityChange s.activeClaim next with
    | some _ => { told with invalidations := s.invalidations ++ [some next] }
    | none => told.applyReadyState next

/-- `invalidateSubject` resolves, or rejects. -/
def invalidated (s : Mounted) (call : Nat) (resolved : Bool) : Option Mounted := do
  let some next ← s.invalidations[call]? | none
  let done := { s with invalidations := s.invalidations.set call none }
  return if resolved then done.applyReadyState next else { done with respondentState := .error }

def mayClear : Clearing → RespondentState → Bool
  | .restart, .ready _ => true
  | .restart, .draftConflict _ => true
  | .terminal, .ready _ => true
  | _, _ => false

/-- `handleStartCurrent` and `handleClearTerminal` up to their deletions. -/
def requestClear (s : Mounted) (clearing : Clearing) : Option Mounted :=
  if s.terminalClearRequested || !mayClear clearing s.respondentState then none
  else some { s with terminalClearRequested := true, clearing := some clearing }

/-- The deletions of a clearing end. A restart that succeeds mounts the form anew, which ends the
run. -/
def cleared (s : Mounted) (resolved : Bool) : Option Mounted :=
  match s.clearing, resolved with
  | some _, false => some { s with terminalClearRequested := false, clearing := none }
  | some .terminal, true => some { s with respondentState := .terminalCleared, clearing := none }
  | _, _ => none

/-- `setMultiPartyState` of a signer that was recorded. -/
def signerRecorded (s : Mounted) (completed : MultiPartyPersistedState) : Option Mounted :=
  match s.respondentState with
  | .ready form =>
    let multiParty := form.multiParty.map fun party => (party.1, completed)
    some { s with respondentState := .ready { form with multiParty := multiParty } }
  | _ => none

inductive Event where
  | emitted (received : Claim)
  | invalidated (call : Nat) (resolved : Bool)
  | loaded (call : Nat) (outcome : LoadOutcome)
  | requestClear (clearing : Clearing)
  | cleared (resolved : Bool)
  | signerRecorded (completed : MultiPartyPersistedState)

def step (s : Mounted) : Event → Option Mounted
  | .emitted received => some (s.emitted config received)
  | .invalidated call resolved => s.invalidated call resolved
  | .loaded call outcome => s.loaded config call outcome
  | .requestClear clearing => s.requestClear clearing
  | .cleared resolved => s.cleared resolved
  | .signerRecorded completed => s.signerRecorded completed

def Current (s : Mounted) (claim : Claim) : Prop := some (s.reloadSequence, claim) ∈ s.loads

def Quiescent (s : Mounted) : Prop :=
  (∀ entry ∈ s.invalidations, entry = none) ∧ ∀ entry ∈ s.loads, entry = none

def ShowsLastClaim (s : Mounted) : Prop :=
  s.respondentState = .error ∨ s.respondentState.loadedFor = some (subjectOf s.lastClaim)

/-- A state that becomes the respondent's was loaded for the subject of the last claim. -/
def LoadsLastClaim (s : Mounted) : Event → Prop
  | .loaded call outcome =>
    ∀ claim, s.loads[call]? = some (some (s.reloadSequence, claim)) →
      createReadyState config claim outcome = .error ∨ subjectOf claim = subjectOf s.lastClaim
  | _ => True

/-- A form can be loaded with the claim, for another subject than that of a claim. -/
def OtherSubject (other next : Claim) : Prop :=
  identityPolicySatisfied config other = true ∧ subjectOf other ≠ subjectOf next

/-- The reload of a claim takes the place of a load at once, as no draft is to be invalidated. -/
def ReloadsAtOnce (s : Mounted) (next : Claim) : Prop :=
  s.takenForChange next = true ∧ subjectRefInvalidatedByIdentityChange s.activeClaim next = none

/-- While an invalidation is pending, or a load that is not replaced at once, no claim is emitted that
names another subject than it is for. -/
def Unhurried (s : Mounted) : Event → Prop
  | .emitted received =>
    (∀ target, some target ∈ s.invalidations → ¬OtherSubject config target (nextClaim config received))
      ∧ (s.ReloadsAtOnce (nextClaim config received)
        ∨ ∀ claim, s.Current claim → ¬OtherSubject config claim (nextClaim config received))
  | _ => True

def Event.ClearsNothing : Event → Prop
  | .requestClear _ => False
  | _ => True

/-! ## What is under way is for the last claim -/

structure Converging (s : Mounted) : Prop where
  unclear : s.terminalClearRequested = false
  unrequested : s.clearing = none
  invalidating : ∀ target, some target ∈ s.invalidations → ¬OtherSubject config target s.lastClaim
  loading : ∀ claim, s.Current claim → ¬OtherSubject config claim s.lastClaim
  bounded : ∀ sequence claim, some (sequence, claim) ∈ s.loads → sequence ≤ s.reloadSequence
  /-- With nothing under way the last claim is active, and its form is shown. -/
  idle : (∀ target, some target ∉ s.invalidations) → (∀ claim, ¬s.Current claim) →
    s.respondentState = .error ∨ s.respondentState.loadedFor = some (subjectOf s.lastClaim)
      ∧ subjectOf s.activeClaim = subjectOf s.lastClaim

variable {config} {s t : Mounted} {claim : Claim}

theorem loadedFor_withClaim (state : RespondentState) (claim : Claim) :
    (state.withClaim claim).loadedFor = state.loadedFor := by
  cases state <;> rfl

theorem withClaim_error {state : RespondentState} (h : state = .error) (claim : Claim) :
    state.withClaim claim = .error := by
  rw [h]
  rfl

theorem loadedFor_createReadyState {outcome : LoadOutcome}
    (h : createReadyState config claim outcome ≠ .error) :
    (createReadyState config claim outcome).loadedFor = some (subjectOf claim)
      ∧ identityPolicySatisfied config claim = true := by
  unfold createReadyState at h ⊢
  by_cases hpolicy : identityPolicySatisfied config claim = true
  · rw [if_pos hpolicy] at h ⊢
    refine ⟨?_, hpolicy⟩
    cases outcome with
    | failed => exact absurd rfl h
    | ready definition multiParty => rfl
    | authRequired assuranceFloor => rfl
    | draftConflict => rfl
    | submitted => rfl
  · rw [if_neg hpolicy] at h
    exact absurd rfl h

theorem install_error (s : Mounted) (claim : Claim) :
    s.install claim .error = { s with respondentState := .error } := rfl

theorem install_loaded {state : RespondentState} (h : state ≠ .error) (s : Mounted) (claim : Claim) :
    s.install claim state =
      { s with
        activeClaim := claim
        pendingAssuranceFloor := state.pendingFloor
        respondentState := state } := by
  cases state with
  | error => exact absurd rfl h
  | _ => rfl

theorem subject_eq_of_not_other {other next : Claim} (h : ¬OtherSubject config other next)
    (hpolicy : identityPolicySatisfied config other = true) : subjectOf other = subjectOf next := by
  by_contra hne
  exact h ⟨hpolicy, hne⟩

theorem not_other_of_eq {other next : Claim} (h : subjectOf other = subjectOf next) :
    ¬OtherSubject config other next := fun hother => hother.2 h

theorem converging_booted (boot : Boot) : Converging config (booted config boot) := by
  cases boot with
  | signIn =>
    refine ⟨rfl, rfl, ?_, ?_, ?_, ?_⟩
    · intro target hmem
      cases hmem
    · intro claim hmem
      cases hmem
    · intro sequence claim hmem
      cases hmem
    · intro _ _
      exact Or.inr ⟨rfl, rfl⟩
  | loaded claim outcome =>
    unfold booted
    dsimp only
    by_cases herror : createReadyState config claim outcome = .error
    · rw [herror, install_error]
      refine ⟨rfl, rfl, ?_, ?_, ?_, ?_⟩
      · intro target hmem
        cases hmem
      · intro other hmem
        cases hmem
      · intro sequence other hmem
        cases hmem
      · intro _ _
        exact Or.inl rfl
    · rw [install_loaded herror]
      refine ⟨rfl, rfl, ?_, ?_, ?_, ?_⟩
      · intro target hmem
        cases hmem
      · intro other hmem
        cases hmem
      · intro sequence other hmem
        cases hmem
      · intro _ _
        exact Or.inr ⟨(loadedFor_createReadyState herror).1, rfl⟩

theorem converging_applyReadyState (hunclear : s.terminalClearRequested = false)
    (hunrequested : s.clearing = none)
    (hinvalidating : ∀ target, some target ∈ s.invalidations → ¬OtherSubject config target s.lastClaim)
    (hbounded : ∀ sequence claim, some (sequence, claim) ∈ s.loads → sequence ≤ s.reloadSequence)
    (hclaim : ¬OtherSubject config claim s.lastClaim) :
    Converging config (s.applyReadyState claim) := by
  have hmem : ∀ sequence other, some (sequence, other) ∈ (s.applyReadyState claim).loads →
      sequence ≤ s.reloadSequence ∨ sequence = s.reloadSequence + 1 ∧ other = claim := by
    intro sequence other hload
    rcases List.mem_append.mp hload with hold | hnew
    · exact Or.inl (hbounded sequence other hold)
    · obtain ⟨rfl, rfl⟩ := Prod.mk.inj (Option.some.inj (List.mem_singleton.mp hnew))
      exact Or.inr ⟨rfl, rfl⟩
  refine ⟨hunclear, hunrequested, hinvalidating, ?_, ?_, ?_⟩
  · intro other hcurrent
    rcases hmem _ other hcurrent with hle | ⟨-, rfl⟩
    · exact absurd hle (Nat.not_succ_le_self s.reloadSequence)
    · exact hclaim
  · intro sequence other hload
    show sequence ≤ s.reloadSequence + 1
    rcases hmem sequence other hload with hle | ⟨rfl, -⟩
    · omega
    · omega
  · intro _ hnone
    exact absurd (List.mem_append_right _ (List.mem_singleton.mpr rfl)) (hnone claim)

theorem converging_emitted (h : Converging config s) {received : Claim}
    (hcalm : s.Unhurried config (.emitted received)) : Converging config (s.emitted config received) := by
  obtain ⟨htargets, hloads⟩ := hcalm
  unfold emitted
  dsimp only
  rw [if_neg (Bool.eq_false_iff.mp h.unclear)]
  by_cases hchange : s.takenForChange (nextClaim config received) = true
  · rw [hchange, Bool.not_true, if_neg Bool.false_ne_true]
    cases hsubject : subjectRefInvalidatedByIdentityChange s.activeClaim (nextClaim config received) with
    | none =>
      exact converging_applyReadyState h.unclear h.unrequested htargets h.bounded (not_other_of_eq rfl)
    | some subjectRef =>
      refine ⟨h.unclear, h.unrequested, ?_, ?_, h.bounded, ?_⟩
      · intro target hmem
        rcases List.mem_append.mp hmem with hold | hnew
        · exact htargets target hold
        · obtain rfl := Option.some.inj (List.mem_singleton.mp hnew)
          exact not_other_of_eq rfl
      · rcases hloads with ⟨-, hnone⟩ | hloads
        · rw [hsubject] at hnone
          cases hnone
        · exact hloads
      · intro hnone _
        exact absurd (List.mem_append_right _ (List.mem_singleton.mpr rfl))
          (hnone (nextClaim config received))
  · have hsame : subjectOf s.activeClaim = subjectOf (nextClaim config received) := by
      by_contra hne
      refine hchange ?_
      rw [takenForChange, identitySubjectChanged, bne_iff_ne.mpr hne]
      rfl
    rw [Bool.eq_false_iff.mpr hchange, Bool.not_false, if_pos rfl]
    refine ⟨h.unclear, h.unrequested, htargets, ?_, h.bounded, ?_⟩
    · rcases hloads with ⟨htrue, -⟩ | hloads
      · exact absurd htrue hchange
      · exact hloads
    · intro hnoTarget hnoLoad
      rcases h.idle hnoTarget hnoLoad with herror | ⟨hshown, hactive⟩
      · exact Or.inl (withClaim_error herror _)
      · refine Or.inr ⟨?_, rfl⟩
        rw [loadedFor_withClaim, hshown, ← hactive, hsame]

theorem mem_of_mem_set_none {α : Type} {entries : List (Option α)} {call : Nat} {entry : α}
    (h : some entry ∈ entries.set call none) : some entry ∈ entries := by
  rcases List.mem_or_eq_of_mem_set h with hmem | heq
  · exact hmem
  · cases heq

theorem mem_set_none {α : Type} {entries : List (Option α)} {call : Nat} {entry other : α}
    (hcall : entries[call]? = some (some other)) (h : some entry ∈ entries) (hne : entry ≠ other) :
    some entry ∈ entries.set call none := by
  obtain ⟨index, hindex⟩ := List.mem_iff_getElem?.mp h
  have hother : call ≠ index := by
    rintro rfl
    rw [hcall] at hindex
    exact hne (Option.some.inj (Option.some.inj hindex)).symm
  apply List.mem_iff_getElem?.mpr
  exact ⟨index, by rw [List.getElem?_set_ne hother, hindex]⟩

section

variable (h : Converging config s)
include h

theorem converging_invalidated {call : Nat} {resolved : Bool}
    (hstep : s.invalidated call resolved = some t) : Converging config t := by
  obtain ⟨entry, hcall, hstep⟩ := Option.bind_eq_some_iff.mp hstep
  cases entry with
  | none => cases hstep
  | some next =>
    have hnext : ¬OtherSubject config next s.lastClaim := h.invalidating next (List.mem_of_getElem? hcall)
    have hrest : ∀ target, some target ∈ s.invalidations.set call none →
        ¬OtherSubject config target s.lastClaim := by
      intro target hmem
      exact h.invalidating target (mem_of_mem_set_none hmem)
    cases hstep
    cases resolved with
    | true => exact converging_applyReadyState h.unclear h.unrequested hrest h.bounded hnext
    | false => exact ⟨h.unclear, h.unrequested, hrest, h.loading, h.bounded, fun _ _ => Or.inl rfl⟩

theorem converging_loaded {call : Nat} {outcome : LoadOutcome}
    (hstep : s.loaded config call outcome = some t) : Converging config t := by
  obtain ⟨entry, hcall, hstep⟩ := Option.bind_eq_some_iff.mp hstep
  cases entry with
  | none => cases hstep
  | some load =>
    obtain ⟨sequence, claim⟩ := load
    cases hstep
    have hloads : ∀ other, some (s.reloadSequence, other) ∈ s.loads.set call none →
        ¬OtherSubject config other s.lastClaim := by
      intro other hmem
      exact h.loading other (mem_of_mem_set_none hmem)
    have hbounded : ∀ number other, some (number, other) ∈ s.loads.set call none →
        number ≤ s.reloadSequence := by
      intro number other hmem
      exact h.bounded number other (mem_of_mem_set_none hmem)
    by_cases hcurrent : sequence = s.reloadSequence
    · rw [if_pos hcurrent]
      have hclaim : ¬OtherSubject config claim s.lastClaim := by
        apply h.loading
        rw [Current, ← hcurrent]
        exact List.mem_of_getElem? hcall
      by_cases herror : createReadyState config claim outcome = .error
      · rw [herror, install_error]
        exact ⟨h.unclear, h.unrequested, h.invalidating, hloads, hbounded, fun _ _ => Or.inl rfl⟩
      · obtain ⟨hshown, hpolicy⟩ := loadedFor_createReadyState herror
        have hsubject := subject_eq_of_not_other hclaim hpolicy
        rw [install_loaded herror]
        refine ⟨h.unclear, h.unrequested, h.invalidating, hloads, hbounded, ?_⟩
        intro _ _
        exact Or.inr ⟨hshown.trans (congrArg some hsubject), hsubject⟩
    · rw [if_neg hcurrent]
      refine ⟨h.unclear, h.unrequested, h.invalidating, hloads, hbounded, ?_⟩
      intro hnoTarget hnoLoad
      apply h.idle hnoTarget
      intro other hother
      refine hnoLoad other (mem_set_none hcall hother ?_)
      intro heq
      exact hcurrent (Prod.mk.inj heq).1.symm

theorem converging_signerRecorded {completed : MultiPartyPersistedState}
    (hstep : s.signerRecorded completed = some t) : Converging config t := by
  unfold signerRecorded at hstep
  split at hstep
  · next form hready =>
    cases hstep
    refine ⟨h.unclear, h.unrequested, h.invalidating, h.loading, h.bounded, ?_⟩
    intro hnoTarget hnoLoad
    have hidle := h.idle hnoTarget hnoLoad
    rw [hready] at hidle
    rcases hidle with herror | hshown
    · cases herror
    · exact Or.inr hshown
  · cases hstep

theorem converging_step {event : Event}
    (hevent : s.Unhurried config event ∧ event.ClearsNothing) (hstep : step config s event = some t) :
    Converging config t := by
  cases event with
  | emitted received =>
    cases hstep
    exact converging_emitted h hevent.1
  | invalidated call resolved => exact converging_invalidated h hstep
  | loaded call outcome => exact converging_loaded h hstep
  | requestClear clearing => exact hevent.2.elim
  | cleared resolved =>
    have hnone : s.cleared resolved = none := by
      unfold cleared
      rw [h.unrequested]
    cases hnone.symm.trans hstep
  | signerRecorded completed => exact converging_signerRecorded h hstep

theorem loadsLastClaim_of_converging (event : Event) :
    s.LoadsLastClaim config event := by
  cases event with
  | loaded call outcome =>
    intro claim hcall
    by_cases herror : createReadyState config claim outcome = .error
    · exact Or.inl herror
    · right
      have hcurrent : s.Current claim := List.mem_of_getElem? hcall
      exact subject_eq_of_not_other (h.loading claim hcurrent) (loadedFor_createReadyState herror).2
  | _ => trivial

theorem showsLastClaim_of_quiescent (hquiet : s.Quiescent) :
    s.ShowsLastClaim := by
  have hnoTarget : ∀ target, some target ∉ s.invalidations := by
    intro target hmem
    cases hquiet.1 _ hmem
  have hnoLoad : ∀ claim, ¬s.Current claim := by
    intro claim hmem
    cases hquiet.2 _ hmem
  rcases h.idle hnoTarget hnoLoad with herror | ⟨hshown, -⟩
  · exact Or.inl herror
  · exact Or.inr hshown

end

/-- In every run without a clearing in which no claim of another subject is emitted while a draft
invalidation, or a load that is not replaced at once, is pending, every quiescent state shows the form
of the last claim or an error, and no form of another subject than the last claim's becomes ready. -/
theorem identity_converges {boot : Boot} {events : List Event} {states : List Mounted}
    (hrun : statesOf (step config) (booted config boot) events = some states)
    (hclears : ∀ event ∈ events, event.ClearsNothing)
    (hcalm : EveryStep (step config) (Unhurried config) (booted config boot) events) :
    (∀ reached ∈ states, reached.Quiescent → reached.ShowsLastClaim)
      ∧ EveryStep (step config) (LoadsLastClaim config) (booted config boot) events := by
  have hevents : EveryStep (step config) (fun s event => s.Unhurried config event ∧ event.ClearsNothing)
      (booted config boot) events :=
    everyStep_and hcalm (everyStep_of_forall fun event hmem _ => hclears event hmem)
  have hstep : ∀ s event next, Converging config s →
      (s.Unhurried config event ∧ event.ClearsNothing) → step config s event = some next →
      Converging config next := fun _ _ _ h hevent hnext => converging_step h hevent hnext
  constructor
  · intro reached hreached hquiet
    exact showsLastClaim_of_quiescent
      (statesOf_invariant hstep (converging_booted boot) hevents hrun reached hreached) hquiet
  · exact everyStep_of_invariant hstep (fun s event h _ => loadsLastClaim_of_converging h event)
      (converging_booted boot) hevents

theorem loaded_current (definition : FormDefinition) {call : Nat}
    (hcall : s.loads[call]? = some (some (s.reloadSequence, claim)))
    (hpolicy : identityPolicySatisfied config claim = true) :
    ∃ t, s.loaded config call (.ready definition none) = some t
      ∧ t.respondentState = .ready ⟨definition, subjectOf claim, claim, none⟩
      ∧ t.lastClaim = s.lastClaim := by
  have hstate : createReadyState config claim (.ready definition none)
      = .ready ⟨definition, subjectOf claim, claim, none⟩ := by
    rw [createReadyState, if_pos hpolicy]
  have hstep : s.loaded config call (.ready definition none)
      = some (install { s with loads := s.loads.set call none } claim
          (.ready ⟨definition, subjectOf claim, claim, none⟩)) := by
    rw [loaded, hcall, Option.bind_eq_bind, Option.bind_some]
    dsimp only
    rw [if_pos rfl, hstate]
    rfl
  exact ⟨_, hstep, rfl, rfl⟩

section

variable (hunclear : s.terminalClearRequested = false)
include hunclear

theorem emitted_lastClaim (received : Claim) :
    (s.emitted config received).lastClaim = nextClaim config received := by
  unfold emitted
  dsimp only
  rw [if_neg (Bool.eq_false_iff.mp hunclear)]
  split
  · rfl
  · split <;> rfl

theorem emitted_invalidations (received : Claim)
    {call : Nat} {target : Claim} (hcall : s.invalidations[call]? = some (some target)) :
    (s.emitted config received).invalidations[call]? = some (some target) := by
  unfold emitted
  dsimp only
  rw [if_neg (Bool.eq_false_iff.mp hunclear)]
  split
  · exact hcall
  split
  · exact getElem?_concat_of hcall
  · exact hcall

theorem emitted_loads {received : Claim} (hlate : ¬s.ReloadsAtOnce (nextClaim config received)) :
    (s.emitted config received).loads = s.loads
      ∧ (s.emitted config received).reloadSequence = s.reloadSequence := by
  unfold emitted
  dsimp only
  rw [if_neg (Bool.eq_false_iff.mp hunclear)]
  split
  · exact ⟨rfl, rfl⟩
  · next hchange =>
    split
    · exact ⟨rfl, rfl⟩
    · next hnone =>
      refine absurd ⟨?_, hnone⟩ hlate
      simpa using hchange

theorem late_of_hurried {received : Claim}
    (hhurried : ¬s.Unhurried config (.emitted received)) (definition : FormDefinition) :
    ∃ (settlements : List Event) (t : Mounted), settlements.foldlM (step config) (s.emitted config received) = some t
      ∧ ∃ form, t.respondentState = .ready form
        ∧ form.draftSubjectRef ≠ subjectOf (nextClaim config received)
        ∧ t.lastClaim = nextClaim config received := by
  have hlast : (s.emitted config received).lastClaim = nextClaim config received :=
    emitted_lastClaim hunclear received
  by_cases htargets : ∀ target, some target ∈ s.invalidations →
      ¬OtherSubject config target (nextClaim config received)
  · have hloads : ¬(s.ReloadsAtOnce (nextClaim config received)
        ∨ ∀ claim, s.Current claim → ¬OtherSubject config claim (nextClaim config received)) :=
      fun hright => hhurried ⟨htargets, hright⟩
    obtain ⟨hlate, hcurrent⟩ := not_or.mp hloads
    push Not at hcurrent
    obtain ⟨claim, hmem, hpolicy, hne⟩ := hcurrent
    obtain ⟨call, hcall⟩ := List.mem_iff_getElem?.mp hmem
    obtain ⟨heqLoads, heqSequence⟩ := emitted_loads hunclear hlate
    have hcall' : (s.emitted config received).loads[call]?
        = some (some ((s.emitted config received).reloadSequence, claim)) := by
      rw [heqLoads, heqSequence, hcall]
    obtain ⟨t, hstep, hready, hkept⟩ := loaded_current definition hcall' hpolicy
    refine ⟨[.loaded call (.ready definition none)], t, ?_, _, hready, hne, hkept.trans hlast⟩
    rw [List.foldlM_cons, step, hstep]
    rfl
  · push Not at htargets
    obtain ⟨target, hmem, hpolicy, hne⟩ := htargets
    obtain ⟨call, hcall⟩ := List.mem_iff_getElem?.mp hmem
    have hpending : (s.emitted config received).invalidations[call]? = some (some target) :=
      emitted_invalidations hunclear received hcall
    let resolved : Mounted :=
      { s.emitted config received with
        invalidations := (s.emitted config received).invalidations.set call none }
    have hinvalidated : (s.emitted config received).invalidated call true
        = some (resolved.applyReadyState target) := by
      rw [invalidated, hpending]
      rfl
    have hcall' : (resolved.applyReadyState target).loads[resolved.loads.length]?
        = some (some ((resolved.applyReadyState target).reloadSequence, target)) :=
      List.getElem?_concat_length
    obtain ⟨t, hstep, hready, hkept⟩ := loaded_current definition hcall' hpolicy
    refine ⟨[.invalidated call true, .loaded resolved.loads.length (.ready definition none)], t, ?_, _,
      hready, hne, hkept.trans hlast⟩
    rw [List.foldlM_cons, step, hinvalidated, Option.bind_eq_bind, Option.bind_some, List.foldlM_cons,
      step, hstep]
    rfl

end

def mariaClaim : Identity.IdentityClaim :=
  { Subscription.sampleClaim "login.example" with subjectRef := "subject:maria" }

def joseClaim : Identity.IdentityClaim :=
  { Subscription.sampleClaim "login.example" with subjectRef := "subject:jose" }

def permitForm : FormDefinition := ⟨"https://forms.example/permit", "1.0.0"⟩

def openProduction : MountConfig := ⟨true, false⟩

def mariaBoots : Boot := .loaded (some mariaClaim) (.ready permitForm none)

def joseSignsIn : List Event :=
  [.emitted (some joseClaim), .invalidated 0 true, .loaded 0 (.ready permitForm none)]

def mariaReturnsAtOnce : List Event :=
  [.emitted (some joseClaim), .emitted (some mariaClaim), .invalidated 0 true,
    .loaded 0 (.ready permitForm none)]

theorem identity_converges_joseSignsIn :
    ∃ states, statesOf (step openProduction) (booted openProduction mariaBoots) joseSignsIn = some states
      ∧ (∀ reached ∈ states, reached.Quiescent → reached.ShowsLastClaim)
      ∧ EveryStep (step openProduction) (LoadsLastClaim openProduction)
          (booted openProduction mariaBoots) joseSignsIn := by
  obtain ⟨states, hrun⟩ : ∃ states,
      statesOf (step openProduction) (booted openProduction mariaBoots) joseSignsIn = some states :=
    ⟨_, rfl⟩
  refine ⟨states, hrun, identity_converges hrun ?_ ?_⟩
  · intro event hevent
    simp only [joseSignsIn, List.mem_cons, List.not_mem_nil, or_false] at hevent
    rcases hevent with rfl | rfl | rfl <;> trivial
  · refine ⟨⟨?_, Or.inr ?_⟩, fun _ _ => ⟨trivial, fun _ _ => ⟨trivial, fun _ _ => trivial⟩⟩⟩
    · intro target hmem
      cases hmem
    · intro claim hmem
      cases hmem

/-- Maria signs in again while her drafts are invalidated, and is shown the form of José. -/
theorem jose_shown_to_maria :
    ∃ t, mariaReturnsAtOnce.foldlM (step openProduction) (booted openProduction mariaBoots) = some t
      ∧ (∀ event ∈ mariaReturnsAtOnce, event.ClearsNothing) ∧ t.Quiescent
      ∧ t.lastClaim = some mariaClaim
      ∧ t.respondentState = .ready ⟨permitForm, some "subject:jose", some joseClaim, none⟩
      ∧ ¬t.ShowsLastClaim := by
  refine ⟨_, rfl, ?_, ⟨by decide, by decide⟩, rfl, rfl, ?_⟩
  · intro event hevent
    simp only [mariaReturnsAtOnce, List.mem_cons, List.not_mem_nil, or_false] at hevent
    rcases hevent with rfl | rfl | rfl | rfl <;> trivial
  · rintro (herror | hshown)
    · cases herror
    · exact absurd (Option.some.inj (Option.some.inj hshown)) (by decide)

end Mounted

end FormspecWeb.App
