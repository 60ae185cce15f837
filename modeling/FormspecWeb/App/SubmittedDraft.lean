import FormspecWeb.App.IdentityChanges

/-!
# The draft of a submission

`handleSubmit` saves the draft under the key of the ready form, and hands the response over with the
subject of its claim. The key of the draft is read off the handoff again where it is submitted.
-/

namespace FormspecWeb.App

open Shared Async DraftStore
open MultiParty (FormDefinition FormResponse MultiPartyPersistedState MultiPartySignatureRecord
  recordMultiPartySignerState multiPartyDataKey signatureRecordValue)

def multiPartyDraftKey (base : DraftKey) : Option String → DraftKey
  | none => base
  | some partyRef => if truthy partyRef then { base with partyRef := some partyRef } else base

structure SignedResponse where
  signature : MultiPartySignatureRecord
  response : FormResponse

def signedResponse (state : MultiPartyPersistedState) (signature : MultiPartySignatureRecord) :
    Except MultiParty.Failure SignedResponse :=
  match state.responses.find? (·.partyRef == signature.partyRef) with
  | none => .error ("Missing response slice for party \"" ++ signature.partyRef ++ "\".")
  | some stored => .ok ⟨signature, stored.response⟩

def dataOf (response : FormResponse) : Value := (response.value.get? "data").getD .undefined

def signedMember (entry : SignedResponse) (rest : List (String × Value)) : Value :=
  .object ([("partyRef", .string entry.signature.partyRef), ("roleId", .string entry.signature.roleId),
    ("subjectRef", .string entry.signature.subjectRef)] ++ rest)

def buildMultiPartyAggregateResponse (definition : FormDefinition) (id now : String)
    (state : MultiPartyPersistedState) : Except MultiParty.Failure FormResponse := do
  let signedResponses ← state.progress.signatures.mapM (signedResponse state)
  let signatures : Value := .array (state.progress.signatures.map signatureRecordValue)
  let partyResponses : Value := .array (signedResponses.map fun entry => signedMember entry
    [("responseId", (entry.response.value.get? "id").getD .undefined),
      ("responseData", dataOf entry.response)])
  let mergedData := signedResponses.foldl (fun data entry => spread data (dataOf entry.response).members) []
  let data := spread mergedData
    [(multiPartyDataKey, .object [("partySignatures", signatures), ("partyResponses", partyResponses)])]
  let extension : Value := .object [("partySignatures", signatures),
    ("partyResponses", .array (signedResponses.map fun entry => signedMember entry
      [("response", entry.response.value)]))]
  return {
    value := .object [("$formspecResponse", .string "1.0"), ("definitionUrl", .string definition.url),
      ("definitionVersion", .string definition.version), ("status", .string "completed"),
      ("id", .string id), ("data", .object data), ("authored", .string now),
      ("extensions", .object [(multiPartyDataKey, extension)])]
    isObject := rfl
    version := by rfl }

/-! ## The handoff -/

structure MultiPartyHandoffContext where
  config : MultiPartyConfig
  progress : MultiParty.MultiPartySignerProgress
  activePartyRef : String

structure IntakeHandoff where
  handoffId : String
  /-- `definitionRef`. -/
  definition : FormDefinition
  responseRef : String
  responseHash : String
  validationReportRef : String
  intakeSessionId : String
  actorRef : Option String
  subjectRef : Option String
  ledgerHeadRef : String
  occurredAt : String
  extensions : List (String × Value)

structure SubmitInput where
  idempotencyKey : String
  validationReport : Option Value
  response : FormResponse
  responseHash : FormResponse → Except MultiParty.Failure String
  /-- `new Date().toISOString()`. -/
  now : String

def activePartyRefKey : String := "x-formspec-active-party-ref"

def multiPartyExtensions : Option MultiPartyHandoffContext → List (String × Value)
  | none => []
  | some context =>
    [(activePartyRefKey, .string context.activePartyRef),
      (multiPartyDataKey, .object [("tier", context.config.tier),
        ("invitationChannel", context.config.invitationChannel), ("parties", context.config.parties),
        ("partySignatures", .array (context.progress.signatures.map signatureRecordValue))])]

def buildIntakeHandoff (definition : FormDefinition) (response : FormResponse) (draftKey : DraftKey)
    (claim : Claim) (multiParty : Option MultiPartyHandoffContext) (input : SubmitInput) :
    Except MultiParty.Failure IntakeHandoff := do
  let responseId := response.id?.getD input.idempotencyKey
  let actorRef := subjectOf claim
  let hash ← input.responseHash response
  return {
    handoffId := "handoff:" ++ input.idempotencyKey
    definition := definition
    responseRef := "response:" ++ responseId
    responseHash := hash
    validationReportRef :=
      if input.validationReport.isSome then "validation:" ++ responseId else "validation:none"
    intakeSessionId := "intake-session:" ++ draftKey.subjectRef.getD "anonymous"
    actorRef := actorRef
    subjectRef := actorRef
    ledgerHeadRef := "ledger:" ++ responseId ++ ":head"
    occurredAt := input.now
    extensions := [("x-formspec-response", response.value),
      ("x-formspec-response-data", dataOf response),
      ("x-formspec-validation-report", input.validationReport.getD .null)]
        ++ multiPartyExtensions multiParty }

def partyRefFromHandoff (handoff : IntakeHandoff) : Option String :=
  ((handoff.extensions.lookup activePartyRefKey).bind (·.text?)).filter truthy

def draftKeyFromHandoff (handoff : IntakeHandoff) : DraftKey where
  formUrl := handoff.definition.url
  formVersion := some handoff.definition.version
  subjectRef := handoff.subjectRef
  partyRef := partyRefFromHandoff handoff

def isInvalid (report : Value) : Bool := !(report.get? "valid").any (·.isTrue)

/-- The key under which `handleSubmit` saves the draft of the respondent, and the handoff it builds,
if it gets there. Any await that fails ends it before. -/
def ReadyForm.submission (form : ReadyForm) (input : SubmitInput) :
    Except MultiParty.Failure (DraftKey × Option IntakeHandoff) := do
  let claim := form.claim.map fun claim => MultiParty.IdentityClaim.mk claim.subjectRef
  let activeDraftKey :=
    multiPartyDraftKey form.draftKey (form.multiParty.map (·.2.progress.activePartyRef))
  match form.multiParty with
  | none =>
    if input.validationReport.any isInvalid then return (activeDraftKey, none)
    let handoff ← buildIntakeHandoff form.definition input.response activeDraftKey form.claim none input
    return (activeDraftKey, some handoff)
  | some (config, state) =>
    let _ ← MultiParty.assertMultiPartySignerCanSubmit claim config.policy state.progress
    if input.validationReport.any isInvalid then return (activeDraftKey, none)
    let hash := input.responseHash input.response
    let completed ← recordMultiPartySignerState config.policy
      ⟨claim, input.idempotencyKey, input.response, hash, input.now⟩ state
    let complete ← MultiParty.multiPartyComplete config.policy completed.progress
    if !complete then return (activeDraftKey, none)
    let aggregate ←
      buildMultiPartyAggregateResponse form.definition input.idempotencyKey input.now completed
    let handoff ← buildIntakeHandoff form.definition aggregate activeDraftKey form.claim
      (some ⟨config, completed.progress, completed.progress.activePartyRef⟩) input
    return (activeDraftKey, some handoff)

/-! ## The key that is read off again -/

variable {form : ReadyForm} {input : SubmitInput} {key : DraftKey} {handoff : IntakeHandoff}

theorem multiPartyDraftKey_eq (base : DraftKey) (hbase : base.partyRef = none)
    (partyRef : Option String) :
    multiPartyDraftKey base partyRef = { base with partyRef := partyRef.filter truthy } := by
  have hnone : { base with partyRef := none } = base := by rw [← hbase]
  cases partyRef with
  | none => exact hnone.symm
  | some partyRef =>
    rw [multiPartyDraftKey, Option.filter_some]
    by_cases h : truthy partyRef = true
    · rw [if_pos h, if_pos h]
    · rw [if_neg h, if_neg h, hnone]

theorem draftKey_of_handoff {definition : FormDefinition} {response : FormResponse} {claim : Claim}
    {multiParty : Option MultiPartyHandoffContext}
    (h : buildIntakeHandoff definition response key claim multiParty input = .ok handoff) :
    draftKeyFromHandoff handoff = ⟨definition.url, some definition.version, subjectOf claim,
      (multiParty.map (·.activePartyRef)).filter truthy⟩ := by
  obtain ⟨hash, -, heq⟩ := sequence_ok.mp h
  cases heq
  cases multiParty with
  | none => rfl
  | some context => rfl

theorem active_of_complete {policy : MultiParty.ResolvedMultiPartyPolicy}
    {signer : MultiParty.SignerInput} {state completed : MultiPartyPersistedState}
    (h : recordMultiPartySignerState policy signer state = .ok completed)
    (hcomplete : MultiParty.multiPartyComplete policy completed.progress = .ok true) :
    completed.progress.activePartyRef = state.progress.activePartyRef := by
  obtain ⟨progress, hrecorded, heq⟩ := sequence_ok.mp h
  cases heq
  obtain ⟨slots, hslots, hall⟩ := sequence_ok.mp hcomplete
  obtain ⟨record, -, -, -, -, -, hnext⟩ := MultiParty.record_ok hslots hrecorded
  have hnone : (slots.find? fun slot => !MultiParty.signed progress.signatures slot.partyRef) = none := by
    rw [List.find?_eq_none]
    intro slot hslot
    have hsigned := List.all_eq_true.mp (Except.ok.inj hall) slot hslot
    rw [hsigned]
    exact Bool.false_ne_true
  rw [hnext, hnone]
  rfl

theorem draftKey_submission_iff (h : form.submission input = .ok (key, some handoff)) :
    draftKeyFromHandoff handoff = key ↔ subjectOf form.claim = form.draftSubjectRef := by
  have hkey : ∀ partyRef, draftKeyFromHandoff handoff
        = ⟨form.definition.url, some form.definition.version, subjectOf form.claim,
          partyRef.filter truthy⟩ →
      (draftKeyFromHandoff handoff = multiPartyDraftKey form.draftKey partyRef
        ↔ subjectOf form.claim = form.draftSubjectRef) := by
    intro partyRef heq
    rw [heq, multiPartyDraftKey_eq form.draftKey rfl]
    simp [ReadyForm.draftKey]
  unfold ReadyForm.submission at h
  dsimp only at h
  cases hparty : form.multiParty with
  | none =>
    rw [hparty] at h
    dsimp only at h
    by_cases hinvalid : input.validationReport.any isInvalid = true
    · rw [if_pos hinvalid] at h
      cases h
    · rw [if_neg hinvalid] at h
      obtain ⟨built, hbuilt, heq⟩ := sequence_ok.mp h
      obtain ⟨rfl, hsome⟩ := Prod.mk.inj (Except.ok.inj heq)
      cases hsome
      exact hkey none (draftKey_of_handoff hbuilt)
  | some found =>
    obtain ⟨config, state⟩ := found
    rw [hparty] at h
    dsimp only at h
    obtain ⟨slot, -, h⟩ := sequence_ok.mp h
    by_cases hinvalid : input.validationReport.any isInvalid = true
    · rw [if_pos hinvalid] at h
      cases h
    · rw [if_neg hinvalid] at h
      obtain ⟨completed, hcompleted, h⟩ := sequence_ok.mp h
      obtain ⟨complete, hcomplete, h⟩ := sequence_ok.mp h
      cases complete with
      | false => cases h
      | true =>
        obtain ⟨aggregate, -, h⟩ := sequence_ok.mp h
        obtain ⟨built, hbuilt, heq⟩ := sequence_ok.mp h
        obtain ⟨rfl, hsome⟩ := Prod.mk.inj (Except.ok.inj heq)
        cases hsome
        have hactive := active_of_complete hcompleted hcomplete
        rw [hactive] at hbuilt
        exact hkey (some state.progress.activePartyRef) (draftKey_of_handoff hbuilt)

/-! ## Runs -/

namespace Mounted

variable {config : MountConfig} {s t : Mounted}

/-- The claim of a ready form has the subject its draft was loaded for. -/
def Keyed (s : Mounted) : Prop :=
  ∀ form, s.respondentState = .ready form → subjectOf form.claim = form.draftSubjectRef

/-- A claim that is taken for no change has the subject of the form that is ready. -/
def KeepsSubject (config : MountConfig) (s : Mounted) : Event → Prop
  | .emitted received => s.terminalClearRequested = false →
      s.takenForChange (nextClaim config received) = false →
      ∀ form, s.respondentState = .ready form → subjectOf (nextClaim config received) = form.draftSubjectRef
  | _ => True

theorem keyed_of_state (h : t.respondentState = s.respondentState) (hs : s.Keyed) : t.Keyed := by
  intro form hready
  exact hs form (h ▸ hready)

theorem keyed_unready (h : ∀ form, t.respondentState ≠ .ready form) : t.Keyed := by
  intro form hready
  exact absurd hready (h form)

theorem keyed_install (claim : Claim) (outcome : LoadOutcome) :
    (s.install claim (createReadyState config claim outcome)).Keyed := by
  unfold createReadyState
  split
  · cases outcome with
    | ready definition multiParty =>
      intro form hready
      cases hready
      rfl
    | _ => exact keyed_unready fun form hready => by cases hready
  · exact keyed_unready fun form hready => by cases hready

theorem keyed_booted (boot : Boot) : (booted config boot).Keyed := by
  cases boot with
  | signIn => exact keyed_unready fun form hready => by cases hready
  | loaded claim outcome => exact keyed_of_state rfl (keyed_install claim outcome)

theorem keyed_emitted_iff (h : s.Keyed) (received : Claim) :
    (s.emitted config received).Keyed ↔ s.KeepsSubject config (.emitted received) := by
  unfold emitted
  dsimp only
  by_cases hclear : s.terminalClearRequested = true
  · rw [if_pos hclear]
    refine iff_of_true (keyed_of_state rfl h) ?_
    intro hunclear
    rw [hclear] at hunclear
    cases hunclear
  · rw [if_neg hclear]
    by_cases hchange : s.takenForChange (nextClaim config received) = true
    · rw [hchange, Bool.not_true, if_neg Bool.false_ne_true]
      refine iff_of_true ?_ ?_
      · split
        · exact keyed_of_state rfl h
        · exact keyed_unready fun form hready => by cases hready
      · intro _ hunchanged
        rw [hchange] at hunchanged
        cases hunchanged
    · rw [Bool.eq_false_iff.mpr hchange, Bool.not_false, if_pos rfl]
      constructor
      · intro hkeyed _ _ form hready
        refine hkeyed { form with claim := nextClaim config received } ?_
        show s.respondentState.withClaim (nextClaim config received) = _
        rw [hready]
        rfl
      · intro hkeeps form hready
        have hshown : s.respondentState.withClaim (nextClaim config received) = .ready form := hready
        cases hstate : s.respondentState with
        | ready earlier =>
          rw [hstate] at hshown
          cases hshown
          exact hkeeps (Bool.eq_false_iff.mpr hclear) (Bool.eq_false_iff.mpr hchange) earlier hstate
        | _ =>
          rw [hstate] at hshown
          cases hshown

theorem keyed_step_iff (h : s.Keyed) {event : Event} (hstep : step config s event = some t) :
    t.Keyed ↔ s.KeepsSubject config event := by
  cases event with
  | emitted received =>
    cases hstep
    exact keyed_emitted_iff h received
  | invalidated call resolved =>
    obtain ⟨entry, -, hstep⟩ := Option.bind_eq_some_iff.mp hstep
    cases entry with
    | none => cases hstep
    | some next =>
      cases hstep
      refine iff_of_true ?_ trivial
      cases resolved with
      | true => exact keyed_unready fun form hready => by cases hready
      | false => exact keyed_unready fun form hready => by cases hready
  | loaded call outcome =>
    obtain ⟨entry, -, hstep⟩ := Option.bind_eq_some_iff.mp hstep
    cases entry with
    | none => cases hstep
    | some load =>
      cases hstep
      refine iff_of_true ?_ trivial
      split
      · exact keyed_install load.2 outcome
      · exact keyed_of_state rfl h
  | requestClear clearing =>
    rw [step, requestClear] at hstep
    split at hstep
    · cases hstep
    · cases hstep
      exact iff_of_true (keyed_of_state rfl h) trivial
  | cleared resolved =>
    unfold step cleared at hstep
    dsimp only at hstep
    split at hstep
    · cases hstep
      exact iff_of_true (keyed_of_state rfl h) trivial
    · cases hstep
      exact iff_of_true (keyed_unready fun form hready => by cases hready) trivial
    · cases hstep
  | signerRecorded completed =>
    rw [step, signerRecorded] at hstep
    split at hstep
    · next form hready =>
      cases hstep
      refine iff_of_true ?_ trivial
      intro other hother
      cases hother
      exact h form hready
    · cases hstep

def Event.ClearsWell : Event → Prop
  | .cleared resolved => resolved = true
  | _ => True

def ShowsActive (s : Mounted) : Prop :=
  s.terminalClearRequested = false →
    ∀ form, s.respondentState = .ready form → subjectOf s.activeClaim = form.draftSubjectRef

theorem showsActive_unready (h : ∀ form, t.respondentState ≠ .ready form) : t.ShowsActive := by
  intro _ form hready
  exact absurd hready (h form)

theorem showsActive_of_state (hclear : t.terminalClearRequested = s.terminalClearRequested)
    (hactive : t.activeClaim = s.activeClaim) (hstate : t.respondentState = s.respondentState)
    (h : s.ShowsActive) : t.ShowsActive := by
  unfold ShowsActive
  rw [hclear, hactive, hstate]
  exact h

theorem showsActive_install (claim : Claim) (outcome : LoadOutcome) :
    (s.install claim (createReadyState config claim outcome)).ShowsActive := by
  unfold createReadyState
  split
  · cases outcome with
    | ready definition multiParty =>
      intro _ form hready
      cases hready
      rfl
    | _ => exact showsActive_unready fun form hready => by cases hready
  · exact showsActive_unready fun form hready => by cases hready

theorem showsActive_booted (boot : Boot) : (booted config boot).ShowsActive := by
  cases boot with
  | signIn => exact showsActive_unready fun form hready => by cases hready
  | loaded claim outcome =>
    by_cases herror : createReadyState config claim outcome = .error
    · refine showsActive_unready fun form hready => ?_
      unfold booted at hready
      dsimp only at hready
      rw [herror, install_error] at hready
      cases hready
    · have hactive : ((bootLoad claim).install claim (createReadyState config claim outcome)).activeClaim
          = claim := by
        rw [install_loaded herror]
      have hinstalled : ((bootLoad claim).install claim
          (createReadyState config claim outcome)).ShowsActive := showsActive_install claim outcome
      intro hunclear form hready
      rw [← hinstalled hunclear form hready, hactive]
      rfl

theorem subject_of_unchanged {next : Claim} (h : s.takenForChange next = false) :
    subjectOf s.activeClaim = subjectOf next := by
  by_contra hne
  rw [takenForChange, identitySubjectChanged, bne_iff_ne.mpr hne] at h
  cases h

theorem showsActive_emitted (h : s.ShowsActive) (received : Claim) :
    (s.emitted config received).ShowsActive := by
  unfold emitted
  dsimp only
  by_cases hclear : s.terminalClearRequested = true
  · rw [if_pos hclear]
    intro hunclear
    exact absurd hunclear (by rw [hclear]; exact Bool.true_eq_false.mp)
  · rw [if_neg hclear]
    cases hchange : s.takenForChange (nextClaim config received) with
    | true =>
      rw [Bool.not_true, if_neg Bool.false_ne_true]
      split
      · exact showsActive_of_state rfl rfl rfl h
      · exact showsActive_unready fun form hready => by cases hready
    | false =>
      rw [Bool.not_false, if_pos rfl]
      intro hunclear form hready
      have hshown : s.respondentState.withClaim (nextClaim config received) = .ready form := hready
      cases hstate : s.respondentState with
      | ready earlier =>
        rw [hstate] at hshown
        cases hshown
        exact (subject_of_unchanged hchange).symm.trans (h hunclear earlier hstate)
      | _ =>
        rw [hstate] at hshown
        cases hshown

theorem showsActive_step (h : s.ShowsActive) {event : Event} (hevent : event.ClearsWell)
    (hstep : step config s event = some t) : t.ShowsActive := by
  cases event with
  | emitted received =>
    cases hstep
    exact showsActive_emitted h received
  | invalidated call resolved =>
    obtain ⟨entry, -, hstep⟩ := Option.bind_eq_some_iff.mp hstep
    cases entry with
    | none => cases hstep
    | some next =>
      cases hstep
      cases resolved with
      | true => exact showsActive_unready fun form hready => by cases hready
      | false => exact showsActive_unready fun form hready => by cases hready
  | loaded call outcome =>
    obtain ⟨entry, -, hstep⟩ := Option.bind_eq_some_iff.mp hstep
    cases entry with
    | none => cases hstep
    | some load =>
      cases hstep
      split
      · exact showsActive_install load.2 outcome
      · exact showsActive_of_state rfl rfl rfl h
  | requestClear clearing =>
    rw [step, requestClear] at hstep
    split at hstep
    · cases hstep
    · cases hstep
      intro hunclear
      cases hunclear
  | cleared resolved =>
    unfold step cleared at hstep
    dsimp only at hstep
    split at hstep
    · cases hevent
    · cases hstep
      exact showsActive_unready fun form hready => by cases hready
    · cases hstep
  | signerRecorded completed =>
    rw [step, signerRecorded] at hstep
    split at hstep
    · next form hready =>
      cases hstep
      intro hunclear other hother
      cases hother
      exact h hunclear form hready
    · cases hstep

theorem keepsSubject_of_clearsWell {boot : Boot} {events : List Event}
    (h : ∀ event ∈ events, event.ClearsWell) :
    EveryStep (step config) (KeepsSubject config) (booted config boot) events := by
  refine everyStep_of_invariant (J := ShowsActive) (P := fun _ event => event.ClearsWell) ?_ ?_
    (showsActive_booted boot) (everyStep_of_forall fun event hmem _ => h event hmem)
  · intro s event next hactive hevent hnext
    exact showsActive_step hactive hevent hnext
  · intro s event hactive _
    cases event with
    | emitted received =>
      intro hunclear hunchanged form hready
      exact (subject_of_unchanged hunchanged).symm.trans (hactive hunclear form hready)
    | _ => trivial

/-- What a submission of the form on show reads off its handoff is the key of its draft. -/
def ReadsOffKey (s : Mounted) : Prop :=
  ∀ form, s.respondentState = .ready form → ∀ input key handoff,
    form.submission input = .ok (key, some handoff) → draftKeyFromHandoff handoff = key

/-- The key that is read off a handoff is the key of the draft that was saved exactly if the claim of
the form has the subject of its draft; and in a run this holds of every form on show exactly if no
claim is taken for no change that names another subject than the form. -/
theorem draftKey_read_off_iff {boot : Boot} {events : List Event} {states : List Mounted}
    (hrun : statesOf (step config) (booted config boot) events = some states) :
    (∀ reached ∈ states, ∀ form, reached.respondentState = .ready form → ∀ input key handoff,
        form.submission input = .ok (key, some handoff) →
          (draftKeyFromHandoff handoff = key ↔ subjectOf form.claim = form.draftSubjectRef))
      ∧ ((∀ reached ∈ states, reached.Keyed)
        ↔ EveryStep (step config) (KeepsSubject config) (booted config boot) events)
      ∧ (EveryStep (step config) (KeepsSubject config) (booted config boot) events →
        ∀ reached ∈ states, reached.ReadsOffKey) := by
  have hkeyed : (∀ reached ∈ states, reached.Keyed)
      ↔ EveryStep (step config) (KeepsSubject config) (booted config boot) events :=
    statesOf_good_iff (J := fun _ => True) (fun _ _ _ _ _ => trivial)
      (fun _ _ _ _ hgood hnext => keyed_step_iff hgood hnext) trivial (keyed_booted boot) hrun
  refine ⟨?_, hkeyed, ?_⟩
  · intro _ _ form _ input key handoff hsubmission
    exact draftKey_submission_iff hsubmission
  · intro hkeeps reached hreached form hready input key handoff hsubmission
    exact (draftKey_submission_iff hsubmission).mpr (hkeyed.mpr hkeeps reached hreached form hready)

def submitOnce : SubmitInput where
  idempotencyKey := "01890a5d-ac96-774b-bcce-b302099a8057"
  validationReport := none
  response := MultiParty.plainResponse
  responseHash := fun _ => .ok "sha256:00"
  now := "2024-01-01T00:00:00.000Z"

/-- The claim of José arrives while the draft of Maria is deleted, which fails, and once more. -/
def restartFails : List Event :=
  [.requestClear .restart, .emitted (some joseClaim), .cleared false, .emitted (some joseClaim)]

theorem draftKey_read_off_joseSignsIn :
    ∃ states, statesOf (step openProduction) (booted openProduction mariaBoots) joseSignsIn = some states
      ∧ ∀ reached ∈ states, reached.ReadsOffKey := by
  obtain ⟨states, hrun⟩ : ∃ states,
      statesOf (step openProduction) (booted openProduction mariaBoots) joseSignsIn = some states :=
    ⟨_, rfl⟩
  refine ⟨states, hrun, (draftKey_read_off_iff hrun).2.2 (keepsSubject_of_clearsWell ?_)⟩
  intro event hevent
  simp only [joseSignsIn, List.mem_cons, List.not_mem_nil, or_false] at hevent
  rcases hevent with rfl | rfl | rfl <;> trivial

/-- The draft is saved under the key of Maria, and looked up under that of José. -/
theorem submitted_under_other_key :
    ∃ t form key handoff,
      restartFails.foldlM (step openProduction) (booted openProduction mariaBoots) = some t
        ∧ t.respondentState = .ready form ∧ form.submission submitOnce = .ok (key, some handoff)
        ∧ key.subjectRef = some "subject:maria"
        ∧ (draftKeyFromHandoff handoff).subjectRef = some "subject:jose"
        ∧ ¬t.ReadsOffKey := by
  have hrun : ∃ t form key handoff,
      restartFails.foldlM (step openProduction) (booted openProduction mariaBoots) = some t
        ∧ t.respondentState = .ready form ∧ form.submission submitOnce = .ok (key, some handoff)
        ∧ key.subjectRef = some "subject:maria"
        ∧ (draftKeyFromHandoff handoff).subjectRef = some "subject:jose" :=
    ⟨_, _, _, _, rfl, rfl, rfl, rfl, rfl⟩
  obtain ⟨t, form, key, handoff, hrun, hready, hsubmission, hsaved, hread⟩ := hrun
  refine ⟨t, form, key, handoff, hrun, hready, hsubmission, hsaved, hread, ?_⟩
  intro hkey
  rw [hkey form hready submitOnce key handoff hsubmission, hsaved] at hread
  exact absurd (Option.some.inj hread) (by decide)

end Mounted

end FormspecWeb.App
