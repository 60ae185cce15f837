import FormspecWeb.Policy.ExtractFormPolicy
import FormspecWeb.Policy.Limits

/-!
# Resolution of the runtime features

A pure function of the declared capabilities and the two policies: which features
are enabled, why the others are not, and the configuration of the enabled ones.
-/

namespace FormspecWeb.Policy

open Shared

structure ResolveRuntimeFeaturesInput where
  mode : CompositionMode
  instanceCapabilities : InstanceCapabilities
  org : OrgRuntimePolicy
  form : FormRuntimePolicy
  /-- `new URL(text).origin`, if the text is a URL. -/
  urlOrigin : String → Option String

inductive DisabledCause where
  | orgForbidden
  | formForbidden
  | optionalNoInstance
  | defaultOnNoInstance
  | notRequested
deriving DecidableEq

structure DisabledReason where
  cause : DisabledCause
  message : String
deriving DecidableEq

inductive Decision where
  | enabled
  | disabled (reason : DisabledReason)
deriving DecidableEq

def canSatisfy (mode : CompositionMode) (capability : CapabilityAvailability) : Bool :=
  match capability with
  | .available => true
  | .demoStub => mode == .demo
  | _ => false

def reasonForUnavailable (mode : CompositionMode) (capability : CapabilityAvailability) : String :=
  if capability == .unavailable then "instance capability is marked unavailable"
  else if capability == .demoStub && mode == .production then
    "production composition cannot use a demo-stub capability"
  else "unknown capability availability \"" ++ capability.text ++ "\""

structure DecisionInput where
  mode : CompositionMode
  featureKey : RuntimeFeatureKey
  capability : CapabilityAvailability
  orgMode : Option OrgFeaturePolicyMode
  formMode : Option FormFeaturePolicyMode

/-- Enabled where the instance can do it, and disabled for this cause elsewhere. -/
def enabledIfSatisfied (input : DecisionInput) (cause : DisabledCause) (text : String) : Decision :=
  if canSatisfy input.mode input.capability then .enabled
  else .disabled ⟨cause, input.featureKey.name ++ text
    ++ reasonForUnavailable input.mode input.capability⟩

def decideFeature (input : DecisionInput) : Except RuntimePolicyError Decision := do
  let reason := reasonForUnavailable input.mode input.capability
  let instanceCanDo := canSatisfy input.mode input.capability
  failIf (input.orgMode == some .required && input.formMode == some .forbidden)
    (.featurePolicyConflict input.featureKey .orgRequiredFormForbidden)
  failIf (input.formMode == some .required && input.orgMode == some .forbidden)
    (.featurePolicyConflict input.featureKey .formRequiredOrgForbidden)
  failIf (input.orgMode == some .required && !instanceCanDo)
    (.orgPolicyUnsatisfied input.featureKey reason)
  failIf (input.formMode == some .required && !instanceCanDo)
    (.unsupportedRequiredFeature input.featureKey reason)
  if input.formMode == some .required || input.orgMode == some .required then return .enabled
  else if input.formMode == some .forbidden then
    return .disabled ⟨.formForbidden, input.featureKey.name ++ " forbidden by form policy"⟩
  else if input.orgMode == some .forbidden then
    return .disabled ⟨.orgForbidden, input.featureKey.name ++ " forbidden by org policy"⟩
  else if input.orgMode == some .defaultOn then
    return enabledIfSatisfied input .defaultOnNoInstance " marked default-on but "
  else if input.formMode == some .optional
      && (input.orgMode == some .allowed || input.orgMode.isNone) then
    return enabledIfSatisfied input .optionalNoInstance " optional but "
  else
    return .disabled
      ⟨.notRequested, input.featureKey.name ++ " not requested by form or org policy"⟩

def validateFeature {Mode : Type} (layer : PolicyLayer) (isMode : Mode → Bool)
    (text : Mode → String) : String × Option Mode → Except RuntimePolicyError Unit
  | (candidate, mode) => do
      failIf (!isRuntimeFeatureKey candidate)
        (invalid layer ("unknown feature key \"" ++ candidate ++ "\""))
      match mode with
      | some found =>
        failIf (!isMode found)
          (invalid layer ("invalid mode \"" ++ text found ++ "\" for \"" ++ candidate ++ "\""))
      | none => .ok ()

def validateInput (input : ResolveRuntimeFeaturesInput) : Except RuntimePolicyError Unit := do
  checkAll (fun key => failIf (!isCapabilityAvailability (input.instanceCapabilities key))
      (invalid .instanceLayer ("capability \"" ++ key.name
        ++ "\" must be available | demo-stub | unavailable")))
    runtimeFeatureKeys
  checkAll (validateFeature .org isOrgFeaturePolicyMode (·.text)) input.org.features
  checkAll (validateFeature .form isFormFeaturePolicyMode (·.text)) input.form.features
  validateEmbedLimits input.urlOrigin (input.org.limits .embed)
  validateMultiPartyLimits (input.org.limits .multiParty) .org
  validateMultiPartyLimits (input.form.limits .multiParty) .form
  validateSafeAddressLimits (input.org.limits .safeAddress) .org
  validateSafeAddressLimits (input.form.limits .safeAddress) .form
  validateRecordLifecyclePolicy .org input.org.recordLifecycle
  validateRecordLifecyclePolicy .form input.form.recordLifecycle

/-! ## The configuration of enabled features -/

def mergeFeatureLimits : Option Value → Option Value → Option Value
  | none, formLimit => formLimit
  | orgLimit, none => orgLimit
  | some (.object org), some (.object form) => some (.object (spread org form))
  | _, formLimit => formLimit

def withMember (value : Value) (key : String) (member : Value) : Value :=
  match value with
  | .object members => .object (spread members [(key, member)])
  | _ => value

def resolveMultiPartyPolicy (value : Option Value) : Except RuntimePolicyError Value := do
  validateMultiPartyLimits value .form
  match value with
  | none => .error (invalid .form "multiParty is enabled but limits.multiParty is not declared")
  | some policy =>
    return withMember policy "invitationChannel"
      ((policy.get? "invitationChannel").getD (.string "out-of-band"))

/-- `nonEmptyStringArrayFrom(value)`. -/
def nonEmptyStrings? (value : Option Value) : Option (List String) :=
  (value.bind (·.strings?)).bind nonEmpty?

def resolveSafeAddressAuthorizedAudiences (org form : Option Value) : List String :=
  let orgAudiences := (org.bind (·.strings?)).getD ["issuer_verification"]
  match nonEmptyStrings? form with
  | none => orgAudiences
  | some formAudiences => formAudiences.filter orgAudiences.contains

def safeAddressTierRank : SafeAddressReceiptPostureTier → Nat
  | .verifierGrade => 2
  | .phase1Fallback => 1

def resolveSafeAddressFieldAudience (authorized : List String) (field : SafeAddressFieldPolicy) :
    Except RuntimePolicyError SafeAddressFieldPolicy :=
  let cite (text : String) := invalid .form ("safeAddress field \"" ++ field.path ++ "\" " ++ text)
  match field.effectiveAudiences with
  | some effective => do
      failIf effective.isEmpty (cite "has an empty effective audience intersection")
      failIf (effective.any fun entry => !authorized.contains entry)
        (cite "includes an effective audience not authorized by safe-address policy")
      failIf (field.visibleTo.any fun visible => effective.any fun entry => !visible.contains entry)
        (cite "includes an effective audience not allowed by party policy")
      return { field with plaintextAudiences := some effective }
  | none => do
      let plaintext := (field.plaintextAudiences.getD authorized).filter authorized.contains
      failIf plaintext.isEmpty (cite "has no plaintext audience authorized by safe-address policy")
      match field.visibleTo with
      | some visible => do
          let intersection := visible.filter plaintext.contains
          failIf intersection.isEmpty
            (cite "has no audience allowed by both party policy and safe-address policy")
          return { field with plaintextAudiences := some intersection }
      | none => return { field with plaintextAudiences := some plaintext }

def fieldPolicyOf (entry : Value) : Option SafeAddressFieldPolicy :=
  (safeAddressFieldOf entry).map fun field =>
    { field with label := (entry.get? "label").bind (·.text?) }

def fieldPolicies (value : Option Value) : List SafeAddressFieldPolicy :=
  ((value.bind (·.entries?)).getD []).filterMap fieldPolicyOf

def resolveSafeAddressPolicy (orgLimit formLimit : Option Value) :
    Except RuntimePolicyError SafeAddressRuntimeConfig := do
  let org := fun key => orgLimit.bind (·.get? key)
  let form := fun key => formLimit.bind (·.get? key)
  let fields := fieldPolicies (form "fields")
  let classesOf := fun value : Option Value =>
    (nonEmptyStrings? value).map fun names => names.filterMap fun name => safeClass (.string name)
  let enabledClasses := (classesOf (form "enabledClasses")).getD
    ((classesOf (org "enabledClasses")).getD (uniqueSafeClasses fields))
  let authorizedAudiences :=
    resolveSafeAddressAuthorizedAudiences (org "authorizedAudiences") (form "authorizedAudiences")
  let acpJurisdictionsAccepted := (nonEmptyStrings? (form "acpJurisdictionsAccepted")).getD
    (((org "acpJurisdictionsAccepted").bind (·.strings?)).getD [])
  let deploymentTier := ((org "receiptPostureTier").bind receiptPostureTier?).getD .phase1Fallback
  let tier := ((form "receiptPostureTier").bind receiptPostureTier?).getD deploymentTier
  failIf fields.isEmpty
    (invalid .form "safeAddress is enabled but no safe-* field policy was declared")
  failIf enabledClasses.isEmpty
    (invalid .form "safeAddress is enabled but no safe-* class was declared")
  failIf acpJurisdictionsAccepted.isEmpty
    (invalid .org "safeAddress is enabled but no accepted protection jurisdiction is configured")
  failIf authorizedAudiences.isEmpty
    (invalid .org "safeAddress is enabled but no authorized plaintext audience is configured")
  failIf (safeAddressTierRank deploymentTier < safeAddressTierRank tier)
    (.unsupportedRequiredFeature .safeAddress
      ("safeAddress receiptPostureTier \"" ++ tier.text ++ "\" exceeds deployment capability \""
        ++ deploymentTier.text ++ "\""))
  let resolved ← fields.mapM (resolveSafeAddressFieldAudience authorizedAudiences)
  let reference := fun value : Option Value => value.bind (·.nonEmptyString?)
  return {
    enabledClasses := enabledClasses
    receiptPostureTier := tier
    substituteAddressDirectoryRef :=
      ((reference (form "substituteAddressDirectoryRef")).or
        (reference (org "substituteAddressDirectoryRef"))).getD "composition:safeAddressDirectory"
    acpJurisdictionsAccepted := acpJurisdictionsAccepted
    authorizedAudiences := authorizedAudiences
    fields := resolved
    rendererHints :=
      ((form "rendererHints").or (org "rendererHints")).bind parseSafeAddressRendererHints }

def normalizeRecordLifecycleWindow (window : Value) : Value :=
  let closesAt := Value.member "closesAt" (window.get? "closesAt")
  if window.hasOwn "state" then
    match window.get? "state" with
    | some (.string "open") => .object [("state", .string "open")]
    | some (.string "closed") =>
      .object ([("state", .string "closed")]
        ++ Value.optionalMember "closedAt" (window.get? "closedAt"))
    | _ => .object [("state", .string "closes-at"), closesAt]
  else if isOneOf ["never"] (window.get? "closesAt") then .object [("state", .string "open")]
  else .object [("state", .string "closes-at"), closesAt]

/-- `fieldSet ? [...fieldSet] : undefined`, of an iterable. -/
def copyFieldSet (fieldSet : Value) : Option Value :=
  if fieldSet.isTruthy then (iterate fieldSet).toOption.map .array else none

/-- The settings an action resolves to, and the defaults of those that have one. -/
def lifecycleSettings : LifecycleAction → List (String × Option Value)
  | .correctable =>
    [("enabled", none), ("correctableFieldSet", none), ("window", none),
      ("requiresEvidence", some (.bool false)), ("requiresReason", some (.bool true))]
  | .withdrawable =>
    [("enabled", none), ("window", none), ("requiresReason", some (.bool true)),
      ("preDeterminationKernelMode", some (.string "applicant-withdrawn")),
      ("postDeterminationIntent", none), ("requiresIssuerAcceptance", some (.bool false)),
      ("partyScope", some (.string "any-party"))]
  | .disputable =>
    [("enabled", none), ("window", none), ("requiresEvidence", some (.bool false)),
      ("requiresReason", some (.bool true)), ("signerOnly", some (.bool true))]

def normalizeSetting (setting : String) (value : Value) : Option Value :=
  if setting == "window" then some (normalizeRecordLifecycleWindow value)
  else if setting == "correctableFieldSet" then copyFieldSet value
  else some value

def resolveSetting (merged : Value) (setting : String) (byDefault : Option Value) : Option Value :=
  ((merged.get? setting).bind (normalizeSetting setting)).or byDefault

def resolveLifecycleAction (action : LifecycleAction) (merged : Value) : Value :=
  .object ((lifecycleSettings action).map fun (setting, byDefault) =>
    Value.member setting (resolveSetting merged setting byDefault))

def mergeActionPolicy (orgAction formAction : Option Value) : Option Value :=
  if orgAction.isNone && formAction.isNone then none
  else some (.object (spread (orgAction.elim [] (·.members)) (formAction.elim [] (·.members))))

def lifecycleAction (policy : Option Value) (action : LifecycleAction) : Option Value :=
  policy.bind (·.get? action.name)

def resolveRecordLifecyclePolicy (orgPolicy formPolicy : Option Value) : Option Value :=
  if !orgPolicy.any (·.isTruthy) && !formPolicy.any (·.isTruthy) then none
  else some (.object (lifecycleActions.flatMap fun action =>
    Value.optionalMember action.name
      ((mergeActionPolicy (lifecycleAction orgPolicy action) (lifecycleAction formPolicy action)).map
        (resolveLifecycleAction action))))

structure ResolvedRuntimeProfile where
  mode : CompositionMode
  enabled : List RuntimeFeatureKey
  disabled : List (RuntimeFeatureKey × DisabledReason)
  limits : RuntimeFeatureKey → Option Value
  recordLifecycle : Option Value
  multiParty : Option Value
  safeAddress : Option SafeAddressRuntimeConfig

def decideKey (input : ResolveRuntimeFeaturesInput) (key : RuntimeFeatureKey) :
    Except RuntimePolicyError Decision :=
  decideFeature
    { mode := input.mode
      featureKey := key
      capability := input.instanceCapabilities key
      orgMode := input.org.mode key
      formMode := input.form.mode key }

def decideAll (input : ResolveRuntimeFeaturesInput) :
    List RuntimeFeatureKey → Except RuntimePolicyError (List (RuntimeFeatureKey × Decision))
  | [] => .ok []
  | key :: keys => do
      let decision ← decideKey input key
      let decisions ← decideAll input keys
      return (key, decision) :: decisions

def enabledKeys (decisions : List (RuntimeFeatureKey × Decision)) : List RuntimeFeatureKey :=
  decisions.filterMap fun (key, decision) =>
    match decision with
    | .enabled => some key
    | .disabled _ => none

def disabledKeys (decisions : List (RuntimeFeatureKey × Decision)) :
    List (RuntimeFeatureKey × DisabledReason) :=
  decisions.filterMap fun (key, decision) =>
    match decision with
    | .enabled => none
    | .disabled reason => some (key, reason)

def whenEnabled {α : Type} (enabled : List RuntimeFeatureKey) (key : RuntimeFeatureKey)
    (resolve : Except RuntimePolicyError α) : Except RuntimePolicyError (Option α) :=
  if enabled.contains key then return some (← resolve) else return none

def resolveRuntimeFeatures (input : ResolveRuntimeFeaturesInput) :
    Except RuntimePolicyError ResolvedRuntimeProfile := do
  validateInput input
  let decisions ← decideAll input runtimeFeatureKeys
  let enabled := enabledKeys decisions
  let limits := fun key =>
    if enabled.contains key then mergeFeatureLimits (input.org.limits key) (input.form.limits key)
    else none
  let multiParty ← whenEnabled enabled .multiParty (resolveMultiPartyPolicy (limits .multiParty))
  let safeAddress ← whenEnabled enabled .safeAddress
    (resolveSafeAddressPolicy (input.org.limits .safeAddress) (input.form.limits .safeAddress))
  return {
    mode := input.mode
    enabled := enabled
    disabled := disabledKeys decisions
    limits := limits
    recordLifecycle :=
      if enabled.contains .recordLifecycle then
        resolveRecordLifecyclePolicy input.org.recordLifecycle input.form.recordLifecycle
      else none
    multiParty := multiParty
    safeAddress := safeAddress }

/-! ## What resolution says of an enabled feature -/

theorem canSatisfy_declared {mode : CompositionMode} {capability : CapabilityAvailability}
    (h : canSatisfy mode capability = true) : capability ≠ .unavailable := by
  rintro rfl
  cases h

theorem enabledIfSatisfied_enabled {input : DecisionInput} {cause : DisabledCause} {text : String}
    (h : enabledIfSatisfied input cause text = .enabled) :
    canSatisfy input.mode input.capability = true := by
  unfold enabledIfSatisfied at h
  split at h
  · assumption
  · cases h

theorem decideFeature_enabled {input : DecisionInput}
    (h : decideFeature input = .ok .enabled) : canSatisfy input.mode input.capability = true := by
  simp only [decideFeature, failIf_bind_ok] at h
  obtain ⟨-, -, horg, hform, h⟩ := h
  split at h
  · rename_i hrequired
    rcases Bool.or_eq_true_iff.mp hrequired with hmode | hmode
    · simpa [hmode] using hform
    · simpa [hmode] using horg
  split at h
  · cases h
  split at h
  · cases h
  split at h
  · exact enabledIfSatisfied_enabled (Except.ok.inj h)
  split at h
  · exact enabledIfSatisfied_enabled (Except.ok.inj h)
  · cases h

variable {decisions : List (RuntimeFeatureKey × Decision)}

variable {input : ResolveRuntimeFeaturesInput}

variable {key : RuntimeFeatureKey}

theorem decideAll_mem {keys : List RuntimeFeatureKey}
    (h : decideAll input keys = .ok decisions)
    {decision : Decision} (hmem : (key, decision) ∈ decisions) :
    decideKey input key = .ok decision := by
  induction keys generalizing decisions with
  | nil =>
    cases h
    cases hmem
  | cons first keys ih =>
    simp only [decideAll, sequence_ok] at h
    obtain ⟨found, hfound, rest, hrest, heq⟩ := h
    cases heq
    rcases List.mem_cons.mp hmem with hhead | htail
    · cases hhead
      exact hfound
    · exact ih hrest htail

theorem mem_enabledKeys
    (h : key ∈ enabledKeys decisions) : (key, .enabled) ∈ decisions := by
  obtain ⟨⟨found, decision⟩, hmem, henabled⟩ := List.mem_filterMap.mp h
  cases decision with
  | enabled =>
    cases henabled
    exact hmem
  | disabled reason => cases henabled

theorem resolve_enabled {profile : ResolvedRuntimeProfile}
    (h : resolveRuntimeFeatures input = .ok profile)
    (hkey : key ∈ profile.enabled) :
    canSatisfy input.mode (input.instanceCapabilities key) = true := by
  simp only [resolveRuntimeFeatures, sequence_ok] at h
  obtain ⟨_, -, decisions, hdecisions, multiParty, -, safeAddress, -, heq⟩ := h
  cases heq
  exact decideFeature_enabled (decideAll_mem hdecisions (mem_enabledKeys hkey))

theorem decideFeature_required {input : DecisionInput} {decision : Decision}
    (hform : input.formMode = some .required) (h : decideFeature input = .ok decision) :
    decision = .enabled := by
  simp only [decideFeature, failIf_bind_ok, hform] at h
  obtain ⟨-, -, -, -, h⟩ := h
  exact (Except.ok.inj h).symm

theorem decideAll_covers {keys : List RuntimeFeatureKey}
    (h : decideAll input keys = .ok decisions)
    (hkey : key ∈ keys) : ∃ decision, (key, decision) ∈ decisions := by
  induction keys generalizing decisions with
  | nil => cases hkey
  | cons first keys ih =>
    simp only [decideAll, sequence_ok] at h
    obtain ⟨found, -, rest, hrest, heq⟩ := h
    cases heq
    rcases List.mem_cons.mp hkey with rfl | htail
    · exact ⟨found, List.mem_cons_self⟩
    · obtain ⟨decision, hmem⟩ := ih hrest htail
      exact ⟨decision, List.mem_cons_of_mem _ hmem⟩

theorem enabledKeys_of_mem
    (h : (key, .enabled) ∈ decisions) : key ∈ enabledKeys decisions :=
  List.mem_filterMap.mpr ⟨_, h, rfl⟩

theorem resolve_safeAddress {profile : ResolvedRuntimeProfile}
    (h : resolveRuntimeFeatures input = .ok profile) :
    (∀ config, profile.safeAddress = some config →
        resolveSafeAddressPolicy (input.org.limits .safeAddress) (input.form.limits .safeAddress)
          = .ok config)
      ∧ (input.form.mode .safeAddress = some .required → profile.safeAddress.isSome = true) := by
  simp only [resolveRuntimeFeatures, sequence_ok] at h
  obtain ⟨_, -, decisions, hdecisions, multiParty, -, safeAddress, hsafeAddress, heq⟩ := h
  cases heq
  unfold whenEnabled at hsafeAddress
  split at hsafeAddress
  · obtain ⟨config, hconfig, hsome⟩ := sequence_ok.mp hsafeAddress
    cases hsome
    refine ⟨fun found hfound => ?_, fun _ => rfl⟩
    cases hfound
    exact hconfig
  · rename_i hdisabled
    cases hsafeAddress
    refine ⟨(fun found hfound => by cases hfound), fun hrequired => ?_⟩
    obtain ⟨decision, hmem⟩ := decideAll_covers hdecisions
      (show RuntimeFeatureKey.safeAddress ∈ runtimeFeatureKeys by decide)
    obtain rfl := decideFeature_required hrequired (decideAll_mem hdecisions hmem)
    exact absurd (List.contains_iff_mem.mpr (enabledKeys_of_mem hmem)) hdisabled

end FormspecWeb.Policy
