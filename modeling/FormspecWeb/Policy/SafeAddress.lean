import FormspecWeb.Policy.FormRuntimePolicyExtractor

/-!
# The resolved safe-address configuration

Whom a protected value may be disclosed to in the clear, and which settings of the
organisation a form that says nothing of them leaves in place.
-/

namespace FormspecWeb.Policy

open Shared

variable {authorized : List String} {declared resolved : SafeAddressFieldPolicy}
  {orgLimit formLimit : Option Value} {config : SafeAddressRuntimeConfig}

def organisationAudiences (orgLimit : Option Value) : List String :=
  resolveSafeAddressAuthorizedAudiences (orgLimit.bind (·.get? "authorizedAudiences")) none

def organisationTier (orgLimit : Option Value) : SafeAddressReceiptPostureTier :=
  ((orgLimit.bind (·.get? "receiptPostureTier")).bind receiptPostureTier?).getD .phase1Fallback

def organisationDirectoryRef (orgLimit : Option Value) : String :=
  ((orgLimit.bind (·.get? "substituteAddressDirectoryRef")).bind (·.nonEmptyString?)).getD
    "composition:safeAddressDirectory"

def declaredFields (formLimit : Option Value) : List SafeAddressFieldPolicy :=
  fieldPolicies (formLimit.bind (·.get? "fields"))

theorem authorizedAudiences_subset (orgValue formValue : Option Value) :
    resolveSafeAddressAuthorizedAudiences orgValue formValue
      ⊆ resolveSafeAddressAuthorizedAudiences orgValue none := by
  unfold resolveSafeAddressAuthorizedAudiences
  cases nonEmptyStrings? formValue with
  | none => exact List.Subset.refl _
  | some formAudiences =>
    intro audience haudience
    exact List.contains_iff_mem.mp (List.mem_filter.mp haudience).2

/-! ## The audience of one field -/

/-- The plaintext audiences of a field are some, authorized, and among those that each
list of the declaration allows. -/
structure AudienceContained (authorized : List String)
    (declared resolved : SafeAddressFieldPolicy) : Prop where
  nonEmpty : ∃ audience audiences, resolved.plaintextAudiences = some (audience :: audiences)
  authorized : ∀ audiences, resolved.plaintextAudiences = some audiences → audiences ⊆ authorized
  visible : ∀ audiences, resolved.plaintextAudiences = some audiences →
    ∀ visible, declared.visibleTo = some visible → audiences ⊆ visible
  own : ∀ audiences, resolved.plaintextAudiences = some audiences →
    ∀ own, declared.plaintextAudiences = some own → audiences ⊆ own

/-- The effective audiences of a declaration are among its plaintext ones. -/
def EffectiveWithinOwn (declared : SafeAddressFieldPolicy) : Prop :=
  ∀ own effective, declared.plaintextAudiences = some own →
    declared.effectiveAudiences = some effective → effective ⊆ own

theorem any_not_contains {entries allowed : List String} :
    (entries.any fun entry => !allowed.contains entry) = false ↔ entries ⊆ allowed := by
  rw [List.any_eq_false]
  simp [List.subset_def]

theorem exists_cons_of_isEmpty {entries : List String} (h : entries.isEmpty = false) :
    ∃ entry rest, entries = entry :: rest := by
  cases entries with
  | nil => cases h
  | cons entry rest => exact ⟨entry, rest, rfl⟩

theorem resolve_effective {effective : List String}
    (heffective : declared.effectiveAudiences = some effective)
    (h : resolveSafeAddressFieldAudience authorized declared = .ok resolved) :
    resolved.plaintextAudiences = some effective ∧ effective.isEmpty = false
      ∧ effective ⊆ authorized
      ∧ ∀ visible, declared.visibleTo = some visible → effective ⊆ visible := by
  simp only [resolveSafeAddressFieldAudience, heffective, failIf_bind_ok] at h
  obtain ⟨hempty, hauthorized, hvisible, heq⟩ := h
  cases heq
  refine ⟨rfl, hempty, any_not_contains.mp hauthorized, fun visible hsome => ?_⟩
  rw [hsome, Option.any_some] at hvisible
  exact any_not_contains.mp hvisible

theorem resolve_intersection (heffective : declared.effectiveAudiences = none)
    (h : resolveSafeAddressFieldAudience authorized declared = .ok resolved) :
    ∃ audiences, resolved.plaintextAudiences = some audiences ∧ audiences.isEmpty = false
      ∧ audiences ⊆ authorized
      ∧ (∀ visible, declared.visibleTo = some visible → audiences ⊆ visible)
      ∧ ∀ own, declared.plaintextAudiences = some own → audiences ⊆ own := by
  simp only [resolveSafeAddressFieldAudience, heffective, failIf_bind_ok] at h
  obtain ⟨hempty, h⟩ := h
  have hauthorized : (declared.plaintextAudiences.getD authorized).filter authorized.contains
      ⊆ authorized :=
    fun audience haudience => List.contains_iff_mem.mp (List.mem_filter.mp haudience).2
  have hown : ∀ own, declared.plaintextAudiences = some own →
      (declared.plaintextAudiences.getD authorized).filter authorized.contains ⊆ own := by
    intro own hsome audience haudience
    rw [hsome] at haudience
    exact (List.mem_filter.mp haudience).1
  cases hvisible : declared.visibleTo with
  | none =>
    rw [hvisible] at h
    cases h
    exact ⟨_, rfl, hempty, hauthorized, (fun _ h => by cases h), hown⟩
  | some visible =>
    rw [hvisible] at h
    simp only [failIf_bind_ok] at h
    obtain ⟨hintersection, heq⟩ := h
    cases heq
    have hplaintext : ∀ audience ∈ visible.filter
        ((declared.plaintextAudiences.getD authorized).filter authorized.contains).contains,
        audience ∈ (declared.plaintextAudiences.getD authorized).filter authorized.contains :=
      fun audience haudience => List.contains_iff_mem.mp (List.mem_filter.mp haudience).2
    refine ⟨_, rfl, hintersection, fun audience haudience => ?_, fun found hfound => ?_,
      fun own hsome audience haudience => ?_⟩
    · exact hauthorized (hplaintext audience haudience)
    · cases hfound
      exact List.filter_sublist.subset
    · exact hown own hsome (hplaintext audience haudience)

theorem audienceContained_iff {allowed : List String} (hallowed : authorized ⊆ allowed)
    (h : resolveSafeAddressFieldAudience authorized declared = .ok resolved) :
    AudienceContained allowed declared resolved ↔ EffectiveWithinOwn declared := by
  cases heffective : declared.effectiveAudiences with
  | some effective =>
    obtain ⟨haudiences, hempty, hauthorized, hvisible⟩ := resolve_effective heffective h
    constructor
    · intro hcontained own found hown hfound
      rw [heffective] at hfound
      cases hfound
      exact hcontained.own effective haudiences own hown
    · intro hwithin
      obtain ⟨audience, audiences, rfl⟩ := exists_cons_of_isEmpty hempty
      refine ⟨⟨audience, audiences, haudiences⟩, fun found hfound => ?_,
        fun found hfound => ?_, fun found hfound own hown => ?_⟩
      all_goals
        rw [haudiences] at hfound
        cases hfound
      · exact fun audience haudience => hallowed (hauthorized haudience)
      · exact hvisible
      · exact hwithin own _ hown heffective
  | none =>
    obtain ⟨audiences, haudiences, hempty, hauthorized, hvisible, hown⟩ :=
      resolve_intersection heffective h
    refine iff_of_true ?_ fun own effective _ hfound => by rw [heffective] at hfound; cases hfound
    obtain ⟨audience, rest, rfl⟩ := exists_cons_of_isEmpty hempty
    refine ⟨⟨audience, rest, haudiences⟩, fun found hfound => ?_,
      fun found hfound => ?_, fun found hfound => ?_⟩
    all_goals
      rw [haudiences] at hfound
      cases hfound
    · exact fun audience haudience => hallowed (hauthorized haudience)
    · exact hvisible
    · exact hown

/-! ## The configuration -/

theorem resolveSafeAddressPolicy_ok (h : resolveSafeAddressPolicy orgLimit formLimit = .ok config) :
    config.authorizedAudiences = resolveSafeAddressAuthorizedAudiences
        (orgLimit.bind (·.get? "authorizedAudiences")) (formLimit.bind (·.get? "authorizedAudiences"))
      ∧ config.receiptPostureTier
        = ((formLimit.bind (·.get? "receiptPostureTier")).bind receiptPostureTier?).getD
          (organisationTier orgLimit)
      ∧ config.substituteAddressDirectoryRef
        = ((formLimit.bind (·.get? "substituteAddressDirectoryRef")).bind (·.nonEmptyString?)).getD
          (organisationDirectoryRef orgLimit)
      ∧ safeAddressTierRank config.receiptPostureTier
        ≤ safeAddressTierRank (organisationTier orgLimit)
      ∧ List.Forall₂ (fun declared resolved =>
          resolveSafeAddressFieldAudience config.authorizedAudiences declared = .ok resolved)
        (declaredFields formLimit) config.fields := by
  simp only [resolveSafeAddressPolicy, failIf_bind_ok] at h
  obtain ⟨-, -, -, -, hrank, h⟩ := h
  obtain ⟨fields, hfields, heq⟩ := sequence_ok.mp h
  cases heq
  refine ⟨rfl, rfl, ?_, ?_, mapM_ok.mp hfields⟩
  · simp only [organisationDirectoryRef]
    cases (formLimit.bind (·.get? "substituteAddressDirectoryRef")).bind (·.nonEmptyString?) <;> rfl
  · simpa [organisationTier] using hrank

theorem resolvedJurisdictions_ne_nil (h : resolveSafeAddressPolicy orgLimit formLimit = .ok config) :
    config.acpJurisdictionsAccepted ≠ [] := by
  simp only [resolveSafeAddressPolicy, failIf_bind_ok] at h
  obtain ⟨-, -, hjurisdictions, -, -, h⟩ := h
  obtain ⟨fields, -, heq⟩ := sequence_ok.mp h
  cases heq
  exact List.isEmpty_eq_false_iff.mp hjurisdictions

/-- A configuration discloses no field beyond its declaration, and exceeds the organisation in
neither audience nor tier. -/
structure SafeAddressContained (orgLimit formLimit : Option Value)
    (config : SafeAddressRuntimeConfig) : Prop where
  fields : List.Forall₂ (AudienceContained (organisationAudiences orgLimit))
    (declaredFields formLimit) config.fields
  authorized : config.authorizedAudiences ⊆ organisationAudiences orgLimit
  tier : safeAddressTierRank config.receiptPostureTier
    ≤ safeAddressTierRank (organisationTier orgLimit)

theorem safeAddressContained_iff (h : resolveSafeAddressPolicy orgLimit formLimit = .ok config) :
    SafeAddressContained orgLimit formLimit config
      ↔ ∀ declared ∈ declaredFields formLimit, EffectiveWithinOwn declared := by
  obtain ⟨haudiences, -, -, hrank, hfields⟩ := resolveSafeAddressPolicy_ok h
  have hauthorized : config.authorizedAudiences ⊆ organisationAudiences orgLimit := by
    rw [haudiences]
    exact authorizedAudiences_subset _ _
  have hcontained : List.Forall₂ (AudienceContained (organisationAudiences orgLimit))
      (declaredFields formLimit) config.fields
        ↔ ∀ declared ∈ declaredFields formLimit, EffectiveWithinOwn declared :=
    forall₂_iff_left hfields fun declared resolved hresolved =>
      audienceContained_iff hauthorized hresolved
  constructor
  · intro hall
    exact hcontained.mp hall.fields
  · intro hall
    exact ⟨hcontained.mpr hall, hauthorized, hrank⟩

variable {input : ResolveRuntimeFeaturesInput} {profile : ResolvedRuntimeProfile}

/-- The plaintext of a protected field stays with the audiences its declaration and the
organisation allow exactly when no declared effective audience leaves the plaintext ones. -/
theorem resolved_safeAddress_contained (h : resolveRuntimeFeatures input = .ok profile)
    (hconfig : profile.safeAddress = some config) :
    SafeAddressContained (input.org.limits .safeAddress) (input.form.limits .safeAddress) config
      ↔ ∀ declared ∈ declaredFields (input.form.limits .safeAddress), EffectiveWithinOwn declared :=
  safeAddressContained_iff ((resolve_safeAddress h).1 config hconfig)

/-- An organisation that authorizes two audiences, and a form whose field declares these
effective audiences for a plaintext audience of its own. -/
def shelterInput (effective : List String) : ResolveRuntimeFeaturesInput where
  mode := .production
  instanceCapabilities := fun
    | .safeAddress => .available
    | _ => .unavailable
  org :=
    { features := [("safeAddress", some .allowed)]
      limits := fun
        | .safeAddress => some (.object [("authorizedAudiences", .ofStrings ["issuer", "county"]),
            ("acpJurisdictionsAccepted", .ofStrings ["WA"])])
        | _ => none
      recordLifecycle := none }
  form :=
    { features := [("safeAddress", some .required)]
      limits := fun
        | .safeAddress => some (.object [("fields", .array [.object [("path", .string "/home"),
            ("accessClass", .string "safe-address"), ("plaintextAudiences", .ofStrings ["issuer"]),
            ("effectiveAudiences", .ofStrings effective)]])])
        | _ => none
      recordLifecycle := none }
  urlOrigin := fun _ => none

def shelterConfig (effective : List String) : SafeAddressRuntimeConfig where
  enabledClasses := [.safeAddress]
  receiptPostureTier := .phase1Fallback
  substituteAddressDirectoryRef := "composition:safeAddressDirectory"
  acpJurisdictionsAccepted := ["WA"]
  authorizedAudiences := ["issuer", "county"]
  fields := [⟨"/home", none, .safeAddress, none, some effective, some effective⟩]
  rendererHints := none

def resolvedSafeAddress? (input : ResolveRuntimeFeaturesInput) : Option SafeAddressRuntimeConfig :=
  (resolveRuntimeFeatures input).toOption.bind (·.safeAddress)

theorem exists_profile (input : ResolveRuntimeFeaturesInput) (config : SafeAddressRuntimeConfig)
    (h : resolvedSafeAddress? input = some config) :
    ∃ profile, resolveRuntimeFeatures input = .ok profile ∧ profile.safeAddress = some config := by
  unfold resolvedSafeAddress? at h
  cases hresolved : resolveRuntimeFeatures input with
  | error error =>
    rw [hresolved] at h
    cases h
  | ok profile =>
    rw [hresolved] at h
    exact ⟨profile, rfl, h⟩

theorem resolved_safeAddress_contained_issuer :
    ∃ profile, resolveRuntimeFeatures (shelterInput ["issuer"]) = .ok profile
      ∧ profile.safeAddress = some (shelterConfig ["issuer"])
      ∧ SafeAddressContained ((shelterInput ["issuer"]).org.limits .safeAddress)
        ((shelterInput ["issuer"]).form.limits .safeAddress) (shelterConfig ["issuer"]) := by
  obtain ⟨profile, hprofile, hconfig⟩ := exists_profile (shelterInput ["issuer"])
    (shelterConfig ["issuer"]) (by decide +kernel)
  refine ⟨profile, hprofile, hconfig,
    (resolved_safeAddress_contained hprofile hconfig).mpr fun declared hdeclared => ?_⟩
  obtain rfl := List.mem_singleton.mp hdeclared
  intro own effective hown heffective
  cases hown
  cases heffective
  exact List.Subset.refl _

/-- An effective audience the field does not list is disclosed to. -/
theorem resolved_safeAddress_uncontained_county :
    ∃ profile, resolveRuntimeFeatures (shelterInput ["county"]) = .ok profile
      ∧ profile.safeAddress = some (shelterConfig ["county"])
      ∧ ¬ SafeAddressContained ((shelterInput ["county"]).org.limits .safeAddress)
        ((shelterInput ["county"]).form.limits .safeAddress) (shelterConfig ["county"]) := by
  obtain ⟨profile, hprofile, hconfig⟩ := exists_profile (shelterInput ["county"])
    (shelterConfig ["county"]) (by decide +kernel)
  refine ⟨profile, hprofile, hconfig, fun hcontained => ?_⟩
  obtain ⟨hfield, -⟩ := List.forall₂_cons.mp hcontained.fields
  have hown := hfield.own _ rfl _ rfl List.mem_cons_self
  exact absurd hown (by decide)

/-! ## Settings a form does not mention -/

variable {extractors : List FormRuntimePolicyExtractor} {definition : FormDefinition}

def SilentOn (definition : FormDefinition) (setting : String) : Prop :=
  (definition.extension "x-formspec-safe-address").bind (·.get? setting) = none

theorem parseSafeAddressBlock_silentTier {raw : Option Value}
    (h : raw.bind (·.get? "receiptPostureTier") = none) :
    (parseSafeAddressBlock raw).receiptPostureTier = none := by
  rcases raw with _ | value
  · rfl
  · cases value with
    | bool flag => cases flag <;> rfl
    | object members =>
      simp only [Option.bind_some] at h
      simp only [parseSafeAddressBlock, h, Option.bind_none]
    | _ => rfl

theorem parseSafeAddressBlock_silentRef {raw : Option Value}
    (h : raw.bind (·.get? "substituteAddressDirectoryRef") = none) :
    (parseSafeAddressBlock raw).substituteAddressDirectoryRef = none := by
  rcases raw with _ | value
  · rfl
  · cases value with
    | bool flag => cases flag <;> rfl
    | object members =>
      simp only [Option.bind_some] at h
      simp only [parseSafeAddressBlock, h, Option.bind_none]
    | _ => rfl

theorem extractSafeAddressPolicy_fields (hfields : safeAddressFields definition ≠ []) :
    ∃ policy, extractSafeAddressPolicy definition = some policy
      ∧ policy.features.lookup "safeAddress" = some (some .required)
      ∧ policy.limits .safeAddress = some (safeAddressConfig (parseSafeAddressBlock
        (definition.extension "x-formspec-safe-address")) (safeAddressFields definition)).toValue := by
  have hempty : (safeAddressFields definition).isEmpty = false := by
    simpa using hfields
  simp only [extractSafeAddressPolicy, hempty, Bool.and_false, Bool.false_eq_true, if_false]
  exact ⟨_, rfl, rfl, rfl⟩

theorem safeAddressConfig_silent (definition : FormDefinition) (fields : List SafeAddressFieldPolicy) :
    (SilentOn definition "receiptPostureTier" →
        ((safeAddressConfig (parseSafeAddressBlock (definition.extension "x-formspec-safe-address"))
          fields).toValue.get? "receiptPostureTier").bind receiptPostureTier? = some .phase1Fallback)
      ∧ (SilentOn definition "substituteAddressDirectoryRef" →
        ((safeAddressConfig (parseSafeAddressBlock (definition.extension "x-formspec-safe-address"))
          fields).toValue.get? "substituteAddressDirectoryRef").bind (·.nonEmptyString?)
          = some "composition:safeAddressDirectory") := by
  constructor
  · intro hsilent
    rw [safeAddressConfig, parseSafeAddressBlock_silentTier hsilent]
    rfl
  · intro hsilent
    rw [safeAddressConfig, parseSafeAddressBlock_silentRef hsilent]
    rfl

/-- The configuration carries the settings of the organisation the definition is silent on. -/
def CarriesOrganisation (definition : FormDefinition) (orgLimit : Option Value)
    (config : SafeAddressRuntimeConfig) : Prop :=
  (SilentOn definition "receiptPostureTier" →
      config.receiptPostureTier = organisationTier orgLimit)
    ∧ (SilentOn definition "substituteAddressDirectoryRef" →
      config.substituteAddressDirectoryRef = organisationDirectoryRef orgLimit)

def HasExtractorDefaults (definition : FormDefinition) (orgLimit : Option Value) : Prop :=
  (SilentOn definition "receiptPostureTier" → organisationTier orgLimit = .phase1Fallback)
    ∧ (SilentOn definition "substituteAddressDirectoryRef" →
      organisationDirectoryRef orgLimit = "composition:safeAddressDirectory")

/-- A definition that declares protected fields keeps the organisation's settings it does not
mention exactly where they are the defaults of the extractor. -/
theorem silent_safeAddress_kept (hmem : .safeAddressPolicy ∈ extractors)
    (hform : input.form = compositeExtract extractors definition)
    (hfields : safeAddressFields definition ≠ [])
    (h : resolveRuntimeFeatures input = .ok profile) :
    ∃ config, profile.safeAddress = some config
      ∧ (CarriesOrganisation definition (input.org.limits .safeAddress) config
        ↔ HasExtractorDefaults definition (input.org.limits .safeAddress)) := by
  obtain ⟨policy, hextract, hfeature, hwritten⟩ := extractSafeAddressPolicy_fields hfields
  obtain ⟨hlimit, hmode⟩ := compositeExtract_safeAddress definition hmem
  rw [hextract, Option.bind_some, ← hform, hwritten] at hlimit
  rw [hextract, Option.bind_some, ← hform, hfeature] at hmode
  have hrequired : input.form.mode .safeAddress = some .required := by
    rw [RuntimePolicy.mode, show RuntimeFeatureKey.safeAddress.name = "safeAddress" from rfl, hmode]
    rfl
  obtain ⟨hresolves, hsome⟩ := resolve_safeAddress h
  obtain ⟨config, hconfig⟩ := Option.isSome_iff_exists.mp (hsome hrequired)
  obtain ⟨-, htier, href, -, -⟩ := resolveSafeAddressPolicy_ok (hresolves config hconfig)
  rw [hlimit] at htier href
  obtain ⟨hsilentTier, hsilentRef⟩ :=
    safeAddressConfig_silent definition (safeAddressFields definition)
  refine ⟨config, hconfig, and_congr (forall_congr' fun hsilent => ?_)
    (forall_congr' fun hsilent => ?_)⟩
  · rw [htier, Option.bind_some, hsilentTier hsilent]
    exact eq_comm
  · rw [href, Option.bind_some, hsilentRef hsilent]
    exact eq_comm

def shelterDefinition : FormDefinition where
  items := [.node ⟨"home", .field, "Home", none,
    some (.object [("class", .string "safe-address")]), none⟩ []]
  extension := fun _ => none

def shelterOrgInput (tier : SafeAddressReceiptPostureTier) : ResolveRuntimeFeaturesInput where
  mode := .production
  instanceCapabilities := fun
    | .safeAddress => .available
    | _ => .unavailable
  org :=
    { features := [("safeAddress", some .allowed)]
      limits := fun
        | .safeAddress => some (.object [("receiptPostureTier", .string tier.text),
            ("acpJurisdictionsAccepted", .ofStrings ["WA"])])
        | _ => none
      recordLifecycle := none }
  form := compositeExtract [.safeAddressPolicy] shelterDefinition
  urlOrigin := fun _ => none

def shelterDefinitionConfig : SafeAddressRuntimeConfig where
  enabledClasses := [.safeAddress]
  receiptPostureTier := .phase1Fallback
  substituteAddressDirectoryRef := "composition:safeAddressDirectory"
  acpJurisdictionsAccepted := ["WA"]
  authorizedAudiences := ["issuer_verification"]
  fields := [⟨"/home", some "Home", .safeAddress, none, some ["issuer_verification"], none⟩]
  rendererHints := none

theorem silent_safeAddress_kept_fallback :
    ∃ profile config, resolveRuntimeFeatures (shelterOrgInput .phase1Fallback) = .ok profile
      ∧ profile.safeAddress = some config
      ∧ CarriesOrganisation shelterDefinition
        ((shelterOrgInput .phase1Fallback).org.limits .safeAddress) config := by
  have hfields : safeAddressFields shelterDefinition ≠ [] := List.cons_ne_nil _ _
  obtain ⟨profile, hprofile, -⟩ := exists_profile (shelterOrgInput .phase1Fallback)
    shelterDefinitionConfig (by decide +kernel)
  obtain ⟨config, hconfig, hkept⟩ := silent_safeAddress_kept List.mem_cons_self
    (show (shelterOrgInput .phase1Fallback).form = compositeExtract _ shelterDefinition from rfl)
    hfields hprofile
  exact ⟨profile, config, hprofile, hconfig, hkept.mpr ⟨fun _ => rfl, fun _ => rfl⟩⟩

/-- A deployment of the higher tier is resolved to the fallback the form never asked for. -/
theorem silent_safeAddress_replaced_verifierGrade :
    ∃ profile, resolveRuntimeFeatures (shelterOrgInput .verifierGrade) = .ok profile
      ∧ profile.safeAddress = some shelterDefinitionConfig
      ∧ SilentOn shelterDefinition "receiptPostureTier"
      ∧ organisationTier ((shelterOrgInput .verifierGrade).org.limits .safeAddress) = .verifierGrade
      ∧ ¬ CarriesOrganisation shelterDefinition
        ((shelterOrgInput .verifierGrade).org.limits .safeAddress) shelterDefinitionConfig := by
  obtain ⟨profile, hprofile, hconfig⟩ := exists_profile (shelterOrgInput .verifierGrade)
    shelterDefinitionConfig (by decide +kernel)
  refine ⟨profile, hprofile, hconfig, rfl, rfl, fun hcarries => ?_⟩
  cases hcarries.1 rfl

end FormspecWeb.Policy
