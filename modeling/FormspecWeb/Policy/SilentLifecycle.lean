import FormspecWeb.Policy.FormRuntimePolicyExtractor
import FormspecWeb.Policy.RecordLifecycle

/-!
# Settings a form does not mention

The parser of a lifecycle action writes every setting, as `undefined` where the
definition is silent, and the merge takes whatever the form owns. So a setting the
form does not mention resolves to its default, and the value of the organisation
survives exactly where it is that default.
-/

namespace FormspecWeb.Policy

open Shared

variable {action : LifecycleAction} {setting : String} {byDefault : Option Value}
  {definition : FormDefinition}

def lifecycleBlock (definition : FormDefinition) : Option Value :=
  if (parseRecordLifecycleBlock (definition.governance "recordLifecycle")).isSome then
    definition.governance "recordLifecycle"
  else definition.extension "x-formspec-record-lifecycle"

def declaredAction (definition : FormDefinition) (action : LifecycleAction) : Option Value :=
  lifecycleAction (lifecycleBlock definition) action

/-- The definition turns the action on and says nothing about the setting. -/
structure SilentAbout (definition : FormDefinition) (action : LifecycleAction)
    (setting : String) : Prop where
  turnsOn : isFlag ((declaredAction definition action).bind (·.get? "enabled")) = true
  silent : (declaredAction definition action).bind (·.get? setting) = none

def organisationSetting (org : OrgRuntimePolicy) (action : LifecycleAction) (setting : String)
    (byDefault : Option Value) : Option Value :=
  resolveSetting ((lifecycleAction org.recordLifecycle action).getD (.object [])) setting byDefault

/-! ## What the extractor writes -/

theorem block?_of_get? {value found : Value} {key : String} (h : value.get? key = some found) :
    block? (some value) = some value := by
  cases value with
  | object members => rfl
  | _ => cases h

theorem eq_true_of_isFlag {value : Option Value} (h : isFlag value = true) :
    value = some (.bool true) := by
  obtain ⟨found, rfl, htrue⟩ := (Option.any_eq_true _ _).mp h
  cases found with
  | bool flag =>
    obtain rfl : flag = true := htrue
    rfl
  | _ => cases htrue

theorem parseActionBlock_of_flag {block : Value} (h : isFlag (block.get? "enabled") = true) :
    parseActionBlock (some block) = some block := by
  have henabled := eq_true_of_isFlag h
  rw [parseActionBlock, block?_of_get? henabled, Option.filter_some, henabled]
  rfl

theorem parseLifecycleAction_silent {block : Value} (hon : isFlag (block.get? "enabled") = true)
    (hsetting : (lifecycleSettings action).lookup setting = some byDefault)
    (hsilent : block.get? setting = none) :
    ∃ parsed, parseLifecycleAction action (some block) = some (.object parsed)
      ∧ isFlag ((Value.object parsed).get? "enabled") = true
      ∧ parsed.lookup setting = some .undefined := by
  have hmem : setting ∈ (lifecycleSettings action).map Prod.fst := by
    obtain ⟨before, after, hsettings, -⟩ := List.lookup_eq_some_iff.mp hsetting
    rw [hsettings]
    simp
  have hnotEnabled : setting ≠ "enabled" := by
    rintro rfl
    rw [hsilent] at hon
    cases hon
  cases action with
  | correctable =>
    simp only [parseLifecycleAction, parseCorrectablePolicy, parseActionBlock_of_flag hon,
      Option.map_some]
    refine ⟨_, rfl, by rw [eq_true_of_isFlag hon]; rfl, ?_⟩
    simp only [lifecycleSettings, List.map_cons, List.map_nil, List.mem_cons, List.not_mem_nil,
      or_false] at hmem
    rcases hmem with rfl | rfl | rfl | rfl | rfl
    · exact absurd rfl hnotEnabled
    all_goals
      rw [hsilent]
      rfl
  | withdrawable =>
    simp only [parseLifecycleAction, parseWithdrawablePolicy, parseActionBlock_of_flag hon,
      Option.map_some]
    refine ⟨_, rfl, by rw [eq_true_of_isFlag hon]; rfl, ?_⟩
    simp only [lifecycleSettings, List.map_cons, List.map_nil, List.mem_cons, List.not_mem_nil,
      or_false] at hmem
    rcases hmem with rfl | rfl | rfl | rfl | rfl | rfl | rfl
    · exact absurd rfl hnotEnabled
    all_goals
      rw [hsilent]
      rfl
  | disputable =>
    simp only [parseLifecycleAction, parseDisputablePolicy, parseActionBlock_of_flag hon,
      Option.map_some]
    refine ⟨_, rfl, by rw [eq_true_of_isFlag hon]; rfl, ?_⟩
    simp only [lifecycleSettings, List.map_cons, List.map_nil, List.mem_cons, List.not_mem_nil,
      or_false] at hmem
    rcases hmem with rfl | rfl | rfl | rfl | rfl
    · exact absurd rfl hnotEnabled
    all_goals
      rw [hsilent]
      rfl

theorem parseLifecycleActions_get? (block : Value) (action : LifecycleAction) :
    (parseLifecycleActions block).get? action.name
      = (parseLifecycleAction action (block.get? action.name)).bind Value.defined? := by
  have hlookup : (parseLifecycleActions block).members.lookup action.name
      = some ((parseLifecycleAction action (block.get? action.name)).getD .undefined) := by
    cases action <;> rfl
  rw [Value.get?, hlookup]
  cases parseLifecycleAction action (block.get? action.name) <;> rfl

theorem parseRecordLifecycleBlock_of_flag {block found : Value} {parsed : List (String × Value)}
    (hfound : block.get? action.name = some found)
    (hparsed : parseLifecycleAction action (some found) = some (.object parsed))
    (hon : isFlag ((Value.object parsed).get? "enabled") = true) :
    parseRecordLifecycleBlock (some block) = some (parseLifecycleActions block) := by
  have henables : recordLifecycleBlockEnablesAnyAction (parseLifecycleActions block) = true := by
    refine List.any_eq_true.mpr ⟨action, by cases action <;> decide, ?_⟩
    rw [parseLifecycleActions_get?, hfound, hparsed]
    exact hon
  rw [parseRecordLifecycleBlock, block?_of_get? hfound, Option.map_some, Option.filter_some,
    if_pos henables]

/-- The extracted action owns a setting its definition is silent about, as `undefined`. -/
theorem extractRecordLifecyclePolicy_silent (h : SilentAbout definition action setting)
    (hsetting : (lifecycleSettings action).lookup setting = some byDefault) :
    ∃ parsed, lifecycleAction (extractRecordLifecyclePolicy definition) action
        = some (.object parsed)
      ∧ parsed.lookup setting = some .undefined := by
  obtain ⟨hturnsOn, hsilent⟩ := h
  cases hdeclared : declaredAction definition action with
  | none =>
    rw [hdeclared] at hturnsOn
    cases hturnsOn
  | some found =>
    rw [hdeclared] at hturnsOn hsilent
    obtain ⟨parsed, hparsed, hon, hundefined⟩ :=
      parseLifecycleAction_silent hturnsOn hsetting hsilent
    obtain ⟨block, hblock, hfound⟩ := Option.bind_eq_some_iff.mp hdeclared
    have hextract : extractRecordLifecyclePolicy definition = some (parseLifecycleActions block) := by
      have hparse := parseRecordLifecycleBlock_of_flag hfound hparsed hon
      rw [← hblock] at hparse
      unfold lifecycleBlock at hparse
      rw [extractRecordLifecyclePolicy]
      cases hgovernance : parseRecordLifecycleBlock (definition.governance "recordLifecycle") with
      | none =>
        rw [hgovernance] at hparse
        rw [Option.none_or]
        exact hparse
      | some policy =>
        rw [hgovernance, Option.isSome_some, if_pos rfl, hgovernance] at hparse
        rw [Option.some_or]
        exact hparse
    refine ⟨parsed, ?_, hundefined⟩
    rw [hextract, lifecycleAction, Option.bind_some, parseLifecycleActions_get?, hfound, hparsed]
    rfl

/-! ## What the setting resolves to -/

variable {extractors : List FormRuntimePolicyExtractor} {input : ResolveRuntimeFeaturesInput}
  {profile : ResolvedRuntimeProfile} {policy : Value}

theorem compositeExtract_lifecycleAction (hmem : .recordLifecycle ∈ extractors)
    (action : LifecycleAction) :
    lifecycleAction (compositeExtract extractors definition).recordLifecycle action
      = lifecycleAction (extractRecordLifecyclePolicy definition) action := by
  have hread : ∀ found : Option Value, lifecycleAction found action
      = ((lifecycleMembers found).lookup action.name).bind Value.defined? := by
    intro found
    cases found <;> rfl
  rw [hread, hread, compositeExtract_recordLifecycle hmem]

theorem silent_setting_resolved (hmem : .recordLifecycle ∈ extractors)
    (hform : input.form = compositeExtract extractors definition)
    (hsilent : SilentAbout definition action setting)
    (hsetting : (lifecycleSettings action).lookup setting = some byDefault)
    (h : resolveRuntimeFeatures input = .ok profile)
    (hpolicy : profile.recordLifecycle = some policy) :
    (policy.get? action.name).bind (·.get? setting) = byDefault := by
  obtain ⟨parsed, hparsed, hundefined⟩ := extractRecordLifecyclePolicy_silent hsilent hsetting
  rw [← compositeExtract_lifecycleAction hmem, ← hform] at hparsed
  rw [resolveRecordLifecyclePolicy_get? (resolve_recordLifecycle h hpolicy), hparsed]
  cases hmerged : mergeActionPolicy (lifecycleAction input.org.recordLifecycle action)
      (some (.object parsed)) with
  | none =>
    rw [mergeActionPolicy, Option.isNone_some, Bool.and_false] at hmerged
    cases hmerged
  | some merged =>
    have hread := mergeActionPolicy_get? hmerged setting
    have hown : (Value.object parsed).hasOwn setting = true := by
      rw [Value.hasOwn, Value.members, hundefined]
      rfl
    have hnone : (Value.object parsed).get? setting = none := by
      rw [Value.get?, Value.members, hundefined]
      rfl
    rw [Option.any_some, hown, if_pos rfl, Option.bind_some, hnone] at hread
    rw [Option.map_some, Option.bind_some, resolveLifecycleAction_get? hsetting, resolveSetting,
      hread]
    exact Option.none_or

/-- Every value the organisation gives the setting is its default already. -/
def StatesDefault (org : OrgRuntimePolicy) (action : LifecycleAction) (setting : String)
    (byDefault : Option Value) : Prop :=
  ∀ value, (lifecycleAction org.recordLifecycle action).bind (·.get? setting) = some value →
    normalizeSetting setting value = none ∨ normalizeSetting setting value = byDefault

/-- A setting the form does not mention keeps the value of the organisation exactly
where that value is the default. -/
theorem silent_setting_kept (hmem : .recordLifecycle ∈ extractors)
    (hform : input.form = compositeExtract extractors definition)
    (hsilent : SilentAbout definition action setting)
    (hsetting : (lifecycleSettings action).lookup setting = some byDefault)
    (h : resolveRuntimeFeatures input = .ok profile)
    (hpolicy : profile.recordLifecycle = some policy) :
    (policy.get? action.name).bind (·.get? setting)
        = organisationSetting input.org action setting byDefault
      ↔ StatesDefault input.org action setting byDefault := by
  rw [silent_setting_resolved hmem hform hsilent hsetting h hpolicy]
  have hread : ((lifecycleAction input.org.recordLifecycle action).getD (.object [])).get? setting
      = (lifecycleAction input.org.recordLifecycle action).bind (·.get? setting) := by
    cases lifecycleAction input.org.recordLifecycle action <;> rfl
  unfold organisationSetting resolveSetting StatesDefault
  rw [hread]
  cases (lifecycleAction input.org.recordLifecycle action).bind (·.get? setting) with
  | none => simp
  | some value =>
    simp only [Option.bind_some, Option.some.injEq, forall_eq']
    cases normalizeSetting setting value with
    | none => simp
    | some normal => simp [eq_comm]

def defaultExtractors : List FormRuntimePolicyExtractor :=
  [.attachmentRequirement, .offlineSubmitRequirement, .paymentRequirement, .embeddable,
    .multiPartyPolicy, .recordLifecycle, .safeAddressPolicy]

def disputableForm : FormDefinition where
  items := []
  extension := fun _ => none
  governance := fun key =>
    if key == "recordLifecycle" then
      some (.object [("disputable", .object [("enabled", .bool true)])])
    else none

def disputableInput (signerOnly : Bool) : ResolveRuntimeFeaturesInput where
  mode := .production
  instanceCapabilities := fun
    | .recordLifecycle => .available
    | _ => .unavailable
  org := ⟨[("recordLifecycle", some .allowed)], fun _ => none, some (.object
    [("disputable", .object [("enabled", .bool true), ("signerOnly", .bool signerOnly)])])⟩
  form := compositeExtract defaultExtractors disputableForm
  urlOrigin := fun _ => none

theorem disputableForm_silent : SilentAbout disputableForm .disputable "signerOnly" := ⟨rfl, rfl⟩

theorem silent_setting_kept_disputable :
    ∃ profile policy, resolveRuntimeFeatures (disputableInput true) = .ok profile
      ∧ profile.recordLifecycle = some policy
      ∧ (policy.get? "disputable").bind (·.get? "signerOnly")
        = organisationSetting (disputableInput true).org .disputable "signerOnly"
          (some (.bool true)) := by
  refine ⟨_, _, rfl, rfl, (silent_setting_kept (by decide)
    (show (disputableInput true).form = compositeExtract defaultExtractors disputableForm from rfl)
    disputableForm_silent rfl rfl rfl).mpr ?_⟩
  intro value hvalue
  cases hvalue
  exact .inr rfl

/-- An organisation that lets anyone dispute loses that to a form that is silent. -/
theorem silent_setting_erased_disputable :
    ∃ profile policy, resolveRuntimeFeatures (disputableInput false) = .ok profile
      ∧ profile.recordLifecycle = some policy
      ∧ SilentAbout disputableForm .disputable "signerOnly"
      ∧ organisationSetting (disputableInput false).org .disputable "signerOnly"
        (some (.bool true)) = some (.bool false)
      ∧ (policy.get? "disputable").bind (·.get? "signerOnly") = some (.bool true) :=
  ⟨_, _, rfl, rfl, ⟨rfl, rfl⟩, rfl, rfl⟩

end FormspecWeb.Policy
