import FormspecWeb.Policy.ExtractOptIns
import FormspecWeb.Policy.Resolver

/-!
# Composed extractors

The adapters of the extractor port, and the composite that runs an ordered list
of them and merges what they return: a later extractor overrides an earlier one
on a key both write.
-/

namespace FormspecWeb.Policy

open Shared

/-- `{ features: {} }`. -/
def FormRuntimePolicy.silent : FormRuntimePolicy := ⟨[], fun _ => none, none⟩

/-- `{ features: { [key]: mode } }`, where there is a mode. -/
def FormRuntimePolicy.ofFeature (key : String) (mode : Option FormFeaturePolicyMode) :
    FormRuntimePolicy :=
  ⟨(mode.map fun found => (key, some found)).toList, fun _ => none, none⟩

inductive FormRuntimePolicyExtractor where
  | empty
  | attachmentRequirement
  | offlineSubmitRequirement
  | paymentRequirement
  | embeddable
  | recordLifecycle
  | multiPartyPolicy
  | safeAddressPolicy
deriving DecidableEq

def FormRuntimePolicyExtractor.extract (definition : FormDefinition) :
    FormRuntimePolicyExtractor → FormRuntimePolicy
  | .empty => .silent
  | .attachmentRequirement => .ofFeature "fileUpload" (extractAttachmentRequirement definition)
  | .offlineSubmitRequirement => .ofFeature "offlineSubmit" (extractOfflineSubmitOptIn definition)
  | .paymentRequirement => .ofFeature "payment" (extractPaymentRequirement definition)
  | .embeddable => .ofFeature "embed" (extractEmbeddableOptIn definition)
  | .recordLifecycle =>
    match extractRecordLifecycleOptIn definition with
    | some mode =>
      ⟨[("recordLifecycle", some mode)], fun _ => none, extractRecordLifecyclePolicy definition⟩
    | none => .silent
  | .multiPartyPolicy => (extractMultiPartyPolicy definition).getD .silent
  | .safeAddressPolicy => (extractSafeAddressPolicy definition).getD .silent

structure Gathered where
  features : List (String × Option FormFeaturePolicyMode)
  limits : RuntimeFeatureKey → Option Value
  recordLifecycle : List (String × Value)

def Gathered.add (gathered : Gathered) (policy : FormRuntimePolicy) : Gathered where
  features := spread gathered.features policy.features
  limits key := (policy.limits key).or (gathered.limits key)
  recordLifecycle := spread gathered.recordLifecycle (policy.recordLifecycle.elim [] (·.members))

def Gathered.empty : Gathered := ⟨[], fun _ => none, []⟩

def gather (definition : FormDefinition) (extractors : List FormRuntimePolicyExtractor)
    (gathered : Gathered) : Gathered :=
  extractors.foldl (fun (found : Gathered) extractor => found.add (extractor.extract definition))
    gathered

/-- `CompositeFormRuntimePolicyExtractor.extract`. -/
def compositeExtract (extractors : List FormRuntimePolicyExtractor) (definition : FormDefinition) :
    FormRuntimePolicy :=
  let gathered := gather definition extractors .empty
  { features := gathered.features
    limits := gathered.limits
    recordLifecycle :=
      if gathered.recordLifecycle.isEmpty then none else some (.object gathered.recordLifecycle) }

/-! ## Keys that one extractor writes -/

section Reads

variable {α : Type} (read : Gathered → Option α) (write : FormRuntimePolicy → Option α)
  {definition : FormDefinition} {value : Option α}

theorem gather_kept (hadd : ∀ g policy, read (g.add policy) = (write policy).or (read g))
    {extractors : List FormRuntimePolicyExtractor} {gathered : Gathered}
    (hagree : ∀ extractor ∈ extractors, write (extractor.extract definition) = none
      ∨ write (extractor.extract definition) = value)
    (hread : read gathered = value) : read (gather definition extractors gathered) = value := by
  induction extractors generalizing gathered with
  | nil => exact hread
  | cons extractor rest ih =>
    refine ih (fun other hother => hagree other (List.mem_cons_of_mem _ hother)) ?_
    rw [hadd, hread]
    rcases hagree extractor List.mem_cons_self with hnone | hvalue
    · rw [hnone, Option.none_or]
    · rw [hvalue, Option.or_self]

theorem gather_written (hadd : ∀ g policy, read (g.add policy) = (write policy).or (read g))
    {extractors : List FormRuntimePolicyExtractor} {gathered : Gathered}
    (hagree : ∀ extractor ∈ extractors, write (extractor.extract definition) = none
      ∨ write (extractor.extract definition) = value)
    (hread : read gathered = none ∨ read gathered = value)
    {extractor : FormRuntimePolicyExtractor} (hmem : extractor ∈ extractors)
    (hwrite : write (extractor.extract definition) = value) :
    read (gather definition extractors gathered) = value := by
  induction extractors generalizing gathered with
  | nil => cases hmem
  | cons first rest ih =>
    have hrest : ∀ other ∈ rest, write (other.extract definition) = none
        ∨ write (other.extract definition) = value :=
      fun other hother => hagree other (List.mem_cons_of_mem _ hother)
    rcases List.mem_cons.mp hmem with rfl | hmem
    · show read (gather definition rest (gathered.add _)) = value
      refine gather_kept read write hadd hrest ?_
      rw [hadd, hwrite]
      rcases hread with hnone | hvalue
      · rw [hnone, Option.or_none]
      · rw [hvalue, Option.or_self]
    · refine ih hrest ?_ hmem
      rw [hadd]
      rcases hagree first List.mem_cons_self with hnone | hvalue
      · rw [hnone, Option.none_or]
        exact hread
      · rw [hvalue]
        rcases hread with hnone | hsame
        · rw [hnone, Option.or_none]
          exact .inr rfl
        · rw [hsame, Option.or_self]
          exact .inr rfl

end Reads

variable {definition : FormDefinition} {extractors : List FormRuntimePolicyExtractor}

theorem extract_safeAddressPolicy :
    FormRuntimePolicyExtractor.extract definition .safeAddressPolicy
      = (extractSafeAddressPolicy definition).getD .silent := rfl

theorem extract_safeAddress_silent {extractor : FormRuntimePolicyExtractor}
    (h : extractor ≠ .safeAddressPolicy) :
    (extractor.extract definition).limits .safeAddress = none
      ∧ (extractor.extract definition).features.lookup "safeAddress" = none := by
  cases extractor with
  | safeAddressPolicy => exact absurd rfl h
  | empty => exact ⟨rfl, rfl⟩
  | attachmentRequirement =>
    simp only [FormRuntimePolicyExtractor.extract]
    cases extractAttachmentRequirement definition <;> exact ⟨rfl, rfl⟩
  | offlineSubmitRequirement =>
    simp only [FormRuntimePolicyExtractor.extract]
    cases extractOfflineSubmitOptIn definition <;> exact ⟨rfl, rfl⟩
  | paymentRequirement =>
    simp only [FormRuntimePolicyExtractor.extract]
    cases extractPaymentRequirement definition <;> exact ⟨rfl, rfl⟩
  | embeddable =>
    simp only [FormRuntimePolicyExtractor.extract]
    cases extractEmbeddableOptIn definition <;> exact ⟨rfl, rfl⟩
  | recordLifecycle =>
    simp only [FormRuntimePolicyExtractor.extract]
    cases extractRecordLifecycleOptIn definition <;> exact ⟨rfl, rfl⟩
  | multiPartyPolicy =>
    simp only [FormRuntimePolicyExtractor.extract, extractMultiPartyPolicy]
    cases parseMultiPartyBlock _ <;> exact ⟨rfl, rfl⟩

theorem compositeExtract_safeAddress (definition : FormDefinition) (hmem : .safeAddressPolicy ∈ extractors) :
    (compositeExtract extractors definition).limits .safeAddress
        = (extractSafeAddressPolicy definition).bind (·.limits .safeAddress)
      ∧ (compositeExtract extractors definition).features.lookup "safeAddress"
        = (extractSafeAddressPolicy definition).bind (·.features.lookup "safeAddress") := by
  constructor
  · refine gather_written (fun g : Gathered => g.limits .safeAddress)
      (fun policy : FormRuntimePolicy => policy.limits .safeAddress) (fun _ _ => rfl)
      (fun extractor _ => ?_) (.inl rfl) hmem ?_
    · by_cases h : extractor = .safeAddressPolicy
      · rw [h, extract_safeAddressPolicy]
        right
        cases extractSafeAddressPolicy definition <;> rfl
      · exact .inl (extract_safeAddress_silent h).1
    · rw [extract_safeAddressPolicy]
      cases extractSafeAddressPolicy definition <;> rfl
  · refine gather_written (fun g : Gathered => g.features.lookup "safeAddress")
      (fun policy : FormRuntimePolicy => policy.features.lookup "safeAddress")
      (fun _ _ => lookup_spread) (fun extractor _ => ?_) (.inl rfl) hmem ?_
    · by_cases h : extractor = .safeAddressPolicy
      · rw [h, extract_safeAddressPolicy]
        right
        cases extractSafeAddressPolicy definition <;> rfl
      · exact .inl (extract_safeAddress_silent h).2
    · rw [extract_safeAddressPolicy]
      cases extractSafeAddressPolicy definition <;> rfl

def lifecycleMembers (policy : Option Value) : List (String × Value) :=
  policy.elim [] (·.members)

theorem extractRecordLifecycleOptIn_isSome {policy : Value}
    (h : extractRecordLifecyclePolicy definition = some policy) :
    extractRecordLifecycleOptIn definition = some .optional := by
  have henables : recordLifecycleBlockEnablesAnyAction policy = true := by
    have hparsed : ∀ value, parseRecordLifecycleBlock value = some policy →
        recordLifecycleBlockEnablesAnyAction policy = true := by
      intro value hvalue
      exact (Option.filter_eq_some_iff.mp hvalue).2
    rcases Option.or_eq_some_iff.mp h with hgovernance | ⟨-, hextension⟩
    · exact hparsed _ hgovernance
    · exact hparsed _ hextension
  unfold extractRecordLifecycleOptIn
  rw [h, Option.any_some, henables, Bool.or_true, if_pos rfl]

theorem compositeExtract_recordLifecycle (hmem : .recordLifecycle ∈ extractors) (key : String) :
    (lifecycleMembers (compositeExtract extractors definition).recordLifecycle).lookup key
      = (lifecycleMembers (extractRecordLifecyclePolicy definition)).lookup key := by
  have hwrite : (lifecycleMembers
      (FormRuntimePolicyExtractor.extract definition .recordLifecycle).recordLifecycle).lookup key
        = (lifecycleMembers (extractRecordLifecyclePolicy definition)).lookup key := by
    simp only [FormRuntimePolicyExtractor.extract]
    cases hoptIn : extractRecordLifecycleOptIn definition with
    | some mode => rfl
    | none =>
      cases hpolicy : extractRecordLifecyclePolicy definition with
      | none => rfl
      | some policy =>
        rw [extractRecordLifecycleOptIn_isSome hpolicy] at hoptIn
        cases hoptIn
  have hgathered : (gather definition extractors .empty).recordLifecycle.lookup key
      = (lifecycleMembers (extractRecordLifecyclePolicy definition)).lookup key := by
    refine gather_written (fun g : Gathered => g.recordLifecycle.lookup key)
      (fun policy : FormRuntimePolicy =>
        (lifecycleMembers policy.recordLifecycle).lookup key)
      (fun _ _ => lookup_spread) (fun extractor _ => ?_) (.inl rfl) hmem hwrite
    cases extractor with
    | recordLifecycle => exact .inr hwrite
    | multiPartyPolicy =>
      simp only [FormRuntimePolicyExtractor.extract, extractMultiPartyPolicy]
      cases parseMultiPartyBlock _ <;> exact .inl rfl
    | safeAddressPolicy =>
      simp only [FormRuntimePolicyExtractor.extract, extractSafeAddressPolicy]
      split
      · exact .inl rfl
      · split <;> exact .inl rfl
    | _ => exact .inl rfl
  rw [← hgathered]
  simp only [compositeExtract]
  cases (gather definition extractors .empty).recordLifecycle <;> rfl

end FormspecWeb.Policy
