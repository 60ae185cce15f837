import FormspecWeb.Shared.Value
import FormspecWeb.Policy.FeatureKeys

/-!
# Policy documents

What the instance, the organisation and the form declare about each runtime
feature, the configuration of the features that carry one, and the errors their
resolution fails with. Texts outside an enumeration are kept as `unknown`, which
the resolver refuses.
-/

namespace FormspecWeb.Policy

open Shared

inductive CompositionMode where
  | demo
  | production
deriving DecidableEq

inductive CapabilityAvailability where
  | available
  | demoStub
  | unavailable
  | unknown (text : String)
deriving DecidableEq

def CapabilityAvailability.text : CapabilityAvailability → String
  | .available => "available"
  | .demoStub => "demo-stub"
  | .unavailable => "unavailable"
  | .unknown text => text

def isCapabilityAvailability : CapabilityAvailability → Bool
  | .unknown _ => false
  | _ => true

abbrev InstanceCapabilities := RuntimeFeatureKey → CapabilityAvailability

inductive OrgFeaturePolicyMode where
  | forbidden
  | allowed
  | defaultOn
  | required
  | unknown (text : String)
deriving DecidableEq

def OrgFeaturePolicyMode.text : OrgFeaturePolicyMode → String
  | .forbidden => "forbidden"
  | .allowed => "allowed"
  | .defaultOn => "default-on"
  | .required => "required"
  | .unknown text => text

def isOrgFeaturePolicyMode : OrgFeaturePolicyMode → Bool
  | .unknown _ => false
  | _ => true

inductive FormFeaturePolicyMode where
  | forbidden
  | optional
  | required
  | unknown (text : String)
deriving DecidableEq

def FormFeaturePolicyMode.text : FormFeaturePolicyMode → String
  | .forbidden => "forbidden"
  | .optional => "optional"
  | .required => "required"
  | .unknown text => text

def isFormFeaturePolicyMode : FormFeaturePolicyMode → Bool
  | .unknown _ => false
  | _ => true

/-- A policy document: the modes it declares under any key, and the limits and
lifecycle block of unknown shape. -/
structure RuntimePolicy (Mode : Type) where
  features : List (String × Option Mode)
  limits : RuntimeFeatureKey → Option Value
  recordLifecycle : Option Value

abbrev OrgRuntimePolicy := RuntimePolicy OrgFeaturePolicyMode

abbrev FormRuntimePolicy := RuntimePolicy FormFeaturePolicyMode

/-- `policy.features[key]`. -/
def RuntimePolicy.mode {Mode : Type} (policy : RuntimePolicy Mode) (key : RuntimeFeatureKey) :
    Option Mode :=
  (policy.features.lookup key.name).join

inductive PolicyLayer where
  | instanceLayer
  | org
  | form
deriving DecidableEq

def PolicyLayer.name : PolicyLayer → String
  | .instanceLayer => "instance"
  | .org => "org"
  | .form => "form"

inductive FeaturePolicyConflictKind where
  | orgRequiredFormForbidden
  | formRequiredOrgForbidden
deriving DecidableEq

def FeaturePolicyConflictKind.text : FeaturePolicyConflictKind → String
  | .orgRequiredFormForbidden => "org-required-form-forbidden"
  | .formRequiredOrgForbidden => "form-required-org-forbidden"

inductive RuntimePolicyError where
  | unsupportedRequiredFeature (featureKey : RuntimeFeatureKey) (reason : String)
  | featurePolicyConflict (featureKey : RuntimeFeatureKey) (conflict : FeaturePolicyConflictKind)
  | orgPolicyUnsatisfied (featureKey : RuntimeFeatureKey) (reason : String)
  | invalidRuntimePolicy (documentKind : PolicyLayer) (reason : String)
  /-- Reading a member of `null`. -/
  | typeError
deriving DecidableEq

def RuntimePolicyError.message : RuntimePolicyError → String
  | .unsupportedRequiredFeature featureKey reason =>
    "Required feature \"" ++ featureKey.name ++ "\" cannot be enabled: " ++ reason
  | .featurePolicyConflict featureKey conflict =>
    "Policy conflict on feature \"" ++ featureKey.name ++ "\": " ++ conflict.text
  | .orgPolicyUnsatisfied featureKey reason =>
    "Org policy requires \"" ++ featureKey.name ++ "\" but the instance cannot satisfy it: "
      ++ reason
  | .invalidRuntimePolicy documentKind reason =>
    "Invalid " ++ documentKind.name ++ " runtime policy: " ++ reason
  | .typeError => "Cannot read properties of null"

inductive SafeAddressAccessClass where
  | safeAddress
  | safeContact
  | safeEmployer
deriving DecidableEq

def SafeAddressAccessClass.text : SafeAddressAccessClass → String
  | .safeAddress => "safe-address"
  | .safeContact => "safe-contact"
  | .safeEmployer => "safe-employer"

def safeClass : Value → Option SafeAddressAccessClass
  | .string "safe-address" => some .safeAddress
  | .string "safe-contact" => some .safeContact
  | .string "safe-employer" => some .safeEmployer
  | _ => none

inductive SafeAddressReceiptPostureTier where
  | verifierGrade
  | phase1Fallback
deriving DecidableEq

def SafeAddressReceiptPostureTier.text : SafeAddressReceiptPostureTier → String
  | .verifierGrade => "verifier-grade"
  | .phase1Fallback => "phase-1-fallback"

def receiptPostureTier? : Value → Option SafeAddressReceiptPostureTier
  | .string "verifier-grade" => some .verifierGrade
  | .string "phase-1-fallback" => some .phase1Fallback
  | _ => none

structure SafeAddressFieldPolicy where
  path : String
  label : Option String
  accessClass : SafeAddressAccessClass
  visibleTo : Option (List String)
  plaintextAudiences : Option (List String)
  effectiveAudiences : Option (List String)
deriving DecidableEq

structure RendererHints where
  maskRenderToken : Option String
  revealAffordanceLabel : Option String
deriving DecidableEq

structure SafeAddressRuntimeConfig where
  enabledClasses : List SafeAddressAccessClass
  receiptPostureTier : SafeAddressReceiptPostureTier
  substituteAddressDirectoryRef : String
  acpJurisdictionsAccepted : List String
  authorizedAudiences : List String
  fields : List SafeAddressFieldPolicy
  rendererHints : Option RendererHints
deriving DecidableEq

def SafeAddressFieldPolicy.toValue (field : SafeAddressFieldPolicy) : Value :=
  .object [("path", .string field.path), Value.member "label" (field.label.map .string),
    ("accessClass", .string field.accessClass.text),
    Value.member "visibleTo" (field.visibleTo.map .ofStrings),
    Value.member "plaintextAudiences" (field.plaintextAudiences.map .ofStrings),
    Value.member "effectiveAudiences" (field.effectiveAudiences.map .ofStrings)]

def RendererHints.toValue (hints : RendererHints) : Value :=
  .object [Value.member "maskRenderToken" (hints.maskRenderToken.map .string),
    Value.member "revealAffordanceLabel" (hints.revealAffordanceLabel.map .string)]

/-- The object a configuration is, as a form policy carries it among its limits. -/
def SafeAddressRuntimeConfig.toValue (config : SafeAddressRuntimeConfig) : Value :=
  .object [("enabledClasses", .ofStrings (config.enabledClasses.map (·.text))),
    ("receiptPostureTier", .string config.receiptPostureTier.text),
    ("substituteAddressDirectoryRef", .string config.substituteAddressDirectoryRef),
    ("acpJurisdictionsAccepted", .ofStrings config.acpJurisdictionsAccepted),
    ("authorizedAudiences", .ofStrings config.authorizedAudiences),
    ("fields", .array (config.fields.map (·.toValue))),
    Value.member "rendererHints" (config.rendererHints.map (·.toValue))]

end FormspecWeb.Policy
