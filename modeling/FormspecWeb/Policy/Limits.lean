import FormspecWeb.Shared.Checks
import FormspecWeb.Policy.PolicyShapes

/-!
# Validation of limits

The shape checks the resolver makes on the configuration of single features
before it resolves anything: embed origins, multi-party roles, safe addresses and
the record lifecycle. Each refuses the layer the document came from.
-/

namespace FormspecWeb.Policy

open Shared

def invalid (layer : PolicyLayer) (reason : String) : RuntimePolicyError :=
  .invalidRuntimePolicy layer reason

def isNonEmptyString (value : Value) : Bool := value.nonEmptyString?.isSome

/-- `value[key]`, which fails on `null` alone. -/
def readMember (value : Value) (key : String) : Except RuntimePolicyError (Option Value) :=
  match value with
  | .null => .error .typeError
  | _ => .ok (value.get? key)

def isOneOf (texts : List String) (value : Option Value) : Bool :=
  value.any fun found => texts.any fun text => found.isString text

def validateOptionalStringArray (layer : PolicyLayer) (cite : String) (value : Option Value) :
    Except RuntimePolicyError Unit :=
  failIf (value.any fun found => !(found.entries?.any (·.all isNonEmptyString)))
    (invalid layer (cite ++ " must be an array of non-empty strings"))

/-- One entry of `allowedOrigins`; `urlOrigin` is the origin of a valid URL. -/
def validateOrigin (urlOrigin : String → Option String) (entry : Value) :
    Except RuntimePolicyError Unit :=
  match entry.nonEmptyString? with
  | none => .error (invalid .org "limits.embed.allowedOrigins entries must be non-empty strings")
  | some origin =>
    if origin == "*" then .ok ()
    else match urlOrigin origin with
      | none => .error (invalid .org
          ("limits.embed.allowedOrigins entry \"" ++ origin ++ "\" is not a valid URL"))
      | some parsed => failIf (parsed != origin) (invalid .org
          ("limits.embed.allowedOrigins entry \"" ++ origin
            ++ "\" must be an origin (no path / query / fragment)"))

/-- `typeof value === 'object' && value !== null`. -/
def isObject : Value → Bool
  | .array _ | .object _ => true
  | _ => false

def validateEmbedLimits (urlOrigin : String → Option String) :
    Option Value → Except RuntimePolicyError Unit
  | none => .ok ()
  | some value => do
      failIf (!isObject value)
        (invalid .org "limits.embed must be an object with an allowedOrigins array")
      match (value.get? "allowedOrigins").bind (·.entries?) with
      | none => .error (invalid .org "limits.embed.allowedOrigins must be an array")
      | some entries => checkAll (validateOrigin urlOrigin) entries

/-! ## Multi-party -/

/-- `Number.isInteger(value)`, with the integer. -/
def integer? : Value → Option Int
  | .number value => if value.den == 1 then some value.num else none
  | _ => none

def validateMultiPartyCardinality (layer : PolicyLayer) (value : Option Value) :
    Except RuntimePolicyError Unit := do
  failIf (!value.any (·.isPlainObject))
    (invalid layer "limits.multiParty.parties[].cardinality must be an object")
  let min := (value.bind (·.get? "min")).bind integer?
  let max := value.bind (·.get? "max")
  failIf (!min.any (1 ≤ ·))
    (invalid layer "limits.multiParty.parties[].cardinality.min must be a positive integer")
  failIf (!isOneOf ["unbounded"] max && !(max.bind integer?).any fun found => min.any (· ≤ found))
    (invalid layer
      "limits.multiParty.parties[].cardinality.max must be unbounded or an integer >= min")

def hasEmptyIntersection (party : Value) : Bool :=
  match (party.get? "safeAddressAudience").bind (·.strings?), (party.get? "visibleTo").bind (·.strings?) with
  | some audience, some visible => !audience.any (visible.contains ·)
  | _, _ => false

def validateParty (layer : PolicyLayer) (roleIds : List String) (party : Value) :
    Except RuntimePolicyError (List String) := do
  failIf (!party.isPlainObject) (invalid layer "limits.multiParty.parties entries must be objects")
  match (party.get? "roleId").bind (·.nonEmptyString?) with
  | none => .error (invalid layer "limits.multiParty.parties[].roleId must be a non-empty string")
  | some roleId => do
      failIf (roleIds.contains roleId)
        (invalid layer ("limits.multiParty.parties roleId \"" ++ roleId ++ "\" is duplicated"))
      failIf (!isOneOf ["coEqual", "asymmetricPrimary", "asymmetricSecondary", "guardianFor"]
          (party.get? "role"))
        (invalid layer ("limits.multiParty.parties[].role must be coEqual | asymmetricPrimary | "
          ++ "asymmetricSecondary | guardianFor"))
      failIf (!isOneOf ["shared", "scoped"] (party.get? "visibilityScope"))
        (invalid layer "limits.multiParty.parties[].visibilityScope must be shared | scoped")
      validateMultiPartyCardinality layer (party.get? "cardinality")
      checkAll (fun member => validateOptionalStringArray layer
          ("limits.multiParty.parties[]." ++ member) (party.get? member))
        ["visibleTo", "editableBy", "signedBy", "safeAddressAudience"]
      failIf (hasEmptyIntersection party)
        (invalid layer ("limits.multiParty.parties roleId \"" ++ roleId
          ++ "\" has an empty safe-address x party-policy audience intersection"))
      return roleId :: roleIds

def validateDeadlinePolicy (layer : PolicyLayer) : Option Value → Except RuntimePolicyError Unit
  | none => .ok ()
  | some policy => do
      failIf (!policy.isPlainObject)
        (invalid layer "limits.multiParty.deadlinePolicy must be an object")
      failIf (!isOneOf ["void-submission", "convert-to-partial"] (policy.get? "expirationAction"))
        (invalid layer ("limits.multiParty.deadlinePolicy.expirationAction must be "
          ++ "void-submission | convert-to-partial"))
      failIf ((policy.get? "perPartyDeadline").any (!isNonEmptyString ·))
        (invalid layer
          "limits.multiParty.deadlinePolicy.perPartyDeadline must be a non-empty string")

def validateMultiPartyLimits (value : Option Value) (layer : PolicyLayer) :
    Except RuntimePolicyError Unit :=
  match value with
  | none => .ok ()
  | some candidate => do
      failIf (!candidate.isPlainObject) (invalid layer "limits.multiParty must be an object")
      failIf (!isOneOf ["coEqual", "asymmetric"] (candidate.get? "tier"))
        (invalid layer "limits.multiParty.tier must be coEqual | asymmetric")
      let parties := ((candidate.get? "parties").bind (·.entries?)).getD []
      failIf (parties.length < 2)
        (invalid layer "limits.multiParty.parties must declare at least two party role slots")
      let _ ← parties.foldlM (validateParty layer) []
      let channel := candidate.get? "invitationChannel"
      failIf (channel.isSome && !isOneOf ["magic-link", "wos-task", "out-of-band"] channel)
        (invalid layer
          "limits.multiParty.invitationChannel must be magic-link | wos-task | out-of-band")
      validateDeadlinePolicy layer (candidate.get? "deadlinePolicy")

def validateSafeAddressField (layer : PolicyLayer) (field : Value) :
    Except RuntimePolicyError Unit := do
  failIf (!field.isPlainObject)
    (invalid layer "limits.safeAddress.fields entries must be objects")
  failIf (!((field.get? "path").bind (·.nonEmptyString?)).any (·.startsWith "/"))
    (invalid layer "limits.safeAddress.fields[].path must be an RFC 6901-style JSON pointer")
  failIf ((field.get? "accessClass").bind safeClass).isNone
    (invalid layer ("limits.safeAddress.fields[].accessClass must be safe-address | safe-contact | "
      ++ "safe-employer"))
  checkAll (fun member => validateOptionalStringArray layer
      ("limits.safeAddress.fields[]." ++ member) (field.get? member))
    ["visibleTo", "plaintextAudiences", "effectiveAudiences"]

def validateSafeAddressLimits (value : Option Value) (layer : PolicyLayer) :
    Except RuntimePolicyError Unit :=
  match value with
  | none => .ok ()
  | some candidate => do
      failIf (!candidate.isPlainObject) (invalid layer "limits.safeAddress must be an object")
      failIf ((candidate.get? "receiptPostureTier").any fun tier => (receiptPostureTier? tier).isNone)
        (invalid layer
          "limits.safeAddress.receiptPostureTier must be verifier-grade | phase-1-fallback")
      let classes := candidate.get? "enabledClasses"
      validateOptionalStringArray layer "limits.safeAddress.enabledClasses" classes
      failIf ((classes.bind (·.entries?)).any (·.any fun entry => (safeClass entry).isNone))
        (invalid layer ("limits.safeAddress.enabledClasses entries must be safe-address | "
          ++ "safe-contact | safe-employer"))
      validateOptionalStringArray layer "limits.safeAddress.acpJurisdictionsAccepted"
        (candidate.get? "acpJurisdictionsAccepted")
      validateOptionalStringArray layer "limits.safeAddress.authorizedAudiences"
        (candidate.get? "authorizedAudiences")
      failIf ((candidate.get? "substituteAddressDirectoryRef").any (!isNonEmptyString ·))
        (invalid layer
          "limits.safeAddress.substituteAddressDirectoryRef must be a non-empty string")
      let fields := candidate.get? "fields"
      failIf (fields.any (·.entries?.isNone))
        (invalid layer "limits.safeAddress.fields must be an array")
      checkAll (validateSafeAddressField layer) ((fields.bind (·.entries?)).getD [])
      failIf ((candidate.get? "rendererHints").any (!·.isPlainObject))
        (invalid layer "limits.safeAddress.rendererHints must be an object")

/-! ## Record lifecycle -/

inductive LifecycleAction where
  | correctable
  | withdrawable
  | disputable
deriving DecidableEq

def LifecycleAction.name : LifecycleAction → String
  | .correctable => "correctable"
  | .withdrawable => "withdrawable"
  | .disputable => "disputable"

def lifecycleActions : List LifecycleAction := [.correctable, .withdrawable, .disputable]

def LifecycleAction.cite (action : LifecycleAction) (rest : String) : String :=
  "recordLifecycle." ++ action.name ++ "." ++ rest

def isText : Value → Bool
  | .string _ => true
  | _ => false

def validateRecordLifecycleWindow (source : PolicyLayer) (action : LifecycleAction) :
    Option Value → Except RuntimePolicyError Unit
  | none => .ok ()
  | some window => do
      failIf (!isObject window) (invalid source (action.cite "window must be an object"))
      let closesAt := (window.get? "closesAt").any isText
      if window.hasOwn "state" then do
        let state := window.get? "state"
        failIf (!isOneOf ["open", "closes-at", "closed"] state)
          (invalid source (action.cite "window.state must be open | closes-at | closed"))
        failIf (isOneOf ["closes-at"] state && !closesAt)
          (invalid source (action.cite "window.closesAt must be a string"))
        failIf (isOneOf ["closed"] state && (window.get? "closedAt").any (!isText ·))
          (invalid source (action.cite "window.closedAt must be a string"))
      else failIf (!closesAt) (invalid source (action.cite "window.closesAt must be a string"))

def validateOptionalBoolean (source : PolicyLayer) (action : LifecycleAction) (property : String)
    (value : Option Value) : Except RuntimePolicyError Unit :=
  failIf (value.any (!·.isBool)) (invalid source (action.cite (property ++ " must be a boolean")))

/-- What `for (const entry of value)` visits. -/
def iterate : Value → Except RuntimePolicyError (List Value)
  | .array entries => .ok entries
  | .string text => .ok (text.toList.map fun c => .string c.toString)
  | _ => .error .typeError

def validateFieldSet (source : PolicyLayer) (fieldSet : Value) : Except RuntimePolicyError Unit := do
  let paths ← iterate fieldSet
  failIf (paths.any fun path => !(path.nonEmptyString?.any (·.startsWith "/")))
    (invalid source ("recordLifecycle.correctable.correctableFieldSet entries must be RFC 6901-style "
      ++ "JSON pointer strings"))

def validateCorrectable (source : PolicyLayer) (value : Value) : Except RuntimePolicyError Unit := do
  let fieldSet := value.get? "correctableFieldSet"
  let enabled := (value.get? "enabled").any (·.isTrue)
  failIf (enabled && (fieldSet.bind (·.entries?)).isNone)
    (invalid source ("recordLifecycle.correctable.correctableFieldSet must be declared when "
      ++ "correctable is enabled"))
  failIf (enabled && (fieldSet.bind (·.entries?)).any (·.isEmpty))
    (invalid source "recordLifecycle.correctable.correctableFieldSet must not be empty")
  checkPresent (validateFieldSet source) fieldSet
  checkAll (fun property => validateOptionalBoolean source .correctable property (value.get? property))
    ["requiresEvidence", "requiresReason"]

def validateWithdrawable (source : PolicyLayer) (value : Value) : Except RuntimePolicyError Unit := do
  let cite := LifecycleAction.cite .withdrawable
  checkAll (fun property => validateOptionalBoolean source .withdrawable property (value.get? property))
    ["requiresReason", "requiresIssuerAcceptance"]
  let kernelMode := value.get? "preDeterminationKernelMode"
  failIf (kernelMode.isSome && !isOneOf ["applicant-withdrawn"] kernelMode)
    (invalid source (cite "preDeterminationKernelMode must be \"applicant-withdrawn\""))
  let intent := value.get? "postDeterminationIntent"
  failIf (intent.isSome && !isOneOf ["rescission-requested"] intent)
    (invalid source (cite "postDeterminationIntent must be \"rescission-requested\""))
  failIf (isOneOf ["rescission-requested"] intent
      && !(value.get? "requiresIssuerAcceptance").any (·.isTrue))
    (invalid source (cite ("requiresIssuerAcceptance must be true when postDeterminationIntent is "
      ++ "configured")))
  let partyScope := value.get? "partyScope"
  failIf (partyScope.isSome && !isOneOf ["any-party", "all-parties-must-agree"] partyScope)
    (invalid source (cite "partyScope must be any-party | all-parties-must-agree"))

def validateRecordLifecycleAction (source : PolicyLayer) (action : LifecycleAction) :
    Option Value → Except RuntimePolicyError Unit
  | none => .ok ()
  | some value => do
      let enabled ← readMember value "enabled"
      failIf (!enabled.any (·.isBool)) (invalid source (action.cite "enabled must be a boolean"))
      validateRecordLifecycleWindow source action (value.get? "window")
      match action with
      | .correctable => validateCorrectable source value
      | .withdrawable => validateWithdrawable source value
      | .disputable =>
        checkAll (fun property => validateOptionalBoolean source action property (value.get? property))
          ["requiresEvidence", "requiresReason", "signerOnly"]

def validateRecordLifecyclePolicy (source : PolicyLayer) :
    Option Value → Except RuntimePolicyError Unit
  | none => .ok ()
  | some value =>
    checkAll (fun action => do
        let found ← readMember value action.name
        validateRecordLifecycleAction source action found)
      lifecycleActions

end FormspecWeb.Policy
