import FormspecWeb.Policy.ExtractFormPolicy
import FormspecWeb.Policy.Limits

/-!
# Extraction of opt-ins and blocks

The walkers that read a requirement off an extension flag, and the blocks a
definition carries about its record lifecycle and its parties. A parsed block
writes every member of its kind, as `undefined` where the definition is silent.
-/

namespace FormspecWeb.Policy

open Shared

/-- `value === true`. -/
def isFlag (value : Option Value) : Bool := value.any (·.isTrue)

def extractOfflineSubmitOptIn (definition : FormDefinition) : Option FormFeaturePolicyMode :=
  if isFlag (definition.extension "x-formspec-offline-submit") then some .optional else none

def extractPaymentRequirement (definition : FormDefinition) : Option FormFeaturePolicyMode :=
  if isFlag (definition.extension "x-formspec-payment-required") then some .required else none

def extractEmbeddableOptIn (definition : FormDefinition) : Option FormFeaturePolicyMode :=
  if isFlag (definition.extension "x-formspec-embeddable") then some .optional else none

/-! ## Record lifecycle -/

def block? (value : Option Value) : Option Value := value.filter (·.isPlainObject)

/-- `value` where it is a boolean. -/
def parseBoolean (value : Option Value) : Option Value := value.filter (·.isBool)

def parseStringArray (value : Option Value) : Option Value :=
  (value.bind (·.entries?)).map fun entries => .array (entries.filter isText)

/-- `value` where it is one of these texts. -/
def parseText (texts : List String) (value : Option Value) : Option Value :=
  if isOneOf texts value then value else none

def parseActionBlock (value : Option Value) : Option Value :=
  (block? value).filter fun block => (block.get? "enabled").any (·.isBool)

def parseRecordLifecycleWindow (value : Option Value) : Option Value := do
  let block ← block? value
  let closesAt := (block.get? "closesAt").filter isText
  let state := block.get? "state"
  if isOneOf ["open"] state then return .object [("state", .string "open")]
  else if isOneOf ["closes-at"] state && closesAt.isSome then
    return .object [("state", .string "closes-at"), Value.member "closesAt" closesAt]
  else if isOneOf ["closed"] state then
    return .object (("state", .string "closed")
      :: Value.optionalMember "closedAt" ((block.get? "closedAt").filter isText))
  else if closesAt.isSome then return .object [Value.member "closesAt" closesAt]
  else none

def parseCorrectablePolicy (value : Option Value) : Option Value :=
  (parseActionBlock value).map fun block => .object
    [Value.member "enabled" (block.get? "enabled"),
      Value.member "correctableFieldSet" (parseStringArray (block.get? "correctableFieldSet")),
      Value.member "window" (parseRecordLifecycleWindow (block.get? "window")),
      Value.member "requiresEvidence" (parseBoolean (block.get? "requiresEvidence")),
      Value.member "requiresReason" (parseBoolean (block.get? "requiresReason"))]

def parseWithdrawablePolicy (value : Option Value) : Option Value :=
  (parseActionBlock value).map fun block => .object
    [Value.member "enabled" (block.get? "enabled"),
      Value.member "window" (parseRecordLifecycleWindow (block.get? "window")),
      Value.member "requiresReason" (parseBoolean (block.get? "requiresReason")),
      Value.member "preDeterminationKernelMode"
        (parseText ["applicant-withdrawn"] (block.get? "preDeterminationKernelMode")),
      Value.member "postDeterminationIntent"
        (parseText ["rescission-requested"] (block.get? "postDeterminationIntent")),
      Value.member "requiresIssuerAcceptance"
        (parseBoolean (block.get? "requiresIssuerAcceptance")),
      Value.member "partyScope"
        (parseText ["any-party", "all-parties-must-agree"] (block.get? "partyScope"))]

def parseDisputablePolicy (value : Option Value) : Option Value :=
  (parseActionBlock value).map fun block => .object
    [Value.member "enabled" (block.get? "enabled"),
      Value.member "window" (parseRecordLifecycleWindow (block.get? "window")),
      Value.member "requiresEvidence" (parseBoolean (block.get? "requiresEvidence")),
      Value.member "requiresReason" (parseBoolean (block.get? "requiresReason")),
      Value.member "signerOnly" (parseBoolean (block.get? "signerOnly"))]

def parseLifecycleAction : LifecycleAction → Option Value → Option Value
  | .correctable => parseCorrectablePolicy
  | .withdrawable => parseWithdrawablePolicy
  | .disputable => parseDisputablePolicy

def recordLifecycleBlockEnablesAnyAction (block : Value) : Bool :=
  lifecycleActions.any fun action => isFlag ((block.get? action.name).bind (·.get? "enabled"))

def parseLifecycleActions (block : Value) : Value :=
  .object (lifecycleActions.map fun action =>
    Value.member action.name (parseLifecycleAction action (block.get? action.name)))

def parseRecordLifecycleBlock (value : Option Value) : Option Value :=
  ((block? value).map parseLifecycleActions).filter recordLifecycleBlockEnablesAnyAction

def extractRecordLifecyclePolicy (definition : FormDefinition) : Option Value :=
  (parseRecordLifecycleBlock (definition.governance "recordLifecycle")).or
    (parseRecordLifecycleBlock (definition.extension "x-formspec-record-lifecycle"))

def extractRecordLifecycleOptIn (definition : FormDefinition) : Option FormFeaturePolicyMode :=
  if isFlag (definition.extension "x-formspec-record-lifecycle")
      || isFlag (definition.governance "recordLifecycle")
      || (extractRecordLifecyclePolicy definition).any recordLifecycleBlockEnablesAnyAction then
    some .optional
  else none

def positiveInteger (value : Option Value) : Option Int :=
  (value.bind integer?).filter (0 < ·)

def stringArray (value : Option Value) : Option Value := (value.bind (·.strings?)).map .ofStrings

def nonEmptyString (value : Option Value) : Option Value :=
  (value.bind (·.nonEmptyString?)).map .string

def parseMultiPartyCardinality (value : Option Value) : Value :=
  match block? value with
  | none => .object [("min", .number 1), ("max", .number 1)]
  | some block =>
    let min := (positiveInteger (block.get? "min")).getD 1
    let max : Value :=
      if isOneOf ["unbounded"] (block.get? "max") then .string "unbounded"
      else .number ((positiveInteger (block.get? "max")).getD min)
    .object [("min", .number min), ("max", max)]

def parseAssuranceFloor (value : Option Value) : Option Value := do
  let block ← block? value
  let read := fun level => nonEmptyString (block.get? level)
  if ["ial", "aal", "fal"].any fun level => (read level).isSome then
    return .object (["ial", "aal", "fal"].map fun level => Value.member level (read level))
  else none

def parseMultiPartyRole (value : Value) : Option Value := do
  let block ← block? (some value)
  let roleId ← nonEmptyString (block.get? "roleId")
  let role ← parseText ["coEqual", "asymmetricPrimary", "asymmetricSecondary", "guardianFor"]
    (block.get? "role")
  return .object
    [("roleId", roleId), Value.member "label" (nonEmptyString (block.get? "label")), ("role", role),
      ("cardinality", parseMultiPartyCardinality (block.get? "cardinality")),
      Value.member "assuranceFloor" (parseAssuranceFloor (block.get? "assuranceFloor")),
      ("visibilityScope", (parseText ["scoped", "shared"] (block.get? "visibilityScope")).getD
        (.string "shared")),
      Value.member "visibleTo" (stringArray (block.get? "visibleTo")),
      Value.member "editableBy" (stringArray (block.get? "editableBy")),
      Value.member "signedBy" (stringArray (block.get? "signedBy")),
      Value.member "safeAddressAudience" (stringArray (block.get? "safeAddressAudience"))]

def parseMultiPartyDeadlinePolicy (value : Option Value) : Option Value := do
  let block ← block? value
  let expirationAction ←
    parseText ["convert-to-partial", "void-submission"] (block.get? "expirationAction")
  return .object [("expirationAction", expirationAction),
    Value.member "perPartyDeadline" (nonEmptyString (block.get? "perPartyDeadline"))]

def parseMultiPartyBlock (value : Option Value) : Option Value := do
  let block ← block? value
  let tier ← parseText ["coEqual", "asymmetric"] (block.get? "tier")
  let declared ← (block.get? "parties").bind (·.entries?)
  let parties := declared.filterMap parseMultiPartyRole
  if parties.length < 2 || parties.length != declared.length then none
  else
    let invitationChannel :=
      parseText ["magic-link", "wos-task", "out-of-band"] (block.get? "invitationChannel")
    return .object [("tier", tier), ("parties", .array parties),
      ("invitationChannel", invitationChannel.getD (.string "out-of-band")),
      Value.member "deadlinePolicy" (parseMultiPartyDeadlinePolicy (block.get? "deadlinePolicy"))]

/-- `value ?? next`. -/
def orElseNullish (value next : Option Value) : Option Value :=
  match value with
  | none | some .undefined | some .null => next
  | some found => some found

def extractMultiPartyPolicy (definition : FormDefinition) : Option FormRuntimePolicy :=
  let raw := orElseNullish (definition.extension "x-formspec-multi-party")
    (orElseNullish (definition.governance "multiParty") definition.parties)
  (parseMultiPartyBlock raw).map fun policy =>
    { features := [("multiParty", some .required)]
      limits := fun
        | .multiParty => some policy
        | _ => none
      recordLifecycle := none }

end FormspecWeb.Policy
