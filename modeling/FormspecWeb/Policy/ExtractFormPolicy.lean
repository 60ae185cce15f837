import FormspecWeb.Shared.Tree
import FormspecWeb.Policy.PolicyShapes

/-!
# Extraction of the form policy

The walkers that read the policy of a form off its definition: the requirement of
file upload, from attachment fields, and the safe-address policy, from the items
that declare a protected class and from the extension block.
-/

namespace FormspecWeb.Policy

open Shared

inductive ItemType where
  | group
  | field
  | display
deriving DecidableEq

structure ItemProperties where
  key : String
  type : ItemType
  label : String
  dataType : Option String
  accessControl : Option Value
  visibleTo : Option Value

/-- An item with its `children`; none where they are absent. -/
abbrev FormItem := Shared.Tree ItemProperties

structure FormDefinition where
  items : List FormItem
  /-- `extensions?.[key]`. -/
  extension : String → Option Value
  /-- `governance?.[key]`. -/
  governance : String → Option Value := fun _ => none
  parties : Option Value := none

/-- `item.type === 'field' && item.dataType === 'attachment'`. -/
def isAttachmentField (item : ItemProperties) : Bool :=
  item.type == .field && item.dataType == some "attachment"

def isGroup (item : ItemProperties) : Bool := item.type == .group

mutual

/-- The body of the loop of `hasAttachmentField`. -/
def itemHasAttachmentField : FormItem → Bool
  | .node item children => isAttachmentField item || (isGroup item && hasAttachmentField children)

def hasAttachmentField : List FormItem → Bool
  | [] => false
  | item :: items => itemHasAttachmentField item || hasAttachmentField items

end

def extractAttachmentRequirement (definition : FormDefinition) : Option FormFeaturePolicyMode :=
  if hasAttachmentField definition.items then some .required else none

/-! ## Safe addresses -/

def safeAccessClass (item : ItemProperties) : Option SafeAddressAccessClass :=
  ((item.accessControl.bind (·.get? "class")).bind safeClass)

def itemPath (above : List String) (item : ItemProperties) : String :=
  "/" ++ "/".intercalate (above ++ [item.key])

def safeAddressField (above : List String) (item : ItemProperties) :
    Option SafeAddressFieldPolicy :=
  (safeAccessClass item).map fun accessClass =>
    { path := itemPath above item
      label := some item.label
      accessClass := accessClass
      visibleTo := item.visibleTo.bind (·.strings?)
      plaintextAudiences := (item.accessControl.bind (·.get? "plaintextAudiences")).bind (·.strings?)
      effectiveAudiences :=
        (item.accessControl.bind (·.get? "effectiveAudiences")).bind (·.strings?) }

mutual

/-- The body of the loop of `safeAddressFieldsFromItems`. -/
def safeAddressFieldsFromItem (ancestors : List String) : FormItem → List SafeAddressFieldPolicy
  | .node item children =>
    (safeAddressField ancestors item).toList
      ++ if isGroup item then safeAddressFieldsFromItems (ancestors ++ [item.key]) children else []

def safeAddressFieldsFromItems (ancestors : List String) :
    List FormItem → List SafeAddressFieldPolicy
  | [] => []
  | item :: items =>
    safeAddressFieldsFromItem ancestors item ++ safeAddressFieldsFromItems ancestors items

end

def nonEmpty? {α : Type} (entries : List α) : Option (List α) :=
  if entries.isEmpty then none else some entries

/-- One entry of `safeAddressFieldArray`. -/
def safeAddressFieldOf (entry : Value) : Option SafeAddressFieldPolicy := do
  let path ← (entry.get? "path").bind (·.nonEmptyString?)
  let accessClass ← (entry.get? "accessClass").bind safeClass
  return {
    path := path
    label := (entry.get? "label").bind (·.nonEmptyString?)
    accessClass := accessClass
    visibleTo := (entry.get? "visibleTo").bind (·.strings?)
    plaintextAudiences := (entry.get? "plaintextAudiences").bind (·.strings?)
    effectiveAudiences := (entry.get? "effectiveAudiences").bind (·.strings?) }

def safeAddressFieldArray (value : Value) : Option (List SafeAddressFieldPolicy) :=
  value.entries?.bind fun entries => nonEmpty? (entries.filterMap safeAddressFieldOf)

def safeClassArray (value : Value) : Option (List SafeAddressAccessClass) :=
  value.entries?.bind fun entries => nonEmpty? (entries.filterMap safeClass)

def parseSafeAddressRendererHints (value : Value) : Option RendererHints :=
  let hints : RendererHints :=
    ⟨(value.get? "maskRenderToken").bind (·.nonEmptyString?),
      (value.get? "revealAffordanceLabel").bind (·.nonEmptyString?)⟩
  if hints.maskRenderToken.isNone && hints.revealAffordanceLabel.isNone then none else some hints

/-- What `parseSafeAddressBlock` returns. -/
structure SafeAddressBlock where
  enabled : Bool
  mode : Option FormFeaturePolicyMode
  receiptPostureTier : Option SafeAddressReceiptPostureTier
  enabledClasses : Option (List SafeAddressAccessClass)
  acpJurisdictionsAccepted : Option (List String)
  authorizedAudiences : Option (List String)
  substituteAddressDirectoryRef : Option String
  fields : Option (List SafeAddressFieldPolicy)
  rendererHints : Option RendererHints

/-- `{ enabled }`. -/
def SafeAddressBlock.bare (enabled : Bool) : SafeAddressBlock :=
  ⟨enabled, none, none, none, none, none, none, none, none⟩

def blockMode (value : Value) : Option FormFeaturePolicyMode :=
  match value.get? "mode" with
  | some (.string "optional") => some .optional
  | some (.string "required") => some .required
  | _ => none

def parseSafeAddressBlock : Option Value → SafeAddressBlock
  | some (.bool true) => .bare true
  | some (.object members) =>
    let block : Value := .object members
    let mode := blockMode block
    { enabled := (block.get? "enabled").any (·.isTrue) || mode.isSome
      mode := mode
      receiptPostureTier := (block.get? "receiptPostureTier").bind receiptPostureTier?
      enabledClasses := (block.get? "enabledClasses").bind safeClassArray
      acpJurisdictionsAccepted := (block.get? "acpJurisdictionsAccepted").bind (·.strings?)
      authorizedAudiences := (block.get? "authorizedAudiences").bind (·.strings?)
      substituteAddressDirectoryRef :=
        (block.get? "substituteAddressDirectoryRef").bind (·.nonEmptyString?)
      fields := (block.get? "fields").bind safeAddressFieldArray
      rendererHints := (block.get? "rendererHints").bind parseSafeAddressRendererHints }
  | _ => .bare false

def uniqueSafeClasses (fields : List SafeAddressFieldPolicy) : List SafeAddressAccessClass :=
  (fields.map (·.accessClass)).foldl
    (fun classes accessClass => if accessClass ∈ classes then classes else classes ++ [accessClass]) []

/-- The fields of a definition: those of its items, then those its block lists. -/
def safeAddressFields (definition : FormDefinition) : List SafeAddressFieldPolicy :=
  safeAddressFieldsFromItems [] definition.items
    ++ (parseSafeAddressBlock (definition.extension "x-formspec-safe-address")).fields.getD []

def safeAddressConfig (block : SafeAddressBlock) (fields : List SafeAddressFieldPolicy) :
    SafeAddressRuntimeConfig where
  enabledClasses := block.enabledClasses.getD (uniqueSafeClasses fields)
  receiptPostureTier := block.receiptPostureTier.getD .phase1Fallback
  substituteAddressDirectoryRef :=
    block.substituteAddressDirectoryRef.getD "composition:safeAddressDirectory"
  acpJurisdictionsAccepted := block.acpJurisdictionsAccepted.getD []
  authorizedAudiences := block.authorizedAudiences.getD []
  fields := fields
  rendererHints := block.rendererHints

/-- `raw === false`. -/
def isFalse : Option Value → Bool
  | some (.bool false) => true
  | _ => false

def extractSafeAddressPolicy (definition : FormDefinition) : Option FormRuntimePolicy :=
  let raw := definition.extension "x-formspec-safe-address"
  let block := parseSafeAddressBlock raw
  let fields := safeAddressFields definition
  if isFalse raw && fields.isEmpty then
    some ⟨[("safeAddress", some .forbidden)], fun _ => none, none⟩
  else if !block.enabled && fields.isEmpty then none
  else
    some
      { features :=
          [("safeAddress", some (if fields.isEmpty then block.mode.getD .required else .required))]
        limits := fun
          | .safeAddress => some (safeAddressConfig block fields).toValue
          | _ => none
        recordLifecycle := none }

end FormspecWeb.Policy
