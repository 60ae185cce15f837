import FormspecWeb.Shared.Checks
import FormspecWeb.Shared.Text
import FormspecWeb.Shared.Value

/-!
# Validation of a public respondent app

The checks that an app graph passes before its surface is shown to the public. Documents are values of
unknown shape: what is not an object is no route, slot, action or source to the checks, and there is none
where documents follow their schemas. How the locale store resolves strings is given.
-/

namespace FormspecWeb.VerifyingSurface.Respondent

open Shared

structure ResolvedArtifactHandle where
  artifactKind : String
  /-- `ref?.url`. -/
  refUrl : Option String
  document : Option Value

structure AppGraphContext where
  manifest : ResolvedArtifactHandle
  handles : List ResolvedArtifactHandle

structure AppGraphDiagnostic where
  code : String
  severity : String
  phase : String
  origin : String
  message : String
  details : Option Value

structure RespondentPublicAppPolicy where
  appId : String
  starterModuleId : String
  receiptResourceUrl : String

structure Platform where
  /-- `String(value)`, where it is no string. -/
  stringOf : Option Value → String
  surfaceStringKeys : List String
  surfaceLocaleKeyPrefix : String
  /-- `getAvailableLocales` of a store of the app, with these documents loaded. -/
  availableLocales : String → List Value → List String
  /-- `lookupKey` in a locale. -/
  lookupKey : String → List Value → String → String → Option String

def record (value : Option Value) : Option Value := value.filter Value.isPlainObject

def records (value : Option Value) : List Value :=
  ((value.bind Value.entries?).getD []).filter Value.isPlainObject

def text (value : Option Value) : Option String := value.bind Value.text?

/-- `value?.[key]`. -/
def at? (value : Option Value) (key : String) : Option Value := value.bind (·.get? key)

/-- `value === expected`. -/
def isText (value : Option Value) (expected : String) : Bool := text value == some expected

/-- `first === second`, of members that are read at two places: objects there are never the same. -/
def strictEq : Option Value → Option Value → Bool
  | none, none => true
  | some .null, some .null => true
  | some (.bool first), some (.bool second) => first == second
  | some (.number first), some (.number second) => first == second
  | some (.string first), some (.string second) => first == second
  | _, _ => false

/-- `Object.keys(value).length`. -/
def keyCount (value : Value) : Nat := value.members.length

def textMember (key : String) (value : Option String) : String × Value :=
  Value.member key (value.map .string)

def countMember (key : String) (count : Nat) : String × Value := (key, .number count)

def diagnosticWith (code message : String) (details : Option Value) : AppGraphDiagnostic where
  code := code
  severity := "error"
  phase := "authorization-boundary"
  origin := "x-formspec-web-respondent"
  message := message
  details := details

def diagnostic (code message : String) (details : List (String × Value)) : AppGraphDiagnostic :=
  diagnosticWith code message (some (.object details))

/-- `if (condition) diagnostics.push(found)`. -/
def reportIf (condition : Bool) (found : AppGraphDiagnostic) : List AppGraphDiagnostic :=
  if condition then [found] else []

@[simp] theorem reportIf_eq_nil {condition : Bool} {found : AppGraphDiagnostic} :
    reportIf condition found = [] ↔ condition = false := by
  cases condition <;> simp [reportIf]

def publicRouteClasses : List String := ["intake", "proof"]

def publicStarterWidgets : List String :=
  ["x-intake-banner", "IntakeBanner", "x-receipt-panel", "ReceiptPanel"]

def isReceiptWidget (widgetName : String) : Bool :=
  widgetName == "ReceiptPanel" || widgetName == "x-receipt-panel"

def isIntakeWidget (widgetName : String) : Bool :=
  widgetName == "IntakeBanner" || widgetName == "x-intake-banner"

def exactCaseRefTransitionParams (value : Option Value) : Bool :=
  (record value).any fun params =>
    keyCount params == 1 && isText (params.get? "caseRef") "caseRef"

namespace AppGraphContext

variable (context : AppGraphContext)

def handlesOf (kind : String) : List ResolvedArtifactHandle :=
  context.handles.filter (·.artifactKind == kind)

def manifestRecord : Option Value := record context.manifest.document

end AppGraphContext

namespace ResolvedArtifactHandle

/-- `record(handle.document)?.[key]`. -/
def member (handle : ResolvedArtifactHandle) (key : String) : Option Value :=
  at? (record handle.document) key

def routes (handle : ResolvedArtifactHandle) : List Value := records (handle.member "routes")

def sources (handle : ResolvedArtifactHandle) : List Value := records (handle.member "sources")

end ResolvedArtifactHandle

def validateManifestIdentity (context : AppGraphContext) (policy : RespondentPublicAppPolicy) :
    List AppGraphDiagnostic :=
  let id := at? context.manifestRecord "id"
  let modules := records (at? context.manifestRecord "modules")
  reportIf (!isText id policy.appId)
      (diagnostic "RESPONDENT-APP-IDENTITY"
        "The admitted App Manifest does not match this respondent deployment."
        [textMember "expectedAppId" policy.appId, Value.member "observedAppId" id])
    ++ reportIf (modules.length != 1 || !isText (at? modules.head? "id") policy.starterModuleId
          || (text (at? modules.head? "version")).isNone)
      (diagnostic "RESPONDENT-ACTOR-MODULES"
        "The respondent App Manifest must declare exactly one versioned respondent starter module."
        [textMember "expectedModule" policy.starterModuleId,
          ("modules", .array (modules.map fun module => .object
            [textMember "id" (text (module.get? "id")), textMember "version" (text (module.get? "version"))]))])

structure ReceiptSourceIdentity where
  catalogRef : String
  sourceRef : String
  source : Value

/-- `record(record(source.runtime)?.provenance)`. -/
def provenanceOf (source : Value) : Option Value :=
  record (at? (record (source.get? "runtime")) "provenance")

def receiptSourceOf (policy : RespondentPublicAppPolicy) (catalogRef : String) (source : Value) :
    Option ReceiptSourceIdentity :=
  if isText (source.get? "kind") "document-resource"
      && isText (at? (provenanceOf source) "source") policy.receiptResourceUrl then
    (text (source.get? "id")).map fun sourceRef => ⟨catalogRef, sourceRef, source⟩
  else none

def receiptSourcesOf (policy : RespondentPublicAppPolicy) (handle : ResolvedArtifactHandle) :
    List ReceiptSourceIdentity :=
  match handle.refUrl with
  | none => []
  | some catalogRef => handle.sources.filterMap (receiptSourceOf policy catalogRef)

def respondentReceiptSource (context : AppGraphContext) (policy : RespondentPublicAppPolicy) :
    Option ReceiptSourceIdentity :=
  match (context.handlesOf "dataSources").flatMap (receiptSourcesOf policy) with
  | [found] => some found
  | _ => none

def isReceiptSource (policy : RespondentPublicAppPolicy) (source : Value) : Bool :=
  let runtime := record (source.get? "runtime")
  let provenance := provenanceOf source
  let availability := record (source.get? "availability")
  isText (source.get? "kind") "document-resource"
    && isText (source.get? "owner") "host"
    && (isText (source.get? "scope") "route" || isText (source.get? "scope") "resource")
    && isText (at? runtime "authorizationBoundary") "host"
    && isText (at? runtime "delivery") "snapshot"
    && isText (at? runtime "failureMode") "block-render"
    && isText (at? provenance "kind") "document-resource"
    && isText (at? provenance "source") policy.receiptResourceUrl
    && (record (source.get? "schema")).isSome
    && (isText (at? availability "level") "route" || isText (at? availability "level") "slot")

def dataSources (context : AppGraphContext) : List (ResolvedArtifactHandle × Value) :=
  (context.handlesOf "dataSources").flatMap fun handle => handle.sources.map fun source => (handle, source)

def validateReceiptSources (context : AppGraphContext) (policy : RespondentPublicAppPolicy) :
    List AppGraphDiagnostic :=
  let receiptSources := (dataSources context).countP fun (_, source) => isReceiptSource policy source
  (dataSources context).flatMap (fun (handle, source) =>
      reportIf (!isReceiptSource policy source)
        (diagnostic "RESPONDENT-ACTOR-DATA-SOURCE-REFUSED"
          ("Data source '" ++ (text (source.get? "id")).getD "<unknown>"
            ++ "' is not the host-authorized respondent receipt source.")
          [textMember "catalogRef" handle.refUrl, textMember "sourceRef" (text (source.get? "id")),
            textMember "kind" (text (source.get? "kind")), textMember "owner" (text (source.get? "owner"))]))
    ++ reportIf (receiptSources != 1)
      (diagnostic "RESPONDENT-RECEIPT-SOURCE-COUNT"
        "The respondent app must resolve exactly one schema-qualified receipt source."
        [countMember "receiptSources" receiptSources])

/-! ## Surfaces -/

structure Tally where
  diagnostics : List AppGraphDiagnostic
  intakeRoutes : Nat
  proofRoutes : Nat
  receiptWidgets : Nat

namespace Tally

def reported (diagnostics : List AppGraphDiagnostic) : Tally := ⟨diagnostics, 0, 0, 0⟩

def add (first second : Tally) : Tally where
  diagnostics := first.diagnostics ++ second.diagnostics
  intakeRoutes := first.intakeRoutes + second.intakeRoutes
  proofRoutes := first.proofRoutes + second.proofRoutes
  receiptWidgets := first.receiptWidgets + second.receiptWidgets

def sum : List Tally → Tally
  | [] => reported []
  | pass :: passes => pass.add (sum passes)

end Tally

def slotsOf (route : Value) : List Value := records (route.get? "slots")

structure WidgetSlot where
  handle : ResolvedArtifactHandle
  route : Value
  routeClass : Option String
  slot : Value

namespace WidgetSlot

def binding (place : WidgetSlot) : Option Value := record (place.slot.get? "binding")

def moduleId (place : WidgetSlot) : Option String := text (at? place.binding "moduleId")

def widgetName (place : WidgetSlot) : Option String := text (at? place.binding "widgetName")

def routeIdMember (place : WidgetSlot) : String × Value := textMember "routeId" (text (place.route.get? "id"))

def slotIdMember (place : WidgetSlot) : String × Value := textMember "slotId" (text (place.slot.get? "id"))

def isStarter (place : WidgetSlot) (policy : RespondentPublicAppPolicy) : Bool :=
  place.moduleId == some policy.starterModuleId
    && place.widgetName.any fun name => truthy name && publicStarterWidgets.contains name
      && (!isReceiptWidget name || place.routeClass == some "proof")
      && (!isIntakeWidget name || place.routeClass == some "intake")

def bindsReceipt (place : WidgetSlot) (receiptSource : Option ReceiptSourceIdentity) : Bool :=
  (record (at? place.binding "dataBindings")).any fun dataBindings =>
    keyCount dataBindings == 1
      && (record (dataBindings.get? "receipt")).any fun receiptBinding =>
        strictEq (receiptBinding.get? "catalogRef") (receiptSource.map (.string ·.catalogRef))
          && strictEq (receiptBinding.get? "sourceRef") (receiptSource.map (.string ·.sourceRef))

def qualifiedAvailability (place : WidgetSlot) (receiptSource : Option ReceiptSourceIdentity) : Bool :=
  (record (receiptSource.bind (·.source.get? "availability"))).any fun availability =>
    strictEq (availability.get? "surfaceRef") (place.handle.refUrl.map .string)
      && strictEq (availability.get? "routeRef") (place.route.get? "id")
      && (isText (availability.get? "level") "route"
        || (isText (availability.get? "level") "slot"
          && strictEq (availability.get? "slotId") (place.slot.get? "id")))

def receiptFindings (place : WidgetSlot) (receiptSource : Option ReceiptSourceIdentity) :
    List AppGraphDiagnostic :=
  reportIf (!place.bindsReceipt receiptSource)
      (diagnostic "RESPONDENT-RECEIPT-BINDING"
        "The receipt widget must bind its one named receipt input to the sole admitted receipt source."
        [place.routeIdMember, place.slotIdMember,
          textMember "expectedCatalogRef" (receiptSource.map (·.catalogRef)),
          textMember "expectedSourceRef" (receiptSource.map (·.sourceRef))])
    ++ reportIf (!place.qualifiedAvailability receiptSource)
      (diagnostic "RESPONDENT-RECEIPT-AVAILABILITY"
        "The sole receipt source must be qualified to the receipt proof route or its ReceiptPanel slot."
        [place.routeIdMember, place.slotIdMember])

def isReceipt (place : WidgetSlot) : Bool :=
  place.widgetName.any fun name => truthy name && isReceiptWidget name

def widgetPass (place : WidgetSlot) (policy : RespondentPublicAppPolicy)
    (receiptSource : Option ReceiptSourceIdentity) : Tally where
  diagnostics :=
    reportIf (at? place.binding "actionBindings").isSome
        (diagnostic "RESPONDENT-WIDGET-ACTIONS-UNSUPPORTED"
          "The respondent starter widgets may not bind action outputs until this host admits an explicit widget-action boundary."
          [place.routeIdMember, place.slotIdMember, textMember "widgetName" place.widgetName])
      ++ reportIf (!place.isStarter policy)
        (diagnostic "RESPONDENT-ACTOR-WIDGET-REFUSED"
          ("Widget '" ++ place.widgetName.getD "<unknown>"
            ++ "' is outside the public respondent starter set or route.")
          [place.routeIdMember, textMember "routeClass" place.routeClass, place.slotIdMember,
            textMember "moduleId" place.moduleId, textMember "widgetName" place.widgetName])
      ++ (if place.isReceipt then place.receiptFindings receiptSource else [])
  intakeRoutes := 0
  proofRoutes := 0
  receiptWidgets := if place.isReceipt then 1 else 0

end WidgetSlot

def slotPass (policy : RespondentPublicAppPolicy) (receiptSource : Option ReceiptSourceIdentity)
    (handle : ResolvedArtifactHandle) (route : Value) (routeClass : Option String) (slot : Value) : Tally :=
  let slotType := text (slot.get? "slotType")
  let place : WidgetSlot := ⟨handle, route, routeClass, slot⟩
  let findings :=
    reportIf (slotType == some "embed-route")
        (diagnostic "RESPONDENT-EMBED-ROUTE-REFUSED"
          "The public respondent Surface may not embed another route."
          [place.routeIdMember, place.slotIdMember])
      ++ reportIf (slotType == some "definition-form" && routeClass != some "intake")
        (diagnostic "RESPONDENT-ACTOR-SLOT-REFUSED"
          "A respondent Definition form may run only on an intake route."
          [place.routeIdMember, place.slotIdMember])
  if slotType != some "module-widget" then .reported findings
  else (Tally.reported findings).add (place.widgetPass policy receiptSource)

/-- The path and the parameters of a proof route that takes a case reference. -/
def hasCaseRef (route : Value) : Bool :=
  let params := records (route.get? "params")
  isText (route.get? "path") "/receipt/\x7bcaseRef\x7d" && params.length == 1
    && isText (at? params.head? "name") "caseRef" && isText (at? params.head? "type") "string"

/-- The transitions of the intake routes that supply a route its case reference. -/
def incomingTransitions (routes : List Value) (route : Value) : List Value :=
  routes.flatMap fun sourceRoute =>
    if isText (sourceRoute.get? "routeClass") "intake" then
      (records (sourceRoute.get? "transitions")).filter fun transition =>
        strictEq (transition.get? "to") (route.get? "id")
          && exactCaseRefTransitionParams (transition.get? "params")
    else []

def proofFindings (routes : List Value) (route : Value) : List AppGraphDiagnostic :=
  let incoming := incomingTransitions routes route
  reportIf (!hasCaseRef route)
      (diagnostic "RESPONDENT-RECEIPT-ROUTE-PARAM"
        "A respondent proof route must declare exactly one string caseRef parameter in its path."
        [textMember "routeId" (text (route.get? "id")), textMember "path" (text (route.get? "path"))])
    ++ reportIf (incoming.length != 1)
      (diagnostic "RESPONDENT-RECEIPT-TRANSITION-PARAM"
        "Exactly one intake transition must supply the proof route caseRef parameter."
        [textMember "routeId" (text (route.get? "id")), countMember "matchingTransitions" incoming.length])

def routePass (policy : RespondentPublicAppPolicy) (receiptSource : Option ReceiptSourceIdentity)
    (handle : ResolvedArtifactHandle) (route : Value) : Tally :=
  let routeClass := text (route.get? "routeClass")
  if !routeClass.any fun name => truthy name && publicRouteClasses.contains name then
    .reported [diagnostic "RESPONDENT-ACTOR-ROUTE-REFUSED"
      ("Public respondent bundles may contain only intake and proof routes; route '"
        ++ (text (route.get? "id")).getD "<unknown>" ++ "' is refused.")
      [textMember "routeId" (text (route.get? "id")), textMember "routeClass" routeClass]]
  else
    let own : Tally :=
      ⟨if routeClass == some "proof" then proofFindings handle.routes route else [],
        if routeClass == some "intake" then 1 else 0, if routeClass == some "proof" then 1 else 0, 0⟩
    own.add (.sum ((slotsOf route).map (slotPass policy receiptSource handle route routeClass)))

def surfacesTally (context : AppGraphContext) (policy : RespondentPublicAppPolicy) : Tally :=
  let receiptSource := respondentReceiptSource context policy
  .sum ((context.handlesOf "surface").map fun handle =>
    .sum (handle.routes.map (routePass policy receiptSource handle)))

def validatePublicSurfaces (context : AppGraphContext) (policy : RespondentPublicAppPolicy) :
    List AppGraphDiagnostic :=
  let tally := surfacesTally context policy
  tally.diagnostics
    ++ reportIf (tally.intakeRoutes != 1)
      (diagnostic "RESPONDENT-INTAKE-ROUTE-COUNT"
        "The respondent app must contain exactly one intake route."
        [countMember "intakeRoutes" tally.intakeRoutes])
    ++ reportIf (tally.proofRoutes != 1)
      (diagnostic "RESPONDENT-PROOF-ROUTE-MISSING"
        "The respondent app must contain exactly one proof route for the real submission receipt."
        [countMember "proofRoutes" tally.proofRoutes])
    ++ reportIf (tally.receiptWidgets != 1)
      (diagnostic "RESPONDENT-RECEIPT-WIDGET-COUNT"
        "The respondent app must contain exactly one ReceiptPanel."
        [countMember "receiptWidgets" tally.receiptWidgets])

/-! ## The flow from the form to the receipt -/

/-- The Definition forms of routes, each with the place and the route it stands on. -/
def definitionSlots (routes : List Value) : List ((Value × Nat) × Value) :=
  routes.zipIdx.flatMap fun route =>
    ((slotsOf route.1).filter fun slot => isText (slot.get? "slotType") "definition-form").map
      fun slot => (route, slot)

def definitionRefOf (slot : Option Value) : Option String :=
  text (at? (record (slot.bind (·.get? "binding"))) "definitionRef")

/-- The Definitions with this address, in the reference and in the document. -/
def boundDefinitions (context : AppGraphContext) (definitionRef : Option String) :
    List ResolvedArtifactHandle :=
  (context.handlesOf "definition").filter fun handle =>
    handle.refUrl == definitionRef && strictEq (handle.member "url") (definitionRef.map .string)

def effectsOf (action : Value) : List (Value × Nat) := (records (action.get? "effects")).zipIdx

def isSubmitHostEvent (effect : Value) : Bool :=
  isText (effect.get? "type") "hostEvent" && isText (effect.get? "eventName") "formspec-submit"

/-- `preconditions` is there, and is no empty array. -/
def hasPreconditions (action : Value) : Bool :=
  (action.get? "preconditions").any fun preconditions => preconditions.entries? |>.all (!·.isEmpty)

def overridesValidation (action : Value) : Bool :=
  (record (action.get? "validation")).any fun validation =>
    keyCount validation != 3
      || !isText (validation.get? "profile") "on-submit"
      || !isText (validation.get? "blocking") "block-on-error"
      || !isText (validation.get? "persistence") "complete-response"

/-- The transitions of the intake route that an action's completion makes. -/
def submitTransitions (routes : List Value) (intake action : Value) : List Value :=
  let proofRoutes := routes.filter fun route => isText (route.get? "routeClass") "proof"
  let triggerId := text (action.get? "id")
  (records (intake.get? "transitions")).filter fun transition =>
    proofRoutes.any (fun route => strictEq (transition.get? "to") (route.get? "id"))
      && exactCaseRefTransitionParams (transition.get? "params")
      && (strictEq (transition.get? "trigger") (triggerId.map .string)
        || isText (transition.get? "trigger") "submit")

def checkSubmitAction (action : Value) : Except AppGraphDiagnostic Unit := do
  failIf (hasPreconditions action)
    (diagnostic "RESPONDENT-SUBMIT-PRECONDITIONS-UNSUPPORTED"
      "The respondent submit action may not declare preconditions because this runtime has no precondition evaluator."
      [countMember "preconditions"
        ((((action.get? "preconditions").bind Value.entries?).map List.length).getD 1)])
  let validation := record (action.get? "validation")
  failIf (overridesValidation action)
    (diagnostic "RESPONDENT-SUBMIT-VALIDATION"
      "The submit action must use the canonical blocking, on-submit, complete-response validation behavior."
      [textMember "profile" (text (at? validation "profile")),
        textMember "blocking" (text (at? validation "blocking")),
        textMember "persistence" (text (at? validation "persistence"))])
  let effects := effectsOf action
  let submitHostEvents := effects.filter fun effect => isSubmitHostEvent effect.1
  let last := effects.getLast?.map (·.1)
  failIf (effects.length != 1 || submitHostEvents.length != 1
      || effects.getLast?.map (·.2) != submitHostEvents.head?.map (·.2))
    (diagnostic "RESPONDENT-SUBMIT-HOST-EVENT"
      "The submit action must contain only the exact 'formspec-submit' host event."
      [countMember "effects" effects.length, countMember "submitHostEvents" submitHostEvents.length,
        textMember "finalEffectType" (text (at? last "type")),
        textMember "finalEventName" (text (at? last "eventName"))])

def checkSubmitTransition (routes : List Value) (intake action : Value) :
    Except AppGraphDiagnostic Unit := do
  let triggerId := text (action.get? "id")
  let transitions := submitTransitions routes intake action
  failIf (transitions.length != 1)
    (diagnostic "RESPONDENT-SUBMIT-RECEIPT-TRANSITION"
      "The selected form submit action must supply exactly one caseRef transition to the receipt proof route."
      [textMember "triggerId" triggerId, countMember "matchingTransitions" transitions.length])
  failIf (at? transitions.head? "when").isSome
    (diagnostic "RESPONDENT-TRANSITION-WHEN-UNSUPPORTED"
      "The respondent submit-to-receipt transition may not declare when because this runtime has no transition-condition evaluator."
      [textMember "triggerId" triggerId])

def submitActionOf (context : AppGraphContext) (definitionRef : String) :
    Except AppGraphDiagnostic Value := do
  let actionDocuments := context.handlesOf "responseActions"
  let actions := actionDocuments.flatMap fun handle => records (handle.member "actions")
  let targetDefinition :=
    if actionDocuments.length == 1 then
      text (at? (record (actionDocuments.head?.bind (·.member "targetDefinition"))) "url")
    else none
  let submitActions := actions.filter fun action => isText (action.get? "intent") "submit"
  failIf (actionDocuments.length != 1 || actions.length != 1 || submitActions.length != 1
      || targetDefinition != some definitionRef)
    (diagnostic "RESPONDENT-SUBMIT-ACTION"
      "The respondent bundle must contain exactly one Response Action: the submit action for the selected Definition."
      [countMember "actionDocuments" actionDocuments.length, countMember "actions" actions.length,
        countMember "submitActions" submitActions.length, textMember "targetDefinition" targetDefinition,
        textMember "definitionRef" definitionRef])
  return submitActions.headD .undefined

def entrySurfaceOf (context : AppGraphContext) : Except AppGraphDiagnostic ResolvedArtifactHandle := do
  let entrySurface := text (at? context.manifestRecord "entrySurface")
  let surfaceHandles := context.handlesOf "surface"
  let selectedSurfaces := surfaceHandles.filter (·.refUrl == entrySurface)
  failIf (!entrySurface.any truthy || selectedSurfaces.length != 1 || surfaceHandles.length != 1)
    (diagnostic "RESPONDENT-ENTRY-SURFACE"
      "The respondent app must contain and select one exact entry Surface."
      [textMember "entrySurface" entrySurface, countMember "selectedMatches" selectedSurfaces.length,
        countMember "surfaces" surfaceHandles.length])
  return selectedSurfaces.headD ⟨"", none, none⟩

def entryIntakeOf (surface : ResolvedArtifactHandle) : Except AppGraphDiagnostic (Value × Nat) := do
  let entryRouteId := text (surface.member "entry")
  let selectedRoutes := surface.routes.zipIdx.filter fun route =>
    strictEq (route.1.get? "id") (entryRouteId.map .string)
  failIf (selectedRoutes.length != 1
      || !isText (at? (selectedRoutes.head?.map (·.1)) "routeClass") "intake")
    (diagnostic "RESPONDENT-ENTRY-INTAKE"
      "The selected Surface entry must resolve to one intake route."
      [textMember "entryRouteId" entryRouteId, countMember "matches" selectedRoutes.length])
  return selectedRoutes.headD (.undefined, 0)

def formDefinitionOf (context : AppGraphContext) (surface : ResolvedArtifactHandle)
    (intake : Value × Nat) : Except AppGraphDiagnostic String := do
  let forms := definitionSlots surface.routes
  failIf (forms.length != 1 || forms.head?.map (·.1.2) != some intake.2)
    (diagnostic "RESPONDENT-DEFINITION-FORM-COUNT"
      "The respondent Surface must contain exactly one Definition form, on its selected intake route."
      [countMember "definitionForms" forms.length,
        textMember "formRouteId" (text (at? (forms.head?.map (·.1.1)) "id")),
        textMember "entryRouteId" (text (surface.member "entry"))])
  let definitionRef := definitionRefOf (forms.head?.map (·.2))
  let definitions := boundDefinitions context definitionRef
  failIf (!definitionRef.any truthy || definitions.length != 1)
    (diagnostic "RESPONDENT-DEFINITION-BINDING"
      "The selected Definition form must bind one exact admitted Definition."
      [textMember "definitionRef" definitionRef, countMember "matches" definitions.length])
  return definitionRef.getD ""

def selectedRespondentFlow (context : AppGraphContext) : Except AppGraphDiagnostic Unit := do
  let surface ← entrySurfaceOf context
  let intake ← entryIntakeOf surface
  let definitionRef ← formDefinitionOf context surface intake
  let submitAction ← submitActionOf context definitionRef
  checkSubmitAction submitAction
  checkSubmitTransition surface.routes intake.1 submitAction

def validateSelectedRespondentFlow (context : AppGraphContext) : List AppGraphDiagnostic :=
  match selectedRespondentFlow context with
  | .ok () => []
  | .error found => [found]

/-! ## Registries -/

def registryEntries (context : AppGraphContext) : List Value :=
  (context.handlesOf "registry").flatMap fun handle => records (handle.member "entries")

def widgetShape (entry : Value) : Option Value := record (entry.get? "widgetShape")

def shapeName (entry : Value) : Option String := text (at? (widgetShape entry) "widgetName")

/-- `text(record(entry.widgetShape)?.widgetName) ?? text(entry.name)`. -/
def widgetLabel (entry : Value) : Value :=
  ((shapeName entry).or (text (entry.get? "name"))).elim .undefined .string

section

variable (platform : Platform)

/-- `String(entry.name)`. -/
def nameOf (entry : Value) : String :=
  (text (entry.get? "name")).getD (platform.stringOf (entry.get? "name"))

def validateRespondentRegistries (context : AppGraphContext) (policy : RespondentPublicAppPolicy) :
    List AppGraphDiagnostic :=
  let entries := registryEntries context
  let modules := entries.filter fun entry => isText (entry.get? "category") "module"
  let respondentModules := modules.filter fun entry => isText (entry.get? "name") policy.starterModuleId
  let widgets := entries.filter fun entry => isText (entry.get? "category") "widget"
  let contributions :=
    (((at? respondentModules.head? "contributes").bind Value.entries?).getD []).filterMap Value.text?
  let contributed := fun entry => contributions.contains (nameOf platform entry)
  let nonRespondentWidgets := widgets.filter fun entry =>
    !((shapeName entry).any fun name => truthy name && publicStarterWidgets.contains name)
      || !contributed entry
  let actionWidgets := widgets.filter fun entry => (at? (widgetShape entry) "actionOutputs").isSome
  let receiptWidgets := widgets.filter fun entry =>
    (shapeName entry).any isReceiptWidget && contributed entry
  let dataInputs :=
    if receiptWidgets.length == 1 then records (at? (receiptWidgets.head?.bind widgetShape) "dataInputs")
    else []
  reportIf (modules.length != 1 || respondentModules.length != 1)
      (diagnostic "RESPONDENT-ACTOR-REGISTRY-REFUSED"
        "The respondent app must declare one exact respondent widget module and no staff or ceremony module."
        [("modules", .array (modules.map fun entry =>
            (text (entry.get? "name")).elim .undefined .string)),
          textMember "expectedModule" policy.starterModuleId])
    ++ reportIf (!nonRespondentWidgets.isEmpty)
      (diagnostic "RESPONDENT-ACTOR-REGISTRY-REFUSED"
        "The respondent Registry may publish only intake and receipt widgets owned by its respondent module."
        [("widgets", .array (nonRespondentWidgets.map widgetLabel))])
    ++ reportIf (!actionWidgets.isEmpty)
      (diagnostic "RESPONDENT-WIDGET-ACTIONS-UNSUPPORTED"
        "The respondent Registry may not declare widget action outputs until this host admits an explicit widget-action boundary."
        [("widgets", .array (actionWidgets.map widgetLabel))])
    ++ reportIf (receiptWidgets.length != 1 || dataInputs.length != 1
          || !isText (at? dataInputs.head? "name") "receipt"
          || !(at? dataInputs.head? "required").any Value.isTrue)
      (diagnostic "RESPONDENT-RECEIPT-WIDGET-INPUT"
        "The admitted ReceiptPanel must declare exactly one required named receipt input."
        [countMember "receiptWidgets" receiptWidgets.length,
          ("dataInputs", .array (dataInputs.map fun entry => .object
            [textMember "name" (text (entry.get? "name")),
              Value.member "required" (entry.get? "required")]))])

def isLocaleDocument (value : Option Value) : Bool :=
  let document := record value
  let target := record (at? document "target")
  isText (at? document "$formspecLocale") "2.0"
    && (text (at? document "version")).isSome
    && (text (at? document "locale")).isSome
    && (isText (at? target "kind") "app" || isText (at? target "kind") "definition")
    && (text (at? target "url")).isSome
    && (record (at? document "strings")).isSome

def appLocales (context : AppGraphContext) (policy : RespondentPublicAppPolicy) : List Value :=
  ((context.handlesOf "locale").map (·.document)).filterMap fun document =>
    if isLocaleDocument document && isText (at? (at? document "target") "kind") "app"
        && isText (at? (at? document "target") "url") policy.appId then document
    else none

def validateAppLocales (context : AppGraphContext) (policy : RespondentPublicAppPolicy) :
    List AppGraphDiagnostic :=
  let documents := appLocales context policy
  if documents.isEmpty then
    [diagnosticWith "RESPONDENT-APP-LOCALE-MISSING"
      "The respondent app must provide an App-target Locale 2.0 document." none]
  else
    (platform.availableLocales policy.appId documents).flatMap fun locale =>
      let missing := platform.surfaceStringKeys.filter fun key =>
        (platform.lookupKey policy.appId documents locale (platform.surfaceLocaleKeyPrefix ++ key)).isNone
      reportIf (!missing.isEmpty)
        (diagnostic "RESPONDENT-SHELL-LOCALE-INCOMPLETE"
          ("App locale '" ++ locale
            ++ "' does not resolve every closed Surface shell string through its same-target fallback chain.")
          [textMember "locale" locale, ("missing", .array (missing.map .string))])

def createRespondentPublicAppValidator (policy : RespondentPublicAppPolicy) (context : AppGraphContext) :
    List AppGraphDiagnostic :=
  validateManifestIdentity context policy
    ++ validatePublicSurfaces context policy
    ++ validateSelectedRespondentFlow context
    ++ validateRespondentRegistries platform context policy
    ++ validateReceiptSources context policy
    ++ validateAppLocales platform context policy

end

end FormspecWeb.VerifyingSurface.Respondent
