import FormspecWeb.Shared.Text
import FormspecWeb.Shared.Value
import Mathlib.Data.Rat.Defs

/-!
# Published runtime payloads

What the HTTP definition source reads from the payload of a form: the Definition, which is the
payload or a member of it, and the documents beside it.
-/

namespace FormspecWeb.Definition

open Shared

/-- `typeof value[key] === 'string'`, with the string. -/
def text? (value : Value) (key : String) : Option String := (value.get? key).bind Value.text?

def hasText (value : Value) (key : String) : Bool := (text? value key).isSome

/-- `value[key] === undefined || typeof value[key] === 'string'`. -/
def hasOptionalText (value : Value) (key : String) : Bool :=
  (value.get? key).all fun found => found.text?.isSome

/-- `value[key] === text`. -/
def isText (value : Value) (key text : String) : Bool := text? value key == some text

/-- `isRecord(value[key])`, with the record. -/
def record? (value : Value) (key : String) : Option Value :=
  (value.get? key).filter Value.isPlainObject

def array? (value : Value) (key : String) : Option (List Value) := (value.get? key).bind Value.entries?

def firstOf (admits : Value → Bool) (candidates : List (Option Value)) : Option Value :=
  candidates.findSome? fun candidate => candidate.filter admits

def isFormDefinition (value : Value) : Bool :=
  value.isPlainObject && isText value "$formspec" "1.0" && hasText value "url"
    && hasText value "version" && hasText value "title" && (array? value "items").isSome

/-- A value that passed `isFormDefinition`. -/
structure FormDefinition where
  value : Value
  admitted : isFormDefinition value = true

namespace FormDefinition

def url (definition : FormDefinition) : String := (text? definition.value "url").getD ""

def version (definition : FormDefinition) : String := (text? definition.value "version").getD ""

def ofValue? (value : Value) : Option FormDefinition :=
  if h : isFormDefinition value = true then some ⟨value, h⟩ else none

end FormDefinition

def extractDefinition (payload : Value) : Except String FormDefinition :=
  match FormDefinition.ofValue? payload with
  | some definition => .ok definition
  | none =>
    match (payload.get? "definition").bind FormDefinition.ofValue? with
    | some definition => .ok definition
    | none => .error "HTTP DefinitionSource response did not include a FormDefinition"

/-! ## Documents -/

structure TextFunctions where
  toLowerCase : String → String
  numberText : Rat → String

mutual

/-- `String(value)`; `join` leaves out what is `null` or `undefined`. -/
def stringOf (texts : TextFunctions) : Value → String
  | .undefined | .null => ""
  | .bool value => if value then "true" else "false"
  | .number value => texts.numberText value
  | .string value => value
  | .array entries => ",".intercalate (stringsOf texts entries)
  | .object _ => "[object Object]"

def stringsOf (texts : TextFunctions) : List Value → List String
  | [] => []
  | value :: rest => stringOf texts value :: stringsOf texts rest

end

def isLocaleDocument (value : Value) : Bool :=
  value.isPlainObject && isText value "$formspecLocale" "2.0" && hasText value "version"
    && hasText value "locale"
    && (record? value "target").any (fun target => isText target "kind" "definition"
      && hasText target "url")
    && (record? value "strings").any fun strings => strings.members.all (·.2.text?.isSome)

def localeDocumentsFromValue : Option Value → List Value
  | some (.array entries) => entries.filter isLocaleDocument
  | some value =>
    if isLocaleDocument value then [value]
    else (value.members.map Prod.snd).filter isLocaleDocument
  | none => []

def localeKey (texts : TextFunctions) (document : Value) : String :=
  let target := (document.get? "target").getD .undefined
  "\x00".intercalate [texts.toLowerCase ((text? document "locale").getD ""),
    stringOf texts ((document.get? "url").getD .undefined), (text? document "version").getD "",
    (text? target "kind").getD "", (text? target "url").getD ""]

def uniqueLocaleDocuments (texts : TextFunctions) (documents : List Value) : List Value :=
  (documents.foldl (fun (seen, kept) document =>
    let key := localeKey texts document
    if seen.contains key then (seen, kept) else (key :: seen, kept ++ [document]))
    (([] : List String), ([] : List Value))).2

def extractLocaleDocuments (texts : TextFunctions) (payload : Value) (definition : FormDefinition) :
    List Value :=
  if isFormDefinition payload then []
  else
    (uniqueLocaleDocuments texts (localeDocumentsFromValue (payload.get? "locales")
      ++ localeDocumentsFromValue (payload.get? "locale_documents")
      ++ localeDocumentsFromValue (payload.get? "localeDocuments"))).filter fun document =>
      (document.get? "target").any fun target =>
        isText target "kind" "definition" && isText target "url" definition.url

def isThemeDocument (value : Value) : Bool :=
  value.isPlainObject && hasText value "$formspecTheme" && hasText value "version"

def isComponentDocument (value : Value) : Bool :=
  value.isPlainObject
    && (isText value "$formspecComponent" "1.0" || isText value "$formspecComponent" "1.1"
      || isText value "$formspecComponent" "1.2")
    && hasText value "version" && (record? value "tree").any (hasText · "component")

def isComponentGraphProjectionContext (value : Value) : Bool :=
  value.isPlainObject
    && (record? value "component").any (fun component => hasText component "handle"
      && hasOptionalText component "url" && hasOptionalText component "version")
    && (record? value "surface").any (fun surface => hasText surface "url"
      && hasOptionalText surface "version")
    && hasText value "route"

def extractThemeDocument (payload : Value) : Option Value :=
  if isFormDefinition payload then none else firstOf isThemeDocument [payload.get? "theme_document"]

def extractComponentDocument (payload : Value) : Option Value :=
  if isFormDefinition payload then none
  else firstOf isComponentDocument [payload.get? "component_document", payload.get? "componentDocument"]

def extractComponentGraphContext (payload : Value) : Option Value :=
  if isFormDefinition payload then none
  else
    firstOf isComponentGraphProjectionContext
      [payload.get? "component_graph", payload.get? "componentGraph"]

structure LayoutHostEvidence where
  appGraphReport : Option Value
  uiGraphPolicies : Option (List Value)
  componentGraphContexts : Option (List Value)

def isAppGraphValidationReport (value : Value) : Bool :=
  value.isPlainObject && (value.get? "ok").any Value.isBool && (record? value "summary").isSome
    && ["schemaResults", "evidenceResults", "diagnostics", "phases"].all fun key =>
      (array? value key).isSome

def isUiGraphPolicyDocument (value : Value) : Bool :=
  value.isPlainObject && isText value "$formspecUiGraphPolicy" "0.1" && hasText value "version"
    && (record? value "targetSurface").any (fun surface => hasText surface "url"
      && hasOptionalText surface "version")
    && (array? value "routePolicies").any fun policies => !policies.isEmpty
      && policies.all fun policy => policy.isPlainObject && hasText policy "routeId"

/-- Evidence of a document, with the schema it was checked against and its source. -/
def isProjectionEvidence (admits : Value → Bool) (value : Value) : Bool :=
  value.isPlainObject && hasText value "schemaId" && hasText value "source"
    && (value.get? "document").any admits

def isUiGraphPolicyProjectionEvidence (value : Value) : Bool :=
  isProjectionEvidence isUiGraphPolicyDocument value

def isComponentGraphProjectionEvidence (value : Value) : Bool :=
  isProjectionEvidence isComponentGraphProjectionContext value

/-- The policies that are admitted; none where there is none. -/
def uiGraphPolicyProjectionEvidenceListFromValue (value : Value) : Option (List Value) :=
  (value.entries?.map (·.filter isUiGraphPolicyProjectionEvidence)).filter (!·.isEmpty)

/-- The contexts; none where one of them is refused. -/
def componentGraphProjectionEvidenceListFromValue (value : Value) : Option (List Value) :=
  value.entries?.filter fun entries =>
    !entries.isEmpty && entries.all isComponentGraphProjectionEvidence

def layoutHostEvidenceFromParts (parts : LayoutHostEvidence) : Option LayoutHostEvidence :=
  if parts.appGraphReport.isNone && (parts.uiGraphPolicies.all List.isEmpty)
      && (parts.componentGraphContexts.all List.isEmpty) then none
  else
    some {
      appGraphReport := parts.appGraphReport
      uiGraphPolicies := parts.uiGraphPolicies.filter (!·.isEmpty)
      componentGraphContexts := parts.componentGraphContexts.filter (!·.isEmpty) }

def evidenceParts (value : Value) (report policies contexts : String × String) : LayoutHostEvidence where
  appGraphReport := firstOf isAppGraphValidationReport [value.get? report.1, value.get? report.2]
  uiGraphPolicies := [value.get? policies.1, value.get? policies.2].findSome? fun candidate =>
    candidate.bind uiGraphPolicyProjectionEvidenceListFromValue
  componentGraphContexts := [value.get? contexts.1, value.get? contexts.2].findSome? fun candidate =>
    candidate.bind componentGraphProjectionEvidenceListFromValue

def layoutHostEvidenceFromValue (value : Value) : Option LayoutHostEvidence :=
  if value.isPlainObject then
    layoutHostEvidenceFromParts (evidenceParts value ("appGraphReport", "app_graph_report")
      ("uiGraphPolicies", "ui_graph_policies") ("componentGraphContexts", "component_graph_contexts"))
  else none

def extractLayoutHostEvidence (payload : Value) : Option LayoutHostEvidence :=
  if isFormDefinition payload then none
  else
    match [payload.get? "host_evidence", payload.get? "hostEvidence"].findSome? fun candidate =>
        candidate.bind layoutHostEvidenceFromValue with
    | some evidence => some evidence
    | none =>
      layoutHostEvidenceFromParts (evidenceParts payload
        ("app_graph_validation_report", "appGraphValidationReport")
        ("ui_graph_policies", "uiGraphPolicies")
        ("component_graph_contexts", "componentGraphContexts"))

end FormspecWeb.Definition
