import FormspecWeb.Async.History
import FormspecWeb.Async.Steps
import FormspecWeb.Definition.FormId
import FormspecWeb.Definition.RuntimePayload
import Mathlib.Logic.Function.Basic

/-!
# The HTTP definition source

The getters share the payload that was fetched for the form id and version they ask for. The fetch
itself names the form id alone, and what it returns is not compared with the version.
-/

namespace FormspecWeb.Definition

open Shared Async

structure HttpDefinitionSourceConfig where
  formIdResolver : FormIdResolver
  /-- `canonicalize(value)`; none where it returns no text. -/
  canonicalize : Value → Option String
  computeJcsSha256Digest : Value → Except String String
  texts : TextFunctions

structure HttpPublishedDefinition where
  formId : String
  formVersionId : String
  definitionUrl : String
  definitionVersion : String
  definitionHash : String
  definition : FormDefinition

inductive Getter where
  | definition
  | published (expected : FormDefinition)
  | locales
  | theme
  | component
  | graph
  | evidence

inductive Answer where
  | definition (definition : FormDefinition)
  | published (published : HttpPublishedDefinition)
  | locales (documents : List Value)
  | document (document : Option Value)
  | evidence (evidence : Option LayoutHostEvidence)

structure Fetch where
  cacheKey : String
  path : String
  result : Option (Except String Value)

structure Call where
  getter : Getter
  url : String
  version : Option String
  payload : Except String Nat

structure HttpDefinitionSource where
  fetches : List Fetch
  runtimePayloads : String → Option Nat
  calls : List Call

namespace HttpDefinitionSource

variable (config : HttpDefinitionSourceConfig)

def opened : HttpDefinitionSource := ⟨[], fun _ => none, []⟩

def nonblankText? (value : Value) (key : String) : Option String :=
  (text? value key).filter Shared.hasText

/-- What `getPublishedDefinition(url, expected)` makes of the payload. -/
def publishedOf (url : String) (expected : FormDefinition) (payload : Value) :
    Except String HttpPublishedDefinition := do
  let mismatch := "HTTP published Definition metadata does not match the expected publication"
  if !payload.isPlainObject || isFormDefinition payload then throw mismatch
  match nonblankText? payload "form_id", nonblankText? payload "form_version_id" with
  | some formId, some formVersionId => do
      if formId != (← config.formIdResolver url none)
          || !isText payload "definition_url" expected.url
          || !isText payload "definition_version" expected.version then throw mismatch
      match (text? payload "definition_hash").filter isSha256Digest,
          (payload.get? "definition").bind FormDefinition.ofValue? with
      | some definitionHash, some definition => do
          if definition.url != expected.url || definition.version != expected.version
              || config.canonicalize definition.value != config.canonicalize expected.value
              || definitionHash != (← config.computeJcsSha256Digest definition.value) then
            throw "HTTP published Definition content does not match its pins and hash"
          return ⟨formId, formVersionId, expected.url, expected.version, definitionHash, definition⟩
      | _, _ => throw mismatch
  | _, _ => throw mismatch

def answerOf (url : String) (payload : Value) : Getter → Except String Answer
  | .published expected => Answer.published <$> publishedOf config url expected payload
  | getter =>
    match payload with
    | .undefined | .null => .error "TypeError"
    | payload =>
      match getter with
      | .definition => Answer.definition <$> extractDefinition payload
      | .locales => do
          let definition ← extractDefinition payload
          return .locales (extractLocaleDocuments config.texts payload definition)
      | .theme => .ok (.document (extractThemeDocument payload))
      | .component => .ok (.document (extractComponentDocument payload))
      | .graph => .ok (.document (extractComponentGraphContext payload))
      | _ => .ok (.evidence (extractLayoutHostEvidence payload))

def resultOf (s : HttpDefinitionSource) (fetch : Nat) : Option (Except String Value) :=
  s.fetches[fetch]?.bind Fetch.result

def standing (s : HttpDefinitionSource) (fetch : Nat) : Bool :=
  match s.resultOf fetch with
  | some (.error _) => false
  | _ => true

def answer (s : HttpDefinitionSource) (call : Call) : Option (Except String Answer) :=
  match call.payload with
  | .error error => some (.error error)
  | .ok fetch =>
    match s.resultOf fetch with
    | none => none
    | some (.error error) => some (.error error)
    | some (.ok payload) => some (answerOf config call.url payload call.getter)

def cacheKeyOf (formId : String) (version : Option String) : String :=
  formId ++ "@" ++ version.getD "latest"

/-- The version a getter asks `getRuntimePayload` for. -/
def versionFor (getter : Getter) (version : Option String) : Option String :=
  match getter with
  | .published _ => none
  | _ => version

def getRuntimePayload (s : HttpDefinitionSource) (url : String) (version : Option String) :
    HttpDefinitionSource × Except String Nat :=
  match config.formIdResolver url version with
  | .error error => (s, .error error)
  | .ok formId =>
    let cacheKey := cacheKeyOf formId version
    match s.runtimePayloads cacheKey with
    | some cached => (s, .ok cached)
    | none =>
      ({ s with
          fetches := s.fetches
            ++ [⟨cacheKey, "/runtime/forms/" ++ encodeURIComponent formId, none⟩]
          runtimePayloads := Function.update s.runtimePayloads cacheKey
            (some s.fetches.length) },
        .ok s.fetches.length)

def call (s : HttpDefinitionSource) (getter : Getter) (url : String) (version : Option String) :
    HttpDefinitionSource :=
  let version := versionFor getter version
  match s.getRuntimePayload config url version with
  | (s, payload) => { s with calls := s.calls ++ [⟨getter, url, version, payload⟩] }

def settle (s : HttpDefinitionSource) (fetch : Nat) (result : Except String Value) :
    Option HttpDefinitionSource :=
  match s.fetches[fetch]? with
  | none => none
  | some found =>
    if found.result.isSome then none
    else
      let fetches := s.fetches.set fetch { found with result := some result }
      match result with
      | .ok _ => some { s with fetches := fetches }
      | .error _ => some { s with
          fetches := fetches
          runtimePayloads := Function.update s.runtimePayloads found.cacheKey none }

inductive Event where
  | call (getter : Getter) (url : String) (version : Option String)
  | settle (fetch : Nat) (result : Except String Value)

def step (s : HttpDefinitionSource) : Event → Option HttpDefinitionSource
  | .call getter url version => some (s.call config getter url version)
  | .settle fetch result => s.settle fetch result

end HttpDefinitionSource

end FormspecWeb.Definition
