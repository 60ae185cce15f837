import FormspecWeb.Ports.ResponseSigning

/-!
# Response Actions

What the controller uses of the engine's Response Actions: resolution of an
action in its document, the validation tuple, runtime requests and the
extraction of declared outputs. A thrown engine error is `none`.
-/

namespace FormspecWeb.Engine

open Shared Ports

structure ValidationTuple where
  profile : String
  blocking : String
  persistence : String
deriving DecidableEq

/-- The members of an authored `validation` override that are strings. -/
structure ValidationOverride where
  profile : Option String
  blocking : Option String
  persistence : Option String
deriving DecidableEq

inductive Effect where
  | serviceRequest (requestRef idempotencyKey : String) (onError : Option String)
  | hostEvent (eventName : String) (onError : Option String)
  | other (type : String) (onError : Option String)
deriving DecidableEq

/-- `effectErrorPolicy(effect) === 'defer'`. -/
def Effect.defersOnError : Effect → Bool
  | .serviceRequest _ _ onError => onError == some "defer"
  | .hostEvent _ onError => onError == some "defer"
  | .other type onError =>
    onError == some "defer" || (onError != some "fail" && type == "evidenceRequest")

structure ResponseAction where
  id : String
  intent : String
  /-- The own member `validation`, with `some none` for one that is no object. -/
  validation : Option (Option ValidationOverride)
  preconditions : List Json
  effects : Option (List Effect)
  onFailure : Option String
deriving DecidableEq

structure RequestOutput where
  path : String
  exposure : Option String
deriving DecidableEq

structure RuntimeRequest where
  id : String
  request : Json
  successStatuses : Option (List Int)
  outputs : List (String × RequestOutput)
deriving DecidableEq

structure ResponseActionsDocument where
  scope : Option String
  targetDefinitionUrl : Option String
  actions : List ResponseAction
  /-- `document['x-formspec-runtime'].requests`. -/
  runtimeRequests : Option (List RuntimeRequest)
deriving DecidableEq

def resolveResponseAction (document : ResponseActionsDocument) (actionRef : String) :
    Option ResponseAction :=
  if actionRef == "" then none
  else match document.actions.filter (·.id == actionRef) with
    | [action] => some action
    | _ => none

/-- `VALIDATION_MAPPING_MASTER_TABLE`, keyed by intent. -/
def masterTable (intent : String) : Option ValidationTuple :=
  match intent with
  | "save-draft" => some ⟨"off", "non-blocking", "draft-checkpoint"⟩
  | "autosave" => some ⟨"off", "non-blocking", "draft-checkpoint"⟩
  | "review" => some ⟨"on-submit", "non-blocking", "none"⟩
  | "submit" => some ⟨"on-submit", "block-on-error", "complete-response"⟩
  | "request-evidence" => some ⟨"on-demand", "non-blocking", "draft-checkpoint"⟩
  | _ => none

def assertValidationTupleValid (candidate : Option ValidationOverride) : Option ValidationTuple := do
  let override ← candidate
  let profile ← override.profile
  let blocking ← override.blocking
  let persistence ← override.persistence
  guard (["live", "on-submit", "on-demand", "off"].contains profile)
  guard (["non-blocking", "block-on-error"].contains blocking)
  guard (["none", "draft-checkpoint", "complete-response"].contains persistence)
  guard (!(profile == "off" && blocking == "block-on-error"))
  guard (!(persistence == "complete-response") || (profile == "on-submit" && blocking == "block-on-error"))
  guard (!(blocking == "block-on-error") || persistence == "complete-response")
  return ⟨profile, blocking, persistence⟩

def resolveResponseActionValidationTuple (action : ResponseAction) : Option ValidationTuple :=
  match action.validation with
  | some override => assertValidationTupleValid override
  | none => masterTable action.intent

def resolveServiceRequest (requests : Option (List RuntimeRequest)) (requestRef : Option String) :
    Option RuntimeRequest := do
  let requests ← requests
  match requests.filter (some ·.id == requestRef) with
  | [request] => some request
  | _ => none

abbrev Outputs := List (String × String)

/-- One declared output read from evidence: nothing for an internal one, its
name and text for one with an exposure. -/
def extractOutput (members : List (String × Member)) (name : String)
    (output : RequestOutput) : Option (Option (String × String)) := do
  guard (isBindingName name)
  let value ← members.lookup output.path
  match output.exposure.getD "internal" with
  | "internal" => return none
  | exposure => do
      guard (["transition", "session"].contains exposure)
      match value with
      | .text text => do
          guard (text != "")
          return if exposure == "transition" then some (name, text) else none
      | _ => none

/-- `extractServiceRequestOutputs(request, evidence).transitionBindings`. -/
def extractServiceRequestOutputs (request : RuntimeRequest)
    (members : List (String × Member)) : Option Outputs := do
  let bindings ← request.outputs.mapM fun (name, output) => extractOutput members name output
  return bindings.filterMap id

structure PlanInput where
  input : List (String × Member)
  formId : String
  draftId : Option String
  draftVersion : Option Int
  frozenResponse : FormResponse
deriving DecidableEq

structure PlannedRequest where
  method : String
  path : String
deriving DecidableEq

end FormspecWeb.Engine
