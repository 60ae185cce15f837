import FormspecWeb.Shared.Checks
import FormspecWeb.Shared.JsonText
import FormspecWeb.Shared.Text

/-!
# Host events

The host admits a capability for each authored action that raises a host event. Admission keys the
capabilities by artifact and action; an invocation names its document and its action, and finds the
capability by the text of the document. The handler is called once the engine has completed the action.
-/

namespace FormspecWeb.Host.HostEvents

open Shared JsonText

variable {ν : Type}

structure HostEventCapability where
  artifactRef : Text
  actionRef : Text
  eventName : Text
  /-- `typeof handle === 'function'`. -/
  handles : Bool
deriving DecidableEq

structure ControllerAction where
  artifactRef : Text
  actionRef : Text

structure HostEventsInput (ν : Type) where
  documents : List (Text × Json ν)
  distinct : (documents.map (·.1)).Nodup
  definitionUrl : Text
  controllerActions : List ControllerAction
  capabilities : List HostEventCapability

structure Admitted (ν : Type) where
  capability : HostEventCapability
  document : Json ν

def isText (value : Option (Json ν)) (text : Text) : Bool :=
  match value with
  | some (.string found) => found == text
  | _ => false

def isNull : Json ν → Bool
  | .null => true
  | _ => false

/-- `Boolean(eventName.trim())`. -/
def hasName (eventName : Text) : Bool := eventName.any fun u => !isTrimmed (Char.ofNat u)

/-- `document.scope !== 'app' && document.targetDefinition?.url === definitionUrl`. -/
def targets (definitionUrl : Text) (document : Json ν) : Bool :=
  !isText (document.member? (units "scope")) (units "app")
    && isText ((document.member? (units "targetDefinition")).bind (·.member? (units "url")))
      definitionUrl

/-- `document.$formspecResponseActions === '1.0'`. -/
def isVersioned (document : Json ν) : Bool :=
  isText (document.member? (units "$formspecResponseActions")) (units "1.0")

def hasId (action : Json ν) (actionRef : Text) : Bool :=
  isText (action.member? (units "id")) actionRef

def isHostEvent (effect : Json ν) : Bool :=
  isText (effect.member? (units "type")) (units "hostEvent")

/-- `document.actions`, where it is an array without `null`. -/
def actionsOf (document : Json ν) : Option (List (Json ν)) :=
  match document.member? (units "actions") with
  | some (.array actions) => if actions.any isNull then none else some actions
  | _ => none

/-- `effects.some(effect => effect.type === 'hostEvent')`; none where it throws. -/
def someHostEvent : List (Json ν) → Option Bool
  | [] => some false
  | effect :: effects =>
    if isNull effect then none
    else if isHostEvent effect then some true
    else someHostEvent effects

/-- `action.effects?.some(…)`. -/
def raisesHostEvent (action : Json ν) : Option Bool :=
  match action.member? (units "effects") with
  | none | some .null => some false
  | some (.array effects) => someHostEvent effects
  | _ => none

/-- `for (const action of document.actions ?? [])`; the characters of a text have no effects. -/
def authoredActions (document : Json ν) : Option (List (Json ν)) :=
  match document.member? (units "actions") with
  | none | some .null | some (.string _) => some []
  | some (.array actions) => some actions
  | _ => none

def unadmitted : String := "native-host-event-unadmitted"

def ambiguous : String := "native-host-event-ambiguous"

def capabilityUnavailable : String := "native-host-event-capability-unavailable"

/-- A `TypeError`, of a document that is not what it is taken for. -/
def typeError : String := "TypeError"

section

variable (format : NumberFormat ν) (input : HostEventsInput ν)

/-- The controller has an action of this name in a document of this text. -/
def controllerOwns (document : Json ν) (actionRef : Text) : Bool :=
  input.controllerActions.any fun value =>
    (input.documents.lookup value.artifactRef).map (print format) == some (print format document)
      && value.actionRef == actionRef

/-- The action of a capability: the only one of its name, with the declared event for its effect. -/
def declaresEvent (document : Json ν) (capability : HostEventCapability) : Bool :=
  match (actionsOf document).map (·.filter (hasId · capability.actionRef)) with
  | some [action] =>
    match action.member? (units "effects") with
    | some (.array [effect]) =>
      isHostEvent effect && isText (effect.member? (units "eventName")) capability.eventName
    | _ => false
  | _ => false

def admitCapability (capability : HostEventCapability) : Except String (Admitted ν) :=
  match input.documents.lookup capability.artifactRef with
  | none => .error unadmitted
  | some document =>
    if targets input.definitionUrl document && capability.handles && hasName capability.eventName
        && declaresEvent document capability
        && !controllerOwns format input document capability.actionRef then
      .ok ⟨capability, document⟩
    else .error unadmitted

def capabilityKey (capability : HostEventCapability) : Text :=
  capability.artifactRef ++ 0 :: capability.actionRef

/-- An authored action that raises a host event has the controller or a capability of its artifact. -/
def checkAction (admitted : List (Admitted ν)) (artifactRef : Text) (document action : Json ν) :
    Except String Unit :=
  if isNull action then .error typeError
  else match raisesHostEvent action with
    | none => .error typeError
    | some false => .ok ()
    | some true =>
      match action.member? (units "id") with
      | some (.string actionRef) =>
        failIf (!(controllerOwns format input document actionRef
          || admitted.any fun value => value.capability.artifactRef == artifactRef
            && value.capability.actionRef == actionRef)) capabilityUnavailable
      | _ => .error capabilityUnavailable

def checkDocument (admitted : List (Admitted ν)) (entry : Text × Json ν) : Except String Unit :=
  if isNull entry.2 then .error typeError
  else if !isVersioned entry.2 || !targets input.definitionUrl entry.2 then .ok ()
  else match authoredActions entry.2 with
    | none => .error typeError
    | some actions => checkAll (checkAction format input admitted entry.1 entry.2) actions

def admitNativeHostEvents : Except String (List (Admitted ν)) := do
  let admitted ← input.capabilities.mapM (admitCapability format input)
  -- a set of the keys is smaller than their list
  failIf (!decide ((admitted.map fun value => capabilityKey value.capability).Nodup)) ambiguous
  checkAll (checkDocument format input admitted) input.documents
  return admitted

def select (admitted : List (Admitted ν)) (document : Json ν) (actionRef : Text) :
    Option (Admitted ν) :=
  admitted.find? fun value => value.capability.actionRef == actionRef
    && print format value.document == print format document

end

/-! ## Invocation -/

inductive InvocationStage where
  | entering
  | engine
  | handling
  /-- The handler is done; the refreshes it has asked for are not. -/
  | settling
  | returned
  | failed
deriving DecidableEq

structure Invocation where
  selected : HostEventCapability
  stage : InvocationStage
  aborted : Bool
  current : Bool
  calls : List Text
  refreshes : Nat
  closed : Bool
  handled : List HostEventCapability

inductive InvocationEvent where
  | abort
  | owner (current : Bool)
  | enter
  | dispatch (eventName : Text)
  /-- The engine's result; none where the wait for it ends with an error. -/
  | engine (status : Option Text)
  | refresh
  | handler (succeeded : Bool)
  | refreshed (succeeded : Bool)

namespace Invocation

def opened (selected : HostEventCapability) (aborted current : Bool) : Invocation where
  selected
  stage := .entering
  aborted
  current
  calls := []
  refreshes := 0
  closed := false
  handled := []

/-- `assertCurrent()` passes. -/
def asserts (s : Invocation) : Bool := !s.aborted && s.current

/-- The end of an invocation that has not completed: the deadline retires what is left of it. -/
def retire (s : Invocation) (stage : InvocationStage) : Invocation :=
  { s with stage, closed := true, aborted := true }

/-- The engine has answered: a completed action with one dispatch is handed to the handler. -/
def onEngine (s : Invocation) (status : Option Text) : Invocation :=
  match status with
  | none => s.retire .failed
  | some status =>
    if !s.asserts then s.retire .failed
    else if status != units "completed" then s.retire .returned
    else if s.calls.length != 1 then s.retire .failed
    else { s with stage := .handling, handled := s.handled ++ [s.selected] }

def step (s : Invocation) : InvocationEvent → Option Invocation
  | .abort => some { s with aborted := true }
  | .owner current => some { s with current }
  | .enter =>
    if s.stage = .entering then
      some (if s.asserts then { s with stage := .engine } else s.retire .failed)
    else none
  | .dispatch eventName =>
    if s.stage = .entering then none
    else if s.asserts && eventName == s.selected.eventName then
      some { s with calls := s.calls ++ [eventName] }
    else some s
  | .engine status => if s.stage = .engine then some (s.onEngine status) else none
  | .refresh =>
    if s.handled.isEmpty then none
    else if !s.closed && s.asserts then some { s with refreshes := s.refreshes + 1 }
    else some s
  | .handler succeeded =>
    if s.stage = .handling then
      some (if succeeded then { s with stage := .settling, closed := true } else s.retire .failed)
    else none
  | .refreshed succeeded =>
    if s.stage = .settling then
      some (if succeeded && s.asserts then { s with stage := .returned } else s.retire .failed)
    else none

end Invocation

end FormspecWeb.Host.HostEvents
