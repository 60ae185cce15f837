import FormspecWeb.Host.DataSources
import Mathlib.Data.List.Basic

/-!
# The surface visits of a native host

A visit is created for a session generation of the host, activated with a ticket, and bound to a
runtime that takes the requests of its widgets and forms. Requests for initial data and widget
actions wait for a provider or the controller, and what comes of them is checked again.
-/

namespace FormspecWeb.Host

open Shared

structure VisitPolicy where
  surface : SurfacePackage
  moduleId : String
  signingScope : Option SigningScope
  entries : List Descriptor
  initialDataSites : List InitialDataSite
  /-- No form site takes the requests for a source of the deliveries. -/
  sites_apart : ∀ site ∈ initialDataSites, ∀ entry ∈ entries,
    FrozenRuntime.sourceKey site.descriptor ≠ FrozenRuntime.sourceKey entry
  /-- `applicantStatusSlot`. -/
  statusModuleId : String
  statusSlotId : String
  statusSourceRef : String
  native : Bool

structure ActionSource where
  surfaceId : String
  surfaceRef : Option String
  routeId : String
  slotId : String
  moduleId : Option String
  widgetName : Option String
deriving DecidableEq

structure SurfaceVisit where
  marker : String
  sessionGeneration : Nat
  ticket : Option Nat
  ports : Bool

inductive Awaiting where
  /-- The provider's answer to a request, that `loads` where it comes from the loader. -/
  | authorization (request : LoadRequest) (loads : Bool)
  | admission (request : LoadRequest)
  | value (request : LoadRequest)
  | action
  | nothing

structure VisitCall where
  visit : Nat
  awaiting : Awaiting

inductive VisitEntry where
  | created (visit : Nat) (marker : String) (sessionGeneration : Nat)
  | activated (visit : Nat)
  | left (visit : Nat)
  | stopped
  | closed
  | began (call visit : Nat)
  | granted (call : Nat) (request : LoadRequest)
  | authorized (visit : Nat) (request : LoadRequest)
  | loaded (visit : Nat) (request : LoadRequest) (call : Option Nat)
  | passed (visit : Nat) (source : ActionSource)
  | delivered (visit call : Nat)
deriving DecidableEq

structure VisitState where
  disposed : Bool
  cleared : Bool
  authorityGeneration : Nat
  visitEpoch : Nat
  visitMarkerSequence : Nat
  generation : Nat
  runtime : Option FrozenRuntime
  /-- `policy.assertOwner` does not throw for the draft of the runtime. -/
  owner : Bool
  controller : Bool
  applicantStatus : Option Value
  /-- The record the applicant status is delivered under, and its revision. -/
  statusRecordId : String
  statusRevision : Int
  visits : List SurfaceVisit
  calls : List VisitCall
  /-- Newest first. -/
  log : List VisitEntry

namespace VisitState

variable (policy : VisitPolicy)

def opened : VisitState where
  disposed := false
  cleared := false
  authorityGeneration := 0
  visitEpoch := 0
  visitMarkerSequence := 0
  generation := 0
  runtime := none
  owner := false
  controller := false
  applicantStatus := none
  statusRecordId := "applicant-status"
  statusRevision := 1
  visits := []
  calls := []
  log := []

def note (s : VisitState) (entry : VisitEntry) : VisitState := { s with log := entry :: s.log }

def fence (s : VisitState) : VisitState :=
  { s with generation := s.generation + 1, runtime := none }

/-- What `retireNative(reason)` does to the deliveries. -/
def retireNative (s : VisitState) : VisitState := if policy.native then s.fence else s

def stop (s : VisitState) : VisitState :=
  let s := (s.retireNative policy).fence
  ({ s with authorityGeneration := s.authorityGeneration + 1 }).note .stopped

/-- `selectLocale(value)`, where the locale is admitted. -/
def selectLocale (s : VisitState) : VisitState :=
  if s.disposed || s.cleared then s else s.stop policy

/-- `clearDraftAccess()`, with the status that is synchronised while the controller is invalidated. -/
def clearDraftAccess (s : VisitState) (status : Option Value) : VisitState :=
  if s.disposed || s.cleared then s
  else ({ s.stop policy with cleared := true, applicantStatus := status }).note .closed

def dispose (s : VisitState) : VisitState :=
  if s.disposed then s
  else ({ s.stop policy with disposed := true, applicantStatus := none }).note .closed

/-- `rebuildRuntime(snapshot, expected)`, with the values it is given. -/
def rebuildRuntime (s : VisitState) (values : List Value) (recordId : String) (revision : Int) :
    VisitState :=
  { s with runtime :=
    FrozenRuntime.create policy.surface (policy.entries.zip values) s.generation recordId revision }

/-- `syncApplicantStatus()`, with what it settles on. -/
def setApplicantStatus (s : VisitState) (status : Option Value) (recordId : String)
    (revision : Int) : VisitState :=
  if s.disposed || s.cleared then s
  else { s with applicantStatus := status, statusRecordId := recordId, statusRevision := revision }

def allocateSurfaceSessionMarker (s : VisitState) (sessionGeneration : Nat) :
    Option (String × VisitState) :=
  if s.disposed || sessionGeneration != s.authorityGeneration then none
  else
    some ("native-visit:" ++ toString sessionGeneration ++ ":"
        ++ toString (s.visitMarkerSequence + 1),
      { s with visitMarkerSequence := s.visitMarkerSequence + 1 })

def createSurfaceVisit (s : VisitState) (marker : String) (sessionGeneration : Nat) :
    VisitState :=
  if !truthy marker then s
  else
    ({ s with visits := s.visits ++ [SurfaceVisit.mk marker sessionGeneration none false] }).note
      (.created s.visits.length marker sessionGeneration)

/-- `assertVisit()` does not throw. -/
def isCurrent (s : VisitState) (visit : SurfaceVisit) : Bool :=
  !s.disposed && !s.cleared && visit.ticket == some s.visitEpoch
    && visit.sessionGeneration == s.authorityGeneration

def setVisit (s : VisitState) (i : Nat) (visit : SurfaceVisit) : VisitState :=
  { s with visits := s.visits.set i visit }

def activate (s : VisitState) (i : Nat) : Option VisitState := do
  let visit ← s.visits[i]?
  if s.disposed || s.cleared || visit.sessionGeneration != s.authorityGeneration then return s
  else
    let s := { s with visitEpoch := s.visitEpoch + 1 }
    let s := s.setVisit i { visit with ticket := some s.visitEpoch }
    return (s.retireNative policy).note (.activated i)

/-- `dispose()` of a visit. -/
def leave (s : VisitState) (i : Nat) : Option VisitState := do
  let visit ← s.visits[i]?
  let t := if visit.ticket == some s.visitEpoch
    then ({ s with visitEpoch := s.visitEpoch + 1 }).retireNative policy else s
  return (t.setVisit i { visit with ticket := none }).note (.left i)

def scopeUnadmitted : String := "native-signing-scope-unadmitted"

def visitRetired : String := "native-visit-retired"

def stateUnavailable : String := "native-state-unavailable"

/-- `provenanceSource === producer || provenanceSource?.startsWith(producer + ':')`. -/
def producedBy (producer : String) (descriptor : Descriptor) : Bool :=
  descriptor.provenance.any fun source =>
    source == producer || (producer ++ ":").toList.isPrefixOf source.toList

def isResponseReviewSource (descriptor : Descriptor) : Bool :=
  producedBy "admitted-response-review" descriptor

def isSharedResponseSource (descriptor : Descriptor) : Bool :=
  descriptor.provenance == some "admitted-signing-cohort:response"

def isCeremonyStateSource (descriptor : Descriptor) : Bool :=
  !isSharedResponseSource descriptor && producedBy "admitted-signing-cohort" descriptor

def sourceWidgets (descriptor : Descriptor) : List String :=
  if isResponseReviewSource descriptor then [policy.surface.reviewWidget]
  else if isCeremonyStateSource descriptor then [policy.surface.ceremonyWidget]
  else [policy.surface.ceremonyWidget, policy.surface.reviewWidget]

def isAdmittedWidget (request : LoadRequest) : Bool :=
  request.context.moduleId == some policy.moduleId
    && request.context.widgetName.any (sourceWidgets policy request.descriptor).contains

/-- `requestFor(request)`: the delivery, and the request as it is put to it. -/
def requestFor (s : VisitState) (visit : SurfaceVisit) (request : LoadRequest) :
    Except String (Option FrozenRuntime × LoadRequest) :=
  if !s.isCurrent visit then .error visitRetired
  else if !isAdmittedWidget policy request then .error scopeUnadmitted
  else if policy.signingScope.any
      (!signingScopeAllows policy.surface · request.context) then .error scopeUnadmitted
  else if request.context.sessionGeneration != .marker visit.marker then .error visitRetired
  else
    .ok (s.runtime, { request with
      context := { request.context with sessionGeneration := .delivery s.generation } })

def statusSource : String := "host:qualified-applicant-status"

def isApplicantStatusSource (request : LoadRequest) : Bool :=
  request.descriptor.sourceRef == policy.statusSourceRef
    && request.context.slotId == policy.statusSlotId
    && request.context.moduleId == some policy.statusModuleId
    && policy.surface.resolve request.descriptor.catalogRef request.descriptor.sourceRef
      == some request.descriptor
    && policy.surface.availableToWidget request.descriptor request.context

def admitsStatus (s : VisitState) (visit : SurfaceVisit) (request : LoadRequest) : Bool :=
  s.isCurrent visit && request.context.sessionGeneration == .marker visit.marker
    && isApplicantStatusSource policy request

/-- The `assertCurrent` of a delivery. -/
def deliveryCurrent (s : VisitState) (runtime : FrozenRuntime) : Bool :=
  !s.disposed && s.generation == runtime.generation && s.owner

/-- `authorizeDataSource(request)`, of a source that has no provider. -/
def authorizeDataSource (s : VisitState) (visit : SurfaceVisit) (request : LoadRequest) :
    AuthorizeResponse :=
  if request.descriptor.sourceRef == statusSource then
    if !s.admitsStatus policy visit request then .refused visitRetired
    else if s.applicantStatus.isSome then .authorized else .refused stateUnavailable
  else
    match s.requestFor policy visit request with
    | .error reason => .refused reason
    | .ok (none, _) => .refused stateUnavailable
    | .ok (some runtime, captured) =>
      runtime.authorizeDataSource policy.surface (s.deliveryCurrent runtime) captured

/-- `dataSourceLoader(request)`, of a source that has no provider. -/
def dataSourceLoader (s : VisitState) (visit : SurfaceVisit) (request : LoadRequest) :
    LoadResponse :=
  if request.descriptor.sourceRef == statusSource then
    if !s.admitsStatus policy visit request then .unavailable visitRetired
    else
      match s.applicantStatus with
      | none => .unavailable stateUnavailable
      | some status => .loaded status s.statusRecordId s.statusRevision
  else
    match s.requestFor policy visit request with
    | .error reason => .unavailable reason
    | .ok (none, _) => .unavailable stateUnavailable
    | .ok (some runtime, captured) =>
      runtime.dataSourceLoader policy.surface (s.deliveryCurrent runtime) captured

def owns (request : LoadRequest) : Bool := policy.initialDataSites.any (·.owns request)

/-- `check(request)` does not throw; `provides` is whether the provider can be constructed. -/
def check (s : VisitState) (visit : SurfaceVisit) (request : LoadRequest) (provides : Bool) : Bool :=
  s.isCurrent visit && policy.initialDataSites.any (·.admits policy.surface request)
    && request.context.sessionGeneration == .marker visit.marker && (visit.ports || provides)

def addCall (s : VisitState) (i : Nat) (awaiting : Awaiting) : VisitState :=
  ({ s with calls := s.calls ++ [VisitCall.mk i awaiting] }).note (.began s.calls.length i)

/-- A request of a source that has a provider, up to the provider's answer. -/
def askProvider (s : VisitState) (i : Nat) (visit : SurfaceVisit) (request : LoadRequest)
    (loads provides : Bool) : VisitState :=
  if s.check policy visit request provides then
    (s.setVisit i { visit with ports := true }).addCall i (.authorization request loads)
  else s

def authorize (s : VisitState) (i : Nat) (request : LoadRequest) (provides : Bool) :
    Option VisitState := do
  let visit ← s.visits[i]?
  if owns policy request then return s.askProvider policy i visit request false provides
  else if (s.authorizeDataSource policy visit request).isAuthorized then
    return s.note (.authorized i request)
  else return s

def load (s : VisitState) (i : Nat) (request : LoadRequest) (provides : Bool) :
    Option VisitState := do
  let visit ← s.visits[i]?
  if owns policy request then return s.askProvider policy i visit request true provides
  else if (s.dataSourceLoader policy visit request).isLoaded then
    return s.note (.loaded i request none)
  else return s

def setCall (s : VisitState) (call : Nat) (i : Nat) (awaiting : Awaiting) : VisitState :=
  { s with calls := s.calls.set call ⟨i, awaiting⟩ }

/-- The provider has answered whether the request is authorized, or has thrown. -/
def answered (s : VisitState) (call : Nat) (authorized : Bool) : Option VisitState := do
  let ⟨i, .authorization request loads⟩ ← s.calls[call]? | none
  let visit ← s.visits[i]?
  if !authorized || !s.check policy visit request false then return s.setCall call i .nothing
  else if loads then return (s.setCall call i (.admission request)).note (.granted call request)
  else return (s.setCall call i .nothing).note (.authorized i request)

def resumed (s : VisitState) (call : Nat) : Option VisitState := do
  let ⟨i, .admission request⟩ ← s.calls[call]? | none
  let visit ← s.visits[i]?
  if s.check policy visit request false then return s.setCall call i (.value request)
  else return s.setCall call i .nothing

def provided (s : VisitState) (call : Nat) (value : Bool) : Option VisitState := do
  let ⟨i, .value request⟩ ← s.calls[call]? | none
  let visit ← s.visits[i]?
  if !value || !s.check policy visit request false then return s.setCall call i .nothing
  else return (s.setCall call i .nothing).note (.loaded i request (some call))

/-- The action comes from the ceremony widget of the signing module, and of its scope. -/
def isAdmittedAction (source : ActionSource) : Bool :=
  source.moduleId == some policy.moduleId
    && source.widgetName == some policy.surface.ceremonyWidget
    && policy.signingScope.all fun scope =>
      signingScopeAllows policy.surface scope ⟨source.surfaceId, source.surfaceRef, source.routeId,
        source.slotId, none, source.moduleId, source.widgetName, .marker ""⟩
        && source.slotId == scope.ceremonySlot && source.moduleId == some scope.moduleId

/-- `widgetActionExecutor(action)`, up to the controller's result. -/
def execute (s : VisitState) (i : Nat) (source : ActionSource) : Option VisitState := do
  let visit ← s.visits[i]?
  if !s.isCurrent visit || !s.controller || !isAdmittedAction policy source then return s
  else return (s.addCall i .action).note (.passed i source)

def settled (s : VisitState) (call : Nat) (result : Bool) : Option VisitState := do
  let ⟨i, .action⟩ ← s.calls[call]? | none
  let visit ← s.visits[i]?
  if !result || !s.isCurrent visit then return s.setCall call i .nothing
  else return (s.setCall call i .nothing).note (.delivered i call)

inductive Event where
  | allocateSurfaceSessionMarker (sessionGeneration : Nat)
  | createSurfaceVisit (marker : String) (sessionGeneration : Nat)
  | activate (visit : Nat)
  | leave (visit : Nat)
  | edit
  | selectLocale
  | clearDraftAccess (status : Option Value)
  | dispose
  | fence
  | rebuildRuntime (values : List Value) (recordId : String) (revision : Int)
  | setApplicantStatus (status : Option Value) (recordId : String) (revision : Int)
  | setOwner (admitted : Bool)
  | setController (started : Bool)
  | authorize (visit : Nat) (request : LoadRequest) (provides : Bool)
  | load (visit : Nat) (request : LoadRequest) (provides : Bool)
  | answered (call : Nat) (authorized : Bool)
  | resumed (call : Nat)
  | provided (call : Nat) (value : Bool)
  | execute (visit : Nat) (source : ActionSource)
  | settled (call : Nat) (result : Bool)

def step (s : VisitState) : Event → Option VisitState
  | .allocateSurfaceSessionMarker sessionGeneration =>
    (s.allocateSurfaceSessionMarker sessionGeneration).map (·.2)
  | .createSurfaceVisit marker sessionGeneration => some (s.createSurfaceVisit marker sessionGeneration)
  | .activate i => s.activate policy i
  | .leave i => s.leave policy i
  | .edit => some (s.stop policy)
  | .selectLocale => some (s.selectLocale policy)
  | .clearDraftAccess status => some (s.clearDraftAccess policy status)
  | .dispose => some (s.dispose policy)
  | .fence => some s.fence
  | .rebuildRuntime values recordId revision =>
    some (s.rebuildRuntime policy values recordId revision)
  | .setApplicantStatus status recordId revision =>
    some (s.setApplicantStatus status recordId revision)
  | .setOwner admitted => some { s with owner := admitted }
  | .setController started => some { s with controller := started }
  | .authorize i request provides => s.authorize policy i request provides
  | .load i request provides => s.load policy i request provides
  | .answered call authorized => s.answered policy call authorized
  | .resumed call => s.resumed policy call
  | .provided call value => s.provided policy call value
  | .execute i source => s.execute policy i source
  | .settled call result => s.settled call result

end VisitState

end FormspecWeb.Host
