import FormspecWeb.Shared.Text
import FormspecWeb.Shared.Value

/-!
# The data sources of a native host

A request names a source by its resolved descriptor, and says where it comes from. A delivery serves
the values of one draft, frozen when it was made; a form site is served by a provider of its own.
-/

namespace FormspecWeb.Host

open Shared

/-- A resolved source; two are the same where their canonical texts are. -/
structure Descriptor where
  catalogRef : String
  sourceRef : String
  /-- `source.runtime.provenance.source`. -/
  provenance : Option String
  /-- Its kind, owner, authorization boundary and provenance are those of a host state. -/
  isHostState : Bool
  rest : String
deriving DecidableEq

inductive SessionGeneration where
  | marker (text : String)
  | delivery (generation : Nat)
deriving DecidableEq

structure SourceContext where
  surfaceId : String
  surfaceRef : Option String
  routeId : String
  slotId : String
  definitionRef : Option String
  moduleId : Option String
  widgetName : Option String
  sessionGeneration : SessionGeneration
deriving DecidableEq

structure LoadRequest where
  descriptor : Descriptor
  context : SourceContext
deriving DecidableEq

inductive AuthorizeResponse where
  | authorized
  | refused (reason : String)

inductive LoadResponse where
  | loaded (value : Value) (recordId : String) (revision : Int)
  | unavailable (reason : String)

def AuthorizeResponse.isAuthorized : AuthorizeResponse → Bool
  | authorized => true
  | _ => false

def LoadResponse.isLoaded : LoadResponse → Bool
  | loaded _ _ _ => true
  | _ => false

structure SurfacePackage where
  /-- `resolveDataSourceDescriptor(catalogs, { catalogRef, sourceRef })`. -/
  resolve : String → String → Option Descriptor
  availableToWidget : Descriptor → SourceContext → Bool
  availableToDefinitionForm : Descriptor → SourceContext → Bool
  reviewWidget : String
  ceremonyWidget : String

structure SigningScope where
  surfaceUrl : String
  surfaceId : String
  route : String
  ceremonySlot : String
  reviewSlot : String
  moduleId : String

def signingScopeAllows (surface : SurfacePackage) (scope : SigningScope) (context : SourceContext) :
    Bool :=
  context.surfaceId == scope.surfaceId && context.surfaceRef == some scope.surfaceUrl
    && context.routeId == scope.route && context.moduleId == some scope.moduleId
    && (context.slotId == scope.ceremonySlot && context.widgetName == some surface.ceremonyWidget
      || context.slotId == scope.reviewSlot && context.widgetName == some surface.reviewWidget)

/-! ## Deliveries -/

structure FrozenRuntime where
  entries : List (Descriptor × Value)
  generation : Nat
  recordId : String
  revision : Int

namespace FrozenRuntime

def sourceKey (descriptor : Descriptor) : String × String :=
  (descriptor.catalogRef, descriptor.sourceRef)

/-- `createFrozenHostStateDataSourceRuntime(input)`; none where it throws. -/
def create (surface : SurfacePackage) (entries : List (Descriptor × Value)) (generation : Nat)
    (recordId : String) (revision : Int) : Option FrozenRuntime :=
  let keys := entries.map fun entry => sourceKey entry.1
  if !hasText recordId || !isSafeInteger revision || revision < 0 then none
  else if entries.any fun entry =>
      surface.resolve entry.1.catalogRef entry.1.sourceRef != some entry.1 || !entry.1.isHostState
    then none
  else if keys.Nodup then some ⟨entries, generation, recordId, revision⟩
  else none

/-- `admitted(request)`, where `current` is whether `assertCurrent` does not throw. -/
def admitted (surface : SurfacePackage) (runtime : FrozenRuntime) (current : Bool)
    (request : LoadRequest) : Option Value :=
  if !current then none
  else
    match runtime.entries.find? fun entry => sourceKey entry.1 == sourceKey request.descriptor with
    | none => none
    | some (descriptor, value) =>
      if request.context.sessionGeneration == .delivery runtime.generation
          && descriptor == request.descriptor
          && surface.availableToWidget request.descriptor request.context then some value
      else none

def outsideReason : String := "Host-state source is outside the current admitted session"

def authorizeDataSource (surface : SurfacePackage) (runtime : FrozenRuntime) (current : Bool)
    (request : LoadRequest) : AuthorizeResponse :=
  match runtime.admitted surface current request with
  | some _ => .authorized
  | none => .refused outsideReason

def dataSourceLoader (surface : SurfacePackage) (runtime : FrozenRuntime) (current : Bool)
    (request : LoadRequest) : LoadResponse :=
  match runtime.admitted surface current request with
  | some value => .loaded value runtime.recordId runtime.revision
  | none => .unavailable outsideReason

variable {surface : SurfacePackage} {runtime : FrozenRuntime} {current : Bool}
  {request : LoadRequest}

theorem mem_of_admitted {value : Value}
    (h : runtime.admitted surface current request = some value) :
    current = true ∧ (request.descriptor, value) ∈ runtime.entries
      ∧ request.context.sessionGeneration = .delivery runtime.generation := by
  unfold admitted at h
  split at h
  · cases h
  · next hcurrent =>
    split at h
    · cases h
    · next descriptor found hfind =>
      split at h
      · next hchecks =>
        cases h
        simp only [Bool.and_eq_true, beq_iff_eq] at hchecks
        obtain ⟨⟨hgeneration, rfl⟩, -⟩ := hchecks
        exact ⟨by simpa using hcurrent, List.mem_of_find?_eq_some hfind, hgeneration⟩
      · cases h

theorem isLoaded_dataSourceLoader :
    (runtime.dataSourceLoader surface current request).isLoaded
      = (runtime.authorizeDataSource surface current request).isAuthorized := by
  rw [dataSourceLoader, authorizeDataSource]
  cases runtime.admitted surface current request with
  | none => rfl
  | some value => rfl

end FrozenRuntime

structure InitialDataSite where
  descriptor : Descriptor
  surfaceId : String
  surfaceRef : Option String
  routeId : String
  slotId : String
  definitionRef : Option String

namespace InitialDataSite

/-- `owns(request)`, of one site. -/
def owns (site : InitialDataSite) (request : LoadRequest) : Bool :=
  site.descriptor.catalogRef == request.descriptor.catalogRef
    && site.descriptor.sourceRef == request.descriptor.sourceRef

def admits (surface : SurfacePackage) (site : InitialDataSite) (request : LoadRequest) : Bool :=
  site.descriptor == request.descriptor && request.context.surfaceId == site.surfaceId
    && request.context.surfaceRef == site.surfaceRef && request.context.routeId == site.routeId
    && request.context.slotId == site.slotId && request.context.definitionRef == site.definitionRef
    && request.context.definitionRef.any truthy
    && surface.availableToDefinitionForm request.descriptor request.context

end InitialDataSite

end FormspecWeb.Host
