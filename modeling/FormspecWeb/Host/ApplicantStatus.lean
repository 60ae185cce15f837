import FormspecWeb.Host.SurfaceVisits
import Mathlib.Logic.Function.Basic

/-!
# The applicant status of a native host

A host publishes one applicant status. Its policy gives it, or it is read for the application of the
respondent. Bound visits serve it as one more source, in the slot the policy configures, under a
revision that is kept with those of the deliveries.
-/

namespace FormspecWeb.Host

open Shared

structure CatalogSource where
  id : String
  provenance : Option String
  isHostState : Bool
  rest : String

structure Catalog where
  catalogRef : String
  sources : List CatalogSource

def resolveDataSourceDescriptor (catalogs : List Catalog) (catalogRef sourceRef : String) :
    Option Descriptor :=
  match catalogs.filter (·.catalogRef == catalogRef) with
  | [handle] =>
    match handle.sources.filter (·.id == sourceRef) with
    | [source] => some ⟨catalogRef, sourceRef, source.provenance, source.isHostState, source.rest⟩
    | _ => none
  | _ => none

structure Application where
  caseLedgerId : String
  caseReference : Option String
  status : String
deriving DecidableEq

structure StatusNotice where
  id : String
  kind : String
  title : String
  createdAt : Option String

structure ApplicantCaseDetail where
  id : String
  lifecycleState : String
  /-- The titles of `openTasks`. -/
  openTasks : List String
  recentNotifications : List StatusNotice

inductive StatusResource where
  | qualified (status : Value)
  | detail (detail : ApplicantCaseDetail)

def ApplicantCaseDetail.status (detail : ApplicantCaseDetail) (application : Application) : String :=
  if detail.lifecycleState = "completed" then "approved"
  else if detail.lifecycleState = "terminated" then "denied"
  else if detail.openTasks ≠ [] then "waiting"
  else if application.status = "submitted" then "received"
  else "started"

def languageHelp : String := "Free help is available in English and Spanish."

def StatusNotice.value (locale : String) (notice : StatusNotice) : Value :=
  .object [("kind", .string notice.kind), ("reason", .string notice.title),
    ("requestedItems", .array []), ("sentAt", (notice.createdAt.map .string).getD .null),
    ("dueDate", .null), ("locale", .string (if locale = "es-US" then "es-US" else "en")),
    ("otherLanguageHelp", .string languageHelp)]

def toQualifiedApplicantStatus (resource : StatusResource) (application : Application)
    (locale : String) : Value :=
  match resource with
  | .qualified status => status
  | .detail detail =>
    .object [("caseReference", .string ((application.caseReference.filter truthy).getD detail.id)),
      ("status", .string (detail.status application)), ("requestedItems", .ofStrings detail.openTasks),
      ("currentNoticeRef", (detail.recentNotifications.head?.map fun notice => Value.string notice.id).getD .null),
      ("notices", .array (detail.recentNotifications.map (StatusNotice.value locale))),
      ("freeHelp", .string languageHelp),
      ("paperAlternative", .string "Mail or in-person paper service remains available."),
      ("retention", .string "Retained according to program record rules.")]

/-! ## The host -/

structure StatusPolicy where
  visits : VisitPolicy
  catalogs : List Catalog
  resolves : visits.surface.resolve = resolveDataSourceDescriptor catalogs
  canonicalize : Value → String
  /-- `policy.applicantStatus`: `none` where it is undefined, `some none` where it is null. -/
  applicantStatus : Option (Option Value)
  /-- `policy.statusReader` is given. -/
  statusReader : Bool
  initialLocale : String

structure StatusReadKey where
  application : Application
  locale : String
deriving DecidableEq

structure StatusRead where
  key : StatusReadKey
  aborted : Bool

structure SourceRevision where
  value : String
  revision : Int
deriving DecidableEq

abbrev SourceRevisions := String × String → Option SourceRevision

structure StatusHost where
  visits : VisitState
  locale : String
  application : Option Application
  /-- `activeStatusReader`. -/
  reader : Bool
  statusReadKey : Option StatusReadKey
  /-- The read that `statusReadAbort` aborts. -/
  statusRead : Option Nat
  reads : List StatusRead
  sourceRevisions : SourceRevisions
  selected : Bool
  /-- The applicant status of `hostSnapshot`. -/
  published : Option Value
  /-- The statuses a revision was taken of, newest first. -/
  statuses : List Value

namespace StatusHost

variable (policy : StatusPolicy)

/-- The value of a source takes a new revision where its canonical text is new. -/
def revise (revisions : SourceRevisions) (key : String × String) (text : String) : SourceRevisions :=
  if (revisions key).map (·.value) = some text then revisions
  else Function.update revisions key (some ⟨text, ((revisions key).map (·.revision)).getD 0 + 1⟩)

def slotDescriptor (catalog : Catalog) : Option Descriptor :=
  resolveDataSourceDescriptor [catalog] catalog.catalogRef policy.visits.statusSourceRef

def reviseSlot (status : Value) (revisions : SourceRevisions) (catalog : Catalog) : SourceRevisions :=
  match slotDescriptor policy catalog with
  | none => revisions
  | some descriptor => revise revisions (FrozenRuntime.sourceKey descriptor) (policy.canonicalize status)

def updateApplicantStatusRevision (s : StatusHost) (status : Value) : StatusHost :=
  { s with
    sourceRevisions := policy.catalogs.foldl (reviseSlot policy status) s.sourceRevisions
    statuses := status :: s.statuses }

/-- `applicantStatus = next; emit();`. -/
def publish (s : StatusHost) (next : Option Value) : StatusHost :=
  { s with visits := { s.visits with applicantStatus := next }, published := next }

/-- The status of the host becomes `next`, where it is another. -/
def settle (s : StatusHost) (next : Option Value) : StatusHost :=
  let s := match next with
    | some status => s.updateApplicantStatusRevision policy status
    | none => s
  if s.visits.applicantStatus.map policy.canonicalize = next.map policy.canonicalize then s
  else s.publish next

def opened : StatusHost :=
  let s : StatusHost := {
    visits := .opened
    locale := policy.initialLocale
    application := none
    reader := policy.statusReader
    statusReadKey := none
    statusRead := none
    reads := []
    sourceRevisions := fun _ => none
    selected := false
    published := none
    statuses := [] }
  s.settle policy (policy.applicantStatus.getD none)

def abort (read : StatusRead) : StatusRead := { read with aborted := true }

/-- `statusReadAbort?.abort()`. -/
def abortRead (s : StatusHost) : StatusHost :=
  match s.statusRead with
  | none => s
  | some n => { s with reads := s.reads.modify n abort, statusRead := none }

def dropStatus (s : StatusHost) : StatusHost :=
  ({ s.abortRead with statusReadKey := none }).settle policy none

def beginRead (s : StatusHost) (application : Application) : StatusHost :=
  let key : StatusReadKey := ⟨application, s.locale⟩
  if s.statusReadKey = some key ∧ (s.visits.applicantStatus.isSome ∨ s.statusRead.isSome) then s
  else
    let s := s.abortRead
    { s with
      reads := s.reads ++ [⟨key, false⟩]
      statusRead := some s.reads.length
      statusReadKey := some key }

/-- `syncApplicantStatus(reader)`, where `reader` is whether one is passed. -/
def syncApplicantStatus (s : StatusHost) (reader : Bool) : StatusHost :=
  let s := { s with reader := s.reader || reader }
  if s.visits.disposed || s.visits.cleared then s
  else match policy.applicantStatus with
  | some next => s.settle policy next
  | none =>
    match s.application with
    | some application =>
      if truthy application.caseLedgerId && s.reader then s.beginRead application
      else s.dropStatus policy
    | none => s.dropStatus policy

def readCurrent (s : StatusHost) (read : StatusRead) : Bool :=
  !read.aborted && !s.visits.disposed && !s.visits.cleared && s.statusReadKey == some read.key
    && s.application.map (·.caseLedgerId) == some read.key.application.caseLedgerId

def readAnswered (s : StatusHost) (n : Nat) (answer : Option StatusResource) : Option StatusHost := do
  let read ← s.reads[n]?
  if !s.readCurrent read then return s
  else
    let next := answer.map fun resource =>
      toQualifiedApplicantStatus resource read.key.application s.locale
    return ({ s with statusRead := none }).settle policy next

/-- The read is refused, or what follows its answer throws. -/
def readFailed (s : StatusHost) (n : Nat) : Option StatusHost := do
  let read ← s.reads[n]?
  if !s.readCurrent read then return s
  else return ({ s with statusRead := none, statusReadKey := none }).settle policy none

/-- What `stop` does to the status where the host is cleared or disposed, and a runtime retired. -/
def retireStatus (s : StatusHost) : StatusHost :=
  { s.abortRead with
    statusReadKey := none
    application := none
    visits := { s.visits with applicantStatus := none } }

/-- `selectLocale(value)`, where the locale is admitted. -/
def selectLocale (s : StatusHost) (locale : String) : StatusHost :=
  if s.visits.disposed || s.visits.cleared then s
  else
    ({ s with visits := s.visits.selectLocale policy.visits, locale }).syncApplicantStatus policy false

def dispose (s : StatusHost) : StatusHost :=
  if s.visits.disposed then s
  else { s.retireStatus with visits := s.visits.dispose policy.visits, published := none }

/-- The `invalidate` of a configured runtime. -/
def invalidate (s : StatusHost) : StatusHost :=
  let s := s.retireStatus
  { s with visits := s.visits.stop policy.visits, published := none }

/-- `clearDraftAccess()`. A controller publishes as it is invalidated, and the status is synchronised
with its application before the host is cleared. -/
def clearDraftAccess (s : StatusHost) (application : Option Application) : StatusHost :=
  if s.visits.disposed || s.visits.cleared then s
  else
    let stopped := s.invalidate policy
    let stopped :=
      if s.visits.controller then ({ stopped with application }).syncApplicantStatus policy false else stopped
    { stopped with
      visits := s.visits.clearDraftAccess policy.visits stopped.visits.applicantStatus
      published := stopped.visits.applicantStatus }

/-- `rebuildRuntime(snapshot, expected)`, with the values it is given. -/
def rebuildRuntime (s : StatusHost) (values : List Value) (recordId : String) (revision : Int) : StatusHost :=
  { s with
    sourceRevisions := (policy.visits.entries.zip values).foldl (fun revisions entry =>
      revise revisions (FrozenRuntime.sourceKey entry.1) (policy.canonicalize entry.2)) s.sourceRevisions
    visits := s.visits.rebuildRuntime policy.visits values recordId revision }

def revisionOf (s : StatusHost) (descriptor : Descriptor) : Option Int :=
  (s.sourceRevisions (FrozenRuntime.sourceKey descriptor)).map (·.revision)

def recordId (s : StatusHost) : String :=
  match ((s.visits.applicantStatus.bind (·.get? "caseReference")).bind (·.text?)).filter hasText with
  | some caseReference => caseReference
  | none => (s.application.map (·.caseLedgerId)).getD "applicant-status"

def authorizeDataSource (s : StatusHost) (visit : SurfaceVisit) (request : LoadRequest) :
    AuthorizeResponse :=
  s.visits.authorizeDataSource policy.visits visit request

/-- `dataSourceLoader(request)`, with the record and the revision it looks up. -/
def dataSourceLoader (s : StatusHost) (visit : SurfaceVisit) (request : LoadRequest) : LoadResponse :=
  let visits := { s.visits with
    statusRecordId := s.recordId
    statusRevision := (s.revisionOf request.descriptor).getD 1 }
  visits.dataSourceLoader policy.visits visit request

def dataSourceRevision (s : StatusHost) (visit : SurfaceVisit) (request : LoadRequest) : Option Int :=
  if request.descriptor.sourceRef == VisitState.statusSource then
    if !s.visits.admitsStatus policy.visits visit request || s.visits.applicantStatus.isNone then none
    else s.revisionOf request.descriptor
  else
    match s.visits.requestFor policy.visits visit request with
    | .error _ => none
    | .ok (none, _) => none
    | .ok (some _, _) =>
      if !s.selected || !policy.visits.entries.contains request.descriptor
          || !policy.visits.surface.availableToWidget request.descriptor request.context
          || !s.visits.owner then none
      else s.revisionOf request.descriptor

inductive Event where
  | visit (event : VisitState.Event)
  | syncApplicantStatus (reader : Bool)
  /-- The controller publishes an application, or a runtime is configured with one. -/
  | setApplication (application : Option Application)
  /-- `refreshApplication()` forgets what was read. -/
  | forgetRead
  | readAnswered (read : Nat) (answer : Option StatusResource)
  | readFailed (read : Nat)
  | selectLocale (locale : String)
  | clearDraftAccess (application : Option Application)
  | dispose
  | invalidate
  | rebuildRuntime (values : List Value) (recordId : String) (revision : Int)
  | setSelected (selected : Bool)

def touchesStatus : VisitState.Event → Bool
  | .selectLocale | .clearDraftAccess _ | .dispose | .rebuildRuntime .. | .setApplicantStatus .. => true
  | _ => false

def step (s : StatusHost) : Event → Option StatusHost
  | .visit event =>
    if touchesStatus event then none
    else (s.visits.step policy.visits event).map fun visits => { s with visits }
  | .syncApplicantStatus reader => some (s.syncApplicantStatus policy reader)
  | .setApplication application => some (({ s with application }).syncApplicantStatus policy false)
  | .forgetRead => some { s with statusReadKey := none }
  | .readAnswered n answer => s.readAnswered policy n answer
  | .readFailed n => s.readFailed policy n
  | .selectLocale locale => some (s.selectLocale policy locale)
  | .clearDraftAccess application => some (s.clearDraftAccess policy application)
  | .dispose => some (s.dispose policy)
  | .invalidate => some (s.invalidate policy)
  | .rebuildRuntime values recordId revision => some (s.rebuildRuntime policy values recordId revision)
  | .setSelected selected => some { s with selected }

end StatusHost

end FormspecWeb.Host
