import FormspecWeb.Async.Steps
import Mathlib.Algebra.Order.Ring.Rat
import Mathlib.Logic.Function.Basic

/-!
# The native screener coordinator

A completed screener opens a route for as long as the retained determination is valid. Completion
attempts, qualifications and refreshes of a saved draft supersede each other; each is a sequence of
steps between the replies it waits for, and what the host answers in a step comes with the event.
-/

namespace FormspecWeb.Screener

structure Identity where
  issuer : String
  subject : String
  clientId : Option String
deriving DecidableEq

structure ScreenerSelection where
  screenerUrl : String
  screenerVersion : String
deriving DecidableEq

inductive ScreenerQualification where
  | ready (target : String)
  | pending (reason : String)
deriving DecidableEq

def ScreenerQualification.isReady : ScreenerQualification → Bool
  | ready _ => true
  | pending _ => false

structure ScreenerAcceptance where
  checkedAt : String
  qualification : ScreenerQualification
deriving DecidableEq

structure ScreenerRunView where
  selection : ScreenerSelection
  /-- `run.qualification`, the original one. -/
  qualification : ScreenerQualification
  /-- `run.determination.validity?.validUntil` -/
  validUntil : Option String
  acceptance : Option ScreenerAcceptance
deriving DecidableEq

/-- `acceptance?.qualification.status === 'ready'` -/
def ScreenerRunView.acceptedNow (view : ScreenerRunView) : Bool :=
  view.acceptance.any fun acceptance => acceptance.qualification.isReady

structure ScreenerDocument where
  url : Option String
  version : String
deriving DecidableEq

inductive ScreenerAnswer where
  | string (value : String)
  | boolean (value : Bool)
  | number (value : Option Rat)
  | other

def ScreenerAnswer.isPrimitive : ScreenerAnswer → Bool
  | string _ | boolean _ => true
  | number value => value.isSome
  | other => false

structure CompletionRequest where
  selectionKey : String
  document : ScreenerDocument
  /-- The document declares `resultValidity`. -/
  resultValidity : Bool
  answers : List (String × ScreenerAnswer)
  target : String

structure SavedCandidate where
  signed : Bool
  signingContent : Bool

/-- `Date.parse`, in milliseconds. -/
structure DateParse where
  parse : String → Option Int
  empty : parse "" = none

structure CoordinatorConfig where
  selectionKey : String
  date : DateParse
  recovers : Bool
  refreshes : Bool
  loads : Bool

structure ScreenerRoute where
  run : ScreenerRunView
  identity : Identity
  deadline : Option Rat

inductive RefreshKind where
  | currentCheck
  | allowRefresh
  | refreshSaved

inductive Waiting where
  | retain (request : CompletionRequest) (started : Rat) (identity : Identity)
  | recover (kind : RefreshKind)
  | load (kind : RefreshKind)
  | refresh (kind : RefreshKind)
  | associate
  | hydrate

/-- A call of `complete`, with the clock and the owner it read if it came to its operation. -/
structure Attempt where
  id : Nat
  request : CompletionRequest
  begun : Option (Rat × Identity)

inductive CoordinatorEntry where
  | attempted (attempt : Attempt)
  /-- A call of `qualifySaved` or `refreshSaved`. -/
  | called (id : Nat)
  | accepted (id : Nat) (view : ScreenerRunView)
  | refused (id : Nat) (reason : String)
  | failed (id : Nat)
  | ended (id : Nat)
  | factsRetired
  | authorityRetired
  | disposed

structure Coordinator where
  run : Option ScreenerRunView
  active : Option Nat
  disposed : Bool
  uncertainRefresh : Bool
  lastElapsed : Option Rat
  route : Option ScreenerRoute
  calls : Nat
  waiting : Nat → Option Waiting
  /-- Newest first. -/
  log : List CoordinatorEntry

/-- A reading of the elapsed clock is finite and not before the last one. -/
def clock (lastElapsed reading : Option Rat) : Option Rat :=
  reading.filter fun value => !lastElapsed.any fun last => decide (value < last)

/-- What the host answers at the start of `complete`. -/
structure StartReadings where
  /-- `onRouteChange` returns. -/
  notified : Bool
  elapsed : Option Rat
  routeOwner : Option Identity
  /-- `context()` answers, and is current. -/
  context : Bool

structure ReplyReadings where
  current : Bool
  /-- `assertOwner` of the attempt passes. -/
  ownerCurrent : Bool
  routeOwner : Option Identity
  elapsed : Option Rat
  timerElapsed : Option Rat
  notified : Bool

/-- What the host answers in `routeAllowed`. -/
structure GateReadings where
  elapsed : Option Rat
  ownerCurrent : Bool
  routeOwner : Option Identity

inductive Reply where
  | view (view : ScreenerRunView)
  | done
  | failed

namespace Coordinator

def created : Coordinator := ⟨none, none, false, false, none, none, 0, fun _ => none, []⟩

def logged (s : Coordinator) (entry : CoordinatorEntry) : Coordinator :=
  { s with log := entry :: s.log }

def retireFacts (s : Coordinator) : Coordinator := { s with active := none }

/-- `begin(extra, caller)`: an operation supersedes the active one, also where it fails to begin. -/
def beginOperation (s : Coordinator) (id : Nat) (context : Bool) : Coordinator × Bool :=
  if s.disposed || !context then (s.retireFacts, false) else ({ s with active := some id }, true)

def finish (s : Coordinator) (id : Nat) : Coordinator :=
  { s with
    active := if s.active = some id then none else s.active
    waiting := Function.update s.waiting id none }

def fail (s : Coordinator) (id : Nat) : Coordinator := (s.finish id).logged (.failed id)

def wait (s : Coordinator) (id : Nat) (waiting : Waiting) : Coordinator :=
  { s with waiting := Function.update s.waiting id (some waiting) }

/-- `operation.assertCurrent()` passes. -/
def isCurrent (s : Coordinator) (id : Nat) (current : Bool) : Bool :=
  current && !s.disposed && s.active == some id

/-! ## Completion -/

/-- `primitiveAnswers(answers)` does not throw. -/
def primitiveAnswers (answers : List (String × ScreenerAnswer)) : Bool :=
  answers.all fun answer => answer.2.isPrimitive

/-- `complete(request)` up to the retention port. -/
def complete (config : CoordinatorConfig) (s : Coordinator) (request : CompletionRequest)
    (readings : StartReadings) : Coordinator :=
  let id := s.calls
  let s := { s with run := none, route := none, calls := id + 1 }
  if !readings.notified then (s.logged (.attempted ⟨id, request, none⟩)).logged (.failed id)
  else
    match clock s.lastElapsed readings.elapsed with
    | none => (s.logged (.attempted ⟨id, request, none⟩)).logged (.failed id)
    | some started =>
      let s := { s with lastElapsed := some started }
      match readings.routeOwner with
      | none => (s.logged (.attempted ⟨id, request, none⟩)).logged (.failed id)
      | some identity =>
        let s := s.logged (.attempted ⟨id, request, some (started, identity)⟩)
        let (s, begun) := s.beginOperation id readings.context
        if !begun then s.logged (.failed id)
        else if request.selectionKey ≠ config.selectionKey || !primitiveAnswers request.answers then
          s.fail id
        else s.wait id (.retain request started identity)

/-- How long an accepted run opens the route, in milliseconds: none where the times do not parse,
and no limit where there is no validity. -/
def remaining (date : DateParse) (request : CompletionRequest) (validUntil : Option String)
    (checkedAt : String) : Option (Option Int) :=
  if validUntil = none ∧ request.resultValidity = false then some none
  else do
    let validTo ← date.parse (validUntil.getD "")
    let checked ← date.parse checkedAt
    return some (validTo - checked - 1)

/-- `remaining > 0` -/
def outlasts : Option (Option Int) → Bool
  | none => false
  | some none => true
  | some (some milliseconds) => decide (0 < milliseconds)

def deadlineOf (started : Rat) (remaining : Option (Option Int)) : Option Rat :=
  remaining.join.map fun milliseconds => started + milliseconds

/-- `elapsed >= deadline` -/
def reached (deadline : Option Rat) (elapsed : Rat) : Bool :=
  deadline.any fun deadline => decide (deadline ≤ elapsed)

inductive Admission where
  | refused (reason : String)
  | thrown
  | expired (elapsed : Option Rat)
  | routed (deadline : Option Rat) (elapsed : Rat)

def admission (config : CoordinatorConfig) (lastElapsed : Option Rat) (request : CompletionRequest)
    (started : Rat) (identity : Identity) (view : ScreenerRunView) (readings : ReplyReadings) :
    Admission :=
  match view.acceptance with
  | none => .refused "native-screener-acceptance-unavailable"
  | some acceptance =>
    match acceptance.qualification with
    | .pending reason => .refused reason
    | .ready target =>
      let left := remaining config.date request view.validUntil acceptance.checkedAt
      if target ≠ request.target ∨ view.qualification ≠ .ready request.target then
        .refused "native-screener-acceptance-unavailable"
      else if !readings.ownerCurrent then .thrown
      else
        match readings.routeOwner with
        | none => .thrown
        | some owner =>
          if owner ≠ identity ∨ outlasts left = false then .expired none
          else
            match clock lastElapsed readings.elapsed with
            | none => .thrown
            | some elapsed =>
              if reached (deadlineOf started left) elapsed then .expired (some elapsed)
              else .routed (deadlineOf started left) elapsed

def setExpiry (s : Coordinator) (deadline reading : Option Rat) : Option Coordinator :=
  match deadline with
  | none => some s
  | some _ => (clock s.lastElapsed reading).map fun elapsed => { s with lastElapsed := some elapsed }

/-- `complete` behind the retention port. -/
def takeUp (config : CoordinatorConfig) (s : Coordinator) (id : Nat) (request : CompletionRequest)
    (started : Rat) (identity : Identity) (view : ScreenerRunView) (readings : ReplyReadings) :
    Coordinator :=
  match admission config s.lastElapsed request started identity view readings with
  | .refused reason => (s.finish id).logged (.refused id reason)
  | .thrown => { s with run := some view }.fail id
  | .expired elapsed =>
    ({ s with run := none, lastElapsed := elapsed.or s.lastElapsed }.finish id).logged
      (.refused id "native-screener-route-expired")
  | .routed deadline elapsed =>
    let route := some ⟨view, identity, deadline⟩
    let s := { s with run := some view, route := route, lastElapsed := some elapsed }
    match s.setExpiry deadline readings.timerElapsed with
    | none => s.fail id
    | some s =>
      if readings.notified then (s.finish id).logged (.accepted id view) else s.fail id

/-! ## Qualifying and refreshing a saved draft -/

def hydrateNext (s : Coordinator) (id : Nat) (currentCheck : Bool) : Coordinator :=
  match s.run with
  | none => s.fail id
  | some _ => s.wait id (if currentCheck then .hydrate else .associate)

def callRefresh (s : Coordinator) (id : Nat) (kind : RefreshKind) : Coordinator :=
  { s with uncertainRefresh := true }.wait id (.refresh kind)

def refreshLatest (config : CoordinatorConfig) (s : Coordinator) (id : Nat) (kind : RefreshKind) :
    Coordinator :=
  if s.uncertainRefresh then
    if config.loads then s.wait id (.load kind) else s.fail id
  else s.callRefresh id kind

def refreshUnlessReady (config : CoordinatorConfig) (s : Coordinator) (id : Nat) : Coordinator :=
  if s.run.any ScreenerRunView.acceptedNow then s.hydrateNext id false
  else s.refreshLatest config id .allowRefresh

def refreshOffered (config : CoordinatorConfig) (s : Coordinator) (id : Nat) : Coordinator :=
  if config.refreshes then s.refreshLatest config id .refreshSaved else s.fail id

/-- `qualifySaved(saved, caller, options)` up to its first wait. -/
def qualifySaved (config : CoordinatorConfig) (s : Coordinator) (saved : SavedCandidate)
    (allowRefresh context : Bool) : Coordinator :=
  let id := s.calls
  let s := { s with calls := id + 1 }.logged (.called id)
  let (s, begun) := s.beginOperation id context
  let allowRefresh := allowRefresh && !saved.signed && !saved.signingContent
  if !begun then s.logged (.failed id)
  else if s.run.isNone && saved.signed then
    if config.recovers then s.wait id (.recover .currentCheck) else s.fail id
  else if allowRefresh && !s.run.any ScreenerRunView.acceptedNow && config.recovers
      && config.refreshes then
    if s.run.isNone then s.wait id (.recover .allowRefresh) else s.refreshUnlessReady config id
  else s.hydrateNext id saved.signed

/-- `refreshSaved(saved, caller)` up to its first wait. -/
def refreshSaved (config : CoordinatorConfig) (s : Coordinator) (context : Bool) : Coordinator :=
  let id := s.calls
  let s := { s with calls := id + 1 }.logged (.called id)
  let (s, begun) := s.beginOperation id context
  if !begun then s.logged (.failed id)
  else if s.run.isNone then
    if config.recovers then s.wait id (.recover .refreshSaved) else s.fail id
  else s.refreshOffered config id

def afterRecover (config : CoordinatorConfig) (s : Coordinator) (id : Nat) :
    RefreshKind → Coordinator
  | .currentCheck => s.hydrateNext id true
  | .allowRefresh => s.refreshUnlessReady config id
  | .refreshSaved => s.refreshOffered config id

def afterRefresh (s : Coordinator) (id : Nat) (fresh : ScreenerRunView) (kind : RefreshKind) :
    Coordinator :=
  if !fresh.acceptedNow || !fresh.qualification.isReady then s.fail id
  else
    match kind with
    | .refreshSaved => (s.finish id).logged (.ended id)
    | .currentCheck | .allowRefresh => s.hydrateNext id false

/-- An operation goes on with the reply it waited for, where it is still current. -/
def resume (config : CoordinatorConfig) (s : Coordinator) (id : Nat) (readings : ReplyReadings) :
    Waiting → Reply → Option Coordinator
  | _, .failed => some (s.fail id)
  | .retain request started identity, .view view =>
    if s.isCurrent id readings.current then
      some (s.takeUp config id request started identity view readings)
    else some (s.fail id)
  | .recover kind, .view view =>
    if s.isCurrent id readings.current then
      some ({ s with run := some view }.afterRecover config id kind)
    else some (s.fail id)
  | .load kind, .view view =>
    if s.isCurrent id readings.current then
      some ({ s with run := some view }.callRefresh id kind)
    else some (s.fail id)
  | .refresh kind, .view view =>
    if s.isCurrent id readings.current then
      some ({ s with run := some view, uncertainRefresh := false }.afterRefresh id view kind)
    else some (s.fail id)
  | .associate, .done =>
    if s.isCurrent id readings.current then some (s.wait id .hydrate) else some (s.fail id)
  | .hydrate, .done =>
    -- The operation stays active: the facts it returns ask it whether they are current.
    if s.isCurrent id readings.current then
      some ({ s with waiting := Function.update s.waiting id none }.logged (.ended id))
    else some (s.fail id)
  | _, _ => none

/-- `routeAllowed(target, document)`, with the coordinator it leaves. -/
def routeAllowed (s : Coordinator) (target : String) (document : ScreenerDocument)
    (readings : GateReadings) : Coordinator × Bool :=
  let closed : Coordinator × Bool := ({ s with route := none }, false)
  if s.disposed then closed
  else
    match s.route with
    | none => closed
    | some route =>
      match clock s.lastElapsed readings.elapsed with
      | none => closed
      | some elapsed =>
        let s := { s with lastElapsed := some elapsed }
        if reached route.deadline elapsed || !readings.ownerCurrent
            || readings.routeOwner != some route.identity then
          ({ s with route := none }, false)
        else
          (s, some route.run.selection.screenerUrl == document.url
            && route.run.selection.screenerVersion == document.version
            && route.run.acceptance.any fun acceptance => acceptance.qualification == .ready target)

inductive Event where
  | complete (request : CompletionRequest) (readings : StartReadings)
  | qualifySaved (saved : SavedCandidate) (allowRefresh context : Bool)
  | refreshSaved (context : Bool)
  | reply (id : Nat) (reply : Reply) (readings : ReplyReadings)
  | routeAllowed (target : String) (document : ScreenerDocument) (readings : GateReadings)
  | expire
  | retireFacts
  | retireAuthority
  | dispose

def step (config : CoordinatorConfig) (s : Coordinator) : Event → Option Coordinator
  | .complete request readings => some (s.complete config request readings)
  | .qualifySaved saved allowRefresh context => some (s.qualifySaved config saved allowRefresh context)
  | .refreshSaved context => some (s.refreshSaved config context)
  | .reply id reply readings => (s.waiting id).bind fun waiting => s.resume config id readings waiting reply
  | .routeAllowed target document readings => some (s.routeAllowed target document readings).1
  | .expire => some { s with route := none }
  | .retireFacts => some (s.retireFacts.logged .factsRetired)
  | .retireAuthority => some ({ s.retireFacts with run := none, route := none }.logged .authorityRetired)
  | .dispose =>
    if s.disposed then some s
    else some ({ s.retireFacts with disposed := true, run := none, route := none }.logged .disposed)

end Coordinator

end FormspecWeb.Screener
