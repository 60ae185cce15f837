import FormspecWeb.Policy.Resolver
import FormspecWeb.Status.HttpStatusReader

/-!
# The status view

The effect that loads a case, of one mount of the view, beside the browser session the view is given.
The session takes any of its steps between two steps of the view, with the time its own clock then
shows; the subscription acts in the step that publishes. Time passes in steps of its own, and the
callback of an expiry timer that is due is a task like any other.
-/

namespace FormspecWeb.Status

open Shared Identity Policy

inductive LifecycleViewState where
  | disabled (cause : Option DisabledCause)
  | available (snapshot : Value) (policy : Option Value)
  | notFound
  | adapterError

inductive StatusViewState where
  | loading
  | signInRequired
  | disabled (cause : Option DisabledCause)
  | policyError (error : RuntimePolicyError)
  | ready (detail : Value) (lifecycle : LifecycleViewState)
  | readyReduced (resource : Value) (lifecycle : LifecycleViewState)
  | notFound
  | adapterError
  | accessDenied

namespace StatusViewState

def isLoaded : StatusViewState → Bool
  | ready _ _ | readyReduced _ _ => true
  | _ => false

def asksForSignIn : StatusViewState → Bool
  | signInRequired => true
  | _ => false

end StatusViewState

abbrev StatusResult := Except StatusFailure (Option Value)

abbrev LifecycleResult := Except String (Option Value)

structure StatusRuntimeConfig where
  mode : CompositionMode
  instanceCapabilities : InstanceCapabilities
  orgRuntimePolicy : OrgRuntimePolicy
  urlOrigin : String → Option String
  browserAuthSession : OidcBrowserAuthSessionConfig
  /-- `Date.parse(text)`; none where it is not a number. -/
  dateParse : String → Option Int

def statusForm : FormRuntimePolicy where
  features := [("status", some .optional), ("recordLifecycle", some .optional)]
  limits := fun _ => none
  recordLifecycle := none

namespace StatusRuntimeConfig

variable (config : StatusRuntimeConfig)

def profile : Except RuntimePolicyError ResolvedRuntimeProfile :=
  resolveRuntimeFeatures ⟨config.mode, config.instanceCapabilities, config.orgRuntimePolicy,
    statusForm, config.urlOrigin⟩

def expires (state : BrowserAuthSessionState) : Option Int := config.dateParse state.expiresAt

def unexpired (state : BrowserAuthSessionState) (now : Int) : Bool :=
  (config.expires state).any (now < ·)

end StatusRuntimeConfig

def policyErrorOf : RuntimePolicyError → RuntimePolicyError
  | .typeError => .invalidRuntimePolicy .org
      ("resolveRuntimeFeatures threw: " ++ RuntimePolicyError.typeError.message)
  | error => error

def disabledCause (profile : ResolvedRuntimeProfile) (key : RuntimeFeatureKey) : Option DisabledCause :=
  (profile.disabled.lookup key).map DisabledReason.cause

def lifecycleStateFromResult (profile : ResolvedRuntimeProfile) (result : LifecycleResult) :
    LifecycleViewState :=
  if !profile.enabled.contains .recordLifecycle then
    .disabled (disabledCause profile .recordLifecycle)
  else
    match result with
    | .error _ => .adapterError
    | .ok none => .notFound
    | .ok (some snapshot) => .available snapshot profile.recordLifecycle

def isApplicantCaseDetail (resource : Value) : Bool :=
  resource.isPlainObject && resource.hasOwn "summary" && resource.hasOwn "openTasks"
    && resource.hasOwn "statusTimeline"

def refusedView : StatusFailure → StatusViewState
  | .status .signInRequired => .signInRequired
  | .status .accessDenied => .accessDenied
  | _ => .adapterError

def landedView (profile : ResolvedRuntimeProfile) (status : StatusResult)
    (lifecycle : LifecycleResult) : StatusViewState :=
  match status with
  | .error failure => refusedView failure
  | .ok none => .notFound
  | .ok (some resource) =>
    if isApplicantCaseDetail resource then
      .ready resource (lifecycleStateFromResult profile lifecycle)
    else .readyReduced resource (lifecycleStateFromResult profile lifecycle)

structure ExpiryTimer where
  expires : Int
  due : Int

inductive LoadStage where
  | idle
  /-- `getSession()` runs. -/
  | selecting (profile : ResolvedRuntimeProfile) (read : Nat)
  | reading (profile : ResolvedRuntimeProfile) (status : Option StatusResult)
    (lifecycle : Option LifecycleResult)
  | failing
  /-- The load has settled, with the status read the view was drawn from. -/
  | done (status : Option StatusResult)

namespace LoadStage

def isDone : LoadStage → Bool
  | done _ => true
  | _ => false

def isRefused : LoadStage → Bool
  | done (some (.error (.status .signInRequired))) => true
  | _ => false

end LoadStage

structure StatusRuntime where
  session : OidcBrowserAuthSession
  now : Int
  clock : Rat
  mounted : Bool
  subscribed : Bool
  cancelled : Bool
  view : StatusViewState
  selectedSession : Option BrowserAuthSessionState
  expiryTimer : Option ExpiryTimer
  stage : LoadStage
  /-- What the subscription got, newest first. -/
  heard : List (Option BrowserAuthSessionState)
  readUnder : Option BrowserAuthSessionState

namespace StatusRuntime

variable (config : StatusRuntimeConfig)

def opened : StatusRuntime :=
  ⟨OidcBrowserAuthSession.opened, 0, 0, false, false, false, .loading, none, none, .idle, [], none⟩

def retire (s : StatusRuntime) : StatusRuntime :=
  if s.cancelled then s else { s with cancelled := true, view := .signInRequired }

def checkExpiry (s : StatusRuntime) (expires : Int) : StatusRuntime :=
  if s.cancelled then s
  else if expires ≤ s.now then s.retire
  else { s with expiryTimer := some ⟨expires, s.now + min (expires - s.now) 2147483647⟩ }

def listen (s : StatusRuntime) (state : Option BrowserAuthSessionState) : StatusRuntime :=
  if s.cancelled then s
  else
    match state, state.bind config.expires with
    | some state, some expires =>
      if expires ≤ s.now then s.retire
      -- a key has all members of a state
      else if s.selectedSession.any (· != state) then s.retire
      else { s with selectedSession := some state }.checkExpiry expires
    | _, _ => s.retire

def receive (s : StatusRuntime) (state : Option BrowserAuthSessionState) : StatusRuntime :=
  { s with heard := state :: s.heard }.listen config state

def observe (s : StatusRuntime) (session : OidcBrowserAuthSession) : StatusRuntime :=
  let next := { s with session := session }
  if s.subscribed then
    (s.session.credentials.publishedSince session.credentials).foldr
      (fun publication s => s.receive config publication.state) next
  else next

/-- `getSession()` is called. -/
def callSession (s : StatusRuntime) : StatusRuntime :=
  s.observe config (s.session.getSession config.browserAuthSession s.clock)

def mount (s : StatusRuntime) : StatusRuntime :=
  let s := { s with mounted := true }
  match config.profile with
  | .error error => { s with view := .policyError (policyErrorOf error), stage := .done none }
  | .ok profile =>
    if !profile.enabled.contains .status then
      { s with view := .disabled (disabledCause profile .status), stage := .done none }
    else
      ({ s with
        subscribed := true
        stage := .selecting profile s.session.reads.length }.receive config
          s.session.credentials.state).callSession config

/-- `read()` behind `getSession()`; the call of a reader may throw. -/
def resume (s : StatusRuntime) (profile : ResolvedRuntimeProfile)
    (state : Option BrowserAuthSessionState) (throws : Bool) : StatusRuntime :=
  if state.isNone then { s.retire with stage := .done none }
  else if s.cancelled then { s with stage := .done none }
  else if throws then { s with stage := .failing, readUnder := s.session.credentials.state }
  else
    { s with
      stage := .reading profile none
        (if profile.enabled.contains .recordLifecycle then none else some (.ok none))
      readUnder := s.session.credentials.state }

def land (s : StatusRuntime) (profile : ResolvedRuntimeProfile) (status : StatusResult)
    (lifecycle : LifecycleResult) : StatusRuntime :=
  if s.cancelled then { s with stage := .done none }
  else { s with view := landedView profile status lifecycle, stage := .done (some status) }

/-- The `catch` around the load. -/
def caught (s : StatusRuntime) : StatusRuntime :=
  if s.cancelled then { s with stage := .done none }
  else { s with view := .adapterError, stage := .done none }

def tick (s : StatusRuntime) (now : Int) (clock : Rat) : StatusRuntime :=
  { s with now := now, clock := clock }

/-- The callback of the timer. -/
def expire (s : StatusRuntime) (timer : ExpiryTimer) : StatusRuntime :=
  { s with expiryTimer := none }.checkExpiry timer.expires

def unmount (s : StatusRuntime) : StatusRuntime :=
  { s with mounted := false, subscribed := false, cancelled := true, expiryTimer := none }

inductive Event where
  | session (event : OidcBrowserAuthSession.Event)
  | tick (now : Int) (clock : Rat)
  | expire
  | mount
  | resume (throws : Bool)
  | statusSettled (result : StatusResult)
  | lifecycleSettled (result : LifecycleResult)
  | land
  | caught
  | unmount

def step (s : StatusRuntime) : Event → Option StatusRuntime
  | .session event =>
    if event.now?.all (· == s.clock) then
      (s.session.step config.browserAuthSession event).map (s.observe config)
    else none
  | .tick now clock => if s.now ≤ now ∧ s.clock ≤ clock then some (s.tick now clock) else none
  | .expire =>
    match s.expiryTimer with
    | some timer => if timer.due ≤ s.now then some (s.expire timer) else none
    | none => none
  | .mount =>
    match s.stage, s.mounted with
    | .idle, false => some (s.mount config)
    | _, _ => none
  | .resume throws =>
    match s.stage with
    | .selecting profile read =>
      match s.session.reads[read]? with
      | some (.returned state) => some (s.resume profile state throws)
      | _ => none
    | _ => none
  | .statusSettled result =>
    match s.stage with
    | .reading profile none lifecycle =>
      some { s with stage := .reading profile (some result) lifecycle }
    | _ => none
  | .lifecycleSettled result =>
    match s.stage with
    | .reading profile status none =>
      some { s with stage := .reading profile status (some result) }
    | _ => none
  | .land =>
    match s.stage with
    | .reading profile (some status) (some lifecycle) => some (s.land profile status lifecycle)
    | _ => none
  | .caught =>
    match s.stage with
    | .failing => some s.caught
    | _ => none
  | .unmount => if s.mounted then some s.unmount else none

end StatusRuntime

end FormspecWeb.Status
