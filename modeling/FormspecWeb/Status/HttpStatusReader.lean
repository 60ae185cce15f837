import FormspecWeb.Identity.PublishedSession

/-!
# The HTTP status reader

One call of `readStatus`, from wait to wait, beside the browser session it reads under. The session
takes any of its steps between two steps of the call, and the call's listener acts in the step that
publishes. What the guard throws and what the clocks show comes with the event, and so does what the
server answers.
-/

namespace FormspecWeb.Status

open Shared Identity

inductive StatusReadErrorCode where
  | signInRequired
  | accessDenied
  | unavailable
deriving DecidableEq

inductive StatusFailure where
  /-- A `StatusReadError`. -/
  | status (code : StatusReadErrorCode)
  /-- An `HttpAdapterError`. -/
  | http (status : Nat)
  | other (message : String)
deriving DecidableEq

/-- The reason of `controller.abort()`. -/
def abortError : StatusFailure := .other "AbortError"

def timeoutError : StatusFailure := .other "TimeoutError"

structure HttpStatusReaderConfig where
  caseLedgerId : String
  issuer : String
  browserAuthSession : OidcBrowserAuthSessionConfig
  /-- What making the transport and the client throws. -/
  client : Option StatusFailure
  validateApplicantCaseDetail : Value → Bool
  /-- `Date.parse(text)`; none where it is not a number. -/
  dateParse : String → Option Rat

structure StatusRequest where
  resourceRef : String
  keys : List String

namespace HttpStatusReaderConfig

variable (config : HttpStatusReaderConfig)

def path : String := "/api/v1/applicant/cases/" ++ encodeURIComponent config.caseLedgerId

def rawId : String :=
  if "urn:wos:".toList.isPrefixOf config.caseLedgerId.toList then
    String.ofList (config.caseLedgerId.toList.drop 8)
  else config.caseLedgerId

def textAt (value : Value) (key : String) : Option String := (value.get? key).bind Value.text?

def isDetail (value : Value) : Bool :=
  let summary := (value.get? "summary").getD .undefined
  config.validateApplicantCaseDetail value && textAt summary "id" == some ("urn:wos:" ++ config.rawId)
    && ((value.get? "openTasks").bind Value.entries?).any fun tasks =>
      tasks.all (fun task => textAt task "status" == some "pending"
          || textAt task "status" == some "drafted")
        && decide (tasks.map fun task => textAt task "id").Nodup
        && (summary.get? "actionNeeded").any fun needed =>
          needed.isBool && needed.isTrue == !tasks.isEmpty

/-- `Date.parse(state.expiresAt)` is a number, and later than this. -/
def unexpired (state : BrowserAuthSessionState) (now : Rat) : Bool :=
  (config.dateParse state.expiresAt).any (now < ·)

def admits (state : BrowserAuthSessionState) (now : Rat) : Bool :=
  state.issuer == config.issuer && config.unexpired state now

end HttpStatusReaderConfig

structure StatusHttpRequest where
  path : String
  /-- The bearer of `authorization`. -/
  token : String

structure StatusReply where
  status : Nat
  json : Bool

inductive StatusStage where
  | idle
  /-- `getSession()` runs. -/
  | selecting (read : Nat)
  /-- The read of `accessToken()` runs. -/
  | token (read : Nat)
  /-- `accessToken()` has returned. -/
  | provided (token : Option String)
  | authorized (token : String)
  | requested
  | reading (status : Nat)
  /-- `getJson` has returned. -/
  | received (value : Value)
  /-- `getJson` has thrown. -/
  | failing (failure : StatusFailure)
  | settled

namespace StatusStage

def inClient : StatusStage → Bool
  | token _ | provided _ | authorized _ | requested | reading _ => true
  | _ => false

end StatusStage

inductive StatusEntry where
  | dispatched (request : StatusHttpRequest) (credentials : Credentials) (now : Rat)
  | resolved (value : Value) (credentials : Credentials) (now : Rat)
  | rejected (failure : StatusFailure) (credentials : Credentials)

structure StatusRead where
  session : OidcBrowserAuthSession
  stage : StatusStage
  signal : Option StatusFailure
  /-- What the first `getSession()` answered, once it is admitted. -/
  selected : Option BrowserAuthSessionState
  subscribed : Bool
  retired : Bool
  /-- `controller.signal.aborted`. -/
  controller : Bool
  lifetime : Option StatusFailure
  /-- Newest first. -/
  log : List StatusEntry

namespace StatusRead

variable (config : HttpStatusReaderConfig)

def opened : StatusRead :=
  ⟨OidcBrowserAuthSession.opened, .idle, none, none, false, false, false, none, []⟩

/-- `controller.abort()`. -/
def abortController (s : StatusRead) : StatusRead :=
  { s with controller := true, lifetime := s.lifetime.or (some abortError) }

def retire (s : StatusRead) : StatusRead := { s with retired := true }.abortController

def listens (s : StatusRead) (state : Option BrowserAuthSessionState) : Bool :=
  s.subscribed && state != s.selected

def observe (s : StatusRead) (session : OidcBrowserAuthSession) : StatusRead :=
  let next := { s with session := session }
  if (s.session.credentials.publishedSince session.credentials).any fun publication =>
      s.listens publication.state then next.retire
  else next

/-- `session.subscribe(listener)`, which replays the published state. -/
def subscribe (s : StatusRead) (selected : BrowserAuthSessionState) : StatusRead :=
  let next := { s with selected := some selected, subscribed := true }
  if next.listens s.session.credentials.state then next.retire else next

def assertCurrent (s : StatusRead) (guard : Option StatusFailure) (now : Rat) :
    Except StatusFailure Unit :=
  match guard.or s.signal with
  | some failure => .error failure
  | none =>
    if s.retired || !s.selected.any (config.unexpired · now) then
      .error (.status .signInRequired)
    else if s.controller then .error abortError
    else .ok ()

def check (s : StatusRead) (guard : Option StatusFailure) (now : Rat) : Except StatusFailure Unit :=
  match s.lifetime with
  | some failure => .error failure
  | none => s.assertCurrent config guard now

def reject (s : StatusRead) (failure : StatusFailure) : StatusRead :=
  { s with
    stage := .settled
    subscribed := false
    log := .rejected failure s.session.credentials :: s.log }

/-- What the `catch` throws for what it caught. -/
def rethrown (s : StatusRead) (failure : StatusFailure) : StatusFailure :=
  if s.retired then .status .signInRequired
  else
    match failure with
    | .status code => .status code
    | .http 401 => .status .signInRequired
    | .http 403 | .http 404 => .status .accessDenied
    | failure => if s.signal.isSome then failure else .status .unavailable

/-- The `catch` and the `finally`. -/
def caught (s : StatusRead) (failure : StatusFailure) : StatusRead :=
  (s.reject (s.rethrown failure)).abortController

def resolve (s : StatusRead) (value : Value) (now : Rat) : StatusRead :=
  { s with
    stage := .settled
    subscribed := false
    log := .resolved value s.session.credentials now :: s.log }.abortController

/-- `getJson` throws; the rejection reaches the `catch` in a step of its own. -/
def throws (s : StatusRead) (failure : StatusFailure) : StatusRead :=
  { s with stage := .failing failure }

def passing (s : StatusRead) (checked : Except StatusFailure Unit) (next : StatusRead) : StatusRead :=
  match checked with
  | .ok () => next
  | .error failure => s.throws failure

/-! ## The call -/

/-- `getSession()` is called. -/
def callSession (s : StatusRead) (clock : Rat) : StatusRead :=
  s.observe (s.session.getSession config.browserAuthSession clock)

def readStatus (s : StatusRead) (request : StatusRequest) (guard : Option StatusFailure)
    (clock : Rat) : StatusRead :=
  if request.resourceRef != config.caseLedgerId || request.keys.any (· != "resourceRef") then
    s.reject (.status .accessDenied)
  else
    match s.signal.or guard with
    | some failure => s.reject failure
    | none => { s.callSession config clock with stage := .selecting s.session.reads.length }

/-- `getJson` up to the read of its token; the guard is called before, and by either check. -/
def getJson (s : StatusRead) (guards : Nat → Option StatusFailure) (now clock : Rat) : StatusRead :=
  s.passing (s.check config (guards 1) now)
    (s.passing (s.assertCurrent config (guards 2) now)
      { s.callSession config clock with stage := .token s.session.reads.length })

/-- `readStatus` behind `getSession()`. -/
def select (s : StatusRead) (state : Option BrowserAuthSessionState)
    (guards : Nat → Option StatusFailure) (now clock : Rat) : StatusRead :=
  match state.filter (config.admits · now) with
  | none => s.reject (.status .signInRequired)
  | some selected =>
    let s := s.subscribe selected
    match s.assertCurrent config (guards 0) now with
    | .error failure => s.caught failure
    | .ok () =>
      match config.client with
      | some failure => s.caught failure
      | none => s.getJson config guards now clock

/-- `accessToken()` behind its read. -/
def readToken (s : StatusRead) (clock : Rat) : StatusRead :=
  let (session, token) := s.session.accessToken config.browserAuthSession clock
  { s.observe session with stage := .provided token }

/-- The token provider behind `accessToken()`. -/
def provide (s : StatusRead) (token : Option String) (guard : Option StatusFailure) (now : Rat) :
    StatusRead :=
  s.passing (s.assertCurrent config guard now)
    (match token.filter (· != "") with
    | some token => { s with stage := .authorized token }
    | none => s.throws (.status .signInRequired))

def dispatch (s : StatusRead) (token : String) (guard : Option StatusFailure) (now : Rat) :
    StatusRead :=
  s.passing (s.check config guard now)
    { s with
      stage := .requested
      log := .dispatched ⟨config.path, token⟩ s.session.credentials now :: s.log }

def reply (s : StatusRead) (answer : Except StatusFailure StatusReply) (guard : Option StatusFailure)
    (now : Rat) : StatusRead :=
  match answer with
  | .error failure => s.throws failure
  | .ok reply =>
    s.passing (s.check config guard now)
      (if reply.json then { s with stage := .reading reply.status }
      else s.throws (.other "HTTP response must contain JSON"))

def body (s : StatusRead) (status : Nat) (payload : Except StatusFailure Value)
    (guard : Option StatusFailure) (now : Rat) : StatusRead :=
  match payload with
  | .error failure => s.throws failure
  | .ok value =>
    s.passing (s.check config guard now)
      (if status = 200 then { s with stage := .received value } else s.throws (.http status))

/-- `readStatus` behind `getJson`. -/
def deliver (s : StatusRead) (value : Value) (guard : Option StatusFailure) (now : Rat) :
    StatusRead :=
  match s.assertCurrent config guard now with
  | .error failure => s.caught failure
  | .ok () =>
    if config.isDetail value then s.resolve value now else s.caught (.status .unavailable)

def abort (s : StatusRead) (reason : StatusFailure) : StatusRead :=
  let next := { s with signal := some reason }
  if s.subscribed then next.abortController else next

def interrupt (s : StatusRead) : Option StatusRead :=
  match s.stage with
  | .selecting _ => s.signal.map s.reject
  | stage => if stage.inClient then s.lifetime.map s.throws else none

inductive Event where
  | session (event : OidcBrowserAuthSession.Event)
  | readStatus (request : StatusRequest) (guard : Option StatusFailure) (clock : Rat)
  | select (guards : Nat → Option StatusFailure) (now clock : Rat)
  | readToken (clock : Rat)
  | provide (guard : Option StatusFailure) (now : Rat)
  | dispatch (guard : Option StatusFailure) (now : Rat)
  | reply (answer : Except StatusFailure StatusReply) (guard : Option StatusFailure) (now : Rat)
  | body (payload : Except StatusFailure Value) (guard : Option StatusFailure) (now : Rat)
  | deliver (guard : Option StatusFailure) (now : Rat)
  | caught
  | abort (reason : StatusFailure)
  | timeout
  | interrupt

def returned (s : StatusRead) (read : Nat) : Option (Option BrowserAuthSessionState) :=
  match s.session.reads[read]? with
  | some (.returned state) => some state
  | _ => none

def step (s : StatusRead) : Event → Option StatusRead
  | .session event => (s.session.step config.browserAuthSession event).map s.observe
  | .readStatus request guard clock =>
    match s.stage with
    | .idle => some (s.readStatus config request guard clock)
    | _ => none
  | .select guards now clock =>
    match s.stage with
    | .selecting read => (s.returned read).map fun state => s.select config state guards now clock
    | _ => none
  | .readToken clock =>
    match s.stage with
    | .token read => (s.returned read).map fun _ => s.readToken config clock
    | _ => none
  | .provide guard now =>
    match s.stage with
    | .provided token => some (s.provide config token guard now)
    | _ => none
  | .dispatch guard now =>
    match s.stage with
    | .authorized token => some (s.dispatch config token guard now)
    | _ => none
  | .reply answer guard now =>
    match s.stage with
    | .requested => some (s.reply config answer guard now)
    | _ => none
  | .body payload guard now =>
    match s.stage with
    | .reading status => some (s.body config status payload guard now)
    | _ => none
  | .deliver guard now =>
    match s.stage with
    | .received value => some (s.deliver config value guard now)
    | _ => none
  | .caught =>
    match s.stage with
    | .failing failure => some (s.caught failure)
    | _ => none
  | .abort reason => if s.signal.isSome then none else some (s.abort reason)
  | .timeout =>
    if s.stage.inClient then some { s with lifetime := s.lifetime.or (some timeoutError) }
    else none
  | .interrupt => s.interrupt

end StatusRead

end FormspecWeb.Status
