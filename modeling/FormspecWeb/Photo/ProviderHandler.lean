import FormspecWeb.Async.Steps
import FormspecWeb.Shared.Text
import Mathlib.Algebra.Order.Ring.Rat
import Mathlib.Algebra.GroupWithZero.Nat

/-!
# The photo provider's handler

One handler takes one request at a time. What a request waits for races with its abort, so that it
can end while its work goes on: the handler then waits for the work once more, for a grace period,
and retires itself where some is left. Requests and works are numbered as they begin; what the clock
and the host answer comes with the events.
-/

namespace FormspecWeb.Photo

open Shared

inductive DecoderResult where
  | inconclusive (reason : String)
  | unsupported (reason : String)
  | decoded (output : String)
deriving DecidableEq

structure Decoder where
  reason : Option String
  output : String

def Decoder.kill (child : Decoder) (value : String) : Decoder :=
  { child with reason := child.reason.or (some value) }

def utf16Length (text : String) : Nat :=
  (text.toList.map fun c => if c.toNat < 0x10000 then 1 else 2).sum

inductive DecoderEvent where
  | data (chunk : String)
  | timer
  | error

def Decoder.on (child : Decoder) : DecoderEvent → Decoder
  | .data chunk =>
    let child := { child with output := child.output ++ chunk }
    if 4096 < utf16Length child.output then child.kill "decoder-output-exceeded" else child
  | .timer => child.kill "deadline-exceeded"
  | .error => { child with reason := some "decoder-start-failed" }

/-- What the child's `close` resolves; none is a signal's code. -/
def Decoder.close (parses : String → Bool) (child : Decoder) (code : Option Int) : DecoderResult :=
  if child.reason.isSome || code != some 0 then
    .inconclusive (child.reason.getD "decoder-exited")
  else if parses child.output then .decoded child.output
  else .inconclusive "decoder-output-invalid"

structure RequestHead where
  method : String
  url : String
  contentType : Option String
  authorizations : Nat
  authorization : Option String
  contentLength : Option String

structure Binding where
  registrationHash : String
  callHash : String
  requestHash : String
  candidateHash : String
  photo : Bool
deriving DecidableEq

inductive BindRefusal where
  | shape
  | mismatch

def BindRefusal.status : BindRefusal → Nat
  | shape => 422
  | mismatch => 409

structure ProviderConfig (Body : Type) where
  endpointPath : String
  responseBytes : Nat
  requestBytes : Nat
  deadlineMillis : Nat
  /-- `parseDocument` and `checkJsonTree`. -/
  parseDocument : List UInt8 → Option Body
  bindRequest : Body → Rat → Except BindRefusal Binding
  /-- `JSON.parse` accepts the text. -/
  parsesJson : String → Bool

structure Receipt where
  binding : Binding
  checkedAt : Rat
  decoding : Option DecoderResult
deriving DecidableEq

/-- `/^Bearer [^\s]+$/` -/
def isBearer (value : String) : Bool :=
  let token := value.toList.drop 7
  "Bearer ".toList.isPrefixOf value.toList && !token.isEmpty && token.all (!isTrimmed ·)

variable {Body : Type}

/-- The checks of a request's head, with the status of the first that fails. -/
def checkHead (config : ProviderConfig Body) (head : RequestHead) : Except Nat Unit :=
  if head.method != "POST" || head.url != config.endpointPath
      || head.contentType != some "application/json" then .error 404
  else if head.authorizations != 1 || !head.authorization.any isBearer then .error 401
  else if head.contentLength.any fun length => length.isEmpty || !length.toList.all isAsciiDigit
      || config.requestBytes < length.toNat?.getD 0 then .error 413
  else .ok ()

/-! ## Works -/

inductive WorkKind where
  | token
  | containment
  | measure (binding : Binding)
  | receipt (receipt : Receipt)
  | recheck (receipt : Receipt)
deriving DecidableEq

def WorkKind.checksToken : WorkKind → Bool
  | token | recheck _ => true
  | containment | measure _ | receipt _ => false

inductive Settled where
  | resolved (decoding : Option DecoderResult)
  /-- With the `status` of the error. -/
  | rejected (status : Option Rat)
deriving DecidableEq

structure Work where
  request : Nat
  kind : WorkKind
  decoder : Option Decoder
  settled : Option Settled

inductive Stage where
  | waiting (work : Nat) (race : Option Settled)
  | reading (body : List UInt8)
  | draining
  | ended
deriving DecidableEq

def Stage.lose : Stage → Stage
  | .waiting work none => .waiting work (some (.rejected (some 503)))
  | stage => stage

inductive ResponseState where
  | writable
  | ended
  | destroyed
deriving DecidableEq

structure Job where
  deadline : Rat
  aborted : Bool
  response : ResponseState
  stage : Stage

inductive ProviderEntry where
  | arrived (request : Nat)
  | resolved (request : Nat) (kind : WorkKind)
  | aborted (request : Nat)
  | replied (request : Nat) (status : Nat) (call : Option (String × String))
  | retired (request : Nat)
deriving DecidableEq

structure ProviderHandler where
  occupied : Bool
  quarantined : Bool
  jobs : List Job
  works : List Work
  /-- Newest first. -/
  log : List ProviderEntry

structure Reading where
  /-- `performance.now()` in the checks of a step, one after another. -/
  now : Rat
  bound : Rat
  measured : Rat
  stored : Rat
  /-- `now()` as the body is bound, and as the receipt is made. -/
  requestedNow : Rat
  checkedAt : Rat
  spawns : Bool
  resultBytes : Nat

namespace ProviderHandler

def created : ProviderHandler := ⟨false, false, [], [], []⟩

def logged (s : ProviderHandler) (entry : ProviderEntry) : ProviderHandler :=
  { s with log := entry :: s.log }

def put (s : ProviderHandler) (request : Nat) (job : Job) : ProviderHandler :=
  { s with jobs := s.jobs.set request job }

/-- `unsettled.size` of a request is not 0. -/
def hasUnsettled (s : ProviderHandler) (request : Nat) : Bool :=
  s.works.any fun work => work.request == request && work.settled.isNone

def errorBytes (text : String) : Nat :=
  ("\x7b\"error\":\"" ++ text ++ "\"\x7d").utf8ByteSize

/-- The code Node writes for the status of a failure: `error.status ?? 503`, and `|= 0` of that, which
drops the fraction and all but 32 bits. No code below zero is written, and 0 is none either. -/
def failureStatus : Option Rat → Nat
  | none => 503
  | some status => ((status.num.tdiv status.den).bmod (2 ^ 32)).toNat

/-- `reply(status, value)`, where the value has so many bytes. -/
def reply (config : ProviderConfig Body) (s : ProviderHandler) (request : Nat) (job : Job)
    (status bytes : Nat) (call : Option (String × String)) : ProviderHandler :=
  if job.response != .writable then s.put request job
  else if config.responseBytes < bytes then
    (s.put request { job with response := .ended }).logged (.replied request 503 none)
  -- `writeHead` refuses other statuses.
  else if status < 100 || 999 < status then s.put request job
  else (s.put request { job with response := .ended }).logged (.replied request status call)

/-- The `finally` of a request that has replied. -/
def settle (s : ProviderHandler) (request : Nat) : ProviderHandler :=
  match s.jobs[request]? with
  | none => s
  | some job =>
    if s.hasUnsettled request then s.put request { job with stage := .draining }
    else { s with occupied := false }.put request { job with stage := .ended }

def fail (config : ProviderConfig Body) (s : ProviderHandler) (request : Nat) (job : Job)
    (status : Nat) : ProviderHandler :=
  (s.reply config request job status (errorBytes "provider request refused") none).settle request

def wait (s : ProviderHandler) (request : Nat) (job : Job) (kind : WorkKind)
    (decoder : Option Decoder) : ProviderHandler :=
  let work : Work := ⟨request, kind, decoder, none⟩
  { s with works := s.works ++ [work] }.put request { job with stage := .waiting s.works.length none }

/-- `check()` passes. -/
def check (job : Job) (now : Rat) : Bool := !job.aborted && decide (now < job.deadline)

def store (config : ProviderConfig Body) (s : ProviderHandler) (request : Nat) (job : Job)
    (binding : Binding) (decoding : Option DecoderResult) (reading : Reading) : ProviderHandler :=
  if !check job reading.measured || !check job reading.stored then s.fail config request job 503
  else s.wait request job (.receipt ⟨binding, reading.checkedAt, decoding⟩) none

def bind (config : ProviderConfig Body) (s : ProviderHandler) (request : Nat) (job : Job)
    (bytes : List UInt8) (reading : Reading) : ProviderHandler :=
  match config.parseDocument bytes with
  | none => s.fail config request job 422
  | some body =>
    if !check job reading.now then s.fail config request job 503
    else
      match config.bindRequest body reading.requestedNow with
      | .error refusal => s.fail config request job refusal.status
      | .ok binding =>
        if !check job reading.bound then s.fail config request job 503
        else if binding.photo then
          s.wait request job (.measure binding) (if reading.spawns then some (Decoder.mk none "") else none)
        else s.store config request job binding none reading

def proceed (config : ProviderConfig Body) (s : ProviderHandler) (request : Nat) (job : Job)
    (decoding : Option DecoderResult) (reading : Reading) : WorkKind → ProviderHandler
  | .token => s.wait request job .containment none
  | .containment => s.put request { job with stage := .reading [] }
  | .measure binding => s.store config request job binding decoding reading
  | .receipt receipt => s.wait request job (.recheck receipt) none
  | .recheck receipt =>
    (s.reply config request job 200 reading.resultBytes
      (some (receipt.binding.requestHash, receipt.binding.callHash))).settle request

def resume (config : ProviderConfig Body) (s : ProviderHandler) (request : Nat) (job : Job)
    (kind : WorkKind) (race : Settled) (reading : Reading) : ProviderHandler :=
  match race, kind with
  | .rejected _, .token => s.fail config request job (if job.aborted then 503 else 401)
  | .rejected _, .recheck _ => s.fail config request job (if job.aborted then 503 else 401)
  | .rejected status, _ => s.fail config request job (failureStatus status)
  | .resolved decoding, kind =>
    if !check job reading.now then s.fail config request job 503
    else s.proceed config request job decoding reading kind

def receive (config : ProviderConfig Body) (s : ProviderHandler) (request : Nat) (job : Job)
    (body chunk : List UInt8) (now : Rat) : ProviderHandler :=
  if config.requestBytes < (body ++ chunk).length then s.fail config request job 413
  else if !check job now then s.fail config request job 503
  else s.put request { job with stage := .reading (body ++ chunk) }

def arrive (config : ProviderConfig Body) (s : ProviderHandler) (head : RequestHead) (now : Rat)
    (response : ResponseState) : ProviderHandler :=
  let request := s.jobs.length
  let job : Job := ⟨now + config.deadlineMillis, false, response, .ended⟩
  let s := { s with jobs := s.jobs ++ [job] }.logged (.arrived request)
  if s.quarantined then
    s.reply config request job 503 (errorBytes "provider retired after unsettled cancellation") none
  else if s.occupied then s.reply config request job 429 (errorBytes "provider busy") none
  else
    let s := { s with occupied := true }
    match checkHead config head with
    | .error status => s.fail config request job status
    | .ok () => s.wait request job .token none

/-! ## What happens to a request -/

/-- `controller.abort()`: the race is lost where it is open, and a child is killed. -/
def abort (s : ProviderHandler) (request : Nat) (job : Job) : ProviderHandler :=
  if job.aborted then s
  else
    let works := s.works.map fun work =>
      if work.request = request then
        { work with decoder := work.decoder.map fun child => child.kill "cancelled" }
      else work
    ({ s with works := works }.put request { job with aborted := true, stage := job.stage.lose }).logged
      (.aborted request)

/-- The listeners of a request are there until its `finally`. -/
def listens (job : Job) : Bool :=
  match job.stage with
  | .waiting _ _ | .reading _ => true
  | .draining | .ended => false

def disconnect (s : ProviderHandler) (request : Nat) (job : Job) : ProviderHandler :=
  if job.response = .ended then s
  else
    let job := { job with response := .destroyed }
    let s := s.put request job
    if listens job then s.abort request job else s

def canSettle (work : Work) (settled : Settled) : Bool :=
  match work.kind, settled with
  | .measure _, .resolved decoding =>
    decoding == some (.unsupported "format-detector-or-codec-unavailable")
  | .measure _, .rejected status => status.isNone
  | _, .resolved decoding => decoding.isNone
  | _, .rejected _ => true

def win (s : ProviderHandler) (request number : Nat) (settled : Settled) : ProviderHandler :=
  match s.jobs[request]? with
  | none => s
  | some job =>
    if job.stage = .waiting number none then
      s.put request { job with stage := .waiting number (some settled) }
    else s

def settleWork (s : ProviderHandler) (number : Nat) (work : Work) (settled : Settled) :
    ProviderHandler :=
  let s := { s with works := s.works.set number { work with decoder := none, settled := some settled } }
  match settled with
  | .resolved _ => (s.logged (.resolved work.request work.kind)).win work.request number settled
  | .rejected _ => s.win work.request number settled

def release (s : ProviderHandler) (request : Nat) (job : Job) : ProviderHandler :=
  let t := { s with occupied := false }.put request { job with stage := .ended }
  if s.hasUnsettled request then { t with quarantined := true }.logged (.retired request) else t

inductive Event where
  | arrive (head : RequestHead) (now : Rat) (response : ResponseState)
  | settle (work : Nat) (settled : Settled)
  | decoder (work : Nat) (event : DecoderEvent)
  | close (work : Nat) (code : Option Int)
  | resume (request : Nat) (reading : Reading)
  | chunk (request : Nat) (bytes : List UInt8) (now : Rat)
  | endBody (request : Nat) (reading : Reading)
  | streamFailed (request : Nat)
  | abort (request : Nat)
  | disconnect (request : Nat)
  | drained (request : Nat)
  | grace (request : Nat)

def step (config : ProviderConfig Body) (s : ProviderHandler) : Event → Option ProviderHandler
  | .arrive head now response => some (s.arrive config head now response)
  | .settle number settled => do
      let work ← s.works[number]?
      if work.settled.isNone && work.decoder.isNone && canSettle work settled then
        some (s.settleWork number work settled)
      else none
  | .decoder number event => do
      let work ← s.works[number]?
      let child ← work.decoder
      some { s with works := s.works.set number { work with decoder := some (child.on event) } }
  | .close number code => do
      let work ← s.works[number]?
      let child ← work.decoder
      some (s.settleWork number work (.resolved (some (child.close config.parsesJson code))))
  | .resume request reading => do
      let job ← s.jobs[request]?
      match job.stage with
      | .waiting number (some race) => do
          let work ← s.works[number]?
          some (s.resume config request job work.kind race reading)
      | _ => none
  | .chunk request bytes now => do
      let job ← s.jobs[request]?
      match job.stage with
      | .reading body => some (s.receive config request job body bytes now)
      | _ => none
  | .endBody request reading => do
      let job ← s.jobs[request]?
      match job.stage with
      | .reading body => some (s.bind config request job body reading)
      | _ => none
  | .streamFailed request => do
      let job ← s.jobs[request]?
      match job.stage with
      | .reading _ => some (s.fail config request job 503)
      | _ => none
  | .abort request => do
      let job ← s.jobs[request]?
      if listens job then some (s.abort request job) else none
  | .disconnect request => do
      let job ← s.jobs[request]?
      some (s.disconnect request job)
  | .drained request => do
      let job ← s.jobs[request]?
      if job.stage = .draining && !s.hasUnsettled request then some (s.release request job) else none
  | .grace request => do
      let job ← s.jobs[request]?
      if job.stage = .draining then some (s.release request job) else none

end ProviderHandler

end FormspecWeb.Photo
