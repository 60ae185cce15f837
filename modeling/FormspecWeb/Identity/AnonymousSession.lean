import FormspecWeb.Shared.Text
import FormspecWeb.Shared.Value
import FormspecWeb.Async.Steps
import Mathlib.Data.List.Basic
import Mathlib.Logic.Function.Basic

/-!
# The anonymous session bridge

One anonymous owner per form: a call takes the session its form has, joins the request in flight,
or issues one. A call, a request and a clear are sequences of steps that interleave in any order;
what the server, the storage and the clock answer in a step comes with the event. All state of the
bridge is kept by form.
-/

namespace FormspecWeb.Identity

open Shared

structure AnonymousSession where
  sessionId : String
  sessionToken : String
  subjectRef : String
  formId : String
  expiresAt : String
deriving DecidableEq

def expirySkewMs : Int := 60000

structure AnonymousForm where
  formId : String
  /-- `Date.parse`, in milliseconds. -/
  dateParse : String → Option Int
  /-- There is a `resumeMetadata` store. -/
  persists : Bool

namespace AnonymousForm

def isAnonymousSubject (subjectRef : String) : Bool :=
  subjectRef.startsWith "anon:" && 5 < subjectRef.length

def text (value : Value) (key : String) : Option String := (value.get? key).bind Value.text?

/-- `isSession(value, formId)`, with the session it narrows to. -/
def isSession (form : AnonymousForm) (value : Value) : Option AnonymousSession := do
  if !value.isPlainObject then none
  let sessionId ← (text value "sessionId").filter hasText
  let sessionToken ← (text value "sessionToken").filter hasText
  let subjectRef ← (text value "subjectRef").filter isAnonymousSubject
  let formId ← (text value "formId").filter (· == form.formId)
  let expiresAt ← (text value "expiresAt").filter fun date => (form.dateParse date).isSome
  return ⟨sessionId, sessionToken, subjectRef, formId, expiresAt⟩

def stored (session : AnonymousSession) : Value :=
  .object [("sessionId", .string session.sessionId), ("sessionToken", .string session.sessionToken),
    ("subjectRef", .string session.subjectRef), ("formId", .string session.formId),
    ("expiresAt", .string session.expiresAt)]

def expiresSoon (form : AnonymousForm) (expiresAt : String) (now : Int) : Bool :=
  match form.dateParse expiresAt with
  | none => true
  | some expires => expires - now ≤ expirySkewMs

/-- `typeof value === 'object'`, and not null. -/
def isObject : Value → Bool
  | .object _ | .array _ => true
  | _ => false

/-- `issueSession(formId)` behind the server's reply. -/
def issueSession (form : AnonymousForm) (view : Value) (now : Int) : Except String AnonymousSession :=
  if !isObject view then .error "Anonymous session response is invalid"
  else
    match (text view "session_id").filter hasText with
    | none => .error "Anonymous session response is missing its server-issued session ID"
    | some sessionId =>
      let session : Option AnonymousSession := do
        let sessionToken ← (text view "session_token").filter hasText
        let subjectRef ← (text view "subject_ref").filter isAnonymousSubject
        let formId ← (text view "form_id").filter (· == form.formId)
        let expiresAt ← text view "expires_at"
        let expires ← form.dateParse expiresAt
        if expires ≤ now then none
        return ⟨sessionId, sessionToken, subjectRef, formId, expiresAt⟩
      match session with
      | none => .error "Anonymous session response has invalid authentication or form binding"
      | some session => .ok session

end AnonymousForm

/-- A session with the request that issued it; one that was stored before the bridge has none. -/
structure Issued where
  session : AnonymousSession
  origin : Option Nat
deriving DecidableEq

structure StoredGrant where
  value : Value
  origin : Option Nat

structure SessionSlot where
  session : Option Issued
  inFlight : Option Nat

structure IssueRequest where
  generation : Nat
  result : Option (Except String Issued)

inductive CallStage where
  | validating (generation : Nat) (requireExisting : Bool)
  | issuing (slot request : Nat)
  | joined (request : Nat)
  | ended

inductive ClearStage where
  | waiting (request : Nat) (preserveGrant : Bool)
  | ended

inductive BridgeEntry where
  | called (call : Nat)
  | returned (call : Nat) (issued : Issued)
  | refused (call : Nat) (message : String)
  | issued (request : Nat)
  | settled (request : Nat)
  | persisted (request : Nat)
  | clearCalled (clear : Nat)
  | clearResolved (clear : Nat) (preserveGrant : Bool)
  | clearFailed (clear : Nat)
deriving DecidableEq

def BridgeEntry.isClear : BridgeEntry → Bool
  | clearCalled _ | clearResolved _ _ | clearFailed _ => true
  | _ => false

/-- A clear resolved that did not preserve the grant. -/
def BridgeEntry.removesGrant : BridgeEntry → Bool
  | clearResolved _ false => true
  | _ => false

structure FormSessions where
  generation : Nat
  grant : Option StoredGrant
  /-- The slot `sessions` has for the form. -/
  slot : Option Nat
  slots : List SessionSlot
  requests : List IssueRequest
  calls : List CallStage
  clears : List ClearStage
  /-- Newest first. -/
  log : List BridgeEntry

namespace FormSessions

def opened (grant : Option Value) : FormSessions :=
  ⟨0, grant.map fun value => ⟨value, none⟩, none, [], [], [], [], []⟩

def logged (s : FormSessions) (entry : BridgeEntry) : FormSessions := { s with log := entry :: s.log }

/-- `sessionForForm(formUrl, version, requireExisting)` up to its validation. -/
def sessionForForm (s : FormSessions) (requireExisting : Bool) : FormSessions :=
  { s with calls := s.calls ++ [CallStage.validating s.generation requireExisting] }.logged
    (.called s.calls.length)

def endCall (s : FormSessions) (call : Nat) (entry : BridgeEntry) : FormSessions :=
  { s with calls := s.calls.set call .ended }.logged entry

def refuse (s : FormSessions) (call : Nat) (message : String) : FormSessions :=
  s.endCall call (.refused call message)

structure LookReadings where
  /-- `validateFormContext` passes. -/
  validated : Bool
  reads : Bool
  now : Int

def clearedMessage : String := "Anonymous session context was cleared"

/-- The slot of the form, made from the stored grant where there is none. -/
def openSlot (form : AnonymousForm) (s : FormSessions) (reads : Bool) :
    Except String (FormSessions × Nat × SessionSlot) :=
  match s.slot with
  | some i => .ok (s, i, (s.slots[i]?).getD ⟨none, none⟩)
  | none =>
    let create (session : Option Issued) : FormSessions × Nat × SessionSlot :=
      ({ s with slot := some s.slots.length, slots := s.slots ++ [SessionSlot.mk session none] },
        s.slots.length, ⟨session, none⟩)
    if !form.persists then .ok (create none)
    else if !reads then .error "Tab scoped-metadata storage is unavailable or invalid"
    else
      match s.grant with
      | none => .ok (create none)
      | some saved =>
        match form.isSession saved.value with
        | none => .error "Stored anonymous grant is invalid or bound to another form"
        | some session => .ok (create (some ⟨session, saved.origin⟩))

def renewalMessage : String :=
  "Anonymous session is nearing expiration; renewal is required to preserve the active respondent"

def noGrantMessage : String :=
  "The saved draft has no anonymous owner grant. Clear this computer before starting again."

def issue (s : FormSessions) (call slot generation : Nat) : FormSessions :=
  { s with
    requests := s.requests ++ [IssueRequest.mk generation none]
    slots := s.slots.set slot ⟨none, some s.requests.length⟩
    calls := s.calls.set call (.issuing slot s.requests.length) }.logged (.issued s.requests.length)

/-- `sessionForForm` behind its validation. -/
def look (form : AnonymousForm) (s : FormSessions) (call : Nat) (readings : LookReadings) :
    Option FormSessions :=
  match s.calls[call]? with
  | some (.validating generation requireExisting) =>
    if !readings.validated then some (s.refuse call "The form context is refused")
    else if generation ≠ s.generation then some (s.refuse call clearedMessage)
    else
      match s.openSlot form readings.reads with
      | .error message => some (s.refuse call message)
      | .ok (s, i, slot) =>
        match slot.session with
        | some issued =>
          if form.expiresSoon issued.session.expiresAt readings.now then
            some (s.refuse call renewalMessage)
          else some (s.endCall call (.returned call issued))
        | none =>
          match slot.inFlight with
          | some request => some { s with calls := s.calls.set call (.joined request) }
          | none =>
            if requireExisting then some (s.refuse call noGrantMessage)
            else some (s.issue call i generation)
  | _ => none

def issuedWhileClearedMessage : String := "Anonymous session was cleared while it was being issued"

/-- What the promise of a request settles with: the session is stored before it is returned. -/
def settlement (form : AnonymousForm) (s : FormSessions) (request : Nat) (generation : Nat)
    (reply : Except String Value) (now : Int) (writes : Bool) : Except String Issued :=
  match reply.bind fun view => form.issueSession view now with
  | .error message => .error message
  | .ok session =>
    if generation ≠ s.generation then .error issuedWhileClearedMessage
    else if form.persists && !writes then
      .error "Tab scoped-metadata storage is unavailable or invalid"
    else .ok ⟨session, some request⟩

def settle (form : AnonymousForm) (s : FormSessions) (request : Nat) (reply : Except String Value)
    (now : Int) (writes : Bool) : Option FormSessions :=
  match s.requests[request]? with
  | some ⟨generation, none⟩ =>
    let result := s.settlement form request generation reply now writes
    let s := { s with requests := s.requests.set request ⟨generation, some result⟩ }.logged
      (.settled request)
    match result with
    | .error _ => some s
    | .ok issued =>
      if form.persists then
        some ({ s with grant := some ⟨AnonymousForm.stored issued.session, issued.origin⟩ }.logged
          (.persisted request))
      else some s
  | _ => none

def settled (s : FormSessions) (request : Nat) : Option (Except String Issued) :=
  (s.requests[request]?).bind IssueRequest.result

def goOn (s : FormSessions) (call : Nat) : Option FormSessions :=
  match s.calls[call]? with
  | some (.issuing slot request) =>
    match s.settled request with
    | none => none
    | some (.error message) =>
      some ({ s with slots := s.slots.modify slot fun found => { found with inFlight := none } }.refuse
        call message)
    | some (.ok issued) =>
      some ({ s with slots := s.slots.set slot ⟨some issued, none⟩ }.endCall call
        (.returned call issued))
  | some (.joined request) =>
    match s.settled request with
    | none => none
    | some (.error message) => some (s.refuse call message)
    | some (.ok issued) => some (s.endCall call (.returned call issued))
  | _ => none

/-- `clearForForm` behind its wait. -/
def finishClear (form : AnonymousForm) (s : FormSessions) (clear : Nat) (preserveGrant removes : Bool) :
    FormSessions :=
  let s := { s with clears := s.clears.set clear .ended }
  if preserveGrant then s.logged (.clearResolved clear true)
  else if form.persists && !removes then s.logged (.clearFailed clear)
  else { s with grant := none, slot := none }.logged (.clearResolved clear false)

def inFlight (s : FormSessions) : Option Nat :=
  (s.slot.bind fun i => s.slots[i]?).bind SessionSlot.inFlight

/-- `clearForForm(formUrl, version, options)`; it waits where a request is in flight. -/
def clearForForm (form : AnonymousForm) (s : FormSessions) (preserveGrant removes : Bool) :
    FormSessions :=
  let clear := s.clears.length
  let s := { s with generation := s.generation + 1 }.logged (.clearCalled clear)
  match s.inFlight with
  | some request => { s with clears := s.clears ++ [ClearStage.waiting request preserveGrant] }
  | none => { s with clears := s.clears ++ [ClearStage.ended] }.finishClear form clear preserveGrant removes

def goOnClear (form : AnonymousForm) (s : FormSessions) (clear : Nat) (removes : Bool) :
    Option FormSessions :=
  match s.clears[clear]? with
  | some (.waiting request preserveGrant) =>
    if (s.settled request).isSome then some (s.finishClear form clear preserveGrant removes) else none
  | _ => none

inductive Event where
  | sessionForForm (requireExisting : Bool)
  | look (call : Nat) (readings : LookReadings)
  | settle (request : Nat) (reply : Except String Value) (now : Int) (writes : Bool)
  | goOn (call : Nat)
  | clearForForm (preserveGrant removes : Bool)
  | goOnClear (clear : Nat) (removes : Bool)

def step (form : AnonymousForm) (s : FormSessions) : Event → Option FormSessions
  | .sessionForForm requireExisting => some (s.sessionForForm requireExisting)
  | .look call readings => s.look form call readings
  | .settle request reply now writes => s.settle form request reply now writes
  | .goOn call => s.goOn call
  | .clearForForm preserveGrant removes => some (s.clearForForm form preserveGrant removes)
  | .goOnClear clear removes => s.goOnClear form clear removes

end FormSessions

structure AnonymousSessionBridgeConfig where
  /-- It may throw. -/
  formIdResolver : String → Option String → Except String String
  dateParse : String → Option Int
  persists : Bool

def AnonymousSessionBridgeConfig.form (config : AnonymousSessionBridgeConfig) (formId : String) :
    AnonymousForm :=
  ⟨formId, config.dateParse, config.persists⟩

abbrev AnonymousSessionBridge := String → FormSessions

namespace AnonymousSessionBridge

def opened (grants : String → Option Value) : AnonymousSessionBridge :=
  fun formId => .opened (grants formId)

structure Event where
  formUrl : String
  version : Option String
  act : FormSessions.Event

def step (config : AnonymousSessionBridgeConfig) (s : AnonymousSessionBridge) (event : Event) :
    Option AnonymousSessionBridge :=
  match config.formIdResolver event.formUrl event.version with
  -- The call rejects with what the resolver threw, before it touches any form.
  | .error _ => some s
  | .ok formId => ((s formId).step (config.form formId) event.act).map (Function.update s formId)

end AnonymousSessionBridge

end FormspecWeb.Identity
