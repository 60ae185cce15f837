import FormspecWeb.Shared.Text
import FormspecWeb.Shared.Value
import FormspecWeb.Async.Steps
import Mathlib.Algebra.Order.Ring.Rat

/-!
# The OIDC browser session

One owner of the sign-in: the driver's events, passive reads of its user, and one mutation at a
time. Every call runs up to its next wait, and what follows the wait is an event of its own, so that
calls interleave in any order; what the driver and the clock answer comes with the event. A listener
acts in a step of its own.
-/

namespace FormspecWeb.Identity

open Shared

structure OidcUserLike where
  /-- None where it is not a string; so is the hint. -/
  accessToken : Option String
  idToken : Option String
  profile : Value
  /-- `expires_at * 1000`; none where `expires_at` or the product is no finite number. -/
  expiresMs : Option Rat

namespace OidcUserLike

def sub (user : OidcUserLike) : Option String := (user.profile.get? "sub").bind Value.text?

def iss (user : OidcUserLike) : Option String := (user.profile.get? "iss").bind Value.text?

end OidcUserLike

structure BrowserAuthSessionState where
  issuer : String
  subject : String
  expiresAt : String
  revision : Nat
deriving DecidableEq

inductive BrowserAuthSessionErrorCode where
  | capabilityUnavailable
  | invalidSession
  | operationCancelled
  | providerError
deriving DecidableEq

/-- The members a driver has beside `getUser`. -/
structure OidcClientDriver where
  signinSilent : Bool
  signinRedirect : Bool
  signinRedirectCallback : Bool
  signinSilentCallback : Bool
  signoutRedirect : Bool
  removeUser : Bool

structure OidcBrowserAuthSessionConfig where
  issuer : String
  driver : OidcClientDriver
  /-- `JSON.stringify` of a snapshot. -/
  stringify : OidcUserLike → String
  /-- `new Date(ms).toISOString()`. -/
  toISOString : Rat → String

namespace OidcBrowserAuthSessionConfig

def valid (config : OidcBrowserAuthSessionConfig) (user : OidcUserLike) (now : Rat) : Bool :=
  user.sub.any hasText && user.iss == some config.issuer && user.accessToken.any hasText
    && user.expiresMs.any fun ms => ms ≤ 8640000000000000 && now < ms

def describe (config : OidcBrowserAuthSessionConfig) (user : OidcUserLike) (revision : Nat) :
    BrowserAuthSessionState where
  issuer := config.issuer
  subject := user.sub.getD ""
  expiresAt := config.toISOString (user.expiresMs.getD 0)
  revision := revision

end OidcBrowserAuthSessionConfig

/-- A state that was published, with the revision the session then had. -/
structure Publication where
  revision : Nat
  state : Option BrowserAuthSessionState
deriving DecidableEq

structure Credentials where
  user : Option OidcUserLike
  state : Option BrowserAuthSessionState
  fingerprint : Option String
  revision : Nat
  timer : Bool
  /-- Newest first. -/
  published : List Publication

namespace Credentials

variable (config : OidcBrowserAuthSessionConfig)

def opened : Credentials := ⟨none, none, none, 0, false, []⟩

def withdraw (c : Credentials) : Credentials :=
  let cleared := { c with timer := false, user := none, fingerprint := none, state := none }
  if c.state.isSome then
    { cleared with
      revision := c.revision + 1
      published := ⟨c.revision + 1, none⟩ :: c.published }
  else cleared

def userValid (c : Credentials) (now : Rat) : Bool := c.user.any (config.valid · now)

def withdrawInvalid (c : Credentials) (now : Rat) : Credentials :=
  if c.userValid config now then c else c.withdraw

/-- The user's own part of `admit`, behind the withdrawal of the old one. -/
def take (c : Credentials) (user : OidcUserLike) : Credentials where
  user := some user
  fingerprint := some (config.stringify user)
  state := some (config.describe user (c.revision + 1))
  revision := c.revision + 1
  timer := user.expiresMs.any (· != 0)
  published := ⟨c.revision + 1, some (config.describe user (c.revision + 1))⟩ :: c.published

def holds (c : Credentials) (user : OidcUserLike) : Bool :=
  c.state.isSome && c.fingerprint == some (config.stringify user)

end Credentials

/-! ## Calls under way -/

inductive ReadStage where
  | reading (epoch : Nat)
  | returned (state : Option BrowserAuthSessionState)

inductive MutationKind where
  | begin (id : Nat)
  | callback
  | silentCallback
  | renewal
deriving DecidableEq

inductive MutationStage where
  | running
  | discarding
  | removing (error : BrowserAuthSessionErrorCode)
  | failing (error : BrowserAuthSessionErrorCode)
  | passed (user : Option OidcUserLike)
  /-- It is no longer pending, and its user is still to be admitted. -/
  | landing (user : Option OidcUserLike)
  | settled (error : Option BrowserAuthSessionErrorCode)

structure Mutation where
  kind : MutationKind
  epoch : Nat
  stage : MutationStage

inductive CleaningStage where
  | draining (mutations : List Nat)
  | removing
  | settled (error : Option BrowserAuthSessionErrorCode)

inductive EndingStage where
  | cleaning (cleaning : Nat) (hint : Option String)
  | redirecting (hint : Option String)
  | settled (error : Option BrowserAuthSessionErrorCode)

inductive BeginStage where
  | waitingEnding (ending : Nat)
  | waitingCleaning (cleaning : Nat)
  | redirecting
  | settled (error : Option BrowserAuthSessionErrorCode)

inductive SessionEntry where
  | beginCalled (id : Nat)
  | beginStarted (id : Nat)
  | beginCompleted (id : Nat)
  | signedOut
  | signedOutBlocked
  | disposed
deriving DecidableEq

structure OidcBrowserAuthSession where
  credentials : Credentials
  epoch : Nat
  disposed : Bool
  blocked : Bool
  pending : List Nat
  renewing : Option Nat
  cleaning : Option Nat
  ending : Option Nat
  reads : List ReadStage
  mutations : List Mutation
  cleanings : List CleaningStage
  endings : List EndingStage
  begins : List BeginStage
  /-- Newest first. -/
  log : List SessionEntry

namespace OidcBrowserAuthSession

variable (config : OidcBrowserAuthSessionConfig)

def opened : OidcBrowserAuthSession :=
  ⟨Credentials.opened, 0, false, false, [], none, none, none, [], [], [], [], [], []⟩

def logged (s : OidcBrowserAuthSession) (entry : SessionEntry) : OidcBrowserAuthSession :=
  { s with log := entry :: s.log }

def withdraw (s : OidcBrowserAuthSession) : OidcBrowserAuthSession :=
  { s with credentials := s.credentials.withdraw }

def withdrawInvalid (s : OidcBrowserAuthSession) (now : Rat) : OidcBrowserAuthSession :=
  { s with credentials := s.credentials.withdrawInvalid config now }

/-- `assertAvailable` passes. -/
def available (s : OidcBrowserAuthSession) : Bool := !s.disposed && !s.blocked

/-- `admit(user)`, with what it returns or throws. -/
def admitUser (s : OidcBrowserAuthSession) (user : Option OidcUserLike) (now : Rat) :
    OidcBrowserAuthSession × Except BrowserAuthSessionErrorCode (Option BrowserAuthSessionState) :=
  if !s.available then (s, .error .operationCancelled)
  else
    match user.filter (config.valid · now) with
    | none => ({ s with epoch := s.epoch + 1 }.withdraw, .error .invalidSession)
    | some user =>
      if s.credentials.holds config user then (s, .ok s.credentials.state)
      else
        let credentials := s.credentials.withdraw.take config user
        ({ s with epoch := s.epoch + 1, credentials := credentials }, .ok credentials.state)

/-- `getSession()` up to the driver's answer. -/
def getSession (s : OidcBrowserAuthSession) (now : Rat) : OidcBrowserAuthSession :=
  if !s.available then { s with reads := s.reads ++ [.returned none] }
  else if s.pending ≠ [] then
    let s := s.withdrawInvalid config now
    { s with reads := s.reads ++ [.returned s.credentials.state] }
  else { s with reads := s.reads ++ [.reading s.epoch] }

def returnRead (s : OidcBrowserAuthSession) (read : Nat) (state : Option BrowserAuthSessionState) :
    OidcBrowserAuthSession :=
  { s with reads := s.reads.set read (.returned state) }

/-- The `catch` of `getSession()`. -/
def failRead (s : OidcBrowserAuthSession) (read epoch : Nat) (now : Rat) : OidcBrowserAuthSession :=
  if !s.available then s.returnRead read none
  else if epoch ≠ s.epoch && s.credentials.userValid config now then
    s.returnRead read s.credentials.state
  else s.withdraw.returnRead read none

/-- `getSession()` behind the driver's answer, none where the driver throws. -/
def readUser (s : OidcBrowserAuthSession) (read : Nat) (answer : Option (Option OidcUserLike))
    (now : Rat) : Option OidcBrowserAuthSession :=
  match s.reads[read]? with
  | some (.reading epoch) =>
    match answer with
    | none => some (s.failRead config read epoch now)
    | some user =>
      if !s.available then some (s.returnRead read none)
      else if epoch ≠ s.epoch then
        some (s.returnRead read
          (if s.credentials.userValid config now then s.credentials.state else none))
      else if user.isNone then some (s.withdraw.returnRead read none)
      else
        match s.admitUser config user now with
        | (s, .ok state) => some (s.returnRead read state)
        | (s, .error _) => some (s.failRead config read epoch now)
  | _ => none

/-- `accessToken()` behind its read, with the token it hands out. -/
def accessToken (s : OidcBrowserAuthSession) (now : Rat) : OidcBrowserAuthSession × Option String :=
  let s := s.withdrawInvalid config now
  (s, if s.credentials.state.isSome && s.available then s.credentials.user.bind OidcUserLike.accessToken
    else none)

def admittedUser (s : OidcBrowserAuthSession) (now : Rat) :
    OidcBrowserAuthSession × Option OidcUserLike :=
  if s.credentials.state.isSome && s.available && s.credentials.userValid config now then
    (s, s.credentials.user)
  else (s.withdraw, none)

def expire (s : OidcBrowserAuthSession) (now : Rat) : OidcBrowserAuthSession :=
  if s.credentials.userValid config now then s else s.withdraw

/-- `mutate(operation)` in a session that is available. -/
def mutate (s : OidcBrowserAuthSession) (kind : MutationKind) : OidcBrowserAuthSession :=
  if s.pending ≠ [] then
    { s with mutations := s.mutations ++ [⟨kind, s.epoch, .settled (some .operationCancelled)⟩] }
  else
    { s with
      mutations := s.mutations ++ [⟨kind, s.epoch, .running⟩]
      pending := s.pending ++ [s.mutations.length] }

def setStage (s : OidcBrowserAuthSession) (m : Nat) (mutation : Mutation) (stage : MutationStage) :
    OidcBrowserAuthSession :=
  { s with mutations := s.mutations.set m { mutation with stage := stage } }

def setBegin (s : OidcBrowserAuthSession) (id : Nat) (stage : BeginStage) : OidcBrowserAuthSession :=
  { s with begins := s.begins.set id stage }

/-- The `catch` of `mutate`. -/
def catchMutation (s : OidcBrowserAuthSession) (m : Nat) (mutation : Mutation)
    (error : BrowserAuthSessionErrorCode) : OidcBrowserAuthSession :=
  if mutation.epoch = s.epoch then
    { s.withdraw with blocked := true, epoch := s.epoch + 1 }.setStage m mutation
      (if config.driver.removeUser then .removing error else .failing .capabilityUnavailable)
  else s.withdraw.setStage m mutation (.failing error)

/-- The driver's operation settles; an error of the driver's own is a provider error. -/
def answerMutation (s : OidcBrowserAuthSession) (m : Nat)
    (answer : Except BrowserAuthSessionErrorCode (Option OidcUserLike)) :
    Option OidcBrowserAuthSession :=
  match s.mutations[m]? with
  | some ⟨kind, epoch, .running⟩ =>
    match answer with
    | .error error => some (s.catchMutation config m ⟨kind, epoch, .running⟩ error)
    | .ok user =>
      if epoch ≠ s.epoch || !s.available then
        if config.driver.removeUser then some (s.setStage m ⟨kind, epoch, .running⟩ .discarding)
        else some (s.catchMutation config m ⟨kind, epoch, .running⟩ .capabilityUnavailable)
      else some (s.setStage m ⟨kind, epoch, .running⟩ (.passed user))
  | _ => none

def removedByMutation (s : OidcBrowserAuthSession) (m : Nat) (removed : Bool) :
    Option OidcBrowserAuthSession :=
  match s.mutations[m]? with
  | some ⟨kind, epoch, .discarding⟩ =>
    some (s.catchMutation config m ⟨kind, epoch, .discarding⟩
      (if removed then .operationCancelled else .providerError))
  | some ⟨kind, epoch, .removing error⟩ =>
    some (s.setStage m ⟨kind, epoch, .removing error⟩
      (.failing (if removed then error else .providerError)))
  | _ => none

def settleMutation (s : OidcBrowserAuthSession) (m : Nat) : Option OidcBrowserAuthSession :=
  let freed := { s with pending := s.pending.erase m }
  match s.mutations[m]? with
  | some ⟨.begin id, epoch, .passed user⟩ =>
    some (((freed.setStage m ⟨.begin id, epoch, .passed user⟩ (.settled none)).setBegin id
      (.settled none)).logged (.beginCompleted id))
  | some ⟨.silentCallback, epoch, .passed user⟩ =>
    some (freed.setStage m ⟨.silentCallback, epoch, .passed user⟩ (.settled none))
  | some ⟨kind, epoch, .passed user⟩ =>
    some (freed.setStage m ⟨kind, epoch, .passed user⟩ (.landing user))
  | some ⟨.begin id, epoch, .failing error⟩ =>
    some ((freed.setStage m ⟨.begin id, epoch, .failing error⟩ (.settled (some error))).setBegin id
      (.settled (some error)))
  | some ⟨kind, epoch, .failing error⟩ =>
    some (freed.setStage m ⟨kind, epoch, .failing error⟩ (.settled (some error)))
  | _ => none

/-- `this.admit(user)` behind a mutation. -/
def land (s : OidcBrowserAuthSession) (m : Nat) (now : Rat) : Option OidcBrowserAuthSession :=
  match s.mutations[m]? with
  | some ⟨kind, epoch, .landing user⟩ =>
    match s.admitUser config user now with
    | (s, .ok _) => some (s.setStage m ⟨kind, epoch, .landing user⟩ (.settled none))
    | (s, .error error) =>
      some (s.setStage m ⟨kind, epoch, .landing user⟩ (.settled (some error)))
  | _ => none

def completeCallback (s : OidcBrowserAuthSession) : OidcBrowserAuthSession :=
  if s.available && config.driver.signinRedirectCallback then s.mutate .callback else s

def completeSilentCallback (s : OidcBrowserAuthSession) : OidcBrowserAuthSession :=
  if s.available && config.driver.signinSilentCallback then s.mutate .silentCallback else s

def renew (s : OidcBrowserAuthSession) : OidcBrowserAuthSession :=
  if s.renewing.isSome then s
  else if s.available && config.driver.signinSilent then
    { s.mutate .renewal with renewing := some s.mutations.length }
  else s

/-- The `finally` of `renew()`. -/
def finishRenewal (s : OidcBrowserAuthSession) : Option OidcBrowserAuthSession :=
  match s.renewing.bind (s.mutations[·]?) with
  | some ⟨_, _, .settled _⟩ => some { s with renewing := none }
  | _ => none

def cleanup (s : OidcBrowserAuthSession) : OidcBrowserAuthSession :=
  if s.cleaning.isSome then s
  else
    { s.withdraw with
      blocked := true
      epoch := s.epoch + 1
      cleaning := some s.cleanings.length
      cleanings := s.cleanings ++ [.draining s.pending] }

def settleCleaning (s : OidcBrowserAuthSession) (k : Nat)
    (error : Option BrowserAuthSessionErrorCode) : OidcBrowserAuthSession :=
  { s with cleaning := none, cleanings := s.cleanings.set k (.settled error) }

def drain (s : OidcBrowserAuthSession) (k : Nat) : Option OidcBrowserAuthSession :=
  match s.cleanings[k]? with
  | some (.draining mutations) =>
    if mutations.any (s.pending.contains ·) then none
    else if config.driver.removeUser then
      some { s with cleanings := s.cleanings.set k .removing }
    else some (s.settleCleaning k (some .capabilityUnavailable))
  | _ => none

def finishCleaning (s : OidcBrowserAuthSession) (k : Nat) (removed : Bool) :
    Option OidcBrowserAuthSession :=
  match s.cleanings[k]? with
  | some .removing => some (s.settleCleaning k (if removed then none else some .providerError))
  | _ => none

/-- `logout()` up to its cleanup. -/
def logout (s : OidcBrowserAuthSession) : OidcBrowserAuthSession :=
  if s.disposed then s
  else
    let s := s.logged .signedOut
    if s.ending.isSome then s
    else
      let hint := s.credentials.user.bind OidcUserLike.idToken
      let s := s.cleanup
      { s with
        ending := some s.endings.length
        endings := s.endings ++ [.cleaning (s.cleaning.getD 0) hint] }

def settleEnding (s : OidcBrowserAuthSession) (e : Nat)
    (error : Option BrowserAuthSessionErrorCode) : OidcBrowserAuthSession :=
  { s with ending := none, endings := s.endings.set e (.settled error) }

/-- `logout()` behind its cleanup. -/
def redirectEnding (s : OidcBrowserAuthSession) (e : Nat) : Option OidcBrowserAuthSession :=
  match s.endings[e]? with
  | some (.cleaning k hint) =>
    match s.cleanings[k]? with
    | some (.settled (some error)) => some (s.settleEnding e (some error))
    | some (.settled none) =>
      if config.driver.signoutRedirect then
        some { s with endings := s.endings.set e (.redirecting hint) }
      else some (s.settleEnding e (some .capabilityUnavailable))
    | _ => none
  | _ => none

def finishEnding (s : OidcBrowserAuthSession) (e : Nat) (redirected : Bool) :
    Option OidcBrowserAuthSession :=
  match s.endings[e]? with
  | some (.redirecting _) =>
    some (s.settleEnding e (if redirected then none else some .providerError))
  | _ => none

/-- `completeLogoutCallback(url)` up to its cleanup, behind which it only calls the driver. -/
def completeLogoutCallback (s : OidcBrowserAuthSession) : OidcBrowserAuthSession :=
  if s.disposed then s else (s.logged .signedOut).cleanup

def dispose (s : OidcBrowserAuthSession) : OidcBrowserAuthSession :=
  if s.disposed then s
  else { s.withdraw with disposed := true, blocked := true, epoch := s.epoch + 1 }.logged .disposed

/-- `begin()` behind its waits. -/
def startBegin (s : OidcBrowserAuthSession) (id : Nat) : OidcBrowserAuthSession :=
  if s.disposed then s.setBegin id (.settled (some .operationCancelled))
  else
    let s := { s with blocked := false }.logged (.beginStarted id)
    if !config.driver.signinRedirect then s.setBegin id (.settled (some .capabilityUnavailable))
    else
      (s.mutate (.begin id)).setBegin id
        (if s.pending = [] then .redirecting else .settled (some .operationCancelled))

/-- The cleaning `begin()` waits for behind the ending. -/
def awaitCleaning (s : OidcBrowserAuthSession) (id : Nat) : OidcBrowserAuthSession :=
  match s.cleaning with
  | some k => s.setBegin id (.waitingCleaning k)
  | none => s.startBegin config id

def enterBegin (s : OidcBrowserAuthSession) : OidcBrowserAuthSession :=
  { s with begins := s.begins ++ [BeginStage.redirecting] }.logged (.beginCalled s.begins.length)

def begin (s : OidcBrowserAuthSession) : OidcBrowserAuthSession :=
  match s.ending with
  | some e => s.enterBegin.setBegin s.begins.length (.waitingEnding e)
  | none => s.enterBegin.awaitCleaning config s.begins.length

/-- `begin()` goes on where what it waits for has settled. -/
def goOnBegin (s : OidcBrowserAuthSession) (id : Nat) : Option OidcBrowserAuthSession :=
  match s.begins[id]? with
  | some (.waitingEnding e) =>
    match s.endings[e]? with
    | some (.settled none) => some (s.awaitCleaning config id)
    | some (.settled (some error)) => some (s.setBegin id (.settled (some error)))
    | _ => none
  | some (.waitingCleaning k) =>
    match s.cleanings[k]? with
    | some (.settled none) => some (s.startBegin config id)
    | some (.settled (some error)) => some (s.setBegin id (.settled (some error)))
    | _ => none
  | _ => none

/-- `event.type === 'loaded'`. -/
def loaded (s : OidcBrowserAuthSession) (user : OidcUserLike) (now : Rat) : OidcBrowserAuthSession :=
  if !s.available || s.pending ≠ [] then s
  else
    match s.admitUser config (some user) now with
    | (s, .ok _) => s
    | (s, .error _) => s.withdraw

/-- `event.type === 'expired'`. -/
def expired (s : OidcBrowserAuthSession) : OidcBrowserAuthSession :=
  if s.available then s.withdraw else s

def signedOut (s : OidcBrowserAuthSession) : OidcBrowserAuthSession :=
  if s.available then (s.logged .signedOut).cleanup else s.logged .signedOutBlocked

inductive Event where
  | loaded (user : OidcUserLike) (now : Rat)
  | expired
  | signedOut
  | getSession (now : Rat)
  | readUser (read : Nat) (answer : Option (Option OidcUserLike)) (now : Rat)
  | accessToken (read : Nat) (now : Rat)
  | admittedUser (now : Rat)
  | expire (now : Rat)
  | begin
  | goOnBegin (id : Nat)
  | completeCallback
  | completeSilentCallback
  | renew
  | answerMutation (m : Nat) (answer : Except BrowserAuthSessionErrorCode (Option OidcUserLike))
  | removedByMutation (m : Nat) (removed : Bool)
  | settleMutation (m : Nat)
  | land (m : Nat) (now : Rat)
  | finishRenewal
  | logout
  | completeLogoutCallback
  | drain (k : Nat)
  | finishCleaning (k : Nat) (removed : Bool)
  | redirectEnding (e : Nat)
  | finishEnding (e : Nat) (redirected : Bool)
  | dispose

def Event.now? : Event → Option Rat
  | loaded _ now | getSession now | readUser _ _ now | accessToken _ now | admittedUser now
  | expire now | land _ now => some now
  | _ => none

def step (s : OidcBrowserAuthSession) : Event → Option OidcBrowserAuthSession
  | .loaded user now => some (s.loaded config user now)
  | .expired => some s.expired
  | .signedOut => some s.signedOut
  | .getSession now => some (s.getSession config now)
  | .readUser read answer now => s.readUser config read answer now
  | .accessToken read now =>
    match s.reads[read]? with
    | some (.returned _) => some (s.accessToken config now).1
    | _ => none
  | .admittedUser now => some (s.admittedUser config now).1
  | .expire now => if s.credentials.timer then some (s.expire config now) else none
  | .begin => some (s.begin config)
  | .goOnBegin id => s.goOnBegin config id
  | .completeCallback => some (s.completeCallback config)
  | .completeSilentCallback => some (s.completeSilentCallback config)
  | .renew => some (s.renew config)
  | .answerMutation m answer => s.answerMutation config m answer
  | .removedByMutation m removed => s.removedByMutation config m removed
  | .settleMutation m => s.settleMutation m
  | .land m now => s.land config m now
  | .finishRenewal => s.finishRenewal
  | .logout => some s.logout
  | .completeLogoutCallback => some s.completeLogoutCallback
  | .drain k => s.drain config k
  | .finishCleaning k removed => s.finishCleaning k removed
  | .redirectEnding e => s.redirectEnding config e
  | .finishEnding e redirected => s.finishEnding e redirected
  | .dispose => some s.dispose

end OidcBrowserAuthSession

end FormspecWeb.Identity
