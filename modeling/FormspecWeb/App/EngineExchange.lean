import FormspecWeb.Async.Steps

/-!
# Exchanging the engine of a mounted form

A native host builds a replacement of the engine that a mounted form renders, and asks the runtime of
the form to exchange the two. The runtime adopts the replacement, renders it, and commits or rolls
back in a layout effect; then the host binds its lease to it. Loads, clearings and unmounts go on
meanwhile.
-/

namespace FormspecWeb.App.EngineExchange

/-- An `IFormEngine`, by the number of engines created before it. -/
abbrev EngineId := Nat

inductive DisposalCause where
  /-- `applyReadyState`. -/
  | reloaded
  | unmounted
  /-- `disposeActiveEngine`. -/
  | cleared
  | exchanged (install : Nat)
  | rolledBack
  /-- `replacement.dispose`. -/
  | withdrawn
  | discarded
deriving DecidableEq

structure EngineLedger where
  created : Nat
  /-- Newest first. -/
  disposals : List (EngineId × DisposalCause)

namespace EngineLedger

def create (ledger : EngineLedger) : EngineLedger := { ledger with created := ledger.created + 1 }

def dispose (ledger : EngineLedger) (engine : EngineId) (cause : DisposalCause) : EngineLedger :=
  { ledger with disposals := (engine, cause) :: ledger.disposals }

/-- `engine?.dispose()`. -/
def disposeAny (ledger : EngineLedger) (engine : Option EngineId) (cause : DisposalCause) : EngineLedger :=
  engine.elim ledger fun engine => ledger.dispose engine cause

end EngineLedger

/-! ## The leases of the host -/

/-- A form lease of the host. Its `exchange` is the `exchangeEngine` of one load. -/
structure Lease where
  active : Bool
  leasedEngine : EngineId
  boot : Nat
  sequence : Nat
deriving DecidableEq

structure HostLeases where
  leases : List Lease
  rendererLease : Option Nat
  rendererEngine : Option EngineId

namespace HostLeases

def released (host : HostLeases) (lease : Lease) : Option EngineId :=
  if host.rendererEngine = some lease.leasedEngine then none else host.rendererEngine

/-- `invalidate()` of a lease. -/
def invalidate (host : HostLeases) (l : Nat) : HostLeases :=
  match host.leases[l]? with
  | some lease =>
    if lease.active then
      { host with
        leases := host.leases.set l { lease with active := false }
        rendererEngine := host.released lease }
    else host
  | none => host

/-- `dispose()` of a lease. That the host then retires its installations is an event of its own. -/
def dispose (host : HostLeases) (l : Nat) : HostLeases :=
  match host.leases[l]? with
  | some lease =>
    { leases := host.leases.set l { lease with active := false }
      rendererLease := if host.rendererLease = some l then none else host.rendererLease
      rendererEngine := host.released lease }
  | none => host

/-- `disposeOwnedRuntime()`. -/
def disposeAny (host : HostLeases) (ownedRuntime : Option Nat) : HostLeases :=
  ownedRuntime.elim host host.dispose

/-- `ownedRuntime?.invalidate()`. -/
def invalidateAny (host : HostLeases) (ownedRuntime : Option Nat) : HostLeases :=
  ownedRuntime.elim host host.invalidate

/-- The end of `configureRuntime`. -/
def grant (host : HostLeases) (engine : EngineId) (boot sequence : Nat) : HostLeases :=
  { host with
    leases := host.leases ++ [⟨true, engine, boot, sequence⟩]
    rendererLease := some host.leases.length }

def rebind (host : HostLeases) (l : Nat) (engine : EngineId) : HostLeases :=
  match host.leases[l]? with
  | some lease =>
    { host with
      leases := host.leases.set l { lease with leasedEngine := engine }
      rendererEngine := some engine }
  | none => host

def holds (host : HostLeases) (l : Nat) : Bool :=
  host.rendererLease == some l && host.leases[l]?.any (·.active)

end HostLeases

inductive InstallStage where
  /-- `replaceNativeFormEngine` is awaited. -/
  | building
  | replaced
  | refused
  | exchanging
  | installed
  | failed
deriving DecidableEq

/-- A call of `installFacts`, with its replacement. -/
structure Install where
  lease : Nat
  expected : EngineId
  engine : EngineId
  disposed : Bool
  adopted : Bool
  aborted : Bool
  /-- The guard of the host passes, its lease and the signal apart. -/
  current : Bool
  /-- `facts.assertCurrent` passes. -/
  factsCurrent : Bool
  stage : InstallStage
deriving DecidableEq

/-- `assertCurrent(); facts.assertCurrent()`. -/
def Install.holds (install : Install) (host : HostLeases) : Bool :=
  !install.aborted && install.current && install.factsCurrent && host.holds install.lease

/-! ## The respondent controller -/

/-- A state that is ready names its engine and its owned runtime, which is a lease of the host. -/
inductive RespondentState where
  | loading
  | authRequired
  | ready (engine : EngineId) (ownedRuntime : Option Nat)
  | draftConflict (engine : EngineId)
  | submitted
  | terminalCleared
  | error
deriving DecidableEq

namespace RespondentState

def engine? : RespondentState → Option EngineId
  | .ready engine _ => some engine
  | .draftConflict engine => some engine
  | _ => none

def ownedRuntime? : RespondentState → Option Nat
  | .ready _ ownedRuntime => ownedRuntime
  | _ => none

/-- `status === 'ready' && engine === …`. -/
def isReadyWith (state : RespondentState) (engine : EngineId) : Bool :=
  match state with
  | .ready found _ => found == engine
  | _ => false

/-- `{ ...previous, engine }` of a state that is ready with the other; else the state is returned. -/
def exchanged (expected engine : EngineId) : RespondentState → Option RespondentState
  | .ready found ownedRuntime => if found = expected then some (.ready engine ownedRuntime) else none
  | _ => none

/-- `{ ...current, claim }`, and the other updates of a state that is ready. -/
def updated : RespondentState → Option RespondentState
  | .ready engine ownedRuntime => some (.ready engine ownedRuntime)
  | _ => none

end RespondentState

structure Bootstrap where
  cancelled : Bool
  engine : Option EngineId
  ownedRuntime : Option Nat
  reloadSequence : Nat
deriving DecidableEq

def Bootstrap.begun : Bootstrap := ⟨false, none, none, 0⟩

/-- A call of `applyReadyState` from its load on, with what `createReadyState` has made. -/
structure Load where
  boot : Nat
  sequence : Nat
  engine : Option EngineId
  ownedRuntime : Option Nat
  waits : Bool
deriving DecidableEq

def Load.begun (boot sequence : Nat) : Load := ⟨boot, sequence, none, none, true⟩

/-- How `createReadyState` ends. -/
inductive LoadOutcome where
  | ready
  | draftConflict
  | authRequired
  | submitted
  | failed
deriving DecidableEq

/-- A form is ready or in conflict with an engine; the others end before one is created. -/
def Load.result (load : Load) : LoadOutcome → Option RespondentState
  | .ready => load.engine.map fun engine => .ready engine load.ownedRuntime
  | .draftConflict => if load.ownedRuntime.isNone then load.engine.map .draftConflict else none
  | .authRequired => if load.engine.isNone then some .authRequired else none
  | .submitted => if load.engine.isNone then some .submitted else none
  | .failed => some .error

inductive Clearing where
  /-- `handleStartCurrent`. -/
  | restart
  /-- `handleClearTerminal`. -/
  | terminal
deriving DecidableEq

structure ClearingCall where
  clearing : Clearing
  invalidated : Option Nat
  waits : Bool
deriving DecidableEq

/-- `pendingExchange.current`, with the load whose `exchangeEngine` it is of. -/
structure PendingExchange where
  install : Nat
  expected : EngineId
  engine : EngineId
  boot : Nat
  sequence : Nat
  rollback : Bool
deriving DecidableEq

inductive Settlement where
  | committed
  | rejected
deriving DecidableEq

structure MountedForm where
  ledger : EngineLedger
  mounted : Bool
  boots : List Bootstrap
  loads : List Load
  /-- The identity changes that await `invalidateSubject`, each of a bootstrap. -/
  invalidations : List (Option Nat)
  clearings : List ClearingCall
  /-- `respondentState`. -/
  rendered : RespondentState
  queued : RespondentState
  changed : Bool
  /-- `bootRevision` was counted up since the last run of the bootstrap effect. -/
  bootDue : Bool
  pendingExchange : Option PendingExchange
  host : HostLeases
  /-- The lease and the engine each qualification has captured. -/
  qualifications : List (Nat × EngineId)
  installs : List Install
  /-- How exchanges were settled, newest first. -/
  settlements : List (Nat × Settlement)

namespace MountedForm

def opened : MountedForm where
  ledger := ⟨0, []⟩
  mounted := true
  boots := [.begun]
  loads := []
  invalidations := []
  clearings := []
  rendered := .loading
  queued := .loading
  changed := true
  bootDue := false
  pendingExchange := none
  host := ⟨[], none, none⟩
  qualifications := []
  installs := []
  settlements := []

def setRespondentState (s : MountedForm) (state : RespondentState) : MountedForm :=
  { s with queued := state, changed := true }

/-- `setRespondentState` of a function. Where it returns the state as it is, nothing is rendered. -/
def update (s : MountedForm) (f : RespondentState → Option RespondentState) : MountedForm :=
  (f s.queued).elim s s.setRespondentState

def release (s : MountedForm) (b : Nat) (boot : Bootstrap) (reloadSequence : Nat) (cause : DisposalCause) :
    MountedForm :=
  { s with
    host := s.host.disposeAny boot.ownedRuntime
    ledger := s.ledger.disposeAny boot.engine cause
    boots := s.boots.set b { boot with engine := none, ownedRuntime := none, reloadSequence } }

/-- `applyReadyState` up to its load. -/
def applyReadyState (s : MountedForm) (b : Nat) (boot : Bootstrap) : MountedForm :=
  let invalidated := { s with host := s.host.invalidateAny boot.ownedRuntime }
  let released := invalidated.release b boot (boot.reloadSequence + 1) .reloaded
  { released with
    loads := s.loads ++ [Load.begun b (boot.reloadSequence + 1)] }.setRespondentState .loading

/-- `applyReadyState` of a bootstrap that was not cleaned up. -/
def reload (s : MountedForm) (b : Nat) : Option MountedForm := do
  let boot ← s.boots[b]?
  if boot.cancelled then none else return s.applyReadyState b boot

/-- An identity change has the drafts of its subject invalidated before it reloads. -/
def identityChanged (s : MountedForm) (b : Nat) : Option MountedForm := do
  let boot ← s.boots[b]?
  if boot.cancelled then none else return { s with invalidations := s.invalidations ++ [some b] }

/-- `invalidateSubject` resolves, or rejects. -/
def invalidated (s : MountedForm) (n : Nat) (resolved : Bool) : Option MountedForm := do
  let b ← (← s.invalidations[n]?)
  let boot ← s.boots[b]?
  let done := { s with invalidations := s.invalidations.set n none }
  return if resolved then done.applyReadyState b boot
  else if boot.cancelled then done
  else done.setRespondentState .error

def waiting (s : MountedForm) (k : Nat) : Option Load := do
  let load ← s.loads[k]?
  if load.waits then some load else none

def setLoad (s : MountedForm) (k : Nat) (load : Load) : MountedForm :=
  { s with loads := s.loads.set k load }

/-- `createFormEngine` in `createReadyState`. -/
def created (s : MountedForm) (k : Nat) : Option MountedForm := do
  let load ← s.waiting k
  if load.engine.isSome then none
  else return { s with ledger := s.ledger.create }.setLoad k { load with engine := some s.ledger.created }

/-- `configureRuntime` sets `rendererEngine`. -/
def configuring (s : MountedForm) (k : Nat) : Option MountedForm := do
  let load ← s.waiting k
  let engine ← load.engine
  if load.ownedRuntime.isSome then none
  else return { s with host := { s.host with rendererEngine := some engine } }

/-- `configureRuntime` resolves with a lease. -/
def configured (s : MountedForm) (k : Nat) : Option MountedForm := do
  let load ← s.waiting k
  let engine ← load.engine
  if load.ownedRuntime.isSome then none
  else
    let leased := { s with host := s.host.grant engine load.boot load.sequence }
    return leased.setLoad k { load with ownedRuntime := some s.host.leases.length }

def discard (s : MountedForm) (load : Load) : MountedForm :=
  { s with
    host := s.host.disposeAny load.ownedRuntime
    ledger := s.ledger.disposeAny load.engine .discarded }

def install (s : MountedForm) (load : Load) (boot : Bootstrap) (state : RespondentState) : MountedForm :=
  { s with
    host := s.host.disposeAny boot.ownedRuntime
    boots := s.boots.set load.boot { boot with engine := load.engine, ownedRuntime := load.ownedRuntime }
  }.setRespondentState state

/-- `createReadyState` ends. A failure disposes of what was made, and so does a load that was overtaken. -/
def loaded (s : MountedForm) (k : Nat) (outcome : LoadOutcome) : Option MountedForm := do
  let load ← s.waiting k
  let boot ← s.boots[load.boot]?
  let state ← load.result outcome
  let done := s.setLoad k { load with waits := false }
  return if boot.cancelled || load.sequence != boot.reloadSequence then done.discard load
  else if outcome = .failed then (done.discard load).setRespondentState state
  else done.install load boot state

/-- `handleLocaleChange` updates the state that was rendered. -/
def localeChanged (s : MountedForm) : Option MountedForm :=
  if s.mounted && s.rendered.engine?.isSome then some (s.setRespondentState s.rendered) else none

def bootFailed (s : MountedForm) (b : Nat) : Option MountedForm := do
  let boot ← s.boots[b]?
  if boot.cancelled then none else return s.setRespondentState .error

def mayClear : Clearing → RespondentState → Bool
  | .restart, .ready _ _ => true
  | .restart, .draftConflict _ => true
  | .terminal, .ready _ _ => true
  | _, _ => false

def clearRequested (s : MountedForm) (clearing : Clearing) : Option MountedForm :=
  if s.mounted && mayClear clearing s.rendered then
    some { s with
      host := s.host.invalidateAny s.rendered.ownedRuntime?
      clearings := s.clearings ++ [⟨clearing, s.rendered.ownedRuntime?, true⟩] }
  else none

/-- `disposeActiveEngine.current?.()`. -/
def disposeActiveEngine (s : MountedForm) : MountedForm :=
  match s.boots.getLast? with
  | some boot =>
    if boot.cancelled then s else s.release (s.boots.length - 1) boot boot.reloadSequence .cleared
  | none => s

def cleared (s : MountedForm) (c : Nat) (resolved : Bool) : Option MountedForm := do
  let call ← s.clearings[c]?
  if !call.waits then none
  else
    let done := { s with clearings := s.clearings.set c { call with waits := false } }
    return if !resolved then done
    else match call.clearing with
      | .restart => { done.disposeActiveEngine with bootDue := true }
      | .terminal => done.disposeActiveEngine.setRespondentState .terminalCleared

/-- `expected.dispose()` and `resolve()`, once the replacement is the engine of the bootstrap. -/
def commit (s : MountedForm) (pending : PendingExchange) (boot : Bootstrap) : MountedForm :=
  { s with
    pendingExchange := none
    boots := s.boots.set pending.boot { boot with engine := some pending.engine }
    ledger := s.ledger.dispose pending.expected (.exchanged pending.install)
    settlements := (pending.install, .committed) :: s.settlements }

/-- `request.engine.dispose()` and `reject(…)`. -/
def reject (s : MountedForm) (pending : PendingExchange) : MountedForm :=
  { s with
    pendingExchange := none
    ledger := s.ledger.dispose pending.engine .rolledBack
    settlements := (pending.install, .rejected) :: s.settlements }

def Expects (boot : Bootstrap) (sequence : Nat) (expected : EngineId) : Bool :=
  !boot.cancelled && sequence == boot.reloadSequence && boot.engine == some expected

def committable (s : MountedForm) (pending : PendingExchange) : Option Bootstrap := do
  let install ← s.installs[pending.install]?
  let boot ← s.boots[pending.boot]?
  if !pending.rollback && install.holds s.host && Expects boot pending.sequence pending.expected then some boot
  else none

/-- The layout effect of `respondentState`. -/
def layoutEffect (s : MountedForm) : MountedForm :=
  match s.pendingExchange with
  | none => s
  | some pending =>
    if s.rendered.isReadyWith pending.engine then
      match s.committable pending with
      | some boot => s.commit pending boot
      | none => { s with pendingExchange := some { pending with rollback := true } }.update
          (RespondentState.exchanged pending.engine pending.expected)
    else s.reject pending

def render (s : MountedForm) : Option MountedForm :=
  if s.mounted && s.changed then some { s with rendered := s.queued, changed := false }.layoutEffect
  else none

/-- The cleanup of the bootstrap effect. The variable keeps the engine that was disposed. -/
def cleanup (s : MountedForm) (b : Nat) (boot : Bootstrap) : MountedForm :=
  let cleaned := { s with
    host := s.host.disposeAny boot.ownedRuntime
    ledger := s.ledger.disposeAny boot.engine .unmounted
    boots := s.boots.set b { boot with cancelled := true, ownedRuntime := none } }
  cleaned.pendingExchange.elim cleaned cleaned.reject

def rebooted (s : MountedForm) : Option MountedForm := do
  let boot ← s.boots.getLast?
  if !s.mounted || boot.cancelled then none
  else
    let cleaned := s.cleanup (s.boots.length - 1) boot
    return { cleaned with
      boots := cleaned.boots ++ [Bootstrap.begun]
      bootDue := false }.setRespondentState .loading

def unmount (s : MountedForm) : Option MountedForm := do
  let boot ← s.boots.getLast?
  if !s.mounted || boot.cancelled then none
  else return { s.cleanup (s.boots.length - 1) boot with mounted := false }

def setInstall (s : MountedForm) (i : Nat) (install : Install) : MountedForm :=
  { s with installs := s.installs.set i install }

def qualify (s : MountedForm) : Option MountedForm := do
  let engine ← s.host.rendererEngine
  let lease ← s.host.rendererLease
  return { s with qualifications := s.qualifications ++ [(lease, engine)] }

/-- `installFacts`, where `replaceNativeFormEngine` creates a replacement. -/
def installFacts (s : MountedForm) (q : Nat) : Option MountedForm := do
  let (lease, expected) ← s.qualifications[q]?
  if s.host.leases[lease]?.any (·.active) then
    return { s with
      ledger := s.ledger.create
      installs := s.installs
        ++ [⟨lease, expected, s.ledger.created, false, false, false, true, true, .building⟩] }
  else none

/-- `replacement.dispose()`, before the installation goes on to a stage. -/
def withdraw (s : MountedForm) (i : Nat) (install : Install) (stage : InstallStage) : MountedForm :=
  if install.disposed || install.adopted then s.setInstall i { install with stage }
  else { s with ledger := s.ledger.dispose install.engine .withdrawn }.setInstall i
    { install with disposed := true, stage }

/-- `replaceNativeFormEngine` resolves, or rejects. -/
def built (s : MountedForm) (i : Nat) (resolved : Bool) : Option MountedForm := do
  let install ← s.installs[i]?
  if install.stage ≠ .building then none
  else return if resolved && !install.aborted && install.factsCurrent && !install.disposed then
    s.setInstall i { install with stage := .replaced }
  else s.withdraw i install .failed

/-- `exchangeEngine` adopts the replacement. -/
def accepts (s : MountedForm) (install : Install) (lease : Lease) : Bool :=
  s.boots[lease.boot]?.any (Expects · lease.sequence install.expected)
    && s.pendingExchange.isNone && !install.disposed && !install.adopted

/-- `lease.exchange(…)` up to the pending exchange. -/
def exchange (s : MountedForm) (i : Nat) : Option MountedForm := do
  let install ← s.installs[i]?
  let lease ← s.host.leases[install.lease]?
  if install.stage ≠ .replaced then none
  else return if !install.holds s.host then s.withdraw i install .failed
  else if s.accepts install lease then
    let adopted := s.setInstall i { install with adopted := true, stage := .exchanging }
    { adopted with
      pendingExchange := some ⟨i, install.expected, install.engine, lease.boot, lease.sequence, false⟩
    }.update (RespondentState.exchanged install.expected install.engine)
  else s.setInstall i { install with stage := .refused }

/-- `installFacts` goes on behind the exchange. -/
def resumed (s : MountedForm) (i : Nat) : Option MountedForm := do
  let install ← s.installs[i]?
  match install.stage, s.settlements.lookup i with
  | .refused, _ => return s.withdraw i install .failed
  | .exchanging, some .rejected => return s.withdraw i install .failed
  | .exchanging, some .committed =>
    if install.holds s.host then
      let bound := { s with host := s.host.rebind install.lease install.engine }
      return bound.setInstall i { install with stage := .installed }
    else return s.withdraw i install .failed
  | _, _ => none

/-- The signal of an installation aborts. The replacement listens until it is adopted. -/
def abort (s : MountedForm) (i : Nat) : Option MountedForm := do
  let install ← s.installs[i]?
  if install.aborted then none else return s.withdraw i { install with aborted := true } install.stage

def guardsChanged (s : MountedForm) (i : Nat) (current factsCurrent : Bool) : Option MountedForm := do
  let install ← s.installs[i]?
  return s.setInstall i { install with current, factsCurrent }

inductive Event where
  | reload (boot : Nat)
  | identityChanged (boot : Nat)
  | invalidated (call : Nat) (resolved : Bool)
  | created (load : Nat)
  | configuring (load : Nat)
  | configured (load : Nat)
  | loaded (load : Nat) (outcome : LoadOutcome)
  | updated
  | localeChanged
  | signInFailed
  | bootFailed (boot : Nat)
  | clearRequested (clearing : Clearing)
  | cleared (call : Nat) (resolved : Bool)
  | render
  | rebooted
  | unmount
  | qualify
  | installFacts (qualification : Nat)
  | built (install : Nat) (resolved : Bool)
  | exchange (install : Nat)
  | resumed (install : Nat)
  | abort (install : Nat)
  | guardsChanged (install : Nat) (current factsCurrent : Bool)

def step (s : MountedForm) : Event → Option MountedForm
  | .reload boot => s.reload boot
  | .identityChanged boot => s.identityChanged boot
  | .invalidated call resolved => s.invalidated call resolved
  | .created load => s.created load
  | .configuring load => s.configuring load
  | .configured load => s.configured load
  | .loaded load outcome => s.loaded load outcome
  | .updated => some (s.update RespondentState.updated)
  | .localeChanged => s.localeChanged
  | .signInFailed => some (s.setRespondentState .authRequired)
  | .bootFailed boot => s.bootFailed boot
  | .clearRequested clearing => s.clearRequested clearing
  | .cleared call resolved => s.cleared call resolved
  | .render => s.render
  | .rebooted => s.rebooted
  | .unmount => s.unmount
  | .qualify => s.qualify
  | .installFacts qualification => s.installFacts qualification
  | .built install resolved => s.built install resolved
  | .exchange install => s.exchange install
  | .resumed install => s.resumed install
  | .abort install => s.abort install
  | .guardsChanged install current factsCurrent => s.guardsChanged install current factsCurrent

end MountedForm

end FormspecWeb.App.EngineExchange
