import FormspecWeb.Screener.NativeScreenerCoordinator
import Mathlib.Tactic.Linarith

/-!
# When the screener route is open

The route is open only for the last completion attempt, once it was accepted, as long as its
validity lasts and its authority is not retired. This holds in the runs in which an attempt that
fails before its operation begins finds no operation to supersede, and in which the host answers
once more after the route is set.
-/

namespace FormspecWeb.Screener

open Async

def lastAttempt : List CoordinatorEntry → Option Attempt
  | [] => none
  | .attempted attempt :: _ => some attempt
  | _ :: log => lastAttempt log

/-- The authority was not retired, nor the coordinator disposed of, since the last attempt. -/
def unrevoked : List CoordinatorEntry → Bool
  | [] => true
  | .attempted _ :: _ => true
  | .authorityRetired :: _ | .disposed :: _ => false
  | _ :: log => unrevoked log

def lastCall : List CoordinatorEntry → Option Nat
  | [] => none
  | .attempted attempt :: _ => some attempt.id
  | .called id :: _ => some id
  | .factsRetired :: _ | .authorityRetired :: _ | .disposed :: _ => none
  | _ :: log => lastCall log

/-- Fewer milliseconds have elapsed since the attempt began than `validUntil` minus `checkedAt`. -/
def WithinValidity (date : DateParse) (request : CompletionRequest) (view : ScreenerRunView)
    (started now : Rat) : Prop :=
  view.validUntil = none ∧ request.resultValidity = false
    ∨ ∃ validUntil acceptance to_ checked, view.validUntil = some validUntil
      ∧ view.acceptance = some acceptance
      ∧ date.parse validUntil = some to_ ∧ date.parse acceptance.checkedAt = some checked
      ∧ now - started < to_ - checked

/-- What an open route says of the attempts, the clock and the owner there are. -/
def OpenFor (config : CoordinatorConfig) (s : Coordinator) (target : String)
    (document : ScreenerDocument) (readings : GateReadings) : Prop :=
  ∃ attempt started identity view now, lastAttempt s.log = some attempt
    ∧ attempt.begun = some (started, identity)
    ∧ .accepted attempt.id view ∈ s.log
    ∧ unrevoked s.log = true
    ∧ readings.elapsed = some now
    ∧ WithinValidity config.date attempt.request view started now
    ∧ readings.routeOwner = some identity
    ∧ document = attempt.request.document
    ∧ target = attempt.request.target

def Gated (config : CoordinatorConfig) (s : Coordinator) : Prop :=
  ∀ target document readings, (s.routeAllowed target document readings).2 = true →
    OpenFor config s target document readings

/-- The reply of an operation that was superseded changes neither the run nor the route. -/
def SupersededKeeps (config : CoordinatorConfig) (s : Coordinator) : Coordinator.Event → Prop
  | .reply id reply readings => lastCall s.log ≠ some id → ∀ t,
      s.step config (.reply id reply readings) = some t → t.run = s.run ∧ t.route = s.route
  | _ => True

/-- The retention port returns views of the configured selection, and retains a completion of its
document only. -/
def RetainsSelection (selection : ScreenerSelection) (s : Coordinator) : Coordinator.Event → Prop
  | .reply id (.view view) _ => ∀ request started identity,
      s.waiting id = some (.retain request started identity) →
      view.selection = selection ∧ request.document.url = some selection.screenerUrl
        ∧ request.document.version = selection.screenerVersion
  | _ => True

/-- The attempt comes to its operation: the listener returns, the clock reads and the owner is
current. -/
def Coordinator.comesToOperation (s : Coordinator) (readings : StartReadings) : Bool :=
  readings.notified && (clock s.lastElapsed readings.elapsed).isSome && readings.routeOwner.isSome

/-- The host answers once more behind the route: the clock reads for the timer, where there is one,
and the listener returns. -/
def ReplyReadings.answersOnceMore (readings : ReplyReadings) (deadline : Option Rat)
    (elapsed : Rat) : Bool :=
  (deadline.isNone || (clock (some elapsed) readings.timerElapsed).isSome) && readings.notified

/-- An attempt that fails before its operation begins finds no operation active, and the host
answers once more behind a route that is set. -/
def Undisturbed (config : CoordinatorConfig) (s : Coordinator) : Coordinator.Event → Prop
  | .complete _ readings => s.active = none ∨ s.comesToOperation readings = true
  | .reply id (.view view) readings => ∀ request started identity deadline elapsed,
      s.waiting id = some (.retain request started identity) →
      s.isCurrent id readings.current = true →
      Coordinator.admission config s.lastElapsed request started identity view readings
        = .routed deadline elapsed →
      readings.answersOnceMore deadline elapsed = true
  | _ => True

/-! ## The invariant -/

def CoordinatorEntry.isOutcome : CoordinatorEntry → Bool
  | accepted _ _ | refused _ _ | failed _ | ended _ => true
  | _ => false

section Outcomes

variable {entry : CoordinatorEntry} {log entries : List CoordinatorEntry}

theorem lastAttempt_outcome (h : entry.isOutcome = true) : lastAttempt (entry :: log) = lastAttempt log := by
  cases entry <;> first | rfl | cases h

theorem unrevoked_outcome (h : entry.isOutcome = true) : unrevoked (entry :: log) = unrevoked log := by
  cases entry <;> first | rfl | cases h

theorem lastCall_outcome (h : entry.isOutcome = true) : lastCall (entry :: log) = lastCall log := by
  cases entry <;> first | rfl | cases h

end Outcomes

structure OpenedBy (config : CoordinatorConfig) (log : List CoordinatorEntry) (route : ScreenerRoute)
    (attempt : Attempt) (started : Rat) : Prop where
  last : lastAttempt log = some attempt
  begun : attempt.begun = some (started, route.identity)
  accepted : .accepted attempt.id route.run ∈ log
  unrevoked : unrevoked log = true
  document : some route.run.selection.screenerUrl = attempt.request.document.url
    ∧ route.run.selection.screenerVersion = attempt.request.document.version
  target : ∃ checkedAt, route.run.acceptance = some ⟨checkedAt, .ready attempt.request.target⟩
    ∧ route.deadline = Coordinator.deadlineOf started
        (Coordinator.remaining config.date attempt.request route.run.validUntil checkedAt)
    ∧ Coordinator.outlasts
        (Coordinator.remaining config.date attempt.request route.run.validUntil checkedAt) = true

structure Sound (config : CoordinatorConfig) (s : Coordinator) : Prop where
  call : ∀ id, s.active = some id → lastCall s.log = some id
  waiting_lt : ∀ id waiting, s.waiting id = some waiting → id < s.calls
  attempt : ∀ id request started identity, s.active = some id →
    s.waiting id = some (.retain request started identity) →
    lastAttempt s.log = some ⟨id, request, some (started, identity)⟩ ∧ unrevoked s.log = true
  route : ∀ route, s.route = some route → ∃ attempt started, OpenedBy config s.log route attempt started

theorem sound_created (config : CoordinatorConfig) : Sound config .created where
  call := fun _ h => by cases h
  waiting_lt := fun _ _ h => by cases h
  attempt := fun _ _ _ _ h => by cases h
  route := fun _ h => by cases h

section Steps

variable {config : CoordinatorConfig} {s t u : Coordinator} {id : Nat}

variable {entry : CoordinatorEntry}

theorem OpenedBy.cons {log : List CoordinatorEntry} {route : ScreenerRoute} {attempt : Attempt}
    {started : Rat} (h : OpenedBy config log route attempt started)
    (hlast : lastAttempt (entry :: log) = lastAttempt log)
    (hunrevoked : Screener.unrevoked (entry :: log) = Screener.unrevoked log) :
    OpenedBy config (entry :: log) route attempt started :=
  { h with
    last := hlast.trans h.last
    accepted := List.mem_cons_of_mem _ h.accepted
    unrevoked := hunrevoked.trans h.unrevoked }

/-- What an operation does between its waits: it may end or wait for another reply, and it opens no
route. -/
structure GoesOn (s t : Coordinator) : Prop where
  calls : t.calls = s.calls
  active : t.active = s.active ∨ t.active = none
  route : t.route = s.route
  waiting : ∀ id waiting, t.waiting id = some waiting →
    s.waiting id = some waiting
      ∨ id < s.calls ∧ ∀ request started identity, waiting ≠ .retain request started identity
  log : t.log = s.log ∨ ∃ entry, entry.isOutcome = true ∧ t.log = entry :: s.log

theorem GoesOn.reads (h : GoesOn s t) : lastAttempt t.log = lastAttempt s.log
    ∧ unrevoked t.log = unrevoked s.log ∧ lastCall t.log = lastCall s.log := by
  rcases h.log with heq | ⟨entry, hentry, heq⟩
  · rw [heq]
    exact ⟨rfl, rfl, rfl⟩
  · rw [heq]
    exact ⟨lastAttempt_outcome hentry, unrevoked_outcome hentry, lastCall_outcome hentry⟩

theorem Sound.goesOn (hs : Sound config s) (h : GoesOn s t) : Sound config t := by
  obtain ⟨hlast, hunrevoked, hcall⟩ := h.reads
  have hactive : ∀ id, t.active = some id → s.active = some id := by
    intro id hid
    rcases h.active with heq | heq
    · exact heq ▸ hid
    · rw [heq] at hid
      cases hid
  exact {
    call := fun id hid => hcall.trans (hs.call id (hactive id hid))
    waiting_lt := fun id waiting hwaiting => by
      rw [h.calls]
      rcases h.waiting id waiting hwaiting with hold | ⟨hlt, -⟩
      · exact hs.waiting_lt id waiting hold
      · exact hlt
    attempt := fun id request started identity hid hwaiting => by
      rw [hlast, hunrevoked]
      rcases h.waiting id _ hwaiting with hold | ⟨-, hne⟩
      · exact hs.attempt id request started identity (hactive id hid) hold
      · exact absurd rfl (hne request started identity)
    route := fun route hroute => by
      obtain ⟨attempt, started, hopened⟩ := hs.route route (h.route ▸ hroute)
      refine ⟨attempt, started, ?_⟩
      rcases h.log with heq | ⟨entry, hentry, heq⟩
      · exact heq ▸ hopened
      · rw [heq]
        exact hopened.cons (lastAttempt_outcome hentry) (unrevoked_outcome hentry) }

theorem GoesOn.ofSame (h : GoesOn s t) (hcalls : s.calls = u.calls) (hactive : s.active = u.active)
    (hroute : s.route = u.route) (hwaiting : s.waiting = u.waiting) (hlog : s.log = u.log) :
    GoesOn u t where
  calls := hcalls ▸ h.calls
  active := hactive ▸ h.active
  route := hroute ▸ h.route
  waiting := by
    rw [← hwaiting, ← hcalls]
    exact h.waiting
  log := hlog ▸ h.log

theorem goesOn_finish (s : Coordinator) (id : Nat)
    (hentry : entry.isOutcome = true) : GoesOn s ((s.finish id).logged entry) where
  calls := rfl
  active := by
    by_cases h : s.active = some id
    · exact Or.inr (by simp [Coordinator.finish, Coordinator.logged, h])
    · exact Or.inl (by simp [Coordinator.finish, Coordinator.logged, h])
  route := rfl
  waiting other waiting h := by
    by_cases hother : other = id
    · simp [Coordinator.finish, Coordinator.logged, hother] at h
    · exact Or.inl (by simpa [Coordinator.finish, Coordinator.logged, hother] using h)
  log := Or.inr ⟨entry, hentry, rfl⟩

theorem goesOn_fail (s : Coordinator) (id : Nat) : GoesOn s (s.fail id) := goesOn_finish s id rfl

section

variable (hid : id < s.calls)
include hid

theorem goesOn_wait {waiting : Waiting}
    (hretain : ∀ request started identity, waiting ≠ .retain request started identity) :
    GoesOn s (s.wait id waiting) where
  calls := rfl
  active := Or.inl rfl
  route := rfl
  waiting other found h := by
    by_cases hother : other = id
    · subst hother
      simp only [Coordinator.wait, Function.update_self, Option.some.injEq] at h
      exact Or.inr ⟨hid, h ▸ hretain⟩
    · exact Or.inl (by simpa [Coordinator.wait, hother] using h)
  log := Or.inl rfl

theorem goesOn_hydrateNext (currentCheck : Bool) :
    GoesOn s (s.hydrateNext id currentCheck) := by
  rw [Coordinator.hydrateNext]
  split
  · exact goesOn_fail s id
  · cases currentCheck
    · exact goesOn_wait hid (by simp)
    · exact goesOn_wait hid (by simp)

theorem goesOn_callRefresh (kind : RefreshKind) :
    GoesOn s (s.callRefresh id kind) := by
  have hwait := goesOn_wait (s := { s with uncertainRefresh := true }) hid
    (fun _ _ _ => (by simp : Waiting.refresh kind ≠ .retain _ _ _))
  exact hwait.ofSame rfl rfl rfl rfl rfl

theorem goesOn_refreshLatest (kind : RefreshKind) :
    GoesOn s (s.refreshLatest config id kind) := by
  rw [Coordinator.refreshLatest]
  split
  · split
    · exact goesOn_wait hid (by simp)
    · exact goesOn_fail s id
  · exact goesOn_callRefresh hid kind

theorem goesOn_refreshUnlessReady : GoesOn s (s.refreshUnlessReady config id) := by
  rw [Coordinator.refreshUnlessReady]
  split
  · exact goesOn_hydrateNext hid false
  · exact goesOn_refreshLatest hid _

theorem goesOn_refreshOffered : GoesOn s (s.refreshOffered config id) := by
  rw [Coordinator.refreshOffered]
  split
  · exact goesOn_refreshLatest hid _
  · exact goesOn_fail s id

end

theorem goesOn_afterRecover (config : CoordinatorConfig) (hid : id < s.calls) (kind : RefreshKind) :
    GoesOn s (s.afterRecover config id kind) := by
  cases kind with
  | currentCheck => exact goesOn_hydrateNext hid true
  | allowRefresh => exact goesOn_refreshUnlessReady hid
  | refreshSaved => exact goesOn_refreshOffered hid

theorem goesOn_afterRefresh (hid : id < s.calls) (fresh : ScreenerRunView) (kind : RefreshKind) :
    GoesOn s (s.afterRefresh id fresh kind) := by
  simp only [Coordinator.afterRefresh]
  split
  · exact goesOn_fail s id
  · cases kind with
    | refreshSaved => exact goesOn_finish s id rfl
    | currentCheck => exact goesOn_hydrateNext hid false
    | allowRefresh => exact goesOn_hydrateNext hid false

theorem sound_called (hs : Sound config s) (context : Bool) :
    Sound config (({ s with calls := s.calls + 1 }.logged (.called s.calls)).beginOperation s.calls
      context).1 := by
  have hbegun : ∀ active, (∀ id, active = some id → id = s.calls) →
      Sound config ({ s with calls := s.calls + 1, active := active }.logged (.called s.calls)) := by
    intro active hactive
    exact {
      call := fun id hid => by
        rw [hactive id hid]
        rfl
      waiting_lt := fun id waiting hwaiting => Nat.lt_succ_of_lt (hs.waiting_lt id waiting hwaiting)
      attempt := fun id request started identity hid hwaiting => by
        have hlt := hs.waiting_lt id _ hwaiting
        have := hactive id hid
        omega
      route := fun route hroute => by
        obtain ⟨attempt, started, hopened⟩ := hs.route route hroute
        exact ⟨attempt, started, hopened.cons rfl rfl⟩ }
  rw [Coordinator.beginOperation]
  split
  · exact hbegun none nofun
  · exact hbegun (some s.calls) (fun _ h => (Option.some.inj h).symm)

theorem beginOperation_cases (s : Coordinator) (id : Nat) (context : Bool) :
    s.beginOperation id context = (s.retireFacts, false)
      ∨ s.beginOperation id context = ({ s with active := some id }, true) := by
  rw [Coordinator.beginOperation]
  split
  · exact Or.inl rfl
  · exact Or.inr rfl

theorem beginOperation_calls (id : Nat) (context : Bool) :
    (s.beginOperation id context).1.calls = s.calls := by
  rw [Coordinator.beginOperation]
  split <;> rfl

theorem goesOn_logged (hentry : entry.isOutcome = true) :
    GoesOn s (s.logged entry) :=
  ⟨rfl, Or.inl rfl, rfl, fun _ _ h => Or.inl h, Or.inr ⟨entry, hentry, rfl⟩⟩

theorem sound_qualifySaved (hs : Sound config s) (saved : SavedCandidate)
    (allowRefresh context : Bool) : Sound config (s.qualifySaved config saved allowRefresh context) := by
  have hcalled := sound_called hs context
  have hlt : s.calls < (({ s with calls := s.calls + 1 }.logged (.called s.calls)).beginOperation
      s.calls context).1.calls := by
    rw [beginOperation_calls]
    exact Nat.lt_succ_self _
  apply hcalled.goesOn
  simp only [Coordinator.qualifySaved]
  split
  · exact goesOn_logged rfl
  split
  · split
    · exact goesOn_wait hlt (by simp)
    · exact goesOn_fail _ _
  split
  · split
    · exact goesOn_wait hlt (by simp)
    · exact goesOn_refreshUnlessReady hlt
  · exact goesOn_hydrateNext hlt _

theorem sound_refreshSaved (hs : Sound config s) (context : Bool) :
    Sound config (s.refreshSaved config context) := by
  have hcalled := sound_called hs context
  have hlt : s.calls < (({ s with calls := s.calls + 1 }.logged (.called s.calls)).beginOperation
      s.calls context).1.calls := by
    rw [beginOperation_calls]
    exact Nat.lt_succ_self _
  apply hcalled.goesOn
  simp only [Coordinator.refreshSaved]
  split
  · exact goesOn_logged rfl
  split
  · split
    · exact goesOn_wait hlt (by simp)
    · exact goesOn_fail _ _
  · exact goesOn_refreshOffered hlt

theorem sound_attempted (hs : Sound config s) (request : CompletionRequest)
    (begun : Option (Rat × Identity)) (lastElapsed : Option Rat) {active : Option Nat}
    (hactive : ∀ id, active = some id → id = s.calls) :
    Sound config { s with
      run := none
      route := none
      calls := s.calls + 1
      lastElapsed := lastElapsed
      active := active
      log := .attempted ⟨s.calls, request, begun⟩ :: s.log } where
  call id hid := by
    rw [hactive id hid]
    rfl
  waiting_lt id waiting hwaiting := Nat.lt_succ_of_lt (hs.waiting_lt id waiting hwaiting)
  attempt id _ _ _ hid hwaiting := by
    have hlt := hs.waiting_lt id _ hwaiting
    have := hactive id hid
    omega
  route _ hroute := by cases hroute

variable {request : CompletionRequest}

variable {identity : Identity}

theorem sound_wait_retain {started : Rat} (hs : Sound config s) (hid : id < s.calls)
    (hlast : lastAttempt s.log = some ⟨id, request, some (started, identity)⟩)
    (hunrevoked : unrevoked s.log = true) :
    Sound config (s.wait id (.retain request started identity)) where
  __ := hs
  waiting_lt other waiting h := by
    by_cases hother : other = id
    · exact hother ▸ hid
    · exact hs.waiting_lt other waiting (by simpa [Coordinator.wait, hother] using h)
  attempt other request' started' identity' hactive h := by
    by_cases hother : other = id
    · subst hother
      simp only [Coordinator.wait, Function.update_self, Option.some.injEq, Waiting.retain.injEq] at h
      obtain ⟨rfl, rfl, rfl⟩ := h
      exact ⟨hlast, hunrevoked⟩
    · exact hs.attempt other request' started' identity' hactive
        (by simpa [Coordinator.wait, hother] using h)

theorem sound_complete (hs : Sound config s) (request : CompletionRequest)
    {readings : StartReadings} (h : s.active = none ∨ s.comesToOperation readings = true) :
    Sound config (s.complete config request readings) := by
  -- An attempt that does not come to its operation.
  have hfails : ∀ lastElapsed, s.comesToOperation readings = false →
      Sound config { s with
        run := none
        route := none
        calls := s.calls + 1
        lastElapsed := lastElapsed
        log := .failed s.calls :: .attempted ⟨s.calls, request, none⟩ :: s.log } := by
    intro lastElapsed hcomes
    have hnone : s.active = none := h.resolve_right (by simp [hcomes])
    have hactive : ∀ id, s.active = some id → id = s.calls := by
      intro id hid
      rw [hnone] at hid
      cases hid
    exact (sound_attempted hs request none lastElapsed hactive).goesOn (goesOn_logged rfl)
  simp only [Coordinator.complete]
  split
  · next hnotified =>
    exact hfails s.lastElapsed (by simp_all [Coordinator.comesToOperation])
  split
  · next hclock =>
    exact hfails s.lastElapsed (by simp [Coordinator.comesToOperation, hclock])
  · next started hclock =>
    split
    · next howner =>
      exact hfails (some started) (by simp [Coordinator.comesToOperation, howner])
    · next identity howner =>
      have hnew : ∀ {active : Option Nat}, (∀ id, active = some id → id = s.calls) → _ :=
        fun hactive => sound_attempted hs request (some (started, identity)) (some started) hactive
      generalize hbegin : Coordinator.beginOperation _ s.calls readings.context = begun
      rcases beginOperation_cases _ s.calls readings.context with hretired | hbegun
      · obtain rfl := hbegin.symm.trans hretired
        exact (hnew (fun _ h => by cases h)).goesOn (goesOn_logged rfl)
      · obtain rfl := hbegin.symm.trans hbegun
        have hown : ∀ id, some s.calls = some id → id = s.calls := fun _ h => (Option.some.inj h).symm
        have hsound := hnew hown
        simp only [Bool.not_true, Bool.false_eq_true, if_false]
        split
        · exact hsound.goesOn (goesOn_fail _ s.calls)
        · exact sound_wait_retain hsound (Nat.lt_succ_self _) rfl rfl

variable {readings : ReplyReadings}

theorem resume_superseded {waiting : Waiting} {reply : Reply}
    (hcurrent : s.isCurrent id readings.current = false)
    (h : s.resume config id readings waiting reply = some t) : t = s.fail id := by
  cases waiting <;> cases reply <;>
    simp only [Coordinator.resume, hcurrent, Bool.false_eq_true, if_false, Option.some.injEq,
      reduceCtorEq] at h <;>
    exact h.symm

theorem clock_eq {lastElapsed reading : Option Rat} {elapsed : Rat}
    (h : clock lastElapsed reading = some elapsed) : reading = some elapsed :=
  (Option.filter_eq_some_iff.mp h).1

variable {view : ScreenerRunView}

theorem admission_routed {lastElapsed : Option Rat} {started : Rat}
    {deadline : Option Rat}
    {elapsed : Rat} (h : Coordinator.admission config lastElapsed request started identity view readings
      = .routed deadline elapsed) : clock lastElapsed readings.elapsed = some elapsed
    ∧ ∃ checkedAt, view.acceptance = some ⟨checkedAt, .ready request.target⟩
      ∧ deadline = Coordinator.deadlineOf started
          (Coordinator.remaining config.date request view.validUntil checkedAt)
      ∧ Coordinator.outlasts
          (Coordinator.remaining config.date request view.validUntil checkedAt) = true := by
  simp only [Coordinator.admission] at h
  split at h
  · cases h
  · next acceptance hacceptance =>
    split at h
    · cases h
    · next target hready =>
      split at h
      · cases h
      · next hfor =>
        split at h
        · cases h
        split at h
        · cases h
        split at h
        · cases h
        · next howner =>
          split at h
          · cases h
          · next hclock =>
            split at h
            · cases h
            · cases h
              simp only [not_or, not_not, Bool.not_eq_false] at hfor howner
              obtain ⟨checkedAt, qualification⟩ := acceptance
              simp only at hready howner
              refine ⟨hclock, checkedAt, ?_, rfl, howner.2⟩
              rw [hacceptance, hready, hfor.1]

theorem setExpiry_some (s : Coordinator) {deadline reading : Option Rat}
    (h : (deadline.isNone || (clock s.lastElapsed reading).isSome) = true) :
    ∃ last, s.setExpiry deadline reading = some { s with lastElapsed := last } := by
  cases deadline with
  | none => exact ⟨s.lastElapsed, rfl⟩
  | some deadline =>
    obtain ⟨elapsed, helapsed⟩ := Option.isSome_iff_exists.mp (by simpa using h)
    exact ⟨some elapsed, by rw [Coordinator.setExpiry, helapsed]; rfl⟩

variable {selection : ScreenerSelection}

theorem sound_takeUp {started : Rat} (hs : Sound config s)
    (hactive : s.active = some id) (hwaiting : s.waiting id = some (.retain request started identity))
    (hselection : view.selection = selection ∧ request.document.url = some selection.screenerUrl
      ∧ request.document.version = selection.screenerVersion)
    (hanswers : ∀ deadline elapsed, Coordinator.admission config s.lastElapsed request started identity
      view readings = .routed deadline elapsed → readings.answersOnceMore deadline elapsed = true) :
    Sound config (s.takeUp config id request started identity view readings) := by
  rw [Coordinator.takeUp]
  split
  · exact hs.goesOn (goesOn_finish s id rfl)
  · exact hs.goesOn ((goesOn_fail _ id).ofSame rfl rfl rfl rfl rfl)
  · exact hs.goesOn ((goesOn_finish _ id rfl).ofSame rfl rfl rfl rfl rfl)
  · next deadline elapsed hrouted =>
    have hmore := hanswers deadline elapsed hrouted
    rw [ReplyReadings.answersOnceMore, Bool.and_eq_true] at hmore
    obtain ⟨htimer, hnotified⟩ := hmore
    obtain ⟨hlast, hunrevoked⟩ := hs.attempt id request started identity hactive hwaiting
    simp only
    obtain ⟨last, hexpiry⟩ := setExpiry_some { s with
      run := some view
      route := some ⟨view, identity, deadline⟩
      lastElapsed := some elapsed } htimer
    rw [hexpiry]
    simp only [hnotified, if_true]
    obtain ⟨-, checkedAt, hacceptance, hdeadline, houtlasts⟩ := admission_routed hrouted
    obtain ⟨hview, hurl, hversion⟩ := hselection
    exact {
      call := fun other h => by
        simp only [Coordinator.finish, Coordinator.logged, hactive, if_true, reduceCtorEq] at h
      waiting_lt := fun other waiting h => by
        by_cases hother : other = id
        · simp [Coordinator.finish, Coordinator.logged, hother] at h
        · exact hs.waiting_lt other waiting
            (by simpa [Coordinator.finish, Coordinator.logged, hother] using h)
      attempt := fun other _ _ _ h => by
        simp only [Coordinator.finish, Coordinator.logged, hactive, if_true, reduceCtorEq] at h
      route := fun route h => by
        cases h
        exact ⟨_, started, {
          last := hlast
          begun := rfl
          accepted := List.mem_cons_self
          unrevoked := hunrevoked
          document := ⟨hview ▸ hurl.symm, hview ▸ hversion.symm⟩
          target := ⟨checkedAt, hacceptance, hdeadline, houtlasts⟩ }⟩ }

theorem sound_resume {reply : Reply}
    {waiting : Waiting} (hs : Sound config s) (hwaiting : s.waiting id = some waiting)
    (hselection : RetainsSelection selection s (.reply id reply readings))
    (hanswers : Undisturbed config s (.reply id reply readings))
    (h : s.resume config id readings waiting reply = some t) : Sound config t := by
  have hlt := hs.waiting_lt id waiting hwaiting
  by_cases hcurrent : s.isCurrent id readings.current = true
  · cases waiting with
    | retain request started identity =>
      cases reply with
      | view view =>
        simp only [Coordinator.resume, hcurrent, if_true, Option.some.injEq] at h
        have hactive : s.active = some id := by
          simp only [Coordinator.isCurrent, Bool.and_eq_true, beq_iff_eq] at hcurrent
          exact hcurrent.2
        exact h ▸ sound_takeUp hs hactive hwaiting (hselection request started identity hwaiting)
          fun deadline elapsed => hanswers request started identity deadline elapsed hwaiting hcurrent
      | failed => exact Option.some.inj h ▸ hs.goesOn (goesOn_fail s id)
      | done => cases h
    | recover kind =>
      cases reply with
      | view view =>
        simp only [Coordinator.resume, hcurrent, if_true, Option.some.injEq] at h
        have hnext := goesOn_afterRecover (s := { s with run := some view }) config hlt kind
        exact h ▸ hs.goesOn (hnext.ofSame rfl rfl rfl rfl rfl)
      | failed => exact Option.some.inj h ▸ hs.goesOn (goesOn_fail s id)
      | done => cases h
    | load kind =>
      cases reply with
      | view view =>
        simp only [Coordinator.resume, hcurrent, if_true, Option.some.injEq] at h
        have hnext := goesOn_callRefresh (s := { s with run := some view }) hlt kind
        exact h ▸ hs.goesOn (hnext.ofSame rfl rfl rfl rfl rfl)
      | failed => exact Option.some.inj h ▸ hs.goesOn (goesOn_fail s id)
      | done => cases h
    | refresh kind =>
      cases reply with
      | view view =>
        simp only [Coordinator.resume, hcurrent, if_true, Option.some.injEq] at h
        have hnext := goesOn_afterRefresh
          (s := { s with run := some view, uncertainRefresh := false }) hlt view kind
        exact h ▸ hs.goesOn (hnext.ofSame rfl rfl rfl rfl rfl)
      | failed => exact Option.some.inj h ▸ hs.goesOn (goesOn_fail s id)
      | done => cases h
    | associate =>
      cases reply with
      | done =>
        simp only [Coordinator.resume, hcurrent, if_true, Option.some.injEq] at h
        exact h ▸ hs.goesOn (goesOn_wait hlt (by simp))
      | failed => exact Option.some.inj h ▸ hs.goesOn (goesOn_fail s id)
      | view view => cases h
    | hydrate =>
      cases reply with
      | done =>
        simp only [Coordinator.resume, hcurrent, if_true, Option.some.injEq] at h
        exact h ▸ hs.goesOn {
          calls := rfl
          active := Or.inl rfl
          route := rfl
          waiting := fun other found hfound => by
            by_cases hother : other = id
            · simp [Coordinator.logged, hother] at hfound
            · exact Or.inl (by simpa [Coordinator.logged, hother] using hfound)
          log := Or.inr ⟨.ended id, rfl, rfl⟩ }
      | failed => exact Option.some.inj h ▸ hs.goesOn (goesOn_fail s id)
      | view view => cases h
  · exact resume_superseded (by simpa using hcurrent) h ▸ hs.goesOn (goesOn_fail s id)

theorem sound_retired (hs : Sound config s) {route : Option ScreenerRoute}
    (hroute : ∀ found, route = some found → s.route = some found
      ∧ lastAttempt (entry :: s.log) = lastAttempt s.log ∧ unrevoked (entry :: s.log) = unrevoked s.log)
    (run : Option ScreenerRunView) (disposed : Bool) :
    Sound config { s with
      active := none
      disposed := disposed
      run := run
      route := route
      log := entry :: s.log } where
  call _ h := by cases h
  waiting_lt := hs.waiting_lt
  attempt _ _ _ _ h := by cases h
  route found h := by
    obtain ⟨hfound, hlast, hunrevoked⟩ := hroute found h
    obtain ⟨attempt, started, hopened⟩ := hs.route found hfound
    exact ⟨attempt, started, hopened.cons hlast hunrevoked⟩

theorem sound_routeAllowed (hs : Sound config s) (target : String) (document : ScreenerDocument)
    (readings : GateReadings) : Sound config (s.routeAllowed target document readings).1 := by
  have hclosed : ∀ lastElapsed, Sound config { s with route := none, lastElapsed := lastElapsed } :=
    fun _ => { hs with route := fun _ h => by cases h }
  simp only [Coordinator.routeAllowed]
  split
  · exact hclosed s.lastElapsed
  split
  · exact hclosed s.lastElapsed
  split
  · exact hclosed s.lastElapsed
  · next elapsed _ =>
    split
    · exact hclosed (some elapsed)
    · exact { hs with route := hs.route }

theorem sound_step {event : Coordinator.Event} (hs : Sound config s)
    (hevent : RetainsSelection selection s event ∧ Undisturbed config s event)
    (h : s.step config event = some t) : Sound config t := by
  cases event with
  | complete request readings => exact Option.some.inj h ▸ sound_complete hs request hevent.2
  | qualifySaved saved allowRefresh context =>
    exact Option.some.inj h ▸ sound_qualifySaved hs saved allowRefresh context
  | refreshSaved context => exact Option.some.inj h ▸ sound_refreshSaved hs context
  | reply id reply readings =>
    obtain ⟨waiting, hwaiting, h⟩ := Option.bind_eq_some_iff.mp h
    exact sound_resume hs hwaiting hevent.1 hevent.2 h
  | routeAllowed target document readings =>
    exact Option.some.inj h ▸ sound_routeAllowed hs target document readings
  | expire => exact Option.some.inj h ▸ { hs with route := fun _ h => by cases h }
  | retireFacts =>
    exact Option.some.inj h ▸ sound_retired hs (fun _ h => ⟨h, rfl, rfl⟩) s.run s.disposed
  | retireAuthority =>
    exact Option.some.inj h ▸ sound_retired hs (fun _ h => by cases h) none s.disposed
  | dispose =>
    simp only [Coordinator.step] at h
    split at h
    · exact Option.some.inj h ▸ hs
    · exact Option.some.inj h ▸ sound_retired hs (fun _ h => by cases h) none true

theorem withinValidity_of_open {date : DateParse} {checkedAt target : String} {started now : Rat}
    (hacceptance : view.acceptance = some ⟨checkedAt, .ready target⟩)
    (houtlasts : Coordinator.outlasts (Coordinator.remaining date request view.validUntil checkedAt) = true)
    (hreached : Coordinator.reached (Coordinator.deadlineOf started
      (Coordinator.remaining date request view.validUntil checkedAt)) now = false) :
    WithinValidity date request view started now := by
  by_cases hunlimited : view.validUntil = none ∧ request.resultValidity = false
  · exact Or.inl hunlimited
  · refine Or.inr ?_
    simp only [Coordinator.remaining, hunlimited, if_false] at houtlasts hreached
    cases hto : date.parse (view.validUntil.getD "") with
    | none =>
      rw [hto] at houtlasts
      cases houtlasts
    | some to_ =>
      cases hchecked : date.parse checkedAt with
      | none =>
        rw [hto, hchecked] at houtlasts
        cases houtlasts
      | some checked =>
        rw [hto, hchecked] at hreached
        cases hvalid : view.validUntil with
        | none =>
          rw [hvalid, Option.getD_none, date.empty] at hto
          cases hto
        | some validUntil =>
          rw [hvalid, Option.getD_some] at hto
          refine ⟨validUntil, _, to_, checked, rfl, hacceptance, hto, hchecked, ?_⟩
          simp only [Coordinator.reached, Coordinator.deadlineOf, Option.pure_def,
            Option.bind_eq_bind, Option.bind_some, Option.join_some, Option.map_some,
            Option.any_some, decide_eq_false_iff_not, not_le] at hreached
          push_cast at hreached
          linarith

theorem gated_of_sound (hs : Sound config s) : Gated config s := by
  intro target document readings h
  simp only [Coordinator.routeAllowed] at h
  split at h
  · cases h
  split at h
  · cases h
  · next route hroute =>
    split at h
    · cases h
    · next elapsed helapsed =>
      split at h
      · cases h
      · next hopen =>
        obtain ⟨attempt, started, hopened⟩ := hs.route route hroute
        obtain ⟨checkedAt, hacceptance, hdeadline, houtlasts⟩ := hopened.target
        simp only [Bool.or_eq_true, not_or, Bool.not_eq_true, bne_eq_false_iff_eq] at hopen
        obtain ⟨⟨hreached, -⟩, howner⟩ := hopen
        simp only [Bool.and_eq_true, beq_iff_eq, hacceptance, Option.any_some,
          ScreenerQualification.ready.injEq] at h
        obtain ⟨⟨hurl, hversion⟩, htarget⟩ := h
        rw [hdeadline] at hreached
        refine ⟨attempt, started, route.identity, route.run, elapsed, hopened.last, hopened.begun,
          hopened.accepted, hopened.unrevoked, clock_eq helapsed,
          withinValidity_of_open hacceptance houtlasts hreached, howner, ?_, htarget.symm⟩
        have hdocument : document = ⟨document.url, document.version⟩ := rfl
        rw [hdocument, ← hurl, ← hversion, hopened.document.1, hopened.document.2]

theorem superseded_of_sound (hs : Sound config s) (event : Coordinator.Event) :
    SupersededKeeps config s event := by
  cases event with
  | reply id reply readings =>
    intro hcall t h
    obtain ⟨waiting, -, h⟩ := Option.bind_eq_some_iff.mp h
    have hcurrent : s.isCurrent id readings.current = false := by
      rw [Coordinator.isCurrent, Bool.and_eq_false_iff]
      refine Or.inr ?_
      simp only [beq_eq_false_iff_ne, ne_eq]
      exact fun hactive => hcall (hs.call id hactive)
    rw [resume_superseded hcurrent h]
    exact ⟨rfl, rfl⟩
  | _ => trivial

end Steps

/-- In the runs of the coordinator whose events leave it undisturbed, the gate reports an open route
only for the last attempt, while it lasts, and a superseded operation changes nothing. -/
theorem route_gate {config : CoordinatorConfig} {selection : ScreenerSelection}
    {events : List Coordinator.Event} {states : List Coordinator}
    (hretains : EveryStep (Coordinator.step config) (RetainsSelection selection) .created events)
    (hundisturbed : EveryStep (Coordinator.step config) (Undisturbed config) .created events)
    (h : statesOf (Coordinator.step config) .created events = some states) :
    (∀ reached ∈ states, Gated config reached)
      ∧ EveryStep (Coordinator.step config) (SupersededKeeps config) .created events := by
  have hstep : ∀ s event next, Sound config s →
      RetainsSelection selection s event ∧ Undisturbed config s event →
      s.step config event = some next → Sound config next :=
    fun s event next hs hevent hnext => sound_step hs hevent hnext
  have hevents := everyStep_and hretains hundisturbed
  constructor
  · intro reached hreached
    exact gated_of_sound (statesOf_invariant hstep (sound_created config) hevents h reached hreached)
  · exact everyStep_of_invariant hstep (fun s event hs _ => superseded_of_sound hs event)
      (sound_created config) hevents

/-! ## A completed screener -/

section Sample

def sampleDate : DateParse where
  parse text :=
    if text = "1970-01-01T00:00:00Z" then some 0
    else if text = "1970-01-01T00:15:00Z" then some 900000
    else none
  empty := by decide

def sampleConfig : CoordinatorConfig := ⟨"selected", sampleDate, false, false, false⟩

def sampleSelection : ScreenerSelection := ⟨"urn:test:screener", "1"⟩

def sampleRequest : CompletionRequest :=
  ⟨"selected", ⟨some "urn:test:screener", "1"⟩, true, [("flag", .boolean false)], "urn:test:target"⟩

def sampleView : ScreenerRunView :=
  ⟨sampleSelection, .ready "urn:test:target", some "1970-01-01T00:15:00Z",
    some ⟨"1970-01-01T00:00:00Z", .ready "urn:test:target"⟩⟩

def sampleOwner : Identity := ⟨"issuer", "applicant", none⟩

def sampleReply (elapsed : Rat) : ReplyReadings :=
  ⟨true, true, some sampleOwner, some elapsed, some elapsed, true⟩

def acceptedRun : List Coordinator.Event :=
  [.complete sampleRequest ⟨true, some 0, some sampleOwner, true⟩,
    .reply 0 (.view sampleView) (sampleReply 600)]

/-- A second attempt meets a clock that does not read, while the first one waits; then the first is
retained. -/
def failedSecondAttempt : List Coordinator.Event :=
  [.complete sampleRequest ⟨true, some 0, some sampleOwner, true⟩,
    .complete sampleRequest ⟨true, none, some sampleOwner, true⟩,
    .reply 0 (.view sampleView) (sampleReply 600)]

theorem sample_retains {s : Coordinator} {readings : ReplyReadings}
    (h : s.waiting 0 = some (.retain sampleRequest 0 sampleOwner)) :
    RetainsSelection sampleSelection s (.reply 0 (.view sampleView) readings) := by
  intro request started identity hwaiting
  obtain ⟨rfl, -⟩ := Waiting.retain.inj (Option.some.inj (h.symm.trans hwaiting))
  exact ⟨rfl, rfl, rfl⟩

theorem route_gate_accepted :
    ∃ states, statesOf (Coordinator.step sampleConfig) .created acceptedRun = some states
      ∧ (∀ reached ∈ states, Gated sampleConfig reached)
      ∧ EveryStep (Coordinator.step sampleConfig) (SupersededKeeps sampleConfig) .created
        acceptedRun := by
  obtain ⟨states, hstates⟩ := Option.isSome_iff_exists.mp
    (by decide +kernel : (statesOf (Coordinator.step sampleConfig) .created acceptedRun).isSome = true)
  refine ⟨states, hstates, @route_gate _ sampleSelection _ _ ?_ ?_ hstates⟩
  · exact everyStep_step rfl trivial (everyStep_step rfl (sample_retains rfl) trivial)
  · refine everyStep_step rfl (Or.inl rfl) (everyStep_step rfl ?_ trivial)
    intro _ _ _ deadline elapsed _ _ hrouted
    have helapsed : some (600 : Rat) = some elapsed := clock_eq (admission_routed hrouted).1
    rw [← Option.some.inj helapsed]
    have hclock : clock (some 600) (some 600) = some 600 := by decide +kernel
    simp [ReplyReadings.answersOnceMore, sampleReply, hclock]

theorem failed_attempt_opens_route :
    ∃ states, statesOf (Coordinator.step sampleConfig) .created failedSecondAttempt = some states
      ∧ EveryStep (Coordinator.step sampleConfig) (RetainsSelection sampleSelection) .created
        failedSecondAttempt
      ∧ ¬ ∀ reached ∈ states, Gated sampleConfig reached := by
  have hrun : (statesOf (Coordinator.step sampleConfig) .created failedSecondAttempt).bind
      (fun states => states.getLast?.map fun last =>
        ((last.routeAllowed sampleRequest.target sampleRequest.document
          ⟨some 700, true, some sampleOwner⟩).2, (lastAttempt last.log).map Attempt.begun))
      = some (true, some none) := by
    decide +kernel
  obtain ⟨states, hstates, hread⟩ := Option.bind_eq_some_iff.mp hrun
  obtain ⟨last, hlast, hread⟩ := Option.map_eq_some_iff.mp hread
  obtain ⟨hopen, hbegun⟩ := Prod.mk.inj hread
  refine ⟨states, hstates, ?_, fun hall => ?_⟩
  · exact everyStep_step rfl trivial
      (everyStep_step rfl trivial (everyStep_step rfl (sample_retains rfl) trivial))
  · obtain ⟨attempt, started, identity, -, -, hattempt, hstarted, -⟩ :=
      hall last (List.mem_of_getLast? hlast) _ _ _ hopen
    rw [hattempt, Option.map_some, hstarted] at hbegun
    cases hbegun

end Sample

end FormspecWeb.Screener
