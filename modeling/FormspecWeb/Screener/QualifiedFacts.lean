import FormspecWeb.Screener.RouteGate

/-!
# Which qualified facts are current

The facts of a saved draft ask the operation that qualified them whether they are current. Beside
the coordinator stand the signals its operations begin under: an abort of one retires them, and so
does a guard that fails when it is asked. Signals are numbered.
-/

namespace FormspecWeb.Screener

open Async

structure FactsOperation where
  parents : List Nat
  /-- `controller.signal` is aborted. -/
  aborted : Bool

inductive FactsEntry where
  /-- `begin` was called. -/
  | begun (id : Nat) (parents : List Nat)
  /-- `qualifySaved` returned a candidate. -/
  | returned (id : Nat)
  | aborted (signal : Nat)
  | factsRetired
  | authorityRetired
  | disposed
deriving DecidableEq

structure FactsCoordinator where
  coordinator : Coordinator
  signals : List Nat
  operations : Nat → Option FactsOperation
  /-- Newest first. -/
  log : List FactsEntry

namespace FactsCoordinator

def created : FactsCoordinator := ⟨.created, [], fun _ => none, []⟩

def logged (s : FactsCoordinator) (entry : FactsEntry) : FactsCoordinator :=
  { s with log := entry :: s.log }

def unaborted (s : FactsCoordinator) (parents : List Nat) : Bool :=
  !parents.any s.signals.contains

def isOpen (s : FactsCoordinator) (id : Nat) : Bool :=
  (s.operations id).any fun operation => !operation.aborted && s.unaborted operation.parents

def retireWhere (s : FactsCoordinator) (leaves : Nat → FactsOperation → Bool) : FactsCoordinator :=
  { s with
    operations := fun id => (s.operations id).map fun operation =>
      { operation with aborted := operation.aborted || leaves id operation } }

def retire (s : FactsCoordinator) (id : Nat) : FactsCoordinator :=
  s.retireWhere fun other _ => other == id

def retireInactive (s : FactsCoordinator) : FactsCoordinator :=
  s.retireWhere fun id _ => s.coordinator.active != some id

/-- `operation.assertCurrent()`, where the guards of the context and the caller answer so. -/
def assertCurrent (s : FactsCoordinator) (id : Nat) (guards : Bool) : FactsCoordinator × Bool :=
  if s.coordinator.isCurrent id (guards && s.isOpen id) then (s, true) else (s.retire id, false)

/-- `assertCurrent()` or `assertReady()` of a candidate, where the facts answer so. -/
def assertCandidate (s : FactsCoordinator) (id : Nat) (guards facts : Bool) :
    FactsCoordinator × Bool :=
  let (s, current) := s.assertCurrent id guards
  (s, current && facts)

def take (config : CoordinatorConfig) (s : FactsCoordinator) (event : Coordinator.Event) :
    Option FactsCoordinator :=
  (s.coordinator.step config event).map fun coordinator =>
    { s with coordinator := coordinator }.retireInactive

/-- `begin` made its operation, which may have failed at once. -/
def begin (s : FactsCoordinator) (id : Nat) (parents : List Nat) : FactsCoordinator :=
  ({ s with operations := Function.update s.operations id (some ⟨parents, false⟩) }.retireInactive).logged
    (.begun id parents)

def abort (s : FactsCoordinator) (signal : Nat) : FactsCoordinator :=
  ({ s with signals := signal :: s.signals }.retireWhere fun _ operation =>
    operation.parents.contains signal).logged (.aborted signal)

def hydrates : Option Waiting → Reply → Bool
  | some .hydrate, .done => true
  | _, _ => false

inductive Event where
  | complete (request : CompletionRequest) (readings : StartReadings) (parent extra : Nat)
  | qualifySaved (saved : SavedCandidate) (allowRefresh guards : Bool) (parent : Nat)
  | preSignCandidate (saved : SavedCandidate) (guards : Bool) (parent : Nat)
  | refreshSaved (guards : Bool) (parent : Nat)
  | reply (id : Nat) (reply : Reply) (readings : ReplyReadings)
  | assertCurrent (id : Nat) (guards : Bool)
  | assertCandidate (id : Nat) (guards facts : Bool)
  | abort (signal : Nat)
  | routeAllowed (target : String) (document : ScreenerDocument) (readings : GateReadings)
  | expire
  | retireFacts
  | retireAuthority
  | dispose

def call (config : CoordinatorConfig) (s : FactsCoordinator) (parents : List Nat)
    (event : Coordinator.Event) : Option FactsCoordinator :=
  (s.take config event).map fun t => t.begin s.coordinator.calls parents

def step (config : CoordinatorConfig) (s : FactsCoordinator) : Event → Option FactsCoordinator
  | .complete request readings parent extra =>
    let readings := { readings with context := readings.context && s.unaborted [parent, extra] }
    if s.coordinator.comesToOperation readings then
      s.call config [parent, extra] (.complete request readings)
    else s.take config (.complete request readings)
  | .qualifySaved saved allowRefresh guards parent =>
    s.call config [parent] (.qualifySaved saved allowRefresh (guards && s.unaborted [parent]))
  | .preSignCandidate saved guards parent =>
    s.call config [parent] (.qualifySaved saved false (guards && s.unaborted [parent]))
  | .refreshSaved guards parent =>
    s.call config [parent] (.refreshSaved (guards && s.unaborted [parent]))
  | .reply id reply readings =>
    let readings := { readings with current := readings.current && s.isOpen id }
    (s.take config (.reply id reply readings)).map fun t =>
      if hydrates (s.coordinator.waiting id) reply
          && s.coordinator.isCurrent id readings.current then t.logged (.returned id)
      else t
  | .assertCurrent id guards => some (s.assertCurrent id guards).1
  | .assertCandidate id guards facts =>
    if s.log.contains (.returned id) then some (s.assertCandidate id guards facts).1 else none
  | .abort signal => some (s.abort signal)
  | .routeAllowed target document readings => s.take config (.routeAllowed target document readings)
  | .expire => s.take config .expire
  | .retireFacts => (s.take config .retireFacts).map fun t => t.logged .factsRetired
  | .retireAuthority => (s.take config .retireAuthority).map fun t => t.logged .authorityRetired
  | .dispose => (s.take config .dispose).map fun t =>
    if s.coordinator.disposed then t else t.logged .disposed

end FactsCoordinator

def FactsEntry.Retires (parents : List Nat) : FactsEntry → Prop
  | .begun _ _ | .factsRetired | .authorityRetired | .disposed => True
  | .aborted signal => signal ∈ parents
  | .returned _ => False

/-- The operation began under the parents, and nothing has retired it since. -/
def StandsUnder (id : Nat) (parents : List Nat) (log : List FactsEntry) : Prop :=
  ∃ since before, log = since ++ .begun id parents :: before
    ∧ ∀ entry ∈ since, ¬ entry.Retires parents

/-- The operation is the one that began last, and nothing has retired it since. -/
def Stands (id : Nat) (log : List FactsEntry) : Prop := ∃ parents, StandsUnder id parents log

theorem StandsUnder.cons {id : Nat} {parents : List Nat} {log : List FactsEntry} {entry : FactsEntry}
    (h : StandsUnder id parents log) (hentry : ¬ entry.Retires parents) :
    StandsUnder id parents (entry :: log) := by
  obtain ⟨since, before, rfl, hsince⟩ := h
  exact ⟨entry :: since, before, rfl, List.forall_mem_cons.mpr ⟨hentry, hsince⟩⟩

/-! ## The slot of the coordinator -/

namespace Coordinator

variable {config : CoordinatorConfig} {s t : Coordinator} {id : Nat}

def Yields (s t : Coordinator) : Prop := ∀ id, t.active = some id → s.active = some id

theorem yields_finish (s : Coordinator) (id : Nat) : Yields s (s.finish id) := by
  intro other hother
  unfold finish at hother
  simp only at hother
  split at hother
  · cases hother
  · exact hother

theorem yields_fail (s : Coordinator) (id : Nat) : Yields s (s.fail id) := yields_finish s id

theorem yields_hydrateNext (s : Coordinator) (id : Nat) (currentCheck : Bool) :
    Yields s (s.hydrateNext id currentCheck) := by
  unfold hydrateNext
  split
  · exact yields_fail s id
  · exact fun _ h => h

theorem yields_refreshLatest (s : Coordinator) (id : Nat) (kind : RefreshKind) :
    Yields s (s.refreshLatest config id kind) := by
  unfold refreshLatest
  split
  · split
    · exact fun _ h => h
    · exact yields_fail s id
  · exact fun _ h => h

theorem yields_refreshUnlessReady (s : Coordinator) (id : Nat) :
    Yields s (s.refreshUnlessReady config id) := by
  unfold refreshUnlessReady
  split
  · exact yields_hydrateNext s id false
  · exact yields_refreshLatest s id _

theorem yields_refreshOffered (s : Coordinator) (id : Nat) :
    Yields s (s.refreshOffered config id) := by
  unfold refreshOffered
  split
  · exact yields_refreshLatest s id _
  · exact yields_fail s id

theorem yields_afterRecover (config : CoordinatorConfig) (s : Coordinator) (id : Nat)
    (kind : RefreshKind) : Yields s (s.afterRecover config id kind) := by
  cases kind with
  | currentCheck => exact yields_hydrateNext s id true
  | allowRefresh => exact yields_refreshUnlessReady s id
  | refreshSaved => exact yields_refreshOffered s id

theorem yields_afterRefresh (s : Coordinator) (id : Nat) (fresh : ScreenerRunView)
    (kind : RefreshKind) : Yields s (s.afterRefresh id fresh kind) := by
  unfold afterRefresh
  split
  · exact yields_fail s id
  · cases kind with
    | refreshSaved => exact yields_finish s id
    | _ => exact yields_hydrateNext s id false

theorem yields_takeUp (s : Coordinator) (id : Nat) (request : CompletionRequest) (started : Rat)
    (identity : Identity) (view : ScreenerRunView) (readings : ReplyReadings) :
    Yields s (s.takeUp config id request started identity view readings) := by
  unfold takeUp
  split
  · exact yields_finish s id
  · exact yields_fail _ id
  · exact yields_finish _ id
  · next deadline elapsed _ =>
    simp only
    split
    · exact yields_fail _ id
    · next after hafter =>
      have hactive : after.active = s.active := by
        unfold setExpiry at hafter
        split at hafter
        · cases hafter
          rfl
        · obtain ⟨reading, -, rfl⟩ := Option.map_eq_some_iff.mp hafter
          rfl
      have hkeeps : Yields after (after.finish id) := yields_finish after id
      unfold Yields at hkeeps ⊢
      rw [← hactive]
      split
      · exact hkeeps
      · exact hkeeps

theorem yields_resume {waiting : Waiting} {reply : Reply} {readings : ReplyReadings}
    (h : s.resume config id readings waiting reply = some t) : Yields s t := by
  cases hcurrent : s.isCurrent id readings.current with
  | false =>
    obtain rfl := resume_superseded hcurrent h
    exact yields_fail s id
  | true =>
    cases reply with
    | failed =>
      have hfailed : s.fail id = t := by
        cases waiting <;> exact Option.some.inj h
      exact hfailed ▸ yields_fail s id
    | done =>
      cases waiting <;> simp only [resume, hcurrent, if_true, reduceCtorEq] at h
      all_goals
        cases h
        exact fun _ h => h
    | view view =>
      cases waiting with
      | associate => cases h
      | hydrate => cases h
      | retain request started identity =>
        simp only [resume, hcurrent, if_true] at h
        exact Option.some.inj h ▸ yields_takeUp s id request started identity view readings
      | recover kind =>
        simp only [resume, hcurrent, if_true] at h
        exact Option.some.inj h ▸ yields_afterRecover config _ id kind
      | load kind =>
        simp only [resume, hcurrent, if_true] at h
        cases h
        exact fun _ h => h
      | refresh kind =>
        simp only [resume, hcurrent, if_true] at h
        exact Option.some.inj h ▸ yields_afterRefresh _ id view kind

def Owns (id : Nat) (t : Coordinator) : Prop := ∀ other, t.active = some other → other = id

theorem Owns.yields (h : Owns id s) (hyields : Yields s t) : Owns id t :=
  fun other hother => h other (hyields other hother)

theorem owns_beginOperation (s : Coordinator) (id : Nat) (context : Bool) :
    Owns id (s.beginOperation id context).1 := by
  intro other hother
  rcases beginOperation_cases s id context with hretired | hbegun
  · rw [hretired] at hother
    cases hother
  · rw [hbegun] at hother
    exact (Option.some.inj hother).symm

theorem owns_qualifySaved (s : Coordinator) (saved : SavedCandidate) (allowRefresh context : Bool) :
    Owns s.calls (s.qualifySaved config saved allowRefresh context) := by
  refine (owns_beginOperation ({ s with calls := s.calls + 1 }.logged (.called s.calls)) s.calls
    context).yields ?_
  simp only [qualifySaved]
  split
  · exact fun _ h => h
  split
  · split
    · exact fun _ h => h
    · exact yields_fail _ _
  split
  · split
    · exact fun _ h => h
    · exact yields_refreshUnlessReady _ _
  · exact yields_hydrateNext _ _ _

theorem owns_refreshSaved (s : Coordinator) (context : Bool) :
    Owns s.calls (s.refreshSaved config context) := by
  refine (owns_beginOperation ({ s with calls := s.calls + 1 }.logged (.called s.calls)) s.calls
    context).yields ?_
  simp only [refreshSaved]
  split
  · exact fun _ h => h
  split
  · split
    · exact fun _ h => h
    · exact yields_fail _ _
  · exact yields_refreshOffered _ _

theorem owns_complete (s : Coordinator) (request : CompletionRequest) {readings : StartReadings}
    (hcomes : s.comesToOperation readings = true) :
    Owns s.calls (s.complete config request readings) := by
  unfold comesToOperation at hcomes
  obtain ⟨hcomes, howner⟩ := Bool.and_eq_true_iff.mp hcomes
  obtain ⟨hnotified, hclock⟩ := Bool.and_eq_true_iff.mp hcomes
  obtain ⟨started, hclock⟩ := Option.isSome_iff_exists.mp hclock
  obtain ⟨identity, howner⟩ := Option.isSome_iff_exists.mp howner
  simp only [complete, hnotified, hclock, howner, Bool.not_true, Bool.false_eq_true, if_false]
  let called : Coordinator :=
    { s with run := none, route := none, calls := s.calls + 1, lastElapsed := some started }
  refine (owns_beginOperation (called.logged (.attempted ⟨s.calls, request, some (started, identity)⟩))
    s.calls readings.context).yields ?_
  split
  · exact fun _ h => h
  split
  · exact yields_fail _ _
  · exact fun _ h => h

theorem yields_complete (s : Coordinator) (request : CompletionRequest) {readings : StartReadings}
    (hcomes : s.comesToOperation readings = false) :
    Yields s (s.complete config request readings) := by
  unfold complete
  simp only
  split
  · exact fun _ h => h
  · next hnotified =>
    split
    · exact fun _ h => h
    · next started hclock =>
      split
      · exact fun _ h => h
      · next identity howner =>
        have hnotified : readings.notified = true := by simpa using hnotified
        simp [comesToOperation, hnotified, hclock, howner] at hcomes

theorem active_routeAllowed (s : Coordinator) (target : String) (document : ScreenerDocument)
    (readings : GateReadings) : (s.routeAllowed target document readings).1.active = s.active := by
  unfold routeAllowed
  split
  · rfl
  split
  · rfl
  split
  · rfl
  · simp only
    split <;> rfl

end Coordinator

/-! ## The invariant -/

namespace FactsCoordinator

variable {config : CoordinatorConfig} {s t : FactsCoordinator} {id : Nat}

/-- The operation in the slot stands, as long as none of its signals is aborted. -/
def Inv (s : FactsCoordinator) : Prop :=
  ∀ id, s.coordinator.active = some id → ∃ operation, s.operations id = some operation
    ∧ (operation.aborted = false → StandsUnder id operation.parents s.log)

theorem inv_retireWhere (hs : s.Inv) (leaves : Nat → FactsOperation → Bool) :
    (s.retireWhere leaves).Inv := by
  intro id hactive
  obtain ⟨operation, hoperation, hstands⟩ := hs id hactive
  refine ⟨{ operation with aborted := operation.aborted || leaves id operation }, ?_, ?_⟩
  · unfold retireWhere
    simp only [hoperation, Option.map_some]
  · intro hopen
    exact hstands (Bool.or_eq_false_iff.mp hopen).1

theorem inv_take (hs : s.Inv) {event : Coordinator.Event} (h : s.take config event = some t)
    (hyields : ∀ after, s.coordinator.step config event = some after →
      s.coordinator.Yields after) : t.Inv := by
  obtain ⟨after, hafter, rfl⟩ := Option.map_eq_some_iff.mp h
  apply inv_retireWhere
  intro id hactive
  exact hs id (hyields after hafter id hactive)

theorem inv_call {parents : List Nat} {event : Coordinator.Event}
    (h : s.call config parents event = some t)
    (howns : ∀ after, s.coordinator.step config event = some after →
      after.Owns s.coordinator.calls) : t.Inv := by
  obtain ⟨before, hbefore, rfl⟩ := Option.map_eq_some_iff.mp h
  obtain ⟨after, hafter, rfl⟩ := Option.map_eq_some_iff.mp hbefore
  intro id hactive
  obtain rfl : id = s.coordinator.calls := howns after hafter id hactive
  refine ⟨⟨parents, false || after.active != some s.coordinator.calls⟩, ?_, ?_⟩
  · unfold begin retireInactive retireWhere logged
    simp
  · intro _
    exact ⟨[], s.log, rfl, fun _ h => absurd h List.not_mem_nil⟩

theorem inv_logged (hs : s.Inv) {entry : FactsEntry}
    (hentry : ∀ id operation, s.coordinator.active = some id → s.operations id = some operation →
      operation.aborted = false → ¬ entry.Retires operation.parents) : (s.logged entry).Inv := by
  intro id hactive
  obtain ⟨operation, hoperation, hstands⟩ := hs id hactive
  refine ⟨operation, hoperation, fun hopen => ?_⟩
  exact (hstands hopen).cons (hentry id operation hactive hoperation hopen)

theorem inv_empty (h : s.coordinator.active = none) : s.Inv := by
  intro id hactive
  rw [h] at hactive
  cases hactive

theorem inv_abort (hs : s.Inv) (signal : Nat) : (s.abort signal).Inv := by
  unfold abort
  apply inv_logged
  · exact inv_retireWhere hs _
  · intro id operation _ hoperation hopen hmem
    unfold retireWhere at hoperation
    obtain ⟨before, -, rfl⟩ := Option.map_eq_some_iff.mp hoperation
    have hcontains : before.parents.contains signal = false := (Bool.or_eq_false_iff.mp hopen).2
    rw [List.contains_iff_mem.mpr hmem] at hcontains
    cases hcontains

theorem inv_assertCurrent (hs : s.Inv) (id : Nat) (guards : Bool) :
    (s.assertCurrent id guards).1.Inv := by
  unfold assertCurrent
  split
  · exact hs
  · exact inv_retireWhere hs _

theorem inv_reply (hs : s.Inv) {reply : Reply} {readings : ReplyReadings}
    (h : s.step config (.reply id reply readings) = some t) : t.Inv := by
  obtain ⟨after, hafter, rfl⟩ := Option.map_eq_some_iff.mp h
  have hinv : after.Inv := by
    apply inv_take hs hafter
    intro next hnext
    obtain ⟨waiting, -, hresume⟩ := Option.bind_eq_some_iff.mp hnext
    exact Coordinator.yields_resume hresume
  split
  · exact inv_logged hinv fun _ _ _ _ _ h => h
  · exact hinv

theorem inv_step (hs : s.Inv) {event : Event} (h : s.step config event = some t) : t.Inv := by
  cases event with
  | complete request readings parent extra =>
    simp only [step] at h
    split at h
    · next hcomes =>
      apply inv_call h
      intro after hafter
      exact Option.some.inj hafter ▸ Coordinator.owns_complete _ request hcomes
    · next hcomes =>
      apply inv_take hs h
      intro after hafter
      exact Option.some.inj hafter ▸
        Coordinator.yields_complete _ request (Bool.eq_false_iff.mpr hcomes)
  | qualifySaved saved allowRefresh guards parent =>
    apply inv_call h
    intro after hafter
    exact Option.some.inj hafter ▸ Coordinator.owns_qualifySaved _ saved allowRefresh _
  | preSignCandidate saved guards parent =>
    apply inv_call h
    intro after hafter
    exact Option.some.inj hafter ▸ Coordinator.owns_qualifySaved _ saved false _
  | refreshSaved guards parent =>
    apply inv_call h
    intro after hafter
    exact Option.some.inj hafter ▸ Coordinator.owns_refreshSaved _ _
  | reply id reply readings => exact inv_reply hs h
  | assertCurrent id guards => exact Option.some.inj h ▸ inv_assertCurrent hs id guards
  | assertCandidate id guards facts =>
    simp only [step] at h
    split at h
    · exact Option.some.inj h ▸ inv_assertCurrent hs id guards
    · cases h
  | abort signal => exact Option.some.inj h ▸ inv_abort hs signal
  | routeAllowed target document readings =>
    apply inv_take hs h
    intro after hafter
    have hactive := s.coordinator.active_routeAllowed target document readings
    rw [← Option.some.inj hafter]
    exact fun _ hid => hactive ▸ hid
  | expire =>
    apply inv_take hs h
    intro after hafter
    exact Option.some.inj hafter ▸ fun _ hid => hid
  | retireFacts =>
    simp only [step] at h
    obtain ⟨after, hafter, rfl⟩ := Option.map_eq_some_iff.mp h
    obtain ⟨next, hnext, rfl⟩ := Option.map_eq_some_iff.mp hafter
    exact inv_empty (Option.some.inj hnext ▸ rfl)
  | retireAuthority =>
    simp only [step] at h
    obtain ⟨after, hafter, rfl⟩ := Option.map_eq_some_iff.mp h
    obtain ⟨next, hnext, rfl⟩ := Option.map_eq_some_iff.mp hafter
    exact inv_empty (Option.some.inj hnext ▸ rfl)
  | dispose =>
    simp only [step] at h
    obtain ⟨after, hafter, rfl⟩ := Option.map_eq_some_iff.mp h
    obtain ⟨next, hnext, rfl⟩ := Option.map_eq_some_iff.mp hafter
    simp only [Coordinator.step] at hnext
    split at hnext
    · next hdisposed =>
      cases hnext
      rw [if_pos hdisposed]
      exact inv_retireWhere hs _
    · next hdisposed =>
      cases hnext
      rw [if_neg hdisposed]
      exact inv_empty rfl

/-- Only the candidate of the operation that began last is current, and only until something retires
it. -/
structure Exclusive (s : FactsCoordinator) : Prop where
  stands : ∀ id guards facts, .returned id ∈ s.log →
    (s.assertCandidate id guards facts).2 = true → Stands id s.log
  unique : ∀ id other guards guards' facts facts',
    .returned id ∈ s.log → (s.assertCandidate id guards facts).2 = true →
    .returned other ∈ s.log → (s.assertCandidate other guards' facts').2 = true → id = other

/-- A candidate that is current has its operation in the slot, and none of its signals is aborted. -/
theorem assertCandidate_passes {guards facts : Bool}
    (h : (s.assertCandidate id guards facts).2 = true) :
    s.coordinator.active = some id ∧ s.isOpen id = true := by
  unfold assertCandidate assertCurrent at h
  simp only at h
  split at h
  · next hcurrent =>
    unfold Coordinator.isCurrent at hcurrent
    simp only [Bool.and_eq_true, beq_iff_eq] at hcurrent
    exact ⟨hcurrent.2, hcurrent.1.1.2⟩
  · simp at h

theorem exclusive_of_inv (hs : s.Inv) : s.Exclusive where
  stands id guards facts _ hpasses := by
    obtain ⟨hactive, hopen⟩ := assertCandidate_passes hpasses
    obtain ⟨operation, hoperation, hstands⟩ := hs id hactive
    unfold isOpen at hopen
    rw [hoperation, Option.any_some] at hopen
    have hunaborted : operation.aborted = false := by
      simpa using (Bool.and_eq_true_iff.mp hopen).1
    exact ⟨operation.parents, hstands hunaborted⟩
  unique id other _ _ _ _ _ hpasses _ hother := by
    have hactive := (assertCandidate_passes hpasses).1
    rw [(assertCandidate_passes hother).1] at hactive
    exact (Option.some.inj hactive).symm

/-- In every run, at most one candidate is current: that of the operation that began last, as long
as nothing has retired it. -/
theorem facts_exclusive {events : List Event} {states : List FactsCoordinator}
    (h : statesOf (step config) created events = some states) :
    ∀ reached ∈ states, reached.Exclusive := by
  have hinv := statesOf_invariant (J := Inv) (P := fun _ _ => True)
    (fun _ _ _ hs _ hstep => inv_step hs hstep) (inv_empty rfl)
    (everyStep_of_forall fun _ _ _ => trivial) h
  exact fun reached hreached => exclusive_of_inv (hinv reached hreached)

section Sample

/-- An accepted attempt, and a draft that is qualified twice under the same signal. -/
def qualifiedTwice : List Event :=
  [.complete sampleRequest ⟨true, some 0, some sampleOwner, true⟩ 0 1,
    .reply 0 (.view sampleView) (sampleReply 600),
    .qualifySaved ⟨false, false⟩ false true 0, .reply 1 .done (sampleReply 600),
    .reply 1 .done (sampleReply 600),
    .qualifySaved ⟨false, false⟩ false true 0, .reply 2 .done (sampleReply 600),
    .reply 2 .done (sampleReply 600), .abort 0]

def currentOf (s : FactsCoordinator) : Bool × Bool :=
  ((s.assertCandidate 1 true true).2, (s.assertCandidate 2 true true).2)

/-- The first candidate is current until the second qualification begins, the second until its
signal is aborted. -/
theorem facts_exclusive_qualifiedTwice :
    ∃ states, statesOf (step sampleConfig) created qualifiedTwice = some states
      ∧ (states.drop 5).map currentOf
        = [(true, false), (false, true), (false, true), (false, true), (false, false)]
      ∧ ∀ reached ∈ states, reached.Exclusive := by
  have hrun : ((statesOf (step sampleConfig) created qualifiedTwice).map fun states =>
      (states.drop 5).map currentOf)
        = some [(true, false), (false, true), (false, true), (false, true), (false, false)] := by
    decide +kernel
  obtain ⟨states, hstates, hread⟩ := Option.map_eq_some_iff.mp hrun
  exact ⟨states, hstates, hread, facts_exclusive hstates⟩

end Sample

end FactsCoordinator

end FormspecWeb.Screener
