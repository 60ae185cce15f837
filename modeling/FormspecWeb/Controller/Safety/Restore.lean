import FormspecWeb.Controller.Safety.Invoke

/-!
# Restorations keep the protocol

The remaining operations of the controller: restorations, the refresh of the
application, the retry of a Sign and invalidation. With them every call of the
controller is followed from its beginning to its end (`program_safe`).
-/

namespace FormspecWeb.Controller

open Ports Engine Async

variable {config : ResponseActionControllerConfig} {F : Schedule} {t : Nat}
  {operation : Operation} {s s' : State config} {α β : Type}

/-! ## Restorations -/

structure Restoring (F : Schedule) (t : Nat) (operation : Operation) (s : State config) : Prop
    extends Running F s where
  opened : (t, operation) ∈ openOperations s.log
  unstored : storedSinceOpening t s.log = false
  unfailed : failedSinceOpening t s.log = false
  covers : ∀ version, Covers F version s

namespace Restoring

theorem of_opened (h : Running F s) (hmove : Move F t s s')
    (hlog : s'.log = .opened t operation :: s.log) (hsaved : s'.saved = none)
    (hbefore : s.saved = none) (hcurrent : s.invalidated = false)
    (hrefresh : operation ≠ .refreshApplication) : Restoring F t operation s' where
  toRunning := h.of_move hmove (by rw [hlog]; rfl)
  opened := by rw [hlog, openOperations_opened hrefresh]; exact List.mem_cons_self
  unstored := by simp [hlog, storedSinceOpening]
  unfailed := by simp [hlog, failedSinceOpening]
  covers _ hF _ := by
    have hshown : shownVersions s.log = [] := (h.wellformed.ascending hF).blank hbefore hcurrent
    refine ⟨fun version hmem => ?_, fun draft hdraft => ?_⟩
    · have hnone : version ∈ shownVersions s.log := by simpa [hlog, shownVersions] using hmem
      rw [hshown] at hnone
      cases hnone
    · rw [hsaved] at hdraft
      cases hdraft

theorem rely (h : Restoring F t operation s) (hrely : Rely F t s s') (hrunning : Running F s') :
    Restoring F t operation s' where
  toRunning := hrunning
  opened := (hrely.history.opens _).mpr h.opened
  unstored := hrely.history.stored.trans h.unstored
  unfailed := hrely.history.failed.trans h.unfailed
  covers version := (h.covers version).rely hrely h.opened

theorem passed (h : Restoring F t operation s) {evidence : PassedEvidence config}
    (he : Marks F t s (.passed t evidence)) :
    Restoring F t operation (s.note (.passed t evidence)) where
  toRunning := h.toRunning.note he
  __ := h

theorem receipt_safe (purpose : EvidencePurpose) {generation : Nat} {result : SavedResponseDraft}
    {expected : Option FormResponse} {rest : Script config β}
    {Q : Except Failure β → State config → Prop} (hpurpose : purpose ≠ .checkpoint)
    (h : Restoring F t operation s) (hagainst : Against t s.log result expected)
    (hok : ∀ s', Restoring F t operation s' →
      (lockedBy s.log = some (t, operation) → lockedBy s'.log = some (t, operation)) →
      HasPassed t s'.log result →
      (F.assentsKept = true → purpose.writesPrepared = true → assenting s'.log = []) →
      s'.invalidated = false → Safe (keeping F t) rest Q s')
    (herror : ∀ s' e, Running F s' →
      (lockedBy s.log = some (t, operation) → lockedBy s'.log = some (t, operation)) →
      Q (.error e) s') :
    Safe (keeping F t)
      (do
        checkEvidence config t purpose result expected
        current config generation
        rest) Q s := by
  refine checkEvidence_safe hpurpose h.unstored hagainst
    (fun s' hrely hrunning hkept evidence hresult hmark => ?_)
    fun s' e hrely hrunning hmark => herror _ e (hrunning.note hmark) fun hheld =>
      (hmark.lockedBy hrunning.wellformed).trans (hrely.held _ hheld)
  have hpassed := (h.rely hrely hrunning).passed hmark
  have hheld : lockedBy s.log = some (t, operation) →
      lockedBy (s'.note (.passed t evidence)).log = some (t, operation) := fun hheld =>
    (hmark.lockedBy hrunning.wellformed).trans (hrely.held _ hheld)
  exact current_safe
    (fun hcurrent => hok _ hpassed hheld ⟨evidence, List.mem_cons_self, hresult⟩ hkept
      (isCurrent_current hcurrent))
    fun _ e => herror _ e hpassed.toRunning hheld

theorem store_move (h : Restoring F t operation s) (hcurrent : s.invalidated = false)
    (hframe : Frame s s') (hlog : s'.log = .stored t s'.slots :: s.log)
    (happlication : s'.application = s.application)
    (hlookup : s'.applicationLookup = s.applicationLookup) {draft : SavedResponseDraft}
    (hsaved : s'.saved = some draft) (hpassed : HasPassed t s.log draft)
    (hprepared : s'.prepared = s.prepared ∨ s'.prepared = none
      ∨ ∃ preparation, s'.prepared = some preparation
        ∧ HasPassed t s.log preparation.toSavedResponseDraft)
    (hsigned : s'.signed = s.signed
      ∨ ∃ signature, s'.signed = some signature ∧ HasPassed t s.log signature.toSavedResponseDraft)
    (hkept : F.assentsKept = true → s'.prepared = s.prepared ∨ assenting s.log = []) :
    Move F t s s' :=
  .store
    { frame := hframe
      log := hlog
      application := happlication
      applicationLookup := hlookup
      current := hcurrent
      clear := h.clear
      clean := h.unfailed
      saved := ⟨draft, hsaved, hpassed, fun hF => (h.covers draft.draft.version hF hcurrent).1⟩
      prepared := hprepared
      signed := hsigned
      kept := hkept
      opened := ⟨operation, h.opened⟩ }

end Restoring

/-- The call holds the busy flag with an operation that is no delivery. -/
structure Holds (F : Schedule) (t : Nat) (operation : Operation) (s : State config) : Prop
    extends Running F s where
  held : lockedBy s.log = some (t, operation)

theorem Holds.rely (h : Holds F t operation s) (hrely : Rely F t s s') (hrunning : Running F s') :
    Holds F t operation s' :=
  ⟨hrunning, hrely.held _ h.held⟩

theorem Holds.released (h : Holds F t operation s) :
    Move F t s (s.unhold t operation) ∧ Running F (s.unhold t operation) :=
  have hmove : Move F t s (s.unhold t operation) := .unhold operation h.held
  ⟨hmove, h.toRunning.of_move hmove rfl⟩

theorem restoreSavedDraft_safe {value : SavedResponseDraft} (h : Running F s)
    (halone : F.restoresAlone = true → restoreOpen s.log = false) :
    Safe (keeping F t) (restoreSavedDraft config t value) (fun _ s => Running F s) s := by
  refine Safe.get (current_safe (fun hcurrent => ?_) fun _ _ => h)
  refine Safe.check (fun _ hadmits => ?_) fun _ _ => h
  obtain ⟨hsaved, hbusy⟩ : s.saved = none ∧ s.isBusy = false := by
    simp only [admitsSavedDraft, refuseIf_ok] at hadmits
    grind [Option.isNone_iff_eq_none]
  have hhold : Move F t s (s.hold t .restoreSavedDraft) :=
    .hold _ (.inl rfl) (h.free hbusy) fun hF _ => halone hF
  have hrestoring : Restoring F t .restoreSavedDraft (s.hold t .restoreSavedDraft) :=
    .of_opened h hhold rfl hsaved hsaved (isCurrent_current hcurrent) (by decide)
  have hheld : lockedBy (s.hold t .restoreSavedDraft).log = some (t, .restoreSavedDraft) := rfl
  refine Safe.modify hhold (Safe.ensuring (P := fun _ => Holds F t .restoreSavedDraft) ?_
    fun _ _ hs' => hs'.released)
  refine Safe.check (fun _ _ => ?_) fun _ _ => ⟨hrestoring.toRunning, hheld⟩
  refine hrestoring.receipt_safe .restoreSavedDraft (by decide) .restored
    (fun s₁ h₁ hheld₁ hpassed _ hcurrent₁ => ?_) fun s₁ _ h₁ hheld₁ => ⟨h₁, hheld₁ hheld⟩
  have hstore : Move F t s₁ (s₁.storeRestored t value) :=
    h₁.store_move hcurrent₁ ⟨rfl, rfl, rfl, rfl, rfl, rfl, fun _ => rfl, rfl, Nat.le_refl _⟩ rfl rfl
      rfl rfl hpassed (.inl rfl) (.inl rfl) fun _ => .inl rfl
  have hstored := h₁.toRunning.of_move hstore rfl
  refine Safe.modify hstore (publish_safe hstored ?_)
  refine awaiting_safe (l := .afterCommittedDraft) rfl fun s₂ hrely₂ h₂ _ _ _ => ?_
  have hholds : Holds F t .restoreSavedDraft s₂ := ⟨h₂, hrely₂.held _ (hheld₁ hheld)⟩
  show Safe _ (current config s.epoch) _ s₂
  exact Safe.get (by cases s₂.isCurrent s.epoch <;> exact hholds)

theorem closed_safe {body : Script config Unit} (hkey : operation.busyKey = none)
    (hbody : Safe (keeping F t) body (fun _ s => Running F s) s) :
    Safe (keeping F t) (Prog.ensuring body (State.note (.closed t operation)))
      (fun _ s => Running F s) s :=
  Safe.ensuring hbody fun _ _ hs' =>
    ⟨.mark _ (.closed operation hkey), hs'.note (.closed operation hkey)⟩

theorem opened_restoring (t : Nat) (operation : Operation) (h : Running F s) (hkey : operation.busyKey = none)
    (hsaved : s.saved = none) (hbusy : s.isBusy = false) (hcurrent : s.invalidated = false)
    (halone : F.restoresAlone = true → restoreOpen s.log = false) :
    Move F t s (s.note (.opened t operation))
      ∧ Restoring F t operation (s.note (.opened t operation)) :=
  have hmark : Move F t s (s.note (.opened t operation)) :=
    .mark _ (.opened operation hkey (h.free hbusy) halone)
  ⟨hmark, .of_opened h hmark rfl hsaved hsaved hcurrent (by rintro rfl; cases hkey)⟩

theorem storePending_safe {value : PendingResponseSigning} {wording : Wording}
    {result : RestoredPendingResponseSigning} (h : Restoring F t .restorePending s)
    (hcurrent : s.invalidated = false)
    (hpassed : HasPassed t s.log result.selected.toSavedResponseDraft)
    (hkept : F.assentsKept = true → assenting s.log = []) :
    Safe (keeping F t) (storePending config t value wording result) (fun _ s => Running F s) s := by
  cases result with
  | signed signature =>
    refine Safe.check (fun _ _ => ?_) fun _ _ => h.toRunning
    refine Safe.check (fun _ _ => ?_) fun _ _ => h.toRunning
    have hstore : Move F t s (s.storeRestoredSignature t signature) :=
      h.store_move hcurrent ⟨rfl, rfl, rfl, rfl, rfl, rfl, fun _ => rfl, rfl, Nat.le_refl _⟩ rfl
        rfl rfl rfl hpassed (.inl rfl) (.inr ⟨signature, rfl, hpassed⟩) fun _ => .inl rfl
    refine Safe.modify hstore (publish_safe (h.toRunning.of_move hstore rfl) ?_)
    exact awaiting_last_safe .afterCommittedDraft rfl fun _ _ h' _ _ _ => h'
  | prepared preparation operationId =>
    refine Safe.check (fun _ _ => ?_) fun _ _ => h.toRunning
    have hstore : Move F t s (s.storeRestoredPreparation t preparation operationId) :=
      h.store_move hcurrent ⟨rfl, rfl, rfl, rfl, rfl, rfl, fun _ => rfl, rfl, Nat.le_refl _⟩ rfl
        rfl rfl rfl hpassed (.inr (.inr ⟨preparation, rfl, hpassed⟩)) (.inl rfl)
        fun hF => .inr (hkept hF)
    have hstored := h.toRunning.of_move hstore rfl
    exact Safe.modify hstore ⟨.publish _ _ hstored.clear, hstored.publish _ _⟩

theorem restorePending_safe {value : PendingResponseSigning} (h : Running F s)
    (halone : F.restoresAlone = true → restoreOpen s.log = false) :
    Safe (keeping F t) (restorePending config t value) (fun _ s => Running F s) s := by
  refine Safe.get (current_safe (fun hcurrent => ?_) fun _ _ => h)
  refine Safe.check (fun _ hadmits => ?_) fun _ _ => h
  obtain ⟨hsaved, hbusy⟩ : s.saved = none ∧ s.isBusy = false := by
    simp only [admitsPending, refuseIf_ok] at hadmits
    grind [Option.isNone_iff_eq_none]
  obtain ⟨hopen, hrestoring⟩ := opened_restoring t .restorePending h rfl hsaved
    hbusy (isCurrent_current hcurrent) halone
  refine Safe.modify hopen (closed_safe rfl ?_)
  refine hrestoring.receipt_safe .restorePending (by decide) .restored
    (fun s₁ h₁ _ _ _ _ => ?_) fun _ _ h₁ _ => h₁
  refine Safe.check (fun admission _ => ?_) fun _ _ => h₁.toRunning
  refine Safe.check (fun _ _ => ?_) fun _ _ => h₁.toRunning
  refine Safe.ask fun callbacks => Safe.check (fun wording _ => ?_) fun _ _ => h₁.toRunning
  refine port_safe (awaiting_last_safe .restorePending rfl fun s₂ hrely₂ h₂ answer _ _ => ?_)
  have hrestoring₂ := h₁.rely hrely₂ h₂
  rcases answer with e | result
  · exact h₂
  refine current_safe (fun _ => ?_) fun _ _ => h₂
  refine hrestoring₂.receipt_safe .restoredPending (by decide) .recovered
    (fun s₃ h₃ _ hpassed hkept hcurrent₃ => ?_) fun _ _ h₃ _ => h₃
  refine Safe.check (fun _ _ => ?_) fun _ _ => h₃.toRunning
  exact storePending_safe h₃ hcurrent₃ hpassed fun hF => hkept hF rfl

theorem restoreSigned_safe {value : SignedResponseSigning} (h : Running F s)
    (halone : F.restoresAlone = true → restoreOpen s.log = false) :
    Safe (keeping F t) (restoreSigned config t value) (fun _ s => Running F s) s := by
  refine Safe.get (current_safe (fun hcurrent => ?_) fun _ _ => h)
  refine Safe.check (fun _ hadmits => ?_) fun _ _ => h
  obtain ⟨hsaved, hbusy⟩ : s.saved = none ∧ s.isBusy = false := by
    simp only [admitsSigned, refuseIf_ok] at hadmits
    grind [Option.isNone_iff_eq_none]
  obtain ⟨hopen, hrestoring⟩ := opened_restoring t .restoreSigned h rfl hsaved
    hbusy (isCurrent_current hcurrent) halone
  refine Safe.modify hopen (closed_safe rfl ?_)
  refine hrestoring.receipt_safe .restoreSigned (by decide) .restored
    (fun s₁ h₁ _ hpassed _ hcurrent₁ => ?_) fun _ _ h₁ _ => h₁
  refine Safe.ask fun callbacks => Safe.check (fun wording _ => ?_) fun _ _ => h₁.toRunning
  refine Safe.check (fun _ _ => ?_) fun _ _ => h₁.toRunning
  refine Safe.check (fun _ _ => ?_) fun _ _ => h₁.toRunning
  have hstore : Move F t s₁ (s₁.storeRestoredSigned t value) :=
    h₁.store_move hcurrent₁ ⟨rfl, rfl, rfl, rfl, rfl, rfl, fun _ => rfl, rfl, Nat.le_refl _⟩ rfl rfl
      rfl rfl hpassed (.inl rfl) (.inr ⟨value, rfl, hpassed⟩) fun _ => .inl rfl
  refine Safe.modify hstore (publish_safe (h₁.toRunning.of_move hstore rfl) ?_)
  exact awaiting_last_safe .afterCommittedDraft rfl fun _ _ h' _ _ _ => h'

theorem refreshApplication_safe (h : Running F s) :
    Safe (keeping F t) (refreshApplication config t) (fun _ s => Running F s) s := by
  refine Safe.get (current_safe (fun _ => ?_) fun _ _ => h)
  refine Safe.check (fun _ hadmits => ?_) fun _ _ => h
  have hbusy : s.isBusy = false := by
    rw [refuseIf_ok] at hadmits
    grind
  have hhold : Move F t s (s.hold t .refreshApplication) :=
    .hold _ (.inr rfl) (h.free hbusy) nofun
  have hholds : Holds F t .refreshApplication (s.hold t .refreshApplication) :=
    ⟨h.of_move hhold rfl, rfl⟩
  refine Safe.modify hhold (Safe.ensuring (P := fun _ => Holds F t .refreshApplication) ?_
    fun _ s' hs' => hs'.released)
  refine port_safe (awaiting_last_safe .loadApplication rfl fun s₁ hrely₁ h₁ answer _ _ => ?_)
  have hholds₁ := hholds.rely hrely₁ h₁
  rcases answer with e | receipt
  · exact hholds₁
  refine current_safe (fun hcurrent => ?_) fun _ _ => hholds₁
  refine Safe.get (Safe.check (fun _ _ => ?_) fun _ _ => hholds₁)
  have hlearn : Move F t s₁ (s₁.storeLoaded receipt) :=
    .learn (isCurrent_current hcurrent)
      ⟨rfl, rfl, rfl, rfl, rfl, rfl, fun _ => rfl, rfl, Nat.le_refl _⟩ rfl rfl
  have hlearnt := h₁.of_move hlearn rfl
  exact Safe.modify hlearn ⟨.publish _ _ hlearnt.clear, hlearnt.publish _ _, hholds₁.held⟩

theorem retireSignRetry_safe (h : Running F s) :
    Safe (keeping F t) (retireSignRetry config) (fun _ s => Running F s) s := by
  have hretire : Move F t s s.retireSignRetry :=
    .quiet ⟨rfl, rfl, rfl, rfl, rfl, rfl,
      fun id => by simp only [State.retireSignRetry, Option.map_map]; rfl, rfl,
      Nat.le_refl _⟩ rfl rfl rfl rfl
  have hretired := h.of_move hretire rfl
  exact Safe.modify hretire (Safe.get ⟨.publish _ _ hretired.clear, hretired.publish _ _⟩)

theorem retrySign_safe (h : Running F s) :
    Safe (keeping F t) (retrySign config t) (fun _ s => Running F s) s := by
  refine Safe.get ?_
  split
  · exact h
  · refine current_safe (fun _ => ?_) fun _ _ => h
    refine Safe.check (fun retry _ => ?_) fun _ _ => h
    refine Safe.check (fun _ _ => ?_) fun _ _ => h
    have hbegin : Move F t s (s.beginRetry t) :=
      .quiet ⟨rfl, rfl, rfl, rfl, rfl, rfl, fun _ => rfl, rfl, Nat.le_refl _⟩ rfl rfl rfl rfl
    refine Safe.modify hbegin (Safe.bind (widgetExecutor_safe (h.of_move hbegin rfl))
      (fun _ s₁ h₁ => ?_) fun _ _ h₁ => h₁)
    refine awaiting_safe (l := .tick) rfl fun s₂ _ h₂ _ _ _ => ?_
    have hend : Move F t s₂ (s₂.endRetry t) :=
      .quiet ⟨rfl, rfl, rfl, rfl, rfl, rfl, fun _ => rfl, rfl, Nat.le_refl _⟩ rfl rfl rfl rfl
    exact ⟨hend, h₂.of_move hend rfl⟩

theorem invalidate_safe (h : Running F s) :
    Safe (keeping F t) (invalidate config) (fun _ s => Running F s) s := by
  have hinvalidate : Move F t s s.invalidate := .invalidate h.clear
  have hinvalidated := h.of_move hinvalidate rfl
  exact Safe.modify hinvalidate ⟨.publish _ _ hinvalidated.clear, hinvalidated.publish _ _⟩

theorem program_safe {op : Begin} (hw : Wellformed F s) (hbegins : F.begins s op = true) :
    Safe (keeping F t) (program config t op) (fun _ _ => True) s := by
  have hclear : F.clear s = true ∧ (F.restoresAlone = true → op.isRestore = true →
      restoreOpen s.log = false) := by
    simp only [Schedule.begins] at hbegins
    grind
  have h : Running F s := ⟨hw, hclear.1⟩
  have htrue : ∀ {γ : Type} {body : Script config γ},
      Safe (keeping F t) body (fun _ s => Running F s) s →
      Safe (keeping F t) body (fun _ _ => True) s := fun hbody => hbody.mono fun _ _ _ => trivial
  cases op with
  | definition request => exact htrue (invokeDefinitionAction_safe h)
  | widget request => exact htrue (widgetExecutor_safe h)
  | retireSignRetry => exact htrue (retireSignRetry_safe h)
  | retrySign => exact htrue (retrySign_safe h)
  | refreshApplication => exact htrue (refreshApplication_safe h)
  | restoreSavedDraft value =>
    exact htrue (restoreSavedDraft_safe h fun hF => hclear.2 hF rfl)
  | restorePending value => exact htrue (restorePending_safe h fun hF => hclear.2 hF rfl)
  | restoreSigned value => exact htrue (restoreSigned_safe h fun hF => hclear.2 hF rfl)
  | invalidate => exact htrue (invalidate_safe h)

end FormspecWeb.Controller
