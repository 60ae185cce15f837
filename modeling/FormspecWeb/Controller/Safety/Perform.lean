import FormspecWeb.Controller.Safety.Script

/-!
# An admitted call keeps the protocol

What a call knows between its admission and its release: it holds the busy flag
(`Owns`), no completion has been accepted and its delivery is retained (`Vacant`),
and nothing was stored, failed or left unknown yet (`Ready`). Each operation is
followed from `Ready` to `Ends`.
-/

namespace FormspecWeb.Controller

open Ports Engine Async

variable {config : ResponseActionControllerConfig} {F : Schedule} {t : Nat}
  {role : ResponseActionRole} {id : String} {p : Nat} {operationId : String}
  {s s' : State config} {α β : Type}

/-! ## What an admitted call knows -/

/-- Call `t` holds the controller busy with a delivery whose promise is `p`. -/
structure Owns (F : Schedule) (t : Nat) (role : ResponseActionRole) (id : String) (p : Nat)
    (s : State config) : Prop extends Running F s where
  held : lockedBy s.log = some (t, .action role id)
  promised : ∃ promise, s.promises p = some promise ∧ promise.role = role ∧ promise.deliveryId = id

/-- No completion was accepted, and the delivery runs under its operation id. -/
structure Vacant (F : Schedule) (t : Nat) (role : ResponseActionRole) (id : String) (p : Nat)
    (operationId : String) (s : State config) : Prop extends Owns F t role id p s where
  opened : (t, .action role id) ∈ openOperations s.log
  vacant : s.invalidated = false → s.completionResult = none
  delivery : s.invalidated = false →
    ∃ delivery, s.deliveries id = some delivery ∧ delivery.operationId = operationId

def Undone (id : String) (s : State config) : Prop :=
  ∀ delivery, s.deliveries id = some delivery → delivery.completed = none

theorem Undone.rely (h : Undone id s) (hrely : Rely F t s s') (hrunning : Running F s')
    (hheld : lockedBy s.log = some (t, .action role id)) : Undone id s' := by
  intro delivery hdelivery
  cases hinv : s'.invalidated with
  | true =>
    rw [(hrunning.wellformed.cleared hinv).2 id] at hdelivery
    cases hdelivery
  | false =>
    have hcore := hrely.delivery role id hheld hinv
    rw [hdelivery] at hcore
    obtain ⟨old, hold, hsame⟩ := Option.map_eq_some_iff.mp hcore.symm
    exact (core_eq hsame).2.2.2.2.symm.trans (h old hold)

theorem Undone.update (h : Undone id s) {f : Delivery → Delivery}
    (hf : ∀ delivery, (f delivery).completed = delivery.completed) :
    Undone id (s.updateDelivery id f) := by
  intro delivery hdelivery
  simp only [State.updateDelivery, Function.update_self] at hdelivery
  obtain ⟨old, hold, rfl⟩ := Option.map_eq_some_iff.mp hdelivery
  rw [hf old]
  exact h old hold

theorem Completed.rely {outputs : Outputs} (h : Completed id outputs s) (hrely : Rely F t s s')
    (hheld : lockedBy s.log = some (t, .action role id)) : Completed id outputs s' := by
  intro hcurrent
  obtain ⟨old, hold, hdone⟩ := h (hrely.before hcurrent)
  have hcore := hrely.delivery role id hheld hcurrent
  rw [hold] at hcore
  obtain ⟨delivery, hdelivery, hsame⟩ := Option.map_eq_some_iff.mp hcore
  exact ⟨delivery, hdelivery, (core_eq hsame).2.2.2.2.trans hdone⟩

/-- Since its admission the call stored nothing, failed no check, met no unknown
outcome and kept no outputs. -/
structure Ready (F : Schedule) (t : Nat) (role : ResponseActionRole) (id : String) (p : Nat)
    (operationId : String) (s : State config) : Prop extends Vacant F t role id p operationId s where
  unstored : storedSinceOpening t s.log = false
  unfailed : failedSinceOpening t s.log = false
  unspent : unknownSinceOpening t s.log = false
  undone : Undone id s

namespace Owns

section

variable (h : Owns F t role id p s)
include h

theorem of_move (hmove : Move F t s s') (hunchecked : uncheckedBy s'.log = uncheckedBy s.log)
    (hlock : lockedBy s'.log = lockedBy s.log) (hpromises : KeepsPromises s s') :
    Owns F t role id p s' where
  toRunning := h.toRunning.of_move hmove hunchecked
  held := hlock.trans h.held
  promised := by
    obtain ⟨promise, hp, hrole, hid⟩ := h.promised
    obtain ⟨promise', hp', hrole', hid'⟩ := hpromises p promise hp
    exact ⟨promise', hp', hrole'.trans hrole, hid'.trans hid⟩

theorem rely (hrely : Rely F t s s') (hrunning : Running F s') :
    Owns F t role id p s' where
  toRunning := hrunning
  held := hrely.held _ h.held
  promised := by
    obtain ⟨promise, hp, hrole, hid⟩ := h.promised
    obtain ⟨promise', hp', hrole', hid'⟩ := hrely.promise p promise hp
    exact ⟨promise', hp', hrole'.trans hrole, hid'.trans hid⟩

theorem publish (phase : Phase)
    (reason : Option ResponseActionControllerReason) : Owns F t role id p (s.publish phase reason) :=
  h.of_move (.publish phase reason h.clear) rfl rfl (.of_eq rfl)

theorem note {e : Entry config} (he : Marks F t s e) :
    Owns F t role id p (s.note e) where
  toRunning := h.toRunning.note he
  held := (he.lockedBy h.wellformed).trans h.held
  promised := h.promised

theorem update {f : Delivery → Delivery} (hf : Updates s role id f) :
    Owns F t role id p (s.updateDelivery id f) :=
  h.of_move (.update role id f h.held hf) rfl rfl (.of_eq rfl)

end

end Owns

namespace Vacant

section

variable (h : Vacant F t role id p operationId s)
include h

theorem rely (hrely : Rely F t s s')
    (hrunning : Running F s') : Vacant F t role id p operationId s' where
  toOwns := h.toOwns.rely hrely hrunning
  opened := (hrely.history.opens _).mpr h.opened
  vacant hcurrent := by
    exact (hrely.completion _ h.held hcurrent).trans (h.vacant (hrely.before hcurrent))
  delivery hcurrent := by
    obtain ⟨old, hold, hoperation⟩ := h.delivery (hrely.before hcurrent)
    have hcore := hrely.delivery role id h.held hcurrent
    rw [hold] at hcore
    obtain ⟨delivery, hdelivery, hsame⟩ := Option.map_eq_some_iff.mp hcore
    exact ⟨delivery, hdelivery, (core_eq hsame).2.1.trans hoperation⟩

theorem publish (phase : Phase)
    (reason : Option ResponseActionControllerReason) :
    Vacant F t role id p operationId (s.publish phase reason) where
  toOwns := h.toOwns.publish phase reason
  __ := h

theorem note {e : Entry config} (he : Marks F t s e)
    (hopen : openOperations (e :: s.log) = openOperations s.log) :
    Vacant F t role id p operationId (s.note e) where
  toOwns := h.toOwns.note he
  opened := by
    show _ ∈ openOperations (e :: s.log)
    rw [hopen]
    exact h.opened
  __ := h

theorem keyed (hcurrent : s.invalidated = false)
    {call : PortCall} (hcall : ∀ other, call.operationId = some other → other = operationId) :
    Keyed t s call := by
  obtain ⟨delivery, hdelivery, rfl⟩ := h.delivery hcurrent
  exact ⟨role, id, delivery, h.held, hdelivery, hcall⟩

end

end Vacant

namespace Ready

theorem rely (h : Ready F t role id p operationId s) (hrely : Rely F t s s')
    (hrunning : Running F s') : Ready F t role id p operationId s' where
  toVacant := h.toVacant.rely hrely hrunning
  unstored := hrely.history.stored.trans h.unstored
  unfailed := hrely.history.failed.trans h.unfailed
  unspent := hrely.history.unknown.trans h.unspent
  undone := h.undone.rely hrely hrunning h.held

theorem called (h : Ready F t role id p operationId s) {call : PortCall}
    (he : Marks F t s (.called t call)) :
    Ready F t role id p operationId (s.note (.called t call)) where
  toVacant := h.toVacant.note he rfl
  __ := h

theorem passed (h : Ready F t role id p operationId s) {evidence : PassedEvidence config}
    (he : Marks F t s (.passed t evidence)) :
    Ready F t role id p operationId (s.note (.passed t evidence)) where
  toVacant := h.toVacant.note he rfl
  __ := h

end Ready

/-- How an operation ends: it still holds the controller, the outputs of a Submit
are those of the accepted completion, and the outputs are kept. -/
def Ends (F : Schedule) (t : Nat) (role : ResponseActionRole) (id : String) (p : Nat) :
    Except Failure Outputs → State config → Prop :=
  fun result s => Owns F t role id p s
    ∧ (∀ outputs, role = .submit → result = .ok outputs → Confirms s.log id outputs)
    ∧ ∀ outputs, role.keepsOutputs = true → result = .ok outputs → Completed id outputs s

theorem Owns.failed (h : Owns F t role id p s) (e : Failure) :
    Ends F t role id p (.error e) s := by
  refine ⟨h, fun _ _ hok => ?_, fun _ _ hok => ?_⟩
  · cases hok
  · cases hok

theorem Owns.returned (h : Owns F t role id p s) (hrole : role ≠ .submit) {outputs : Outputs}
    (hkept : role.keepsOutputs = true → Completed id outputs s) : Ends F t role id p (.ok outputs) s := by
  refine ⟨h, fun _ hsubmit => absurd hsubmit hrole, fun other hkeeps hok => ?_⟩
  obtain rfl : outputs = other := by simpa using hok
  exact hkept hkeeps

/-- A version at least as new as everything shown or about to be shown. -/
def Covers (F : Schedule) (version : Int) (s : State config) : Prop :=
  F.restoresAlone = true → s.invalidated = false →
    (∀ shown ∈ shownVersions s.log, shown ≤ version)
      ∧ ∀ draft, s.saved = some draft → draft.draft.version ≤ version

theorem Covers.of_exceeds {version : Int}
    (h : F.restoresAlone = true → exceedsShown s version = true) : Covers F version s := by
  intro hF _
  have hexceeds := h hF
  simp only [exceedsShown, Bool.and_eq_true, List.all_eq_true, decide_eq_true_eq] at hexceeds
  refine ⟨fun shown hshown => Int.le_of_lt (hexceeds.1 shown hshown), fun draft hdraft => ?_⟩
  have hsaved := hexceeds.2
  rw [hdraft] at hsaved
  exact Int.le_of_lt (by simpa using hsaved)

theorem Covers.rely {version : Int} (h : Covers F version s) (hrely : Rely F t s s')
    {operation : Operation} (hopened : (t, operation) ∈ openOperations s.log) :
    Covers F version s' := by
  intro hF hcurrent
  obtain ⟨hshown, hsaved⟩ := h hF (hrely.before hcurrent)
  obtain ⟨hsame, hnew⟩ := hrely.saved hF operation hopened hcurrent
  refine ⟨fun shown hmem => ?_, fun draft hdraft => hsaved draft (hsame ▸ hdraft)⟩
  rcases hnew shown hmem with hold | hslot
  · exact hshown shown hold
  · obtain ⟨draft, hdraft, rfl⟩ := Option.map_eq_some_iff.mp hslot
    exact hsaved draft hdraft

/-! ## Save, Prepare and Sign -/

variable {result : SavedResponseDraft}

section

variable (h : Ready F t role id p operationId s) (hcurrent : s.invalidated = false)
include h hcurrent

theorem storeSaved_move (hpassed : HasPassed t s.log result)
    (hcovers : Covers F result.draft.version s)
    (hkept : F.assentsKept = true → assenting s.log = []) : Move F t s (s.storeSaved t result) :=
  .store
    { frame := ⟨rfl, rfl, rfl, rfl, rfl, rfl, fun _ => rfl, rfl, Nat.le_refl _⟩
      log := rfl
      application := rfl
      applicationLookup := rfl
      current := hcurrent
      clear := h.clear
      clean := h.unfailed
      saved := ⟨result, rfl, hpassed, fun hF => (hcovers hF hcurrent).1⟩
      prepared := .inr (.inl rfl)
      signed := .inl rfl
      kept := fun hF => .inr (hkept hF)
      opened := ⟨_, h.opened⟩ }

theorem storePrepared_move {preparation : PreparedResponseSigning}
    (hpassed : HasPassed t s.log preparation.toSavedResponseDraft)
    (hcovers : Covers F preparation.draft.version s)
    (hkept : F.assentsKept = true → assenting s.log = []) :
    Move F t s (s.storePrepared t preparation) :=
  .store
    { frame := ⟨rfl, rfl, rfl, rfl, rfl, rfl, fun _ => rfl, rfl, Nat.le_refl _⟩
      log := rfl
      application := rfl
      applicationLookup := rfl
      current := hcurrent
      clear := h.clear
      clean := h.unfailed
      saved := ⟨_, rfl, hpassed, fun hF => (hcovers hF hcurrent).1⟩
      prepared := .inr (.inr ⟨preparation, rfl, hpassed⟩)
      signed := .inl rfl
      kept := fun hF => .inr (hkept hF)
      opened := ⟨_, h.opened⟩ }

theorem storeSigned_move {signature : SignedResponseSigning}
    (hpassed : HasPassed t s.log signature.toSavedResponseDraft)
    (hcovers : Covers F signature.draft.version s) : Move F t s (s.storeSigned t signature) :=
  .store
    { frame := ⟨rfl, rfl, rfl, rfl, rfl, rfl, fun _ => rfl, rfl, Nat.le_refl _⟩
      log := rfl
      application := rfl
      applicationLookup := rfl
      current := hcurrent
      clear := h.clear
      clean := h.unfailed
      saved := ⟨_, rfl, hpassed, fun hF => (hcovers hF hcurrent).1⟩
      prepared := .inl rfl
      signed := .inr ⟨signature, rfl, hpassed⟩
      kept := fun _ => .inl rfl
      opened := ⟨_, h.opened⟩ }

end

theorem Completed.update {outputs : Outputs} {f : Delivery → Delivery}
    (h : s.invalidated = false → ∃ delivery, s.deliveries id = some delivery)
    (hf : ∀ delivery, (f delivery).completed = some outputs) :
    Completed id outputs (s.updateDelivery id f) := by
  intro hcurrent
  obtain ⟨delivery, hdelivery⟩ := h hcurrent
  exact ⟨f delivery, by simp [State.updateDelivery, hdelivery], hf delivery⟩

structure Unfinished (id : String) (s : State config) : Prop where
  present : s.invalidated = false → ∃ delivery, s.deliveries id = some delivery
  undone : Undone id s

theorem Ready.unfinished (h : Ready F t role id p operationId s) : Unfinished id s where
  present hcurrent := by
    obtain ⟨delivery, hdelivery, -⟩ := h.delivery hcurrent
    exact ⟨delivery, hdelivery⟩
  undone := h.undone

variable {request : Option RuntimeRequest}

variable {call : Call}

theorem finish_safe
    (h : Owns F t call.role call.deliveryId p s) (hrole : call.role ≠ .submit)
    (hunfinished : Unfinished call.deliveryId s) :
    Safe (keeping F t) (finish config call request result) (Ends F t call.role call.deliveryId p)
      s := by
  refine Safe.check (fun request _ => ?_) fun e _ => h.failed e
  refine Safe.check (fun outputs _ => ?_) fun e _ => h.failed e
  have hupdates : Updates s call.role call.deliveryId fun delivery =>
      { delivery with
        retired := delivery.retired || call.role.isSave || call.role == .prepare
        completed := some outputs } :=
    { identity := fun _ => rfl
      operationId := fun _ => rfl
      pending := fun _ => rfl
      preparation := fun _ _ => .inr rfl
      completed := fun _ _ hsubmit => absurd hsubmit hrole
      kept := fun delivery _ hdelivery hdone => by
        rw [hunfinished.undone delivery hdelivery] at hdone
        cases hdone
      retired := fun _ hretired => by simp [hretired]
      retires := fun _ _ hretires _ => .inr (by
        rw [Bool.or_assoc, hretires]
        exact Bool.or_true _)
      retiring := fun delivery hretired => by
        rw [Bool.or_assoc, Bool.or_eq_true] at hretired
        exact hretired }
  refine Safe.modify (.update _ _ _ h.held hupdates) ?_
  have howns := h.update hupdates
  have hcompleted : Completed call.deliveryId outputs (s.updateDelivery call.deliveryId fun delivery =>
      { delivery with
        retired := delivery.retired || call.role.isSave || call.role == .prepare
        completed := some outputs }) :=
    Completed.update hunfinished.present fun _ => rfl
  refine awaiting_safe (l := .afterCommittedDraft) rfl fun s' hrely hrunning _ _ _ => ?_
  exact (howns.rely hrely hrunning).returned hrole fun _ => hcompleted.rely hrely howns.held

theorem receipt_safe (purpose : EvidencePurpose) {generation : Nat}
    {expected : Option FormResponse} {rest : Script config Outputs}
    (hpurpose : purpose ≠ .checkpoint) (h : Ready F t role id p operationId s)
    (hagainst : Against t s.log result expected) (hcovers : Covers F result.draft.version s)
    (hok : ∀ s', Ready F t role id p operationId s' → s'.invalidated = false →
      HasPassed t s'.log result → Covers F result.draft.version s' →
      (F.assentsKept = true → purpose.writesPrepared = true → assenting s'.log = []) →
      Safe (keeping F t) rest (Ends F t role id p) s') :
    Safe (keeping F t)
      (do
        current config generation
        checkEvidence config t purpose result expected
        current config generation
        rest)
      (Ends F t role id p) s := by
  refine current_safe (fun _ => ?_) fun _ => h.failed
  refine checkEvidence_safe hpurpose h.unstored hagainst
    (fun s' hrely hrunning hkept evidence hresult hmark => ?_)
    fun s' e hrely hrunning hmark => ((h.rely hrely hrunning).toOwns.note hmark).failed e
  have hready := (h.rely hrely hrunning).passed hmark
  have hcovers' : Covers F result.draft.version s' := hcovers.rely hrely h.opened
  exact current_safe
    (fun hcurrent => hok _ hready (isCurrent_current hcurrent)
      ⟨evidence, List.mem_cons_self, hresult⟩ hcovers' hkept)
    fun _ => hready.failed

theorem stored_safe
    {g : State config → State config} {phase : Phase} (hrole : call.role ≠ .submit)
    (h : Ready F t call.role call.deliveryId p operationId s) (hmove : Move F t s (g s))
    (hunchecked : uncheckedBy (g s).log = uncheckedBy s.log)
    (hlock : lockedBy (g s).log = lockedBy s.log) (hpromises : (g s).promises = s.promises)
    (hdeliveries : (g s).deliveries = s.deliveries) (hinvalidated : (g s).invalidated = s.invalidated) :
    Safe (keeping F t)
      (do
        Prog.modify g
        publish config phase none
        finish config call request result)
      (Ends F t call.role call.deliveryId p) s := by
  have hstored := h.toOwns.of_move hmove hunchecked hlock (.of_eq hpromises)
  have hunfinished : Unfinished call.deliveryId ((g s).publish phase none) := by
    refine ⟨fun hcurrent => ?_, fun delivery hdelivery => ?_⟩
    · rw [show ((g s).publish phase none).deliveries = s.deliveries from hdeliveries]
      exact h.unfinished.present (hinvalidated ▸ hcurrent)
    · exact h.undone delivery (hdeliveries ▸ hdelivery)
  exact Safe.modify hmove (publish_safe hstored.toRunning
    (finish_safe (hstored.publish _ _) hrole hunfinished))

theorem save_safe
    (h : Ready F t call.role call.deliveryId p operationId s) (hrole : call.role ≠ .submit)
    (hcurrent : s.invalidated = false) :
    Safe (keeping F t) (save config t call request operationId)
      (Ends F t call.role call.deliveryId p) s := by
  have hcall : Marks F t s (.called t (.saveDraft call.response operationId call.admission)) :=
    .called _ hcurrent (h.vacant hcurrent) (.saveDraft _ _ _)
      (h.toVacant.keyed hcurrent fun _ heq => (Option.some.inj heq).symm)
  refine note_safe hcall (port_safe (awaiting_last_safe (.saveDraft .save) rfl
    fun s₁ hrely hrunning answer hresumes _ => ?_))
  have h₁ := (h.called hcall).rely hrely hrunning
  rcases answer with e | result
  · exact h₁.failed e
  have hcovers : Covers F result.draft.version s₁ := .of_exceeds fun hF => by
    simpa [Schedule.resumes, hF, hrunning.clear] using hresumes
  refine receipt_safe .save (by decide) h₁ (.saved _ _ _ (hrely.history.kept _ List.mem_cons_self))
    hcovers fun s₂ h₂ hcurrent₂ hpassed hcovers₂ hkept => ?_
  have hstore := storeSaved_move h₂ hcurrent₂ hpassed hcovers₂ fun hF => hkept hF rfl
  exact stored_safe hrole h₂ hstore rfl rfl rfl rfl rfl

variable {wording : Wording}

theorem prepare_safe
    (h : Ready F t call.role call.deliveryId p operationId s) (hrole : call.role ≠ .submit)
    (hcurrent : s.invalidated = false) :
    Safe (keeping F t) (prepare config t call request wording)
      (Ends F t call.role call.deliveryId p) s := by
  have hcall : Marks F t s (.called t (.prepare call.response wording call.admission)) :=
    .called _ hcurrent (h.vacant hcurrent) (.prepare _ _ _)
      (h.toVacant.keyed hcurrent nofun)
  refine note_safe hcall (port_safe (awaiting_last_safe .prepare rfl
    fun s₁ hrely hrunning answer hresumes _ => ?_))
  have h₁ := (h.called hcall).rely hrely hrunning
  rcases answer with e | preparation
  · exact h₁.failed e
  have hcovers : Covers F preparation.draft.version s₁ := .of_exceeds fun hF => by
    simpa [Schedule.resumes, hF, hrunning.clear] using hresumes
  refine receipt_safe .prepare (by decide) h₁ (.prepared _ _ _ (hrely.history.kept _ List.mem_cons_self))
    hcovers fun s₂ h₂ hcurrent₂ hpassed hcovers₂ hkept => ?_
  refine Safe.check (fun _ _ => ?_) fun e _ => h₂.failed e
  have hstore := storePrepared_move h₂ hcurrent₂ hpassed hcovers₂ fun hF => hkept hF rfl
  exact stored_safe hrole h₂ hstore rfl rfl rfl rfl rfl

/-- The preparation a Sign is about to sign is the one it assented to, where the
schedule keeps it. -/
def Assented (F : Schedule) (t : Nat) (s : State config) : Prop :=
  ∃ assent, lastAssent t s.log = some assent ∧ assent.role = .sign
    ∧ (F.assentsKept = true → s.prepared = some assent.preparation)

variable {Q : Except Failure β → State config → Prop}

variable {f : Unit → Script config β}

theorem reviewAgain_safe {subject : Option PreparedResponseSigning}
    (hok : Safe (keeping F t) (f ()) Q s) (herror : ∀ e, Q (.error e) s) :
    Safe (keeping F t) (reviewAgain config subject wording >>= f) Q s := by
  refine Safe.of_andThen (Safe.ask fun callbacks => ?_)
  refine Safe.check (fun subject _ => ?_) fun e _ => herror e
  cases hreview : review subject wording callbacks.reviewReady with
  | ok _ => exact hok
  | error e => exact herror e

theorem reviewUnlessRecovering_safe {recoveringSign : Bool}
    {prepared : Option PreparedResponseSigning} (hok : Safe (keeping F t) (f ()) Q s)
    (herror : ∀ e, Q (.error e) s) :
    Safe (keeping F t) (reviewUnlessRecovering config recoveringSign prepared wording >>= f) Q s := by
  cases recoveringSign with
  | true => exact hok
  | false => exact reviewAgain_safe hok herror

theorem retainSignRetry_safe (h : Ready F t call.role call.deliveryId p operationId s)
    (hok : ∀ s', Ready F t call.role call.deliveryId p operationId s' → s'.log = s.log →
      s'.prepared = s.prepared → s'.invalidated = s.invalidated → Safe (keeping F t) (f ()) Q s') :
    Safe (keeping F t) (retainSignRetry config call >>= f) Q s := by
  unfold retainSignRetry
  split
  · have hupdates : Updates s call.role call.deliveryId fun delivery =>
        { delivery with signRetry := call.signRetry } :=
      .of_completed (fun _ => rfl) (fun _ => rfl) (fun _ => rfl) (fun _ _ => .inr rfl) (fun _ => rfl)
        fun _ => rfl
    refine Safe.modify (.update _ _ _ h.held hupdates) (hok _ ?_ rfl rfl rfl)
    exact
      { toOwns := h.toOwns.update hupdates
        opened := h.opened
        vacant := h.vacant
        delivery := fun hcurrent => by
          obtain ⟨delivery, hdelivery, hoperation⟩ := h.delivery hcurrent
          exact ⟨{ delivery with signRetry := call.signRetry },
            by simp [State.updateDelivery, hdelivery], hoperation⟩
        unstored := h.unstored
        unfailed := h.unfailed
        unspent := h.unspent
        undone := h.undone.update fun _ => rfl }
  · exact hok s h rfl rfl rfl

theorem sign_safe
    {recoveringSign : Bool} (h : Ready F t call.role call.deliveryId p operationId s)
    (hrole : call.role ≠ .submit) (hcurrent : s.invalidated = false) (hassented : Assented F t s) :
    Safe (keeping F t) (sign config t call request operationId wording recoveringSign)
      (Ends F t call.role call.deliveryId p) s := by
  refine Safe.get (reviewUnlessRecovering_safe ?_ h.failed)
  refine retainSignRetry_safe h fun s₀ h₀ hlog hprepared hinvalidated => ?_
  obtain ⟨assent, hassent, hsign, hkept⟩ := hassented
  have hcurrent₀ : s₀.invalidated = false := hinvalidated.trans hcurrent
  have hcall : Marks F t s₀ (.called t (.sign s.prepared operationId call.admission)) :=
    .called _ hcurrent₀ (h₀.vacant hcurrent₀)
      (.sign _ _ _ assent (hlog ▸ hassent) hsign fun hF => hkept hF)
      (h₀.toVacant.keyed hcurrent₀ fun _ heq => (Option.some.inj heq).symm)
  refine note_safe hcall (port_safe (awaiting_last_safe .sign rfl
    fun s₁ hrely hrunning answer hresumes _ => ?_))
  have h₁ := (h₀.called hcall).rely hrely hrunning
  rcases answer with e | signature
  · exact h₁.failed e
  have hcovers : Covers F signature.draft.version s₁ := .of_exceeds fun hF => by
    simpa [Schedule.resumes, hF, hrunning.clear] using hresumes
  refine receipt_safe .sign (by decide) h₁ (.signed _ _ _ (hrely.history.kept _ List.mem_cons_self))
    hcovers fun s₂ h₂ hcurrent₂ hpassed hcovers₂ _ => ?_
  refine Safe.get (Safe.check (fun _ _ => ?_) fun e _ => h₂.failed e)
  have hstore := storeSigned_move h₂ hcurrent₂ hpassed hcovers₂
  exact stored_safe hrole h₂ hstore rfl rfl rfl rfl rfl

/-! ## Submit -/

/-- The completion preparation of a delivery is captured while it has none. -/
def Uncaptured (id : String) (s : State config) : Prop :=
  ∀ delivery, s.deliveries id = some delivery → delivery.completionPreparation = none

theorem Uncaptured.rely (h : Uncaptured id s) (hrely : Rely F t s s') (hrunning : Running F s')
    (hheld : lockedBy s.log = some (t, .action role id)) : Uncaptured id s' := by
  intro delivery hdelivery
  cases hinv : s'.invalidated with
  | true =>
    rw [(hrunning.wellformed.cleared hinv).2 id] at hdelivery
    cases hdelivery
  | false =>
    have hcore := hrely.delivery role id hheld hinv
    rw [hdelivery] at hcore
    obtain ⟨old, hold, hsame⟩ := Option.map_eq_some_iff.mp hcore.symm
    exact (core_eq hsame).2.2.2.1.symm.trans (h old hold)

def Captured (id : String) (s : State config) : Prop :=
  s.invalidated = false → (retainedPreparation s id).isSome = true

def Stays (F : Schedule) (t : Nat) (role : ResponseActionRole) (id : String) (p : Nat)
    (P : State config → Prop) : Except Failure Unit → State config → Prop
  | .ok _ => P
  | .error _ => Owns F t role id p

variable {completion : ResponseCompletion}

theorem captureCompletion_safe (h : Ready F t call.role call.deliveryId p operationId s)
    (huncaptured : Uncaptured call.deliveryId s) :
    Safe (keeping F t) (captureCompletion config call completion)
      (Stays F t call.role call.deliveryId p fun s =>
        Ready F t call.role call.deliveryId p operationId s ∧ Captured call.deliveryId s) s := by
  refine port_safe (awaiting_last_safe .captureSubmitOptions rfl
    fun s₁ hrely₁ hrunning₁ answer _ _ => ?_)
  have h₁ := h.rely hrely₁ hrunning₁
  have huncaptured₁ := huncaptured.rely hrely₁ hrunning₁ h.held
  rcases answer with e | submitOptions
  · exact h₁.toOwns
  refine current_safe (fun _ => ?_) fun _ _ => h₁.toOwns
  refine Safe.check (fun _ _ => ?_) fun _ _ => h₁.toOwns
  refine port_safe (awaiting_last_safe .capture rfl fun s₂ hrely₂ hrunning₂ answer _ _ => ?_)
  have h₂ := h₁.rely hrely₂ hrunning₂
  have huncaptured₂ := huncaptured₁.rely hrely₂ hrunning₂ h₁.held
  rcases answer with e | preparation
  · exact h₂.toOwns
  have hupdates : Updates s₂ call.role call.deliveryId fun delivery =>
      { delivery with completionPreparation := some preparation } :=
    .of_completed (fun _ => rfl) (fun _ => rfl) (fun _ => rfl)
      (fun delivery hd => .inl (huncaptured₂ delivery hd)) (fun _ => rfl) fun _ => rfl
  have hretained : ∀ delivery, s₂.deliveries call.deliveryId = some delivery →
      (s₂.updateDelivery call.deliveryId fun delivery =>
        { delivery with completionPreparation := some preparation }).deliveries call.deliveryId
        = some { delivery with completionPreparation := some preparation } :=
    fun delivery hd => by simp [State.updateDelivery, hd]
  refine ⟨.update _ _ _ h₂.held hupdates, ?_, fun hcurrent => ?_⟩
  · exact
      { toOwns := h₂.toOwns.update hupdates
        opened := h₂.opened
        vacant := h₂.vacant
        delivery := fun hcurrent => by
          obtain ⟨delivery, hdelivery, hoperation⟩ := h₂.delivery hcurrent
          exact ⟨_, hretained delivery hdelivery, hoperation⟩
        unstored := h₂.unstored
        unfailed := h₂.unfailed
        unspent := h₂.unspent
        undone := h₂.undone.update fun _ => rfl }
  · obtain ⟨delivery, hdelivery, -⟩ := h₂.delivery hcurrent
    rw [retainedPreparation, hretained delivery hdelivery]
    rfl

theorem ensureCaptured_safe (h : Ready F t call.role call.deliveryId p operationId s) :
    Safe (keeping F t) (ensureCaptured config call completion)
      (Stays F t call.role call.deliveryId p fun s =>
        Ready F t call.role call.deliveryId p operationId s ∧ Captured call.deliveryId s) s := by
  refine Safe.get ?_
  split
  · rename_i hcaptured
    exact ⟨h, fun _ => hcaptured⟩
  · rename_i hcaptured
    refine captureCompletion_safe h fun delivery hdelivery => ?_
    simpa [retainedPreparation, hdelivery] using hcaptured

variable {admission : QualifiedResponseActionRole}

theorem accepted_safe {result : ResponseCompletionResult}
    (hadmission : config.roles .submit = some admission)
    (hrequest : requestFor config .submit admission = .ok request)
    (h : Ready F t .submit call.deliveryId p operationId s) (hcurrent : s.invalidated = false) :
    Safe (keeping F t)
      (do
        Prog.modify (State.accept t call.deliveryId result)
        publish config .submitted none
        let request ← Prog.check (orThrow request)
        let outputs ← Prog.check (orThrow (extractServiceRequestOutputs request result.evidence))
        Prog.modify (State.updateDelivery call.deliveryId fun delivery =>
          { delivery with completed := some outputs })
        return outputs)
      (Ends F t .submit call.deliveryId p) s := by
  have haccept : Move F t s (s.accept t call.deliveryId result) :=
    .accept _ _ hcurrent h.held (h.vacant hcurrent)
  have haccepted := h.toOwns.of_move haccept rfl rfl (.of_eq rfl)
  have hpublished := haccepted.publish .submitted none
  refine Safe.modify haccept (publish_safe haccepted.toRunning ?_)
  refine Safe.check (fun request' hrequest' => ?_) fun e _ => hpublished.failed e
  refine Safe.check (fun outputs houtputs => ?_) fun e _ => hpublished.failed e
  have hconfirms : Confirms ((s.accept t call.deliveryId result).publish .submitted none).log
      call.deliveryId outputs := by
    refine ⟨t, result, List.mem_cons_of_mem _ List.mem_cons_self, ?_⟩
    have hsome : request = some request' := orThrow_ok.mp hrequest'
    have hextract : extractServiceRequestOutputs request' result.evidence = some outputs :=
      orThrow_ok.mp houtputs
    simp [submitOutputs, hadmission, hrequest, hsome, hextract, Except.toOption]
  have hupdates : Updates ((s.accept t call.deliveryId result).publish .submitted none) .submit
      call.deliveryId fun delivery => { delivery with completed := some outputs } :=
    { identity := fun _ => rfl
      operationId := fun _ => rfl
      pending := fun _ => rfl
      preparation := fun _ _ => .inr rfl
      completed := fun _ other _ hdone => by
        obtain rfl : outputs = other := Option.some.inj hdone
        exact .inr hconfirms
      kept := fun delivery _ hdelivery hdone => by
        rw [h.undone delivery hdelivery] at hdone
        cases hdone
      retired := fun _ hretired => hretired
      retires := fun _ _ hretires => by cases hretires
      retiring := fun _ hretired => .inl hretired }
  refine Safe.modify (.update _ _ _ hpublished.held hupdates) ?_
  refine ⟨hpublished.update hupdates, fun other _ hok => ?_, fun other _ hok => ?_⟩
  · obtain rfl : outputs = other := by simpa using hok
    exact hconfirms
  · obtain rfl : outputs = other := by simpa using hok
    exact Completed.update h.unfinished.present fun _ => rfl

theorem complete_safe (hadmission : config.roles .submit = some admission)
    (hrequest : requestFor config .submit admission = .ok request)
    (h : Ready F t .submit call.deliveryId p operationId s)
    (hcaptured : Captured call.deliveryId s) :
    Safe (keeping F t) (complete config t call request operationId wording completion)
      (Ends F t .submit call.deliveryId p) s := by
  refine current_safe (fun hcurrent => ?_) fun _ => h.failed
  have hcurrent := isCurrent_current hcurrent
  refine Safe.get (reviewAgain_safe ?_ h.failed)
  obtain ⟨delivery, hdelivery, rfl⟩ := h.delivery hcurrent
  have hpreparation : retainedPreparation s call.deliveryId = delivery.completionPreparation := by
    simp [retainedPreparation, hdelivery]
  have hcall : Marks F t s (.called t
      (.complete call.deliveryId (retainedPreparation s call.deliveryId) delivery.operationId)) := by
    rw [hpreparation]
    exact .called _ hcurrent (h.vacant hcurrent)
      (.complete _ delivery h.held hdelivery (hpreparation ▸ hcaptured hcurrent) h.unspent)
      (h.toVacant.keyed hcurrent fun _ heq => (Option.some.inj heq).symm)
  refine note_safe hcall (awaiting_safe (l := .complete) rfl
    fun s₁ hrely hrunning answer _ _ => ?_)
  have h₁ := (h.called hcall).rely hrely hrunning
  rcases answer with e | result
  · cases e with
    | outcomeUnknown =>
      have hmark : Marks F t s₁ (.outcomeUnknown t) :=
        .outcomeUnknown call.deliveryId h₁.held
      exact note_safe hmark ((h₁.toOwns.note hmark).failed _)
    | refusal code => exact h₁.failed _
    | completionRefusal code => exact h₁.failed _
    | other => exact h₁.failed _
  · refine current_safe (fun hcurrent₁ => ?_) fun _ => h₁.failed
    refine Safe.check (fun _ _ => ?_) fun e _ => h₁.failed e
    exact accepted_safe hadmission hrequest h₁ (isCurrent_current hcurrent₁)

theorem submit_safe (hrole : call.role = .submit)
    (hadmission : config.roles .submit = some admission)
    (hrequest : requestFor config .submit admission = .ok request)
    (h : Ready F t call.role call.deliveryId p operationId s) :
    Safe (keeping F t) (submit config t call request operationId wording)
      (Ends F t call.role call.deliveryId p) s := by
  refine Safe.check (fun completion _ => ?_) fun e _ => h.failed e
  refine Safe.bind (ensureCaptured_safe h) (fun _ s' hs' => ?_) fun e s' hs' => ?_
  · have hready : Ready F t call.role call.deliveryId p operationId s' := hs'.1
    rw [hrole] at hready ⊢
    exact complete_safe hadmission hrequest hready hs'.2
  · exact Owns.failed hs' e

end FormspecWeb.Controller
