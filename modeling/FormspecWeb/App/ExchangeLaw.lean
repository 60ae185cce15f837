import FormspecWeb.App.ExchangeRuns

/-!
# Exchanges are all or nothing

An exchange that is accepted is settled once: with the replacement as the engine of the form and the
expected engine disposed of, or with the replacement disposed of. The host binds its lease to what the
form has, and no engine is lost or disposed of twice.
-/

namespace FormspecWeb.App.EngineExchange

open Async

namespace MountedForm

def InProgress (s : MountedForm) (engine : EngineId) : Prop :=
  (∃ load ∈ s.loads, load.keeps engine = true)
    ∨ (∃ install ∈ s.installs, install.engine = engine ∧ install.stage.adopts = false)
    ∨ ∃ pending, s.pendingExchange = some pending ∧ pending.engine = engine

structure Quiescent (s : MountedForm) : Prop where
  mounted : s.mounted = true
  rendered : s.changed = false
  booted : s.bootDue = false
  loaded : ∀ load ∈ s.loads, load.waits = false

structure AllOrNothing (s : MountedForm) : Prop where
  once : (s.ledger.disposals.map Prod.fst).Nodup
  kept : ∀ engine < s.ledger.created,
    engine ∈ s.ledger.disposals.map Prod.fst ∨ s.live engine = true ∨ s.InProgress engine
  /-- An exchange that was accepted is pending, or it was settled once. -/
  settledOnce : ∀ (i : Nat) (install : Install), s.installs[i]? = some install → install.adopted = true →
    s.settlements.countP (·.1 == i) + s.pendingExchange.toList.countP (·.install == i) = 1
  settled : s.changed = false → s.pendingExchange = none
  committed : ∀ i, (i, .committed) ∈ s.settlements → ∃ install, s.installs[i]? = some install
    ∧ Installed s.ledger.disposals s.boots install.engine
    ∧ (install.expected, .exchanged i) ∈ s.ledger.disposals
  rejected : ∀ i, (i, .rejected) ∈ s.settlements → ∃ install, s.installs[i]? = some install
    ∧ (install.engine, .rolledBack) ∈ s.ledger.disposals
    ∧ Installed s.ledger.disposals s.boots install.expected
  quiescent : s.Quiescent → ∀ engine, s.rendered.engine? = some engine → s.live engine = true
  /-- Where the form has a replacement and the host has gone on, the lease of the host is bound to it,
  and active until a clearing invalidates it. -/
  bound : ∀ (i : Nat) (install : Install), (i, .committed) ∈ s.settlements →
    s.installs[i]? = some install → s.live install.engine = true → install.stage = .exchanging
      ∨ ∃ lease, s.host.leases[install.lease]? = some lease ∧ lease.leasedEngine = install.engine
        ∧ (lease.active = true ∨ Invalidated s.clearings install.lease)

/-! ## What is rendered -/

/-- The state that is rendered is that of the updates, once they are; and it settles. -/
structure Shown (s : MountedForm) : Prop where
  same : s.changed = false → s.rendered = s.queued
  pending : s.pendingExchange.isSome = true → s.changed = true
  settles : s.mounted = true → s.settles s.queued = true

variable {s t : MountedForm} {b k i n : Nat} {boot : Bootstrap} {load : Load} {install : Install}
  {state : RespondentState} {engine : EngineId} {pending : PendingExchange}

theorem settles_ready (ownedRuntime : Option Nat) : s.settles (.ready engine ownedRuntime)
    = (s.live engine || s.rollsBack engine || s.reloading) := rfl

theorem settles_draftConflict : s.settles (.draftConflict engine) = (s.live engine || s.reloading) := rfl

theorem settles_mono (h : s.settles state = true) (hlive : ∀ engine, s.live engine = true → t.live engine = true)
    (hrollsBack : ∀ engine, s.rollsBack engine = true → t.rollsBack engine = true)
    (hreloading : s.reloading = true → t.reloading = true) : t.settles state = true := by
  cases state with
  | ready engine ownedRuntime =>
    rw [settles_ready, Bool.or_eq_true, Bool.or_eq_true] at h ⊢
    exact h.imp (Or.imp (hlive engine) (hrollsBack engine)) hreloading
  | draftConflict engine =>
    rw [settles_draftConflict, Bool.or_eq_true] at h ⊢
    exact h.imp (hlive engine) hreloading
  | _ => rfl

theorem settles_live (h : ∀ engine, state.engine? = some engine → s.live engine = true) :
    s.settles state = true := by
  cases state with
  | ready engine ownedRuntime =>
    rw [settles_ready, h engine rfl]
    rfl
  | draftConflict engine =>
    rw [settles_draftConflict, h engine rfl]
    rfl
  | _ => rfl

theorem shown_set (h : s.mounted = true → s.settles state = true) : (s.setRespondentState state).Shown where
  same heq := by cases heq
  pending _ := rfl
  settles := h

theorem Shown.keep (h : s.Shown) (hrendered : t.rendered = s.rendered) (hqueued : t.queued = s.queued)
    (hchanged : t.changed = s.changed) (hmounted : t.mounted = true → s.mounted = true)
    (hpending : t.pendingExchange.isSome = true → s.pendingExchange.isSome = true)
    (hsettles : t.mounted = true → s.settles s.queued = true → t.settles s.queued = true) : t.Shown where
  same heq := by
    rw [hrendered, hqueued]
    exact h.same (hchanged ▸ heq)
  pending heq := by
    rw [hchanged]
    exact h.pending (hpending heq)
  settles heq := by
    rw [hqueued]
    exact hsettles heq (h.settles (hmounted heq))

theorem Shown.update {f : RespondentState → Option RespondentState} (h : s.Shown)
    (hf : ∀ state, f s.queued = some state → s.mounted = true → s.settles state = true) :
    (s.update f).Shown := by
  unfold MountedForm.update
  cases hstate : f s.queued with
  | none => exact h
  | some state => exact shown_set (hf state hstate)

theorem Shown.updated (h : s.Shown) : (s.update RespondentState.updated).Shown := by
  refine h.update fun state hstate hmounted => ?_
  have hsettles := h.settles hmounted
  cases hqueued : s.queued with
  | ready engine ownedRuntime =>
    rw [hqueued] at hstate hsettles
    cases hstate
    exact hsettles
  | _ =>
    rw [hqueued] at hstate
    cases hstate

theorem reloading_set {taken : Load} (hload : s.loads[k]? = some load) (hboot : taken.boot = load.boot)
    (hsequence : taken.sequence = load.sequence)
    (hwaits : load.waits = true → ∀ boot, Current s.boots load boot → taken.waits = true)
    (h : s.reloading = true) : (s.setLoad k taken).reloading = true := by
  unfold reloading at h ⊢
  rw [Bool.or_eq_true, List.any_eq_true] at h ⊢
  refine h.imp_right ?_
  rintro ⟨other, hmem, hother⟩
  obtain ⟨j, hj⟩ := List.mem_iff_getElem?.mp hmem
  by_cases heq : j = k
  · subst heq
    obtain rfl := Option.some.inj (hload.symm.trans hj)
    refine ⟨taken, List.mem_of_getElem? (List.getElem?_set_self (List.getElem?_eq_some_iff.mp hload).1), ?_⟩
    rw [Bool.and_eq_true, Option.any_eq_true] at hother ⊢
    obtain ⟨hwaiting, boot, hfound, hcurrent⟩ := hother
    rw [Bool.and_eq_true, Bool.not_eq_true', beq_iff_eq] at hcurrent
    refine ⟨hwaits hwaiting boot ⟨hfound, hcurrent.1, hcurrent.2⟩, boot, hboot ▸ hfound, ?_⟩
    rw [Bool.and_eq_true, Bool.not_eq_true', beq_iff_eq, hsequence]
    exact hcurrent
  · exact ⟨other, List.mem_of_getElem? ((List.getElem?_set_ne (Ne.symm heq)).trans hj), hother⟩

theorem Shown.setLoad {taken : Load} (h : s.Shown) (hload : s.loads[k]? = some load)
    (hboot : taken.boot = load.boot) (hsequence : taken.sequence = load.sequence)
    (hwaits : load.waits = true → ∀ boot, Current s.boots load boot → taken.waits = true) :
    (s.setLoad k taken).Shown :=
  h.keep rfl rfl rfl id id fun _ hsettles => settles_mono hsettles (fun _ => id) (fun _ => id)
    (reloading_set hload hboot hsequence hwaits)

theorem result_engine {outcome : LoadOutcome} (h : load.result outcome = some state)
    (hengine : state.engine? = some engine) : load.engine = some engine := by
  cases outcome with
  | ready =>
    obtain ⟨found, hfound, rfl⟩ := Option.map_eq_some_iff.mp h
    rw [hfound]
    exact hengine
  | draftConflict =>
    unfold Load.result at h
    dsimp only at h
    split at h
    · obtain ⟨found, hfound, rfl⟩ := Option.map_eq_some_iff.mp h
      rw [hfound]
      exact hengine
    · cases h
  | authRequired =>
    unfold Load.result at h
    dsimp only at h
    split at h
    · cases h
      cases hengine
    · cases h
  | submitted =>
    unfold Load.result at h
    dsimp only at h
    split at h
    · cases h
      cases hengine
    · cases h
  | failed =>
    cases h
    cases hengine

theorem Shown.loaded {outcome : LoadOutcome} (h : s.Shown) (hstep : s.loaded k outcome = some t) :
    t.Shown := by
  unfold MountedForm.loaded at hstep
  obtain ⟨load, hwaiting, hstep⟩ := Option.bind_eq_some_iff.mp hstep
  obtain ⟨boot, hboot, hstep⟩ := Option.bind_eq_some_iff.mp hstep
  obtain ⟨state, hstate, hstep⟩ := Option.bind_eq_some_iff.mp hstep
  obtain ⟨hload, hwaits⟩ := waiting_eq_some hwaiting
  cases hstep
  split
  · next hovertaken =>
      have hended : (s.setLoad k { load with waits := false }).Shown := by
        refine h.setLoad hload rfl rfl fun _ other hcurrent => ?_
        obtain rfl := Option.some.inj (hboot.symm.trans hcurrent.found)
        rw [hcurrent.cancelled, hcurrent.sequence, Bool.false_or, bne_self_eq_false] at hovertaken
        cases hovertaken
      exact hended.keep rfl rfl rfl id id fun _ => id
  · next hcurrent =>
      rw [Bool.not_eq_true, Bool.or_eq_false_iff] at hcurrent
      have hset : (s.boots.set load.boot
          { boot with engine := load.engine, ownedRuntime := load.ownedRuntime })[load.boot]? = some _ :=
        List.getElem?_set_self (List.getElem?_eq_some_iff.mp hboot).1
      have hkeeps : ∀ engine, load.engine = some engine →
          Live (s.boots.set load.boot
            { boot with engine := load.engine, ownedRuntime := load.ownedRuntime }) engine :=
        fun engine hengine => ⟨_, List.mem_of_getElem? hset,
          Bootstrap.keeps_iff.mpr ⟨hcurrent.1, hengine⟩⟩
      split
      · next hfailed =>
          rw [hfailed] at hstate
          cases hstate
          exact shown_set fun _ => rfl
      · exact shown_set fun _ => settles_live fun engine hengine =>
          live_iff.mpr (hkeeps engine (result_engine hstate hengine))

variable {ownedRuntime : Option Nat}

theorem update_exchanged {expected : EngineId}
    (hqueued : s.queued = .ready expected ownedRuntime) :
    s.update (RespondentState.exchanged expected engine) = s.setRespondentState (.ready engine ownedRuntime) := by
  unfold MountedForm.update
  rw [hqueued]
  unfold RespondentState.exchanged
  dsimp only
  rw [if_pos rfl]
  rfl

theorem shown_exchanged {expected : EngineId} {q : Nat}
    (hqueued : s.queued = .ready expected ownedRuntime)
    (hpending : s.pendingExchange = some ⟨i, expected, engine, b, q, false⟩) (hlive : s.live expected = true) :
    (s.update (RespondentState.exchanged expected engine)).Shown := by
  rw [update_exchanged hqueued]
  refine shown_set fun _ => ?_
  rw [settles_ready, Bool.or_eq_true, Bool.or_eq_true]
  refine Or.inl (Or.inr ?_)
  unfold rollsBack
  rw [hpending, Option.any_some, Bool.and_eq_true]
  exact ⟨beq_self_eq_true _, hlive⟩

theorem shown_commit (hrendered : s.rendered = s.queued)
    (hstate : s.rendered = .ready pending.engine ownedRuntime)
    (hcommittable : s.committable pending = some boot) : (s.commit pending boot).Shown := by
  obtain ⟨-, -, -, hboot, hexpects, -⟩ := committable_eq_some hcommittable
  have hset : (s.boots.set pending.boot { boot with engine := some pending.engine })[pending.boot]?
      = some _ := List.getElem?_set_self (List.getElem?_eq_some_iff.mp hboot).1
  refine ⟨fun _ => hrendered, fun hsome => (by cases hsome), fun _ => ?_⟩
  refine settles_live fun engine hengine => live_iff.mpr ?_
  change s.queued.engine? = some engine at hengine
  rw [← hrendered, hstate] at hengine
  cases hengine
  exact ⟨_, List.mem_of_getElem? hset, Bootstrap.keeps_iff.mpr ⟨(expects_iff.mp hexpects).1, rfl⟩⟩

section

variable (hpending : s.pendingExchange = some pending)
  (hsettles : s.mounted = true → s.settles s.queued = true)
  (hrendered : s.rendered = s.queued)
include hpending hsettles hrendered

theorem shown_rollback
    (hstate : s.rendered = .ready pending.engine ownedRuntime) (hnotLive : ¬s.live pending.engine = true) :
    ({ s with pendingExchange := some { pending with rollback := true } }.update
      (RespondentState.exchanged pending.engine pending.expected)).Shown := by
  have hqueued : { s with pendingExchange := some { pending with rollback := true } }.queued
      = .ready pending.engine ownedRuntime := hrendered.symm.trans hstate
  rw [update_exchanged hqueued]
  refine shown_set fun hmounted => ?_
  have hbefore := hsettles hmounted
  rw [← hrendered, hstate, settles_ready, Bool.or_eq_true, Bool.or_eq_true] at hbefore
  rw [settles_ready, Bool.or_eq_true, Bool.or_eq_true]
  rcases hbefore with (hlive | hrolls) | hreloading
  · exact absurd hlive hnotLive
  · unfold rollsBack at hrolls
    rw [hpending, Option.any_some, Bool.and_eq_true] at hrolls
    exact Or.inl (Or.inl hrolls.2)
  · exact Or.inr hreloading

theorem shown_reject
    (hready : ¬s.rendered.isReadyWith pending.engine = true) : (s.reject pending).Shown := by
  refine ⟨fun _ => hrendered, fun hsome => (by cases hsome), fun hmounted => ?_⟩
  have hbefore := hsettles hmounted
  change (s.reject pending).settles s.queued = true
  cases hqueued : s.queued with
  | ready engine ownedRuntime =>
    rw [hqueued, settles_ready, Bool.or_eq_true, Bool.or_eq_true] at hbefore
    rw [settles_ready, Bool.or_eq_true, Bool.or_eq_true]
    rcases hbefore with (hlive | hrolls) | hreloading
    · exact Or.inl (Or.inl hlive)
    · unfold rollsBack at hrolls
      rw [hpending, Option.any_some, Bool.and_eq_true] at hrolls
      rw [hrendered, hqueued, beq_iff_eq.mp hrolls.1] at hready
      exact absurd (beq_self_eq_true engine) hready
    · exact Or.inr hreloading
  | draftConflict engine =>
    rw [hqueued] at hbefore
    exact hbefore
  | _ => rfl

end

theorem Sound.not_live (h : s.Sound) (hpending : s.pendingExchange = some pending) :
    ¬s.live pending.engine = true := by
  have hcustody := h.custody
  rw [hpending] at hcustody
  rw [live_iff]
  rintro ⟨boot, hboot, hkeeps⟩
  rw [hcustody.not_pending hboot] at hkeeps
  cases hkeeps

theorem isReadyWith_iff : state.isReadyWith engine = true ↔ ∃ ownedRuntime, state = .ready engine ownedRuntime := by
  constructor
  · intro h
    cases state with
    | ready found ownedRuntime => exact ⟨ownedRuntime, by rw [beq_iff_eq.mp h]⟩
    | _ => cases h
  · rintro ⟨ownedRuntime, rfl⟩
    exact beq_self_eq_true engine

theorem shown_layoutEffect (h : s.Sound) (hsettles : s.mounted = true → s.settles s.queued = true)
    (hrendered : s.rendered = s.queued) : s.layoutEffect.Shown := by
  unfold layoutEffect
  split
  · next hnone =>
      refine ⟨fun _ => hrendered, fun hsome => ?_, hsettles⟩
      rw [hnone] at hsome
      cases hsome
  · next pending hpending =>
      split
      · next hready =>
          obtain ⟨ownedRuntime, hstate⟩ := isReadyWith_iff.mp hready
          split
          · next boot hcommittable => exact shown_commit hrendered hstate hcommittable
          · exact shown_rollback hpending hsettles hrendered hstate (h.not_live hpending)
      · next hready => exact shown_reject hpending hsettles hrendered hready

theorem Shown.render (h : s.Shown) (hsound : s.Sound) (hstep : s.render = some t) : t.Shown := by
  unfold MountedForm.render at hstep
  split at hstep
  · cases hstep
    have hrendered : Sound { s with rendered := s.queued, changed := false } := { hsound with }
    exact shown_layoutEffect hrendered h.settles rfl
  · cases hstep

theorem Shown.withdraw {stage : InstallStage} (h : s.Shown) : (s.withdraw i install stage).Shown := by
  unfold MountedForm.withdraw
  split
  · exact h.keep rfl rfl rfl id id fun _ => id
  · exact h.keep rfl rfl rfl id id fun _ => id

theorem Shown.exchange (h : s.Shown) (hmeets : s.meets (.exchange i) = true)
    (hstep : s.exchange i = some t) : t.Shown := by
  unfold MountedForm.exchange at hstep
  obtain ⟨install, hinstall, hstep⟩ := Option.bind_eq_some_iff.mp hstep
  obtain ⟨lease, hlease, hstep⟩ := Option.bind_eq_some_iff.mp hstep
  split at hstep
  · cases hstep
  · cases hstep
    split
    · exact h.withdraw
    · next hholds =>
        rw [Bool.not_eq_true', Bool.not_eq_false] at hholds
        split
        · next haccepts =>
            unfold meets at hmeets
            dsimp only at hmeets
            rw [hinstall, Option.all_some, hlease, Option.all_some, hholds, haccepts] at hmeets
            obtain ⟨ownedRuntime, hqueued⟩ := isReadyWith_iff.mp hmeets
            have hlive : s.live install.expected = true := by
              unfold accepts at haccepts
              rw [Bool.and_eq_true, Bool.and_eq_true, Bool.and_eq_true, Option.any_eq_true] at haccepts
              obtain ⟨boot, hboot, hexpects⟩ := haccepts.1.1.1
              obtain ⟨hcancelled, -, hengine⟩ := expects_iff.mp hexpects
              exact live_iff.mpr ⟨boot, List.mem_of_getElem? hboot,
                Bootstrap.keeps_iff.mpr ⟨hcancelled, hengine⟩⟩
            exact shown_exchanged hqueued rfl hlive
        · exact h.keep rfl rfl rfl id id fun _ => id

theorem Shown.invalidated {resolved : Bool} (h : s.Shown) (hstep : s.invalidated n resolved = some t) :
    t.Shown := by
  unfold MountedForm.invalidated at hstep
  obtain ⟨call, -, hstep⟩ := Option.bind_eq_some_iff.mp hstep
  obtain ⟨b, -, hstep⟩ := Option.bind_eq_some_iff.mp hstep
  obtain ⟨boot, -, hstep⟩ := Option.bind_eq_some_iff.mp hstep
  cases hstep
  have hdone : Shown { s with invalidations := s.invalidations.set n none } :=
    h.keep rfl rfl rfl id id fun _ => id
  split
  · exact shown_set fun _ => rfl
  split
  · exact hdone
  · exact shown_set fun _ => rfl

theorem Shown.of_disposeActiveEngine (h : s.Shown) : { s.disposeActiveEngine with bootDue := true }.Shown := by
  have hreloading : ∀ {u : MountedForm}, { u with bootDue := true }.reloading = true := rfl
  have hsettles : ∀ {u : MountedForm}, s.settles s.queued = true →
      { u with bootDue := true }.settles s.queued = true := by
    intro u _
    cases s.queued with
    | ready engine ownedRuntime =>
      rw [settles_ready, hreloading, Bool.or_true]
    | draftConflict engine =>
      rw [settles_draftConflict, hreloading, Bool.or_true]
    | _ => rfl
  unfold disposeActiveEngine
  split
  · split
    · exact h.keep rfl rfl rfl id id fun _ => hsettles
    · exact h.keep rfl rfl rfl id id fun _ => hsettles
  · exact h.keep rfl rfl rfl id id fun _ => hsettles

theorem Shown.cleared {c : Nat} {resolved : Bool} (h : s.Shown) (hstep : s.cleared c resolved = some t) :
    t.Shown := by
  unfold MountedForm.cleared at hstep
  obtain ⟨call, -, hstep⟩ := Option.bind_eq_some_iff.mp hstep
  split at hstep
  · cases hstep
  · cases hstep
    split
    · exact h.keep rfl rfl rfl id id fun _ => id
    · have hdone : Shown { s with clearings := s.clearings.set c { call with waits := false } } :=
        h.keep rfl rfl rfl id id fun _ => id
      split
      · exact hdone.of_disposeActiveEngine
      · exact shown_set fun _ => rfl

theorem rendered_cleanup : (s.cleanup b boot).rendered = s.rendered := by
  unfold cleanup
  cases s.pendingExchange <;> rfl

theorem queued_cleanup : (s.cleanup b boot).queued = s.queued := by
  unfold cleanup
  cases s.pendingExchange <;> rfl

theorem changed_cleanup : (s.cleanup b boot).changed = s.changed := by
  unfold cleanup
  cases s.pendingExchange <;> rfl

theorem Shown.unmount (h : s.Shown) (hstep : s.unmount = some t) : t.Shown := by
  unfold MountedForm.unmount at hstep
  obtain ⟨boot, -, hstep⟩ := Option.bind_eq_some_iff.mp hstep
  split at hstep
  · cases hstep
  · cases hstep
    refine h.keep ?_ ?_ ?_ nofun ?_ nofun
    · exact rendered_cleanup
    · exact queued_cleanup
    · exact changed_cleanup
    · intro hsome
      change (s.cleanup (s.boots.length - 1) boot).pendingExchange.isSome = true at hsome
      rw [pendingExchange_cleanup] at hsome
      cases hsome

theorem Shown.resumed (h : s.Shown) (hstep : s.resumed i = some t) : t.Shown := by
  unfold MountedForm.resumed at hstep
  obtain ⟨install, -, hstep⟩ := Option.bind_eq_some_iff.mp hstep
  split at hstep
  · cases hstep
    exact h.withdraw
  · cases hstep
    exact h.withdraw
  · split at hstep
    · cases hstep
      exact h.keep rfl rfl rfl id id fun _ => id
    · cases hstep
      exact h.withdraw
  · cases hstep

theorem Shown.step {event : Event} (h : s.Shown) (hsound : s.Sound) (hmeets : s.meets event = true)
    (hstep : s.step event = some t) : t.Shown := by
  cases event with
  | reload b =>
    obtain ⟨boot, -, hstep⟩ := Option.bind_eq_some_iff.mp hstep
    split at hstep
    · cases hstep
    · cases hstep
      exact shown_set fun _ => rfl
  | identityChanged b =>
    obtain ⟨boot, -, hstep⟩ := Option.bind_eq_some_iff.mp hstep
    split at hstep
    · cases hstep
    · cases hstep
      exact h.keep rfl rfl rfl id id fun _ => id
  | invalidated n resolved => exact h.invalidated hstep
  | created k =>
    obtain ⟨load, hwaiting, hstep⟩ := Option.bind_eq_some_iff.mp hstep
    split at hstep
    · cases hstep
    · cases hstep
      have hcreated : Shown { s with ledger := s.ledger.create } :=
        h.keep rfl rfl rfl id id fun _ => id
      exact hcreated.setLoad (waiting_eq_some hwaiting).1 rfl rfl fun hwaits _ _ => hwaits
  | configuring k =>
    obtain ⟨load, -, hstep⟩ := Option.bind_eq_some_iff.mp hstep
    obtain ⟨engine, -, hstep⟩ := Option.bind_eq_some_iff.mp hstep
    split at hstep
    · cases hstep
    · cases hstep
      exact h.keep rfl rfl rfl id id fun _ => id
  | configured k =>
    obtain ⟨load, hwaiting, hstep⟩ := Option.bind_eq_some_iff.mp hstep
    obtain ⟨engine, -, hstep⟩ := Option.bind_eq_some_iff.mp hstep
    split at hstep
    · cases hstep
    · cases hstep
      have hgranted : Shown { s with host := s.host.grant engine load.boot load.sequence } :=
        h.keep rfl rfl rfl id id fun _ => id
      exact hgranted.setLoad (waiting_eq_some hwaiting).1 rfl rfl fun hwaits _ _ => hwaits
  | loaded k outcome => exact h.loaded hstep
  | updated =>
    cases hstep
    exact h.updated
  | localeChanged =>
    change s.localeChanged = some t at hstep
    unfold MountedForm.localeChanged at hstep
    split at hstep
    · cases hstep
      exact shown_set fun _ => hmeets
    · cases hstep
  | signInFailed =>
    cases hstep
    exact shown_set fun _ => rfl
  | bootFailed b =>
    obtain ⟨boot, -, hstep⟩ := Option.bind_eq_some_iff.mp hstep
    split at hstep
    · cases hstep
    · cases hstep
      exact shown_set fun _ => rfl
  | clearRequested clearing =>
    change s.clearRequested clearing = some t at hstep
    unfold MountedForm.clearRequested at hstep
    split at hstep
    · cases hstep
      exact h.keep rfl rfl rfl id id fun _ => id
    · cases hstep
  | cleared c resolved => exact h.cleared hstep
  | render => exact h.render hsound hstep
  | rebooted =>
    obtain ⟨boot, -, hstep⟩ := Option.bind_eq_some_iff.mp hstep
    split at hstep
    · cases hstep
    · cases hstep
      exact shown_set fun _ => rfl
  | unmount => exact h.unmount hstep
  | qualify =>
    obtain ⟨engine, -, hstep⟩ := Option.bind_eq_some_iff.mp hstep
    obtain ⟨lease, -, hstep⟩ := Option.bind_eq_some_iff.mp hstep
    cases hstep
    exact h.keep rfl rfl rfl id id fun _ => id
  | installFacts q =>
    obtain ⟨⟨lease, expected⟩, -, hstep⟩ := Option.bind_eq_some_iff.mp hstep
    dsimp only at hstep
    split at hstep
    · cases hstep
      exact h.keep rfl rfl rfl id id fun _ => id
    · cases hstep
  | built i resolved =>
    obtain ⟨install, -, hstep⟩ := Option.bind_eq_some_iff.mp hstep
    split at hstep
    · cases hstep
    · cases hstep
      split
      · exact h.keep rfl rfl rfl id id fun _ => id
      · exact h.withdraw
  | exchange i => exact h.exchange hmeets hstep
  | resumed i => exact h.resumed hstep
  | abort i =>
    obtain ⟨install, -, hstep⟩ := Option.bind_eq_some_iff.mp hstep
    split at hstep
    · cases hstep
    · cases hstep
      exact h.withdraw
  | guardsChanged i current factsCurrent =>
    obtain ⟨install, -, hstep⟩ := Option.bind_eq_some_iff.mp hstep
    cases hstep
    exact h.keep rfl rfl rfl id id fun _ => id

theorem shown_opened : opened.Shown where
  same heq := by cases heq
  pending hsome := by cases hsome
  settles _ := rfl

/-! ## What follows -/

theorem Sound.kept (h : s.Sound) (hcreated : engine < s.ledger.created) :
    engine ∈ s.ledger.disposals.map Prod.fst ∨ s.live engine = true ∨ s.InProgress engine := by
  rcases h.custody.somewhere hcreated with
    hdisposed | hlive | hload | ⟨install, hmem, hkeeps⟩ | hpending
  · exact Or.inl hdisposed
  · exact Or.inr (Or.inl (live_iff.mpr hlive))
  · exact Or.inr (Or.inr (Or.inl hload))
  · unfold Install.keeps at hkeeps
    rw [Bool.and_eq_true, Bool.and_eq_true, Bool.not_eq_true', Bool.not_eq_true', beq_iff_eq] at hkeeps
    obtain ⟨⟨hdisposed, hadopted⟩, heq⟩ := hkeeps
    refine Or.inr (Or.inr (Or.inr (Or.inl ⟨install, hmem, heq, ?_⟩)))
    rw [← Bool.not_eq_true]
    intro hadopts
    rcases h.settled.adopted install hmem hadopts with hwas | hwas
    · rw [hadopted] at hwas
      cases hwas
    · rw [hdisposed] at hwas
      cases hwas
  · exact Or.inr (Or.inr (Or.inr (Or.inr hpending)))

theorem Sound.settledOnce (h : s.Sound) (hinstall : s.installs[i]? = some install)
    (hadopted : install.adopted = true) :
    s.settlements.countP (·.1 == i) + s.pendingExchange.toList.countP (·.install == i) = 1 := by
  rw [h.settled.once i, hinstall, Option.any_some, hadopted]
  rfl

theorem Quiescent.not_reloading (h : s.Quiescent) : s.reloading = false := by
  unfold reloading
  rw [h.booted, Bool.false_or, List.any_eq_false]
  intro load hmem
  rw [h.loaded load hmem, Bool.false_and]
  exact Bool.false_ne_true

theorem Shown.settled (h : s.Shown) (hchanged : s.changed = false) : s.pendingExchange = none := by
  rw [← Option.not_isSome_iff_eq_none]
  intro hsome
  rw [h.pending hsome] at hchanged
  cases hchanged

theorem Shown.quiescent (h : s.Shown) (hquiescent : s.Quiescent)
    (hengine : s.rendered.engine? = some engine) : s.live engine = true := by
  have hsettles := h.settles hquiescent.mounted
  have hpending := h.settled hquiescent.rendered
  rw [← h.same hquiescent.rendered] at hsettles
  cases hrendered : s.rendered with
  | ready found ownedRuntime =>
    rw [hrendered] at hengine hsettles
    obtain rfl := Option.some.inj hengine
    have hrollsBack : s.rollsBack found = false := by
      unfold rollsBack
      rw [hpending]
      rfl
    rw [settles_ready, hrollsBack, hquiescent.not_reloading, Bool.or_false, Bool.or_false] at hsettles
    exact hsettles
  | draftConflict found =>
    rw [hrendered] at hengine hsettles
    cases hengine
    rw [settles_draftConflict, hquiescent.not_reloading, Bool.or_false] at hsettles
    exact hsettles
  | _ =>
    rw [hrendered] at hengine
    cases hengine

theorem Sound.boundLease (h : s.Sound) (hcommitted : (i, .committed) ∈ s.settlements)
    (hinstall : s.installs[i]? = some install) (hlive : s.live install.engine = true) :
    install.stage = .exchanging
      ∨ ∃ lease, s.host.leases[install.lease]? = some lease ∧ lease.leasedEngine = install.engine
        ∧ (lease.active = true ∨ Invalidated s.clearings install.lease) := by
  obtain ⟨boot, hmem, hkeeps⟩ := live_iff.mp hlive
  obtain ⟨howned, hbound⟩ := h.bound.bound i install boot ⟨hcommitted, hinstall⟩ hmem hkeeps
  refine hbound.imp_right ?_
  rintro ⟨lease, hlease, hleased⟩
  obtain ⟨b, hboot⟩ := List.mem_iff_getElem?.mp hmem
  have hholder : Holder s.boots s.loads install.lease b boot.reloadSequence :=
    Or.inr ⟨boot, hboot, (Bootstrap.keeps_iff.mp hkeeps).1, howned, rfl⟩
  obtain ⟨other, hother, -, -, hactive⟩ := h.leases.kept _ _ _ hholder
  obtain rfl := Option.some.inj (hlease.symm.trans hother)
  exact ⟨lease, hlease, hleased, hactive⟩

theorem allOrNothing_of (h : s.Sound) (hshown : s.Shown) : s.AllOrNothing where
  once := h.custody.nodup
  kept _ hcreated := h.kept hcreated
  settledOnce _ _ hinstall hadopted := h.settledOnce hinstall hadopted
  settled := hshown.settled
  committed := h.outcomes.committed
  rejected := h.outcomes.rejected
  quiescent hquiescent _ hengine := hshown.quiescent hquiescent hengine
  bound _ _ hcommitted hinstall hlive := h.boundLease hcommitted hinstall hlive

/-- In every run that meets the conditions, exchanges are all or nothing. -/
theorem exchanges_all_or_nothing {events : List Event} {states : List MountedForm}
    (h : statesOf step opened events = some states)
    (hmeets : EveryStep step (fun s event => s.meets event = true) opened events) :
    ∀ reached ∈ states, reached.AllOrNothing := by
  have hinvariant : ∀ reached ∈ states, reached.Sound ∧ reached.Shown := by
    refine statesOf_invariant ?_ ⟨sound_opened, shown_opened⟩ hmeets h
    rintro s event next ⟨hsound, hshown⟩ hmeets hnext
    exact ⟨hsound.step hmeets hnext, hshown.step hsound hmeets hnext⟩
  intro reached hmem
  obtain ⟨hsound, hshown⟩ := hinvariant reached hmem
  exact allOrNothing_of hsound hshown

def exchangeEvents : List Event :=
  [.reload 0, .created 0, .configuring 0, .configured 0, .loaded 0 .ready, .render, .qualify,
    .installFacts 0, .built 0 true, .exchange 0, .render]

theorem exchanges_all_or_nothing_installed : ∃ states,
    statesOf step opened (exchangeEvents ++ [.resumed 0]) = some states
      ∧ states.getLast?.any (·.settlements == [(0, .committed)]) = true
      ∧ ∀ reached ∈ states, reached.AllOrNothing := by
  have hruns : (statesOf step opened (exchangeEvents ++ [.resumed 0])).isSome = true := by decide
  obtain ⟨states, hstates⟩ := Option.isSome_iff_exists.mp hruns
  refine ⟨states, hstates, ?_, exchanges_all_or_nothing hstates (by decide)⟩
  have hlast : (statesOf step opened (exchangeEvents ++ [.resumed 0])).any
      (·.getLast?.any (·.settlements == [(0, .committed)])) = true := by decide
  rw [hstates] at hlast
  exact hlast

/-- A guard of the host fails between the commit and `lease.rebind`. -/
def unboundEvents : List Event := exchangeEvents ++ [.guardsChanged 0 false true, .resumed 0]

/-- The form renders the replacement, and its lease stays bound to the engine that was disposed of. -/
theorem exchange_left_unbound : ∃ states, statesOf step opened unboundEvents = some states
    ∧ ∃ s ∈ states, s.rendered.isReadyWith 1 = true ∧ s.ledger.disposals = [(0, .exchanged 0)]
      ∧ s.host.leases.map (·.leasedEngine) = [0] ∧ ¬s.AllOrNothing := by
  have hruns : (statesOf step opened unboundEvents).any (·.getLast?.any fun s =>
      s.rendered.isReadyWith 1 && s.ledger.disposals == [(0, .exchanged 0)] && s.live 1
        && s.settlements == [(0, .committed)] && s.host.leases.map (·.leasedEngine) == [0]
        && s.installs[0]?.map (fun install => (install.lease, install.engine, install.stage))
          == some (0, 1, .failed)) = true := by decide
  obtain ⟨states, hstates, hlast⟩ := (Option.any_eq_true _ _).mp hruns
  obtain ⟨s, hs, hfacts⟩ := (Option.any_eq_true _ _).mp hlast
  simp only [Bool.and_eq_true, beq_iff_eq] at hfacts
  obtain ⟨⟨⟨⟨⟨hready, hdisposals⟩, hlive⟩, hsettlements⟩, hleased⟩, hinstalls⟩ := hfacts
  refine ⟨states, hstates, s, List.mem_of_getLast? hs, hready, hdisposals, hleased, fun hlaw => ?_⟩
  obtain ⟨install, hinstall, heq⟩ := Option.map_eq_some_iff.mp hinstalls
  obtain ⟨hlease, hengine, hstage⟩ : install.lease = 0 ∧ install.engine = 1 ∧ install.stage = .failed := by
    simpa using heq
  have hcommitted : (0, Settlement.committed) ∈ s.settlements := by
    rw [hsettlements]
    exact List.mem_cons_self
  rw [← hengine] at hlive
  rcases hlaw.bound 0 install hcommitted hinstall hlive with hexchanging | ⟨lease, hbound, hbinds, -⟩
  · rw [hstage] at hexchanging
    cases hexchanging
  · have hfirst : (s.host.leases.map (·.leasedEngine))[0]? = some 0 := by rw [hleased]; rfl
    rw [hlease] at hbound
    rw [List.getElem?_map, hbound, Option.map_some, hbinds, hengine] at hfirst
    cases hfirst

end MountedForm

end FormspecWeb.App.EngineExchange
