import FormspecWeb.App.ExchangeInvariant
import FormspecWeb.Shared.InsertionMap

/-!
# Runs of a mounted form

What every event keeps of the invariant, given that no reload comes behind a cleanup and that the host
goes on behind a commit.
-/

namespace FormspecWeb.App.EngineExchange

open Async

/-! ## Ends of leases -/

structure Ends (host later : HostLeases) (ownedRuntime : Option Nat) : Prop where
  leases : later.leases = deactivate host.leases ownedRuntime
  renderer : ∀ engine, later.rendererEngine = some engine → host.rendererEngine = some engine

variable {host middle later : HostLeases} {ownedRuntime : Option Nat}

theorem of_released {lease : Lease} {engine : EngineId} (h : host.released lease = some engine) :
    host.rendererEngine = some engine := by
  unfold HostLeases.released at h
  split at h
  · cases h
  · exact h

theorem ends_disposeAny : Ends host (host.disposeAny ownedRuntime) ownedRuntime where
  leases := disposeAny_leases host ownedRuntime
  renderer engine heq := by
    cases ownedRuntime with
    | none => exact heq
    | some l =>
      change (host.dispose l).rendererEngine = some engine at heq
      unfold HostLeases.dispose at heq
      split at heq
      · exact of_released heq
      · exact heq

theorem ends_invalidateAny : Ends host (host.invalidateAny ownedRuntime) ownedRuntime where
  leases := invalidateAny_leases host ownedRuntime
  renderer engine heq := by
    cases ownedRuntime with
    | none => exact heq
    | some l =>
      change (host.invalidate l).rendererEngine = some engine at heq
      unfold HostLeases.invalidate at heq
      split at heq
      · next lease hlease =>
          by_cases hactive : lease.active = true
          · rw [if_pos hactive] at heq
            exact of_released heq
          · rw [if_neg hactive] at heq
            exact heq
      · exact heq

theorem Ends.again (h : Ends host middle ownedRuntime) (hagain : Ends middle later ownedRuntime) :
    Ends host later ownedRuntime where
  leases := by
    rw [hagain.leases, h.leases]
    apply List.ext_getElem?
    intro l
    rw [getElem?_deactivate, getElem?_deactivate, Option.map_map]
    congr 1
    funext lease
    by_cases heq : ownedRuntime = some l
    · simp only [Function.comp_apply, if_pos heq]
    · simp only [Function.comp_apply, if_neg heq]
  renderer engine heq := h.renderer engine (hagain.renderer engine heq)

namespace MountedForm

def live (s : MountedForm) (engine : EngineId) : Bool := s.boots.any (·.keeps engine)

def reloading (s : MountedForm) : Bool :=
  s.bootDue || s.loads.any fun load => load.waits
    && s.boots[load.boot]?.any fun boot => !boot.cancelled && load.sequence == boot.reloadSequence

/-- The engine is a replacement that a pending exchange will roll back to one the form has. -/
def rollsBack (s : MountedForm) (engine : EngineId) : Bool :=
  s.pendingExchange.any fun pending => pending.engine == engine && s.live pending.expected

/-- The state renders an engine that the form has, or it will be updated. -/
def settles (s : MountedForm) : RespondentState → Bool
  | .ready engine _ => s.live engine || s.rollsBack engine || s.reloading
  | .draftConflict engine => s.live engine || s.reloading
  | _ => true

/-- What an event needs. No reload comes behind the cleanup of a bootstrap that had an engine; an
exchange is accepted while the state is ready with the engine it expects; where the form has the
replacement the host goes on; and a language is selected in a state that is not overtaken. -/
def meets (s : MountedForm) : Event → Bool
  | .invalidated n true => (s.invalidations[n]?.join.bind (s.boots[·]?)).all fun boot =>
    !boot.cancelled || boot.engine.isNone
  | .exchange i => s.installs[i]?.all fun install => s.host.leases[install.lease]?.all fun lease =>
    !(install.holds s.host && s.accepts install lease) || s.queued.isReadyWith install.expected
  | .resumed i => s.installs[i]?.all fun install =>
    s.settlements.lookup i != some .committed || !s.live install.engine || install.stage != .exchanging
      || install.holds s.host
  | .localeChanged => s.settles s.rendered
  | _ => true

structure Sound (s : MountedForm) : Prop where
  custody : Custody s.ledger s.boots s.loads s.installs s.pendingExchange
  boots : BootsSound s.boots s.mounted
  loads : LoadsSound s.boots s.loads
  leases : LeasesSound s.host.leases (Holder s.boots s.loads) s.clearings
  settled : SettledSound s.settlements s.pendingExchange s.installs
  pending : PendingSound s.pendingExchange s.installs s.host.leases
  outcomes : Outcomes s.ledger.disposals s.boots s.installs s.pendingExchange s.settlements
  bound : Bound s.host.leases s.boots s.installs s.settlements
  expected : ExpectedSound s.host.rendererEngine s.qualifications s.loads s.installs s.ledger.created

variable {s t : MountedForm} {b k i n : Nat} {boot found : Bootstrap} {load : Load} {install : Install}
  {cause : DisposalCause} {state : RespondentState} {engine : EngineId}

theorem Sound.setRespondentState (h : s.Sound) : (s.setRespondentState state).Sound := { h with }

theorem Sound.update {f : RespondentState → Option RespondentState} (h : s.Sound) : (s.update f).Sound := by
  unfold MountedForm.update
  cases f s.queued with
  | none => exact h
  | some state => exact h.setRespondentState

/-! ## Bootstraps -/

theorem pending_leases {pendingExchange : Option PendingExchange} {installs : List Install}
    {leases others : List Lease} (h : PendingSound pendingExchange installs leases)
    (hothers : ∀ (l : Nat) (lease : Lease), leases[l]? = some lease → ∃ other, others[l]? = some other
      ∧ other.boot = lease.boot ∧ other.sequence = lease.sequence) :
    PendingSound pendingExchange installs others := by
  intro pending hpending
  obtain ⟨install, lease, hinstall, hstage, hengine, hexpected, hlease, hboot, hsequence⟩ := h pending hpending
  obtain ⟨other, hother, hsameBoot, hsameSequence⟩ := hothers install.lease lease hlease
  exact ⟨install, other, hinstall, hstage, hengine, hexpected, hother, hsameBoot.trans hboot,
    hsameSequence.trans hsequence⟩

theorem pending_ends {pendingExchange : Option PendingExchange} {installs : List Install}
    (h : PendingSound pendingExchange installs host.leases) (hends : Ends host later ownedRuntime) :
    PendingSound pendingExchange installs later.leases := by
  refine pending_leases h fun l lease hlease => ?_
  obtain ⟨other, hother, -, hboot, hsequence, -⟩ := deactivate_of ownedRuntime hlease
  exact ⟨other, hends.leases ▸ hother, hboot, hsequence⟩

theorem exchanged_disposeAny {ledger : EngineLedger} {found : Option EngineId}
    (hcause : ∀ n, cause ≠ .exchanged n) :
    ∀ engine n, (engine, .exchanged n) ∈ (ledger.disposeAny found cause).disposals →
      (engine, .exchanged n) ∈ ledger.disposals := by
  intro engine n hmem
  rcases of_mem_disposeAny hmem with hmem | heq
  · exact hmem
  · exact absurd heq.symm (hcause n)

theorem Sound.endBoot (h : s.Sound) (hboot : s.boots[b]? = some boot)
    (hcancelled : boot.cancelled = true → boot.engine = none)
    (hends : Ends s.host later boot.ownedRuntime) (hnone : ∀ engine, found.keeps engine = false)
    (hempty : found.cancelled = false → found.engine = none)
    (howned : found.ownedRuntime = none) (hsequence : boot.reloadSequence ≤ found.reloadSequence)
    (hopen : found.cancelled = false → boot.cancelled = false) (hcause : cause.endsForm = true)
    (hexchanged : ∀ n, cause ≠ .exchanged n) :
    Sound { s with
      host := later
      ledger := s.ledger.disposeAny boot.engine cause
      boots := s.boots.set b found } where
  custody := h.custody.disposeBoot hboot hcancelled hnone
  boots := h.boots.set hboot hopen fun _ => howned
  loads := h.loads.setBoot hboot hsequence fun load _ _ _ hfound _ => ⟨hempty hfound, howned⟩
  leases := by
    change LeasesSound later.leases _ _
    rw [hends.leases]
    exact h.leases.retire fun l c p => holder_release h.boots h.loads h.leases hboot howned
  settled := h.settled
  pending := pending_ends h.pending hends
  outcomes := h.outcomes.mono (disposals_disposeAny _) follows_refl
    (fun _ hinstalled => hinstalled.endBoot hboot hcause) (exchanged_disposeAny hexchanged)
  bound := by
    change Bound later.leases _ _ _
    rw [hends.leases]
    exact h.bound.endBoot hboot hnone
  expected := by
    change ExpectedSound later.rendererEngine _ _ _ _
    rw [created_disposeAny]
    exact h.expected.release hends.renderer

theorem Sound.release {q : Nat} (h : s.Sound) (hboot : s.boots[b]? = some boot)
    (hcancelled : boot.cancelled = true → boot.engine = none) (hsequence : boot.reloadSequence ≤ q)
    (hcause : cause.endsForm = true) (hexchanged : ∀ n, cause ≠ .exchanged n) :
    (s.release b boot q cause).Sound :=
  h.endBoot hboot hcancelled ends_disposeAny
    (fun engine => by rw [Bootstrap.keeps, Option.none_beq_some, Bool.and_false])
    (fun _ => rfl) rfl hsequence id hcause hexchanged

theorem Sound.pushLoad {q : Nat} (h : s.Sound) (boot : Bootstrap)
    (hboot : s.boots[b]? = some ⟨boot.cancelled, none, none, q⟩)
    (hnext : ∀ load ∈ s.loads, load.boot = b → load.sequence < q) :
    Sound { s with loads := s.loads ++ [Load.begun b q] } :=
  { h with
    custody := h.custody.pushLoad
    loads := h.loads.pushLoad hboot rfl rfl hnext
    leases := h.leases.congr fun _ _ _ => holder_pushLoad
    expected := h.expected.setLoads (by
      intro other hmem
      rcases List.mem_append.mp hmem with hmem | hmem
      · exact Or.inr ⟨other, hmem, rfl⟩
      · rw [List.mem_singleton.mp hmem]
        exact Or.inl rfl) }

theorem Sound.applyReadyState (h : s.Sound) (hboot : s.boots[b]? = some boot)
    (hcancelled : boot.cancelled = true → boot.engine = none) : (s.applyReadyState b boot).Sound := by
  have hreleased : Sound ({ s with host := s.host.invalidateAny boot.ownedRuntime }.release b boot
      (boot.reloadSequence + 1) .reloaded) :=
    h.endBoot hboot hcancelled (ends_invalidateAny.again ends_disposeAny)
      (fun engine => by rw [Bootstrap.keeps, Option.none_beq_some, Bool.and_false])
      (fun _ => rfl) rfl (Nat.le_succ _) id rfl nofun
  refine Sound.setRespondentState (hreleased.pushLoad boot ?_ ?_)
  · exact List.getElem?_set_self (List.getElem?_eq_some_iff.mp hboot).1
  · intro load hmem heq
    obtain ⟨other, hother, hle⟩ := h.loads.begun load hmem
    rw [heq, hboot] at hother
    cases hother
    exact Nat.lt_succ_of_le hle

/-! ## Settlements -/

variable {pending : PendingExchange}

theorem Sound.reject (h : s.Sound) (hpending : s.pendingExchange = some pending) :
    (s.reject pending).Sound := by
  obtain ⟨install, lease, hinstall, -, hengine, hexpected, -⟩ := h.pending pending hpending
  have hcustody := h.custody
  have hsettled := h.settled
  rw [hpending] at hcustody hsettled
  have hinstalled : ∀ engine, Installed s.ledger.disposals s.boots engine →
      Installed (s.ledger.dispose pending.engine .rolledBack).disposals s.boots engine :=
    fun engine hengine => hengine.mono (List.subset_cons_self _ _)
  refine { h with
    custody := hcustody.reject
    settled := hsettled.settle
    pending := nofun
    outcomes := ?_
    bound := h.bound.reject }
  constructor
  · intro n hmem
    rcases List.mem_cons.mp hmem with heq | hmem
    · cases heq
    · obtain ⟨other, hother, hlive, hdisposed⟩ := h.outcomes.committed n hmem
      exact ⟨other, hother, hinstalled _ hlive, List.mem_cons_of_mem _ hdisposed⟩
  · intro n hmem
    rcases List.mem_cons.mp hmem with heq | hmem
    · obtain rfl := (Prod.mk.inj heq).1
      refine ⟨install, hinstall, ?_, ?_⟩
      · rw [hengine]
        exact List.mem_cons_self
      · rw [hexpected]
        exact hinstalled _ (h.outcomes.pending pending hpending)
    · obtain ⟨other, hother, hdisposed, hlive⟩ := h.outcomes.rejected n hmem
      exact ⟨other, hother, List.mem_cons_of_mem _ hdisposed, hinstalled _ hlive⟩
  · intro engine n hmem
    rcases List.mem_cons.mp hmem with heq | hmem
    · cases heq
    · exact List.mem_cons_of_mem _ (h.outcomes.exchanged engine n hmem)
  · intro other heq
    cases heq

theorem active_of_holds {install : Install} (h : install.holds host = true) :
    ∃ lease, host.leases[install.lease]? = some lease ∧ lease.active = true := by
  unfold Install.holds at h
  have hlease := (Bool.and_eq_true_iff.mp h).2
  unfold HostLeases.holds at hlease
  exact (Option.any_eq_true _ _).mp (Bool.and_eq_true_iff.mp hlease).2

theorem expects_iff {sequence : Nat} {expected : EngineId} :
    Expects boot sequence expected = true
      ↔ boot.cancelled = false ∧ sequence = boot.reloadSequence ∧ boot.engine = some expected := by
  unfold Expects
  rw [Bool.and_eq_true, Bool.and_eq_true, Bool.not_eq_true', beq_iff_eq, beq_iff_eq, and_assoc]

theorem Sound.owned {l : Nat} {lease : Lease} {expected : EngineId} (h : s.Sound)
    (hlease : s.host.leases[l]? = some lease) (hactive : lease.active = true)
    (hboot : s.boots[lease.boot]? = some boot) (hexpects : Expects boot lease.sequence expected = true) :
    boot.ownedRuntime = some l := by
  obtain ⟨hcancelled, hsequence, hengine⟩ := expects_iff.mp hexpects
  rcases h.leases.owner l lease hlease hactive with
    ⟨k, load, hload, hwaits, -, hloadBoot, hloadSequence⟩ | ⟨other, hother, -, howned, -⟩
  · have hnone := (h.loads.empty load (List.mem_of_getElem? hload) hwaits boot
      ⟨hloadBoot ▸ hboot, hcancelled, hloadSequence.trans hsequence⟩).1
    rw [hengine] at hnone
    cases hnone
  · obtain rfl := Option.some.inj (hboot.symm.trans hother)
    exact howned

theorem Sound.commit (h : s.Sound) (hpending : s.pendingExchange = some pending)
    (hinstall : s.installs[pending.install]? = some install) (hholds : install.holds s.host = true)
    (hboot : s.boots[pending.boot]? = some boot)
    (hexpects : Expects boot pending.sequence pending.expected = true) : (s.commit pending boot).Sound := by
  obtain ⟨found, lease, hfound, hstage, hengine, hexpected, hlease, hleaseBoot, hleaseSequence⟩ :=
    h.pending pending hpending
  obtain rfl := Option.some.inj (hinstall.symm.trans hfound)
  obtain ⟨other, hother, hactive⟩ := active_of_holds hholds
  obtain rfl := Option.some.inj (hlease.symm.trans hother)
  have howned : boot.ownedRuntime = some install.lease := by
    rw [← hleaseBoot] at hboot
    rw [← hleaseSequence] at hexpects
    exact h.owned hlease hactive hboot hexpects
  obtain ⟨hcancelled, hsequence, hbootEngine⟩ := expects_iff.mp hexpects
  have hcustody := h.custody
  have hsettled := h.settled
  rw [hpending] at hcustody hsettled
  have hdispose : s.ledger.disposeAny boot.engine (.exchanged pending.install)
      = s.ledger.dispose pending.expected (.exchanged pending.install) := by
    rw [hbootEngine]
    rfl
  have hinstalled : ∀ engine, Installed s.ledger.disposals s.boots engine →
      Installed (s.ledger.dispose pending.expected (.exchanged pending.install)).disposals
        (s.boots.set pending.boot { boot with engine := some pending.engine }) engine := by
    intro engine hengine
    rw [← hdispose]
    exact hengine.endBoot hboot rfl
  refine { h with
    custody := hcustody.commit hboot hcancelled hbootEngine
    boots := h.boots.set hboot id fun hfound => ?_
    loads := h.loads.setBoot hboot (Nat.le_refl _) fun load hmem hwaits hat hfound hfoundSequence => ?_
    leases := h.leases.congr fun _ _ _ => holder_setEngine hboot
    settled := hsettled.settle
    pending := nofun
    outcomes := ?_
    bound := ?_ }
  · rw [hcancelled] at hfound
    cases hfound
  · have hnone := (h.loads.empty load hmem hwaits boot ⟨hat ▸ hboot, hcancelled, hfoundSequence⟩).1
    rw [hbootEngine] at hnone
    cases hnone
  · constructor
    · intro n hmem
      rcases List.mem_cons.mp hmem with heq | hmem
      · obtain rfl := (Prod.mk.inj heq).1
        refine ⟨install, hinstall, Or.inl ?_, ?_⟩
        · have hset : (s.boots.set pending.boot { boot with engine := some pending.engine })[pending.boot]?
              = some _ := List.getElem?_set_self (List.getElem?_eq_some_iff.mp hboot).1
          rw [hengine]
          exact ⟨_, List.mem_of_getElem? hset, Bootstrap.keeps_iff.mpr ⟨hcancelled, rfl⟩⟩
        · rw [hexpected]
          exact List.mem_cons_self
      · obtain ⟨other, hother, hlive, hdisposed⟩ := h.outcomes.committed n hmem
        exact ⟨other, hother, hinstalled _ hlive, List.mem_cons_of_mem _ hdisposed⟩
    · intro n hmem
      rcases List.mem_cons.mp hmem with heq | hmem
      · cases heq
      · obtain ⟨other, hother, hdisposed, hlive⟩ := h.outcomes.rejected n hmem
        exact ⟨other, hother, List.mem_cons_of_mem _ hdisposed, hinstalled _ hlive⟩
    · intro engine n hmem
      rcases List.mem_cons.mp hmem with heq | hmem
      · obtain rfl := DisposalCause.exchanged.inj (Prod.mk.inj heq).2
        exact List.mem_cons_self
      · exact List.mem_cons_of_mem _ (h.outcomes.exchanged engine n hmem)
    · intro other heq
      cases heq
  · have hbound := h.bound.commit hboot hcancelled hbootEngine hinstall hstage howned
      (fun other hmem heq => ?_) (fun n other hother heq => ?_) (fun other hmem => ?_)
    · rw [hengine] at hbound
      exact hbound
    · refine (h.expected.expected install (List.mem_of_getElem? hinstall)).2 other hmem ?_
      rw [heq, hexpected]
    · exact h.expected.unique pending.install n install other hinstall hother heq
    · rw [hengine]
      exact hcustody.not_pending hmem

theorem Sound.rollback (h : s.Sound) (hpending : s.pendingExchange = some pending) :
    Sound { s with pendingExchange := some { pending with rollback := true } } := by
  have hcustody := h.custody
  have hsettled := h.settled
  have houtcomes := h.outcomes
  rw [hpending] at hcustody hsettled houtcomes
  refine { h with
    custody := hcustody
    settled := ⟨hsettled.once, hsettled.adopted⟩
    pending := fun other heq => ?_
    outcomes := ⟨houtcomes.committed, houtcomes.rejected, houtcomes.exchanged, fun other heq => ?_⟩ }
  · cases heq
    exact h.pending pending hpending
  · cases heq
    exact houtcomes.pending pending rfl

theorem committable_eq_some (h : s.committable pending = some boot) :
    ∃ install, s.installs[pending.install]? = some install ∧ install.holds s.host = true
      ∧ s.boots[pending.boot]? = some boot ∧ Expects boot pending.sequence pending.expected = true
      ∧ pending.rollback = false := by
  unfold committable at h
  obtain ⟨install, hinstall, h⟩ := Option.bind_eq_some_iff.mp h
  obtain ⟨found, hfound, h⟩ := Option.bind_eq_some_iff.mp h
  split at h
  · next hchecks =>
      cases h
      rw [Bool.and_eq_true, Bool.and_eq_true, Bool.not_eq_true'] at hchecks
      exact ⟨install, hinstall, hchecks.1.2, hfound, hchecks.2, hchecks.1.1⟩
  · cases h

theorem Sound.layoutEffect (h : s.Sound) : s.layoutEffect.Sound := by
  unfold MountedForm.layoutEffect
  split
  · exact h
  · next pending hpending =>
      split
      · split
        · next boot hcommittable =>
            obtain ⟨install, hinstall, hholds, hboot, hexpects, -⟩ := committable_eq_some hcommittable
            exact h.commit hpending hinstall hholds hboot hexpects
        · exact (h.rollback hpending).update
      · exact h.reject hpending

theorem Sound.render (h : s.Sound) (hstep : s.render = some t) : t.Sound := by
  unfold MountedForm.render at hstep
  split at hstep
  · cases hstep
    exact Sound.layoutEffect { h with }
  · cases hstep

theorem boots_cleanup : (s.cleanup b boot).boots
    = s.boots.set b { boot with cancelled := true, ownedRuntime := none } := by
  unfold cleanup
  cases s.pendingExchange <;> rfl

theorem pendingExchange_cleanup : (s.cleanup b boot).pendingExchange = none := by
  unfold cleanup
  cases s.pendingExchange <;> rfl

theorem mounted_cleanup : (s.cleanup b boot).mounted = s.mounted := by
  unfold cleanup
  cases s.pendingExchange <;> rfl

theorem Sound.cleanup (h : s.Sound) (hboot : s.boots[b]? = some boot) (hcancelled : boot.cancelled = false) :
    (s.cleanup b boot).Sound := by
  have hcleaned : Sound { s with
      host := s.host.disposeAny boot.ownedRuntime
      ledger := s.ledger.disposeAny boot.engine .unmounted
      boots := s.boots.set b { boot with cancelled := true, ownedRuntime := none } } :=
    h.endBoot hboot (fun hfound => by rw [hcancelled] at hfound; cases hfound) ends_disposeAny
      (fun _ => rfl) nofun rfl (Nat.le_refl _)
      nofun rfl nofun
  unfold MountedForm.cleanup
  cases hpending : s.pendingExchange with
  | none =>
    rw [hpending] at hcleaned
    exact hcleaned
  | some pending =>
    rw [hpending] at hcleaned
    exact hcleaned.reject rfl

theorem cancelled_cleanup (boot : Bootstrap) (h : s.Sound) (hlast : b + 1 = s.boots.length) :
    ∀ other ∈ (s.cleanup b boot).boots, other.cancelled = true := by
  rw [boots_cleanup]
  exact h.boots.cancelled hlast rfl

theorem getLast?_eq_some (h : s.boots.getLast? = some boot) :
    s.boots[s.boots.length - 1]? = some boot ∧ s.boots.length - 1 + 1 = s.boots.length := by
  rw [List.getLast?_eq_getElem?] at h
  have hlt := (List.getElem?_eq_some_iff.mp h).1
  exact ⟨h, by omega⟩

theorem Sound.rebooted (h : s.Sound) (hstep : s.rebooted = some t) : t.Sound := by
  unfold MountedForm.rebooted at hstep
  obtain ⟨boot, hlast, hstep⟩ := Option.bind_eq_some_iff.mp hstep
  obtain ⟨hboot, hlength⟩ := getLast?_eq_some hlast
  split at hstep
  · cases hstep
  · next hruns =>
      cases hstep
      rw [Bool.not_eq_true, Bool.or_eq_false_iff, Bool.not_eq_false'] at hruns
      have hcleaned := h.cleanup hboot hruns.2
      have hall := cancelled_cleanup boot h hlength
      refine Sound.setRespondentState { hcleaned with
        custody := hcleaned.custody.pushBoot
        boots := ?_
        loads := hcleaned.loads.pushBoot
        leases := hcleaned.leases.congr fun _ _ _ => holder_pushBoot
        outcomes := hcleaned.outcomes.mono (List.Subset.refl _) follows_refl
          (fun _ hinstalled => hinstalled.pushBoot) fun _ _ hmem => hmem
        bound := hcleaned.bound.pushBoot }
      change BootsSound _ (s.cleanup (s.boots.length - 1) boot).mounted
      rw [mounted_cleanup, hruns.1]
      exact hcleaned.boots.push hall

theorem Sound.unmount (h : s.Sound) (hstep : s.unmount = some t) : t.Sound := by
  unfold MountedForm.unmount at hstep
  obtain ⟨boot, hlast, hstep⟩ := Option.bind_eq_some_iff.mp hstep
  obtain ⟨hboot, hlength⟩ := getLast?_eq_some hlast
  split at hstep
  · cases hstep
  · next hruns =>
      cases hstep
      rw [Bool.not_eq_true, Bool.or_eq_false_iff] at hruns
      have hcleaned := h.cleanup hboot hruns.2
      exact { hcleaned with boots := hcleaned.boots.unmount (cancelled_cleanup boot h hlength) }

/-! ## Loads -/

theorem waiting_eq_some (h : s.waiting k = some load) : s.loads[k]? = some load ∧ load.waits = true := by
  unfold waiting at h
  obtain ⟨found, hfound, h⟩ := Option.bind_eq_some_iff.mp h
  split at h
  · next hwaits =>
      cases h
      exact ⟨hfound, hwaits⟩
  · cases h

theorem Sound.created (h : s.Sound) (hstep : s.created k = some t) : t.Sound := by
  unfold MountedForm.created at hstep
  obtain ⟨load, hwaiting, hstep⟩ := Option.bind_eq_some_iff.mp hstep
  obtain ⟨hload, hwaits⟩ := waiting_eq_some hwaiting
  split at hstep
  · cases hstep
  · next hnone =>
      cases hstep
      exact { h with
        custody := h.custody.create hload hwaits (Option.not_isSome_iff_eq_none.mp hnone)
        loads := h.loads.setLoad hload rfl rfl id
        leases := h.leases.congr fun _ _ _ => holder_setLoad hload
        expected := h.expected.create }

theorem Sound.configuring (h : s.Sound) (hstep : s.configuring k = some t) : t.Sound := by
  unfold MountedForm.configuring at hstep
  obtain ⟨load, hwaiting, hstep⟩ := Option.bind_eq_some_iff.mp hstep
  obtain ⟨engine, hengine, hstep⟩ := Option.bind_eq_some_iff.mp hstep
  have hmem := List.mem_of_getElem? (waiting_eq_some hwaiting).1
  split at hstep
  · cases hstep
  · cases hstep
    exact { h with expected := h.expected.configuring hmem hengine }

theorem engines_set (taken : Load) (hload : s.loads[k]? = some load)
    (hengine : taken.engine = load.engine) :
    ∀ other ∈ s.loads.set k taken, other.engine = none ∨ ∃ load ∈ s.loads, other.engine = load.engine := by
  intro other hmem
  rcases List.mem_or_eq_of_mem_set hmem with hmem | rfl
  · exact Or.inr ⟨other, hmem, rfl⟩
  · exact Or.inr ⟨load, List.mem_of_getElem? hload, hengine⟩

theorem Sound.configured (h : s.Sound) (hstep : s.configured k = some t) : t.Sound := by
  unfold MountedForm.configured at hstep
  obtain ⟨load, hwaiting, hstep⟩ := Option.bind_eq_some_iff.mp hstep
  obtain ⟨engine, hengine, hstep⟩ := Option.bind_eq_some_iff.mp hstep
  obtain ⟨hload, hwaits⟩ := waiting_eq_some hwaiting
  split at hstep
  · cases hstep
  · next hnone =>
      cases hstep
      exact { h with
        custody := h.custody.setLoad hload fun _ => rfl
        loads := h.loads.setLoad hload rfl rfl id
        leases := h.leases.grant fun l c p =>
          holder_grant hload hwaits (Option.not_isSome_iff_eq_none.mp hnone)
        pending := pending_leases h.pending fun l lease hlease =>
          ⟨lease, getElem?_concat_of hlease, rfl, rfl⟩
        bound := h.bound.grant
        expected := h.expected.setLoads (engines_set _ hload rfl) }

theorem Sound.discard (h : s.Sound) (hload : s.loads[k]? = some load) (hwaits : load.waits = true) :
    ((s.setLoad k { load with waits := false }).discard load).Sound where
  custody := h.custody.discard hload hwaits
  __ := h
  loads := h.loads.setLoad hload rfl rfl nofun
  leases := by
    change LeasesSound (s.host.disposeAny load.ownedRuntime).leases _ _
    rw [disposeAny_leases]
    exact h.leases.retire fun _ _ _ => holder_discard h.loads h.leases hload hwaits
  pending := pending_ends h.pending ends_disposeAny
  outcomes := h.outcomes.mono (disposals_disposeAny _) follows_refl
    (fun _ hinstalled => hinstalled.mono (disposals_disposeAny _))
    (exchanged_disposeAny nofun)
  bound := by
    change Bound (s.host.disposeAny load.ownedRuntime).leases _ _ _
    rw [disposeAny_leases]
    exact h.bound.deactivate
  expected := by
    change ExpectedSound (s.host.disposeAny load.ownedRuntime).rendererEngine _ _ _
      (s.ledger.disposeAny load.engine .discarded).created
    rw [created_disposeAny]
    exact (h.expected.setLoads (engines_set { load with waits := false } hload rfl)).release
      ends_disposeAny.renderer

theorem Sound.installLoad (h : s.Sound) (hload : s.loads[k]? = some load) (hwaits : load.waits = true)
    (hcurrent : Current s.boots load boot) :
    ((s.setLoad k { load with waits := false }).install load boot state).Sound := by
  have hmem := List.mem_of_getElem? hload
  obtain ⟨hnone, howned⟩ := h.loads.empty load hmem hwaits boot hcurrent
  have hcancelled : ∀ found : Bootstrap, found.cancelled = boot.cancelled → found.cancelled = true →
      found.ownedRuntime = none := by
    intro found hsame hfound
    rw [hsame, hcurrent.cancelled] at hfound
    cases hfound
  unfold MountedForm.install
  rw [howned]
  refine Sound.setRespondentState { h with
    custody := h.custody.installLoad hload hwaits hcurrent.found hcurrent.cancelled hnone
    boots := h.boots.set hcurrent.found id (hcancelled _ rfl)
    loads := ?_
    leases := h.leases.congr fun _ _ _ => holder_install h.loads hload hwaits hcurrent
    outcomes := h.outcomes.mono (List.Subset.refl _) follows_refl
      (fun _ hinstalled => hinstalled.setBoot hcurrent.found hnone) fun _ _ hmem => hmem
    bound := ?_
    expected := h.expected.setLoads (engines_set _ hload rfl) }
  · have hended : LoadsSound s.boots (s.loads.set k { load with waits := false }) :=
      h.loads.setLoad hload rfl rfl nofun
    refine hended.setBoot hcurrent.found (Nat.le_refl _) ?_
    intro other hother hotherWaits hat _ hsequence
    obtain ⟨j, hj⟩ := List.mem_iff_getElem?.mp hother
    rcases of_getElem?_set hj with ⟨-, rfl⟩ | ⟨hne, hj⟩
    · cases hotherWaits
    · exact absurd (h.loads.alone k j load other hload hj hat
        (hsequence.trans hcurrent.sequence.symm)) hne
  · refine h.bound.setBoot hcurrent.found hnone fun install hinstall => ?_
    rw [← Bool.not_eq_true, Bootstrap.keeps_iff]
    rintro ⟨-, hengine⟩
    exact (h.expected.loads load hmem install.engine hengine).2 install hinstall rfl

theorem Sound.loaded {outcome : LoadOutcome} (h : s.Sound) (hstep : s.loaded k outcome = some t) :
    t.Sound := by
  unfold MountedForm.loaded at hstep
  obtain ⟨load, hwaiting, hstep⟩ := Option.bind_eq_some_iff.mp hstep
  obtain ⟨boot, hboot, hstep⟩ := Option.bind_eq_some_iff.mp hstep
  obtain ⟨state, hstate, hstep⟩ := Option.bind_eq_some_iff.mp hstep
  obtain ⟨hload, hwaits⟩ := waiting_eq_some hwaiting
  cases hstep
  split
  · exact h.discard hload hwaits
  · next hcurrent =>
      rw [Bool.not_eq_true, Bool.or_eq_false_iff, bne_eq_false_iff_eq] at hcurrent
      split
      · exact (h.discard hload hwaits).setRespondentState
      · exact h.installLoad hload hwaits ⟨hboot, hcurrent.1, hcurrent.2⟩

theorem Sound.clearRequested {clearing : Clearing} (h : s.Sound)
    (hstep : s.clearRequested clearing = some t) : t.Sound := by
  unfold MountedForm.clearRequested at hstep
  split at hstep
  · cases hstep
    refine { h with
      leases := ?_
      pending := pending_ends h.pending ends_invalidateAny
      bound := ?_
      expected := h.expected.release ends_invalidateAny.renderer }
    · change LeasesSound (s.host.invalidateAny s.rendered.ownedRuntime?).leases _ _
      rw [invalidateAny_leases]
      exact h.leases.invalidate ⟨clearing, s.rendered.ownedRuntime?, true⟩
    · change Bound (s.host.invalidateAny s.rendered.ownedRuntime?).leases _ _ _
      rw [invalidateAny_leases]
      exact h.bound.deactivate
  · cases hstep

theorem Sound.disposeActiveEngine (h : s.Sound) : s.disposeActiveEngine.Sound := by
  unfold MountedForm.disposeActiveEngine
  split
  · next boot hlast =>
      split
      · exact h
      · next hcancelled =>
          exact h.release (getLast?_eq_some hlast).1 (fun hfound => absurd hfound hcancelled)
            (Nat.le_refl _) rfl nofun
  · exact h

theorem Sound.cleared {c : Nat} {resolved : Bool} (h : s.Sound) (hstep : s.cleared c resolved = some t) :
    t.Sound := by
  unfold MountedForm.cleared at hstep
  obtain ⟨call, hcall, hstep⟩ := Option.bind_eq_some_iff.mp hstep
  split at hstep
  · cases hstep
  · cases hstep
    have hdone : Sound { s with clearings := s.clearings.set c { call with waits := false } } := by
      refine { h with leases := h.leases.recorded ?_ }
      rintro l ⟨other, hmem, hother⟩
      obtain ⟨d, hd⟩ := List.mem_iff_getElem?.mp hmem
      by_cases heq : d = c
      · subst heq
        obtain rfl := Option.some.inj (hcall.symm.trans hd)
        refine ⟨{ call with waits := false }, ?_, hother⟩
        exact List.mem_of_getElem? (List.getElem?_set_self (List.getElem?_eq_some_iff.mp hcall).1)
      · refine ⟨other, ?_, hother⟩
        exact List.mem_of_getElem? ((List.getElem?_set_ne (Ne.symm heq)).trans hd)
    split
    · exact hdone
    split
    · exact { hdone.disposeActiveEngine with }
    · exact hdone.disposeActiveEngine.setRespondentState

/-! ## Installations -/

theorem Sound.qualify (h : s.Sound) (hstep : s.qualify = some t) : t.Sound := by
  unfold MountedForm.qualify at hstep
  obtain ⟨engine, hengine, hstep⟩ := Option.bind_eq_some_iff.mp hstep
  obtain ⟨l, -, hstep⟩ := Option.bind_eq_some_iff.mp hstep
  cases hstep
  have hexpected := h.expected
  rw [hengine] at hexpected
  refine { h with expected := ?_ }
  rw [hengine]
  exact hexpected.qualify

theorem Sound.installFacts {q : Nat} (h : s.Sound) (hstep : s.installFacts q = some t) : t.Sound := by
  unfold MountedForm.installFacts at hstep
  obtain ⟨⟨l, expected⟩, hqualification, hstep⟩ := Option.bind_eq_some_iff.mp hstep
  dsimp only at hstep
  split at hstep
  · next hactive =>
      cases hstep
      obtain ⟨lease, hlease, -⟩ := (Option.any_eq_true _ _).mp hactive
      exact { h with
        custody := h.custody.pushInstall rfl rfl rfl
        settled := h.settled.pushInstall rfl rfl
        pending := fun pending hpending => by
          obtain ⟨install, lease, hinstall, hrest⟩ := h.pending pending hpending
          exact ⟨install, lease, getElem?_concat_of hinstall, hrest⟩
        outcomes := h.outcomes.mono (List.Subset.refl _) follows_push (fun _ hinstalled => hinstalled)
          fun _ _ hmem => hmem
        bound := h.bound.pushInstall (List.getElem?_eq_some_iff.mp hlease).1
          (h.settled.not_settled (by rw [List.getElem?_eq_none (Nat.le_refl _), Option.any_none]))
        expected := h.expected.pushInstall
          (h.expected.qualified _ (List.mem_of_getElem? hqualification)) rfl }
  · cases hstep

structure Continues (install next : Install) : Prop where
  lease : next.lease = install.lease
  expected : next.expected = install.expected
  engine : next.engine = install.engine
  adopted : next.adopted = install.adopted
  exchanging : next.stage = .exchanging → install.stage = .exchanging
  installed : install.stage = .installed → next.stage = .installed

def Leaves (s : MountedForm) (i : Nat) (install next : Install) : Prop :=
  install.stage = .exchanging → next.stage = .exchanging
    ∨ (∃ settlement, (i, settlement) ∈ s.settlements)
      ∧ ((i, .committed) ∈ s.settlements → ¬Live s.boots install.engine)

section

variable (h : s.Sound)
include h

theorem pending_set {next : Install} (hinstall : s.installs[i]? = some install)
    (hcontinues : Continues install next)
    (hleaves : install.stage = .exchanging → next.stage = .exchanging
      ∨ ∃ settlement, (i, settlement) ∈ s.settlements) :
    PendingSound s.pendingExchange (s.installs.set i next) s.host.leases := by
  intro pending hpending
  obtain ⟨found, lease, hfound, hstage, hengine, hexpected, hlease, hrest⟩ := h.pending pending hpending
  by_cases heq : pending.install = i
  · subst heq
    obtain rfl := Option.some.inj (hinstall.symm.trans hfound)
    have hset := List.getElem?_set_self (a := next) (List.getElem?_eq_some_iff.mp hinstall).1
    rcases hleaves hstage with hnext | ⟨settlement, hmem⟩
    · refine ⟨next, lease, hset, hnext, hcontinues.engine.trans hengine,
        hcontinues.expected.trans hexpected, ?_, hrest⟩
      rw [hcontinues.lease]
      exact hlease
    · have hsettled := h.settled
      rw [hpending] at hsettled
      exact absurd hmem hsettled.not_both
  · exact ⟨found, lease, (List.getElem?_set_ne (Ne.symm heq)).trans hfound, hstage, hengine, hexpected,
      hlease, hrest⟩

theorem Sound.setInstall {next : Install} (hinstall : s.installs[i]? = some install)
    (hcontinues : Continues install next) (hdisposed : next.disposed = install.disposed)
    (hadopts : next.stage.adopts = true → install.adopted = true ∨ install.disposed = true)
    (hleaves : s.Leaves i install next) : (s.setInstall i next).Sound :=
  { h with
    custody := h.custody.setInstall hinstall fun engine => by
      rw [Install.keeps, Install.keeps, hdisposed, hcontinues.adopted, hcontinues.engine]
    settled := h.settled.setInstall hinstall hcontinues.adopted fun hnext => by
      rw [hcontinues.adopted, hdisposed]
      exact hadopts hnext
    pending := pending_set h hinstall hcontinues fun hstage => (hleaves hstage).imp_right And.left
    outcomes := h.outcomes.mono (List.Subset.refl _)
      (follows_set hinstall hcontinues.engine hcontinues.expected hcontinues.lease)
      (fun _ hinstalled => hinstalled) fun _ _ hmem => hmem
    bound := h.bound.setInstall hinstall hcontinues.engine hcontinues.lease (fun _ => hcontinues.exchanging)
      fun hstage => (hleaves hstage).imp_right And.right
    expected := h.expected.setInstall hinstall hcontinues.engine hcontinues.expected hcontinues.installed }

theorem Sound.withdraw {next : Install} {stage : InstallStage}
    (hinstall : s.installs[i]? = some install) (hcontinues : Continues install { next with stage })
    (hdisposed : next.disposed = install.disposed)
    (hleaves : s.Leaves i install { next with stage }) : (s.withdraw i next stage).Sound := by
  unfold MountedForm.withdraw
  split
  · next hended =>
      rw [Bool.or_eq_true, hdisposed, hcontinues.adopted] at hended
      exact h.setInstall hinstall hcontinues hdisposed (fun _ => hended.symm) hleaves
  · next hfree =>
      rw [Bool.not_eq_true, Bool.or_eq_false_iff, hdisposed, hcontinues.adopted] at hfree
      have hengine : next.engine = install.engine := hcontinues.engine
      have hsub : s.ledger.disposals ⊆ (s.ledger.dispose install.engine .withdrawn).disposals :=
        List.subset_cons_self _ _
      have hended : Continues install { next with disposed := true, stage } :=
        ⟨hcontinues.lease, hcontinues.expected, hengine, hcontinues.adopted, hcontinues.exchanging,
          hcontinues.installed⟩
      have hledger : s.ledger.dispose next.engine .withdrawn = s.ledger.dispose install.engine .withdrawn := by
        rw [hengine]
      rw [hledger]
      exact { h with
        custody := h.custody.withdraw hinstall hfree.1 hfree.2 rfl
        settled := h.settled.setInstall hinstall hended.adopted fun _ => Or.inr rfl
        pending := pending_set h hinstall hended fun hstage => (hleaves hstage).imp_right And.left
        outcomes := h.outcomes.mono hsub
          (follows_set hinstall hended.engine hended.expected hended.lease)
          (fun _ hinstalled => hinstalled.mono hsub) fun engine n hmem => by
            rcases List.mem_cons.mp hmem with heq | hmem
            · cases heq
            · exact hmem
        bound := h.bound.setInstall hinstall hended.engine hended.lease (fun _ => hended.exchanging)
          fun hstage => (hleaves hstage).imp_right And.right
        expected := h.expected.setInstall hinstall hended.engine hended.expected hended.installed }

theorem Sound.built {resolved : Bool} (hstep : s.built i resolved = some t) : t.Sound := by
  unfold MountedForm.built at hstep
  obtain ⟨install, hinstall, hstep⟩ := Option.bind_eq_some_iff.mp hstep
  split at hstep
  · cases hstep
  · next hstage =>
      rw [not_not] at hstage
      cases hstep
      have hleaves : ∀ next, s.Leaves i install next := fun next hexchanging => by
        rw [hstage] at hexchanging
        cases hexchanging
      have hinstalled : ∀ next : Install, install.stage = .installed → next.stage = .installed :=
        fun next heq => by
          rw [hstage] at heq
          cases heq
      split
      · exact h.setInstall hinstall ⟨rfl, rfl, rfl, rfl, fun heq => (by cases heq), hinstalled _⟩ rfl
          nofun (hleaves _)
      · exact h.withdraw hinstall ⟨rfl, rfl, rfl, rfl, fun heq => (by cases heq), hinstalled _⟩ rfl
          (hleaves _)

theorem Sound.abort (hstep : s.abort i = some t) : t.Sound := by
  unfold MountedForm.abort at hstep
  obtain ⟨install, hinstall, hstep⟩ := Option.bind_eq_some_iff.mp hstep
  split at hstep
  · cases hstep
  · cases hstep
    have hcontinues : Continues install { install with aborted := true } :=
      ⟨rfl, rfl, rfl, rfl, id, id⟩
    exact h.withdraw hinstall hcontinues rfl fun hstage => Or.inl hstage

theorem Sound.guardsChanged {current factsCurrent : Bool}
    (hstep : s.guardsChanged i current factsCurrent = some t) : t.Sound := by
  unfold MountedForm.guardsChanged at hstep
  obtain ⟨install, hinstall, hstep⟩ := Option.bind_eq_some_iff.mp hstep
  cases hstep
  exact h.setInstall hinstall ⟨rfl, rfl, rfl, rfl, id, id⟩ rfl
    (h.settled.adopted install (List.mem_of_getElem? hinstall)) fun hstage => Or.inl hstage

theorem Sound.adopt {lease : Lease} (hinstall : s.installs[i]? = some install)
    (hlease : s.host.leases[install.lease]? = some lease) (haccepts : s.accepts install lease = true)
    (hstage : install.stage = .replaced) :
    Sound { s.setInstall i { install with adopted := true, stage := .exchanging } with
      pendingExchange :=
        some ⟨i, install.expected, install.engine, lease.boot, lease.sequence, false⟩ } := by
  unfold accepts at haccepts
  rw [Bool.and_eq_true, Bool.and_eq_true, Bool.and_eq_true, Bool.not_eq_true', Bool.not_eq_true',
    Option.isNone_iff_eq_none, Option.any_eq_true] at haccepts
  obtain ⟨⟨⟨⟨boot, hboot, hexpects⟩, hnone⟩, hdisposed⟩, hadopted⟩ := haccepts
  obtain ⟨hcancelled, -, hengine⟩ := expects_iff.mp hexpects
  have hcustody := h.custody
  have hsettled := h.settled
  have houtcomes := h.outcomes
  rw [hnone] at hcustody hsettled houtcomes
  have hmoved : Outcomes s.ledger.disposals s.boots
      (s.installs.set i { install with adopted := true, stage := .exchanging }) none s.settlements :=
    houtcomes.mono (List.Subset.refl _) (follows_set hinstall rfl rfl rfl)
      (fun _ hinstalled => hinstalled) fun _ _ hmem => hmem
  refine { h with
    custody := hcustody.adopt hinstall hdisposed hadopted rfl rfl
    settled := hsettled.adopt hinstall hadopted rfl rfl
    pending := fun pending hpending => ?_
    outcomes := ⟨hmoved.committed, hmoved.rejected, hmoved.exchanged, fun pending hpending => ?_⟩
    bound := ?_
    expected := h.expected.setInstall hinstall rfl rfl fun heq => ?_ }
  · cases hpending
    exact ⟨_, lease, List.getElem?_set_self (List.getElem?_eq_some_iff.mp hinstall).1, rfl, rfl, rfl,
      hlease, rfl, rfl⟩
  · cases hpending
    exact Or.inl ⟨boot, List.mem_of_getElem? hboot, Bootstrap.keeps_iff.mpr ⟨hcancelled, hengine⟩⟩
  · refine h.bound.setInstall hinstall rfl rfl (fun hcommitted => absurd hcommitted ?_) fun heq => ?_
    · exact h.settled.not_settled (by rw [hinstall, Option.any_some, hadopted])
    · rw [hstage] at heq
      cases heq
  · rw [hstage] at heq
    cases heq

theorem Sound.exchange (hstep : s.exchange i = some t) : t.Sound := by
  unfold MountedForm.exchange at hstep
  obtain ⟨install, hinstall, hstep⟩ := Option.bind_eq_some_iff.mp hstep
  obtain ⟨lease, hlease, hstep⟩ := Option.bind_eq_some_iff.mp hstep
  split at hstep
  · cases hstep
  · next hstage =>
      rw [not_not] at hstage
      cases hstep
      have hleaves : ∀ next, s.Leaves i install next := fun next hexchanging => by
        rw [hstage] at hexchanging
        cases hexchanging
      have hinstalled : ∀ next : Install, install.stage = .installed → next.stage = .installed :=
        fun next heq => by
          rw [hstage] at heq
          cases heq
      split
      · exact h.withdraw hinstall ⟨rfl, rfl, rfl, rfl, fun heq => (by cases heq), hinstalled _⟩ rfl
          (hleaves _)
      split
      · next haccepts => exact (h.adopt hinstall hlease haccepts hstage).update
      · exact h.setInstall hinstall ⟨rfl, rfl, rfl, rfl, fun heq => (by cases heq), hinstalled _⟩ rfl
          nofun (hleaves _)

theorem Sound.rebind (hinstall : s.installs[i]? = some install)
    (hstage : install.stage = .exchanging) (hcommitted : (i, .committed) ∈ s.settlements)
    (hholds : install.holds s.host = true) :
    Sound ({ s with host := s.host.rebind install.lease install.engine }.setInstall i
      { install with stage := .installed }) := by
  have hmem := List.mem_of_getElem? hinstall
  have hlt := (List.getElem?_eq_some_iff.mp hinstall).1
  obtain ⟨lease, hlease, hactive⟩ := active_of_holds hholds
  have hlive := h.bound.awaiting i install lease ⟨hcommitted, hinstall⟩ hstage hlease hactive
  have hcontinues : Continues install { install with stage := .installed } :=
    ⟨rfl, rfl, rfl, rfl, fun heq => (by cases heq), fun _ => rfl⟩
  have hunique : ∀ (n : Nat) (other : Install), s.installs[n]? = some other →
      other.engine = install.engine → n = i :=
    fun n other hother heq => h.expected.unique i n install other hinstall hother heq
  have hbound : BoundEngine (s.installs.set i { install with stage := .installed }) s.ledger.created
      install.engine := by
    refine ⟨h.expected.fresh install hmem, fun other hother heq => ?_⟩
    obtain ⟨n, hn⟩ := List.mem_iff_getElem?.mp hother
    rcases of_getElem?_set hn with ⟨-, rfl⟩ | ⟨hne, hn⟩
    · rfl
    · exact absurd (hunique n other hn heq) hne
  have hexpected : ExpectedSound s.host.rendererEngine s.qualifications s.loads
      (s.installs.set i { install with stage := .installed }) s.ledger.created :=
    h.expected.setInstall hinstall rfl rfl fun _ => rfl
  have hhost : s.host.rebind install.lease install.engine = { s.host with
      leases := s.host.leases.set install.lease { lease with leasedEngine := install.engine }
      rendererEngine := some install.engine } := by
    unfold HostLeases.rebind
    rw [hlease]
  rw [hhost]
  exact { h with
    custody := h.custody.setInstall hinstall fun _ => rfl
    leases := h.leases.rebind hlease
    settled := h.settled.setInstall hinstall rfl fun _ =>
      h.settled.adopted install hmem (by rw [hstage]; rfl)
    pending := by
      refine pending_leases (pending_set h hinstall hcontinues fun _ => Or.inr ⟨_, hcommitted⟩) ?_
      intro l other hother
      by_cases heq : l = install.lease
      · subst heq
        obtain rfl := Option.some.inj (hlease.symm.trans hother)
        exact ⟨_, List.getElem?_set_self (List.getElem?_eq_some_iff.mp hlease).1, rfl, rfl⟩
      · exact ⟨other, (List.getElem?_set_ne (Ne.symm heq)).trans hother, rfl, rfl⟩
    outcomes := h.outcomes.mono (List.Subset.refl _) (follows_set hinstall rfl rfl rfl)
      (fun _ hinstalled => hinstalled) fun _ _ hmem => hmem
    bound := h.bound.rebind h.boots ⟨hcommitted, hinstall⟩ hlive hlease hunique
    expected := { hexpected with
      renderer := fun engine heq => by
        cases heq
        exact hbound } }

end

theorem live_iff : s.live engine = true ↔ Live s.boots engine := by
  unfold live Live
  rw [List.any_eq_true]

theorem Sound.resumed (h : s.Sound) (hmeets : s.meets (.resumed i) = true)
    (hstep : s.resumed i = some t) : t.Sound := by
  unfold MountedForm.resumed at hstep
  obtain ⟨install, hinstall, hstep⟩ := Option.bind_eq_some_iff.mp hstep
  have hends : ∀ {next : InstallStage}, next = .failed → install.stage ≠ .installed →
      Continues install { install with stage := next } := by
    rintro next rfl hne
    exact ⟨rfl, rfl, rfl, rfl, fun heq => (by cases heq), fun heq => absurd heq hne⟩
  cases hstage : install.stage with
  | refused =>
    rw [hstage] at hstep
    cases hstep
    refine h.withdraw hinstall (hends rfl fun heq => ?_) rfl fun heq => ?_
    · rw [hstage] at heq
      cases heq
    · rw [hstage] at heq
      cases heq
  | exchanging =>
    have hne : install.stage ≠ .installed := fun heq => by
      rw [hstage] at heq
      cases heq
    cases hlookup : s.settlements.lookup i with
    | none =>
      rw [hstage, hlookup] at hstep
      cases hstep
    | some settlement =>
      have hmem := Shared.mem_of_lookup hlookup
      cases settlement with
      | rejected =>
        rw [hstage, hlookup] at hstep
        cases hstep
        refine h.withdraw hinstall (hends rfl hne) rfl fun _ => Or.inr ⟨⟨_, hmem⟩, fun _ hlive => ?_⟩
        obtain ⟨found, hfound, hdisposed, -⟩ := h.outcomes.rejected i hmem
        obtain rfl := Option.some.inj (hinstall.symm.trans hfound)
        obtain ⟨boot, hboot, hkeeps⟩ := hlive
        exact h.custody.not_disposed hboot hkeeps (List.mem_map_of_mem hdisposed)
      | committed =>
        rw [hstage, hlookup] at hstep
        dsimp only at hstep
        split at hstep
        · next hholds =>
            cases hstep
            exact h.rebind hinstall hstage hmem hholds
        · next hholds =>
            cases hstep
            refine h.withdraw hinstall (hends rfl hne) rfl fun _ =>
              Or.inr ⟨⟨_, hmem⟩, fun _ hlive => ?_⟩
            have hneeds : (!s.live install.engine || install.stage != .exchanging
                || install.holds s.host) = true := by
              unfold meets at hmeets
              dsimp only at hmeets
              rw [hinstall, Option.all_some, hlookup] at hmeets
              exact hmeets
            rw [live_iff.mpr hlive, hstage] at hneeds
            exact hholds hneeds
  | building => rw [hstage] at hstep; cases hstep
  | replaced => rw [hstage] at hstep; cases hstep
  | installed => rw [hstage] at hstep; cases hstep
  | failed => rw [hstage] at hstep; cases hstep

theorem Sound.invalidated {resolved : Bool} (h : s.Sound)
    (hmeets : s.meets (.invalidated n resolved) = true) (hstep : s.invalidated n resolved = some t) :
    t.Sound := by
  unfold MountedForm.invalidated at hstep
  obtain ⟨call, hcall, hstep⟩ := Option.bind_eq_some_iff.mp hstep
  obtain ⟨b, hb, hstep⟩ := Option.bind_eq_some_iff.mp hstep
  obtain ⟨boot, hboot, hstep⟩ := Option.bind_eq_some_iff.mp hstep
  cases hstep
  have hdone : Sound { s with invalidations := s.invalidations.set n none } := { h with }
  cases resolved with
  | true =>
    refine hdone.applyReadyState hboot fun hcancelled => ?_
    unfold meets at hmeets
    dsimp only at hmeets
    rw [hcall, hb, Option.join_some, Option.bind_some, hboot, Option.all_some, hcancelled] at hmeets
    exact Option.isNone_iff_eq_none.mp hmeets
  | false =>
    rw [if_neg Bool.false_ne_true]
    split
    · exact hdone
    · exact hdone.setRespondentState

theorem Sound.step {event : Event} (h : s.Sound) (hmeets : s.meets event = true)
    (hstep : s.step event = some t) : t.Sound := by
  cases event with
  | reload b =>
    obtain ⟨boot, hboot, hstep⟩ := Option.bind_eq_some_iff.mp hstep
    split at hstep
    · cases hstep
    · next hcancelled =>
        cases hstep
        exact h.applyReadyState hboot fun heq => absurd heq hcancelled
  | identityChanged b =>
    obtain ⟨boot, hboot, hstep⟩ := Option.bind_eq_some_iff.mp hstep
    split at hstep
    · cases hstep
    · cases hstep
      exact { h with }
  | invalidated n resolved => exact h.invalidated hmeets hstep
  | created k => exact h.created hstep
  | configuring k => exact h.configuring hstep
  | configured k => exact h.configured hstep
  | loaded k outcome => exact h.loaded hstep
  | updated =>
    cases hstep
    exact h.update
  | localeChanged =>
    change s.localeChanged = some t at hstep
    unfold MountedForm.localeChanged at hstep
    split at hstep
    · cases hstep
      exact h.setRespondentState
    · cases hstep
  | signInFailed =>
    cases hstep
    exact h.setRespondentState
  | bootFailed b =>
    obtain ⟨boot, hboot, hstep⟩ := Option.bind_eq_some_iff.mp hstep
    split at hstep
    · cases hstep
    · cases hstep
      exact h.setRespondentState
  | clearRequested clearing => exact h.clearRequested hstep
  | cleared c resolved => exact h.cleared hstep
  | render => exact h.render hstep
  | rebooted => exact h.rebooted hstep
  | unmount => exact h.unmount hstep
  | qualify => exact h.qualify hstep
  | installFacts q => exact h.installFacts hstep
  | built i resolved => exact h.built hstep
  | exchange i => exact h.exchange hstep
  | resumed i => exact h.resumed hmeets hstep
  | abort i => exact h.abort hstep
  | guardsChanged i current factsCurrent => exact h.guardsChanged hstep

theorem of_opened (h : opened.boots[b]? = some boot) : b = 0 ∧ boot = .begun := by
  cases b with
  | zero => exact ⟨rfl, (Option.some.inj h).symm⟩
  | succ b => cases h

theorem sound_opened : opened.Sound where
  custody engine := by
    have hnone : ¬engine < opened.ledger.created := Nat.not_lt_zero engine
    rw [if_neg hnone]
    rfl
  boots := by
    refine ⟨fun b boot hboot _ => ?_, fun boot hmem _ => ?_⟩
    · obtain ⟨rfl, -⟩ := of_opened hboot
      exact ⟨rfl, rfl⟩
    · rw [List.mem_singleton.mp hmem]
      rfl
  loads := ⟨fun _ hmem => (by cases hmem), fun _ _ _ _ hload => (by cases hload), fun _ hmem => by cases hmem⟩
  leases := by
    refine ⟨fun _ _ hlease => (by cases hlease), ?_⟩
    rintro l b q (⟨k, load, hload, -⟩ | ⟨boot, hboot, -, howned, -⟩)
    · cases hload
    · rw [(of_opened hboot).2] at howned
      cases howned
  settled := ⟨fun _ => rfl, fun _ hmem => by cases hmem⟩
  pending _ hpending := by cases hpending
  outcomes := ⟨fun _ hmem => (by cases hmem), fun _ hmem => (by cases hmem),
    fun _ _ hmem => (by cases hmem), fun _ hpending => by cases hpending⟩
  bound := ⟨fun _ hmem => (by cases hmem), fun _ _ _ hcommitted => (by cases hcommitted.1),
    fun _ _ _ hcommitted => by cases hcommitted.1⟩
  expected := ⟨fun _ heq => (by cases heq), fun _ hmem => (by cases hmem), fun _ hmem => (by cases hmem),
    fun _ hmem => (by cases hmem), fun _ hmem => (by cases hmem), fun _ _ _ _ hinstall => by cases hinstall⟩

end MountedForm

end FormspecWeb.App.EngineExchange
