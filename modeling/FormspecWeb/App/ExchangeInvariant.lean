import FormspecWeb.App.EngineLeases

/-!
# What holds of exchanges

How an exchange was settled, and where its two engines went; that the lease of the host follows the
engine that was installed; and that no engine is expected before the host has bound its lease to it.
-/

namespace FormspecWeb.App.EngineExchange

open Async

variable {boots : List Bootstrap} {boot found : Bootstrap} {b n : Nat} {engine : EngineId}
  {disposals more : List (EngineId × DisposalCause)} {cause : DisposalCause} {ledger : EngineLedger}

def Live (boots : List Bootstrap) (engine : EngineId) : Prop := ∃ boot ∈ boots, boot.keeps engine = true

/-- What disposes of an engine the form has: a reload, a clearing, an unmount, or an exchange. -/
def DisposalCause.endsForm : DisposalCause → Bool
  | .reloaded | .unmounted | .cleared | .exchanged _ => true
  | .rolledBack | .withdrawn | .discarded => false

def Installed (disposals : List (EngineId × DisposalCause)) (boots : List Bootstrap) (engine : EngineId) :
    Prop :=
  Live boots engine ∨ ∃ cause, cause.endsForm = true ∧ (engine, cause) ∈ disposals

theorem Live.set (h : Live boots engine) (hboot : boots[b]? = some boot) :
    boot.keeps engine = true ∨ Live (boots.set b found) engine := by
  obtain ⟨other, hmem, hkeeps⟩ := h
  obtain ⟨c, hother⟩ := List.mem_iff_getElem?.mp hmem
  by_cases heq : c = b
  · subst heq
    rw [Option.some.inj (hboot.symm.trans hother)]
    exact Or.inl hkeeps
  · rw [← List.getElem?_set_ne (a := found) (Ne.symm heq)] at hother
    exact Or.inr ⟨other, List.mem_of_getElem? hother, hkeeps⟩

theorem mem_disposeAny : (∃ found, boot.engine = some found ∧ found = engine) →
    (engine, cause) ∈ (ledger.disposeAny boot.engine cause).disposals := by
  rintro ⟨found, hfound, rfl⟩
  rw [hfound]
  exact List.mem_cons_self

theorem disposals_disposeAny (found : Option EngineId) :
    ledger.disposals ⊆ (ledger.disposeAny found cause).disposals := by
  intro disposal hmem
  cases found with
  | none => exact hmem
  | some found => exact List.mem_cons_of_mem _ hmem

theorem of_mem_disposeAny {disposal : EngineId × DisposalCause} {found : Option EngineId}
    (h : disposal ∈ (ledger.disposeAny found cause).disposals) :
    disposal ∈ ledger.disposals ∨ disposal.2 = cause := by
  cases found with
  | none => exact Or.inl h
  | some found =>
    rcases List.mem_cons.mp h with rfl | hmem
    · exact Or.inr rfl
    · exact Or.inl hmem

theorem Installed.mono (h : Installed disposals boots engine) (hsub : disposals ⊆ more) :
    Installed more boots engine := by
  rcases h with hlive | ⟨cause, hcause, hmem⟩
  · exact Or.inl hlive
  · exact Or.inr ⟨cause, hcause, hsub hmem⟩

theorem Installed.endBoot (h : Installed ledger.disposals boots engine) (hboot : boots[b]? = some boot)
    (hcause : cause.endsForm = true) :
    Installed (ledger.disposeAny boot.engine cause).disposals (boots.set b found) engine := by
  rcases h with hlive | ⟨other, hother, hmem⟩
  · rcases hlive.set hboot with hkeeps | hlive
    · have hengine := (Bootstrap.keeps_iff.mp hkeeps).2
      exact Or.inr ⟨cause, hcause, mem_disposeAny ⟨engine, hengine, rfl⟩⟩
    · exact Or.inl hlive
  · exact Or.inr ⟨other, hother, disposals_disposeAny _ hmem⟩

theorem Installed.setBoot (h : Installed disposals boots engine) (hboot : boots[b]? = some boot)
    (hnone : boot.engine = none) : Installed disposals (boots.set b found) engine := by
  rcases h with hlive | hdisposed
  · rcases hlive.set hboot with hkeeps | hlive
    · rw [Bootstrap.keeps_iff, hnone] at hkeeps
      cases hkeeps.2
    · exact Or.inl hlive
  · exact Or.inr hdisposed

theorem Installed.pushBoot (h : Installed disposals boots engine) :
    Installed disposals (boots ++ [Bootstrap.begun]) engine := by
  rcases h with ⟨boot, hmem, hkeeps⟩ | hdisposed
  · exact Or.inl ⟨boot, List.mem_append_left _ hmem, hkeeps⟩
  · exact Or.inr hdisposed

/-! ## Settlements -/

variable {installs later : List Install} {install : Install} {pendingExchange : Option PendingExchange}
  {pending : PendingExchange} {settlements : List (Nat × Settlement)} {leases : List Lease}

/-- The installation is behind the build of its replacement and a refusal. -/
def InstallStage.adopts : InstallStage → Bool
  | .building | .replaced | .refused => false
  | .exchanging | .installed | .failed => true

structure SettledSound (settlements : List (Nat × Settlement)) (pendingExchange : Option PendingExchange)
    (installs : List Install) : Prop where
  /-- An exchange that was adopted is pending, or it was settled once. -/
  once : ∀ n, settlements.countP (·.1 == n) + pendingExchange.toList.countP (·.install == n)
    = if installs[n]?.any (·.adopted) then 1 else 0
  adopted : ∀ install ∈ installs, install.stage.adopts = true →
    install.adopted = true ∨ install.disposed = true

namespace SettledSound
variable {settlement : Settlement}

theorem settle (h : SettledSound settlements (some pending) installs) :
    SettledSound ((pending.install, settlement) :: settlements) none installs where
  once n := by
    have hcount := h.once n
    rw [Option.toList_some, List.countP_singleton] at hcount
    rw [List.countP_cons, Option.toList_none, List.countP_nil]
    exact hcount
  adopted := h.adopted

theorem setInstall {i : Nat} {next : Install} (h : SettledSound settlements pendingExchange installs)
    (hinstall : installs[i]? = some install) (hadopted : next.adopted = install.adopted)
    (hstage : next.stage.adopts = true → next.adopted = true ∨ next.disposed = true) :
    SettledSound settlements pendingExchange (installs.set i next) where
  once n := by
    rw [h.once n]
    by_cases heq : n = i
    · subst heq
      rw [hinstall, List.getElem?_set_self (List.getElem?_eq_some_iff.mp hinstall).1, Option.any_some,
        Option.any_some, hadopted]
    · rw [List.getElem?_set_ne (Ne.symm heq)]
  adopted other hmem hother := by
    rcases List.mem_or_eq_of_mem_set hmem with hmem | rfl
    · exact h.adopted other hmem hother
    · exact hstage hother

theorem pushInstall (h : SettledSound settlements pendingExchange installs)
    (hadopted : install.adopted = false) (hstage : install.stage.adopts = false) :
    SettledSound settlements pendingExchange (installs ++ [install]) where
  once n := by
    rw [h.once n]
    rcases Nat.lt_trichotomy n installs.length with hlt | rfl | hgt
    · rw [List.getElem?_append_left hlt]
    · rw [List.getElem?_concat_length, List.getElem?_eq_none (Nat.le_refl _), Option.any_some, hadopted]
      rfl
    · rw [List.getElem?_eq_none (Nat.le_of_lt hgt), List.getElem?_eq_none]
      rw [List.length_append]
      exact hgt
  adopted other hmem hother := by
    rcases List.mem_append.mp hmem with hmem | hmem
    · exact h.adopted other hmem hother
    · rw [List.mem_singleton.mp hmem, hstage] at hother
      cases hother

theorem adopt {i : Nat} {next : Install} (h : SettledSound settlements none installs)
    (hinstall : installs[i]? = some install) (hadopted : install.adopted = false)
    (hnext : next.adopted = true) (hpending : pending.install = i) :
    SettledSound settlements (some pending) (installs.set i next) where
  once n := by
    have hcount := h.once n
    rw [Option.toList_none, List.countP_nil] at hcount
    rw [Option.toList_some, List.countP_singleton, hpending]
    by_cases heq : n = i
    · subst heq
      rw [hinstall, Option.any_some, hadopted, if_neg Bool.false_ne_true] at hcount
      rw [List.getElem?_set_self (List.getElem?_eq_some_iff.mp hinstall).1, Option.any_some, hnext,
        if_pos rfl, if_pos (beq_self_eq_true _)]
      omega
    · have hne : ¬(i == n) = true := fun hin => heq (beq_iff_eq.mp hin).symm
      rw [List.getElem?_set_ne (Ne.symm heq), if_neg hne]
      exact hcount
  adopted other hmem hother := by
    rcases List.mem_or_eq_of_mem_set hmem with hmem | rfl
    · exact h.adopted other hmem hother
    · exact Or.inl hnext

theorem not_settled (h : SettledSound settlements pendingExchange installs)
    (hnot : installs[n]?.any (·.adopted) = false) : (n, settlement) ∉ settlements := by
  intro hmem
  have hpos : 0 < settlements.countP (·.1 == n) :=
    List.countP_pos_iff.mpr ⟨_, hmem, beq_self_eq_true _⟩
  have hcount := h.once n
  rw [hnot, if_neg Bool.false_ne_true] at hcount
  omega

theorem not_both (h : SettledSound settlements (some pending) installs) :
    (pending.install, settlement) ∉ settlements := by
  intro hmem
  have hpos : 0 < settlements.countP (·.1 == pending.install) :=
    List.countP_pos_iff.mpr ⟨_, hmem, beq_self_eq_true _⟩
  have hcount := h.once pending.install
  rw [Option.toList_some, List.countP_singleton, beq_self_eq_true, if_pos rfl] at hcount
  split at hcount <;> omega

end SettledSound

def PendingSound (pendingExchange : Option PendingExchange) (installs : List Install)
    (leases : List Lease) : Prop :=
  ∀ pending, pendingExchange = some pending → ∃ install lease, installs[pending.install]? = some install
    ∧ install.stage = .exchanging ∧ install.engine = pending.engine ∧ install.expected = pending.expected
    ∧ leases[install.lease]? = some lease ∧ lease.boot = pending.boot ∧ lease.sequence = pending.sequence

structure Outcomes (disposals : List (EngineId × DisposalCause)) (boots : List Bootstrap)
    (installs : List Install) (pendingExchange : Option PendingExchange)
    (settlements : List (Nat × Settlement)) : Prop where
  committed : ∀ n, (n, .committed) ∈ settlements → ∃ install, installs[n]? = some install
    ∧ Installed disposals boots install.engine ∧ (install.expected, .exchanged n) ∈ disposals
  rejected : ∀ n, (n, .rejected) ∈ settlements → ∃ install, installs[n]? = some install
    ∧ (install.engine, .rolledBack) ∈ disposals ∧ Installed disposals boots install.expected
  exchanged : ∀ engine n, (engine, .exchanged n) ∈ disposals → (n, .committed) ∈ settlements
  pending : ∀ pending, pendingExchange = some pending → Installed disposals boots pending.expected

structure Follows (installs later : List Install) : Prop where
  engines : ∀ (n : Nat) (install : Install), installs[n]? = some install → ∃ found, later[n]? = some found
    ∧ found.engine = install.engine ∧ found.expected = install.expected ∧ found.lease = install.lease

theorem follows_refl : Follows installs installs where
  engines _ install hinstall := ⟨install, hinstall, rfl, rfl, rfl⟩

theorem follows_set {i : Nat} {next : Install} (hinstall : installs[i]? = some install)
    (hengine : next.engine = install.engine) (hexpected : next.expected = install.expected)
    (hlease : next.lease = install.lease) : Follows installs (installs.set i next) where
  engines m other hother := by
    by_cases heq : m = i
    · subst heq
      obtain rfl := Option.some.inj (hinstall.symm.trans hother)
      exact ⟨next, List.getElem?_set_self (List.getElem?_eq_some_iff.mp hinstall).1, hengine, hexpected,
        hlease⟩
    · exact ⟨other, (List.getElem?_set_ne (Ne.symm heq)).trans hother, rfl, rfl, rfl⟩

theorem follows_push : Follows installs (installs ++ [install]) where
  engines _ other hother := ⟨other, getElem?_concat_of hother, rfl, rfl, rfl⟩

theorem Outcomes.mono {boots' : List Bootstrap} (h : Outcomes disposals boots installs pendingExchange settlements)
    (hsub : disposals ⊆ more) (hfollows : Follows installs later)
    (hinstalled : ∀ engine, Installed disposals boots engine → Installed more boots' engine)
    (hmore : ∀ engine n, (engine, .exchanged n) ∈ more → (engine, .exchanged n) ∈ disposals) :
    Outcomes more boots' later pendingExchange settlements where
  committed n hmem := by
    obtain ⟨install, hinstall, hengine, hexpected⟩ := h.committed n hmem
    obtain ⟨found, hfound, heq, hsame, -⟩ := hfollows.engines n install hinstall
    rw [← heq] at hengine
    rw [← hsame] at hexpected
    exact ⟨found, hfound, hinstalled _ hengine, hsub hexpected⟩
  rejected n hmem := by
    obtain ⟨install, hinstall, hengine, hexpected⟩ := h.rejected n hmem
    obtain ⟨found, hfound, heq, hsame, -⟩ := hfollows.engines n install hinstall
    rw [← heq] at hengine
    rw [← hsame] at hexpected
    exact ⟨found, hfound, hsub hengine, hinstalled _ hexpected⟩
  exchanged engine n hmem := h.exchanged engine n (hmore engine n hmem)
  pending pending hpending := hinstalled _ (h.pending pending hpending)

/-! ## The lease of an engine -/

def Committed (settlements : List (Nat × Settlement)) (installs : List Install) (n : Nat) (install : Install) :
    Prop :=
  (n, .committed) ∈ settlements ∧ installs[n]? = some install

structure Bound (leases : List Lease) (boots : List Bootstrap) (installs : List Install)
    (settlements : List (Nat × Settlement)) : Prop where
  granted : ∀ install ∈ installs, install.lease < leases.length
  /-- Until the host goes on, its lease is active only where the form has the engine. -/
  awaiting : ∀ n install lease, Committed settlements installs n install → install.stage = .exchanging →
    leases[install.lease]? = some lease → lease.active = true → Live boots install.engine
  /-- The engine the form has by an exchange is that of its lease, once the host has gone on. -/
  bound : ∀ n install boot, Committed settlements installs n install → boot ∈ boots →
    boot.keeps install.engine = true → boot.ownedRuntime = some install.lease
      ∧ (install.stage = .exchanging
        ∨ ∃ lease, leases[install.lease]? = some lease ∧ lease.leasedEngine = install.engine)

namespace Bound

variable {ownedRuntime : Option Nat}

theorem length_deactivate : (deactivate leases ownedRuntime).length = leases.length := by
  cases ownedRuntime with
  | none => rfl
  | some l => exact List.length_modify _ _ _

section

variable (h : Bound leases boots installs settlements)
include h

theorem endBoot (hboot : boots[b]? = some boot) (hnone : ∀ engine, found.keeps engine = false) :
    Bound (deactivate leases boot.ownedRuntime) (boots.set b found) installs settlements where
  granted install hmem := by
    rw [length_deactivate]
    exact h.granted install hmem
  awaiting n install lease hcommitted hstage hlease hactive := by
    obtain ⟨before, hbefore, -, -, -, hwas⟩ := of_deactivate hlease
    obtain ⟨hbeforeActive, hne⟩ := hwas hactive
    rcases (h.awaiting n install before hcommitted hstage hbefore hbeforeActive).set hboot with hkeeps | hlive
    · exact absurd (h.bound n install boot hcommitted (List.mem_of_getElem? hboot) hkeeps).1 hne
    · exact hlive
  bound n install other hcommitted hother hkeeps := by
    rcases List.mem_or_eq_of_mem_set hother with hother | rfl
    · obtain ⟨howned, hbound⟩ := h.bound n install other hcommitted hother hkeeps
      refine ⟨howned, hbound.imp_right ?_⟩
      rintro ⟨before, hbefore, hleased⟩
      obtain ⟨lease, hlease, hsame, -⟩ := deactivate_of boot.ownedRuntime hbefore
      exact ⟨lease, hlease, hsame.trans hleased⟩
    · rw [hnone install.engine] at hkeeps
      cases hkeeps

theorem deactivate :
    Bound (deactivate leases ownedRuntime) boots installs settlements where
  granted install hmem := by
    rw [length_deactivate]
    exact h.granted install hmem
  awaiting n install lease hcommitted hstage hlease hactive := by
    obtain ⟨before, hbefore, -, -, -, hwas⟩ := of_deactivate hlease
    exact h.awaiting n install before hcommitted hstage hbefore (hwas hactive).1
  bound n install boot hcommitted hboot hkeeps := by
    obtain ⟨howned, hbound⟩ := h.bound n install boot hcommitted hboot hkeeps
    refine ⟨howned, hbound.imp_right ?_⟩
    rintro ⟨before, hbefore, hleased⟩
    obtain ⟨lease, hlease, hsame, -⟩ := deactivate_of ownedRuntime hbefore
    exact ⟨lease, hlease, hsame.trans hleased⟩

theorem setBoot (hboot : boots[b]? = some boot) (hnone : boot.engine = none)
    (hother : ∀ install ∈ installs, found.keeps install.engine = false) :
    Bound leases (boots.set b found) installs settlements where
  granted := h.granted
  awaiting n install lease hcommitted hstage hlease hactive := by
    rcases (h.awaiting n install lease hcommitted hstage hlease hactive).set hboot with hkeeps | hlive
    · rw [Bootstrap.keeps_iff, hnone] at hkeeps
      cases hkeeps.2
    · exact hlive
  bound n install other hcommitted hmem hkeeps := by
    rcases List.mem_or_eq_of_mem_set hmem with hmem | rfl
    · exact h.bound n install other hcommitted hmem hkeeps
    · rw [hother install (List.mem_of_getElem? hcommitted.2)] at hkeeps
      cases hkeeps

theorem pushBoot :
    Bound leases (boots ++ [Bootstrap.begun]) installs settlements where
  granted := h.granted
  awaiting n install lease hcommitted hstage hlease hactive := by
    obtain ⟨boot, hmem, hkeeps⟩ := h.awaiting n install lease hcommitted hstage hlease hactive
    exact ⟨boot, List.mem_append_left _ hmem, hkeeps⟩
  bound n install boot hcommitted hmem hkeeps := by
    rcases List.mem_append.mp hmem with hmem | hmem
    · exact h.bound n install boot hcommitted hmem hkeeps
    · rw [List.mem_singleton.mp hmem] at hkeeps
      cases hkeeps

theorem grant {lease : Lease} :
    Bound (leases ++ [lease]) boots installs settlements where
  granted install hmem := by
    rw [List.length_append]
    exact Nat.lt_add_right 1 (h.granted install hmem)
  awaiting n install found hcommitted hstage hfound hactive := by
    have hlt := h.granted install (List.mem_of_getElem? hcommitted.2)
    rw [List.getElem?_append_left hlt] at hfound
    exact h.awaiting n install found hcommitted hstage hfound hactive
  bound n install boot hcommitted hboot hkeeps := by
    obtain ⟨howned, hbound⟩ := h.bound n install boot hcommitted hboot hkeeps
    refine ⟨howned, hbound.imp_right ?_⟩
    rintro ⟨found, hfound, hleased⟩
    exact ⟨found, getElem?_concat_of hfound, hleased⟩

theorem setInstall {i : Nat} {next : Install}
    (hinstall : installs[i]? = some install) (hengine : next.engine = install.engine)
    (hlease : next.lease = install.lease)
    (hexchanging : (i, .committed) ∈ settlements → next.stage = .exchanging → install.stage = .exchanging)
    (hleft : install.stage = .exchanging → next.stage = .exchanging
      ∨ ((i, .committed) ∈ settlements → ¬Live boots install.engine)) :
    Bound leases boots (installs.set i next) settlements where
  granted other hmem := by
    rcases List.mem_or_eq_of_mem_set hmem with hmem | rfl
    · exact h.granted other hmem
    · rw [hlease]
      exact h.granted install (List.mem_of_getElem? hinstall)
  awaiting n other lease hcommitted hstage hother hactive := by
    rcases of_getElem?_set hcommitted.2 with ⟨rfl, rfl⟩ | ⟨-, hfound⟩
    · rw [hengine]
      rw [hlease] at hother
      exact h.awaiting n install lease ⟨hcommitted.1, hinstall⟩ (hexchanging hcommitted.1 hstage) hother hactive
    · exact h.awaiting n other lease ⟨hcommitted.1, hfound⟩ hstage hother hactive
  bound n other boot hcommitted hboot hkeeps := by
    rcases of_getElem?_set hcommitted.2 with ⟨rfl, rfl⟩ | ⟨-, hfound⟩
    · rw [hengine] at hkeeps
      obtain ⟨howned, hbound⟩ := h.bound n install boot ⟨hcommitted.1, hinstall⟩ hboot hkeeps
      rw [hlease, hengine]
      refine ⟨howned, ?_⟩
      rcases hbound with hstage | hbound
      · rcases hleft hstage with hstays | hnot
        · exact Or.inl hstays
        · exact absurd ⟨boot, hboot, hkeeps⟩ (hnot hcommitted.1)
      · exact Or.inr hbound
    · exact h.bound n other boot ⟨hcommitted.1, hfound⟩ hboot hkeeps

theorem commit {i : Nat} {expected : EngineId}
    (hboot : boots[b]? = some boot) (hcancelled : boot.cancelled = false)
    (hengine : boot.engine = some expected) (hinstall : installs[i]? = some install)
    (hstage : install.stage = .exchanging) (howned : boot.ownedRuntime = some install.lease)
    (hexpected : ∀ other ∈ installs, other.engine = expected → other.stage = .installed)
    (hunique : ∀ (n : Nat) (other : Install), installs[n]? = some other → other.engine = install.engine → n = i)
    (hfree : ∀ boot ∈ boots, boot.keeps install.engine = false) :
    Bound leases (boots.set b { boot with engine := some install.engine }) installs
      ((i, .committed) :: settlements) where
  granted := h.granted
  awaiting n other lease hcommitted hother hlease hactive := by
    by_cases hni : n = i
    · subst hni
      obtain rfl := Option.some.inj (hinstall.symm.trans hcommitted.2)
      have hset : (boots.set b { boot with engine := some install.engine })[b]? = some _ :=
        List.getElem?_set_self (List.getElem?_eq_some_iff.mp hboot).1
      exact ⟨_, List.mem_of_getElem? hset, Bootstrap.keeps_iff.mpr ⟨hcancelled, rfl⟩⟩
    · have hbefore : (n, Settlement.committed) ∈ settlements := by
        rcases List.mem_cons.mp hcommitted.1 with heq | hmem
        · exact absurd (Prod.mk.inj heq).1 hni
        · exact hmem
      rcases (h.awaiting n other lease ⟨hbefore, hcommitted.2⟩ hother hlease hactive).set hboot with
        hkeeps | hlive
      · have heq := (Bootstrap.keeps_iff.mp hkeeps).2
        rw [hengine] at heq
        have hinstalled := hexpected other (List.mem_of_getElem? hcommitted.2) (Option.some.inj heq).symm
        rw [hother] at hinstalled
        cases hinstalled
      · exact hlive
  bound n other found hcommitted hmem hkeeps := by
    by_cases hni : n = i
    · subst hni
      obtain rfl := Option.some.inj (hinstall.symm.trans hcommitted.2)
      rcases List.mem_or_eq_of_mem_set hmem with hmem | rfl
      · rw [hfree found hmem] at hkeeps
        cases hkeeps
      · exact ⟨howned, Or.inl hstage⟩
    · rcases List.mem_or_eq_of_mem_set hmem with hmem | rfl
      · rcases List.mem_cons.mp hcommitted.1 with heq | hbefore
        · exact absurd (Prod.mk.inj heq).1 hni
        · exact h.bound n other found ⟨hbefore, hcommitted.2⟩ hmem hkeeps
      · have heq := (Bootstrap.keeps_iff.mp hkeeps).2
        exact absurd (hunique n other hcommitted.2 (Option.some.inj heq).symm) hni

theorem pushInstall (hlease : install.lease < leases.length)
    (hnot : (installs.length, .committed) ∉ settlements) :
    Bound leases boots (installs ++ [install]) settlements where
  granted other hmem := by
    rcases List.mem_append.mp hmem with hmem | hmem
    · exact h.granted other hmem
    · rw [List.mem_singleton.mp hmem]
      exact hlease
  awaiting n other lease hcommitted hstage hother hactive := by
    rcases of_getElem?_concat hcommitted.2 with hfound | ⟨rfl, -⟩
    · exact h.awaiting n other lease ⟨hcommitted.1, hfound⟩ hstage hother hactive
    · exact absurd hcommitted.1 hnot
  bound n other boot hcommitted hboot hkeeps := by
    rcases of_getElem?_concat hcommitted.2 with hfound | ⟨rfl, -⟩
    · exact h.bound n other boot ⟨hcommitted.1, hfound⟩ hboot hkeeps
    · exact absurd hcommitted.1 hnot

theorem rebind {i : Nat} {mounted : Bool} {lease : Lease}
    (hboots : BootsSound boots mounted) (hcommitted : Committed settlements installs i install)
    (hlive : Live boots install.engine) (hlease : leases[install.lease]? = some lease)
    (hunique : ∀ (n : Nat) (other : Install), installs[n]? = some other → other.engine = install.engine →
      n = i) :
    Bound (leases.set install.lease { lease with leasedEngine := install.engine }) boots
      (installs.set i { install with stage := .installed }) settlements := by
  have hset : (leases.set install.lease { lease with leasedEngine := install.engine })[install.lease]?
      = some _ := List.getElem?_set_self (List.getElem?_eq_some_iff.mp hlease).1
  constructor
  · intro other hmem
    rw [List.length_set]
    rcases List.mem_or_eq_of_mem_set hmem with hmem | rfl
    · exact h.granted other hmem
    · exact h.granted install (List.mem_of_getElem? hcommitted.2)
  · intro n other found hother hstage hfound hactive
    rcases of_getElem?_set hother.2 with ⟨-, rfl⟩ | ⟨-, hbefore⟩
    · cases hstage
    · rcases of_getElem?_set hfound with ⟨heq, rfl⟩ | ⟨-, hfound⟩
      · exact h.awaiting n other lease ⟨hother.1, hbefore⟩ hstage (heq ▸ hlease) hactive
      · exact h.awaiting n other found ⟨hother.1, hbefore⟩ hstage hfound hactive
  · intro n other boot hother hboot hkeeps
    rcases of_getElem?_set hother.2 with ⟨-, rfl⟩ | ⟨hne, hbefore⟩
    · exact ⟨(h.bound i install boot hcommitted hboot hkeeps).1, Or.inr ⟨_, hset, rfl⟩⟩
    · obtain ⟨howned, hbound⟩ := h.bound n other boot ⟨hother.1, hbefore⟩ hboot hkeeps
      refine ⟨howned, hbound.imp_right ?_⟩
      rintro ⟨found, hfound, hleased⟩
      by_cases heq : other.lease = install.lease
      · obtain ⟨live, hmem, hliveKeeps⟩ := hlive
        have hsame := hboots.unique_mem hmem hboot (Bootstrap.keeps_iff.mp hliveKeeps).1
          (Bootstrap.keeps_iff.mp hkeeps).1
        have hengine := (Bootstrap.keeps_iff.mp hkeeps).2
        rw [hsame, (Bootstrap.keeps_iff.mp hliveKeeps).2] at hengine
        exact absurd (hunique n other hbefore (Option.some.inj hengine).symm) hne
      · exact ⟨found, (List.getElem?_set_ne (Ne.symm heq)).trans hfound, hleased⟩

theorem reject {i : Nat} :
    Bound leases boots installs ((i, .rejected) :: settlements) := by
  have hbefore : ∀ {n install}, Committed ((i, .rejected) :: settlements) installs n install →
      Committed settlements installs n install := by
    intro n install hcommitted
    rcases List.mem_cons.mp hcommitted.1 with heq | hmem
    · cases heq
    · exact ⟨hmem, hcommitted.2⟩
  exact ⟨h.granted, fun n install lease hcommitted => h.awaiting n install lease (hbefore hcommitted),
    fun n install boot hcommitted => h.bound n install boot (hbefore hcommitted)⟩

end

end Bound

/-! ## Engines that are expected -/

def BoundEngine (installs : List Install) (created : Nat) (engine : EngineId) : Prop :=
  engine < created ∧ ∀ install ∈ installs, install.engine = engine → install.stage = .installed

theorem BoundEngine.create {created : Nat} (h : BoundEngine installs created engine) :
    BoundEngine installs (created + 1) engine :=
  ⟨Nat.lt_succ_of_lt h.1, h.2⟩

structure ExpectedSound (rendererEngine : Option EngineId) (qualifications : List (Nat × EngineId))
    (loads : List Load) (installs : List Install) (created : Nat) : Prop where
  renderer : ∀ engine, rendererEngine = some engine → BoundEngine installs created engine
  qualified : ∀ qualification ∈ qualifications, BoundEngine installs created qualification.2
  expected : ∀ install ∈ installs, BoundEngine installs created install.expected
  loads : ∀ load ∈ loads, ∀ engine, load.engine = some engine →
    engine < created ∧ ∀ install ∈ installs, install.engine ≠ engine
  fresh : ∀ install ∈ installs, install.engine < created
  unique : ∀ (n m : Nat) (install other : Install), installs[n]? = some install → installs[m]? = some other →
    other.engine = install.engine → m = n

namespace ExpectedSound

variable {rendererEngine rendererEngine' : Option EngineId} {qualifications : List (Nat × EngineId)}
  {loads : List Load} {load : Load} {created k : Nat}

section

variable (h : ExpectedSound rendererEngine qualifications loads installs created)
include h

theorem release (hless : ∀ engine, rendererEngine' = some engine → rendererEngine = some engine) :
    ExpectedSound rendererEngine' qualifications loads installs created :=
  { h with renderer := fun engine heq => h.renderer engine (hless engine heq) }

theorem ofLoad
    (hload : load ∈ loads) (hengine : load.engine = some engine) : BoundEngine installs created engine :=
  ⟨(h.loads load hload engine hengine).1, fun install hmem heq =>
    absurd heq ((h.loads load hload engine hengine).2 install hmem)⟩

theorem configuring (hload : load ∈ loads) (hengine : load.engine = some engine) :
    ExpectedSound (some engine) qualifications loads installs created :=
  { h with renderer := fun _ heq => Option.some.inj heq ▸ h.ofLoad hload hengine }

end

theorem qualify {l : Nat} (h : ExpectedSound (some engine) qualifications loads installs created) :
    ExpectedSound (some engine) (qualifications ++ [(l, engine)]) loads installs created :=
  { h with
    qualified := by
      intro qualification hmem
      rcases List.mem_append.mp hmem with hmem | hmem
      · exact h.qualified qualification hmem
      · rw [List.mem_singleton.mp hmem]
        exact h.renderer engine rfl }

section

variable (h : ExpectedSound rendererEngine qualifications loads installs created)
include h

theorem setLoads {others : List Load}
    (hothers : ∀ other ∈ others, other.engine = none ∨ ∃ load ∈ loads, other.engine = load.engine) :
    ExpectedSound rendererEngine qualifications others installs created :=
  { h with
    loads := by
      intro other hother engine hengine
      rcases hothers other hother with hnone | ⟨load, hload, heq⟩
      · rw [hnone] at hengine
        cases hengine
      · exact h.loads load hload engine (heq.symm.trans hengine) }

theorem create :
    ExpectedSound rendererEngine qualifications (loads.set k { load with engine := some created }) installs
      (created + 1) where
  renderer engine heq := (h.renderer engine heq).create
  qualified qualification hmem := (h.qualified qualification hmem).create
  expected install hmem := (h.expected install hmem).create
  loads other hother engine hengine := by
    rcases List.mem_or_eq_of_mem_set hother with hother | rfl
    · obtain ⟨hlt, hne⟩ := h.loads other hother engine hengine
      exact ⟨Nat.lt_succ_of_lt hlt, hne⟩
    · cases hengine
      exact ⟨Nat.lt_succ_self _, fun install hmem => Nat.ne_of_lt (h.fresh install hmem)⟩
  fresh install hmem := Nat.lt_succ_of_lt (h.fresh install hmem)
  unique := h.unique

theorem pushInstall
    (hexpected : BoundEngine installs created install.expected) (hengine : install.engine = created) :
    ExpectedSound rendererEngine qualifications loads (installs ++ [install]) (created + 1) := by
  have hpush : ∀ engine, BoundEngine installs created engine →
      BoundEngine (installs ++ [install]) (created + 1) engine := by
    intro engine hbound
    refine ⟨Nat.lt_succ_of_lt hbound.1, fun other hmem heq => ?_⟩
    rcases List.mem_append.mp hmem with hmem | hmem
    · exact hbound.2 other hmem heq
    · rw [List.mem_singleton.mp hmem, hengine] at heq
      exact absurd heq (Nat.ne_of_gt hbound.1)
  constructor
  · exact fun engine heq => hpush engine (h.renderer engine heq)
  · exact fun qualification hmem => hpush _ (h.qualified qualification hmem)
  · intro other hmem
    rcases List.mem_append.mp hmem with hmem | hmem
    · exact hpush _ (h.expected other hmem)
    · rw [List.mem_singleton.mp hmem]
      exact hpush _ hexpected
  · intro load hload engine heq
    obtain ⟨hlt, hne⟩ := h.loads load hload engine heq
    refine ⟨Nat.lt_succ_of_lt hlt, fun other hmem => ?_⟩
    rcases List.mem_append.mp hmem with hmem | hmem
    · exact hne other hmem
    · rw [List.mem_singleton.mp hmem, hengine]
      exact Nat.ne_of_gt hlt
  · intro other hmem
    rcases List.mem_append.mp hmem with hmem | hmem
    · exact Nat.lt_succ_of_lt (h.fresh other hmem)
    · rw [List.mem_singleton.mp hmem, hengine]
      exact Nat.lt_succ_self _
  · intro n m first second hfirst hsecond heq
    rcases of_getElem?_concat hfirst with hfound | ⟨rfl, rfl⟩ <;>
      rcases of_getElem?_concat hsecond with hother | ⟨rfl, rfl⟩
    · exact h.unique n m first second hfound hother heq
    · have hlt := h.fresh first (List.mem_of_getElem? hfound)
      rw [← heq, hengine] at hlt
      exact absurd hlt (Nat.lt_irrefl _)
    · have hlt := h.fresh second (List.mem_of_getElem? hother)
      rw [heq, hengine] at hlt
      exact absurd hlt (Nat.lt_irrefl _)
    · rfl

theorem setInstall {i : Nat} {next : Install}
    (hinstall : installs[i]? = some install) (hengine : next.engine = install.engine)
    (hexpected : next.expected = install.expected)
    (hstage : install.stage = .installed → next.stage = .installed) :
    ExpectedSound rendererEngine qualifications loads (installs.set i next) created := by
  have hmem := List.mem_of_getElem? hinstall
  have hset : ∀ engine, BoundEngine installs created engine → BoundEngine (installs.set i next) created engine := by
    intro engine hbound
    refine ⟨hbound.1, fun other hother heq => ?_⟩
    rcases List.mem_or_eq_of_mem_set hother with hother | rfl
    · exact hbound.2 other hother heq
    · exact hstage (hbound.2 install hmem (hengine.symm.trans heq))
  constructor
  · exact fun engine heq => hset engine (h.renderer engine heq)
  · exact fun qualification hmem => hset _ (h.qualified qualification hmem)
  · intro other hother
    rcases List.mem_or_eq_of_mem_set hother with hother | rfl
    · exact hset _ (h.expected other hother)
    · rw [hexpected]
      exact hset _ (h.expected install hmem)
  · intro load hload engine heq
    obtain ⟨hlt, hne⟩ := h.loads load hload engine heq
    refine ⟨hlt, fun other hother => ?_⟩
    rcases List.mem_or_eq_of_mem_set hother with hother | rfl
    · exact hne other hother
    · rw [hengine]
      exact hne install hmem
  · intro other hother
    rcases List.mem_or_eq_of_mem_set hother with hother | rfl
    · exact h.fresh other hother
    · rw [hengine]
      exact h.fresh install hmem
  · intro n m first second hfirst hsecond heq
    rcases of_getElem?_set hfirst with ⟨rfl, rfl⟩ | ⟨-, hfound⟩ <;>
      rcases of_getElem?_set hsecond with ⟨rfl, rfl⟩ | ⟨-, hother⟩
    · rfl
    · exact h.unique n m install second hinstall hother (heq.trans hengine)
    · exact h.unique n m first install hfound hinstall (hengine.symm.trans heq)
    · exact h.unique n m first second hfound hother heq

end

end ExpectedSound

end FormspecWeb.App.EngineExchange
