import Mathlib.Data.List.Nodup
import FormspecWeb.Async.History
import FormspecWeb.App.EngineExchange

/-!
# Who has an engine

An engine is with the bootstrap it was installed for, with the load that created it, with a
replacement that was not adopted, or with the exchange that adopted one; or it was disposed of. Every
event hands it on: an engine that was created is in exactly one place.
-/

namespace FormspecWeb.App.EngineExchange

open Async

/-- A bootstrap that was cleaned up has disposed of the engine its variable keeps. -/
def Bootstrap.keeps (boot : Bootstrap) (engine : EngineId) : Bool :=
  !boot.cancelled && boot.engine == some engine

def Load.keeps (load : Load) (engine : EngineId) : Bool := load.waits && load.engine == some engine

def Install.keeps (install : Install) (engine : EngineId) : Bool :=
  !install.disposed && !install.adopted && install.engine == engine

/-- Every engine that was created is in one place, and no other engine is anywhere. -/
def Custody (ledger : EngineLedger) (boots : List Bootstrap) (loads : List Load) (installs : List Install)
    (pendingExchange : Option PendingExchange) : Prop :=
  ∀ engine, boots.countP (·.keeps engine) + loads.countP (·.keeps engine)
      + installs.countP (·.keeps engine) + pendingExchange.toList.countP (·.engine == engine)
      + ledger.disposals.countP (·.1 == engine)
    = if engine < ledger.created then 1 else 0

variable {ledger : EngineLedger} {boots : List Bootstrap} {loads : List Load} {installs : List Install}
  {pendingExchange : Option PendingExchange} {engine : EngineId} {boot : Bootstrap} {load : Load}
  {install : Install} {pending : PendingExchange} {cause : DisposalCause} {b k i : Nat}

/-- The engine of a bootstrap that was not cleaned up, or that has none. -/
theorem Bootstrap.keeps_eq (h : boot.cancelled = true → boot.engine = none) :
    boot.keeps engine = (boot.engine == some engine) := by
  unfold Bootstrap.keeps
  by_cases hcancelled : boot.cancelled = true
  · rw [hcancelled, h hcancelled]
    rfl
  · rw [Bool.not_eq_true] at hcancelled
    rw [hcancelled]
    rfl

theorem Bootstrap.keeps_iff :
    boot.keeps engine = true ↔ boot.cancelled = false ∧ boot.engine = some engine := by
  unfold Bootstrap.keeps
  rw [Bool.and_eq_true, Bool.not_eq_true', beq_iff_eq]

theorem countP_dispose (found : EngineId) :
    (ledger.dispose found cause).disposals.countP (·.1 == engine)
      = ledger.disposals.countP (·.1 == engine) + if found == engine then 1 else 0 :=
  List.countP_cons

theorem countP_disposeAny (found : Option EngineId) :
    (ledger.disposeAny found cause).disposals.countP (·.1 == engine)
      = ledger.disposals.countP (·.1 == engine) + if found == some engine then 1 else 0 := by
  cases found with
  | none => rfl
  | some found => exact countP_dispose found

theorem lt_created (engine created : Nat) : (if engine < created + 1 then 1 else 0)
    = (if engine < created then 1 else 0) + (if created = engine then 1 else 0) := by
  by_cases hlt : engine < created
  · rw [if_pos hlt, if_pos (Nat.lt_succ_of_lt hlt), if_neg (Nat.ne_of_gt hlt)]
  · by_cases heq : created = engine
    · have hsucc : engine < created + 1 := by omega
      rw [if_neg hlt, if_pos heq, if_pos hsucc]
    · have hsucc : ¬engine < created + 1 := by omega
      rw [if_neg hlt, if_neg heq, if_neg hsucc]

theorem created_disposeAny (found : Option EngineId) :
    (ledger.disposeAny found cause).created = ledger.created := by
  cases found <;> rfl

namespace Custody

/-! ## Handing on -/

section

variable (h : Custody ledger boots loads installs pendingExchange)
include h

theorem disposeBoot {found : Bootstrap}
    (hboot : boots[b]? = some boot) (hcancelled : boot.cancelled = true → boot.engine = none)
    (hnone : ∀ engine, found.keeps engine = false) :
    Custody (ledger.disposeAny boot.engine cause) (boots.set b found) loads installs
      pendingExchange := by
  intro engine
  have hset := countP_set_of (p := (·.keeps engine)) (a := found) hboot
  rw [hnone engine, Bootstrap.keeps_eq hcancelled, if_neg Bool.false_ne_true] at hset
  have hcount := h engine
  rw [countP_disposeAny, created_disposeAny]
  omega

theorem pushBoot :
    Custody ledger (boots ++ [Bootstrap.begun]) loads installs pendingExchange := by
  intro engine
  rw [List.countP_append]
  exact h engine

theorem pushLoad {sequence : Nat} :
    Custody ledger boots (loads ++ [Load.begun b sequence]) installs pendingExchange := by
  intro engine
  rw [List.countP_append]
  exact h engine

theorem setLoad {found : Load}
    (hload : loads[k]? = some load) (hkeeps : ∀ engine, found.keeps engine = load.keeps engine) :
    Custody ledger boots (loads.set k found) installs pendingExchange := by
  intro engine
  have hset := countP_set_of (p := (·.keeps engine)) (a := found) hload
  rw [hkeeps engine] at hset
  have hcount := h engine
  omega

section

variable (hload : loads[k]? = some load) (hwaits : load.waits = true)
include hload hwaits

theorem create (hnone : load.engine = none) :
    Custody ledger.create boots (loads.set k { load with engine := some ledger.created }) installs
      pendingExchange := by
  intro engine
  have hset := countP_set_of (p := (·.keeps engine))
    (a := { load with engine := some ledger.created }) hload
  have hbefore : load.keeps engine = false := by
    rw [Load.keeps, hnone, Option.none_beq_some, Bool.and_false]
  have hafter : { load with engine := some ledger.created }.keeps engine = (ledger.created == engine) := by
    rw [Load.keeps, hwaits, Option.some_beq_some, Bool.true_and]
  rw [hbefore, hafter] at hset
  have hcount := h engine
  simp only [beq_iff_eq, Bool.false_eq_true, if_false] at hset
  change _ = if engine < ledger.created + 1 then 1 else 0
  rw [lt_created]
  change _ + List.countP (·.1 == engine) ledger.disposals = _
  omega

theorem discard :
    Custody (ledger.disposeAny load.engine cause) boots (loads.set k { load with waits := false })
      installs pendingExchange := by
  intro engine
  have hset := countP_set_of (p := (·.keeps engine)) (a := { load with waits := false }) hload
  have hbefore : load.keeps engine = (load.engine == some engine) := by
    rw [Load.keeps, hwaits, Bool.true_and]
  have hafter : { load with waits := false }.keeps engine = false := Bool.false_and _
  rw [hbefore, hafter, if_neg Bool.false_ne_true] at hset
  have hcount := h engine
  rw [countP_disposeAny, created_disposeAny]
  omega

theorem installLoad {ownedRuntime : Option Nat} (hboot : boots[b]? = some boot)
    (hcancelled : boot.cancelled = false) (hnone : boot.engine = none) :
    Custody ledger (boots.set b { boot with engine := load.engine, ownedRuntime })
      (loads.set k { load with waits := false }) installs pendingExchange := by
  intro engine
  have hloads := countP_set_of (p := (·.keeps engine)) (a := { load with waits := false }) hload
  have hboots := countP_set_of (p := (·.keeps engine))
    (a := { boot with engine := load.engine, ownedRuntime }) hboot
  have hload : load.keeps engine = (load.engine == some engine) := by
    rw [Load.keeps, hwaits, Bool.true_and]
  have hended : { load with waits := false }.keeps engine = false := Bool.false_and _
  have hempty : boot.keeps engine = false := by
    rw [Bootstrap.keeps, hnone, Option.none_beq_some, Bool.and_false]
  have hinstalled : { boot with engine := load.engine, ownedRuntime }.keeps engine
      = (load.engine == some engine) := by
    rw [Bootstrap.keeps, hcancelled, Bool.not_false, Bool.true_and]
  rw [hload, hended, if_neg Bool.false_ne_true] at hloads
  rw [hempty, hinstalled, if_neg Bool.false_ne_true] at hboots
  have hcount := h engine
  omega

end

theorem pushInstall
    (hengine : install.engine = ledger.created) (hdisposed : install.disposed = false)
    (hadopted : install.adopted = false) :
    Custody ledger.create boots loads (installs ++ [install]) pendingExchange := by
  intro engine
  have hkeeps : install.keeps engine = (ledger.created == engine) := by
    rw [Install.keeps, hdisposed, hadopted, hengine]
    rfl
  have hcount := h engine
  rw [List.countP_append, List.countP_singleton, hkeeps]
  change _ = if engine < ledger.created + 1 then 1 else 0
  rw [lt_created]
  change _ + List.countP (·.1 == engine) ledger.disposals = _
  simp only [beq_iff_eq]
  omega

theorem setInstall {found : Install} (hinstall : installs[i]? = some install)
    (hkeeps : ∀ engine, found.keeps engine = install.keeps engine) :
    Custody ledger boots loads (installs.set i found) pendingExchange := by
  intro engine
  have hset := countP_set_of (p := (·.keeps engine)) (a := found) hinstall
  rw [hkeeps engine] at hset
  have hcount := h engine
  omega

end

theorem keeps_of_free (hdisposed : install.disposed = false) (hadopted : install.adopted = false) :
    install.keeps engine = (install.engine == engine) := by
  rw [Install.keeps, hdisposed, hadopted]
  rfl

theorem withdraw {found : Install} (h : Custody ledger boots loads installs pendingExchange)
    (hinstall : installs[i]? = some install) (hdisposed : install.disposed = false)
    (hadopted : install.adopted = false) (hfound : found.disposed = true) :
    Custody (ledger.dispose install.engine cause) boots loads (installs.set i found)
      pendingExchange := by
  intro engine
  have hset := countP_set_of (p := (·.keeps engine)) (a := found) hinstall
  have hafter : found.keeps engine = false := by
    rw [Install.keeps, hfound]
    rfl
  rw [keeps_of_free hdisposed hadopted, hafter, if_neg Bool.false_ne_true] at hset
  have hcount := h engine
  rw [countP_dispose]
  change _ = if engine < ledger.created then 1 else 0
  omega

theorem adopt {found : Install} (h : Custody ledger boots loads installs none)
    (hinstall : installs[i]? = some install) (hdisposed : install.disposed = false)
    (hadopted : install.adopted = false) (hfound : found.adopted = true)
    (hengine : pending.engine = install.engine) :
    Custody ledger boots loads (installs.set i found) (some pending) := by
  intro engine
  have hset := countP_set_of (p := (·.keeps engine)) (a := found) hinstall
  have hafter : found.keeps engine = false := by
    rw [Install.keeps, hfound, Bool.not_true, Bool.and_false, Bool.false_and]
  rw [keeps_of_free hdisposed hadopted, hafter, if_neg Bool.false_ne_true] at hset
  have hcount := h engine
  rw [Option.toList_none, List.countP_nil] at hcount
  rw [Option.toList_some, List.countP_singleton, hengine]
  omega

theorem commit (h : Custody ledger boots loads installs (some pending)) (hboot : boots[b]? = some boot)
    (hcancelled : boot.cancelled = false) (hengine : boot.engine = some pending.expected) :
    Custody (ledger.dispose pending.expected cause)
      (boots.set b { boot with engine := some pending.engine }) loads installs none := by
  intro engine
  have hset := countP_set_of (p := (·.keeps engine))
    (a := { boot with engine := some pending.engine }) hboot
  have hbefore : boot.keeps engine = (pending.expected == engine) := by
    rw [Bootstrap.keeps, hcancelled, hengine]
    rfl
  have hafter : { boot with engine := some pending.engine }.keeps engine
      = (pending.engine == engine) := by
    rw [Bootstrap.keeps, hcancelled]
    rfl
  rw [hbefore, hafter] at hset
  have hcount := h engine
  rw [Option.toList_some, List.countP_singleton] at hcount
  rw [Option.toList_none, List.countP_nil, countP_dispose]
  change _ = if engine < ledger.created then 1 else 0
  omega

theorem reject (h : Custody ledger boots loads installs (some pending)) :
    Custody (ledger.dispose pending.engine cause) boots loads installs none := by
  intro engine
  have hcount := h engine
  rw [Option.toList_some, List.countP_singleton] at hcount
  rw [Option.toList_none, List.countP_nil, countP_dispose]
  change _ = if engine < ledger.created then 1 else 0
  omega

theorem nodup (h : Custody ledger boots loads installs pendingExchange) :
    (ledger.disposals.map Prod.fst).Nodup := by
  rw [List.nodup_iff_count_le_one]
  intro engine
  have hcount := h engine
  rw [List.count_eq_countP, List.countP_map]
  change ledger.disposals.countP (·.1 == engine) ≤ 1
  split at hcount <;> omega

theorem not_disposed (h : Custody ledger boots loads installs pendingExchange) (hboot : boot ∈ boots)
    (hkeeps : boot.keeps engine = true) : engine ∉ ledger.disposals.map Prod.fst := by
  intro hmem
  obtain ⟨disposal, hdisposal, rfl⟩ := List.mem_map.mp hmem
  have hboots : 0 < boots.countP (·.keeps disposal.1) := List.countP_pos_iff.mpr ⟨boot, hboot, hkeeps⟩
  have hdisposals : 0 < ledger.disposals.countP (·.1 == disposal.1) :=
    List.countP_pos_iff.mpr ⟨disposal, hdisposal, beq_self_eq_true _⟩
  have hcount := h disposal.1
  split at hcount <;> omega

theorem not_pending (h : Custody ledger boots loads installs (some pending)) (hboot : boot ∈ boots) :
    boot.keeps pending.engine = false := by
  rw [← Bool.not_eq_true]
  intro hkeeps
  have hboots : 0 < boots.countP (·.keeps pending.engine) :=
    List.countP_pos_iff.mpr ⟨boot, hboot, hkeeps⟩
  have hcount := h pending.engine
  simp only [Option.toList_some, List.countP_singleton, beq_self_eq_true, if_true] at hcount
  split at hcount <;> omega

theorem somewhere (h : Custody ledger boots loads installs pendingExchange)
    (hcreated : engine < ledger.created) :
    engine ∈ ledger.disposals.map Prod.fst ∨ (∃ boot ∈ boots, boot.keeps engine = true)
      ∨ (∃ load ∈ loads, load.keeps engine = true) ∨ (∃ install ∈ installs, install.keeps engine = true)
      ∨ ∃ pending, pendingExchange = some pending ∧ pending.engine = engine := by
  have hcount := h engine
  rw [if_pos hcreated] at hcount
  by_cases hdisposals : 0 < ledger.disposals.countP (·.1 == engine)
  · obtain ⟨disposal, hmem, heq⟩ := List.countP_pos_iff.mp hdisposals
    exact Or.inl (List.mem_map.mpr ⟨disposal, hmem, beq_iff_eq.mp heq⟩)
  by_cases hboots : 0 < boots.countP (·.keeps engine)
  · exact Or.inr (Or.inl (List.countP_pos_iff.mp hboots))
  by_cases hloads : 0 < loads.countP (·.keeps engine)
  · exact Or.inr (Or.inr (Or.inl (List.countP_pos_iff.mp hloads)))
  by_cases hinstalls : 0 < installs.countP (·.keeps engine)
  · exact Or.inr (Or.inr (Or.inr (Or.inl (List.countP_pos_iff.mp hinstalls))))
  have hpending : 0 < pendingExchange.toList.countP (·.engine == engine) := by omega
  obtain ⟨pending, hmem, heq⟩ := List.countP_pos_iff.mp hpending
  exact Or.inr (Or.inr (Or.inr (Or.inr
    ⟨pending, Option.mem_toList.mp hmem, beq_iff_eq.mp heq⟩)))

end Custody

end FormspecWeb.App.EngineExchange
