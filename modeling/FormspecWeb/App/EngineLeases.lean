import FormspecWeb.App.EngineCustody

/-!
# Bootstraps, loads and leases

Only the last bootstrap is not cleaned up. Where its latest load waits, it has no engine. A lease that
is active was granted to a load that waits, or it is the owned runtime of the last bootstrap.
-/

namespace FormspecWeb.App.EngineExchange

open Async

variable {boots : List Bootstrap} {loads : List Load} {mounted : Bool} {boot found : Bootstrap}
  {load taken : Load} {b k l q : Nat} {clearings : List ClearingCall}

structure BootsSound (boots : List Bootstrap) (mounted : Bool) : Prop where
  last : ∀ (b : Nat) (boot : Bootstrap), boots[b]? = some boot → boot.cancelled = false →
    b + 1 = boots.length ∧ mounted = true
  retired : ∀ boot ∈ boots, boot.cancelled = true → boot.ownedRuntime = none

namespace BootsSound

section

variable (h : BootsSound boots mounted)
include h

theorem unique {c : Nat} (hboot : boots[b]? = some boot)
    (hfound : boots[c]? = some found) (hcancelled : boot.cancelled = false)
    (hfoundCancelled : found.cancelled = false) : c = b ∧ found = boot := by
  have hb := (h.last b boot hboot hcancelled).1
  have hc := (h.last c found hfound hfoundCancelled).1
  have heq : c = b := by omega
  subst heq
  exact ⟨rfl, Option.some.inj (hfound.symm.trans hboot)⟩

theorem unique_mem (hboot : boot ∈ boots) (hfound : found ∈ boots)
    (hcancelled : boot.cancelled = false) (hfoundCancelled : found.cancelled = false) : found = boot := by
  obtain ⟨b, hb⟩ := List.mem_iff_getElem?.mp hboot
  obtain ⟨c, hc⟩ := List.mem_iff_getElem?.mp hfound
  exact (h.unique hb hc hcancelled hfoundCancelled).2

theorem set (hboot : boots[b]? = some boot)
    (hcancelled : found.cancelled = false → boot.cancelled = false)
    (howned : found.cancelled = true → found.ownedRuntime = none) :
    BootsSound (boots.set b found) mounted where
  last c other hother hotherCancelled := by
    rw [List.length_set]
    rcases of_getElem?_set hother with ⟨rfl, rfl⟩ | ⟨-, hother⟩
    · exact h.last c boot hboot (hcancelled hotherCancelled)
    · exact h.last c other hother hotherCancelled
  retired other hmem hother := by
    rcases List.mem_or_eq_of_mem_set hmem with hmem | rfl
    · exact h.retired other hmem hother
    · exact howned hother

theorem cancelled (hlast : b + 1 = boots.length) (hfound : found.cancelled = true) :
    ∀ other ∈ boots.set b found, other.cancelled = true := by
  intro other hmem
  obtain ⟨c, hother⟩ := List.mem_iff_getElem?.mp hmem
  rcases of_getElem?_set hother with ⟨-, rfl⟩ | ⟨hne, hother⟩
  · exact hfound
  · rw [← Bool.not_eq_false]
    intro hcancelled
    have hc := (h.last c other hother hcancelled).1
    omega

theorem push (hall : ∀ boot ∈ boots, boot.cancelled = true) :
    BootsSound (boots ++ [Bootstrap.begun]) true where
  last c other hother hcancelled := by
    rcases of_getElem?_concat hother with hother | ⟨rfl, rfl⟩
    · rw [hall other (List.mem_of_getElem? hother)] at hcancelled
      cases hcancelled
    · rw [List.length_append]
      exact ⟨rfl, rfl⟩
  retired other hmem hcancelled := by
    rcases List.mem_append.mp hmem with hmem | hmem
    · exact h.retired other hmem hcancelled
    · rw [List.mem_singleton.mp hmem]
      rfl

theorem unmount (hall : ∀ boot ∈ boots, boot.cancelled = true) :
    BootsSound boots false where
  last c other hother hcancelled := by
    rw [hall other (List.mem_of_getElem? hother)] at hcancelled
    cases hcancelled
  retired := h.retired

end

end BootsSound

/-! ## Loads -/

structure Current (boots : List Bootstrap) (load : Load) (boot : Bootstrap) : Prop where
  found : boots[load.boot]? = some boot
  cancelled : boot.cancelled = false
  sequence : load.sequence = boot.reloadSequence

structure LoadsSound (boots : List Bootstrap) (loads : List Load) : Prop where
  begun : ∀ load ∈ loads, ∃ boot, boots[load.boot]? = some boot ∧ load.sequence ≤ boot.reloadSequence
  alone : ∀ (k m : Nat) (load other : Load), loads[k]? = some load → loads[m]? = some other →
    other.boot = load.boot → other.sequence = load.sequence → m = k
  empty : ∀ load ∈ loads, load.waits = true → ∀ boot, Current boots load boot →
    boot.engine = none ∧ boot.ownedRuntime = none

namespace LoadsSound

theorem setLoad (h : LoadsSound boots loads) (hload : loads[k]? = some load)
    (hboot : taken.boot = load.boot) (hsequence : taken.sequence = load.sequence)
    (hwaits : taken.waits = true → load.waits = true) : LoadsSound boots (loads.set k taken) := by
  have hmem := List.mem_of_getElem? hload
  constructor
  · intro other hother
    rcases List.mem_or_eq_of_mem_set hother with hother | rfl
    · exact h.begun other hother
    · rw [hboot, hsequence]
      exact h.begun load hmem
  · intro i j first second hfirst hsecond hsameBoot hsameSequence
    rcases of_getElem?_set hfirst with ⟨rfl, rfl⟩ | ⟨-, hbefore⟩ <;>
      rcases of_getElem?_set hsecond with ⟨rfl, rfl⟩ | ⟨-, hother⟩
    · rfl
    · exact h.alone i j load second hload hother (hsameBoot.trans hboot) (hsameSequence.trans hsequence)
    · exact h.alone i j first load hbefore hload (hboot.symm.trans hsameBoot)
        (hsequence.symm.trans hsameSequence)
    · exact h.alone i j first second hbefore hother hsameBoot hsameSequence
  · intro other hother hotherWaits boot hcurrent
    rcases List.mem_or_eq_of_mem_set hother with hother | rfl
    · exact h.empty other hother hotherWaits boot hcurrent
    · exact h.empty load hmem (hwaits hotherWaits) boot
        ⟨hboot ▸ hcurrent.found, hcurrent.cancelled, hsequence.symm.trans hcurrent.sequence⟩

theorem setBoot (h : LoadsSound boots loads) (hboot : boots[b]? = some boot)
    (hsequence : boot.reloadSequence ≤ found.reloadSequence)
    (hempty : ∀ load ∈ loads, load.waits = true → load.boot = b → found.cancelled = false →
      load.sequence = found.reloadSequence → found.engine = none ∧ found.ownedRuntime = none) :
    LoadsSound (boots.set b found) loads where
  begun load hmem := by
    obtain ⟨other, hother, hle⟩ := h.begun load hmem
    by_cases heq : load.boot = b
    · subst heq
      obtain rfl := Option.some.inj (hboot.symm.trans hother)
      refine ⟨found, ?_, hle.trans hsequence⟩
      rw [List.getElem?_set_self (List.getElem?_eq_some_iff.mp hboot).1]
    · exact ⟨other, (List.getElem?_set_ne (Ne.symm heq)).trans hother, hle⟩
  alone := h.alone
  empty load hmem hwaits other hcurrent := by
    rcases of_getElem?_set hcurrent.found with ⟨heq, rfl⟩ | ⟨-, hother⟩
    · exact hempty load hmem hwaits heq hcurrent.cancelled hcurrent.sequence
    · exact h.empty load hmem hwaits other ⟨hother, hcurrent.cancelled, hcurrent.sequence⟩

theorem pushBoot (h : LoadsSound boots loads) : LoadsSound (boots ++ [Bootstrap.begun]) loads where
  begun load hmem := by
    obtain ⟨boot, hboot, hle⟩ := h.begun load hmem
    exact ⟨boot, getElem?_concat_of hboot, hle⟩
  alone := h.alone
  empty load hmem hwaits boot hcurrent := by
    rcases of_getElem?_concat hcurrent.found with hboot | ⟨-, rfl⟩
    · exact h.empty load hmem hwaits boot ⟨hboot, hcurrent.cancelled, hcurrent.sequence⟩
    · exact ⟨rfl, rfl⟩

theorem pushLoad (h : LoadsSound boots loads) (hboot : boots[b]? = some boot)
    (hnone : boot.engine = none) (howned : boot.ownedRuntime = none)
    (hnext : ∀ load ∈ loads, load.boot = b → load.sequence < boot.reloadSequence) :
    LoadsSound boots (loads ++ [Load.begun b boot.reloadSequence]) where
  begun load hmem := by
    rcases List.mem_append.mp hmem with hmem | hmem
    · exact h.begun load hmem
    · rw [List.mem_singleton.mp hmem]
      exact ⟨boot, hboot, Nat.le_refl _⟩
  alone i j first second hfirst hsecond hsameBoot hsameSequence := by
    rcases of_getElem?_concat hfirst with hfirst | ⟨rfl, rfl⟩ <;>
      rcases of_getElem?_concat hsecond with hsecond | ⟨rfl, rfl⟩
    · exact h.alone i j first second hfirst hsecond hsameBoot hsameSequence
    · have hlt := hnext first (List.mem_of_getElem? hfirst) hsameBoot.symm
      rw [← hsameSequence] at hlt
      exact absurd hlt (Nat.lt_irrefl _)
    · have hlt := hnext second (List.mem_of_getElem? hsecond) hsameBoot
      rw [hsameSequence] at hlt
      exact absurd hlt (Nat.lt_irrefl _)
    · rfl
  empty load hmem hwaits other hcurrent := by
    rcases List.mem_append.mp hmem with hmem | hmem
    · exact h.empty load hmem hwaits other hcurrent
    · rw [List.mem_singleton.mp hmem] at hcurrent
      obtain rfl := Option.some.inj (hboot.symm.trans hcurrent.found)
      exact ⟨hnone, howned⟩

end LoadsSound

/-! ## Leases -/

/-- A lease belongs to a load that waits, or to a bootstrap that was not cleaned up. -/
def Holder (boots : List Bootstrap) (loads : List Load) (l b q : Nat) : Prop :=
  (∃ (k : Nat) (load : Load), loads[k]? = some load ∧ load.waits = true ∧ load.ownedRuntime = some l
      ∧ load.boot = b ∧ load.sequence = q)
    ∨ ∃ boot, boots[b]? = some boot ∧ boot.cancelled = false ∧ boot.ownedRuntime = some l
      ∧ boot.reloadSequence = q

def Invalidated (clearings : List ClearingCall) (l : Nat) : Prop :=
  ∃ call ∈ clearings, call.invalidated = some l

def deactivate (leases : List Lease) (ownedRuntime : Option Nat) : List Lease :=
  ownedRuntime.elim leases fun l => leases.modify l fun lease => { lease with active := false }

/-- A lease that is active has its holder, and who holds a lease has the one it was granted. -/
structure LeasesSound (leases : List Lease) (holder : Nat → Nat → Nat → Prop)
    (clearings : List ClearingCall) : Prop where
  owner : ∀ (l : Nat) (lease : Lease), leases[l]? = some lease → lease.active = true →
    holder l lease.boot lease.sequence
  kept : ∀ l b q, holder l b q → ∃ lease, leases[l]? = some lease ∧ lease.boot = b ∧ lease.sequence = q
    ∧ (lease.active = true ∨ Invalidated clearings l)

theorem dispose_leases (host : HostLeases) : (host.dispose l).leases = deactivate host.leases (some l) := by
  unfold HostLeases.dispose
  split
  · next lease hlease =>
      change host.leases.set l { lease with active := false } = _
      rw [deactivate, Option.elim_some, List.modify_eq_set_getElem?, hlease]
      rfl
  · next hnone =>
      rw [deactivate, Option.elim_some, List.modify_eq_self (List.getElem?_eq_none_iff.mp hnone)]

theorem invalidate_leases (host : HostLeases) :
    (host.invalidate l).leases = deactivate host.leases (some l) := by
  rw [← dispose_leases]
  unfold HostLeases.invalidate HostLeases.dispose
  split
  · next lease hlease =>
      by_cases hactive : lease.active = true
      · rw [if_pos hactive]
      · rw [if_neg hactive]
        rw [Bool.not_eq_true] at hactive
        change host.leases = host.leases.set l { lease with active := false }
        obtain ⟨hlt, hlease⟩ := List.getElem?_eq_some_iff.mp hlease
        rw [← hactive]
        exact (hlease ▸ List.set_getElem_self hlt).symm
  · rfl

theorem disposeAny_leases (host : HostLeases) (ownedRuntime : Option Nat) :
    (host.disposeAny ownedRuntime).leases = deactivate host.leases ownedRuntime := by
  cases ownedRuntime with
  | none => rfl
  | some l => exact dispose_leases host

theorem invalidateAny_leases (host : HostLeases) (ownedRuntime : Option Nat) :
    (host.invalidateAny ownedRuntime).leases = deactivate host.leases ownedRuntime := by
  cases ownedRuntime with
  | none => rfl
  | some l => exact invalidate_leases host

theorem getElem?_deactivate (leases : List Lease) (ownedRuntime : Option Nat) (l : Nat) :
    (deactivate leases ownedRuntime)[l]?
      = leases[l]?.map fun lease =>
          if ownedRuntime = some l then { lease with active := false } else lease := by
  cases ownedRuntime with
  | none =>
    change leases[l]? = leases[l]?.map fun lease => lease
    rw [Option.map_id']
  | some m =>
    rw [deactivate, Option.elim_some, List.getElem?_modify]
    by_cases heq : m = l
    · simp only [heq, if_true]
      rfl
    · simp only [heq, if_false, Option.some.injEq]
      rfl

theorem of_deactivate {leases : List Lease} {ownedRuntime : Option Nat} {lease : Lease}
    (h : (deactivate leases ownedRuntime)[l]? = some lease) :
    ∃ before, leases[l]? = some before ∧ lease.leasedEngine = before.leasedEngine
      ∧ lease.boot = before.boot ∧ lease.sequence = before.sequence
      ∧ (lease.active = true → before.active = true ∧ ownedRuntime ≠ some l) := by
  rw [getElem?_deactivate] at h
  obtain ⟨before, hbefore, heq⟩ := Option.map_eq_some_iff.mp h
  by_cases howned : ownedRuntime = some l
  · rw [if_pos howned] at heq
    subst heq
    exact ⟨before, hbefore, rfl, rfl, rfl, nofun⟩
  · rw [if_neg howned] at heq
    subst heq
    exact ⟨before, hbefore, rfl, rfl, rfl, fun hactive => ⟨hactive, howned⟩⟩

theorem deactivate_of {leases : List Lease} {before : Lease} (ownedRuntime : Option Nat)
    (h : leases[l]? = some before) :
    ∃ lease, (deactivate leases ownedRuntime)[l]? = some lease ∧ lease.leasedEngine = before.leasedEngine
      ∧ lease.boot = before.boot ∧ lease.sequence = before.sequence
      ∧ (ownedRuntime ≠ some l → lease = before) := by
  rw [getElem?_deactivate, h, Option.map_some]
  by_cases howned : ownedRuntime = some l
  · rw [if_pos howned]
    exact ⟨_, rfl, rfl, rfl, rfl, fun hne => absurd howned hne⟩
  · rw [if_neg howned]
    exact ⟨before, rfl, rfl, rfl, rfl, fun _ => rfl⟩

namespace LeasesSound

variable {leases : List Lease} {holder later : Nat → Nat → Nat → Prop} {ownedRuntime : Option Nat}

section

variable (h : LeasesSound leases holder clearings)
include h

theorem congr (hiff : ∀ l b q, later l b q ↔ holder l b q) :
    LeasesSound leases later clearings where
  owner l lease hlease hactive := (hiff l _ _).mpr (h.owner l lease hlease hactive)
  kept l b q hlater := h.kept l b q ((hiff l b q).mp hlater)

theorem retire (hiff : ∀ l b q, later l b q ↔ holder l b q ∧ ownedRuntime ≠ some l) :
    LeasesSound (deactivate leases ownedRuntime) later clearings where
  owner l lease hlease hactive := by
    obtain ⟨before, hbefore, -, hboot, hsequence, hwas⟩ := of_deactivate hlease
    obtain ⟨hbeforeActive, hne⟩ := hwas hactive
    rw [hboot, hsequence]
    exact (hiff l _ _).mpr ⟨h.owner l before hbefore hbeforeActive, hne⟩
  kept l b q hlater := by
    obtain ⟨hholder, hne⟩ := (hiff l b q).mp hlater
    obtain ⟨before, hbefore, hboot, hsequence, hstands⟩ := h.kept l b q hholder
    obtain ⟨lease, hlease, -, -, -, heq⟩ := deactivate_of ownedRuntime hbefore
    rw [heq hne] at hlease
    exact ⟨before, hlease, hboot, hsequence, hstands⟩

theorem invalidate (call : ClearingCall) :
    LeasesSound (deactivate leases call.invalidated) holder (clearings ++ [call]) where
  owner l lease hlease hactive := by
    obtain ⟨before, hbefore, -, hboot, hsequence, hwas⟩ := of_deactivate hlease
    rw [hboot, hsequence]
    exact h.owner l before hbefore (hwas hactive).1
  kept l b q hholder := by
    obtain ⟨before, hbefore, hboot, hsequence, hstands⟩ := h.kept l b q hholder
    obtain ⟨lease, hlease, -, hsameBoot, hsameSequence, heq⟩ :=
      deactivate_of call.invalidated hbefore
    refine ⟨lease, hlease, hsameBoot.trans hboot, hsameSequence.trans hsequence, ?_⟩
    by_cases hcall : call.invalidated = some l
    · exact Or.inr ⟨call, List.mem_append_right _ List.mem_cons_self, hcall⟩
    · rw [heq hcall]
      rcases hstands with hactive | ⟨other, hmem, hother⟩
      · exact Or.inl hactive
      · exact Or.inr ⟨other, List.mem_append_left _ hmem, hother⟩

theorem recorded {others : List ClearingCall}
    (hothers : ∀ l, Invalidated clearings l → Invalidated others l) :
    LeasesSound leases holder others where
  owner := h.owner
  kept l b q hholder := by
    obtain ⟨lease, hlease, hboot, hsequence, hstands⟩ := h.kept l b q hholder
    exact ⟨lease, hlease, hboot, hsequence, hstands.imp_right (hothers l)⟩

theorem grant {engine : EngineId}
    (hiff : ∀ l c p, later l c p ↔ holder l c p ∨ l = leases.length ∧ c = b ∧ p = q) :
    LeasesSound (leases ++ [⟨true, engine, b, q⟩]) later clearings where
  owner l lease hlease hactive := by
    rcases of_getElem?_concat hlease with hlease | ⟨rfl, rfl⟩
    · exact (hiff l _ _).mpr (Or.inl (h.owner l lease hlease hactive))
    · exact (hiff _ b q).mpr (Or.inr ⟨rfl, rfl, rfl⟩)
  kept l c p hlater := by
    rcases (hiff l c p).mp hlater with hholder | ⟨rfl, rfl, rfl⟩
    · obtain ⟨lease, hlease, hrest⟩ := h.kept l c p hholder
      exact ⟨lease, getElem?_concat_of hlease, hrest⟩
    · exact ⟨_, List.getElem?_concat_length .., rfl, rfl, Or.inl rfl⟩

theorem rebind {engine : EngineId} {lease : Lease} (hlease : leases[l]? = some lease) :
    LeasesSound (leases.set l { lease with leasedEngine := engine }) holder clearings where
  owner m found hfound hactive := by
    rcases of_getElem?_set hfound with ⟨rfl, rfl⟩ | ⟨-, hfound⟩
    · exact h.owner m lease hlease hactive
    · exact h.owner m found hfound hactive
  kept m c p hholder := by
    obtain ⟨found, hfound, hrest⟩ := h.kept m c p hholder
    by_cases heq : m = l
    · subst heq
      obtain rfl := Option.some.inj (hlease.symm.trans hfound)
      refine ⟨_, List.getElem?_set_self (List.getElem?_eq_some_iff.mp hlease).1, hrest⟩
    · exact ⟨found, (List.getElem?_set_ne (Ne.symm heq)).trans hfound, hrest⟩

theorem same {c p : Nat} (hholder : holder l b q) (hother : holder l c p) : c = b ∧ p = q := by
  obtain ⟨lease, hlease, hboot, hsequence, -⟩ := h.kept l b q hholder
  obtain ⟨found, hfound, hfoundBoot, hfoundSequence, -⟩ := h.kept l c p hother
  obtain rfl := Option.some.inj (hlease.symm.trans hfound)
  exact ⟨hfoundBoot.symm.trans hboot, hfoundSequence.symm.trans hsequence⟩

end

end LeasesSound

section Holders

variable {leases : List Lease} {c p : Nat}

theorem not_both (hloads : LoadsSound boots loads)
    (hleases : LeasesSound leases (Holder boots loads) clearings) (hload : loads[k]? = some load)
    (hwaits : load.waits = true) (howned : load.ownedRuntime = some l) (hboot : boots[b]? = some boot)
    (hcancelled : boot.cancelled = false) : boot.ownedRuntime ≠ some l := by
  intro hbootOwned
  have hbyLoad : Holder boots loads l load.boot load.sequence :=
    Or.inl ⟨k, load, hload, hwaits, howned, rfl, rfl⟩
  have hbyBoot : Holder boots loads l b boot.reloadSequence :=
    Or.inr ⟨boot, hboot, hcancelled, hbootOwned, rfl⟩
  obtain ⟨rfl, hsequence⟩ := hleases.same hbyLoad hbyBoot
  have hnone := (hloads.empty load (List.mem_of_getElem? hload) hwaits boot
    ⟨hboot, hcancelled, hsequence.symm⟩).2
  rw [hbootOwned] at hnone
  cases hnone

theorem holder_release (hboots : BootsSound boots mounted) (hloads : LoadsSound boots loads)
    (hleases : LeasesSound leases (Holder boots loads) clearings) (hboot : boots[b]? = some boot)
    (howned : found.ownedRuntime = none) :
    Holder (boots.set b found) loads l c p ↔ Holder boots loads l c p ∧ boot.ownedRuntime ≠ some l := by
  have hopen : boot.ownedRuntime = some l → boot.cancelled = false := by
    intro hbootOwned
    rw [← Bool.not_eq_true]
    intro hcancelled
    rw [hboots.retired boot (List.mem_of_getElem? hboot) hcancelled] at hbootOwned
    cases hbootOwned
  constructor
  · rintro (⟨k, load, hload, hwaits, hloadOwned, hat⟩ | ⟨other, hother, hotherCancelled, hotherOwned, hat⟩)
    · refine ⟨Or.inl ⟨k, load, hload, hwaits, hloadOwned, hat⟩, fun hbootOwned => ?_⟩
      exact not_both hloads hleases hload hwaits hloadOwned hboot (hopen hbootOwned) hbootOwned
    · rcases of_getElem?_set hother with ⟨-, rfl⟩ | ⟨hne, hother⟩
      · rw [howned] at hotherOwned
        cases hotherOwned
      · refine ⟨Or.inr ⟨other, hother, hotherCancelled, hotherOwned, hat⟩, fun hbootOwned => ?_⟩
        exact hne (hboots.unique hboot hother (hopen hbootOwned) hotherCancelled).1
  · rintro ⟨hload | ⟨other, hother, hotherCancelled, hotherOwned, hat⟩, hne⟩
    · exact Or.inl hload
    · have hcb : c ≠ b := by
        rintro rfl
        obtain rfl := Option.some.inj (hboot.symm.trans hother)
        exact hne hotherOwned
      exact Or.inr ⟨other, (List.getElem?_set_ne (Ne.symm hcb)).trans hother, hotherCancelled,
        hotherOwned, hat⟩

theorem holder_discard (hloads : LoadsSound boots loads)
    (hleases : LeasesSound leases (Holder boots loads) clearings) (hload : loads[k]? = some load)
    (hwaits : load.waits = true) :
    Holder boots (loads.set k { load with waits := false }) l c p
      ↔ Holder boots loads l c p ∧ load.ownedRuntime ≠ some l := by
  constructor
  · rintro (⟨j, other, hother, hotherWaits, hotherOwned, hat⟩ | ⟨boot, hboot, hcancelled, howned, hat⟩)
    · rcases of_getElem?_set hother with ⟨-, rfl⟩ | ⟨hne, hother⟩
      · cases hotherWaits
      · have hholder : Holder boots loads l c p :=
          Or.inl ⟨j, other, hother, hotherWaits, hotherOwned, hat⟩
        refine ⟨hholder, fun howned => ?_⟩
        have hsame := hleases.same (Or.inl ⟨k, load, hload, hwaits, howned, rfl, rfl⟩) hholder
        exact hne (hloads.alone k j load other hload hother (hat.1.trans hsame.1) (hat.2.trans hsame.2))
    · refine ⟨Or.inr ⟨boot, hboot, hcancelled, howned, hat⟩, fun hloadOwned => ?_⟩
      exact not_both hloads hleases hload hwaits hloadOwned hboot hcancelled howned
  · rintro ⟨⟨j, other, hother, hotherWaits, hotherOwned, hat⟩ | hboot, hne⟩
    · have hjk : j ≠ k := by
        rintro rfl
        obtain rfl := Option.some.inj (hload.symm.trans hother)
        exact hne hotherOwned
      exact Or.inl ⟨j, other, (List.getElem?_set_ne (Ne.symm hjk)).trans hother, hotherWaits,
        hotherOwned, hat⟩
    · exact Or.inr hboot

variable {engine : Option EngineId}

theorem holder_install (hloads : LoadsSound boots loads)
    (hload : loads[k]? = some load) (hwaits : load.waits = true) (hcurrent : Current boots load boot) :
    Holder (boots.set load.boot { boot with engine, ownedRuntime := load.ownedRuntime })
        (loads.set k { load with waits := false }) l c p
      ↔ Holder boots loads l c p := by
  have hset : (boots.set load.boot
      { boot with engine, ownedRuntime := load.ownedRuntime })[load.boot]? = some _ :=
    List.getElem?_set_self (List.getElem?_eq_some_iff.mp hcurrent.found).1
  constructor
  · rintro (⟨j, other, hother, hotherWaits, hrest⟩ | ⟨other, hother, hcancelled, howned, hat⟩)
    · rcases of_getElem?_set hother with ⟨-, rfl⟩ | ⟨-, hother⟩
      · cases hotherWaits
      · exact Or.inl ⟨j, other, hother, hotherWaits, hrest⟩
    · rcases of_getElem?_set hother with ⟨rfl, rfl⟩ | ⟨-, hother⟩
      · exact Or.inl ⟨k, load, hload, hwaits, howned, rfl, hcurrent.sequence.trans hat⟩
      · exact Or.inr ⟨other, hother, hcancelled, howned, hat⟩
  · rintro (⟨j, other, hother, hotherWaits, howned, hboot, hat⟩ | ⟨other, hother, hcancelled, howned, hat⟩)
    · by_cases hjk : j = k
      · subst hjk
        obtain rfl := Option.some.inj (hload.symm.trans hother)
        subst hboot
        exact Or.inr ⟨_, hset, hcurrent.cancelled, howned, hcurrent.sequence.symm.trans hat⟩
      · exact Or.inl ⟨j, other, (List.getElem?_set_ne (Ne.symm hjk)).trans hother, hotherWaits, howned,
          hboot, hat⟩
    · have hne : c ≠ load.boot := by
        rintro rfl
        obtain rfl := Option.some.inj (hcurrent.found.symm.trans hother)
        rw [(hloads.empty load (List.mem_of_getElem? hload) hwaits boot hcurrent).2] at howned
        cases howned
      exact Or.inr ⟨other, (List.getElem?_set_ne (Ne.symm hne)).trans hother, hcancelled, howned, hat⟩

theorem holder_setLoad (hload : loads[k]? = some load) :
    Holder boots (loads.set k { load with engine }) l c p ↔ Holder boots loads l c p := by
  constructor
  · rintro (⟨j, other, hother, hwaits, howned, hat⟩ | hboot)
    · rcases of_getElem?_set hother with ⟨rfl, rfl⟩ | ⟨-, hother⟩
      · exact Or.inl ⟨j, load, hload, hwaits, howned, hat⟩
      · exact Or.inl ⟨j, other, hother, hwaits, howned, hat⟩
    · exact Or.inr hboot
  · rintro (⟨j, other, hother, hwaits, howned, hat⟩ | hboot)
    · by_cases hjk : j = k
      · subst hjk
        obtain rfl := Option.some.inj (hload.symm.trans hother)
        exact Or.inl ⟨j, _, List.getElem?_set_self (List.getElem?_eq_some_iff.mp hload).1, hwaits, howned, hat⟩
      · exact Or.inl ⟨j, other, (List.getElem?_set_ne (Ne.symm hjk)).trans hother, hwaits, howned, hat⟩
    · exact Or.inr hboot

theorem holder_grant {m : Nat} (hload : loads[k]? = some load) (hwaits : load.waits = true)
    (hnone : load.ownedRuntime = none) :
    Holder boots (loads.set k { load with ownedRuntime := some m }) l c p
      ↔ Holder boots loads l c p ∨ l = m ∧ c = load.boot ∧ p = load.sequence := by
  constructor
  · rintro (⟨j, other, hother, hotherWaits, howned, hboot, hat⟩ | hboot)
    · rcases of_getElem?_set hother with ⟨-, rfl⟩ | ⟨-, hother⟩
      · exact Or.inr ⟨(Option.some.inj howned).symm, hboot.symm, hat.symm⟩
      · exact Or.inl (Or.inl ⟨j, other, hother, hotherWaits, howned, hboot, hat⟩)
    · exact Or.inl (Or.inr hboot)
  · rintro ((⟨j, other, hother, hotherWaits, howned, hat⟩ | hboot) | ⟨rfl, rfl, rfl⟩)
    · have hjk : j ≠ k := by
        rintro rfl
        obtain rfl := Option.some.inj (hload.symm.trans hother)
        rw [hnone] at howned
        cases howned
      exact Or.inl ⟨j, other, (List.getElem?_set_ne (Ne.symm hjk)).trans hother, hotherWaits, howned, hat⟩
    · exact Or.inr hboot
    · exact Or.inl ⟨k, _, List.getElem?_set_self (List.getElem?_eq_some_iff.mp hload).1, hwaits, rfl, rfl, rfl⟩

theorem holder_pushLoad : Holder boots (loads ++ [Load.begun b q]) l c p ↔ Holder boots loads l c p := by
  constructor
  · rintro (⟨j, other, hother, hwaits, howned, hat⟩ | hboot)
    · rcases of_getElem?_concat hother with hother | ⟨-, rfl⟩
      · exact Or.inl ⟨j, other, hother, hwaits, howned, hat⟩
      · cases howned
    · exact Or.inr hboot
  · rintro (⟨j, other, hother, hrest⟩ | hboot)
    · exact Or.inl ⟨j, other, getElem?_concat_of hother, hrest⟩
    · exact Or.inr hboot

theorem holder_pushBoot : Holder (boots ++ [Bootstrap.begun]) loads l c p ↔ Holder boots loads l c p := by
  constructor
  · rintro (hload | ⟨other, hother, hcancelled, howned, hat⟩)
    · exact Or.inl hload
    · rcases of_getElem?_concat hother with hother | ⟨-, rfl⟩
      · exact Or.inr ⟨other, hother, hcancelled, howned, hat⟩
      · cases howned
  · rintro (hload | ⟨other, hother, hrest⟩)
    · exact Or.inl hload
    · exact Or.inr ⟨other, getElem?_concat_of hother, hrest⟩

theorem holder_setEngine (hboot : boots[b]? = some boot) :
    Holder (boots.set b { boot with engine }) loads l c p ↔ Holder boots loads l c p := by
  constructor
  · rintro (hload | ⟨other, hother, hcancelled, howned, hat⟩)
    · exact Or.inl hload
    · rcases of_getElem?_set hother with ⟨rfl, rfl⟩ | ⟨-, hother⟩
      · exact Or.inr ⟨boot, hboot, hcancelled, howned, hat⟩
      · exact Or.inr ⟨other, hother, hcancelled, howned, hat⟩
  · rintro (hload | ⟨other, hother, hcancelled, howned, hat⟩)
    · exact Or.inl hload
    · by_cases heq : c = b
      · subst heq
        obtain rfl := Option.some.inj (hboot.symm.trans hother)
        exact Or.inr ⟨_, List.getElem?_set_self (List.getElem?_eq_some_iff.mp hboot).1, hcancelled, howned,
          hat⟩
      · exact Or.inr ⟨other, (List.getElem?_set_ne (Ne.symm heq)).trans hother, hcancelled, howned, hat⟩

end Holders

end FormspecWeb.App.EngineExchange
