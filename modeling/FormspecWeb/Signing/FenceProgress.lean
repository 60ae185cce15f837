import FormspecWeb.Signing.ScopeFence
import Mathlib.Data.List.Basic

/-!
# The runs of a scope

How far the runs of a fenced scope are, what each step of the fence changes of that, and what holds
the scope: the fence is free again when every run has been released and every clear has ended.
-/

namespace FormspecWeb.Signing

inductive Progress where
  | waiting
  | executing
  | returned
  | failed
deriving DecidableEq

namespace Phase

variable {V : Type}

def progress : Phase V → Progress
  | queued => .waiting
  | executing => .executing
  | finished (.ok _) | settled (.ok _) => .returned
  | finished (.error _) | settled (.error _) => .failed

theorem isExecuting_iff {phase : Phase V} :
    phase.isExecuting = true ↔ phase.progress = .executing := by
  rcases phase with _ | _ | (_ | _) | (_ | _) <;> simp [isExecuting, progress]

end Phase

namespace Scoped

variable {V : Type} {s t : Scoped V} {i k : Nat}

def progress (s : Scoped V) (i : Nat) : Option Progress := (s.runs[i]?).map (·.phase.progress)

/-- What holds a scope is really there: the run that is pending, and the clear. -/
structure Held (s : Scoped V) : Prop where
  pending : ∀ i, s.pending = some i → ∃ run, s.runs[i]? = some run ∧ run.released = false
  clearing : s.clearing = true → ∃ clear ∈ s.clears, clear.active = true

theorem progress_set {run : FencedRun V} (next : FencedRun V) (hrun : s.runs[i]? = some run)
    (hruns : t.runs = s.runs.set i next) (k : Nat) :
    t.progress k = if k = i then some next.phase.progress else s.progress k := by
  have hlt : i < s.runs.length := (List.getElem?_eq_some_iff.mp hrun).1
  rw [progress, progress, hruns]
  by_cases hk : k = i
  · rw [if_pos hk, hk, List.getElem?_set_self hlt, Option.map_some]
  · rw [if_neg hk, List.getElem?_set_ne (Ne.symm hk)]

theorem progress_start (h : s.start i = some t) :
    s.progress i = some .waiting
      ∧ ∀ k, t.progress k = if k = i then some .executing else s.progress k := by
  unfold start at h
  split at h
  · next generation released hrun =>
    cases h
    refine ⟨by rw [progress, hrun]; rfl, fun k => ?_⟩
    exact progress_set ⟨generation, .executing, released⟩ hrun rfl k
  · cases h

theorem progress_finish {outcome : Except String V} (h : s.finish i outcome = some t) :
    s.progress i = some .executing
      ∧ ∀ k, t.progress k
        = if k = i then some (Phase.finished outcome).progress else s.progress k := by
  unfold finish at h
  split at h
  · next generation released hrun =>
    cases h
    refine ⟨by rw [progress, hrun]; rfl, fun k => ?_⟩
    exact progress_set ⟨generation, .finished outcome, released⟩ hrun rfl k
  · cases h

theorem progress_run (s : Scoped V) (k : Nat) :
    s.run.progress k = if s.clearing || s.pending.isSome then s.progress k
      else if k = s.runs.length then some .waiting else s.progress k := by
  unfold run
  split
  · rfl
  · rw [progress, List.getElem?_append]
    by_cases hlt : k < s.runs.length
    · rw [if_pos hlt, if_neg (by omega)]
      rfl
    · rw [if_neg hlt]
      by_cases hk : k = s.runs.length
      · rw [if_pos hk, hk, Nat.sub_self]
        rfl
      · have hnone : s.runs[k]? = none := List.getElem?_eq_none (by omega)
        rw [if_neg hk, progress, hnone, List.getElem?_eq_none (by simp; omega)]

namespace Act

def quiet : Act V → Bool
  | run | start _ | finish _ _ => false
  | _ => true

end Act

/-- The value of a run may still be withheld, and nothing else changes. -/
def Follows (before after : Option Progress) : Prop :=
  after = before ∨ before = some .returned ∧ after = some .failed

theorem progress_settle (h : s.settle i = some t) (k : Nat) : Follows (s.progress k) (t.progress k) := by
  unfold settle at h
  split at h
  · next generation outcome released hrun =>
    cases h
    have hset := progress_set (t := { s with
      runs := s.runs.set i ⟨generation, .settled (s.verdict generation outcome), released⟩
      log := verdictEntry i (s.verdict generation outcome) :: s.log }) _ hrun rfl k
    by_cases hk : k = i
    · subst hk
      rw [if_pos rfl] at hset
      rw [hset, Follows, progress, hrun, Option.map_some]
      cases outcome with
      | error message => exact Or.inl rfl
      | ok value =>
        rw [verdict]
        split
        · exact Or.inl rfl
        · exact Or.inr ⟨rfl, rfl⟩
    · rw [if_neg hk] at hset
      exact Or.inl hset
  · cases h

theorem progress_release (h : s.release i = some t) (k : Nat) : t.progress k = s.progress k := by
  unfold release at h
  split at h
  · next generation outcome hrun =>
    cases h
    have hset := progress_set (t := { s with
      pending := if s.pending = some i then none else s.pending
      runs := s.runs.set i ⟨generation, .settled outcome, true⟩ }) _ hrun rfl k
    by_cases hk : k = i
    · rw [if_pos hk] at hset
      rw [hset, hk, progress, hrun]
      rfl
    · rw [if_neg hk] at hset
      exact hset
  · cases h

theorem progress_of_runs (h : t.runs = s.runs) (k : Nat) : Follows (s.progress k) (t.progress k) := by
  apply Or.inl
  rw [progress, progress, h]

theorem clear_runs (s : Scoped V) : s.clear.runs = s.runs := by
  unfold clear
  split <;> rfl

theorem wake_runs {j : Nat} (h : s.wake j = some t) : t.runs = s.runs := by
  unfold wake at h
  split at h
  · split at h
    · exact Option.some.inj h ▸ rfl
    · cases h
  · cases h

theorem endClear_runs {j : Nat} (h : s.endClear j = some t) : t.runs = s.runs := by
  unfold endClear at h
  split at h
  · exact Option.some.inj h ▸ rfl
  · cases h

theorem progress_quiet {act : Act V} (hquiet : act.quiet = true) (h : s.step act = some t)
    (k : Nat) : Follows (s.progress k) (t.progress k) := by
  cases act with
  | run => cases hquiet
  | start i => cases hquiet
  | finish i outcome => cases hquiet
  | settle i => exact progress_settle h k
  | release i => exact Or.inl (progress_release h k)
  | invalidate => exact Option.some.inj h ▸ progress_of_runs rfl k
  | clear => exact Option.some.inj h ▸ progress_of_runs s.clear_runs k
  | wake j => exact progress_of_runs (wake_runs h) k
  | endClear j => exact progress_of_runs (endClear_runs h) k

theorem held_initial : (initial : Scoped V).Held :=
  ⟨nofun, nofun⟩

theorem held_set {run : FencedRun V} (next : FencedRun V) (hs : s.Held) (hrun : s.runs[i]? = some run)
    (hreleased : next.released = run.released) (hruns : t.runs = s.runs.set i next)
    (hpending : t.pending = s.pending) (hclearing : t.clearing = s.clearing)
    (hclears : t.clears = s.clears) : t.Held where
  pending k h := by
    have hlt : i < s.runs.length := (List.getElem?_eq_some_iff.mp hrun).1
    obtain ⟨found, hfound, hunreleased⟩ := hs.pending k (hpending ▸ h)
    rw [hruns]
    by_cases hk : k = i
    · subst hk
      obtain rfl := Option.some.inj (hrun.symm.trans hfound)
      exact ⟨next, List.getElem?_set_self hlt, hreleased.trans hunreleased⟩
    · exact ⟨found, by rw [List.getElem?_set_ne (Ne.symm hk)]; exact hfound, hunreleased⟩
  clearing h := by
    rw [hclears]
    exact hs.clearing (hclearing ▸ h)

section

variable (hs : s.Held)
include hs

theorem held_release (h : s.release i = some t) : t.Held := by
  unfold release at h
  split at h
  · next generation outcome hrun =>
    cases h
    refine ⟨fun k hk => ?_, hs.clearing⟩
    by_cases hpending : s.pending = some i
    · rw [if_pos hpending] at hk
      cases hk
    · rw [if_neg hpending] at hk
      obtain ⟨found, hfound, hunreleased⟩ := hs.pending k hk
      have hne : i ≠ k := fun heq => hpending (heq ▸ hk)
      exact ⟨found, by rw [List.getElem?_set_ne hne]; exact hfound, hunreleased⟩
  · cases h

theorem held_run : s.run.Held := by
  unfold run
  split
  · exact ⟨hs.pending, hs.clearing⟩
  · refine ⟨fun k hk => ?_, hs.clearing⟩
    cases hk
    exact ⟨⟨s.generation, .queued, false⟩, by simp, rfl⟩

theorem held_clear : s.clear.Held := by
  unfold clear
  split
  · exact ⟨hs.pending, hs.clearing⟩
  · exact ⟨hs.pending, fun _ => ⟨.waiting s.pending, by simp, rfl⟩⟩

theorem held_wake {j : Nat} (h : s.wake j = some t) : t.Held := by
  unfold wake at h
  split at h
  · next awaited hclear =>
    split at h
    · cases h
      have hlt : j < s.clears.length := (List.getElem?_eq_some_iff.mp hclear).1
      exact ⟨hs.pending, fun _ => ⟨.operating, List.mem_set hlt _, rfl⟩⟩
    · cases h
  · cases h

theorem held_endClear {j : Nat} (h : s.endClear j = some t) : t.Held := by
  unfold endClear at h
  split at h
  · cases h
    exact ⟨hs.pending, nofun⟩
  · cases h

theorem held_start (h : s.start i = some t) : t.Held := by
  unfold start at h
  split at h
  · next generation released hrun =>
    cases h
    exact held_set ⟨generation, .executing, released⟩ hs hrun rfl rfl rfl rfl rfl
  · cases h

theorem held_finish {outcome : Except String V} (h : s.finish i outcome = some t) :
    t.Held := by
  unfold finish at h
  split at h
  · next generation released hrun =>
    cases h
    exact held_set ⟨generation, .finished outcome, released⟩ hs hrun rfl rfl rfl rfl rfl
  · cases h

theorem held_settle (h : s.settle i = some t) : t.Held := by
  unfold settle at h
  split at h
  · next generation outcome released hrun =>
    cases h
    exact held_set ⟨generation, .settled (s.verdict generation outcome), released⟩ hs hrun
      rfl rfl rfl rfl rfl
  · cases h

theorem held_step {act : Act V} (h : s.step act = some t) : t.Held := by
  cases act with
  | run => exact Option.some.inj h ▸ held_run hs
  | start i => exact held_start hs h
  | finish i outcome => exact held_finish hs h
  | settle i => exact held_settle hs h
  | release i => exact held_release hs h
  | invalidate => exact Option.some.inj h ▸ ⟨hs.pending, hs.clearing⟩
  | clear => exact Option.some.inj h ▸ held_clear hs
  | wake j => exact held_wake hs h
  | endClear j => exact held_endClear hs h

end

def isIdle (s : Scoped V) : Bool := s.runs.all (·.released) && s.clears.all (!·.active)

theorem Held.free (hs : s.Held) (hidle : s.isIdle = true) :
    s.pending = none ∧ s.clearing = false := by
  obtain ⟨hruns, hclears⟩ := Bool.and_eq_true_iff.mp hidle
  constructor
  · by_contra hpending
    obtain ⟨i, hi⟩ := Option.ne_none_iff_exists'.mp hpending
    obtain ⟨run, hrun, hunreleased⟩ := hs.pending i hi
    have hreleased := List.all_eq_true.mp hruns run (List.mem_of_getElem? hrun)
    rw [hunreleased] at hreleased
    cases hreleased
  · by_contra hclearing
    obtain ⟨clear, hclear, hactive⟩ := hs.clearing (by simpa using hclearing)
    have hended := List.all_eq_true.mp hclears clear hclear
    rw [hactive] at hended
    cases hended

theorem Inv.one_executing (hs : s.Inv) (hi : s.progress i = some .executing)
    (hk : s.progress k = some .executing) : i = k := by
  obtain ⟨run, hrun, hrunProgress⟩ := Option.map_eq_some_iff.mp hi
  obtain ⟨other, hother, hotherProgress⟩ := Option.map_eq_some_iff.mp hk
  exact hs.fenced.one_body i k run other hrun hother (Phase.isExecuting_iff.mpr hrunProgress)
    (Phase.isExecuting_iff.mpr hotherProgress)

theorem Inv.quiet_clear {j : Nat} (hs : s.Inv) (h : s.endClear j = some t) (k : Nat) :
    s.progress k ≠ some .executing := by
  intro hk
  unfold endClear at h
  split at h
  · next hclear =>
    obtain ⟨run, hrun, hprogress⟩ := Option.map_eq_some_iff.mp hk
    have hsettled := hs.fenced.clear_alone (List.mem_of_getElem? hclear) run
      (List.mem_of_getElem? hrun)
    have hexecuting := Phase.isExecuting_iff.mpr hprogress
    cases hphase : run.phase <;> simp_all [Phase.isSettled, Phase.isExecuting]
  · cases h

end Scoped

end FormspecWeb.Signing
