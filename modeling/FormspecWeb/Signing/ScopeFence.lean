import FormspecWeb.Async.Steps
import Mathlib.Logic.Function.Basic
import Mathlib.Data.List.Basic

/-!
# The fence of a signing scope

Draft edits, preparations, signing acts and clears of one draft share a scope. The fence runs one
operation of a scope at a time, retires running operations, and clears behind them. An event is a
call of the fence, or one of the later steps of a call; they interleave in any order.
-/

namespace FormspecWeb.Signing

open Async

/-- Where the promise of a `run` stands. -/
inductive Phase (V : Type) where
  | queued
  | executing
  | finished (outcome : Except String V)
  | settled (outcome : Except String V)

namespace Phase

variable {V : Type}

def isExecuting : Phase V → Bool
  | executing => true
  | _ => false

def isSettled : Phase V → Bool
  | settled _ => true
  | _ => false

end Phase

structure FencedRun (V : Type) where
  generation : Nat
  phase : Phase V
  /-- Its `finally` has run. -/
  released : Bool

inductive ClearPhase where
  /-- It waits for the run that was pending when the clear was called. -/
  | waiting (awaited : Option Nat)
  | operating
  | ended

def ClearPhase.active : ClearPhase → Bool
  | ended => false
  | _ => true

inductive FenceEntry (V : Type) where
  | began (run : Nat)
  | refused (message : String)
  | resolved (run : Nat) (value : V)
  | rejected (run : Nat) (message : String)
  | invalidated
  | cleared
  | clearRefused (message : String)
deriving DecidableEq

def FenceEntry.retires {V : Type} : FenceEntry V → Bool
  | invalidated | cleared | clearRefused _ => true
  | _ => false

/-- The entries of the fence's maps at one scope, with the promises made for it. -/
structure Scoped (V : Type) where
  generation : Nat
  pending : Option Nat
  clearing : Bool
  runs : List (FencedRun V)
  clears : List ClearPhase
  /-- Newest first. -/
  log : List (FenceEntry V)

namespace Scoped

variable {V : Type}

def initial : Scoped V := ⟨0, none, false, [], [], []⟩

def invalidate (s : Scoped V) : Scoped V :=
  { s with generation := s.generation + 1, log := .invalidated :: s.log }

def isCurrent (s : Scoped V) (generation : Nat) : Bool :=
  s.generation == generation && !s.clearing

/-- `run(key, operation)` up to its return: the operation starts in a later microtask. -/
def run (s : Scoped V) : Scoped V :=
  if s.clearing || s.pending.isSome then
    { s with log := .refused "A draft operation is already in progress" :: s.log }
  else
    { s with
      pending := some s.runs.length
      runs := s.runs ++ [⟨s.generation, .queued, false⟩]
      log := .began s.runs.length :: s.log }

def start (s : Scoped V) (i : Nat) : Option (Scoped V) :=
  match s.runs[i]? with
  | some ⟨generation, .queued, released⟩ =>
    some { s with runs := s.runs.set i ⟨generation, .executing, released⟩ }
  | _ => none

def finish (s : Scoped V) (i : Nat) (outcome : Except String V) : Option (Scoped V) :=
  match s.runs[i]? with
  | some ⟨generation, .executing, released⟩ =>
    some { s with runs := s.runs.set i ⟨generation, .finished outcome, released⟩ }
  | _ => none

def staleMessage : String :=
  "Draft signing state was cleared or invalidated while an operation was running"

/-- What the run's promise settles with: `assertCurrent` stands before a value. -/
def verdict (s : Scoped V) (generation : Nat) : Except String V → Except String V
  | .ok value => if s.isCurrent generation then .ok value else .error staleMessage
  | .error message => .error message

def verdictEntry (i : Nat) : Except String V → FenceEntry V
  | .ok value => .resolved i value
  | .error message => .rejected i message

def settle (s : Scoped V) (i : Nat) : Option (Scoped V) :=
  match s.runs[i]? with
  | some ⟨generation, .finished outcome, released⟩ =>
    some { s with
      runs := s.runs.set i ⟨generation, .settled (s.verdict generation outcome), released⟩
      log := verdictEntry i (s.verdict generation outcome) :: s.log }
  | _ => none

/-- The `finally` behind the run's promise. -/
def release (s : Scoped V) (i : Nat) : Option (Scoped V) :=
  match s.runs[i]? with
  | some ⟨generation, .settled outcome, false⟩ =>
    some { s with
      pending := if s.pending = some i then none else s.pending
      runs := s.runs.set i ⟨generation, .settled outcome, true⟩ }
  | _ => none

/-- `clear(key, operation)` up to its wait. -/
def clear (s : Scoped V) : Scoped V :=
  if s.clearing then
    { s with log := .clearRefused "Draft state is already being cleared" :: s.log }
  else
    { s with
      generation := s.generation + 1
      clearing := true
      clears := s.clears ++ [.waiting s.pending]
      log := .cleared :: s.log }

def awaitOver (s : Scoped V) : Option Nat → Bool
  | none => true
  | some i => (s.runs[i]?).any fun run => run.phase.isSettled

def wake (s : Scoped V) (j : Nat) : Option (Scoped V) :=
  match s.clears[j]? with
  | some (.waiting awaited) =>
    if s.awaitOver awaited then some { s with clears := s.clears.set j .operating } else none
  | _ => none

def endClear (s : Scoped V) (j : Nat) : Option (Scoped V) :=
  match s.clears[j]? with
  | some .operating => some { s with clearing := false, clears := s.clears.set j .ended }
  | _ => none

inductive Act (V : Type) where
  | run
  | start (run : Nat)
  | finish (run : Nat) (outcome : Except String V)
  | settle (run : Nat)
  | release (run : Nat)
  | invalidate
  | clear
  | wake (clear : Nat)
  | endClear (clear : Nat)

def step (s : Scoped V) : Act V → Option (Scoped V)
  | .run => some s.run
  | .start i => s.start i
  | .finish i outcome => s.finish i outcome
  | .settle i => s.settle i
  | .release i => s.release i
  | .invalidate => some s.invalidate
  | .clear => some s.clear
  | .wake j => s.wake j
  | .endClear j => s.endClear j

def RetiredSince (log : List (FenceEntry V)) (run : Nat) : Prop :=
  ∃ newer entry older, log = newer ++ entry :: older ∧ entry.retires = true ∧ .began run ∈ older

structure Fenced (s : Scoped V) : Prop where
  one_body : ∀ (i j : Nat) (run other : FencedRun V), s.runs[i]? = some run → s.runs[j]? = some other →
    run.phase.isExecuting = true → other.phase.isExecuting = true → i = j
  clear_alone : .operating ∈ s.clears → ∀ run ∈ s.runs, run.phase.isSettled = true
  no_late_value : ∀ newer older run value, s.log = newer ++ .resolved run value :: older →
    ¬ RetiredSince older run

/-! ## One scope -/

structure Unsettled (runs : List (FencedRun V)) (i : Nat) (run : FencedRun V) : Prop where
  found : runs[i]? = some run
  unsettled : run.phase.isSettled = false

structure Inv (s : Scoped V) : Prop where
  unreleased : ∀ i run, s.runs[i]? = some run → run.released = false → s.pending = some i
  released : ∀ i run, Unsettled s.runs i run → run.released = false
  generation_le : ∀ i run, Unsettled s.runs i run → run.generation ≤ s.generation
  clearing_lt : s.clearing = true → ∀ i run, Unsettled s.runs i run → run.generation < s.generation
  retired_lt : ∀ i run, Unsettled s.runs i run → RetiredSince s.log i → run.generation < s.generation
  began_lt : ∀ i, .began i ∈ s.log → i < s.runs.length
  clearing : ∀ clear ∈ s.clears, clear.active = true → s.clearing = true
  one_clear : ∀ (j k : Nat) (clear other : ClearPhase), s.clears[j]? = some clear →
    s.clears[k]? = some other → clear.active = true → other.active = true → j = k
  waiting : ∀ awaited, .waiting awaited ∈ s.clears → ∀ i run, Unsettled s.runs i run → awaited = some i
  operating : .operating ∈ s.clears → ∀ i run, ¬ Unsettled s.runs i run
  no_late_value : ∀ newer older run value, s.log = newer ++ .resolved run value :: older →
    ¬ RetiredSince older run

theorem inv_initial : Inv (initial : Scoped V) where
  unreleased := by simp [initial]
  released := fun _ _ h => by simpa [initial] using h.found
  generation_le := fun _ _ h => by simpa [initial] using h.found
  clearing_lt := by simp [initial]
  retired_lt := fun _ _ h => by simpa [initial] using h.found
  began_lt := by simp [initial]
  clearing := by simp [initial]
  one_clear := by simp [initial]
  waiting := by simp [initial]
  operating := by simp [initial]
  no_late_value := by simp [initial]

theorem Unsettled.unique {s : Scoped V} (hs : s.Inv) {i j : Nat} {run other : FencedRun V}
    (hi : Unsettled s.runs i run) (hj : Unsettled s.runs j other) : i = j := by
  have hfirst := hs.unreleased i run hi.found (hs.released i run hi)
  have hsecond := hs.unreleased j other hj.found (hs.released j other hj)
  exact Option.some.inj (hfirst.symm.trans hsecond)

theorem Inv.fenced {s : Scoped V} (hs : s.Inv) : s.Fenced where
  one_body i j run other hi hj hrun hother := by
    have hsettled : ∀ phase : Phase V, phase.isExecuting = true → phase.isSettled = false := by
      intro phase h
      cases phase <;> simp_all [Phase.isExecuting, Phase.isSettled]
    exact Unsettled.unique hs ⟨hi, hsettled _ hrun⟩ ⟨hj, hsettled _ hother⟩
  clear_alone hoperating run hrun := by
    obtain ⟨i, hi⟩ := List.getElem?_of_mem hrun
    by_contra hunsettled
    exact hs.operating hoperating i run ⟨hi, by simpa using hunsettled⟩
  no_late_value := hs.no_late_value

variable {log : List (FenceEntry V)}

theorem retiredSince_cons {entry : FenceEntry V} {run : Nat} :
    RetiredSince (entry :: log) run
      ↔ entry.retires = true ∧ .began run ∈ log ∨ RetiredSince log run := by
  constructor
  · rintro ⟨newer, found, older, heq, hretires, hbegan⟩
    cases newer with
    | nil =>
      cases heq
      exact Or.inl ⟨hretires, hbegan⟩
    | cons first newer =>
      cases heq
      exact Or.inr ⟨newer, found, older, rfl, hretires, hbegan⟩
  · rintro (⟨hretires, hbegan⟩ | ⟨newer, found, older, rfl, hretires, hbegan⟩)
    · exact ⟨[], entry, log, rfl, hretires, hbegan⟩
    · exact ⟨entry :: newer, found, older, rfl, hretires, hbegan⟩

theorem RetiredSince.began {run : Nat} (h : RetiredSince log run) :
    .began run ∈ log := by
  obtain ⟨newer, entry, older, rfl, -, hbegan⟩ := h
  simp [hbegan]

theorem no_late_cons {entry : FenceEntry V}
    (hlog : ∀ newer older run value, log = newer ++ .resolved run value :: older →
      ¬ RetiredSince older run)
    (hentry : ∀ run value, entry = .resolved run value → ¬ RetiredSince log run) :
    ∀ newer older run value, entry :: log = newer ++ .resolved run value :: older →
      ¬ RetiredSince older run := by
  intro newer older run value heq
  cases newer with
  | nil =>
    obtain ⟨hentry', rfl⟩ := List.cons.inj heq
    exact hentry run value hentry'
  | cons first newer =>
    cases heq
    exact hlog newer older run value rfl

section Replaced

variable {s : Scoped V} {i : Nat} {run next : FencedRun V}

theorem unsettled_set (hrun : s.runs[i]? = some run) (hgeneration : next.generation = run.generation)
    (hphase : next.phase.isSettled = false → run.phase.isSettled = false)
    {k : Nat} {found : FencedRun V} (h : Unsettled (s.runs.set i next) k found) :
    ∃ before, Unsettled s.runs k before ∧ before.generation = found.generation
      ∧ (k = i → before = run ∧ found = next) ∧ (k ≠ i → before = found) := by
  by_cases hk : k = i
  · subst hk
    have hlt : k < s.runs.length := (List.getElem?_eq_some_iff.mp hrun).1
    have hfound : found = next := by
      have h := h.found
      rw [List.getElem?_set_self hlt] at h
      exact (Option.some.inj h).symm
    subst hfound
    exact ⟨run, ⟨hrun, hphase h.unsettled⟩, hgeneration.symm, fun _ => ⟨rfl, rfl⟩,
      fun hne => absurd rfl hne⟩
  · have hfound : s.runs[k]? = some found := by
      have h := h.found
      rwa [List.getElem?_set_ne (Ne.symm hk)] at h
    exact ⟨found, ⟨hfound, h.unsettled⟩, rfl, fun heq => absurd heq hk, fun _ => rfl⟩

theorem inv_advance (hs : s.Inv) (hrun : s.runs[i]? = some run) (next : FencedRun V)
    (hgeneration : next.generation = run.generation)
    (hphase : next.phase.isSettled = false → run.phase.isSettled = false)
    {pending : Option Nat} {log : List (FenceEntry V)}
    (hpending : ∀ k found, (s.runs.set i next)[k]? = some found → found.released = false →
      pending = some k)
    (hreleased : next.phase.isSettled = false → next.released = false)
    (hbegan : ∀ k, .began k ∈ log ↔ .began k ∈ s.log)
    (hretired : ∀ k, RetiredSince log k ↔ RetiredSince s.log k)
    (hlate : ∀ newer older run value, log = newer ++ .resolved run value :: older →
      ¬ RetiredSince older run) :
    Inv { s with pending := pending, runs := s.runs.set i next, log := log } where
  unreleased := hpending
  released k found h := by
    obtain ⟨before, hbefore, -, hsame, hother⟩ := unsettled_set hrun hgeneration hphase h
    by_cases hk : k = i
    · obtain ⟨-, rfl⟩ := hsame hk
      exact hreleased h.unsettled
    · obtain rfl := hother hk
      exact hs.released k before hbefore
  generation_le k found h := by
    obtain ⟨before, hbefore, heq, -⟩ := unsettled_set hrun hgeneration hphase h
    exact heq ▸ hs.generation_le k before hbefore
  clearing_lt hclearing k found h := by
    obtain ⟨before, hbefore, heq, -⟩ := unsettled_set hrun hgeneration hphase h
    exact heq ▸ hs.clearing_lt hclearing k before hbefore
  retired_lt k found h hsince := by
    obtain ⟨before, hbefore, heq, -⟩ := unsettled_set hrun hgeneration hphase h
    exact heq ▸ hs.retired_lt k before hbefore ((hretired k).mp hsince)
  began_lt k hk := by
    rw [List.length_set]
    exact hs.began_lt k ((hbegan k).mp hk)
  __ := hs
  waiting awaited hawaited k found h := by
    obtain ⟨before, hbefore, -⟩ := unsettled_set hrun hgeneration hphase h
    exact hs.waiting awaited hawaited k before hbefore
  operating hoperating k found h := by
    obtain ⟨before, hbefore, -⟩ := unsettled_set hrun hgeneration hphase h
    exact hs.operating hoperating k before hbefore
  no_late_value := hlate

/-- A run that keeps its promise's `released` leaves the pending one as it is. -/
theorem unreleased_set (hs : s.Inv) (hrun : s.runs[i]? = some run)
    (hreleased : next.released = run.released) (k : Nat) (found : FencedRun V)
    (hfound : (s.runs.set i next)[k]? = some found) (hunreleased : found.released = false) :
    s.pending = some k := by
  by_cases hk : i = k
  · subst hk
    have hlt : i < s.runs.length := (List.getElem?_eq_some_iff.mp hrun).1
    rw [List.getElem?_set_self hlt] at hfound
    cases hfound
    exact hs.unreleased i run hrun (hreleased ▸ hunreleased)
  · rw [List.getElem?_set_ne hk] at hfound
    exact hs.unreleased k found hfound hunreleased

end Replaced

variable {s t : Scoped V}

theorem inv_start (hs : s.Inv) {i : Nat} (h : s.start i = some t) : t.Inv := by
  rw [start] at h
  split at h
  · next generation released hrun =>
    cases h
    exact inv_advance hs hrun ⟨generation, .executing, released⟩ rfl (fun _ => rfl)
      (unreleased_set hs hrun rfl) (fun _ => hs.released i ⟨generation, .queued, released⟩ ⟨hrun, rfl⟩)
      (fun _ => Iff.rfl) (fun _ => Iff.rfl) hs.no_late_value
  · cases h

theorem inv_finish (hs : s.Inv) {i : Nat} {outcome : Except String V}
    (h : s.finish i outcome = some t) : t.Inv := by
  rw [finish] at h
  split at h
  · next generation released hrun =>
    cases h
    exact inv_advance hs hrun ⟨generation, .finished outcome, released⟩ rfl (fun _ => rfl)
      (unreleased_set hs hrun rfl) (fun _ => hs.released i ⟨generation, .executing, released⟩ ⟨hrun, rfl⟩)
      (fun _ => Iff.rfl) (fun _ => Iff.rfl) hs.no_late_value
  · cases h

theorem verdict_resolved {generation : Nat} {outcome : Except String V} {i run : Nat} {value : V}
    (h : verdictEntry i (s.verdict generation outcome) = .resolved run value) :
    run = i ∧ s.generation = generation ∧ s.clearing = false := by
  cases outcome with
  | error message => cases h
  | ok result =>
    rw [verdict] at h
    split at h
    · next hcurrent =>
      simp only [verdictEntry, FenceEntry.resolved.injEq] at h
      simp only [isCurrent, Bool.and_eq_true, beq_iff_eq, Bool.not_eq_true'] at hcurrent
      exact ⟨h.1.symm, hcurrent⟩
    · cases h

theorem inv_settle (hs : s.Inv) {i : Nat} (h : s.settle i = some t) : t.Inv := by
  rw [settle] at h
  split at h
  · next generation outcome released hrun =>
    cases h
    set entry := verdictEntry i (s.verdict generation outcome) with hentry
    have hkind : ∀ k, entry ≠ .began k := by
      intro k
      cases hverdict : s.verdict generation outcome <;> simp [hentry, hverdict, verdictEntry]
    have hretires : entry.retires = false := by
      cases hverdict : s.verdict generation outcome <;>
        simp [hentry, hverdict, verdictEntry, FenceEntry.retires]
    refine inv_advance hs hrun ⟨generation, .settled (s.verdict generation outcome), released⟩ rfl
      (fun _ => rfl) (unreleased_set hs hrun rfl) (fun h => absurd h Bool.true_eq_false.mp) ?_ ?_ ?_
    · intro k
      rw [List.mem_cons]
      exact or_iff_right (Ne.symm (hkind k))
    · intro k
      rw [retiredSince_cons, hretires]
      simp
    · apply no_late_cons hs.no_late_value
      intro run value heq hsince
      obtain ⟨rfl, hgeneration, -⟩ := verdict_resolved heq
      have hlt := hs.retired_lt run _ ⟨hrun, rfl⟩ hsince
      simp only at hlt
      omega
  · cases h

theorem inv_release (hs : s.Inv) {i : Nat} (h : s.release i = some t) : t.Inv := by
  rw [release] at h
  split at h
  · next generation outcome hrun =>
    cases h
    have hpending : s.pending = some i := hs.unreleased i _ hrun rfl
    refine inv_advance hs hrun ⟨generation, .settled outcome, true⟩ rfl id ?_
      (fun h => absurd h Bool.true_eq_false.mp) (fun _ => Iff.rfl) (fun _ => Iff.rfl)
      hs.no_late_value
    intro k found hfound hunreleased
    by_cases hk : i = k
    · subst hk
      have hlt : i < s.runs.length := (List.getElem?_eq_some_iff.mp hrun).1
      rw [List.getElem?_set_self hlt] at hfound
      cases hfound
      cases hunreleased
    · rw [List.getElem?_set_ne hk] at hfound
      have hother := hs.unreleased k found hfound hunreleased
      exact absurd (Option.some.inj (hpending.symm.trans hother)) hk
  · cases h

theorem inv_refused (hs : s.Inv) {entry : FenceEntry V} (hbegan : ∀ k, entry ≠ .began k)
    (hretires : entry.retires = false) (hresolved : ∀ k value, entry ≠ .resolved k value) :
    Inv { s with log := entry :: s.log } :=
  { hs with
    retired_lt := fun k found h hsince => by
      rw [retiredSince_cons, hretires] at hsince
      exact hs.retired_lt k found h (by simpa using hsince)
    began_lt := fun k hk => by
      rw [List.mem_cons] at hk
      exact hs.began_lt k (hk.resolve_left (Ne.symm (hbegan k)))
    no_late_value := no_late_cons hs.no_late_value fun k value h => absurd h (hresolved k value) }

theorem inv_run (hs : s.Inv) : s.run.Inv := by
  rw [run]
  split
  · exact inv_refused hs (by simp) rfl (by simp)
  · next hfree =>
    simp only [Bool.or_eq_true, not_or, Bool.not_eq_true, Option.isSome_eq_false_iff,
      Option.isNone_iff_eq_none] at hfree
    obtain ⟨hclearing, hpending⟩ := hfree
    -- Nothing is pending, so all earlier runs are settled and the new one is alone.
    have hsettled : ∀ i run, ¬ Unsettled s.runs i run := by
      intro i run h
      have hsome := hs.unreleased i run h.found (hs.released i run h)
      rw [hpending] at hsome
      cases hsome
    set new : FencedRun V := ⟨s.generation, .queued, false⟩ with hnew
    have hfound : ∀ i run, (s.runs ++ [new])[i]? = some run →
        s.runs[i]? = some run ∨ i = s.runs.length ∧ run = new := by
      intro i run h
      rw [List.getElem?_append] at h
      split at h
      · exact Or.inl h
      · rw [List.getElem?_singleton] at h
        split at h
        · exact Or.inr ⟨by omega, (Option.some.inj h).symm⟩
        · cases h
    have honly : ∀ i run, Unsettled (s.runs ++ [new]) i run → i = s.runs.length ∧ run = new := by
      intro i run h
      rcases hfound i run h.found with hold | hlast
      · exact absurd ⟨hold, h.unsettled⟩ (hsettled i run)
      · exact hlast
    have hinactive : ∀ clear ∈ s.clears, clear.active = false := by
      intro clear hclear
      by_contra hactive
      have := hs.clearing clear hclear (by simpa using hactive)
      rw [hclearing] at this
      cases this
    exact { hs with
      unreleased := fun i run h hunreleased => by
        rcases hfound i run h with hold | ⟨rfl, -⟩
        · have hsome := hs.unreleased i run hold hunreleased
          rw [hpending] at hsome
          cases hsome
        · rfl
      released := fun i run h => by rw [(honly i run h).2]
      generation_le := fun i run h =>
        Nat.le_of_eq (congrArg FencedRun.generation (honly i run h).2)
      clearing_lt := fun h => by rw [hclearing] at h; cases h
      retired_lt := fun i run h hsince => by
        rw [retiredSince_cons] at hsince
        have hlt := hs.began_lt i (hsince.resolve_left (by simp [FenceEntry.retires])).began
        have := (honly i run h).1
        omega
      began_lt := fun i h => by
        rw [List.length_append, List.length_singleton]
        rcases List.mem_cons.mp h with heq | hold
        · cases heq
          omega
        · have := hs.began_lt i hold
          omega
      waiting := fun awaited h => by
        have := hinactive _ h
        cases this
      operating := fun h => by
        have := hinactive _ h
        cases this
      no_late_value := no_late_cons hs.no_late_value (by simp) }

theorem inv_retire (hs : s.Inv) {entry : FenceEntry V} (hretires : entry.retires = true) :
    Inv { s with generation := s.generation + 1, log := entry :: s.log } :=
  { hs with
    generation_le := fun i run h => Nat.le_succ_of_le (hs.generation_le i run h)
    clearing_lt := fun _ i run h => Nat.lt_succ_of_le (hs.generation_le i run h)
    retired_lt := fun i run h _ => Nat.lt_succ_of_le (hs.generation_le i run h)
    began_lt := fun i h => by
      rcases List.mem_cons.mp h with heq | hold
      · rw [← heq] at hretires
        cases hretires
      · exact hs.began_lt i hold
    no_late_value := no_late_cons hs.no_late_value fun run value heq => by
      rw [heq] at hretires
      cases hretires }

theorem inv_clear (hs : s.Inv) : s.clear.Inv := by
  rw [clear]
  split
  · next hclearing =>
    -- A refused clear retires nothing that the clear before it has not retired.
    exact { hs with
      retired_lt := fun i run h _ => hs.clearing_lt hclearing i run h
      began_lt := fun i h => hs.began_lt i (by simpa using h)
      no_late_value := no_late_cons hs.no_late_value (by simp) }
  · next hclearing =>
    have hinactive : ∀ clear ∈ s.clears, clear.active = false := by
      intro clear hclear
      by_contra hactive
      exact hclearing (hs.clearing clear hclear (by simpa using hactive))
    have hfound : ∀ (j : Nat) (clear : ClearPhase),
        (s.clears ++ [.waiting s.pending])[j]? = some clear → clear.active = true →
        j = s.clears.length := by
      intro j clear h hactive
      rw [List.getElem?_append] at h
      split at h
      · have := hinactive clear (List.mem_of_getElem? h)
        rw [hactive] at this
        cases this
      · rw [List.getElem?_singleton] at h
        split at h
        · omega
        · cases h
    have hretired := @inv_retire _ _ hs .cleared rfl
    exact { hretired with
      clearing_lt := fun _ i run h => Nat.lt_succ_of_le (hs.generation_le i run h)
      clearing := fun _ _ _ => rfl
      one_clear := fun j k clear other hj hk hclear hother =>
        (hfound j clear hj hclear).trans (hfound k other hk hother).symm
      waiting := fun awaited h i run hrun => by
        rw [List.mem_append, List.mem_singleton] at h
        rcases h with hold | heq
        · have := hinactive _ hold
          cases this
        · rw [ClearPhase.waiting.inj heq]
          exact hs.unreleased i run hrun.found (hs.released i run hrun)
      operating := fun h => by
        rw [List.mem_append, List.mem_singleton] at h
        rcases h with hold | heq
        · have := hinactive _ hold
          cases this
        · cases heq }

section ClearSet

variable {j : Nat} {before after : ClearPhase}

theorem mem_clears_set {clear : ClearPhase} (h : clear ∈ s.clears.set j after) :
    clear ∈ s.clears ∨ clear = after :=
  List.mem_or_eq_of_mem_set h

theorem active_set (hbefore : s.clears[j]? = some before)
    (hactive : after.active = true → before.active = true) {k : Nat} {clear : ClearPhase}
    (h : (s.clears.set j after)[k]? = some clear) (hclear : clear.active = true) :
    ∃ found, s.clears[k]? = some found ∧ found.active = true := by
  by_cases hk : j = k
  · subst hk
    have hlt : j < s.clears.length := (List.getElem?_eq_some_iff.mp hbefore).1
    rw [List.getElem?_set_self hlt] at h
    cases h
    exact ⟨before, hbefore, hactive hclear⟩
  · rw [List.getElem?_set_ne hk] at h
    exact ⟨clear, h, hclear⟩

theorem one_clear_set (hs : s.Inv) (hbefore : s.clears[j]? = some before)
    (hactive : after.active = true → before.active = true) (k l : Nat) (clear other : ClearPhase)
    (hk : (s.clears.set j after)[k]? = some clear) (hl : (s.clears.set j after)[l]? = some other)
    (hclear : clear.active = true) (hother : other.active = true) : k = l := by
  obtain ⟨found, hfound, hfoundActive⟩ := active_set hbefore hactive hk hclear
  obtain ⟨last, hlast, hlastActive⟩ := active_set hbefore hactive hl hother
  exact hs.one_clear k l found last hfound hlast hfoundActive hlastActive

end ClearSet

theorem inv_wake (hs : s.Inv) {j : Nat} (h : s.wake j = some t) : t.Inv := by
  rw [wake] at h
  split at h
  · next awaited hclear =>
    split at h
    · next hover =>
      cases h
      have hmem : .waiting awaited ∈ s.clears := List.mem_of_getElem? hclear
      -- The run it waited for was the only one left.
      have hsettled : ∀ i run, ¬ Unsettled s.runs i run := by
        intro i run hrun
        rw [hs.waiting awaited hmem i run hrun, awaitOver, hrun.found, Option.any_some,
          hrun.unsettled] at hover
        cases hover
      exact { hs with
        clearing := fun clear hclear' hactive => by
          rcases mem_clears_set hclear' with hold | rfl
          · exact hs.clearing clear hold hactive
          · exact hs.clearing _ hmem rfl
        one_clear := one_clear_set hs hclear fun _ => rfl
        waiting := fun other hother => by
          rcases mem_clears_set hother with hold | heq
          · exact hs.waiting other hold
          · cases heq
        operating := fun _ => hsettled }
    · cases h
  · cases h

theorem inv_endClear (hs : s.Inv) {j : Nat} (h : s.endClear j = some t) : t.Inv := by
  rw [endClear] at h
  split at h
  · next hclear =>
    cases h
    have hsettled := hs.operating (List.mem_of_getElem? hclear)
    exact { hs with
      clearing_lt := nofun
      clearing := fun clear hmem hactive => by
        obtain ⟨k, hk⟩ := List.getElem?_of_mem hmem
        have hkj : k = j := by
          obtain ⟨found, hfound, hfoundActive⟩ :=
            active_set hclear (fun h => by cases h) hk hactive
          exact hs.one_clear k j found _ hfound hclear hfoundActive rfl
        subst hkj
        have hlt : k < s.clears.length := (List.getElem?_eq_some_iff.mp hclear).1
        rw [List.getElem?_set_self hlt] at hk
        cases hk
        cases hactive
      one_clear := one_clear_set hs hclear nofun
      waiting := fun _ _ i run hrun => absurd hrun (hsettled i run)
      operating := fun _ => hsettled }
  · cases h

theorem inv_step (hs : s.Inv) {act : Act V} (h : s.step act = some t) : t.Inv := by
  cases act with
  | run => exact Option.some.inj h ▸ inv_run hs
  | start i => exact inv_start hs h
  | finish i outcome => exact inv_finish hs h
  | settle i => exact inv_settle hs h
  | release i => exact inv_release hs h
  | invalidate => exact Option.some.inj h ▸ inv_retire hs rfl
  | clear => exact Option.some.inj h ▸ inv_clear hs
  | wake j => exact inv_wake hs h
  | endClear j => exact inv_endClear hs h

end Scoped

section Fence

variable {Key Scope V : Type} [DecidableEq Scope]

structure ScopeFence (Scope V : Type) where
  generations : Scope → Nat
  pending : Scope → Option Nat
  clearing : Scope → Bool
  runs : Scope → List (FencedRun V)
  clears : Scope → List ClearPhase
  log : Scope → List (FenceEntry V)

namespace ScopeFence

def initial : ScopeFence Scope V :=
  ⟨fun _ => 0, fun _ => none, fun _ => false, fun _ => [], fun _ => [], fun _ => []⟩

def get (s : ScopeFence Scope V) (scope : Scope) : Scoped V :=
  ⟨s.generations scope, s.pending scope, s.clearing scope, s.runs scope, s.clears scope,
    s.log scope⟩

def set (s : ScopeFence Scope V) (scope : Scope) (entries : Scoped V) : ScopeFence Scope V where
  generations := Function.update s.generations scope entries.generation
  pending := Function.update s.pending scope entries.pending
  clearing := Function.update s.clearing scope entries.clearing
  runs := Function.update s.runs scope entries.runs
  clears := Function.update s.clears scope entries.clears
  log := Function.update s.log scope entries.log

structure Event (Key V : Type) where
  key : Key
  act : Scoped.Act V

/-- A step of a call reads and writes the maps at `scopeFor(key)`. -/
def step (scopeFor : Key → Scope) (s : ScopeFence Scope V) (event : Event Key V) :
    Option (ScopeFence Scope V) :=
  ((s.get (scopeFor event.key)).step event.act).map (s.set (scopeFor event.key))

/-! ## All scopes at once -/

variable {scopeFor : Key → Scope} {s t : ScopeFence Scope V} {scope other : Scope}

@[simp] theorem get_set_self (entries : Scoped V) : (s.set scope entries).get scope = entries := by
  simp [get, set]

theorem get_set_ne (entries : Scoped V) (h : other ≠ scope) :
    (s.set scope entries).get other = s.get other := by
  simp [get, set, Function.update_of_ne h]

variable {event : Event Key V}

theorem step_get (h : step scopeFor s event = some t) :
    (s.get (scopeFor event.key)).step event.act = some (t.get (scopeFor event.key)) := by
  obtain ⟨entries, hentries, rfl⟩ := Option.map_eq_some_iff.mp h
  rw [hentries, get_set_self]

theorem step_other (h : step scopeFor s event = some t)
    (hne : scopeFor event.key ≠ scope) : t.get scope = s.get scope := by
  obtain ⟨entries, -, rfl⟩ := Option.map_eq_some_iff.mp h
  exact get_set_ne entries (Ne.symm hne)

theorem inv_step (hs : ∀ scope, (s.get scope).Inv)
    (h : step scopeFor s event = some t) (scope : Scope) : (t.get scope).Inv := by
  by_cases hscope : scopeFor event.key = scope
  · subst hscope
    exact Scoped.inv_step (hs _) (step_get h)
  · rw [step_other h hscope]
    exact hs scope

theorem map_step_get {alone : ScopeFence Scope V}
    (h : alone.get (scopeFor event.key) = s.get (scopeFor event.key)) :
    (step scopeFor alone event).map (fun t => t.get (scopeFor event.key))
      = (step scopeFor s event).map (fun t => t.get (scopeFor event.key)) := by
  rw [step, step, Option.map_map, Option.map_map, h]
  congr 1
  funext entries
  simp

def ofScope (scopeFor : Key → Scope) (scope : Scope) (events : List (Event Key V)) :
    List (Event Key V) :=
  events.filter fun event => scopeFor event.key = scope

theorem alone_run {alone : ScopeFence Scope V} {events : List (Event Key V)}
    (hget : alone.get scope = s.get scope) (h : events.foldlM (step scopeFor) s = some t) :
    ∃ last, (ofScope scopeFor scope events).foldlM (step scopeFor) alone = some last
      ∧ last.get scope = t.get scope := by
  induction events generalizing s alone with
  | nil => exact ⟨alone, rfl, Option.some.inj h ▸ hget⟩
  | cons event events ih =>
    rw [List.foldlM_cons] at h
    obtain ⟨next, hnext, hrest⟩ := Option.bind_eq_some_iff.mp h
    by_cases hscope : scopeFor event.key = scope
    · subst hscope
      have hmap := map_step_get hget
      rw [hnext, Option.map_some, Option.map_eq_some_iff] at hmap
      obtain ⟨aloneNext, haloneNext, hgetNext⟩ := hmap
      obtain ⟨last, hlast, hlastGet⟩ := ih hgetNext hrest
      refine ⟨last, ?_, hlastGet⟩
      rw [ofScope, List.filter_cons_of_pos (by simp), List.foldlM_cons, haloneNext]
      exact hlast
    · have hgetNext : alone.get scope = next.get scope := hget.trans (step_other hnext hscope).symm
      obtain ⟨last, hlast, hlastGet⟩ := ih hgetNext hrest
      refine ⟨last, ?_, hlastGet⟩
      rw [ofScope, List.filter_cons_of_neg (by simpa using hscope)]
      exact hlast

/-- In every run of the fence, each scope has one body at a time, clears behind its runs and
resolves no retired run; and each scope, what its calls are told and what can happen next for it,
is as if no other scope had been called. -/
theorem scopes_fenced {events : List (Event Key V)}
    (h : events.foldlM (step scopeFor) initial = some s) (scope : Scope) :
    (s.get scope).Fenced
      ∧ ∃ alone, (ofScope scopeFor scope events).foldlM (step scopeFor) initial = some alone
        ∧ alone.get scope = s.get scope
        ∧ ∀ event, scopeFor event.key = scope →
          (step scopeFor alone event).map (fun t => t.get scope)
            = (step scopeFor s event).map (fun t => t.get scope) := by
  constructor
  · have hinv : ∀ scope, (s.get scope).Inv :=
      foldlM_invariant (s := initial)
        (J := fun s : ScopeFence Scope V => ∀ scope, (s.get scope).Inv) (fun _ _ _ hs hstep => inv_step hs hstep) (fun _ => Scoped.inv_initial) h
    exact (hinv scope).fenced
  · have hsame : (initial : ScopeFence Scope V).get scope = initial.get scope := rfl
    obtain ⟨alone, halone, hget⟩ := alone_run hsame h
    refine ⟨alone, halone, hget, ?_⟩
    rintro event rfl
    exact map_step_get hget

/-- A clear called while a run of its scope executes, beside a run of another scope. -/
def clearedWhileRunning : List (Event String Nat) :=
  [⟨"a", .run⟩, ⟨"a", .start 0⟩, ⟨"b", .run⟩, ⟨"a", .clear⟩, ⟨"b", .start 0⟩, ⟨"a", .finish 0 (.ok 7)⟩,
    ⟨"b", .finish 0 (.ok 8)⟩, ⟨"a", .settle 0⟩, ⟨"a", .wake 0⟩, ⟨"a", .run⟩, ⟨"b", .settle 0⟩]

theorem scopes_fenced_clearedWhileRunning :
    ∃ s, clearedWhileRunning.foldlM (step id) initial = some s
      ∧ (s.get "a").log = [.refused "A draft operation is already in progress",
          .rejected 0 Scoped.staleMessage, .cleared, .began 0]
      ∧ (s.get "b").log = [.resolved 0 8, .began 0]
      ∧ (s.get "a").Fenced := by
  have hlogs : (clearedWhileRunning.foldlM (step id) initial).map
      (fun s => ((s.get "a").log, (s.get "b").log))
      = some ([.refused "A draft operation is already in progress",
          .rejected 0 Scoped.staleMessage, .cleared, .began 0], [.resolved 0 8, .began 0]) := by
    decide +kernel
  obtain ⟨s, hs, hlog⟩ := Option.map_eq_some_iff.mp hlogs
  obtain ⟨ha, hb⟩ := Prod.mk.inj hlog
  exact ⟨s, hs, ha, hb, (scopes_fenced hs "a").1⟩

end ScopeFence

end Fence

end FormspecWeb.Signing
