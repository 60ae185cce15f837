import Mathlib.Algebra.Order.BigOperators.Group.List
import Mathlib.Algebra.Order.Ring.Nat
import Mathlib.Data.List.Perm.Basic

/-!
# Work lists

A loop that pops an item off a stack, keeps what it finds at it and pushes what lies under it.
Whatever order the items are pushed in, the same things are found (`run_perm`).
-/

namespace FormspecWeb.Shared

structure Walk (α β : Type) where
  found : α → List β
  /-- What is pushed when an item is popped, the top of the stack first. -/
  pushed : α → List α
  size : α → Nat
  shrinks : ∀ a, ((pushed a).map size).sum < size a

namespace Walk

variable {α β : Type}

def work (w : Walk α β) (pending : List α) : Nat := (pending.map w.size).sum

/-- The loop, with the top of the stack first, for as long as the fuel lasts. -/
def runFor (w : Walk α β) : Nat → List α → List β → List β
  | _, [], found => found
  | 0, _ :: _, found => found
  | fuel + 1, item :: rest, found => w.runFor fuel (w.pushed item ++ rest) (found ++ w.found item)

/-- The loop: every pass leaves less work, so that the work there is lasts to its end. -/
def run (w : Walk α β) (pending : List α) (found : List β) : List β :=
  w.runFor (w.work pending) pending found

section

variable (w : Walk α β)
include w

theorem work_step (item : α) (rest : List α) :
    w.work (w.pushed item ++ rest) < w.work (item :: rest) := by
  have h := w.shrinks item
  rw [work, work, List.map_append, List.sum_append, List.map_cons, List.sum_cons]
  omega

theorem runFor_enough (fuel : Nat) (pending : List α) (found : List β)
    (h : w.work pending ≤ fuel) : w.runFor fuel pending found = w.run pending found := by
  induction fuel using Nat.strongRecOn generalizing pending found with
  | ind fuel ih =>
    cases pending with
    | nil => cases fuel <;> rfl
    | cons item rest =>
      have hstep := w.work_step item rest
      obtain ⟨fuel, rfl⟩ : ∃ n, fuel = n + 1 := ⟨fuel - 1, by omega⟩
      obtain ⟨work, hwork⟩ : ∃ n, w.work (item :: rest) = n + 1 :=
        ⟨w.work (item :: rest) - 1, by omega⟩
      rw [run, hwork, runFor, runFor, ih fuel (by omega) _ _ (by omega)]
      by_cases heq : work = fuel
      · rw [heq, ih fuel (by omega) _ _ (by omega)]
      · rw [ih work (by omega) _ _ (by omega)]

@[simp] theorem run_nil (found : List β) : w.run [] found = found := by
  rfl

theorem run_cons (item : α) (rest : List α) (found : List β) :
    w.run (item :: rest) found = w.run (w.pushed item ++ rest) (found ++ w.found item) := by
  have hstep := w.work_step item rest
  obtain ⟨work, hwork⟩ : ∃ n, w.work (item :: rest) = n + 1 :=
    ⟨w.work (item :: rest) - 1, by omega⟩
  rw [run, hwork, runFor]
  exact w.runFor_enough _ _ _ (by omega)

theorem run_induction {motive : List α → Prop} (nil : motive [])
    (cons : ∀ item rest, motive (w.pushed item ++ rest) → motive (item :: rest))
    (pending : List α) : motive pending := by
  induction hn : w.work pending using Nat.strongRecOn generalizing pending with
  | ind n ih =>
    cases pending with
    | nil => exact nil
    | cons item rest =>
      exact cons item rest (ih _ (hn ▸ w.work_step item rest) _ rfl)

/-- The stack is worked off from the top: what lies under `first` waits. -/
theorem run_append (first second : List α) (found : List β) :
    w.run (first ++ second) found = w.run second (w.run first found) := by
  induction first using w.run_induction generalizing found with
  | nil => rw [List.nil_append, run_nil]
  | cons item rest ih =>
    rw [List.cons_append, run_cons, run_cons, ← List.append_assoc, ih]

theorem run_found (pending : List α) (found : List β) :
    w.run pending found = found ++ w.run pending [] := by
  induction pending using w.run_induction generalizing found with
  | nil => rw [run_nil, run_nil, List.append_nil]
  | cons item rest ih =>
    rw [run_cons, ih, run_cons, ih ([] ++ w.found item), List.nil_append, List.append_assoc]

end

def within (w : Walk α β) (item : α) : List β := w.run [item] []

theorem run_eq (w : Walk α β) (pending : List α) (found : List β) :
    w.run pending found = found ++ pending.flatMap w.within := by
  induction pending generalizing found with
  | nil => rw [run_nil, List.flatMap_nil, List.append_nil]
  | cons item rest ih =>
    have hitem : w.run [item] found = found ++ w.within item := w.run_found [item] found
    rw [← List.singleton_append, run_append, hitem, ih, List.singleton_append,
      List.flatMap_cons, List.append_assoc]

theorem within_eq (w : Walk α β) (item : α) :
    w.within item = w.found item ++ (w.pushed item).flatMap w.within := by
  rw [within, run_cons, List.append_nil, List.nil_append, run_eq]

/-- Two walks that find the same at each item and push the same items in some order. -/
structure Agrees (w v : Walk α β) : Prop where
  found : ∀ item, w.found item = v.found item
  pushed : ∀ item, (w.pushed item).Perm (v.pushed item)

theorem Agrees.within_perm {w v : Walk α β} (h : w.Agrees v) (item : α) :
    (w.within item).Perm (v.within item) := by
  induction hn : w.size item using Nat.strongRecOn generalizing item with
  | ind n ih =>
    have hbelow : ∀ below ∈ w.pushed item, (w.within below).Perm (v.within below) := by
      intro below hmem
      have hsize : w.size below ≤ ((w.pushed item).map w.size).sum :=
        List.le_sum_of_mem (List.mem_map_of_mem hmem)
      have hlt := w.shrinks item
      exact ih (w.size below) (by omega) below rfl
    rw [within_eq, within_eq, h.found item]
    apply List.Perm.append_left
    calc
      ((w.pushed item).flatMap w.within).Perm ((w.pushed item).flatMap v.within) :=
        List.Perm.flatMap_left _ hbelow
      List.Perm _ ((v.pushed item).flatMap v.within) := (h.pushed item).flatMap_right _

theorem Agrees.run_perm {w v : Walk α β} (h : w.Agrees v) (pending : List α) :
    (w.run pending []).Perm (v.run pending []) := by
  rw [run_eq, run_eq, List.nil_append, List.nil_append]
  exact List.Perm.flatMap_left _ fun item _ => h.within_perm item

end Walk

end FormspecWeb.Shared
