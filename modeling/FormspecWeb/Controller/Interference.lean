import FormspecWeb.Controller.Invariant

/-!
# What a move leaves to the other calls

A move of one call keeps everything every other call relies on. Most moves leave
the slots alone (`Rely.of_slots`); a write of the slots needs a call that is
open, which excludes the others, and the busy flag has one holder.
-/

namespace FormspecWeb.Controller

open Ports Engine Async

variable {config : ResponseActionControllerConfig} {F : Schedule} {t u : Nat}
  {s s' : State config}

def KeepsPromises (s s' : State config) : Prop :=
  ∀ p promise, s.promises p = some promise → ∃ promise', s'.promises p = some promise'
    ∧ promise'.role = promise.role ∧ promise'.deliveryId = promise.deliveryId

theorem KeepsPromises.of_eq (h : s'.promises = s.promises) : KeepsPromises s s' :=
  fun p promise hp => ⟨promise, by rw [h]; exact hp, rfl, rfl⟩

theorem settle_keeps {p : Nat} {outcome : Except Failure Outputs} : KeepsPromises s (s.settle p outcome) := by
  intro q promise hq
  by_cases hqp : q = p
  · subst hqp
    exact ⟨{ promise with outcome := some outcome }, by simp [State.settle, hq], rfl, rfl⟩
  · exact ⟨promise, by simpa [State.settle, hqp] using hq, rfl, rfl⟩

variable {e : Entry config}

theorem SameHistory.other {es : List (Entry config)} (hne : t ≠ u)
    (h : e.thread = some t) : SameHistory u es (e :: es) :=
  .cons (by rw [h]; simpa using hne) es

theorem Rely.of_slots (hhistory : SameHistory u s.log s'.log)
    (hinvalidated : s'.invalidated = s.invalidated) (hslots : s'.slots = s.slots)
    (hshown : shownVersions s'.log = shownVersions s.log)
    (hunchecked : uncheckedBy s.log = some u → uncheckedBy s'.log = some u)
    (hheld : ∀ operation, lockedBy s.log = some (u, operation) →
      lockedBy s'.log = some (u, operation) ∧ s'.completionResult = s.completionResult
        ∧ ∀ id, (s'.deliveries id).map Delivery.core = (s.deliveries id).map Delivery.core)
    (hpromises : KeepsPromises s s') : Rely F u s s' where
  history := hhistory
  obsolete h := hinvalidated.trans h
  held operation h := (hheld operation h).1
  completion operation h _ := (hheld operation h).2.1
  delivery role id h _ := (hheld (.action role id) h).2.2 id
  promise := hpromises
  prepared _ _ _ := congrArg Slots.prepared hslots
  window _ h := ⟨hunchecked h, congrArg Slots.saved hslots⟩
  saved _ _ _ _ := ⟨congrArg Slots.saved hslots, fun _ h => .inl (hshown ▸ h)⟩

theorem Rely.of_frame (hframe : Frame s s') (hlog : s'.log = s.log) (hslots : s'.slots = s.slots) :
    Rely F u s s' :=
  .of_slots (hlog ▸ .refl u s.log) hframe.invalidated hslots (by rw [hlog]) (by rw [hlog]; exact id)
    (fun operation h => ⟨hlog ▸ h, hframe.completionResult, hframe.deliveries⟩)
    (.of_eq hframe.promises)

theorem not_held {operation operation' : Operation} (hne : t ≠ u)
    (ht : lockedBy s.log = some (t, operation)) : lockedBy s.log ≠ some (u, operation') := by
  rw [ht]
  rintro ⟨⟩
  exact hne rfl

theorem Exclusive.unique {es : List (Entry config)} (h : Exclusive es) {operation operation' : Operation}
    (ht : (t, operation) ∈ openOperations es) (hu : (u, operation') ∈ openOperations es) : t = u := by
  cases h with
  | idle ho _ => rw [ho] at ht; cases ht
  | locked v op ho _ => simp_all
  | restoring v op ho _ _ => simp_all

theorem clear_none (hclear : F.clear s = true) (hF : F.checkpointsChecked = true) :
    uncheckedBy s.log = none := by
  simpa [Schedule.clear, hF] using hclear

theorem Rely.of_write (hw : Wellformed F s) (hne : t ≠ u)
    (hthread : e.thread = some t) (hlog : s'.log = e :: s.log)
    (hlocked : lockedBy s'.log = lockedBy s.log) (hframe : Frame s s') (hclear : F.clear s = true)
    (hopened : ∃ operation, (t, operation) ∈ openOperations s.log)
    (hkept : F.assentsKept = true → s'.prepared = s.prepared ∨ assenting s.log = []) :
    Rely F u s s' where
  history := hlog ▸ .other hne hthread
  obsolete h := hframe.invalidated.trans h
  held operation h := hlocked ▸ h
  completion _ _ _ := hframe.completionResult
  delivery _ id _ _ := hframe.deliveries id
  promise := KeepsPromises.of_eq hframe.promises
  prepared hF hmem _ := by
    rcases hkept hF with hprepared | hnone
    · exact hprepared
    · rw [hnone] at hmem
      cases hmem
  window hF hwindow := by
    rw [clear_none hclear hF] at hwindow
    cases hwindow
  saved hF operation hmem _ := by
    obtain ⟨operation', hmem'⟩ := hopened
    exact absurd ((hw.exclusive hF).unique hmem' hmem) hne

theorem Rely.publish (hclear : F.clear s = true) (phase : Phase)
    (reason : Option ResponseActionControllerReason) : Rely F u s (s.publish phase reason) where
  history := .cons (by simp [Entry.thread]) s.log
  obsolete h := h
  held _ h := h
  completion _ _ _ := rfl
  delivery _ _ _ _ := rfl
  promise := KeepsPromises.of_eq rfl
  prepared _ _ _ := rfl
  window hF hwindow := by
    rw [clear_none hclear hF] at hwindow
    cases hwindow
  saved _ _ _ _ := by
    refine ⟨rfl, fun version hversion => ?_⟩
    rcases List.mem_append.mp hversion with h | h
    · exact .inr (by simpa [State.currentSnapshot] using h)
    · exact .inl h

theorem Rely.invalidate (hclear : F.clear s = true) : Rely F u s s.invalidate where
  history := .cons (by simp [Entry.thread]) s.log
  obsolete _ := rfl
  held _ h := h
  completion _ _ h := by cases h
  delivery _ _ _ h := by cases h
  promise := KeepsPromises.of_eq rfl
  prepared _ _ h := by cases h
  window hF hwindow := by
    rw [clear_none hclear hF] at hwindow
    cases hwindow
  saved _ _ _ h := by cases h

theorem Marks.uncheckedBy (h : Marks F t s e) (hne : t ≠ u) (hu : uncheckedBy s.log = some u) :
    FormspecWeb.Controller.uncheckedBy (e :: s.log) = some u := by
  cases h with
  | passed evidence _ hwindow =>
    have hother : some u ≠ some t := by simpa using Ne.symm hne
    simp [FormspecWeb.Controller.uncheckedBy, hu, hother]
  | _ => exact hu

theorem Marks.thread (h : Marks F t s e) : e.thread = some t := by
  cases h <;> rfl

theorem Move.rely (h : Move F t s s') (hne : t ≠ u) (hw : Wellformed F s) : Rely F u s s' := by
  cases h with
  | quiet hframe hlog hslots => exact .of_frame hframe hlog hslots
  | learn _ hframe hlog hslots => exact .of_frame hframe hlog hslots
  | publish phase reason hclear => exact .publish hclear phase reason
  | invalidate hclear => exact .invalidate hclear
  | mark e h =>
    refine .of_slots (.other hne h.thread) rfl rfl h.shownVersions
      (h.uncheckedBy hne) (fun operation hu => ?_) (.of_eq rfl)
    exact ⟨(h.lockedBy hw).trans hu, rfl, fun _ => rfl⟩
  | admitCall hashed identity key h =>
    refine .of_slots (.other hne (by rfl)) rfl rfl rfl id (fun operation hu => ?_)
      (fun p promise hp => ?_)
    · rw [h.free] at hu
      cases hu
    · have hp' : p ≠ s.nextObject := by
        rintro rfl
        rw [hw.fresh _ (Nat.le_refl _)] at hp
        cases hp
      exact ⟨promise, by simpa [State.admitCall, hp'] using hp, rfl, rfl⟩
  | hold operation hoperation hfree _ =>
    refine .of_slots (.other hne (by rfl)) rfl rfl rfl id (fun operation' hu => ?_) (.of_eq rfl)
    rw [hfree] at hu
    cases hu
  | unhold operation hheld =>
    refine .of_slots (.other hne (by rfl)) rfl rfl rfl id (fun operation' hu => ?_) (.of_eq rfl)
    exact absurd hu (not_held hne hheld)
  | release role id hheld =>
    refine .of_slots (.other hne (by rfl)) rfl rfl rfl (fun h => h) (fun operation' hu => ?_)
      (.of_eq rfl)
    exact absurd hu (not_held hne hheld)
  | store h =>
    exact .of_write hw hne (by rfl) h.log (by rw [h.log]; rfl) h.frame
      h.clear h.opened h.kept
  | storeUnchecked draft hheld hclear _ _ =>
    obtain ⟨id, -, hopen⟩ := hheld
    exact .of_write hw hne (by rfl) rfl rfl
      ⟨rfl, rfl, rfl, rfl, rfl, rfl, fun _ => rfl, rfl, Nat.le_refl _⟩ hclear ⟨_, hopen⟩
      fun _ => .inl rfl
  | accept id result _ hheld _ =>
    refine .of_slots (.other hne (by rfl)) rfl rfl rfl (fun h => h) (fun operation' hu => ?_)
      (.of_eq rfl)
    exact absurd hu (not_held hne hheld)
  | settle p outcome promise _ _ _ =>
    exact .of_slots (.refl u s.log) rfl rfl rfl (fun h => h)
      (fun operation hu => ⟨hu, rfl, fun _ => rfl⟩) settle_keeps
  | update role id f hheld _ =>
    refine .of_slots (.refl u s.log) rfl rfl rfl (fun h => h) (fun operation' hu => ?_)
      (.of_eq rfl)
    exact absurd hu (not_held hne hheld)
  | keep identity result _ _ _ =>
    exact .of_slots (.refl u s.log) rfl rfl rfl (fun h => h)
      (fun operation hu => ⟨hu, rfl, fun _ => rfl⟩) (.of_eq rfl)

end FormspecWeb.Controller
