import FormspecWeb.Async.History
import FormspecWeb.Async.Steps
import FormspecWeb.OfflineSubmit.StubOfflineSubmitQueue

/-!
# Integrity of the offline submit queue

A pending entry is the one that `enqueue` made, and stays until the transport has accepted it, as long
as no submission succeeds whose key has been taken by a later entry, and no handoff changes while it
is pending. A success removes what its key stands for, and a handoff is submitted as it is then.
-/

namespace FormspecWeb.OfflineSubmit

open Shared Async

variable {Handoff Confirmation Fault : Type} {w next : World Handoff Confirmation Fault}

namespace World

def Submits (w : World Handoff Confirmation Fault) (n : Nat) (call : Replaying Confirmation Fault) : Prop :=
  w.replays[n]? = some (Replay.submitting call)

/-- No call of `replay` is running. -/
def Idle (w : World Handoff Confirmation Fault) : Prop := ∀ n call, ¬ w.Submits n call

structure Integrity (w : World Handoff Confirmation Fault) : Prop where
  sameKeys : w.queue.byKey.map (·.1) = w.queue.order
  once : w.queue.order.Nodup
  ownKeys : w.queue.pending.map (·.idempotencyKey) = w.queue.order
  firstEnqueued : (w.queue.pending.map (·.id)).Pairwise (· < ·)
  submitted : ∀ submission ∈ w.submissions, (submission.entry, submission.handoff) ∈ w.enqueued
    ∧ submission.idempotencyKey = submission.entry.idempotencyKey
  kept : ∀ entry handoff, (entry, handoff) ∈ w.enqueued →
    entry ∈ w.queue.pending ∨ entry.id ∈ w.accepted
  unaccepted : w.Idle → ∀ entry ∈ w.queue.pending, entry.id ∉ w.accepted

end World

/-- No success finds a later entry under its key, and no pending handoff changes. -/
def Undisturbed (w : World Handoff Confirmation Fault) : Event Handoff Confirmation Fault → Prop
  | .resume n => ∀ call confirmation, w.Submits n call → call.answer = some (.ok confirmation) →
        ∀ entry, w.queue.byKey.lookup call.key = some entry → entry = call.entry
  | .write handoff value => ∀ entry ∈ w.queue.pending, entry.handoff = handoff →
      value = w.objects handoff
  | _ => True

/-! ## The invariant -/

/-- An entry that `enqueue` made, under its number. -/
def Made (w : World Handoff Confirmation Fault) (entry : QueuedSubmit) : Prop :=
  ∃ handoff, w.enqueued[entry.id]? = some (entry, handoff)

structure Invariant (w : World Handoff Confirmation Fault) : Prop where
  sameKeys : w.queue.byKey.map (·.1) = w.queue.order
  once : w.queue.order.Nodup
  stored : ∀ p ∈ w.queue.byKey, p.2.idempotencyKey = p.1 ∧ Made w p.2
  ascending : (w.queue.byKey.map (·.2.id)).Pairwise (· < ·)
  running : ∀ n call, w.Submits n call → call.entry.idempotencyKey = call.key ∧ Made w call.entry
  answered : ∀ n call confirmation, w.Submits n call →
    call.answer = some (.ok confirmation) → call.entry.id ∈ w.accepted
  acceptedMade : ∀ i ∈ w.accepted, i < w.enqueued.length
  /-- An accepted entry is pending only while the call that submitted it has not gone on. -/
  claimed : ∀ p ∈ w.queue.byKey, p.2.id ∈ w.accepted →
    ∃ n call confirmation, w.Submits n call ∧ call.entry = p.2 ∧ call.answer = some (.ok confirmation)

structure Faithful (w : World Handoff Confirmation Fault) : Prop where
  held : ∀ p ∈ w.queue.byKey, (p.2, w.objects p.2.handoff) ∈ w.enqueued
  submitted : ∀ submission ∈ w.submissions, (submission.entry, submission.handoff) ∈ w.enqueued
    ∧ submission.idempotencyKey = submission.entry.idempotencyKey
  kept : ∀ entry handoff, (entry, handoff) ∈ w.enqueued →
    (entry.idempotencyKey, entry) ∈ w.queue.byKey ∨ entry.id ∈ w.accepted

theorem Invariant.keys_nodup (h : Invariant w) : (w.queue.byKey.map (·.1)).Nodup :=
  h.sameKeys ▸ h.once

theorem Invariant.pending_eq (h : Invariant w) : w.queue.pending = w.queue.byKey.map (·.2) := by
  rw [StubOfflineSubmitQueue.pending, ← h.sameKeys]
  exact filterMap_lookup h.keys_nodup

variable {entry : QueuedSubmit}

theorem mem_pending (h : Invariant w) :
    entry ∈ w.queue.pending ↔ ∃ key, (key, entry) ∈ w.queue.byKey := by
  rw [h.pending_eq, List.mem_map]
  constructor
  · rintro ⟨p, hp, rfl⟩
    exact ⟨p.1, hp⟩
  · rintro ⟨key, hp⟩
    exact ⟨_, hp, rfl⟩

theorem integrity_of_invariant (h : Invariant w) (hf : Faithful w) : w.Integrity where
  __ := h
  ownKeys := by
    rw [h.pending_eq, ← h.sameKeys, List.map_map]
    exact List.map_congr_left fun p hp => (h.stored p hp).1
  firstEnqueued := by
    rw [h.pending_eq, List.map_map]
    exact h.ascending
  submitted := hf.submitted
  kept := by
    intro entry handoff hmade
    rcases hf.kept entry handoff hmade with hstored | haccepted
    · exact Or.inl ((mem_pending h).mpr ⟨_, hstored⟩)
    · exact Or.inr haccepted
  unaccepted := by
    intro hidle entry hentry haccepted
    obtain ⟨key, hp⟩ := (mem_pending h).mp hentry
    obtain ⟨n, call, confirmation, hcall, -, -⟩ := h.claimed _ hp haccepted
    exact hidle n call hcall

theorem start_invariant (objects : Nat → Handoff) :
    Invariant (World.start objects : World Handoff Confirmation Fault) where
  sameKeys := rfl
  once := List.nodup_nil
  stored := by intro p hp; cases hp
  ascending := List.Pairwise.nil
  running := by intro n call h; cases h
  answered := by intro n call confirmation h; cases h
  acceptedMade := by intro i hi; cases hi
  claimed := by intro p hp; cases hp

theorem start_faithful (objects : Nat → Handoff) :
    Faithful (World.start objects : World Handoff Confirmation Fault) where
  held := by intro p hp; cases hp
  submitted := by intro submission h; cases h
  kept := by intro entry handoff h; cases h

variable {call : Replaying Confirmation Fault}

variable {queue : StubOfflineSubmitQueue}

theorem next_submitting {keys : List String}
    {outcomes : List (ReplayOutcome Confirmation Fault)}
    (h : queue.next outcomes keys = .submitting call) :
    (call.key, call.entry) ∈ queue.byKey ∧ call.answer = none := by
  induction keys with
  | nil => cases h
  | cons key rest ih =>
    rw [StubOfflineSubmitQueue.next] at h
    split at h
    · exact ih h
    · next entry hentry =>
      cases h
      exact ⟨mem_of_lookup hentry, rfl⟩

theorem submitted_faithful {keys : List String}
    {outcomes : List (ReplayOutcome Confirmation Fault)} {submission : Submission Handoff}
    (hheld : ∀ p ∈ queue.byKey, (p.2, w.objects p.2.handoff) ∈ w.enqueued)
    (h : submission ∈ w.submitted (queue.next outcomes keys)) :
    (submission.entry, submission.handoff) ∈ w.enqueued
      ∧ submission.idempotencyKey = submission.entry.idempotencyKey := by
  cases hnext : queue.next outcomes keys with
  | ended found =>
    rw [hnext] at h
    cases h
  | submitting call =>
    rw [hnext, World.submitted, List.mem_singleton] at h
    obtain ⟨hstored, -⟩ := next_submitting hnext
    subst h
    exact ⟨hheld _ hstored, rfl⟩

/-! ## Steps -/

theorem Made.append {made : QueuedSubmit × Handoff}
    (h : Made w entry) : Made { w with queue, enqueued := w.enqueued ++ [made] } entry := by
  obtain ⟨handoff, hmade⟩ := h
  exact ⟨handoff, getElem?_concat_of hmade⟩

theorem Made.lt (h : Made w entry) : entry.id < w.enqueued.length := by
  obtain ⟨handoff, hmade⟩ := h
  exact (List.getElem?_eq_some_iff.mp hmade).1

theorem enqueue_cases (w : World Handoff Confirmation Fault) (handoff : Nat) (key : String)
    (now : Except Fault String) : (w.enqueue handoff key now).2 = w
      ∨ ∃ enqueuedAt, w.queue.byKey.lookup key = none ∧ (w.enqueue handoff key now).2 = { w with
          queue := ⟨w.queue.order ++ [key],
            w.queue.byKey ++ [(key, ⟨w.enqueued.length, key, handoff, enqueuedAt⟩)]⟩
          enqueued := w.enqueued ++ [(⟨w.enqueued.length, key, handoff, enqueuedAt⟩, w.objects handoff)] } := by
  unfold World.enqueue
  split
  · exact Or.inl rfl
  split
  · exact Or.inl rfl
  · next hnone =>
    split
    · exact Or.inl rfl
    · next enqueuedAt =>
      refine Or.inr ⟨enqueuedAt, hnone, ?_⟩
      simp only [StubOfflineSubmitQueue.add, setEntry_of_lookup hnone]

variable {key : String}

theorem key_notMem (h : Invariant w) (hnone : w.queue.byKey.lookup key = none) :
    key ∉ w.queue.order := by
  rw [← h.sameKeys]
  intro hmem
  obtain ⟨p, hp, rfl⟩ := List.mem_map.mp hmem
  have hne := List.lookup_eq_none_iff.mp hnone p hp
  simp at hne

theorem enqueue_invariant (h : Invariant w) {handoff : Nat} {now : Except Fault String} :
    Invariant (w.enqueue handoff key now).2 := by
  obtain heq | ⟨enqueuedAt, hnone, heq⟩ := enqueue_cases w handoff key now
  · rw [heq]
    exact h
  rw [heq]
  constructor
  case sameKeys => simp [h.sameKeys]
  case once =>
    rw [List.nodup_append]
    refine ⟨h.once, by simp, ?_⟩
    intro other hother new hnew
    rw [List.mem_singleton.mp hnew]
    rintro rfl
    exact key_notMem h hnone hother
  case stored =>
    intro p hp
    rcases List.mem_append.mp hp with hold | hnew
    · exact ⟨(h.stored p hold).1, (h.stored p hold).2.append⟩
    · rw [List.mem_singleton.mp hnew]
      exact ⟨rfl, _, List.getElem?_concat_length⟩
  case ascending =>
    rw [List.map_append, List.pairwise_append]
    refine ⟨h.ascending, List.pairwise_singleton _ _, ?_⟩
    intro i hi j hj
    obtain ⟨p, hp, rfl⟩ := List.mem_map.mp hi
    rw [List.map_singleton, List.mem_singleton] at hj
    rw [hj]
    exact (h.stored p hp).2.lt
  case running =>
    intro n call hcall
    exact ⟨(h.running n call hcall).1, (h.running n call hcall).2.append⟩
  case answered => exact h.answered
  case acceptedMade =>
    intro i hi
    rw [List.length_append]
    exact Nat.lt_add_right 1 (h.acceptedMade i hi)
  case claimed =>
    intro p hp haccepted
    rcases List.mem_append.mp hp with hold | hnew
    · exact h.claimed p hold haccepted
    · rw [List.mem_singleton.mp hnew] at haccepted
      exact absurd (h.acceptedMade _ haccepted) (Nat.lt_irrefl _)

theorem enqueue_faithful (hf : Faithful w) {handoff : Nat} {now : Except Fault String} :
    Faithful (w.enqueue handoff key now).2 := by
  obtain heq | ⟨enqueuedAt, hnone, heq⟩ := enqueue_cases w handoff key now
  · rw [heq]
    exact hf
  rw [heq]
  constructor
  case held =>
    intro p hp
    rcases List.mem_append.mp hp with hold | hnew
    · exact List.mem_append_left _ (hf.held p hold)
    · rw [List.mem_singleton.mp hnew]
      exact List.mem_append_right _ List.mem_cons_self
  case submitted =>
    intro submission hsubmission
    obtain ⟨hmade, hkey⟩ := hf.submitted submission hsubmission
    exact ⟨List.mem_append_left _ hmade, hkey⟩
  case kept =>
    intro entry value hmade
    rcases List.mem_append.mp hmade with hold | hnew
    · exact (hf.kept entry value hold).imp_left (List.mem_append_left _)
    · obtain ⟨rfl, -⟩ := Prod.mk.inj (List.mem_singleton.mp hnew)
      exact Or.inl (List.mem_append_right _ List.mem_cons_self)

variable {n : Nat}

theorem submits_cons {replay : Replay Confirmation Fault} {submissions : List (Submission Handoff)}
    (h : World.Submits { w with replays := w.replays ++ [replay], submissions } n call) :
    w.Submits n call ∨ replay = .submitting call := by
  rcases of_getElem?_concat h with hold | ⟨-, hnew⟩
  · exact Or.inl hold
  · exact Or.inr hnew.symm

theorem begin_invariant (h : Invariant w) : Invariant w.beginReplay := by
  constructor
  case sameKeys => exact h.sameKeys
  case once => exact h.once
  case stored => exact h.stored
  case ascending => exact h.ascending
  case running =>
    intro n call hcall
    rcases submits_cons hcall with hold | hnew
    · exact h.running n call hold
    · exact h.stored _ (next_submitting hnew).1
  case answered =>
    intro n call confirmation hcall hanswer
    rcases submits_cons hcall with hold | hnew
    · exact h.answered n call confirmation hold hanswer
    · rw [(next_submitting hnew).2] at hanswer
      cases hanswer
  case acceptedMade => exact h.acceptedMade
  case claimed =>
    intro p hp haccepted
    obtain ⟨n, call, confirmation, hcall, hrest⟩ := h.claimed p hp haccepted
    exact ⟨n, call, confirmation, getElem?_concat_of hcall, hrest⟩

theorem begin_faithful (hf : Faithful w) : Faithful w.beginReplay := by
  constructor
  case held => exact hf.held
  case submitted =>
    intro submission hsubmission
    rcases List.mem_append.mp hsubmission with hnew | hold
    · exact submitted_faithful hf.held hnew
    · exact hf.submitted submission hold
  case kept => exact hf.kept

variable {found : Except Fault Confirmation}

theorem answer_invariant (h : Invariant w) (hcall : w.Submits n call) (hnone : call.answer = none) :
    Invariant (w.answer n call found) := by
  constructor
  case sameKeys => exact h.sameKeys
  case once => exact h.once
  case stored => exact h.stored
  case ascending => exact h.ascending
  case running =>
    intro m other hother
    rcases of_getElem?_set hother with ⟨rfl, heq⟩ | ⟨-, hold⟩
    · rw [Replay.submitting.inj heq]
      exact h.running m call hcall
    · exact h.running m other hold
  case answered =>
    intro m other confirmation hother hanswer
    rcases of_getElem?_set hother with ⟨rfl, heq⟩ | ⟨-, hold⟩
    · rw [Replay.submitting.inj heq] at hanswer ⊢
      rw [World.answer, Option.some.inj hanswer]
      exact List.mem_cons_self
    · have haccepted := h.answered m other confirmation hold hanswer
      rw [World.answer]
      split
      · exact List.mem_cons_of_mem _ haccepted
      · exact haccepted
  case acceptedMade =>
    intro i hi
    rw [World.answer] at hi
    split at hi
    · rcases List.mem_cons.mp hi with rfl | hold
      · exact (h.running n call hcall).2.lt
      · exact h.acceptedMade i hold
    · exact h.acceptedMade i hi
  case claimed =>
    intro p hp haccepted
    have hkeep : ∀ m other, w.Submits m other → ∀ confirmation, other.answer = some (.ok confirmation) →
        (w.answer n call found).Submits m other := by
      intro m other hother confirmation hanswer
      have hne : n ≠ m := by
        rintro rfl
        obtain rfl := Replay.submitting.inj (Option.some.inj (hcall.symm.trans hother))
        rw [hnone] at hanswer
        cases hanswer
      exact (List.getElem?_set_ne hne).trans hother
    have hold : p.2.id ∈ w.accepted ∨ ∃ confirmation, found = .ok confirmation ∧ p.2.id = call.entry.id := by
      rw [World.answer] at haccepted
      cases found with
      | error error => exact Or.inl haccepted
      | ok confirmation =>
        rcases List.mem_cons.mp haccepted with heq | hold
        · exact Or.inr ⟨confirmation, rfl, heq⟩
        · exact Or.inl hold
    rcases hold with hold | ⟨confirmation, rfl, hid⟩
    · obtain ⟨m, other, confirmation, hother, hentry, hanswer⟩ := h.claimed p hp hold
      exact ⟨m, other, confirmation, hkeep m other hother confirmation hanswer, hentry, hanswer⟩
    · have hlt : n < w.replays.length := (List.getElem?_eq_some_iff.mp hcall).1
      obtain ⟨value, hmade⟩ := (h.running n call hcall).2
      obtain ⟨found, hfound⟩ := (h.stored p hp).2
      rw [hid, hmade] at hfound
      exact ⟨n, _, confirmation, List.getElem?_set_self hlt,
        (Prod.mk.inj (Option.some.inj hfound)).1, rfl⟩

theorem answer_faithful (hf : Faithful w)
    : Faithful (w.answer n call found) := by
  constructor
  case held => exact hf.held
  case submitted => exact hf.submitted
  case kept =>
    intro entry value hmade
    refine (hf.kept entry value hmade).imp_right fun haccepted => ?_
    rw [World.answer]
    split
    · exact List.mem_cons_of_mem _ haccepted
    · exact haccepted

theorem mem_settle {p : String × QueuedSubmit} (hp : p ∈ (queue.settle key found).byKey) :
    p ∈ queue.byKey ∧ (found.isOk = true → p.1 ≠ key) := by
  cases found with
  | error error => exact ⟨hp, nofun⟩
  | ok confirmation => exact (mem_deleteEntry.mp hp).imp_right fun h _ => h

theorem settle_invariant (h : Invariant w) (key : String) (found : Except Fault Confirmation) :
    Invariant { w with queue := w.queue.settle key found } := by
  cases found with
  | error error => exact h
  | ok confirmation =>
    have hold : ∀ p ∈ (w.queue.remove key).byKey, p ∈ w.queue.byKey :=
      fun p hp => (mem_deleteEntry.mp hp).1
    constructor
    case sameKeys =>
      rw [StubOfflineSubmitQueue.settle, StubOfflineSubmitQueue.remove, keys_deleteEntry, h.sameKeys,
        h.once.erase_eq_filter]
    case once => exact h.once.erase key
    case stored => exact fun p hp => h.stored p (hold p hp)
    case ascending =>
      exact h.ascending.sublist (List.Sublist.map _ List.filter_sublist)
    case running => exact h.running
    case answered => exact h.answered
    case acceptedMade => exact h.acceptedMade
    case claimed => exact fun p hp => h.claimed p (hold p hp)

theorem goOn_invariant (h : Invariant w)
    (hcall : w.Submits n call) (hgone : ∀ confirmation, call.answer = some (.ok confirmation) →
      ∀ p ∈ w.queue.byKey, p.2 ≠ call.entry) (keys : List String)
    (outcomes : List (ReplayOutcome Confirmation Fault)) (submissions : List (Submission Handoff)) :
    Invariant { w with replays := w.replays.set n (w.queue.next outcomes keys), submissions } := by
  constructor
  case sameKeys => exact h.sameKeys
  case once => exact h.once
  case stored => exact h.stored
  case ascending => exact h.ascending
  case running =>
    intro m other hother
    rcases of_getElem?_set hother with ⟨-, heq⟩ | ⟨-, hold⟩
    · exact h.stored _ (next_submitting heq.symm).1
    · exact h.running m other hold
  case answered =>
    intro m other confirmation hother hanswer
    rcases of_getElem?_set hother with ⟨-, heq⟩ | ⟨-, hold⟩
    · rw [(next_submitting heq.symm).2] at hanswer
      cases hanswer
    · exact h.answered m other confirmation hold hanswer
  case acceptedMade => exact h.acceptedMade
  case claimed =>
    intro p hp haccepted
    obtain ⟨m, other, confirmation, hother, hentry, hanswer⟩ := h.claimed p hp haccepted
    have hne : n ≠ m := by
      rintro rfl
      obtain rfl := Replay.submitting.inj (Option.some.inj (hcall.symm.trans hother))
      exact hgone confirmation hanswer p hp hentry.symm
    exact ⟨m, other, confirmation, (List.getElem?_set_ne hne).trans hother, hentry, hanswer⟩

theorem resume_invariant (h : Invariant w)
    (hcall : w.Submits n call) (hanswer : call.answer = some found) :
    Invariant (w.resume n call found) := by
  apply goOn_invariant (settle_invariant h call.key found) hcall
  intro confirmation hok p hp heq
  obtain rfl := Option.some.inj (hanswer.symm.trans hok)
  obtain ⟨hold, hne⟩ := mem_settle hp
  apply hne rfl
  rw [← (h.stored p hold).1, heq, (h.running n call hcall).1]

theorem resume_faithful (h : Invariant w) (hf : Faithful w)
    (hcall : w.Submits n call) (hanswer : call.answer = some found)
    (hown : found.isOk = true → ∀ entry, w.queue.byKey.lookup call.key = some entry → entry = call.entry) :
    Faithful (w.resume n call found) := by
  have hheld : ∀ p ∈ (w.queue.settle call.key found).byKey, (p.2, w.objects p.2.handoff) ∈ w.enqueued :=
    fun p hp => hf.held p (mem_settle hp).1
  constructor
  case held => exact hheld
  case submitted =>
    intro submission hsubmission
    rcases List.mem_append.mp hsubmission with hnew | hold
    · exact submitted_faithful hheld hnew
    · exact hf.submitted submission hold
  case kept =>
    intro entry value hmade
    rcases hf.kept entry value hmade with hstored | haccepted
    · cases found with
      | error error => exact Or.inl hstored
      | ok confirmation =>
        by_cases hkey : entry.idempotencyKey = call.key
        · have hfound := lookup_of_mem h.keys_nodup hstored
          rw [hkey] at hfound
          rw [hown rfl entry hfound]
          exact Or.inr (h.answered n call confirmation hcall hanswer)
        · exact Or.inl (mem_deleteEntry.mpr ⟨hstored, hkey⟩)
    · exact Or.inr haccepted

theorem write_faithful (h : Invariant w) (hf : Faithful w) {handoff : Nat} {value : Handoff}
    (hsame : ∀ entry ∈ w.queue.pending, entry.handoff = handoff → value = w.objects handoff) :
    Faithful { w with objects := Function.update w.objects handoff value } := by
  constructor
  case held =>
    intro p hp
    have hobject : Function.update w.objects handoff value p.2.handoff = w.objects p.2.handoff := by
      by_cases hown : p.2.handoff = handoff
      · rw [hown, Function.update_self, hsame p.2 ((mem_pending h).mpr ⟨p.1, hp⟩) hown]
      · exact Function.update_of_ne hown _ _
    show (p.2, Function.update w.objects handoff value p.2.handoff) ∈ w.enqueued
    rw [hobject]
    exact hf.held p hp
  case submitted => exact hf.submitted
  case kept => exact hf.kept

/-! ## Runs -/

variable {event : Event Handoff Confirmation Fault}

theorem step_cases (h : step w event = some next) :
    (∃ handoff key now, event = .enqueue handoff key now ∧ next = (w.enqueue handoff key now).2)
      ∨ (event = .replay ∧ next = w.beginReplay)
      ∨ (∃ n call found, event = .answer n found ∧ w.Submits n call ∧ call.answer = none
          ∧ next = w.answer n call found)
      ∨ (∃ n call found, event = .resume n ∧ w.Submits n call ∧ call.answer = some found
          ∧ next = w.resume n call found)
      ∨ (∃ handoff value, event = .write handoff value
          ∧ next = { w with objects := Function.update w.objects handoff value }) := by
  cases event with
  | enqueue handoff key now => exact Or.inl ⟨handoff, key, now, rfl, (Option.some.inj h).symm⟩
  | replay => exact Or.inr (Or.inl ⟨rfl, (Option.some.inj h).symm⟩)
  | answer n found =>
    rw [step] at h
    split at h
    · next call hcall =>
      obtain ⟨hnone, heq⟩ := Option.ite_none_left_eq_some.mp h
      rw [Option.not_isSome_iff_eq_none] at hnone
      exact Or.inr (Or.inr (Or.inl ⟨n, call, found, rfl, hcall, hnone, (Option.some.inj heq).symm⟩))
    · cases h
  | resume n =>
    rw [step] at h
    split at h
    · next call hcall =>
      obtain ⟨found, hfound, heq⟩ := Option.map_eq_some_iff.mp h
      exact Or.inr (Or.inr (Or.inr (Or.inl ⟨n, call, found, rfl, hcall, hfound, heq.symm⟩)))
    · cases h
  | write handoff value =>
    exact Or.inr (Or.inr (Or.inr (Or.inr ⟨handoff, value, rfl, (Option.some.inj h).symm⟩)))

theorem step_invariant (h : Invariant w) (hstep : step w event = some next) : Invariant next := by
  obtain ⟨handoff, key, now, -, rfl⟩ | ⟨-, rfl⟩ | ⟨n, call, found, -, hcall, hnone, rfl⟩
    | ⟨n, call, found, -, hcall, hanswer, rfl⟩ | ⟨handoff, value, -, rfl⟩ := step_cases hstep
  · exact enqueue_invariant h
  · exact begin_invariant h
  · exact answer_invariant h hcall hnone
  · exact resume_invariant h hcall hanswer
  · exact { h with }

theorem step_faithful (h : Invariant w) (hf : Faithful w)
    (hundisturbed : Undisturbed w event) (hstep : step w event = some next) : Faithful next := by
  obtain ⟨handoff, key, now, -, rfl⟩ | ⟨-, rfl⟩ | ⟨n, call, found, -, hcall, hnone, rfl⟩
    | ⟨n, call, found, rfl, hcall, hanswer, rfl⟩ | ⟨handoff, value, rfl, rfl⟩ := step_cases hstep
  · exact enqueue_faithful hf
  · exact begin_faithful hf
  · exact answer_faithful hf
  · apply resume_faithful h hf hcall hanswer
    intro hok
    cases found with
    | error error => cases hok
    | ok confirmation => exact hundisturbed call confirmation hcall hanswer
  · exact write_faithful h hf hundisturbed

/-- The queue keeps its integrity in every run of undisturbed events. -/
theorem queue_integrity {objects : Nat → Handoff} {events : List (Event Handoff Confirmation Fault)}
    {states : List (World Handoff Confirmation Fault)}
    (h : statesOf step (World.start objects) events = some states)
    (hundisturbed : EveryStep step Undisturbed (World.start objects) events) :
    ∀ reached ∈ states, reached.Integrity := by
  have hinvariant : ∀ reached ∈ states, Invariant reached ∧ Faithful reached :=
    statesOf_invariant (fun s event t hs hP ht => ⟨step_invariant hs.1 ht, step_faithful hs.1 hs.2 hP ht⟩)
      ⟨start_invariant objects, start_faithful objects⟩ hundisturbed h
  intro reached hreached
  obtain ⟨hr, hf⟩ := hinvariant reached hreached
  exact integrity_of_invariant hr hf

/-- Two calls of `replay` submit the entry of a key. One succeeds, and the key is enqueued again before
the other succeeds, which removes the later entry. -/
def overtaken : List (Event Nat Unit Unit) :=
  [.enqueue 0 "01890a5d-ac96-774b-bcce-b302099a8057" (.ok "2026-01-01T00:00:00.000Z"), .replay, .replay,
    .answer 0 (.ok ()), .resume 0,
    .enqueue 1 "01890a5d-ac96-774b-bcce-b302099a8057" (.ok "2026-01-01T00:00:01.000Z"),
    .answer 1 (.ok ()), .resume 1]

/-- The later entry has left the queue, and was never submitted. -/
theorem overtaken_loses_entry : ∃ states, statesOf step (World.start fun n => n) overtaken = some states
    ∧ ∃ reached ∈ states, ¬ reached.Integrity := by
  refine ⟨_, rfl, _, List.mem_of_getElem? (i := 8) rfl, fun h => ?_⟩
  have hkept := h.kept ⟨1, "01890a5d-ac96-774b-bcce-b302099a8057", 1, "2026-01-01T00:00:01.000Z"⟩ 1 (by decide)
  revert hkept
  decide

/-- A call of `replay` that submits what was enqueued, and goes on behind it. -/
theorem queue_integrity_of_replay : ∃ states, statesOf step (World.start fun n => n)
      (overtaken.take 5) = some states ∧ ∀ reached ∈ states, reached.Integrity := by
  have hresume : ∀ s, (overtaken.take 4).foldlM step (World.start fun n => n) = some s →
      Undisturbed s (.resume 0) := by
    intro s hs call confirmation hcall hanswer entry hentry
    cases hs
    cases hcall
    exact (Option.some.inj hentry).symm
  have hundisturbed : EveryStep step Undisturbed (World.start fun n => n) (overtaken.take 5) := by
    apply everyStep_step rfl trivial
    apply everyStep_step rfl trivial
    apply everyStep_step rfl trivial
    apply everyStep_step rfl trivial
    exact everyStep_step rfl (hresume _ rfl) trivial
  obtain ⟨states, hstates⟩ : ∃ states, statesOf step (World.start fun n => n) (overtaken.take 5)
      = some states := ⟨_, rfl⟩
  exact ⟨states, hstates, queue_integrity hstates hundisturbed⟩

end FormspecWeb.OfflineSubmit
