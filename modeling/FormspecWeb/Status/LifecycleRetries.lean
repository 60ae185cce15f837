import Mathlib.Data.List.Nodup
import FormspecWeb.Status.StubLifecycleActionClient

/-!
# Attempts of one lifecycle action

A form of the panel is submitted with what it was filled with until one attempt succeeds. Every attempt
draws a key of its own, which is new to the form and to the service. The service may get the request of
an attempt at any time, and again, also behind the attempt's failure in the client.
-/

namespace FormspecWeb.Status

open Shared Async

/-- A call of `submit(action, run)`. -/
structure Attempt where
  request : LifecycleRequest
  key : String
  policy : Option Value
  answer : Option (Except String LifecycleActionReceipt)
  ended : Bool

structure FilledForm where
  caseUrn : String
  caseDecisionReached : Bool
  input : LifecycleInput

structure RetryState where
  panel : LifecyclePanel
  service : StubLifecycleActionClient
  attempts : List Attempt

namespace RetryState

variable (form : FilledForm)

def opened (panel : LifecyclePanel) (service : StubLifecycleActionClient) : RetryState :=
  ⟨panel, service, []⟩

def isFresh (s : RetryState) (key : String) : Bool :=
  isUuidV7IdempotencyKey key && s.attempts.all (fun attempt => attempt.key != key)
    && (s.service.receiptsByKey.lookup key).isNone

def submit (s : RetryState) (key : String) : Option RetryState :=
  (s.panel.request form.caseUrn form.caseDecisionReached form.input).map
    fun (request, _, policy) =>
      { s with
        panel := s.panel.submitting form.input.kind
        attempts := s.attempts ++ [⟨request, key, policy, none, false⟩] }

def serve (s : RetryState) (n : Nat) (attempt : Attempt) (now : String) : RetryState :=
  let served := s.service.submit attempt.request now attempt.key
  { s with
    service := served.2
    attempts := s.attempts.set n { attempt with answer := some served.1 } }

/-- An attempt ends in the client, with an answer or with a failure of its own. -/
def settle (s : RetryState) (n : Nat) (attempt : Attempt)
    (result : Except String LifecycleActionReceipt) : RetryState :=
  { s with
    panel := s.panel.settled form.input.kind attempt.policy result
    attempts := s.attempts.set n { attempt with ended := true } }

inductive Event where
  | submit (key : String)
  | served (attempt : Nat) (now : String)
  | settled (attempt : Nat)
  | failed (attempt : Nat) (message : String)

def step (s : RetryState) : Event → Option RetryState
  | .submit key => if s.isFresh key then s.submit form key else none
  | .served n now => s.attempts[n]?.map fun attempt => s.serve n attempt now
  | .settled n =>
    match s.attempts[n]? with
    | some attempt =>
      if attempt.ended then none else attempt.answer.map (s.settle form n attempt)
    | none => none
  | .failed n message =>
    match s.attempts[n]? with
    | some attempt => if attempt.ended then none else some (s.settle form n attempt (.error message))
    | none => none

/-- The attempts have one key, and there is at most one event more than before. -/
structure RecordedOnce (before : StubLifecycleActionClient) (s : RetryState) : Prop where
  oneKey : ∀ first ∈ s.attempts, ∀ second ∈ s.attempts, first.key = second.key
  oneEvent : s.service.recorded form.caseUrn form.input.kind
    ≤ before.recorded form.caseUrn form.input.kind + 1

/-! ## The invariant -/

def hasReceipt (receipts : List (String × LifecycleActionReceipt)) (key : String) : Bool :=
  (receipts.lookup key).isSome

/-- The service has one event for each key of an attempt that it has a receipt for. -/
structure Inv (before : StubLifecycleActionClient) (s : RetryState) : Prop where
  keys : (s.attempts.map Attempt.key).Nodup
  requests : ∀ attempt ∈ s.attempts, attempt.request.caseUrn = form.caseUrn
    ∧ attempt.request.body.kind = form.input.kind
  counted : s.service.recorded form.caseUrn form.input.kind
    = before.recorded form.caseUrn form.input.kind
      + (s.attempts.map Attempt.key).countP (hasReceipt s.service.receiptsByKey)

variable {form} {before : StubLifecycleActionClient} {s t : RetryState} {n : Nat}
  {attempt after : Attempt}

theorem inv_opened (panel : LifecyclePanel) : (opened panel before).Inv form before where
  keys := List.nodup_nil
  requests _ h := absurd h List.not_mem_nil
  counted := rfl

theorem request_kind {panel : LifecyclePanel} {request : LifecycleRequest} {snapshot : Value}
    {policy : Option Value} (h : panel.request form.caseUrn form.caseDecisionReached form.input
      = some (request, snapshot, policy)) :
    request.caseUrn = form.caseUrn ∧ request.body.kind = form.input.kind := by
  unfold LifecyclePanel.request at h
  split at h
  · rw [Option.ite_none_right_eq_some, Option.some.injEq, Prod.mk.injEq] at h
    obtain ⟨-, rfl, -⟩ := h
    refine ⟨rfl, ?_⟩
    cases form.input <;> rfl
  · cases h

theorem inv_submit {key : String} (hs : s.Inv form before) (hfresh : s.isFresh key = true)
    (h : s.submit form key = some t) : t.Inv form before := by
  obtain ⟨⟨request, snapshot, policy⟩, hrequest, rfl⟩ := Option.map_eq_some_iff.mp h
  simp only [isFresh, Bool.and_eq_true, List.all_eq_true, bne_iff_ne, Option.isNone_iff_eq_none]
    at hfresh
  obtain ⟨⟨-, hnew⟩, hunmet⟩ := hfresh
  constructor
  · rw [List.map_append, List.map_singleton]
    apply List.nodup_append.mpr
    refine ⟨hs.keys, List.nodup_singleton _, fun first hfirst second hsecond => ?_⟩
    obtain ⟨attempt, hattempt, rfl⟩ := List.mem_map.mp hfirst
    rw [List.mem_singleton.mp hsecond]
    exact hnew attempt hattempt
  · intro attempt hattempt
    rcases List.mem_append.mp hattempt with hold | hlast
    · exact hs.requests attempt hold
    · rw [List.mem_singleton.mp hlast]
      exact request_kind hrequest
  · have hlast : hasReceipt s.service.receiptsByKey key = false := by
      rw [hasReceipt, hunmet]
      rfl
    rw [List.map_append, List.map_singleton, List.countP_append, List.countP_singleton, hlast]
    exact hs.counted

theorem keys_set (hattempt : s.attempts[n]? = some attempt) (hkey : after.key = attempt.key) :
    (s.attempts.set n after).map Attempt.key = s.attempts.map Attempt.key := by
  obtain ⟨hlt, rfl⟩ := List.getElem?_eq_some_iff.mp hattempt
  have hmapped : n < (s.attempts.map Attempt.key).length := by simpa using hlt
  have hsame := List.set_getElem_self hmapped
  rw [List.getElem_map] at hsame
  rw [List.map_set, hkey, hsame]

theorem requests_set (hs : s.Inv form before) (hattempt : s.attempts[n]? = some attempt)
    (hrequest : after.request = attempt.request) : ∀ other ∈ s.attempts.set n after,
      other.request.caseUrn = form.caseUrn ∧ other.request.body.kind = form.input.kind := by
  intro other hother
  rcases List.mem_or_eq_of_mem_set hother with hold | rfl
  · exact hs.requests other hold
  · rw [hrequest]
    exact hs.requests attempt (List.mem_of_getElem? hattempt)

theorem inv_settle {result : Except String LifecycleActionReceipt} (hs : s.Inv form before)
    (hattempt : s.attempts[n]? = some attempt) : (s.settle form n attempt result).Inv form before := by
  have hkeys : (s.settle form n attempt result).attempts.map Attempt.key
      = s.attempts.map Attempt.key := keys_set hattempt rfl
  constructor
  · rw [hkeys]
    exact hs.keys
  · exact requests_set hs hattempt rfl
  · rw [hkeys]
    exact hs.counted

theorem countP_setEntry {keys : List String} {key : String} {receipt : LifecycleActionReceipt}
    {receipts : List (String × LifecycleActionReceipt)} (hkeys : keys.Nodup) (hmem : key ∈ keys)
    (hnew : receipts.lookup key = none) :
    keys.countP (hasReceipt (setEntry key receipt receipts)) = keys.countP (hasReceipt receipts) + 1 := by
  have hother : ∀ other, other ≠ key →
      hasReceipt (setEntry key receipt receipts) other = hasReceipt receipts other := by
    intro other hne
    rw [hasReceipt, lookup_setEntry, if_neg (by simpa using hne)]
    rfl
  have hself : hasReceipt (setEntry key receipt receipts) key = true := by
    rw [hasReceipt, lookup_setEntry, if_pos (by simp)]
    rfl
  have hunmet : hasReceipt receipts key = false := by
    rw [hasReceipt, hnew]
    rfl
  induction keys with
  | nil => exact absurd hmem List.not_mem_nil
  | cons first keys ih =>
    obtain ⟨hfirst, hrest⟩ := List.nodup_cons.mp hkeys
    rw [List.countP_cons, List.countP_cons]
    rcases List.mem_cons.mp hmem with rfl | hmem
    · have htail : keys.countP (hasReceipt (setEntry key receipt receipts))
          = keys.countP (hasReceipt receipts) :=
        List.countP_congr fun other hin => by rw [hother other (ne_of_mem_of_not_mem hin hfirst)]
      rw [htail, hself, hunmet]
      rfl
    · have hne : first ≠ key := fun heq => hfirst (heq ▸ hmem)
      rw [ih hrest hmem, hother first hne]
      omega

theorem inv_serve {now : String} (hs : s.Inv form before) (hattempt : s.attempts[n]? = some attempt) :
    (s.serve n attempt now).Inv form before := by
  have hkeys : (s.serve n attempt now).attempts.map Attempt.key = s.attempts.map Attempt.key :=
    keys_set hattempt rfl
  have hmem := List.mem_of_getElem? hattempt
  have happends := s.service.submit_appends attempt.request now attempt.key
  rw [(hs.requests attempt hmem).1, (hs.requests attempt hmem).2] at happends
  constructor
  · rw [hkeys]
    exact hs.keys
  · exact requests_set hs hattempt rfl
  · rw [hkeys]
    change (s.service.submit attempt.request now attempt.key).2.recorded form.caseUrn form.input.kind
      = before.recorded form.caseUrn form.input.kind + (s.attempts.map Attempt.key).countP
        (hasReceipt (s.service.submit attempt.request now attempt.key).2.receiptsByKey)
    rcases happends with ⟨hreceipts, hsame⟩ | ⟨hnew, ⟨receipt, hreceipts⟩, hmore⟩
    · rw [hreceipts, hsame]
      exact hs.counted
    · rw [hreceipts, hmore, countP_setEntry hs.keys (List.mem_map_of_mem hmem) hnew, hs.counted]
      omega

/-! ## Runs -/

theorem inv_step {event : Event} (hs : s.Inv form before) (hstep : step form s event = some t) :
    t.Inv form before := by
  cases event with
  | submit key =>
    rw [step, Option.ite_none_right_eq_some] at hstep
    exact inv_submit hs hstep.1 hstep.2
  | served n now =>
    obtain ⟨attempt, hattempt, rfl⟩ := Option.map_eq_some_iff.mp hstep
    exact inv_serve hs hattempt
  | settled n =>
    rw [step] at hstep
    split at hstep
    · next attempt hattempt =>
        rw [Option.ite_none_left_eq_some] at hstep
        obtain ⟨result, -, rfl⟩ := Option.map_eq_some_iff.mp hstep.2
        exact inv_settle hs hattempt
    · cases hstep
  | failed n message =>
    rw [step] at hstep
    split at hstep
    · next attempt hattempt =>
        rw [Option.ite_none_left_eq_some] at hstep
        exact Option.some.inj hstep.2 ▸ inv_settle hs hattempt
    · cases hstep

/-- In every state of a run, the action is recorded once exactly where it was attempted once. -/
theorem recorded_once_iff {panel : LifecyclePanel} {events : List Event}
    (h : events.foldlM (step form) (opened panel before) = some s) :
    s.RecordedOnce form before ↔ s.attempts.length ≤ 1 := by
  have hinv := foldlM_invariant (fun _ _ _ => inv_step) (inv_opened panel) h
  constructor
  · intro honce
    by_contra hlength
    obtain ⟨first, second, rest, hattempts⟩ : ∃ first second rest,
        s.attempts = first :: second :: rest := by
      match hlist : s.attempts with
      | [] => simp [hlist] at hlength
      | [_] => simp [hlist] at hlength
      | first :: second :: rest => exact ⟨first, second, rest, rfl⟩
    have hkeys := hinv.keys
    rw [hattempts, List.map_cons, List.map_cons, List.nodup_cons] at hkeys
    have hsame := honce.oneKey first (by simp [hattempts]) second (by simp [hattempts])
    exact hkeys.1 (hsame ▸ List.mem_cons_self)
  · intro hlength
    constructor
    · intro first hfirst second hsecond
      match hlist : s.attempts with
      | [] => simp [hlist] at hfirst
      | [only] =>
        rw [hlist, List.mem_singleton] at hfirst hsecond
        rw [hfirst, hsecond]
      | _ :: _ :: _ => simp [hlist] at hlength
    · rw [hinv.counted]
      have hcount : (s.attempts.map Attempt.key).countP (hasReceipt s.service.receiptsByKey)
          ≤ s.attempts.length := by
        rw [← List.length_map (f := Attempt.key)]
        exact List.countP_le_length
      omega

def sampleForm : FilledForm := ⟨"urn:wos:a", false, .withdraw (some "moved") false⟩

def sampleRecord : Value × StubLifecycleActionClient :=
  StubLifecycleActionClient.snapshotFor ⟨⟨[], []⟩, [], [], 0⟩ sampleForm.caseUrn "2026-05-25"

def samplePanel : LifecyclePanel := ⟨.available sampleRecord.1 none, some .withdraw, .idle, 0⟩

def firstKey : String := "01a12800-0000-7000-8000-000000000001"
def secondKey : String := "01a12800-0000-7000-8000-000000000002"

theorem recorded_once_single : ∃ reached,
    [.submit firstKey, .served 0 "2026-05-26", .settled 0].foldlM (step sampleForm)
        (opened samplePanel sampleRecord.2) = some reached
      ∧ reached.RecordedOnce sampleForm sampleRecord.2 := by
  have hrun : [.submit firstKey, .served 0 "2026-05-26", .settled 0].foldlM (step sampleForm)
      (opened samplePanel sampleRecord.2) = some _ := rfl
  exact ⟨_, hrun, (recorded_once_iff hrun).mpr (by decide)⟩

/-- The service records the first attempt, whose answer is lost, and then the second. -/
theorem retry_is_recorded_twice : ∃ reached,
    [.submit firstKey, .served 0 "2026-05-26", .failed 0 "Failed to fetch", .submit secondKey,
        .served 1 "2026-05-26", .settled 1].foldlM (step sampleForm)
        (opened samplePanel sampleRecord.2) = some reached
      ∧ reached.service.recorded sampleForm.caseUrn .withdraw
        = sampleRecord.2.recorded sampleForm.caseUrn .withdraw + 2
      ∧ ¬ reached.RecordedOnce sampleForm sampleRecord.2 := by
  refine ⟨_, rfl, rfl, fun honce => ?_⟩
  have hmost := honce.oneEvent
  exact absurd hmost (by decide)

end RetryState

end FormspecWeb.Status
