import FormspecWeb.Payment.OnePayment
import FormspecWeb.Async.Steps

/-!
# Retries of a payment

Attempts of one submission with payment against one rail. An attempt authorizes, waits for the
answer of the transport, and then captures or voids; others may run in between.
-/

namespace FormspecWeb.Payment

open Shared Policy Async

inductive Attempt where
  | rejected (error : Failure)
  | waiting (authorization : Authorization)
  | ended (outcome : SubmitWithPaymentOutcome)
deriving DecidableEq

structure History where
  rail : StubPaymentRail
  attempts : List Attempt
deriving DecidableEq

inductive Event where
  | begin
  | answered (attempt : Nat) (answer : SubmitAnswer)
  /-- `failNextAuthorize`, `failNextCapture` or `failNextVoid`. -/
  | failNext (call : RailCall) (error : Failure)

section

variable (digest : Digest) (input : SubmitWithPaymentInput)

/-- `submitWithPayment` up to its wait for the transport. -/
def beginAttempt (rail : StubPaymentRail) : Attempt × StubPaymentRail :=
  match railArguments digest input with
  | .error error => (.rejected error, rail)
  | .ok arguments =>
    match rail.authorize arguments.amount arguments.methodToken arguments.authorizeKey with
    | (.error error, rail) => (.ended (.authorizeFailed error), rail)
    | (.ok authorization, rail) => (.waiting authorization, rail)

def History.step (history : History) : Event → Option History
  | .begin =>
    let (attempt, rail) := beginAttempt digest input history.rail
    some ⟨rail, history.attempts ++ [attempt]⟩
  | .answered index answer =>
    match history.attempts[index]?, railArguments digest input with
    | some (.waiting authorization), .ok arguments =>
      let (outcome, rail) := settle arguments authorization answer history.rail
      some ⟨rail, history.attempts.set index (.ended outcome)⟩
    | _, _ => none
  | .failNext .authorize error => some { history with rail := history.rail.failNextAuthorize error }
  | .failNext .capture error => some { history with rail := history.rail.failNextCapture error }
  | .failNext .void error => some { history with rail := history.rail.failNextVoid error }

/-- The rail after this many retries that the transport accepts, with nothing else in between. -/
def retried (confirmation : SubmitConfirmation) (rail : StubPaymentRail) : Nat → StubPaymentRail
  | 0 => rail
  | n + 1 =>
    match submitWithPayment digest input (.ok confirmation) rail with
    | .error _ => rail
    | .ok (_, rail) => retried confirmation rail n

def RetryCaptures (confirmation : SubmitConfirmation) (rail : StubPaymentRail)
    (authorization : Authorization) : Prop :=
  ∃ n, (retried digest input confirmation rail n).status authorization.id = some .captured

/-- An attempt the transport accepted is captured, or it reports that the capture failed and a
retry captures it. -/
def Charged (rail : StubPaymentRail) : Attempt → Prop
  | .ended (.submittedWithPayment _ receipt) =>
    rail.status receipt.authorizationId = some .captured
  | .ended (.captureFailed confirmation authorization _) =>
    RetryCaptures digest input confirmation rail authorization
  | _ => True

end

def Attempt.accepted : Attempt → Bool
  | .ended (.submittedWithPayment _ _) | .ended (.captureFailed _ _ _) => true
  | _ => false

def issuedSince (before rail : StubPaymentRail) : List (String × StubAuthorizationState) :=
  rail.states.drop before.states.length

def countOf (status : StubAuthorizationStatus) (entries : List (String × StubAuthorizationState)) :
    Nat :=
  entries.countP (·.2.status == status)

/-- No submission without its charge: the rail keeps the authorizations it had, with the attempts it
has one hold or one capture at most, and what the transport accepted is charged. -/
structure ChargeLaw (digest : Digest) (input : SubmitWithPaymentInput) (before : StubPaymentRail)
    (history : History) : Prop where
  others : before.states <+: history.rail.states
  holds : countOf .authorized (issuedSince before history.rail) ≤ 1
  captures : countOf .captured (issuedSince before history.rail) ≤ 1
  charged : ∀ attempt ∈ history.attempts, Charged digest input history.rail attempt

/-- The transport accepts no attempt whose authorization is voided, and no attempt it refuses voids
the authorization of an attempt it accepted. -/
def Event.Benign (history : History) : Event → Prop
  | .answered index (.ok _) => ∀ authorization,
      history.attempts[index]? = some (.waiting authorization) →
      history.rail.status authorization.id ≠ some .voided
  | .answered index (.error _) => ∀ authorization,
      history.attempts[index]? = some (.waiting authorization) →
      (∃ attempt ∈ history.attempts, attempt.accepted = true) →
      history.rail.status authorization.id = some .captured
        ∨ history.rail.pendingVoidError.isSome = true
  | _ => True

/-! ## Retries of an issued payment -/

variable {digest : Digest} {input : SubmitWithPaymentInput} {before : StubPaymentRail}
  {arguments : RailArguments} {injected : Injected} {status : StubAuthorizationStatus}

section

variable (harguments : railArguments digest input = .ok arguments) (hfresh : Fresh arguments before)
include harguments hfresh

theorem submit_issued (answer : SubmitAnswer) :
    submitWithPayment digest input answer (railWith arguments before status injected)
      = .ok (settle arguments (paymentAuthorization arguments before) answer
        (railWith arguments before status injected)) := by
  simp only [submitWithPayment, harguments, bind, Except.bind,
    authorize_issued (railArguments_valid harguments) hfresh]
  rfl

theorem settle_ok (confirmation : SubmitConfirmation) :
    settle arguments (paymentAuthorization arguments before) (.ok confirmation)
        (railWith arguments before status injected)
      = captureOutcome confirmation (paymentAuthorization arguments before)
        (captureOf arguments before status injected) := by
  rw [settle, capture_issued (railArguments_valid harguments) hfresh]

theorem settle_error (submitError : Failure) :
    settle arguments (paymentAuthorization arguments before) (.error submitError)
        (railWith arguments before status injected)
      = voidOutcome submitError (paymentAuthorization arguments before)
        (voidOf arguments before status injected) := by
  rw [settle, void_issued (railArguments_valid harguments) hfresh]

theorem retried_final (hfinal : status ≠ .authorized)
    (confirmation : SubmitConfirmation) (n : Nat) :
    retried digest input confirmation (railWith arguments before status injected) n
      = railWith arguments before status injected := by
  induction n with
  | zero => rfl
  | succ n ih =>
    rw [retried, submit_issued harguments hfresh, settle_ok harguments hfresh]
    cases status with
    | authorized => exact absurd rfl hfinal
    | captured => exact ih
    | voided => exact ih

theorem retryCaptures_iff (confirmation : SubmitConfirmation) :
    RetryCaptures digest input confirmation (railWith arguments before status injected)
        (paymentAuthorization arguments before)
      ↔ status ≠ .voided := by
  have hcaptured : ∀ found, RetryCaptures digest input confirmation
      (railWith arguments before .captured found) (paymentAuthorization arguments before) :=
    fun found => ⟨0, railWith_status hfresh _ found⟩
  have hretry : ∀ rail after outcome, submitWithPayment digest input (.ok confirmation) rail
        = .ok (outcome, after) →
      RetryCaptures digest input confirmation after (paymentAuthorization arguments before) →
      RetryCaptures digest input confirmation rail (paymentAuthorization arguments before) := by
    rintro rail after outcome hsubmit ⟨n, hn⟩
    refine ⟨n + 1, ?_⟩
    rw [retried, hsubmit]
    exact hn
  cases status with
  | captured => exact iff_of_true (hcaptured injected) (by simp)
  | voided =>
    refine iff_of_false ?_ (by simp)
    rintro ⟨n, hn⟩
    rw [retried_final harguments hfresh (by simp), railWith_status hfresh] at hn
    cases hn
  | authorized =>
    refine iff_of_true ?_ (by simp)
    -- an injected error fails the first retry only
    have hclear : ∀ found : Injected, found.capture = none → RetryCaptures digest input confirmation
        (railWith arguments before .authorized found) (paymentAuthorization arguments before) := by
      rintro ⟨authorize, capture, void⟩ hnone
      obtain rfl : capture = none := hnone
      exact hretry _ _ _ ((submit_issued harguments hfresh _).trans
        (congrArg _ (settle_ok harguments hfresh confirmation))) (hcaptured _)
    obtain ⟨authorize, capture, void⟩ := injected
    cases capture with
    | none => exact hclear _ rfl
    | some error =>
      exact hretry _ _ _ ((submit_issued harguments hfresh _).trans
        (congrArg _ (settle_ok harguments hfresh confirmation)))
        (hclear ⟨authorize, none, void⟩ rfl)

end

def Attempt.Unissued : Attempt → Prop
  | .rejected _ | .ended (.authorizeFailed _) => True
  | _ => False

/-- An attempt at the payment in this status: what it was issued is the authorization of the
payment, and it returned a receipt only if that is captured. -/
def Attempt.Of (arguments : RailArguments) (before : StubPaymentRail)
    (status : StubAuthorizationStatus) : Attempt → Prop
  | .waiting authorization => authorization = paymentAuthorization arguments before
  | .ended (.submittedWithPayment _ receipt) =>
    receipt = paymentReceipt arguments before ∧ status = .captured
  | .ended (.captureFailed _ authorization _) =>
    authorization = paymentAuthorization arguments before
  | _ => True

/-- The payment is not issued, or it is issued and all attempts are at it. -/
inductive Sound (digest : Digest) (input : SubmitWithPaymentInput) (before : StubPaymentRail) :
    History → Prop where
  | unissued {attempts : List Attempt} {injected : Injected} :
      (∀ attempt ∈ attempts, attempt.Unissued) →
      Sound digest input before ⟨railWithout before injected, attempts⟩
  | issued {arguments : RailArguments} {status : StubAuthorizationStatus} {injected : Injected}
      {attempts : List Attempt} : railArguments digest input = .ok arguments →
      (∀ attempt ∈ attempts, attempt.Of arguments before status) →
      Sound digest input before ⟨railWith arguments before status injected, attempts⟩

theorem initial_sound (digest : Digest) (input : SubmitWithPaymentInput) (before : StubPaymentRail) :
    Sound digest input before ⟨before, []⟩ := by
  let injected : Injected :=
    ⟨before.pendingAuthorizeError, before.pendingCaptureError, before.pendingVoidError⟩
  have hsound : Sound digest input before ⟨railWithout before injected, []⟩ := .unissued (by simp)
  exact hsound

theorem Attempt.Unissued.of {attempt : Attempt} (h : attempt.Unissued) :
    attempt.Of arguments before status := by
  match attempt, h with
  | .rejected _, _ => trivial
  | .ended (.authorizeFailed _), _ => trivial

variable {after : StubAuthorizationStatus}

theorem Attempt.Of.later {attempt : Attempt}
    (h : attempt.Of arguments before status) (hafter : status = .captured → after = .captured) :
    attempt.Of arguments before after := by
  match attempt, h with
  | .rejected _, _ => trivial
  | .waiting _, h => exact h
  | .ended (.submittedWithPayment _ _), h => exact ⟨h.1, hafter h.2⟩
  | .ended (.captureFailed _ _ _), h => exact h
  | .ended (.authorizeFailed _), _ => trivial
  | .ended (.submitFailedPaymentVoided _ _), _ => trivial
  | .ended (.voidFailedAfterSubmitFailure _ _ _), _ => trivial

variable {attempts : List Attempt}

theorem law_unissued (h : ∀ attempt ∈ attempts, attempt.Unissued) :
    ChargeLaw digest input before ⟨railWithout before injected, attempts⟩ := by
  have hnone : issuedSince before (railWithout before injected) = [] := List.drop_length
  refine ⟨List.prefix_refl _, by simp [hnone, countOf], by simp [hnone, countOf], ?_⟩
  intro attempt hattempt
  match attempt, h attempt hattempt with
  | .rejected _, _ => trivial
  | .ended (.authorizeFailed _), _ => trivial

theorem charged_iff (harguments : railArguments digest input = .ok arguments)
    (hfresh : Fresh arguments before) {attempt : Attempt} (h : attempt.Of arguments before status) :
    Charged digest input (railWith arguments before status injected) attempt
      ↔ (attempt.accepted = true → status ≠ .voided) := by
  match attempt, h with
  | .rejected _, _ => simp [Charged, Attempt.accepted]
  | .waiting _, _ => simp [Charged, Attempt.accepted]
  | .ended (.authorizeFailed _), _ => simp [Charged, Attempt.accepted]
  | .ended (.submitFailedPaymentVoided _ _), _ => simp [Charged, Attempt.accepted]
  | .ended (.voidFailedAfterSubmitFailure _ _ _), _ => simp [Charged, Attempt.accepted]
  | .ended (.submittedWithPayment _ receipt), ⟨hreceipt, hcaptured⟩ =>
    obtain rfl := hreceipt
    obtain rfl := hcaptured
    exact iff_of_true (railWith_status hfresh _ _) (by simp)
  | .ended (.captureFailed confirmation authorization _), hsame =>
    obtain rfl : authorization = paymentAuthorization arguments before := hsame
    rw [Charged, retryCaptures_iff harguments hfresh]
    simp [Attempt.accepted]

theorem law_issued_iff (harguments : railArguments digest input = .ok arguments)
    (hfresh : Fresh arguments before)
    (h : ∀ attempt ∈ attempts, attempt.Of arguments before status) :
    ChargeLaw digest input before ⟨railWith arguments before status injected, attempts⟩
      ↔ ((∃ attempt ∈ attempts, attempt.accepted = true) → status ≠ .voided) := by
  have hone : issuedSince before (railWith arguments before status injected)
      = [((paymentAuthorization arguments before).id,
        ⟨status, arguments.amount, arguments.methodToken⟩)] := List.drop_left
  have hcount : ∀ counted, countOf counted (issuedSince before
      (railWith arguments before status injected)) ≤ 1 := by
    intro counted
    rw [hone]
    exact List.countP_le_length
  constructor
  · rintro hlaw ⟨attempt, hattempt, haccepted⟩
    exact (charged_iff harguments hfresh (h attempt hattempt)).mp
      (hlaw.charged attempt hattempt) haccepted
  · intro hstatus
    refine ⟨List.prefix_append _ _, hcount .authorized, hcount .captured, fun attempt hattempt => ?_⟩
    exact (charged_iff harguments hfresh (h attempt hattempt)).mpr fun haccepted =>
      hstatus ⟨attempt, hattempt, haccepted⟩

/-! ## Steps -/

variable {index : Nat}

theorem mem_set_attempt {old new : Attempt}
    (hindex : attempts[index]? = some old) (hold : old.accepted = false) :
    (∃ attempt ∈ attempts.set index new, attempt.accepted = true)
      ↔ new.accepted = true ∨ ∃ attempt ∈ attempts, attempt.accepted = true := by
  obtain ⟨hlt, hget⟩ := List.getElem?_eq_some_iff.mp hindex
  constructor
  · rintro ⟨attempt, hattempt, haccepted⟩
    rcases List.mem_or_eq_of_mem_set hattempt with hmem | rfl
    · exact .inr ⟨attempt, hmem, haccepted⟩
    · exact .inl haccepted
  · rintro (hnew | ⟨attempt, hattempt, haccepted⟩)
    · exact ⟨new, List.mem_set hlt new, hnew⟩
    · obtain ⟨position, hposition⟩ := List.mem_iff_getElem?.mp hattempt
      have hne : index ≠ position := by
        rintro rfl
        rw [hindex] at hposition
        rw [Option.some.inj hposition] at hold
        exact absurd haccepted (hold ▸ Bool.false_ne_true)
      refine ⟨attempt, List.mem_iff_getElem?.mpr ⟨position, ?_⟩, haccepted⟩
      rw [List.getElem?_set_ne hne, hposition]

theorem set_of {new : Attempt} (h : ∀ attempt ∈ attempts, attempt.Of arguments before status)
    (hafter : status = .captured → after = .captured) (hnew : new.Of arguments before after) :
    ∀ attempt ∈ attempts.set index new, attempt.Of arguments before after := by
  intro attempt hattempt
  rcases List.mem_or_eq_of_mem_set hattempt with hmem | rfl
  · exact (h attempt hmem).later hafter
  · exact hnew

theorem forall_mem_append_singleton {P : Attempt → Prop} {new : Attempt}
    (h : ∀ attempt ∈ attempts, P attempt) (hnew : P new) :
    ∀ attempt ∈ attempts ++ [new], P attempt := by
  intro attempt hattempt
  rcases List.mem_append.mp hattempt with hmem | hmem
  · exact h attempt hmem
  · exact List.mem_singleton.mp hmem ▸ hnew

/-- What one event leads to: the history stays sound, and where the law held it holds again exactly
if the event is benign. -/
def Leads (digest : Digest) (input : SubmitWithPaymentInput) (before : StubPaymentRail)
    (history : History) (benign : Prop) (next : History) : Prop :=
  Sound digest input before next
    ∧ (ChargeLaw digest input before history → (ChargeLaw digest input before next ↔ benign))

theorem leads_unissued {history : History} (injected : Injected)
    (h : ∀ attempt ∈ attempts, attempt.Unissued) :
    Leads digest input before history True ⟨railWithout before injected, attempts⟩ :=
  ⟨.unissued h, fun _ => iff_of_true (law_unissued h) trivial⟩

theorem leads_same (harguments : railArguments digest input = .ok arguments)
    (hfresh : Fresh arguments before) {attempts later : List Attempt} {found : Injected}
    (h : ∀ attempt ∈ attempts, attempt.Of arguments before status)
    (hlater : ∀ attempt ∈ later, attempt.Of arguments before status)
    (haccepted : (∃ attempt ∈ later, attempt.accepted = true) →
      ∃ attempt ∈ attempts, attempt.accepted = true) :
    Leads digest input before ⟨railWith arguments before status injected, attempts⟩ True
      ⟨railWith arguments before status found, later⟩ := by
  refine ⟨.issued harguments hlater, fun hlaw => iff_of_true ?_ trivial⟩
  exact (law_issued_iff harguments hfresh hlater).mpr fun hsome =>
    (law_issued_iff harguments hfresh h).mp hlaw (haccepted hsome)

theorem begin_leads (hfresh : ∀ arguments, railArguments digest input = .ok arguments →
      Fresh arguments before) {history : History} (hsound : Sound digest input before history) :
    Leads digest input before history True ⟨(beginAttempt digest input history.rail).2,
      history.attempts ++ [(beginAttempt digest input history.rail).1]⟩ := by
  cases harguments : railArguments digest input with
  | error error =>
    cases hsound with
    | unissued hattempts =>
      simp only [beginAttempt, harguments]
      exact leads_unissued _ (forall_mem_append_singleton hattempts trivial)
    | issued hissued _ => cases harguments.symm.trans hissued
  | ok arguments =>
    have hvalid := railArguments_valid harguments
    have hnew := hfresh arguments harguments
    cases hsound with
    | unissued hattempts =>
      rename_i attempts injected
      simp only [beginAttempt, harguments, authorize_unissued hvalid hnew, authorizeOf]
      cases injected.authorize with
      | some error => exact leads_unissued _ (forall_mem_append_singleton hattempts trivial)
      | none =>
        have hof : ∀ attempt ∈ attempts ++ [.waiting (paymentAuthorization arguments before)],
            attempt.Of arguments before .authorized :=
          forall_mem_append_singleton (fun attempt hattempt => (hattempts attempt hattempt).of)
            rfl
        refine ⟨.issued harguments hof, fun _ => iff_of_true ?_ trivial⟩
        exact (law_issued_iff harguments hnew hof).mpr fun _ => by simp
    | issued hissued hattempts =>
      obtain rfl := Except.ok.inj (harguments.symm.trans hissued)
      simp only [beginAttempt, harguments, authorize_issued hvalid hnew]
      refine leads_same harguments hnew hattempts
        (forall_mem_append_singleton hattempts rfl) ?_
      rintro ⟨attempt, hattempt, haccepted⟩
      rcases List.mem_append.mp hattempt with hmem | hmem
      · exact ⟨attempt, hmem, haccepted⟩
      · rw [List.mem_singleton.mp hmem] at haccepted
        cases haccepted

theorem leads_ended (harguments : railArguments digest input = .ok arguments)
    (hfresh : Fresh arguments before) {old new : Attempt} {found : Injected} {benign : Prop}
    (h : ∀ attempt ∈ attempts, attempt.Of arguments before status)
    (hindex : attempts[index]? = some old) (hold : old.accepted = false)
    (hafter : status = .captured → after = .captured) (hnew : new.Of arguments before after)
    (hbenign : ((∃ attempt ∈ attempts, attempt.accepted = true) → status ≠ .voided) →
      ((new.accepted = true ∨ ∃ attempt ∈ attempts, attempt.accepted = true) → after ≠ .voided
        ↔ benign)) :
    Leads digest input before ⟨railWith arguments before status injected, attempts⟩ benign
      ⟨railWith arguments before after found, attempts.set index new⟩ := by
  have hof : ∀ attempt ∈ attempts.set index new, attempt.Of arguments before after :=
    set_of h hafter hnew
  refine ⟨.issued harguments hof, fun hlaw => ?_⟩
  rw [law_issued_iff harguments hfresh hof, mem_set_attempt hindex hold]
  exact hbenign ((law_issued_iff harguments hfresh h).mp hlaw)

theorem benign_accept_iff (hfresh : Fresh arguments before)
    (hindex : attempts[index]? = some (.waiting (paymentAuthorization arguments before)))
    (confirmation : SubmitConfirmation) :
    Event.Benign ⟨railWith arguments before status injected, attempts⟩
        (.answered index (.ok confirmation)) ↔ status ≠ .voided := by
  have hstatus := railWith_status hfresh status injected
  constructor
  · intro hbenign hvoided
    exact hbenign _ hindex (hstatus.trans (congrArg some hvoided))
  · intro hvoided authorization hwaiting hfound
    obtain rfl := Attempt.waiting.inj (Option.some.inj (hwaiting.symm.trans hindex))
    exact hvoided (Option.some.inj (hstatus.symm.trans hfound))

theorem benign_refuse_iff (hfresh : Fresh arguments before)
    (hindex : attempts[index]? = some (.waiting (paymentAuthorization arguments before)))
    (submitError : Failure) :
    Event.Benign ⟨railWith arguments before status injected, attempts⟩
        (.answered index (.error submitError))
      ↔ ((∃ attempt ∈ attempts, attempt.accepted = true) →
        status = .captured ∨ injected.void.isSome = true) := by
  have hstatus := railWith_status hfresh status injected
  constructor
  · intro hbenign haccepted
    rcases hbenign _ hindex haccepted with hcaptured | hinjected
    · exact .inl (Option.some.inj (hstatus.symm.trans hcaptured))
    · exact .inr hinjected
  · intro hcondition authorization hwaiting haccepted
    obtain rfl := Attempt.waiting.inj (Option.some.inj (hwaiting.symm.trans hindex))
    rcases hcondition haccepted with hcaptured | hinjected
    · exact .inl (hstatus.trans (congrArg some hcaptured))
    · exact .inr hinjected

theorem answered_leads (harguments : railArguments digest input = .ok arguments)
    (hfresh : Fresh arguments before)
    (h : ∀ attempt ∈ attempts, attempt.Of arguments before status)
    (hindex : attempts[index]? = some (.waiting (paymentAuthorization arguments before)))
    (answer : SubmitAnswer) :
    Leads digest input before ⟨railWith arguments before status injected, attempts⟩
      (Event.Benign ⟨railWith arguments before status injected, attempts⟩ (.answered index answer))
      ⟨(settle arguments (paymentAuthorization arguments before) answer
          (railWith arguments before status injected)).2,
        attempts.set index (.ended (settle arguments (paymentAuthorization arguments before) answer
          (railWith arguments before status injected)).1)⟩ := by
  obtain ⟨authorize, capture, void⟩ := injected
  cases answer with
  | ok confirmation =>
    rw [benign_accept_iff hfresh hindex, settle_ok harguments hfresh]
    cases status with
    | authorized =>
      cases capture with
      | none => exact leads_ended harguments hfresh h hindex rfl (by simp) ⟨rfl, rfl⟩ (by simp)
      | some error => exact leads_ended harguments hfresh h hindex rfl (by simp) rfl (by simp)
    | captured => exact leads_ended harguments hfresh h hindex rfl (by simp) ⟨rfl, rfl⟩ (by simp)
    | voided =>
      exact leads_ended harguments hfresh h hindex rfl (by simp) rfl fun _ =>
        iff_of_false (fun hnot => hnot (.inl rfl) rfl) fun hnot => hnot rfl
  | error submitError =>
    rw [benign_refuse_iff hfresh hindex, settle_error harguments hfresh]
    cases status with
    | authorized =>
      cases void with
      | none =>
        refine leads_ended harguments hfresh h hindex rfl (by simp) trivial fun _ => ?_
        constructor
        · exact fun hnot hsome => absurd rfl (hnot (.inr hsome))
        · rintro hnot (hnew | hsome)
          · cases hnew
          · rcases hnot hsome with hcaptured | hinjected
            · cases hcaptured
            · cases hinjected
      | some error =>
        exact leads_ended harguments hfresh h hindex rfl (by simp) trivial (by simp)
    | captured => exact leads_ended harguments hfresh h hindex rfl (by simp) trivial (by simp)
    | voided =>
      refine leads_ended harguments hfresh h hindex rfl (by simp) trivial fun hnone => ?_
      have hno : ¬∃ attempt ∈ attempts, attempt.accepted = true := fun hsome => hnone hsome rfl
      refine iff_of_true ?_ fun hsome => absurd hsome hno
      rintro (hnew | hsome)
      · cases hnew
      · exact absurd hsome hno

theorem step_leads (hfresh : ∀ arguments, railArguments digest input = .ok arguments →
      Fresh arguments before) {history next : History} {event : Event}
    (hsound : Sound digest input before history)
    (h : history.step digest input event = some next) :
    Leads digest input before history (event.Benign history) next := by
  cases event with
  | begin =>
    cases h
    exact begin_leads hfresh hsound
  | failNext call error =>
    cases hsound with
    | unissued hattempts =>
      rename_i attempts injected
      cases call with
      | authorize =>
        cases h
        exact leads_unissued { injected with authorize := some error } hattempts
      | capture =>
        cases h
        exact leads_unissued { injected with capture := some error } hattempts
      | void =>
        cases h
        exact leads_unissued { injected with void := some error } hattempts
    | issued harguments hattempts =>
      rename_i arguments status injected attempts
      have hsame : ∀ found, Leads digest input before
          ⟨railWith arguments before status injected, attempts⟩ True
          ⟨railWith arguments before status found, attempts⟩ := fun found =>
        leads_same harguments (hfresh arguments harguments) hattempts hattempts id
      cases call with
      | authorize =>
        cases h
        exact hsame { injected with authorize := some error }
      | capture =>
        cases h
        exact hsame { injected with capture := some error }
      | void =>
        cases h
        exact hsame { injected with void := some error }
  | answered index answer =>
    simp only [History.step] at h
    split at h
    · rename_i authorization arguments hindex harguments
      cases h
      cases hsound with
      | unissued hattempts =>
        cases hattempts _ (List.mem_of_getElem? hindex)
      | issued hissued hattempts =>
        obtain rfl := Except.ok.inj (harguments.symm.trans hissued)
        obtain rfl : authorization = _ := hattempts _ (List.mem_of_getElem? hindex)
        exact answered_leads harguments (hfresh _ harguments) hattempts hindex answer
    · cases h

end FormspecWeb.Payment
