import FormspecWeb.Payment.Retries

/-!
# No submission without its charge

When the attempts of one submission keep the law of charges over a whole history.
-/

namespace FormspecWeb.Payment

open Shared Policy Async

variable {digest : Digest} {input : SubmitWithPaymentInput} {before : StubPaymentRail}

/-- In every history of attempts against a rail that served other payments only, no submission is
without its charge, in any state of the rail, exactly where no attempt is accepted on a voided
authorization and no attempt that fails voids the authorization of an accepted one. -/
theorem charge_law_iff (hserved : ∀ arguments, railArguments digest input = .ok arguments →
      Served arguments before) {events : List Event} {histories : List History}
    (h : statesOf (History.step digest input) ⟨before, []⟩ events = some histories) :
    (∀ history ∈ histories, ChargeLaw digest input before history)
      ↔ EveryStep (History.step digest input) Event.Benign ⟨before, []⟩ events := by
  have hfresh := fun arguments harguments => (hserved arguments harguments).fresh
  refine statesOf_good_iff (J := Sound digest input before)
    (fun history event next hsound hstep => ?_) (fun history event next hsound hlaw hstep => ?_)
    (initial_sound digest input before) ?_ h
  · exact (step_leads hfresh hsound hstep).1
  · exact (step_leads hfresh hsound hstep).2 hlaw
  · have hnone : issuedSince before before = [] := List.drop_length
    exact ⟨List.prefix_refl _, by simp [hnone, countOf], by simp [hnone, countOf], by simp⟩

/-! ## Two histories -/

def sampleKey : String := "0190b0f0-0000-7000-8000-000000000001"

def authorizeBytes : List UInt8 :=
  [37, 177, 166, 140, 94, 213, 123, 174, 21, 220, 160, 49, 40, 32, 65, 149,
    248, 38, 134, 206, 23, 114, 26, 113, 254, 0, 196, 0, 141, 69, 93, 43]

def captureBytes : List UInt8 :=
  [230, 197, 118, 123, 62, 34, 100, 209, 4, 75, 253, 87, 87, 184, 236, 215,
    250, 36, 30, 46, 70, 153, 24, 138, 159, 41, 165, 60, 222, 233, 100, 177]

def voidBytes : List UInt8 :=
  [55, 86, 243, 194, 231, 79, 118, 217, 37, 139, 245, 119, 135, 128, 153, 116,
    96, 209, 184, 126, 45, 23, 247, 103, 73, 96, 8, 232, 5, 130, 80, 8]

def sampleDigest : Digest where
  sha256 := fun text =>
    if text = sampleKey ++ ":authorize" then authorizeBytes
    else if text = sampleKey ++ ":capture" then captureBytes
    else if text = sampleKey ++ ":void" then voidBytes
    else List.replicate 32 0
  length := by
    intro text
    split
    · rfl
    split
    · rfl
    · split <;> rfl

def sampleInput : SubmitWithPaymentInput where
  runtimeProfile :=
    { mode := .demo
      enabled := [.payment]
      disabled := []
      limits := fun _ => none
      recordLifecycle := none
      multiParty := none
      safeAddress := none }
  definition :=
    { items := []
      extension := fun
        | "x-formspec-payment-amount" =>
          some (.object [("amountMinorUnits", .number 2500), ("currency", .string "USD")])
        | _ => none }
  idempotencyKey := sampleKey
  methodToken := none
  override := fun _ => none

def sampleArguments : RailArguments where
  amount := ⟨2500, "USD"⟩
  methodToken := "demo-method-stub"
  authorizeKey := uuidText authorizeBytes
  captureKey := uuidText captureBytes
  voidKey := uuidText voidBytes

theorem railArguments_sample : railArguments sampleDigest sampleInput = .ok sampleArguments := by
  rfl

def sampleRail : StubPaymentRail := stubPaymentRailAdapter none

theorem sampleRail_served (arguments : RailArguments) : Served arguments sampleRail := .new none

def confirmed : SubmitConfirmation := ⟨"A-1"⟩

def sampleHistory (status : StubAuthorizationStatus) (attempts : List Attempt) : History :=
  ⟨railWith sampleArguments sampleRail status ⟨none, none, none⟩, attempts⟩

def sampleAuthorization : Authorization := paymentAuthorization sampleArguments sampleRail

theorem sample_begin :
    History.step sampleDigest sampleInput ⟨sampleRail, []⟩ .begin
      = some (sampleHistory .authorized [.waiting sampleAuthorization]) := by
  decide +kernel

theorem sample_refused :
    History.step sampleDigest sampleInput
        (sampleHistory .authorized [.waiting sampleAuthorization]) (.answered 0 (.error "offline"))
      = some (sampleHistory .voided
        [.ended (.submitFailedPaymentVoided sampleAuthorization "offline")]) := by
  decide +kernel

theorem charge_law_iff_refused :
    ∃ histories, statesOf (History.step sampleDigest sampleInput) ⟨sampleRail, []⟩
        [.begin, .answered 0 (.error "offline")] = some histories
      ∧ ∀ history ∈ histories, ChargeLaw sampleDigest sampleInput sampleRail history := by
  have hrun : ∃ histories, statesOf (History.step sampleDigest sampleInput) ⟨sampleRail, []⟩
      [.begin, .answered 0 (.error "offline")] = some histories :=
    ⟨_, statesOf_step sample_begin (statesOf_step sample_refused rfl)⟩
  obtain ⟨histories, hhistories⟩ := hrun
  refine ⟨histories, hhistories,
    (charge_law_iff (fun arguments _ => sampleRail_served arguments) hhistories).mpr ?_⟩
  refine everyStep_step sample_begin trivial (everyStep_step sample_refused ?_ trivial)
  rintro authorization - ⟨attempt, hattempt, haccepted⟩
  obtain rfl := List.mem_singleton.mp hattempt
  cases haccepted

def voidedRetry : List Attempt :=
  [.ended (.submitFailedPaymentVoided sampleAuthorization "offline"),
    .ended (.captureFailed confirmed sampleAuthorization
      "Authorization stub-auth-000001 already voided")]

/-- The retry of a refused attempt is accepted, and its payment can never be captured. -/
theorem voided_retry_uncharged :
    ∃ histories, statesOf (History.step sampleDigest sampleInput) ⟨sampleRail, []⟩
        [.begin, .answered 0 (.error "offline"), .begin, .answered 1 (.ok confirmed)]
        = some histories
      ∧ histories.getLast? = some (sampleHistory .voided voidedRetry)
      ∧ ¬ RetryCaptures sampleDigest sampleInput confirmed
        (sampleHistory .voided voidedRetry).rail sampleAuthorization
      ∧ ¬ ∀ history ∈ histories, ChargeLaw sampleDigest sampleInput sampleRail history := by
  have hbegin : History.step sampleDigest sampleInput (sampleHistory .voided
        [.ended (.submitFailedPaymentVoided sampleAuthorization "offline")]) .begin
      = some (sampleHistory .voided [.ended (.submitFailedPaymentVoided sampleAuthorization "offline"),
        .waiting sampleAuthorization]) := by
    decide +kernel
  have hanswered : History.step sampleDigest sampleInput (sampleHistory .voided
        [.ended (.submitFailedPaymentVoided sampleAuthorization "offline"),
          .waiting sampleAuthorization]) (.answered 1 (.ok confirmed))
      = some (sampleHistory .voided voidedRetry) := by
    decide +kernel
  have hnever : ¬ RetryCaptures sampleDigest sampleInput confirmed
      (sampleHistory .voided voidedRetry).rail sampleAuthorization := fun hretry =>
    (retryCaptures_iff railArguments_sample (sampleRail_served sampleArguments).fresh confirmed).mp
      hretry rfl
  refine ⟨_, statesOf_step sample_begin (statesOf_step sample_refused
    (statesOf_step hbegin (statesOf_step hanswered rfl))), rfl, hnever, fun hlaw => hnever ?_⟩
  have hlast := hlaw (sampleHistory .voided voidedRetry) (by simp)
  exact hlast.charged _ (List.mem_cons_of_mem _ List.mem_cons_self)

end FormspecWeb.Payment
