import FormspecWeb.Payment.StubPaymentRail
import FormspecWeb.Policy.Resolver

/-!
# Submitting with a payment

Authorize, submit, and then capture or void. What the transport answers is a parameter of a
submission.
-/

namespace FormspecWeb.Payment

open Shared Policy

def extractPaymentAmount (definition : FormDefinition) : Option Money := do
  let raw ← definition.extension "x-formspec-payment-amount"
  let amount ← (raw.get? "amountMinorUnits").bind integer?
  if amount < 0 then none
  else return ⟨amount, ← (raw.get? "currency").bind (·.nonEmptyString?)⟩

structure SubmitConfirmation where
  referenceNumber : String
deriving DecidableEq

/-- The answer of `submitTransport.submit(handoff, idempotencyKey)`. -/
abbrev SubmitAnswer := Except Failure SubmitConfirmation

structure SubmitWithPaymentInput where
  runtimeProfile : ResolvedRuntimeProfile
  definition : FormDefinition
  idempotencyKey : String
  methodToken : Option String
  override : RailCall → Option String

inductive SubmitWithPaymentOutcome where
  | submittedWithPayment (confirmation : SubmitConfirmation) (captureReceipt : CaptureReceipt)
  | authorizeFailed (error : Failure)
  | submitFailedPaymentVoided (authorization : Authorization) (error : Failure)
  | voidFailedAfterSubmitFailure (authorization : Authorization) (submitError voidError : Failure)
  | captureFailed (confirmation : SubmitConfirmation) (authorization : Authorization)
      (error : Failure)
deriving DecidableEq

def paymentFallbackMethodToken : String := "demo-method-stub"

def readMethodToken (input : SubmitWithPaymentInput) : Except Failure String :=
  match input.methodToken.filter truthy with
  | some token => .ok token
  | none =>
    match (input.definition.extension "x-formspec-payment-method-token").bind
        (·.nonEmptyString?) with
    | some token => .ok token
    | none =>
      if input.runtimeProfile.mode == .demo then .ok paymentFallbackMethodToken
      else .error ("No payment method token available: caller did not supply `methodToken`, and "
        ++ "the form did not declare extensions[\"x-formspec-payment-method-token\"]. Production "
        ++ "compositions must wire a rail-specific picker UX that provides the token.")

def resolveRailKey (digest : Digest) (input : SubmitWithPaymentInput) (call : RailCall) :
    Except Failure String :=
  match input.override call with
  | some key => do
      assertUuidV7IdempotencyKey key
      return key
  | none => deriveUuidV7FromString digest input.idempotencyKey call

structure RailArguments where
  amount : Money
  methodToken : String
  authorizeKey : String
  captureKey : String
  voidKey : String

def railArguments (digest : Digest) (input : SubmitWithPaymentInput) :
    Except Failure RailArguments := do
  failIf (!input.runtimeProfile.enabled.contains .payment)
    ("submitWithPayment invoked with payment disabled in the resolved profile; route free-form "
      ++ "submits through submitOrQueue.")
  match extractPaymentAmount input.definition with
  | none => .error ("Payment is enabled for this form but extensions[\"x-formspec-payment-amount\"] "
      ++ "is missing or malformed.")
  | some amount => return {
      amount := amount
      methodToken := ← readMethodToken input
      authorizeKey := ← resolveRailKey digest input .authorize
      captureKey := ← resolveRailKey digest input .capture
      voidKey := ← resolveRailKey digest input .void }

def captureOutcome (confirmation : SubmitConfirmation) (authorization : Authorization) :
    Except Failure CaptureReceipt × StubPaymentRail → SubmitWithPaymentOutcome × StubPaymentRail
  | (.ok captureReceipt, rail) => (.submittedWithPayment confirmation captureReceipt, rail)
  | (.error error, rail) => (.captureFailed confirmation authorization error, rail)

def voidOutcome (submitError : Failure) (authorization : Authorization) :
    Except Failure Unit × StubPaymentRail → SubmitWithPaymentOutcome × StubPaymentRail
  | (.ok _, rail) => (.submitFailedPaymentVoided authorization submitError, rail)
  | (.error voidError, rail) =>
    (.voidFailedAfterSubmitFailure authorization submitError voidError, rail)

def settle (arguments : RailArguments) (authorization : Authorization) (answer : SubmitAnswer)
    (rail : StubPaymentRail) : SubmitWithPaymentOutcome × StubPaymentRail :=
  match answer with
  | .error submitError => voidOutcome submitError authorization
      (rail.voidAuthorization authorization arguments.voidKey)
  | .ok confirmation => captureOutcome confirmation authorization
      (rail.capture authorization arguments.captureKey)

def submitWithPayment (digest : Digest) (input : SubmitWithPaymentInput) (answer : SubmitAnswer)
    (rail : StubPaymentRail) : Except Failure (SubmitWithPaymentOutcome × StubPaymentRail) := do
  let arguments ← railArguments digest input
  match rail.authorize arguments.amount arguments.methodToken arguments.authorizeKey with
  | (.error error, rail) => return (.authorizeFailed error, rail)
  | (.ok authorization, rail) => return settle arguments authorization answer rail

structure RailArguments.Valid (arguments : RailArguments) : Prop where
  amount : assertWellFormedMoney arguments.amount = .ok ()
  authorizeKey : isUuidV7IdempotencyKey arguments.authorizeKey = true
  captureKey : isUuidV7IdempotencyKey arguments.captureKey = true
  voidKey : isUuidV7IdempotencyKey arguments.voidKey = true

theorem resolveRailKey_ok {digest : Digest} {input : SubmitWithPaymentInput} {call : RailCall}
    {key : String} (h : resolveRailKey digest input call = .ok key) :
    isUuidV7IdempotencyKey key = true := by
  unfold resolveRailKey at h
  split at h
  · rw [then_ok, assertUuidV7IdempotencyKey, failIf_ok, Bool.not_eq_false'] at h
    obtain ⟨hshape, heq⟩ := h
    exact Except.ok.inj heq ▸ hshape
  · obtain ⟨derived, hderived, hshape⟩ := derive_ok digest input.idempotencyKey call
    exact Except.ok.inj (hderived.symm.trans h) ▸ hshape

theorem extractPaymentAmount_wellFormed {definition : FormDefinition} {amount : Money}
    (h : extractPaymentAmount definition = some amount) : assertWellFormedMoney amount = .ok () := by
  simp only [extractPaymentAmount, Option.bind_eq_bind, Option.bind_eq_some_iff] at h
  obtain ⟨raw, -, units, -, h⟩ := h
  split at h
  · cases h
  · rename_i hunits
    simp only [Option.bind_eq_some_iff] at h
    obtain ⟨currency, hcurrency, heq⟩ := h
    cases heq
    obtain ⟨value, -, hnonEmpty⟩ := hcurrency
    have hnamed : currency ≠ "" := (Value.nonEmptyString_text hnonEmpty).2
    simp only [assertWellFormedMoney, then_ok, failIf_ok]
    exact ⟨decide_eq_false hunits, beq_eq_false_iff_ne.mpr hnamed⟩

theorem railArguments_valid {digest : Digest} {input : SubmitWithPaymentInput}
    {arguments : RailArguments} (h : railArguments digest input = .ok arguments) :
    arguments.Valid := by
  simp only [railArguments, failIf_bind_ok] at h
  obtain ⟨-, h⟩ := h
  split at h
  · cases h
  · rename_i amount hamount
    obtain ⟨token, -, h⟩ := sequence_ok.mp h
    obtain ⟨authorizeKey, hauthorize, h⟩ := sequence_ok.mp h
    obtain ⟨captureKey, hcapture, h⟩ := sequence_ok.mp h
    obtain ⟨voidKey, hvoid, heq⟩ := sequence_ok.mp h
    cases heq
    exact ⟨extractPaymentAmount_wellFormed hamount, resolveRailKey_ok hauthorize,
      resolveRailKey_ok hcapture, resolveRailKey_ok hvoid⟩

end FormspecWeb.Payment
