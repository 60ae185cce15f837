import FormspecWeb.Payment.DerivedKey
import FormspecWeb.Shared.Value

/-!
# The stub payment rail

Holds, captures and releases in memory. A call with a key the rail has met returns what it
returned before.
-/

namespace FormspecWeb.Payment

open Shared

structure Money where
  amountMinorUnits : Int
  currency : String
deriving DecidableEq

structure Authorization where
  id : String
  amount : Money
  railLabel : String
deriving DecidableEq

structure CaptureReceipt where
  authorizationId : String
  amount : Money
  settledTransactionId : String
  railLabel : String
deriving DecidableEq

inductive StubAuthorizationStatus where
  | authorized
  | captured
  | voided
deriving DecidableEq

structure StubAuthorizationState where
  status : StubAuthorizationStatus
  amount : Money
  methodToken : String
deriving DecidableEq

structure StubPaymentRail where
  railLabel : String
  states : List (String × StubAuthorizationState)
  authorizationsByKey : List (String × Authorization)
  capturesByKey : List (String × CaptureReceipt)
  voidsByKey : List String
  nextId : Nat
  pendingAuthorizeError : Option Failure
  pendingCaptureError : Option Failure
  pendingVoidError : Option Failure
deriving DecidableEq

/-- `map.set(key, value)`. -/
def mapSet {α : Type} (entries : List (String × α)) (key : String) (value : α) :
    List (String × α) :=
  spread entries [(key, value)]

def stubPaymentRailAdapter (railLabel : Option String) : StubPaymentRail where
  railLabel := railLabel.getD "Card"
  states := []
  authorizationsByKey := []
  capturesByKey := []
  voidsByKey := []
  nextId := 0
  pendingAuthorizeError := none
  pendingCaptureError := none
  pendingVoidError := none

def assertWellFormedMoney (amount : Money) : Except Failure Unit := do
  failIf (amount.amountMinorUnits < 0)
    ("Money.amountMinorUnits must be non-negative; received " ++ toString amount.amountMinorUnits)
  failIf (amount.currency == "") "Money.currency must be a non-empty ISO-4217 code"

/-- `n.toString().padStart(6, '0')`. -/
def padded (n : Nat) : String :=
  String.ofList (List.replicate (6 - (toString n).length) '0') ++ toString n

def stubAuthorizationId (n : Nat) : String := "stub-auth-" ++ padded n

namespace StubPaymentRail

/-- What a call returns or throws, and the rail after it. -/
abbrev Call (α : Type) := StubPaymentRail → Except Failure α × StubPaymentRail

def status (rail : StubPaymentRail) (id : String) : Option StubAuthorizationStatus :=
  (rail.states.lookup id).map (·.status)

def authorize (amount : Money) (methodToken idempotencyKey : String) : Call Authorization :=
  fun rail =>
    match assertUuidV7IdempotencyKey idempotencyKey >>= fun _ => assertWellFormedMoney amount with
    | .error error => (.error error, rail)
    | .ok _ =>
      match rail.authorizationsByKey.lookup idempotencyKey with
      | some existing => (.ok existing, rail)
      | none =>
        match rail.pendingAuthorizeError with
        | some error => (.error error, { rail with pendingAuthorizeError := none })
        | none =>
          let nextId := rail.nextId + 1
          let authorization := ⟨stubAuthorizationId nextId, amount, rail.railLabel⟩
          (.ok authorization,
            { rail with
              nextId := nextId
              authorizationsByKey :=
                mapSet rail.authorizationsByKey idempotencyKey authorization
              states := mapSet rail.states authorization.id
                ⟨.authorized, amount, methodToken⟩ })

def capture (authorization : Authorization) (idempotencyKey : String) : Call CaptureReceipt :=
  fun rail =>
    match assertUuidV7IdempotencyKey idempotencyKey with
    | .error error => (.error error, rail)
    | .ok _ =>
      match rail.capturesByKey.lookup idempotencyKey with
      | some existing => (.ok existing, rail)
      | none =>
        match rail.states.lookup authorization.id with
        | none => (.error ("Unknown authorization id: " ++ authorization.id), rail)
        | some state =>
          match state.status with
          | .captured =>
            (.error ("Authorization " ++ authorization.id ++ " already captured"), rail)
          | .voided =>
            (.error ("Authorization " ++ authorization.id ++ " already voided"), rail)
          | .authorized =>
            match rail.pendingCaptureError with
            | some error => (.error error, { rail with pendingCaptureError := none })
            | none =>
              let receipt := ⟨authorization.id, authorization.amount,
                "stub-txn-" ++ authorization.id, authorization.railLabel⟩
              (.ok receipt,
                { rail with
                  capturesByKey := mapSet rail.capturesByKey idempotencyKey receipt
                  states := mapSet rail.states authorization.id
                    { state with status := .captured } })

def voidAuthorization (authorization : Authorization) (idempotencyKey : String) : Call Unit :=
  fun rail =>
    match assertUuidV7IdempotencyKey idempotencyKey with
    | .error error => (.error error, rail)
    | .ok _ =>
      if rail.voidsByKey.contains idempotencyKey then (.ok (), rail)
      else
        match rail.states.lookup authorization.id with
        | none => (.ok (), { rail with voidsByKey := rail.voidsByKey ++ [idempotencyKey] })
        | some state =>
          match state.status with
          | .captured =>
            (.error ("Authorization " ++ authorization.id
              ++ " already captured; use refund instead"), rail)
          | .authorized | .voided =>
            match rail.pendingVoidError with
            | some error => (.error error, { rail with pendingVoidError := none })
            | none =>
              (.ok (),
                { rail with
                  voidsByKey := rail.voidsByKey ++ [idempotencyKey]
                  states := mapSet rail.states authorization.id
                    { state with status := .voided } })

def failNextAuthorize (error : Failure) (rail : StubPaymentRail) : StubPaymentRail :=
  { rail with pendingAuthorizeError := some error }

def failNextCapture (error : Failure) (rail : StubPaymentRail) : StubPaymentRail :=
  { rail with pendingCaptureError := some error }

def failNextVoid (error : Failure) (rail : StubPaymentRail) : StubPaymentRail :=
  { rail with pendingVoidError := some error }

end StubPaymentRail

end FormspecWeb.Payment
