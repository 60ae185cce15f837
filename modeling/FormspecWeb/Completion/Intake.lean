import Mathlib.Logic.Function.Basic
import FormspecWeb.Ports.ResponseSigning

/-!
# The intake completion port

`createIntakeResponseCompletion` over the HTTP submit transport: a captured
preparation is bound to the first operation id it is completed with, and the
operation id is the idempotency key of the request. A request already in flight
under its key is joined; a failed one may be sent again, with the same handoff.
-/

namespace FormspecWeb.Completion

open Shared Ports

structure IntakeHandoff where
  /-- The extension `x-formspec-response`, if it is a Response with object data. -/
  canonicalResponse : Option FormResponse
  rest : Json
deriving DecidableEq

/-- A request on the wire, under its `idempotency-key` header. -/
structure Request where
  idempotencyKey : String
  handoff : IntakeHandoff
  options : SubmitOptions
deriving DecidableEq

structure HttpSubmitTransport where
  finalizedHandoffs : String → Option (IntakeHandoff × SubmitOptions)
  /-- The keys of the submissions that are pending or succeeded. -/
  replay : String → Bool

namespace HttpSubmitTransport

/-- `submit` up to its request; a thrown error is `none`. -/
def submit (transport : HttpSubmitTransport) (handoff : IntakeHandoff) (idempotencyKey : String)
    (options : SubmitOptions) : Option (HttpSubmitTransport × Option Request) :=
  let finalized := transport.finalizedHandoffs idempotencyKey
  if !isUuidV7IdempotencyKey idempotencyKey || handoff.canonicalResponse.isNone
      || (finalized.any fun (finalized, _) => finalized != handoff)
      || finalized.any fun (_, selected) => selected != options then none
  else
    let kept := { transport with
      finalizedHandoffs :=
        Function.update transport.finalizedHandoffs idempotencyKey (some (handoff, options)) }
    if transport.replay idempotencyKey then some (kept, none)
    else some
      ({ kept with replay := Function.update transport.replay idempotencyKey true },
        some ⟨idempotencyKey, handoff, options⟩)

/-- A submission failed: `replay.delete(idempotencyKey)`. -/
def fail (transport : HttpSubmitTransport) (idempotencyKey : String) : HttpSubmitTransport :=
  { transport with replay := Function.update transport.replay idempotencyKey false }

end HttpSubmitTransport

structure IntakeCapture where
  handoff : IntakeHandoff
  options : Option SubmitOptions
  operationId : Option String
deriving DecidableEq

structure IntakeResponseCompletion where
  preparations : PreparedResponseCompletion → Option IntakeCapture
  transport : HttpSubmitTransport

def IntakeCapture.mismatches (captured : IntakeCapture) (operationId : String) : Bool :=
  !hasText operationId
    || captured.operationId.any fun bound => truthy bound && bound != operationId

namespace IntakeResponseCompletion

/-- `complete` up to its request. A thrown error sends none; the operation id is
bound before the transport may throw. -/
def complete (port : IntakeResponseCompletion) (prepared : Option PreparedResponseCompletion)
    (operationId : String) : IntakeResponseCompletion × Option Request :=
  match prepared with
  | none => (port, none)
  | some prepared =>
    match port.preparations prepared with
    | none => (port, none)
    | some captured =>
      if captured.mismatches operationId then (port, none)
      else
        let bound := { port with
          preparations := Function.update port.preparations prepared
            (some { captured with operationId := some operationId }) }
        match port.transport.submit captured.handoff operationId
            (captured.options.getD ⟨none⟩) with
        | none => (bound, none)
        | some (transport, request) => ({ bound with transport := transport }, request)

end IntakeResponseCompletion

inductive IntakeEvent where
  | captured (prepared : PreparedResponseCompletion) (capture : IntakeCapture)
  | complete (prepared : Option PreparedResponseCompletion) (operationId : String)
  | failed (idempotencyKey : String)

namespace IntakeResponseCompletion

def step (port : IntakeResponseCompletion) : IntakeEvent → IntakeResponseCompletion × Option Request
  | .captured prepared capture =>
    ({ port with preparations := Function.update port.preparations prepared (some capture) }, none)
  | .complete prepared operationId => port.complete prepared operationId
  | .failed idempotencyKey => ({ port with transport := port.transport.fail idempotencyKey }, none)

def wire : IntakeResponseCompletion → List IntakeEvent → List Request
  | _, [] => []
  | port, e :: es => (port.step e).2.toList ++ wire (port.step e).1 es

theorem complete_key {port : IntakeResponseCompletion} {prepared : Option PreparedResponseCompletion}
    {operationId : String} {request : Request}
    (h : (port.complete prepared operationId).2 = some request) :
    request.idempotencyKey = operationId := by
  unfold complete at h
  split at h
  · cases h
  split at h
  · cases h
  split at h
  · cases h
  split at h
  · cases h
  · rename_i transport sent hsubmit
    obtain rfl : sent = some request := h
    simp only [HttpSubmitTransport.submit] at hsubmit
    split at hsubmit
    · cases hsubmit
    split at hsubmit
    · cases hsubmit
    · obtain ⟨-, heq⟩ := Prod.mk.inj (Option.some.inj hsubmit)
      rw [← Option.some.inj heq]

theorem wire_key {port : IntakeResponseCompletion} {events : List IntakeEvent} {request : Request}
    (h : request ∈ port.wire events) :
    ∃ prepared, IntakeEvent.complete prepared request.idempotencyKey ∈ events := by
  induction events generalizing port with
  | nil => cases h
  | cons e es ih =>
    rcases List.mem_append.mp h with hhead | htail
    · cases e with
      | captured prepared capture => simp [step] at hhead
      | failed key => simp [step] at hhead
      | complete prepared operationId =>
        have hkey := complete_key (by simpa [step] using hhead)
        exact ⟨prepared, hkey ▸ List.mem_cons_self⟩
    · obtain ⟨prepared, hmem⟩ := ih htail
      exact ⟨prepared, List.mem_cons_of_mem _ hmem⟩

end IntakeResponseCompletion

end FormspecWeb.Completion
