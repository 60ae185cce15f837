import FormspecWeb.Async.Steps
import FormspecWeb.Shared.Text
import Mathlib.Algebra.Order.Ring.Rat

/-!
# The mixed proof worker client

A verification runs a check at every step, and the proof it returns goes on checking: its facts
expire, and its owner, its cancellation, the client's generation and the clock can retire it. What
the guard and the clock answer comes with each check.
-/

namespace FormspecWeb.SourceWorker

open Shared

/-- A text without its first `/\.\d+/`, and the digits of that match. -/
def splitFraction : List Char → List Char × List Char
  | [] => ([], [])
  | c :: rest =>
    let digits := rest.takeWhile isAsciiDigit
    if c == '.' && !digits.isEmpty then (rest.dropWhile isAsciiDigit, digits)
    else
      let (text, fraction) := splitFraction rest
      (c :: text, fraction)

def digitsValue (digits : List Char) : Nat :=
  digits.foldl (fun value digit => 10 * value + (digit.toNat - 48)) 0

/-- In nanoseconds; `parse` is `Date.parse`, and none is what throws. -/
def hydrationInstant (parse : String → Option Int) (value : String) : Option Int :=
  let (text, fraction) := splitFraction value.toList
  if (fraction.drop 9).any (· != '0') then none
  else (parse (String.ofList text)).map fun whole =>
    whole * 1000000 + digitsValue ((fraction.take 9) ++ List.replicate (9 - fraction.length) '0')

/-- What the guard of the owner and the clock answer; none is no finite number. -/
structure Reading where
  authorized : Bool
  now : Option Rat

/-- What a proof is retired by: the signals, a later operation of the client, its owner, the clock,
or the deadline. -/
inductive Retirement where
  | cancelled
  | workerRetired
  | authority
  | clock
  | deadline
deriving DecidableEq

structure ProofWorkerLifetime where
  startedMonotonic : Option Rat
  currentAt : String
  currentAtMonotonic : Option Rat

inductive ProofStage where
  | verifying
  | returned
  | rejected
deriving DecidableEq

/-- What the caller of a returned proof saw: the generation of the client and whether it was disposed
when the proof was current, whether a refresh was required, or what retired it. -/
inductive ProofEntry where
  | current (now : Option Rat) (generation : Nat) (disposed : Bool)
  | refresh (required : Bool)
  | failed (retirement : Retirement)

structure Proof where
  lifetime : ProofWorkerLifetime
  generation : Nat
  /-- `lifetime.signal` is aborted. -/
  cancelled : Bool
  /-- `active.signal` is aborted. -/
  aborted : Bool
  validUntil : Option String
  /-- None is `Infinity`. -/
  factsDeadline : Option Rat
  stage : ProofStage
  expired : Bool
  /-- None is `-Infinity`. -/
  lastNow : Option Rat
  retired : Option Retirement
  log : List ProofEntry

structure MixedProofWorkerConfig where
  wholeOperationMilliseconds : Nat
  /-- `Date.parse`, in milliseconds. -/
  dateParse : String → Option Int

structure MixedProofWorkerClient where
  generation : Nat
  active : Option Nat
  disposed : Bool
  proofs : List Proof

namespace Proof

def completed (proof : Proof) : Bool := proof.stage == .returned

def logged (proof : Proof) (entry : ProofEntry) : Proof := { proof with log := entry :: proof.log }

end Proof

namespace MixedProofWorkerClient

variable (config : MixedProofWorkerConfig)

def opened : MixedProofWorkerClient := ⟨0, none, false, []⟩

def put (s : MixedProofWorkerClient) (number : Nat) (proof : Proof) : MixedProofWorkerClient :=
  { s with proofs := s.proofs.set number proof }

/-- The deadline of a check; none is no finite number. -/
def deadline (proof : Proof) : Option Rat :=
  if proof.completed then proof.factsDeadline
  else
    proof.lifetime.startedMonotonic.map fun started =>
      let operation : Rat := started + config.wholeOperationMilliseconds
      (proof.factsDeadline.map (min operation)).getD operation

/-- The clock's own part of `check`, with what is left. -/
def checkClock (proof : Proof) (now : Option Rat) : Proof × Except Retirement Rat :=
  match now, deadline config proof, proof.lifetime.startedMonotonic,
      proof.lifetime.currentAtMonotonic with
  | some now, some deadline, some started, some current =>
    if proof.lastNow.any (now < ·) || now < started || current < started || now < current then
      (proof, .error .clock)
    else if deadline ≤ now then
      ({ proof with lastNow := some now, expired := proof.completed }, .error .deadline)
    else ({ proof with lastNow := some now }, .ok (deadline - now))
  | _, _, _, _ => (proof, .error .clock)

/-- `check` behind its first test. -/
def checkOnce (s : MixedProofWorkerClient) (proof : Proof) (reading : Reading) :
    Proof × Except Retirement Rat :=
  if proof.cancelled || proof.aborted then (proof, .error .cancelled)
  else if s.disposed || proof.generation != s.generation then (proof, .error .workerRetired)
  else if !reading.authorized then (proof, .error .authority)
  else checkClock config proof reading.now

def check (s : MixedProofWorkerClient) (proof : Proof) (reading : Reading) :
    Proof × Except Retirement Rat :=
  match proof.retired with
  | some retirement => (proof, .error retirement)
  | none =>
    match s.checkOnce config proof reading with
    | (proof, .ok remaining) => (proof, .ok remaining)
    | (proof, .error retirement) =>
      ({ proof with retired := some retirement, aborted := true }, .error retirement)

/-- The `try` of `refreshRequired()`. -/
def refreshOnce (s : MixedProofWorkerClient) (proof : Proof) (reading : Reading) :
    Except Retirement (Rat × Bool) :=
  if proof.cancelled then .error .cancelled
  else if !reading.authorized then .error .authority
  else if s.disposed || proof.generation != s.generation then .error .workerRetired
  else
    match reading.now with
    | none => .error .clock
    | some now =>
      if proof.lastNow.any (now < ·) || proof.lifetime.currentAtMonotonic.any (now < ·) then
        .error .clock
      else
        match if proof.expired then none else proof.retired with
        | some retirement => .error retirement
        | none =>
          if !proof.expired && proof.aborted then .error .cancelled
          else .ok (now, proof.expired || proof.factsDeadline.any (· ≤ now))

/-- `refreshRequired()`, with its entry. -/
def refreshRequired (s : MixedProofWorkerClient) (proof : Proof) (reading : Reading) :
    Proof × Except Retirement Bool :=
  match s.refreshOnce proof reading with
  | .ok (now, required) =>
    (({ proof with lastNow := some now } : Proof).logged (.refresh required), .ok required)
  | .error retirement =>
    (({ proof with expired := false, retired := some retirement, aborted := true } : Proof).logged
      (.failed retirement), .error retirement)

/-- `assertCurrent()` of a returned proof, with its entry. -/
def assertCurrent (s : MixedProofWorkerClient) (proof : Proof) (reading : Reading) : Proof :=
  match s.check config proof reading with
  | (proof, .ok _) => proof.logged (.current reading.now s.generation s.disposed)
  | (proof, .error retirement) => proof.logged (.failed retirement)

/-- `remainingMilliseconds()`; the second reading is that of `check`. -/
def remainingMilliseconds (s : MixedProofWorkerClient) (proof : Proof) (first second : Reading) :
    Proof :=
  match s.refreshRequired proof first with
  | (proof, .ok false) => s.assertCurrent config proof second
  | (proof, _) => proof

/-! ## Operations -/

def rejected (proof : Proof) : Proof := { proof with stage := .rejected, aborted := true }

def onCheck (s : MixedProofWorkerClient) (reading : Reading) (act : Proof → Proof) (proof : Proof) :
    Proof :=
  match s.check config proof reading with
  | (proof, .ok _) => act proof
  | (proof, .error _) => rejected proof

def retireFacts (s : MixedProofWorkerClient) : MixedProofWorkerClient :=
  let proofs := match s.active with
    | none => s.proofs
    | some active => s.proofs.modify active fun proof => { proof with aborted := true }
  { s with generation := s.generation + 1, active := none, proofs := proofs }

/-- `verify` up to the worker: its first check, and that of its timer. -/
def verify (s : MixedProofWorkerClient) (lifetime : ProofWorkerLifetime) (cancelled : Bool)
    (first second : Reading) : MixedProofWorkerClient :=
  let s := s.retireFacts
  let proof : Proof :=
    ⟨lifetime, s.generation, cancelled, false, none, none, .verifying, false, none, none, []⟩
  let s := { s with active := some s.proofs.length }
  let proof := s.onCheck config first (s.onCheck config second id) proof
  { s with proofs := s.proofs ++ [proof] }

/-- The deadline of facts that are valid until a time; none where they are refused. -/
def deadlineOf (lifetime : ProofWorkerLifetime) (validUntil : String) : Option Rat := do
  let expires ← hydrationInstant config.dateParse validUntil
  let current ← hydrationInstant config.dateParse lifetime.currentAt
  let milliseconds := (expires - current) / 1000000
  if expires ≤ current || !isSafeInteger milliseconds || milliseconds ≤ 0 then none
  else lifetime.currentAtMonotonic.map (· + milliseconds)

inductive Event where
  | verify (lifetime : ProofWorkerLifetime) (cancelled : Bool) (first second : Reading)
  | checkpoint (proof : Nat) (reading : Reading)
  /-- The facts are prepared, with the time they are valid until. -/
  | prepared (proof : Nat) (validUntil : String) (reading : Reading)
  | verified (proof : Nat) (bound : Bool) (first second : Reading)
  | reject (proof : Nat)
  | assertCurrent (proof : Nat) (reading : Reading)
  | refreshRequired (proof : Nat) (reading : Reading)
  | remainingMilliseconds (proof : Nat) (first second : Reading)
  | timeout (proof : Nat)
  | abort (proof : Nat)
  | retireFacts
  | dispose

def onProof (s : MixedProofWorkerClient) (number : Nat) (can : Proof → Bool) (act : Proof → Proof) :
    Option MixedProofWorkerClient :=
  match s.proofs[number]? with
  | none => none
  | some proof => if can proof then some (s.put number (act proof)) else none

def prepare (s : MixedProofWorkerClient) (validUntil : String) (reading : Reading) (proof : Proof) :
    Proof :=
  match deadlineOf config proof.lifetime validUntil with
  | none => rejected proof
  | some deadline => s.onCheck config reading id
      { proof with validUntil := some validUntil, factsDeadline := some deadline }

/-- The worker has verified the facts; they are of the selection, or not. -/
def complete (s : MixedProofWorkerClient) (bound : Bool) (first second : Reading) (proof : Proof) :
    Proof :=
  s.onCheck config first (fun proof =>
    if bound then s.onCheck config second (fun proof => { proof with stage := .returned }) proof
    else rejected proof) proof

def verifying (proof : Proof) : Bool := proof.stage == .verifying

def step (s : MixedProofWorkerClient) : Event → Option MixedProofWorkerClient
  | .verify lifetime cancelled first second => some (s.verify config lifetime cancelled first second)
  | .checkpoint number reading =>
    s.onProof number verifying fun proof => (s.check config proof reading).1
  | .prepared number validUntil reading =>
    s.onProof number (fun proof => verifying proof && proof.factsDeadline.isNone)
      (s.prepare config validUntil reading)
  | .verified number bound first second =>
    s.onProof number (fun proof => verifying proof && proof.factsDeadline.isSome)
      (s.complete config bound first second)
  | .reject number => s.onProof number verifying rejected
  | .assertCurrent number reading =>
    s.onProof number Proof.completed fun proof => s.assertCurrent config proof reading
  | .refreshRequired number reading =>
    s.onProof number Proof.completed fun proof => (s.refreshRequired proof reading).1
  | .remainingMilliseconds number first second =>
    s.onProof number Proof.completed fun proof => s.remainingMilliseconds config proof first second
  | .timeout number => s.onProof number verifying fun proof => { proof with aborted := true }
  | .abort number => s.onProof number (fun _ => true) fun proof => { proof with cancelled := true }
  | .retireFacts => some s.retireFacts
  | .dispose => some { s with disposed := true }.retireFacts

end MixedProofWorkerClient

end FormspecWeb.SourceWorker
