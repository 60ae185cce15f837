import Mathlib.Logic.Function.Basic
import FormspecWeb.Shared.InsertionMap
import FormspecWeb.Shared.Text

/-!
# The offline submit queue

`enqueue` keeps a handoff under its idempotency key, and `replay` submits what is kept, in order. The
calls of `replay` overlap: each is suspended while the transport has an entry of it.

A handoff is an object of the caller of `enqueue`, which the queue keeps as it is; what it holds is
looked up when it is submitted.
-/

namespace FormspecWeb.OfflineSubmit

open Shared

structure QueuedSubmit where
  /-- The entries are objects: this is the number of the one that `enqueue` made. -/
  id : Nat
  idempotencyKey : String
  handoff : Nat
  enqueuedAt : String
  deriving DecidableEq

inductive ReplayOutcome (Confirmation Fault : Type) where
  | sent (idempotencyKey : String) (confirmation : Confirmation)
  | failed (idempotencyKey : String) (error : Fault)
  deriving DecidableEq

/-- Why `enqueue` refuses a handoff. -/
inductive EnqueueError (Fault : Type) where
  | notUuidV7 (message : String)
  | clock (error : Fault)
  deriving DecidableEq

/-- What `stubOfflineSubmitQueue` keeps. -/
structure StubOfflineSubmitQueue where
  order : List String
  byKey : List (String × QueuedSubmit)
  deriving DecidableEq

/-- A call of `replay` in the submission of an entry. -/
structure Replaying (Confirmation Fault : Type) where
  key : String
  entry : QueuedSubmit
  /-- What the transport has answered, before the call goes on. -/
  answer : Option (Except Fault Confirmation)
  rest : List String
  outcomes : List (ReplayOutcome Confirmation Fault)

inductive Replay (Confirmation Fault : Type) where
  | submitting (call : Replaying Confirmation Fault)
  | ended (outcomes : List (ReplayOutcome Confirmation Fault))

/-- A call of `transport.submit`, with what the handoff held. -/
structure Submission (Handoff : Type) where
  entry : QueuedSubmit
  handoff : Handoff
  idempotencyKey : String
  deriving DecidableEq

/-- The queue with the objects of its callers, its running calls, and what has happened. -/
structure World (Handoff Confirmation Fault : Type) where
  objects : Nat → Handoff
  queue : StubOfflineSubmitQueue
  replays : List (Replay Confirmation Fault)
  /-- The entries that were made, with what their handoff held then. -/
  enqueued : List (QueuedSubmit × Handoff)
  submissions : List (Submission Handoff)
  /-- The numbers of the entries that the transport has accepted. -/
  accepted : List Nat

variable {Handoff Confirmation Fault : Type}

def outcome (key : String) : Except Fault Confirmation → ReplayOutcome Confirmation Fault
  | .ok confirmation => .sent key confirmation
  | .error error => .failed key error

namespace StubOfflineSubmitQueue

def pending (queue : StubOfflineSubmitQueue) : List QueuedSubmit :=
  queue.order.filterMap fun key => queue.byKey.lookup key

def add (queue : StubOfflineSubmitQueue) (key : String) (queued : QueuedSubmit) : StubOfflineSubmitQueue :=
  ⟨queue.order ++ [key], setEntry key queued queue.byKey⟩

def remove (queue : StubOfflineSubmitQueue) (key : String) : StubOfflineSubmitQueue :=
  ⟨queue.order.erase key, deleteEntry key queue.byKey⟩

def settle (queue : StubOfflineSubmitQueue) (key : String) :
    Except Fault Confirmation → StubOfflineSubmitQueue
  | .ok _ => queue.remove key
  | .error _ => queue

/-- The loop of `replay`, up to its next submission or to its end. -/
def next (queue : StubOfflineSubmitQueue) (outcomes : List (ReplayOutcome Confirmation Fault)) :
    List String → Replay Confirmation Fault
  | [] => .ended outcomes
  | key :: rest =>
    match queue.byKey.lookup key with
    | none => queue.next outcomes rest
    | some entry => .submitting ⟨key, entry, none, rest, outcomes⟩

end StubOfflineSubmitQueue

namespace World

def start (objects : Nat → Handoff) : World Handoff Confirmation Fault :=
  ⟨objects, ⟨[], []⟩, [], [], [], []⟩

/-- `enqueue`; `now` is the time its clock gives. -/
def enqueue (w : World Handoff Confirmation Fault) (handoff : Nat) (idempotencyKey : String)
    (now : Except Fault String) :
    Except (EnqueueError Fault) QueuedSubmit × World Handoff Confirmation Fault :=
  if !isUuidV7IdempotencyKey idempotencyKey then
    (.error (.notUuidV7 "Expected idempotency-key to be a UUIDv7 value"), w)
  else
    match w.queue.byKey.lookup idempotencyKey with
    | some existing => (.ok existing, w)
    | none =>
      match now with
      | .error error => (.error (.clock error), w)
      | .ok enqueuedAt =>
        let queued : QueuedSubmit := ⟨w.enqueued.length, idempotencyKey, handoff, enqueuedAt⟩
        (.ok queued, { w with
          queue := w.queue.add idempotencyKey queued
          enqueued := w.enqueued ++ [(queued, w.objects handoff)] })

/-- What the transport is called with as a call of `replay` goes on. -/
def submitted (w : World Handoff Confirmation Fault) : Replay Confirmation Fault → List (Submission Handoff)
  | .submitting call => [⟨call.entry, w.objects call.entry.handoff, call.entry.idempotencyKey⟩]
  | .ended _ => []

/-- A call of `replay` begins. -/
def beginReplay (w : World Handoff Confirmation Fault) : World Handoff Confirmation Fault :=
  let replay := w.queue.next [] w.queue.order
  { w with
    replays := w.replays ++ [replay]
    submissions := w.submitted replay ++ w.submissions }

def answer (w : World Handoff Confirmation Fault) (n : Nat) (call : Replaying Confirmation Fault)
    (found : Except Fault Confirmation) : World Handoff Confirmation Fault :=
  { w with
    replays := w.replays.set n (.submitting { call with answer := some found })
    accepted := if found.isOk then call.entry.id :: w.accepted else w.accepted }

/-- A call of `replay` goes on behind the answer to its submission. -/
def resume (w : World Handoff Confirmation Fault) (n : Nat) (call : Replaying Confirmation Fault)
    (found : Except Fault Confirmation) : World Handoff Confirmation Fault :=
  let queue := w.queue.settle call.key found
  let replay := queue.next (call.outcomes ++ [outcome call.key found]) call.rest
  { w with
    queue
    replays := w.replays.set n replay
    submissions := w.submitted replay ++ w.submissions }

end World

inductive Event (Handoff Confirmation Fault : Type) where
  | enqueue (handoff : Nat) (idempotencyKey : String) (now : Except Fault String)
  | replay
  | answer (n : Nat) (found : Except Fault Confirmation)
  | resume (n : Nat)
  | write (handoff : Nat) (value : Handoff)

def step (w : World Handoff Confirmation Fault) :
    Event Handoff Confirmation Fault → Option (World Handoff Confirmation Fault)
  | .enqueue handoff idempotencyKey now => some (w.enqueue handoff idempotencyKey now).2
  | .replay => some w.beginReplay
  | .answer n found =>
    match w.replays[n]? with
    | some (.submitting call) =>
      if call.answer.isSome then none else some (w.answer n call found)
    | _ => none
  | .resume n =>
    match w.replays[n]? with
    | some (.submitting call) => call.answer.map (w.resume n call)
    | _ => none
  | .write handoff value => some { w with objects := Function.update w.objects handoff value }

end FormspecWeb.OfflineSubmit
