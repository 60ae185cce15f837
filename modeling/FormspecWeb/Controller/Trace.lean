import FormspecWeb.Controller.Restore

/-!
# What a log says

Functions of the log, newest entry first, that the properties of runs are stated
with: which operations are open, which of them holds the controller busy, what
the slots hold, which receipt is stored but unchecked, which Sign awaits the hash
of its Response.

Each function looks at one kind of entry. A call's own part of the log changes
only by its own entries, which `Foreign` makes usable as a rewrite rule.
-/

namespace FormspecWeb.Controller

open Ports Engine

variable {config : ResponseActionControllerConfig}

/-- The operations between their admission and their completion. A refresh of
the application is none of them. -/
def openOperations : List (Entry config) → List (Nat × Operation)
  | [] => []
  | .opened _ .refreshApplication :: es => openOperations es
  | .opened t operation :: es => (t, operation) :: openOperations es
  | .closed t operation :: es => (openOperations es).filter (· ≠ (t, operation))
  | _ :: es => openOperations es

def lockedBy : List (Entry config) → Option (Nat × Operation)
  | [] => none
  | .opened t operation :: es =>
    if operation.busyKey.isSome then some (t, operation) else lockedBy es
  | .closed t operation :: es => if lockedBy es = some (t, operation) then none else lockedBy es
  | _ :: es => lockedBy es

def slotsOf : List (Entry config) → Slots
  | [] => .empty
  | .stored _ slots :: _ => slots
  | .unchecked _ draft :: es => { slotsOf es with saved := some draft }
  | .invalidated _ :: _ => .empty
  | _ :: es => slotsOf es

def uncheckedBy : List (Entry config) → Option Nat
  | [] => none
  | .unchecked t _ :: _ => some t
  | .passed t _ :: es => if uncheckedBy es = some t then none else uncheckedBy es
  | _ :: es => uncheckedBy es

def assenting : List (Entry config) → List Nat
  | [] => []
  | .assented t assent :: es => if assent.role = .sign then t :: assenting es else assenting es
  | .hashed t :: es => (assenting es).filter (· ≠ t)
  | _ :: es => assenting es

def lastAssent (t : Nat) : List (Entry config) → Option Assent
  | [] => none
  | .assented u assent :: es => if u = t then some assent else lastAssent t es
  | _ :: es => lastAssent t es

def storedSinceOpening (t : Nat) : List (Entry config) → Bool
  | [] => false
  | .opened u _ :: es => u != t && storedSinceOpening t es
  | .stored u _ :: es | .unchecked u _ :: es => u == t || storedSinceOpening t es
  | _ :: es => storedSinceOpening t es

def failedSinceOpening (t : Nat) : List (Entry config) → Bool
  | [] => false
  | .opened u _ :: es => u != t && failedSinceOpening t es
  | .failedEvidence u :: es => u == t || failedSinceOpening t es
  | _ :: es => failedSinceOpening t es

/-- The completion of a call was rejected as unknown since it last opened. -/
def unknownSinceOpening (t : Nat) : List (Entry config) → Bool
  | [] => false
  | .opened u _ :: es => u != t && unknownSinceOpening t es
  | .outcomeUnknown u :: es => u == t || unknownSinceOpening t es
  | _ :: es => unknownSinceOpening t es

/-- The draft versions the published `saved` slots showed. -/
def shownVersions : List (Entry config) → List Int
  | [] => []
  | .published snapshot :: es =>
    (snapshot.saved.map (·.draft.version)).toList ++ shownVersions es
  | _ :: es => shownVersions es

def acceptedOf : List (Entry config) → Option (String × ResponseCompletionResult)
  | [] => none
  | .accepted _ deliveryId result :: _ => some (deliveryId, result)
  | _ :: es => acceptedOf es

def hasUnknown (es : List (Entry config)) : Bool :=
  es.any fun | .outcomeUnknown _ => true | _ => false

def invalidatedWith : List (Entry config) → Option (Option ApplicationCaseReceipt)
  | [] => none
  | .invalidated application :: _ => some application
  | _ :: es => invalidatedWith es

/-- A call's own part of two logs is the same, and the second kept every entry. -/
structure SameHistory (t : Nat) (es es' : List (Entry config)) : Prop where
  kept : ∀ e ∈ es, e ∈ es'
  assenting : t ∈ assenting es' ↔ t ∈ assenting es
  lastAssent : lastAssent t es' = lastAssent t es
  stored : storedSinceOpening t es' = storedSinceOpening t es
  failed : failedSinceOpening t es' = failedSinceOpening t es
  unknown : unknownSinceOpening t es' = unknownSinceOpening t es
  opens : ∀ operation, (t, operation) ∈ openOperations es' ↔ (t, operation) ∈ openOperations es

namespace SameHistory

variable {t : Nat} {es es' es'' : List (Entry config)}

theorem refl (t : Nat) (es : List (Entry config)) : SameHistory t es es :=
  ⟨fun _ h => h, Iff.rfl, rfl, rfl, rfl, rfl, fun _ => Iff.rfl⟩

theorem trans (h : SameHistory t es es') (h' : SameHistory t es' es'') : SameHistory t es es'' where
  kept e he := h'.kept e (h.kept e he)
  assenting := h'.assenting.trans h.assenting
  lastAssent := h'.lastAssent.trans h.lastAssent
  stored := h'.stored.trans h.stored
  failed := h'.failed.trans h.failed
  unknown := h'.unknown.trans h.unknown
  opens operation := (h'.opens operation).trans (h.opens operation)

theorem cons {e : Entry config} (h : e.thread ≠ some t) (es : List (Entry config)) :
    SameHistory t es (e :: es) where
  kept _ := List.mem_cons_of_mem e
  assenting := by
    cases e <;> simp only [FormspecWeb.Controller.assenting] <;> grind [Entry.thread]
  lastAssent := by
    cases e <;> simp only [FormspecWeb.Controller.lastAssent]
    grind [Entry.thread]
  stored := by cases e <;> simp only [storedSinceOpening] <;> grind [Entry.thread]
  failed := by cases e <;> simp only [failedSinceOpening] <;> grind [Entry.thread]
  unknown := by cases e <;> simp only [unknownSinceOpening] <;> grind [Entry.thread]
  opens operation := by
    cases e with
    | opened u op => cases op <;> simp only [openOperations] <;> grind [Entry.thread]
    | closed u op => simp only [openOperations]; grind [Entry.thread]
    | _ => exact Iff.rfl

end SameHistory

end FormspecWeb.Controller
