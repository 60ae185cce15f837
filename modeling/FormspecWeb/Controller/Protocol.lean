import Mathlib.Tactic.Common
import FormspecWeb.Controller.Schedule

/-!
# The controller's protocol

What a single write of a call may do to the controller's state, said once for
all programs: `Move` lists the kinds of writes with what is known when each
happens. `Wellformed` is the invariant of the shared state, and `Rely` what a
suspended call may count on while the others move.
-/

namespace FormspecWeb.Controller

open Ports Engine Async

variable {config : ResponseActionControllerConfig}

def submitOutputs (config : ResponseActionControllerConfig) (result : ResponseCompletionResult) :
    Option Outputs := do
  let admission ← config.roles .submit
  let request ← (requestFor config .submit admission).toOption
  extractServiceRequestOutputs (← request) result.evidence

/-- These outputs are the ones of the completion accepted for a delivery. -/
def Confirms (es : List (Entry config)) (deliveryId : String) (outputs : Outputs) : Prop :=
  ∃ t result, .accepted t deliveryId result ∈ es ∧ submitOutputs config result = some outputs

theorem Confirms.mono {es es' : List (Entry config)} {id : String} {outputs : Outputs}
    (h : Confirms es id outputs) (hes : ∀ e ∈ es, e ∈ es') : Confirms es' id outputs := by
  obtain ⟨t, result, hmem, houtputs⟩ := h
  exact ⟨t, result, hes _ hmem, houtputs⟩

/-- What is open while restorations run alone: nothing but a refresh, one
operation that holds the busy flag, or one restoration that does not. -/
inductive Exclusive (es : List (Entry config)) : Prop
  | idle (hopen : openOperations es = [])
      (hlock : ∀ t operation, lockedBy es = some (t, operation) → operation = .refreshApplication)
  | locked (t : Nat) (operation : Operation) (hopen : openOperations es = [(t, operation)])
      (hlock : lockedBy es = some (t, operation))
  | restoring (t : Nat) (operation : Operation) (hopen : openOperations es = [(t, operation)])
      (hkey : operation.busyKey = none)
      (hlock : ∀ t operation, lockedBy es = some (t, operation) → operation = .refreshApplication)

/-- The versions shown so far never decrease, and the slot holds the newest. -/
structure Ascending (s : State config) : Prop where
  sorted : (shownVersions s.log).Pairwise (· ≥ ·)
  newest : ∀ draft, s.saved = some draft → ∀ version ∈ shownVersions s.log,
    version ≤ draft.draft.version
  blank : s.saved = none → s.invalidated = false → shownVersions s.log = []

structure Wellformed (F : Schedule) (s : State config) : Prop where
  epoch : s.invalidated = false → s.epoch = 0
  busy : s.busy = (lockedBy s.log).bind (·.2.busyKey)
  key : ∀ t operation, lockedBy s.log = some (t, operation) →
    operation.busyKey.any Shared.truthy = true
  slots : s.slots = slotsOf s.log
  invalid : s.invalidated = (invalidatedWith s.log).isSome
  completion : s.completionResult =
    if s.invalidated then none else (acceptedOf s.log).map (·.2)
  confirmed : s.confirmedDelivery =
    if s.invalidated then none else (acceptedOf s.log).map (·.1)
  once : ∀ t id result, .accepted t id result ∈ s.log → acceptedOf s.log = some (id, result)
  cleared : s.invalidated = true → s.completedSubmit = none ∧ ∀ id, s.deliveries id = none
  completed : ∀ id delivery outputs, s.deliveries id = some delivery →
    delivery.identity.role = .submit → delivery.completed = some outputs →
    Confirms s.log id outputs
  retained : ∀ identity result, s.completedSubmit = some (identity, result) →
    result.status = .completed ∧ Confirms s.log result.invocationId result.transitionBindings
  promised : ∀ p promise outputs, s.promises p = some promise → promise.role = .submit →
    promise.outcome = some (.ok outputs) → Confirms s.log promise.deliveryId outputs
  pending : ∀ id delivery p, s.deliveries id = some delivery → delivery.pending = some p →
    ∃ promise, s.promises p = some promise ∧ promise.role = delivery.identity.role
      ∧ promise.deliveryId = id
  fresh : ∀ p, s.nextObject ≤ p → s.promises p = none
  delivers : ∀ t role id delivery, lockedBy s.log = some (t, .action role id) →
    s.deliveries id = some delivery → delivery.identity.role = role
  exclusive : F.restoresAlone = true → Exclusive s.log
  ascending : F.restoresAlone = true → Ascending s

/-- A delivery without the Sign request it retains, which the host may retire. -/
def Delivery.core (delivery : Delivery) : Delivery := { delivery with signRetry := none }

/-- What the writes of other calls leave to call `t`. -/
structure Rely (F : Schedule) (t : Nat) (s s' : State config) : Prop where
  history : SameHistory t s.log s'.log
  obsolete : s.invalidated = true → s'.invalidated = true
  held : ∀ operation, lockedBy s.log = some (t, operation) → lockedBy s'.log = some (t, operation)
  completion : ∀ operation, lockedBy s.log = some (t, operation) → s'.invalidated = false →
    s'.completionResult = s.completionResult
  delivery : ∀ role id, lockedBy s.log = some (t, .action role id) → s'.invalidated = false →
    (s'.deliveries id).map Delivery.core = (s.deliveries id).map Delivery.core
  promise : ∀ p promise, s.promises p = some promise → ∃ promise', s'.promises p = some promise'
    ∧ promise'.role = promise.role ∧ promise'.deliveryId = promise.deliveryId
  prepared : F.assentsKept = true → t ∈ assenting s.log → s'.invalidated = false →
    s'.prepared = s.prepared
  window : F.checkpointsChecked = true → uncheckedBy s.log = some t →
    uncheckedBy s'.log = some t ∧ s'.saved = s.saved
  saved : F.restoresAlone = true → ∀ operation, (t, operation) ∈ openOperations s.log →
    s'.invalidated = false → s'.saved = s.saved ∧ ∀ version ∈ shownVersions s'.log,
      version ∈ shownVersions s.log ∨ s.saved.map (·.draft.version) = some version

theorem Rely.before {F : Schedule} {t : Nat} {s s' : State config} (h : Rely F t s s')
    (hcurrent : s'.invalidated = false) : s.invalidated = false := by
  cases hinv : s.invalidated with
  | false => rfl
  | true => rw [h.obsolete hinv] at hcurrent; cases hcurrent

theorem Rely.refl (F : Schedule) (t : Nat) (s : State config) : Rely F t s s where
  history := .refl t s.log
  obsolete h := h
  held _ h := h
  completion _ _ _ := rfl
  delivery _ _ _ _ := rfl
  promise _ promise h := ⟨promise, h, rfl, rfl⟩
  prepared _ _ _ := rfl
  window _ h := ⟨h, rfl⟩
  saved _ _ _ _ := ⟨rfl, fun _ h => .inl h⟩

theorem Rely.trans {F : Schedule} {t : Nat} {a b c : State config} (hab : Rely F t a b)
    (hbc : Rely F t b c) : Rely F t a c where
  history := hab.history.trans hbc.history
  obsolete h := hbc.obsolete (hab.obsolete h)
  held operation h := hbc.held operation (hab.held operation h)
  completion operation h hc := by
    have hb : b.invalidated = false := hbc.before hc
    rw [hbc.completion operation (hab.held operation h) hc, hab.completion operation h hb]
  delivery role id h hc := by
    have hb : b.invalidated = false := hbc.before hc
    rw [hbc.delivery role id (hab.held _ h) hc, hab.delivery role id h hb]
  promise p promise h := by
    obtain ⟨promise₁, h₁, hrole₁, hid₁⟩ := hab.promise p promise h
    obtain ⟨promise₂, h₂, hrole₂, hid₂⟩ := hbc.promise p promise₁ h₁
    exact ⟨promise₂, h₂, hrole₂.trans hrole₁, hid₂.trans hid₁⟩
  prepared hF h hc := by
    have hb : b.invalidated = false := hbc.before hc
    rw [hbc.prepared hF (hab.history.assenting.mpr h) hc, hab.prepared hF h hb]
  window hF h := by
    obtain ⟨hb, hsaved⟩ := hab.window hF h
    obtain ⟨hc, hsaved'⟩ := hbc.window hF hb
    exact ⟨hc, hsaved'.trans hsaved⟩
  saved hF operation h hc := by
    have hb : b.invalidated = false := hbc.before hc
    obtain ⟨hsaved, hshown⟩ := hab.saved hF operation h hb
    obtain ⟨hsaved', hshown'⟩ := hbc.saved hF operation ((hab.history.opens operation).mpr h) hc
    refine ⟨hsaved'.trans hsaved, fun version hversion => ?_⟩
    rcases hshown' version hversion with h' | h'
    · exact hshown version h'
    · exact .inr (hsaved ▸ h')

/-! ## Moves -/

/-- Two states agree on everything but the slots, the application, the log, and
the variables no property looks at. -/
structure Frame (s s' : State config) : Prop where
  epoch : s'.epoch = s.epoch
  invalidated : s'.invalidated = s.invalidated
  busy : s'.busy = s.busy
  confirmedDelivery : s'.confirmedDelivery = s.confirmedDelivery
  completedSubmit : s'.completedSubmit = s.completedSubmit
  completionResult : s'.completionResult = s.completionResult
  deliveries : ∀ id, (s'.deliveries id).map Delivery.core = (s.deliveries id).map Delivery.core
  promises : s'.promises = s.promises
  nextObject : s.nextObject ≤ s'.nextObject

/-- The operation id a port call carries. A Prepare carries none. -/
def PortCall.operationId : PortCall → Option String
  | .saveDraft _ operationId _ | .sign _ operationId _ | .start _ operationId
  | .complete _ _ operationId => some operationId
  | .prepare _ _ _ => none

/-- A port call of the delivery that holds the controller busy, under its operation id. -/
def Keyed (t : Nat) (s : State config) (call : PortCall) : Prop :=
  ∃ role id delivery, lockedBy s.log = some (t, .action role id) ∧ s.deliveries id = some delivery
    ∧ ∀ operationId, call.operationId = some operationId → operationId = delivery.operationId

def ResponseActionRole.keepsOutputs : ResponseActionRole → Bool
  | .paper | .startApplication => false
  | _ => true

def Completed (id : String) (outputs : Outputs) (s : State config) : Prop :=
  s.invalidated = false →
    ∃ delivery, s.deliveries id = some delivery ∧ delivery.completed = some outputs

/-- A port call dispatched by call `t`. -/
inductive Dispatches (F : Schedule) (t : Nat) (s : State config) : PortCall → Prop
  | saveDraft (response : FormResponse) (operationId : String)
      (action : QualifiedResponseActionRole) : Dispatches F t s (.saveDraft response operationId action)
  | prepare (response : FormResponse) (wording : Wording)
      (action : QualifiedResponseActionRole) : Dispatches F t s (.prepare response wording action)
  | start (draftKey : DraftKey) (operationId : String) : Dispatches F t s (.start draftKey operationId)
  | sign (preparation : Option PreparedResponseSigning) (operationId : String)
      (action : QualifiedResponseActionRole) (assent : Assent)
      (hassent : lastAssent t s.log = some assent) (hrole : assent.role = .sign)
      (hkept : F.assentsKept = true → preparation = some assent.preparation) :
      Dispatches F t s (.sign preparation operationId action)
  | complete (id : String) (delivery : Delivery)
      (hheld : lockedBy s.log = some (t, .action .submit id))
      (hdelivery : s.deliveries id = some delivery)
      (hcaptured : delivery.completionPreparation.isSome = true)
      (hunspent : unknownSinceOpening t s.log = false) :
      Dispatches F t s (.complete id delivery.completionPreparation delivery.operationId)

/-- The Response a receipt of call `t` is checked against: the one `t` sent to the
port that returned the receipt, the restored one, and for a signature or a
recovered pending signing none besides its own. -/
inductive Against (t : Nat) (es : List (Entry config)) (result : SavedResponseDraft) :
    Option FormResponse → Prop
  | saved (response : FormResponse) (operationId : String) (action : QualifiedResponseActionRole)
      (h : .called t (.saveDraft response operationId action) ∈ es) :
      Against t es result (some response)
  | prepared (response : FormResponse) (wording : Wording) (action : QualifiedResponseActionRole)
      (h : .called t (.prepare response wording action) ∈ es) : Against t es result (some response)
  | signed (preparation : Option PreparedResponseSigning) (operationId : String)
      (action : QualifiedResponseActionRole)
      (h : .called t (.sign preparation operationId action) ∈ es) : Against t es result none
  | restored : Against t es result config.restoredResponse
  | recovered : Against t es result (some result.response)

theorem Against.mono {t : Nat} {es es' : List (Entry config)} {result : SavedResponseDraft}
    {expected : Option FormResponse} (h : Against t es result expected)
    (hes : ∀ e ∈ es, e ∈ es') : Against t es' result expected := by
  cases h with
  | saved response operationId action h => exact .saved response operationId action (hes _ h)
  | prepared response wording action h => exact .prepared response wording action (hes _ h)
  | signed preparation operationId action h => exact .signed preparation operationId action (hes _ h)
  | restored => exact .restored
  | recovered => exact .recovered

/-- An entry call `t` may log on its own. -/
inductive Marks (F : Schedule) (t : Nat) (s : State config) : Entry config → Prop
  | called (call : PortCall) (hcurrent : s.invalidated = false)
      (hopen : s.completionResult = none) (hcall : Dispatches F t s call) (hkeyed : Keyed t s call) :
      Marks F t s (.called t call)
  | assented (assent : Assent)
      (hsubject : assent.role = .sign → s.prepared = some assent.preparation) :
      Marks F t s (.assented t assent)
  | hashed : Marks F t s (.hashed t)
  | opened (operation : Operation) (hkey : operation.busyKey = none)
      (hfree : lockedBy s.log = none)
      (halone : F.restoresAlone = true → restoreOpen s.log = false) :
      Marks F t s (.opened t operation)
  | closed (operation : Operation) (hkey : operation.busyKey = none) :
      Marks F t s (.closed t operation)
  | passed (evidence : PassedEvidence config)
      (hagainst : Against t s.log evidence.result evidence.expected)
      (hwindow : F.checkpointsChecked = true → uncheckedBy s.log = some t →
        s.saved = some evidence.result) : Marks F t s (.passed t evidence)
  | failedEvidence (hclean : F.checkpointsChecked = true → storedSinceOpening t s.log = false) :
      Marks F t s (.failedEvidence t)
  | outcomeUnknown (id : String) (hheld : lockedBy s.log = some (t, .action .submit id)) :
      Marks F t s (.outcomeUnknown t)
  | returned (role : Option ResponseActionRole) (result : InvocationResult)
      (hfailed : role = none → result.status = .failed)
      (hconfirms : role = some .submit → result.status = .completed →
        Confirms s.log result.invocationId result.transitionBindings) :
      Marks F t s (.returned t role result)

/-- A passed receipt of call `t` holds this draft. -/
def HasPassed (t : Nat) (es : List (Entry config)) (draft : SavedResponseDraft) : Prop :=
  ∃ evidence : PassedEvidence config, .passed t evidence ∈ es ∧ evidence.result = draft

/-- Call `t` writes the slots with receipts that passed. -/
structure Stores (F : Schedule) (t : Nat) (s s' : State config) : Prop where
  frame : Frame s s'
  log : s'.log = .stored t s'.slots :: s.log
  application : s'.application = s.application
  applicationLookup : s'.applicationLookup = s.applicationLookup
  current : s.invalidated = false
  clear : F.clear s = true
  clean : failedSinceOpening t s.log = false
  saved : ∃ draft, s'.saved = some draft ∧ HasPassed t s.log draft
    ∧ (F.restoresAlone = true → ∀ version ∈ shownVersions s.log, version ≤ draft.draft.version)
  prepared : s'.prepared = s.prepared ∨ s'.prepared = none
    ∨ ∃ preparation, s'.prepared = some preparation
      ∧ HasPassed t s.log preparation.toSavedResponseDraft
  signed : s'.signed = s.signed
    ∨ ∃ signature, s'.signed = some signature ∧ HasPassed t s.log signature.toSavedResponseDraft
  kept : F.assentsKept = true → s'.prepared = s.prepared ∨ assenting s.log = []
  opened : ∃ operation, (t, operation) ∈ openOperations s.log

/-- What call `t` may write into the delivery it runs. -/
structure Updates (s : State config) (role : ResponseActionRole) (id : String)
    (f : Delivery → Delivery) : Prop where
  identity : ∀ delivery, (f delivery).identity = delivery.identity
  operationId : ∀ delivery, (f delivery).operationId = delivery.operationId
  pending : ∀ delivery, (f delivery).pending = delivery.pending
  preparation : ∀ delivery, s.deliveries id = some delivery →
    delivery.completionPreparation = none
      ∨ (f delivery).completionPreparation = delivery.completionPreparation
  completed : ∀ delivery outputs, role = .submit → (f delivery).completed = some outputs →
    delivery.completed = some outputs ∨ Confirms s.log id outputs
  kept : ∀ delivery outputs, s.deliveries id = some delivery → delivery.completed = some outputs →
    (f delivery).completed = some outputs
  retired : ∀ delivery, delivery.retired = true → (f delivery).retired = true
  retires : ∀ delivery outputs, (role.isSave || role == .prepare) = true →
    (f delivery).completed = some outputs →
    delivery.completed = some outputs ∨ (f delivery).retired = true
  retiring : ∀ delivery, (f delivery).retired = true →
    delivery.retired = true ∨ (role.isSave || role == .prepare) = true

theorem Updates.of_completed {s : State config} {role : ResponseActionRole} {id : String}
    {f : Delivery → Delivery} (hidentity : ∀ delivery, (f delivery).identity = delivery.identity)
    (hoperationId : ∀ delivery, (f delivery).operationId = delivery.operationId)
    (hpending : ∀ delivery, (f delivery).pending = delivery.pending)
    (hpreparation : ∀ delivery, s.deliveries id = some delivery →
      delivery.completionPreparation = none
        ∨ (f delivery).completionPreparation = delivery.completionPreparation)
    (hcompleted : ∀ delivery, (f delivery).completed = delivery.completed)
    (hretired : ∀ delivery, (f delivery).retired = delivery.retired) : Updates s role id f where
  identity := hidentity
  operationId := hoperationId
  pending := hpending
  preparation := hpreparation
  completed delivery _ _ hdone := .inl ((hcompleted delivery).symm.trans hdone)
  kept delivery _ _ hdone := (hcompleted delivery).trans hdone
  retired delivery h := (hretired delivery).trans h
  retires delivery _ _ hdone := .inl ((hcompleted delivery).symm.trans hdone)
  retiring delivery h := .inl ((hretired delivery).symm.trans h)

structure Admits (F : Schedule) (t : Nat) (s : State config) (hashed : HashedCall)
    (identity : OperationIdentity) : Prop where
  current : s.invalidated = false
  free : lockedBy s.log = none
  completion : s.completionResult = none
  key : Shared.truthy hashed.call.deliveryId = true
  role : identity.role = hashed.call.role
  retained : ∀ delivery, s.deliveries hashed.call.deliveryId = some delivery →
    delivery.identity = identity ∧ delivery.completed = none
  alone : F.restoresAlone = true → restoreOpen s.log = false
  known : F.unknownBlocks = true → hashed.call.role = .submit → hasUnknown s.log = false

/-- One write of call `t`. -/
inductive Move (F : Schedule) (t : Nat) (s : State config) : State config → Prop
  | quiet {s'} (hframe : Frame s s') (hlog : s'.log = s.log) (hslots : s'.slots = s.slots)
      (happlication : s'.application = s.application)
      (hlookup : s'.applicationLookup = s.applicationLookup) : Move F t s s'
  | publish (phase : Phase) (reason : Option ResponseActionControllerReason)
      (hclear : F.clear s = true) : Move F t s (s.publish phase reason)
  | mark (e : Entry config) (h : Marks F t s e) : Move F t s (s.note e)
  | admitCall (hashed : HashedCall) (identity : OperationIdentity) (key : String)
      (h : Admits F t s hashed identity) : Move F t s (s.admitCall t hashed identity key)
  | hold (operation : Operation)
      (hoperation : operation = .restoreSavedDraft ∨ operation = .refreshApplication)
      (hfree : lockedBy s.log = none)
      (halone : F.restoresAlone = true → operation = .restoreSavedDraft →
        restoreOpen s.log = false) : Move F t s (s.hold t operation)
  | unhold (operation : Operation) (hheld : lockedBy s.log = some (t, operation)) :
      Move F t s (s.unhold t operation)
  | release (role : ResponseActionRole) (id : String)
      (hheld : lockedBy s.log = some (t, .action role id)) : Move F t s (s.release t role id)
  | store {s'} (h : Stores F t s s') : Move F t s s'
  | storeUnchecked (draft : SavedResponseDraft)
      (hheld : ∃ id, lockedBy s.log = some (t, .action .startApplication id)
        ∧ (t, .action .startApplication id) ∈ openOperations s.log)
      (hclear : F.clear s = true)
      (hclean : failedSinceOpening t s.log = false)
      (hversion : F.restoresAlone = true → ∀ version ∈ shownVersions s.log,
        version ≤ draft.draft.version) : Move F t s (s.storeUnchecked t draft)
  | learn {s'} (hcurrent : s.invalidated = false) (hframe : Frame s s') (hlog : s'.log = s.log)
      (hslots : s'.slots = s.slots) : Move F t s s'
  | accept (id : String) (result : ResponseCompletionResult) (hcurrent : s.invalidated = false)
      (hheld : lockedBy s.log = some (t, .action .submit id))
      (hopen : s.completionResult = none) : Move F t s (s.accept t id result)
  | settle (p : Nat) (outcome : Except Failure Outputs) (promise : Promise)
      (hpromise : s.promises p = some promise)
      (hconfirms : ∀ outputs, promise.role = .submit → outcome = .ok outputs →
        Confirms s.log promise.deliveryId outputs)
      (hkept : ∀ outputs, promise.role.keepsOutputs = true → outcome = .ok outputs →
        Completed promise.deliveryId outputs s) : Move F t s (s.settle p outcome)
  | update (role : ResponseActionRole) (id : String) (f : Delivery → Delivery)
      (hheld : lockedBy s.log = some (t, .action role id)) (h : Updates s role id f) :
      Move F t s (s.updateDelivery id f)
  | keep (identity : WidgetIdentity) (result : InvocationResult) (hcurrent : s.invalidated = false)
      (hstatus : result.status = .completed)
      (hconfirms : Confirms s.log result.invocationId result.transitionBindings) :
      Move F t s (s.keepCompleted identity result)
  | invalidate (hclear : F.clear s = true) : Move F t s s.invalidate

end FormspecWeb.Controller
