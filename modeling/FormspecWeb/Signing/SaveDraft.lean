import FormspecWeb.DraftStore.BindingRegistry
import FormspecWeb.Signing.Markers
import FormspecWeb.Signing.ScopeFence
import Mathlib.Logic.Function.Basic
import Mathlib.Data.List.Basic

/-!
# Saving a draft

`saveDraft` of the signing adapter over the draft store and the scope fence. A save that finds no
binding marks its scope before the store creates the draft, and takes the mark off when the created
draft has been read back as it was sent. An event is a call, or the answer one of its awaits gets;
they interleave in any order, for any number of scopes.
-/

namespace FormspecWeb.Signing

open Shared DraftStore

structure SaveInput where
  operationId : String
  formId : Option String
  draftKey : DraftKey
  definitionUrl : String
  definitionVersion : String
  formVersionId : String
  response : Value
  action : Value

/-- An owned draft that was read and passed `validateView`. -/
structure OwnedDraft where
  version : Int
  response : Value

structure SaveConfig where
  scopeFor : DraftKey → String
  formIdFor : DraftKey → String
  canonicalize : Value → String
  handoffHash : Value → String
  /-- The authored request of the action is the exact draft operation, of this draft or a new one. -/
  qualifySaveAction : SaveInput → Option (Value × Int) → Bool
  registry : RegistryConfig
  requireExistingBinding : Bool

structure RunId where
  scope : String
  run : Nat
deriving DecidableEq

inductive Reply where
  | accepted (draftId draftVersion : Value)
  | refused (title : String)
  | lost (message : String)

def Reply.definitive : Reply → Bool
  | lost _ => false
  | _ => true

/-- Where a save waits. `existing` is the draft of its binding, and none where it had none. -/
inductive SaveStage where
  | queued
  | validating
  | reading (binding : DraftBindingSnapshot)
  /-- With the markers that were listed before the candidate is hashed. -/
  | hashing (listed : List CreateMarker)
  | admitting (existing : Option OwnedDraft) (target : Option DraftBindingSnapshot)
  | writing (existing : Option OwnedDraft) (target : Option DraftBindingSnapshot)
  | readback (existing : Option OwnedDraft) (binding : DraftBindingSnapshot)
  | evidence (existing : Option OwnedDraft) (binding : DraftBindingSnapshot) (saved : OwnedDraft)

inductive Work where
  | save (input : SaveInput) (stage : SaveStage)
  /-- `readState`, with the binding it reads. -/
  | read (key : DraftKey) (binding : Option DraftBindingSnapshot)

/-- What the saves and clears did with the markers, and what their requests came to. -/
inductive CreateEntry where
  | listed (id : RunId)
  | wrote (id : RunId) (input : SaveInput)
  | dispatched (id : RunId) (creates : Bool)
  | answered (id : RunId) (reply : Reply)
  /-- A save confirmed the draft it created, and took the markers of its scope off. -/
  | confirmed (id : RunId)
  | cleared (scope : String)

def CreateEntry.removes (scope : String) : CreateEntry → Bool
  | .confirmed id => id.scope == scope
  | .cleared other => other == scope
  | _ => false

structure SaveState where
  fences : ScopeFence String (Option OwnedDraft)
  work : RunId → Option Work
  /-- The operations in `saves`, with their scopes. -/
  saves : List (String × String)
  /-- The slot `response-draft-create-operations`. -/
  createSlot : Option Value
  bindings : List Binding
  clearing : Nat
  /-- Newest first. -/
  log : List CreateEntry

def SaveConfig.markerOf (config : SaveConfig) (scope : String) (input : SaveInput) : CreateMarker :=
  ⟨scope, input.operationId, input.definitionUrl, input.definitionVersion,
    config.handoffHash input.response⟩

def SaveConfig.same (config : SaveConfig) (left right : Value) : Bool :=
  config.canonicalize left == config.canonicalize right

/-- The checks of `validateUnsigned` before `validateResponse`. -/
def SaveInput.isUnsigned (input : SaveInput) : Bool :=
  hasText input.formVersionId && (input.response.get? "id").any isResponseId
    && !isSigned input.response
    && !((input.response.get? "extensions").bind (·.get? signingContentKey)).any (·.isTruthy)
    && (input.response.get? "definitionUrl").any (·.isString input.definitionUrl)
    && (input.response.get? "definitionVersion").any (·.isString input.definitionVersion)
    && input.draftKey.formUrl == input.definitionUrl
    && input.draftKey.formVersion == some input.definitionVersion

def SaveInput.isConfigured (config : SaveConfig) (input : SaveInput) : Bool :=
  input.formId.any fun formId => hasText formId && formId == config.formIdFor input.draftKey

def unresolvedMessage : String :=
  "A signing operation is unresolved. Restore its frozen act or explicitly clear this saved draft "
    ++ "before starting another act."

namespace SaveState

variable (config : SaveConfig)

def opened (bindings : List Binding) : SaveState :=
  ⟨.initial, fun _ => none, [], none, bindings, 0, []⟩

def note (s : SaveState) (entry : CreateEntry) : SaveState := { s with log := entry :: s.log }

def putCreateMarkers (s : SaveState) (markers : List CreateMarker) : SaveState :=
  { s with createSlot := writeCreateMarkers markers }

def remaining (s : SaveState) : List CreateMarker := (readCreateMarkers s.createSlot).getD []

/-- `refuseUnresolved(key)` throws. -/
def refuseUnresolved (s : SaveState) (scope : String) : Bool :=
  (readCreateMarkers s.createSlot).all fun markers => markers.any (·.scope == scope)

def fence (s : SaveState) (scope : String) (act : Scoped.Act (Option OwnedDraft)) :
    Option SaveState :=
  ((s.fences.get scope).step act).map fun entries =>
    { s with fences := s.fences.set scope entries }

def runOf (s : SaveState) (id : RunId) : Option (FencedRun (Option OwnedDraft)) :=
  (s.fences.get id.scope).runs[id.run]?

/-- `current(context)` does not throw. -/
def current (s : SaveState) (id : RunId) : Bool :=
  (s.runOf id).any fun run => (s.fences.get id.scope).isCurrent run.generation

def live (s : SaveState) (id : RunId) : Option Work :=
  if (s.runOf id).any (·.phase.isExecuting) then s.work id else none

def setWork (s : SaveState) (id : RunId) (work : Option Work) : SaveState :=
  { s with work := Function.update s.work id work }

def go (s : SaveState) (id : RunId) (input : SaveInput) (stage : SaveStage) : SaveState :=
  s.setWork id (some (.save input stage))

def finish (s : SaveState) (id : RunId) (outcome : Except String (Option OwnedDraft)) :
    Option SaveState :=
  (s.setWork id none).fence id.scope (.finish id.run outcome)

def reject (s : SaveState) (id : RunId) (message : String) : Option SaveState :=
  s.finish id (.error message)

def putBinding (s : SaveState) (key : DraftKey) (snapshot : DraftBindingSnapshot) : SaveState :=
  { s with bindings := setBinding s.bindings ⟨key, Registry.withResponseId snapshot, []⟩ }

/-- `bindings.get(key)`. -/
def binding (s : SaveState) (key : DraftKey) :
    Except DraftStoreError (Option DraftBindingSnapshot) :=
  Registry.find config.registry s.bindings key

def conflictMessage : String :=
  "A saved draft belongs to another form version. Open its original package or explicitly clear "
    ++ "the saved draft before starting this version."

def run (s : SaveState) (scope : String) (work : Work) : SaveState :=
  let entries := s.fences.get scope
  let t := { s with fences := s.fences.set scope entries.run }
  if entries.clearing || entries.pending.isSome then t
  else t.setWork ⟨scope, entries.runs.length⟩ (some work)

/-- `saveDraft(input, options)`; `guard` is the first answer of `assertBeforeDispatch`. An operation
that is in `saves` is joined, or refused. -/
def saveDraft (s : SaveState) (input : SaveInput) (guard : Bool) : SaveState :=
  let scope := config.scopeFor input.draftKey
  if !isUuidV7IdempotencyKey input.operationId || !guard
      || s.saves.any (·.1 == input.operationId) then s
  else { s.run scope (.save input .queued) with saves := (input.operationId, scope) :: s.saves }

def readState (s : SaveState) (key : DraftKey) : SaveState :=
  s.run (config.scopeFor key) (.read key none)

def preflight (s : SaveState) (id : RunId) (input : SaveInput) : Option SaveState :=
  if s.refuseUnresolved id.scope then s.reject id unresolvedMessage
  else if !input.isConfigured config then
    s.reject id "Save publication form id differs from the configured form"
  else if !input.isUnsigned then s.reject id "Save requires an unsigned pinned Response"
  else some (s.go id input .validating)

def start (s : SaveState) (id : RunId) : Option SaveState := do
  let s ← s.fence id.scope (.start id.run)
  match s.work id with
  | some (.save input .queued) => s.preflight config id input
  | some (.read key _) =>
    match s.binding config key with
    | .error _ => s.reject id conflictMessage
    | .ok none => s.finish id (.ok none)
    | .ok (some binding) => some (s.setWork id (some (.read key (some binding))))
  | _ => none

/-- A save without a binding lists the markers, and hashes its candidate. -/
def listMarkers (s : SaveState) (id : RunId) (input : SaveInput) : Option SaveState :=
  if !config.qualifySaveAction input none then
    s.reject id "Authored Save request differs from the exact private draft operation"
  else if !s.current id then s.reject id Scoped.staleMessage
  else
    match readCreateMarkers s.createSlot with
    | none => s.reject id unresolvedMessage
    | some markers => some ((s.go id input (.hashing markers)).note (.listed id))

/-- `validateResponse` has answered. -/
def validated (s : SaveState) (id : RunId) (valid : Bool) : Option SaveState :=
  match s.live id with
  | some (.save input .validating) =>
    if !valid then s.reject id "Save requires an unsigned pinned Response"
    else
      match s.binding config input.draftKey with
      | .error _ => s.reject id conflictMessage
      | .ok none => s.listMarkers config id input
      | .ok (some binding) => some (s.go id input (.reading binding))
  | _ => none

def readSaved (s : SaveState) (id : RunId) (input : SaveInput) (existing : Option OwnedDraft) :
    Option SaveState :=
  if !s.current id then s.reject id Scoped.staleMessage
  else
    match s.binding config input.draftKey with
    | .error _ => s.reject id conflictMessage
    | .ok none => s.reject id unresolvedMessage
    | .ok (some binding) => some (s.go id input (.readback existing binding))

/-- The store's save has rejected; a bound draft may have been written all the same. -/
def storeFailed (s : SaveState) (id : RunId) (input : SaveInput) (existing : Option OwnedDraft)
    (message : String) : Option SaveState :=
  if !s.current id then s.reject id Scoped.staleMessage
  else if existing.isNone then s.reject id message
  else s.readSaved config id input existing

/-- `drafts.save(key, response)` up to its first await. -/
def enterStore (s : SaveState) (id : RunId) (input : SaveInput) (existing : Option OwnedDraft) :
    Option SaveState :=
  if s.clearing != 0 then s.storeFailed config id input existing "Draft state is being cleared"
  else
    match s.binding config input.draftKey with
    | .error _ => s.storeFailed config id input existing conflictMessage
    | .ok target => some (s.go id input (.admitting existing target))

def owned (s : SaveState) (id : RunId) (view : Except String OwnedDraft) : Option SaveState :=
  match s.live id with
  | some (.save input (.reading binding)) =>
    if !s.current id then s.reject id Scoped.staleMessage
    else
      match view with
      | .error message => s.reject id message
      | .ok existing =>
        if integer? binding.draftVersion != some existing.version || isSigned existing.response
        then s.reject id "Saved draft changed before Save"
        else if !config.qualifySaveAction input (some (binding.draftId, existing.version)) then
          s.reject id "Authored Save request differs from the exact private draft operation"
        else s.enterStore config id input (some existing)
  | _ => none

def storageMessage : String := "Tab scoped-metadata storage is unavailable or invalid"

/-- The candidate has been hashed: the marker is written behind the ones listed before. -/
def hashed (s : SaveState) (id : RunId) (retains : Bool) : Option SaveState :=
  match s.live id with
  | some (.save input (.hashing listed)) =>
    if !config.registry.resumeMetadata then s.reject id unresolvedMessage
    else if !retains then s.reject id storageMessage
    else
      let s := (s.putCreateMarkers (listed ++ [config.markerOf id.scope input])).note
        (.wrote id input)
      if !s.current id then s.reject id Scoped.staleMessage
      else s.enterStore config id input none
  | _ => none

/-- The store has its credentials, and is about to send its request: `current(context)`, and then
the guard of the caller, may refuse that. -/
def admitted (s : SaveState) (id : RunId) (credentials guard : Except String Unit) :
    Option SaveState :=
  match s.live id with
  | some (.save input (.admitting existing target)) =>
    if target.isNone && config.requireExistingBinding then
      s.storeFailed config id input existing
        "Task draft binding is unavailable; relaunch the owning task"
    else
      match credentials, guard with
      | .error message, _ => s.storeFailed config id input existing message
      | .ok _, guard =>
        if !s.current id then s.reject id Scoped.staleMessage
        else
          match guard with
          | .error message => s.reject id message
          | .ok _ =>
            some ((s.go id input (.writing existing target)).note
              (.dispatched id target.isNone))
  | _ => none

def writtenSnapshot (target : Option DraftBindingSnapshot) (draftId draftVersion response : Value) :
    DraftBindingSnapshot :=
  ⟨(target.map (·.draftId)).getD draftId, draftVersion, response, .undefined⟩

/-- The request has come to its end; the store binds what it wrote, whoever still waits for it. -/
def replied (s : SaveState) (id : RunId) (reply : Reply) : Option SaveState :=
  match s.live id with
  | some (.save input (.writing existing target)) =>
    let s := s.note (.answered id reply)
    match reply with
    | .accepted draftId draftVersion =>
      let snapshot := writtenSnapshot target draftId draftVersion input.response
      (s.putBinding input.draftKey snapshot).readSaved config id input existing
    | .refused message | .lost message => s.storeFailed config id input existing message
  | _ => none

def savedVersion (existing : Option OwnedDraft) : Int :=
  (existing.map fun draft => draft.version + 1).getD 1

/-- The saved draft has been read; `outputs` are the declared outputs of the action. -/
def readBack (s : SaveState) (id : RunId) (view : Except String OwnedDraft) (outputs : Bool) :
    Option SaveState :=
  match s.live id with
  | some (.save input (.readback existing binding)) =>
    if !s.current id then s.reject id Scoped.staleMessage
    else
      match view with
      | .error message => s.reject id message
      | .ok saved =>
        if saved.version != savedVersion existing || !config.same saved.response input.response
        then s.reject id "Save differs from the exact saved Response"
        else if !outputs then s.reject id "Draft operation declares unsupported outputs"
        else some (s.go id input (.evidence existing binding saved))
  | _ => none

def confirm (s : SaveState) (id : RunId) (saved : OwnedDraft) : Option SaveState :=
  match readCreateMarkers s.createSlot with
  | none => s.reject id unresolvedMessage
  | some markers =>
    ((s.putCreateMarkers (markers.filter (·.scope != id.scope))).note (.confirmed id)).finish id
      (.ok (some saved))

/-- The saved response has been hashed; `retains` answers the binding's handle. -/
def evidenced (s : SaveState) (id : RunId) (retains : Bool) : Option SaveState :=
  match s.live id with
  | some (.save input (.evidence existing binding saved)) =>
    if !s.current id then s.reject id Scoped.staleMessage
    else
      let s := s.putBinding input.draftKey
        ⟨binding.draftId, .number saved.version, saved.response, .undefined⟩
      if !retains then s.reject id storageMessage
      else if existing.isNone then s.confirm id saved
      else s.finish id (.ok (some saved))
  | _ => none

/-- The draft of a `readState` has been read. -/
def stateRead (s : SaveState) (id : RunId) (view : Except String OwnedDraft) : Option SaveState :=
  match s.live id with
  | some (.read key (some binding)) =>
    if !s.current id then s.reject id Scoped.staleMessage
    else
      match view with
      | .error message => s.reject id message
      | .ok draft =>
        if s.refuseUnresolved id.scope then s.reject id unresolvedMessage
        else
          (s.putBinding key
            ⟨binding.draftId, .number draft.version, draft.response, .undefined⟩).finish id
            (.ok (some draft))
  | _ => none

/-- The clear deletes the draft in the store, behind the run it waited for. -/
def wake (s : SaveState) (scope : String) (clear : Nat) : Option SaveState :=
  (s.fence scope (.wake clear)).map fun t => { t with clearing := t.clearing + 1 }

def clearScope (s : SaveState) (scope : String) : SaveState :=
  let s := { s with saves := s.saves.filter (·.2 != scope) }
  match readCreateMarkers s.createSlot with
  | none => s
  | some markers =>
    if config.registry.resumeMetadata then
      (s.putCreateMarkers (markers.filter (·.scope != scope))).note (.cleared scope)
    else s

/-- The store has deleted the draft; `ended` where the anonymous session could be cleared too. -/
def cleared (s : SaveState) (key : DraftKey) (clear : Nat) (ended : Bool) : Option SaveState :=
  (s.fence (config.scopeFor key) (.endClear clear)).map fun t =>
    let deleted := Registry.deleteScope config.registry key t.bindings
    let t := { t with clearing := t.clearing - 1, bindings := deleted.2 }
    if deleted.1.isOk && ended then t.clearScope config (config.scopeFor key) else t

inductive Event where
  | saveDraft (input : SaveInput) (guard : Bool)
  | readState (key : DraftKey)
  | start (id : RunId)
  | validated (id : RunId) (valid : Bool)
  | owned (id : RunId) (view : Except String OwnedDraft)
  | hashed (id : RunId) (retains : Bool)
  | admitted (id : RunId) (credentials guard : Except String Unit)
  | replied (id : RunId) (reply : Reply)
  | readBack (id : RunId) (view : Except String OwnedDraft) (outputs : Bool)
  | evidenced (id : RunId) (retains : Bool)
  | stateRead (id : RunId) (view : Except String OwnedDraft)
  | settle (id : RunId)
  | release (id : RunId)
  | invalidate (key : DraftKey)
  | clear (key : DraftKey)
  | wake (scope : String) (clear : Nat)
  | cleared (key : DraftKey) (clear : Nat) (ended : Bool)

def step (s : SaveState) : Event → Option SaveState
  | .saveDraft input guard => some (s.saveDraft config input guard)
  | .readState key => some (s.readState config key)
  | .start id => s.start config id
  | .validated id valid => s.validated config id valid
  | .owned id view => s.owned config id view
  | .hashed id retains => s.hashed config id retains
  | .admitted id credentials guard => s.admitted config id credentials guard
  | .replied id reply => s.replied config id reply
  | .readBack id view outputs => s.readBack config id view outputs
  | .evidenced id retains => s.evidenced id retains
  | .stateRead id view => s.stateRead id view
  | .settle id => s.fence id.scope (.settle id.run)
  | .release id => s.fence id.scope (.release id.run)
  | .invalidate key => s.fence (config.scopeFor key) .invalidate
  | .clear key => s.fence (config.scopeFor key) .clear
  | .wake scope clear => s.wake scope clear
  | .cleared key clear ended => s.cleared config key clear ended

end SaveState

end FormspecWeb.Signing
