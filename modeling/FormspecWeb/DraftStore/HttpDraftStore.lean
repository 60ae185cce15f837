import FormspecWeb.Async.Pool
import FormspecWeb.DraftStore.BindingRegistry
import FormspecWeb.Ports.TaskDraftWire

/-!
# The HTTP draft store

The operations of the store as programs over its registry and counters, together with
the server that answers their requests. Every operation takes a ticket when it begins;
tickets are counted up, so they order the operations by their beginning.
-/

namespace FormspecWeb.DraftStore

open Shared Async

structure HttpDraftStoreConfig extends RegistryConfig where
  requireExistingBinding : Bool
  /-- The `canonicalize` package. -/
  canonicalize : Value → Option String

/-- A reply of the server; a member it lacks is `undefined`. -/
structure DraftView where
  draftId : Value
  draftVersion : Value
  draftState : Value
  canonicalResponse : Value
  /-- `is_initialization_only ?? isInitializationOnly`. -/
  isInitializationOnly : Value
  taskDraft : Option Ports.TaskDraftAssociation

inductive DraftRequest where
  | create (formId : String)
      (anonymousSessionToken anonymousSubjectRef respondentSubjectRef partyRef : Option String)
      (draftState canonicalResponse : Value)
  | update (draftId : Value) (anonymousSessionToken : Option String)
      (draftState canonicalResponse expectedDraftVersion : Value)
  | get (draftId : Value) (anonymousSessionToken : Option String) (onlyOk : Bool)

structure OwnedDraftResumeSelection where
  draftId : String
  expectedResponseId : String
deriving DecidableEq

/-! ## The state -/

/-- What the server stored: the draft, the operation whose request it was, the response. -/
structure Stored where
  draftId : Value
  ticket : Nat
  response : Value

structure StoreState where
  registry : Registry
  pendingSaves : List Nat
  clearing : Nat
  generation : Nat
  retirementGeneration : Nat
  requests : List (Nat × DraftRequest)
  answers : List (Nat × DraftRequest × Except DraftStoreError DraftView)
  stored : List Stored
  owners : List Nat
  /-- Clears and retirements: begun, not ended, waiting for saves. -/
  clears : List Nat
  active : List Nat
  settling : List Nat
  /-- Deletions that removed the bindings of their scope, and those that resolved. -/
  cleared : List (Nat × DraftKey)
  deleted : List (Nat × DraftKey)
  /-- Operations that found no binding, create a draft, and have not ended. -/
  creating : List (Nat × DraftKey)
  created : List (Nat × DraftKey)
  saved : List (Nat × DraftKey × Value)

def StoreState.initial (metadata : Option Value) : StoreState where
  registry := Registry.over metadata
  pendingSaves := []
  clearing := 0
  generation := 0
  retirementGeneration := 0
  requests := []
  answers := []
  stored := []
  owners := []
  clears := []
  active := []
  settling := []
  cleared := []
  deleted := []
  creating := []
  created := []
  saved := []

structure Callbacks where
  storage : MetadataStorage
  assertCurrent : Except DraftStoreError Unit
  assertBeforeDispatch : Except DraftStoreError Unit
  randomUUID : String

inductive Purpose where
  | read
  | save
  | initialization (key : DraftKey)
deriving DecidableEq

inductive Label where
  /-- `resolveAnonymousSessionToken(key)`. -/
  | token (key : DraftKey)
  | credentials
  | reply (ticket : Nat) (purpose : Purpose) (request : DraftRequest)
  | validateCanonicalFormResponse (response : Value)
  | qualify (view : DraftView)
  | resolved
  /-- `Promise.allSettled([...this.pendingSaves])`. -/
  | settle (ticket : Nat) (saves : List Nat)
  | clearAnonymousSession (key : DraftKey)

def Rep : Label → Type
  | .token _ => Except DraftStoreError (Option String)
  | .credentials => Except DraftStoreError Unit
  | .reply _ _ _ => Except DraftStoreError DraftView
  | .validateCanonicalFormResponse _ => Except DraftStoreError Bool
  | .qualify _ => Except DraftStoreError Value
  | .resolved => Unit
  | .settle _ _ => Unit
  | .clearAnonymousSession _ => Except DraftStoreError Unit

abbrev Op := Prog StoreState Callbacks DraftStoreError Rep

namespace StoreState

def setRegistry (registry : Registry) (s : StoreState) : StoreState := { s with registry := registry }

def begin (thread : Nat) (s : StoreState) : StoreState := { s with owners := s.owners ++ [thread] }

def send (ticket : Nat) (request : DraftRequest) (s : StoreState) : StoreState :=
  { s with requests := s.requests ++ [(ticket, request)] }

end StoreState

def failed {α : Type} (message : String) : Op α := .done (.error (.failed message))

def takeTicket (thread : Nat) : Op Nat := do
  let s ← Prog.get
  Prog.modify (·.begin thread)
  return s.owners.length

def onRegistry {α : Type} (f : MetadataStorage → Registry → Except DraftStoreError α × Registry) :
    Op α := do
  let callbacks ← Prog.ask
  let s ← Prog.get
  Prog.modify (·.setRegistry (f callbacks.storage s.registry).2)
  Prog.check (f callbacks.storage s.registry).1

variable (config : HttpDraftStoreConfig)

def getBinding (key : DraftKey) : Op (Option DraftBindingSnapshot) :=
  onRegistry fun storage registry => registry.get config.toRegistryConfig storage key

def putBinding (ticket : Nat) (key : DraftKey) (snapshot : DraftBindingSnapshot) : Op Unit :=
  onRegistry fun storage registry => registry.put config.toRegistryConfig storage ticket key snapshot

def deleteBinding (key : DraftKey) : Op Unit :=
  onRegistry fun storage registry => registry.delete config.toRegistryConfig storage key

def respondentSubjectRef (key : DraftKey) : Option String :=
  key.subjectRef.filter fun subject => subject != "" && !subject.startsWith "anon:"

def anonymousSubjectRef (key : DraftKey) : Option String :=
  key.subjectRef.filter (·.startsWith "anon:")

def resolveAnonymousSessionToken (key : DraftKey) : Op (Option String) := do
  let token : Except DraftStoreError (Option String) ← Prog.awaiting (Label.token key)
  Prog.check token

/-- `respondentSubject ? undefined : await this.resolveAnonymousSessionToken(key)`. -/
def anonymousToken (key : DraftKey) : Op (Option String) :=
  if (respondentSubjectRef key).isSome then return none else resolveAnonymousSessionToken key

/-- `anonymousSessionToken ? undefined : respondentSubject`. -/
def respondentUnder (token : Option String) (key : DraftKey) : Option String :=
  if token.any truthy then none else respondentSubjectRef key

def isStatus (reply : Except DraftStoreError DraftView) : Bool :=
  match reply with
  | .error (.http _) => true
  | _ => false

/-- One request of the HTTP client; `current` and `admission` are its two guards. -/
def requestJson (ticket : Nat) (purpose : Purpose) (request : DraftRequest) (current : Op Unit)
    (admission : Callbacks → Except DraftStoreError Unit) : Op DraftView := do
  current
  let credentials : Except DraftStoreError Unit ← Prog.awaiting Label.credentials
  Prog.check credentials
  current
  let callbacks ← Prog.ask
  Prog.check (admission callbacks)
  Prog.modify (·.send ticket request)
  let reply : Except DraftStoreError DraftView ← Prog.awaiting (Label.reply ticket purpose request)
  -- A failure of the transport is not followed by the guard.
  if reply.isOk || isStatus reply then current
  Prog.check reply

def unguarded : Op Unit := return ()

/-! ## Saving -/

/-- The `current` of a save. -/
def saveCurrent (generation : Nat) : Op Unit := do
  let s ← Prog.get
  if generation != s.retirementGeneration then failed "Draft state was retired while saving"
  else return ()

/-- The binding of a draft just created, as `createDraft` puts it. -/
def createdSnapshot (draft : DraftView) (response : Value) : DraftBindingSnapshot :=
  ⟨draft.draftId, draft.draftVersion, response, .undefined⟩

/-- `value.data`. -/
def responseData (response : Value) : Value := (response.get? "data").getD .undefined

def bindCreated (ticket : Nat) (key : DraftKey) (snapshot : DraftBindingSnapshot) : Op Unit :=
  (putBinding config ticket key snapshot).ensuring fun s =>
    { s with created := s.created ++ [(ticket, key)] }

def createDraft (ticket : Nat) (key : DraftKey) (response : Value) (token : Option String)
    (generation : Nat) : Op Unit := do
  let formId ← Prog.check (config.resolveFormId key.formUrl key.formVersion)
  let draft ← requestJson ticket .save
    (.create formId token (anonymousSubjectRef key)
      (respondentUnder token key) key.partyRef (responseData response) response)
    (saveCurrent generation) (·.assertBeforeDispatch)
  saveCurrent generation
  bindCreated config ticket key (createdSnapshot draft response)

def whileCreating {α : Type} (ticket : Nat) (key : DraftKey) (p : Op α) : Op α := do
  Prog.modify fun s => { s with creating := s.creating ++ [(ticket, key)] }
  p.ensuring fun s => { s with creating := s.creating.filter (·.1 != ticket) }

def updateDraft (ticket : Nat) (key : DraftKey) (existing : DraftBindingSnapshot) (response : Value)
    (token : Option String) (generation : Nat) : Op Unit := do
  let update ← requestJson ticket .save
    (.update existing.draftId token (responseData response) response existing.draftVersion)
    (saveCurrent generation) (·.assertBeforeDispatch)
  saveCurrent generation
  putBinding config ticket key ⟨existing.draftId, update.draftVersion, response, .undefined⟩

def saveUnbound (ticket : Nat) (key : DraftKey) (response : Value) (generation : Nat) : Op Unit :=
  if config.requireExistingBinding then do
    let _ ← anonymousToken key
    saveCurrent generation
    failed "Task draft binding is unavailable; relaunch the owning task"
  else whileCreating ticket key do
    let token ← anonymousToken key
    saveCurrent generation
    createDraft config ticket key response token generation

def saveOnce (ticket : Nat) (key : DraftKey) (response : Value) : Op Unit := do
  let s ← Prog.get
  let generation := s.retirementGeneration
  match ← getBinding config key with
  | none => saveUnbound config ticket key response generation
  | some existing => do
      let token ← anonymousToken key
      saveCurrent generation
      updateDraft config ticket key existing response token generation

def save (thread : Nat) (key : DraftKey) (response : Value) : Op Unit := do
  let ticket ← takeTicket thread
  let s ← Prog.get
  if s.clearing != 0 then failed "Draft state is being cleared"
  else do
    Prog.modify fun s => { s with pendingSaves := s.pendingSaves ++ [ticket] }
    (saveOnce config ticket key response).ensuring fun s =>
      { s with pendingSaves := s.pendingSaves.filter (· != ticket) }
    Prog.modify fun s => { s with saved := s.saved ++ [(ticket, key, response)] }

def initialResponse (uuid : String) (key : DraftKey) (formVersionId : Option String) : Value :=
  .object [("id", .string ("urn:uuid:" ++ uuid)), ("definitionUrl", .string key.formUrl),
    ("definitionVersion", .string ((key.formVersion.or formVersionId).getD "1.0.0")),
    ("data", .object [])]

/-- `value ?? byDefault`. -/
def nullish (value byDefault : Value) : Value :=
  match value with
  | .undefined | .null => byDefault
  | found => found

def initializedSnapshot (draft : DraftView) : DraftBindingSnapshot :=
  ⟨draft.draftId, nullish draft.draftVersion (.number 1), draft.canonicalResponse, .undefined⟩

/-- What `initializeDraft` returns. -/
structure InitializedDraft where
  draftId : Value
  isInitializationOnly : Value

def initializeOnce (ticket : Nat) (key : DraftKey) (formVersionId : Option String) :
    Op DraftView := do
  let formId ← Prog.check (config.resolveFormId key.formUrl key.formVersion)
  let token ← anonymousToken key
  let callbacks ← Prog.ask
  requestJson ticket (.initialization key)
    (.create formId token (anonymousSubjectRef key)
      (respondentUnder token key) key.partyRef (.object [])
      (initialResponse callbacks.randomUUID key formVersionId))
    unguarded fun _ => .ok ()

def initializeDraft (thread : Nat) (key : DraftKey) (formVersionId : Option String) :
    Op InitializedDraft := do
  let ticket ← takeTicket thread
  match ← getBinding config key with
  | some existing => return ⟨existing.draftId, .bool false⟩
  | none => whileCreating ticket key do
      let draft ← initializeOnce config ticket key formVersionId
      bindCreated config ticket key (initializedSnapshot draft)
      return ⟨draft.draftId, nullish draft.isInitializationOnly (.bool true)⟩

/-! ## Reading -/

/-- The `current` of a read. -/
def readCurrent (generation : Nat) : Op Unit := do
  let callbacks ← Prog.ask
  Prog.check callbacks.assertCurrent
  let s ← Prog.get
  if generation != s.generation then failed "Draft state was cleared while loading" else return ()

/-- `a === b`, of values that came from different replies. -/
def strictEqual : Value → Value → Bool
  | .undefined, .undefined => true
  | .null, .null => true
  | .bool a, .bool b => a == b
  | .number a, .number b => a == b
  | .string a, .string b => a == b
  | _, _ => false

def conflicts (selection : OwnedDraftResumeSelection) (previous : DraftBindingSnapshot) : Bool :=
  !strictEqual previous.draftId (.string selection.draftId)
    || (previous.responseId.defined?.isSome
      && !strictEqual previous.responseId (.string selection.expectedResponseId))

def selectedSnapshot (selection : OwnedDraftResumeSelection) : DraftBindingSnapshot :=
  ⟨.string selection.draftId, .undefined, .undefined, .string selection.expectedResponseId⟩

def isMatchingView (key : DraftKey) (binding : DraftBindingSnapshot) (view : DraftView)
    (isCanonical : Bool) : Bool :=
  strictEqual view.draftId binding.draftId && view.canonicalResponse.isTruthy && isCanonical
    && isDraftVersion view.draftVersion
    && (view.canonicalResponse.get? "definitionUrl").any (·.isString key.formUrl)
    && (key.formVersion.all fun version =>
      (view.canonicalResponse.get? "definitionVersion").any (·.isString version))
    && config.canonicalize (responseData view.canonicalResponse)
      == config.canonicalize view.draftState

/-- The view is older than what the binding retains, or another response. -/
def isRegressed (binding : DraftBindingSnapshot) (view : DraftView) : Bool :=
  (match view.draftVersion, binding.draftVersion with
    | .number found, .number retained => decide (found < retained)
    | _, _ => false)
  || (binding.responseId.defined?.isSome
    && !((view.canonicalResponse.get? "id").any (strictEqual · binding.responseId)))

def DraftBindingSnapshot.toValue (snapshot : DraftBindingSnapshot) : Value :=
  .object (jsonMember "draftId" snapshot.draftId ++ jsonMember "draftVersion" snapshot.draftVersion
    ++ jsonMember "response" snapshot.response ++ jsonMember "responseId" snapshot.responseId)

def isRebound (previous current : Option DraftBindingSnapshot) : Bool :=
  (current.map (·.toValue)).bind config.canonicalize
    != (previous.map (·.toValue)).bind config.canonicalize

def ensure (condition : Bool) (message : String) : Op Unit :=
  if condition then return () else failed message

/-- `qualify(view)`, or the canonical response. -/
def qualifyView (qualified : Bool) (view : DraftView) : Op Value :=
  if qualified then do
    let result : Except DraftStoreError Value ← Prog.awaiting (Label.qualify view)
    Prog.check result
  else do
    let _ ← Prog.awaiting Label.resolved
    return view.canonicalResponse

def currentBinding (key : DraftKey) (selects : Bool) (previous : Option DraftBindingSnapshot) :
    Op (Option DraftBindingSnapshot) :=
  if selects then getBinding config key else return previous

def readView (ticket : Nat) (key : DraftKey) (qualified : Bool)
    (selection : Option OwnedDraftResumeSelection) (previous : Option DraftBindingSnapshot)
    (binding : DraftBindingSnapshot) (generation : Nat) : Op (Option Value) := do
  let token ← resolveAnonymousSessionToken key
  readCurrent generation
  let view ← requestJson ticket .read (.get binding.draftId token qualified) (readCurrent generation)
    fun _ => .ok ()
  readCurrent generation
  ensure (selection.isNone || view.taskDraft.isNone)
    "Task-owned draft requires its maintained task entry"
  ensure (Ports.isTaskDraftWire view.taskDraft) "Task draft association is invalid"
  let validation : Except DraftStoreError Bool ←
    Prog.awaiting (Label.validateCanonicalFormResponse view.canonicalResponse)
  let isCanonical ← Prog.check validation
  ensure (isMatchingView config key binding view isCanonical)
    "Server draft has no matching canonical Response snapshot"
  ensure (selection.all fun selected =>
      (view.canonicalResponse.get? "id").any (·.isString selected.expectedResponseId))
    "Owned draft resume Response identity differs"
  ensure (!qualified || !isRegressed binding view)
    "Owned draft state regressed from its retained identity or revision"
  readCurrent generation
  let result ← qualifyView qualified view
  readCurrent generation
  let current ← currentBinding config key selection.isSome previous
  ensure (!selection.isSome || !isRebound config previous current)
    "Owned draft binding changed while resuming"
  putBinding config ticket key
    ⟨view.draftId, view.draftVersion, view.canonicalResponse, .undefined⟩
  return some result

def recoverRead (key : DraftKey) (qualified : Bool) (generation : Nat) (error : DraftStoreError) :
    Op (Option Value) := do
  readCurrent generation
  if error == .http 404 && !qualified then do
    deleteBinding config key
    return none
  else throw error

/-- `load` where it is not qualified; `readState` where it is, and `resumeState` where a draft
is selected. -/
def read (thread : Nat) (key : DraftKey) (qualified : Bool)
    (selection : Option OwnedDraftResumeSelection) : Op (Option Value) := do
  let ticket ← takeTicket thread
  let s ← Prog.get
  let generation := s.generation
  readCurrent generation
  let previous ← getBinding config key
  if selection.isSome && (respondentSubjectRef key).isNone then
    failed "Owned draft resume requires an authenticated owner"
  else if selection.any fun selected => previous.any (conflicts selected) then
    failed "Owned draft resume conflicts with a retained binding"
  else
    match previous.or (selection.map selectedSnapshot) with
    | none => return none
    | some binding =>
      tryCatch (readView config ticket key qualified selection previous binding generation)
        (recoverRead config key qualified generation)

/-! ## Clearing -/

def beginClear (ticket : Nat) (s : StoreState) : StoreState :=
  { s with
    clearing := s.clearing + 1
    generation := s.generation + 1
    clears := s.clears ++ [ticket]
    active := s.active ++ [ticket] }

def endClear (ticket : Nat) (s : StoreState) : StoreState :=
  { s with
    clearing := s.clearing - 1
    active := s.active.filter (· != ticket) }

/-- `await Promise.allSettled([...this.pendingSaves])`. -/
def settleSaves (ticket : Nat) : Op Unit := do
  let s ← Prog.get
  Prog.modify fun s => { s with settling := s.settling ++ [ticket] }
  let _ ← Prog.awaiting (Label.settle ticket s.pendingSaves)
  Prog.modify fun s => { s with settling := s.settling.filter (· != ticket) }

def clearBindings (ticket : Nat) (key : DraftKey) : Op Unit := do
  settleSaves ticket
  deleteBinding config key
  Prog.modify fun s => { s with cleared := s.cleared ++ [(ticket, key)] }
  let session : Except DraftStoreError Unit ← Prog.awaiting (Label.clearAnonymousSession key)
  Prog.check session

def delete (thread : Nat) (key : DraftKey) : Op Unit := do
  let ticket ← takeTicket thread
  Prog.modify (beginClear ticket)
  (clearBindings config ticket key).ensuring (endClear ticket)
  Prog.modify fun s => { s with deleted := s.deleted ++ [(ticket, key)] }

def retiredSnapshot (snapshot : DraftBindingSnapshot) : DraftBindingSnapshot :=
  ⟨snapshot.draftId, snapshot.draftVersion, .undefined, snapshot.responseId⟩

/-- The loop of `retireSubject`. -/
def retireEach (storage : MetadataStorage) (ticket : Nat) (subject : String) :
    List Binding → Registry → Except DraftStoreError Unit × Registry
  | [], registry => (.ok (), registry)
  | binding :: rest, registry =>
    if binding.key.subjectRef = some subject then
      match registry.put config.toRegistryConfig storage ticket binding.key
          (retiredSnapshot binding.snapshot) with
      | (.error e, after) => (.error e, after)
      | (.ok _, after) => retireEach storage ticket subject rest after
    else retireEach storage ticket subject rest registry

/-- The loop over `this.bindings.entries()`. -/
def retireBindings (ticket : Nat) (subject : String) (storage : MetadataStorage)
    (registry : Registry) : Except DraftStoreError Unit × Registry :=
  match registry.restore config.toRegistryConfig storage with
  | .error e => (.error e, registry)
  | .ok live => retireEach config storage ticket subject live.bindings live

def retireSubject (thread : Nat) (subject : String) : Op Unit := do
  let ticket ← takeTicket thread
  Prog.modify fun s => { s with retirementGeneration := s.retirementGeneration + 1 }
  Prog.modify (beginClear ticket)
  (do
    settleSaves ticket
    onRegistry (retireBindings config ticket subject)).ensuring (endClear ticket)

def storedFor (ticket : Nat) (view : DraftView) : DraftRequest → List Stored
  | .create _ _ _ _ _ _ canonicalResponse => [⟨view.draftId, ticket, canonicalResponse⟩]
  | .update draftId _ _ canonicalResponse _ => [⟨draftId, ticket, canonicalResponse⟩]
  | .get _ _ _ => []

def serve (ticket : Nat) (answer : Except DraftStoreError DraftView) : Op Unit := do
  let s ← Prog.get
  match s.requests.find? (·.1 == ticket) with
  | none => return ()
  | some (_, request) =>
    Prog.modify fun s => { s with
      requests := s.requests.filter (·.1 != ticket)
      answers := s.answers ++ [(ticket, request, answer)]
      stored := s.stored ++ (answer.toOption.map fun view => storedFor ticket view request).getD [] }

inductive StoreOp where
  | read (key : DraftKey) (qualified : Bool) (selection : Option OwnedDraftResumeSelection)
  | save (key : DraftKey) (response : Value)
  | initializeDraft (key : DraftKey) (formVersionId : Option String)
  | delete (key : DraftKey)
  | retireSubject (subject : String)
  | serve (ticket : Nat) (answer : Except DraftStoreError DraftView)

inductive Arrival where
  | token (result : Except DraftStoreError (Option String))
  | credentials (result : Except DraftStoreError Unit)
  | delivered
  | lost (error : DraftStoreError)
  | validated (result : Except DraftStoreError Bool)
  | qualified (result : Except DraftStoreError Value)
  | settled
  | sessionCleared (result : Except DraftStoreError Unit)

/-- Saves a clear waits for have settled; of several clears that wait, the one that began first
goes on first, since the saves it waits for settled no later. -/
def isSettled (s : StoreState) (ticket : Nat) (saves : List Nat) : Bool :=
  saves.all (fun save => !s.pendingSaves.contains save) && s.settling.head? == some ticket

def accept (s : StoreState) : (l : Label) → Arrival → Option (Rep l)
  | .token _, .token result => some result
  | .credentials, .credentials result => some result
  | .reply ticket _ _, .delivered =>
    (s.answers.find? (·.1 == ticket)).map fun (_, _, answer) => answer
  | .reply _ _ _, .lost error => some (.error error)
  | .validateCanonicalFormResponse _, .validated result => some result
  | .qualify _, .qualified result => some result
  | .resolved, .settled => some ()
  | .settle ticket saves, .settled => if isSettled s ticket saves then some () else none
  | .clearAnonymousSession _, .sessionCleared result => some result
  | _, _ => none

def program (thread : Nat) : StoreOp → Op Unit
  | .read key qualified selection => do let _ ← read config thread key qualified selection
  | .save key response => save config thread key response
  | .initializeDraft key formVersionId => do
      let _ ← initializeDraft config thread key formVersionId
  | .delete key => delete config thread key
  | .retireSubject subject => retireSubject config thread subject
  | .serve ticket answer => serve ticket answer

def draftStore : System StoreState Callbacks DraftStoreError StoreOp Arrival Rep where
  program := program config
  accept := accept

end FormspecWeb.DraftStore
