import FormspecWeb.Shared.Checks
import FormspecWeb.Shared.Text
import FormspecWeb.Shared.Value

/-!
# The draft binding registry

The map from draft keys to server drafts, and the slot of tab metadata that keeps its
locators across reloads. What the server sent is kept as it came, so every field of a
snapshot is a value of unknown shape.
-/

namespace FormspecWeb.DraftStore

open Shared

structure DraftKey where
  formUrl : String
  formVersion : Option String
  subjectRef : Option String
  partyRef : Option String
deriving DecidableEq

/-- A snapshot; a field it lacks is `undefined`. -/
structure DraftBindingSnapshot where
  draftId : Value
  draftVersion : Value
  response : Value
  responseId : Value

def DraftBindingSnapshot.locator (snapshot : DraftBindingSnapshot) : DraftBindingSnapshot :=
  { snapshot with response := .undefined }

/-- An entry of the map, with the operations that wrote it since it was created. -/
structure Binding where
  key : DraftKey
  snapshot : DraftBindingSnapshot
  writers : List Nat

inductive DraftStoreError where
  | failed (message : String)
  | versionConflict (key : DraftKey) (retainedVersion : Option String)
  | http (status : Nat)
deriving DecidableEq

structure RegistryConfig where
  /-- `resolveFormId(formUrl, formVersion)`, which may throw. -/
  resolveFormId : String → Option String → Except DraftStoreError String
  resumeMetadata : Bool

/-- How the tab storage answers: whether it can be read, and which values, or the removal,
it retains. -/
structure MetadataStorage where
  readable : Bool
  retains : Option Value → Bool

def MetadataStorage.reliable : MetadataStorage := ⟨true, fun _ => true⟩

structure Registry where
  bindings : List Binding
  restored : Bool
  /-- The slot `draft-handles`. -/
  metadata : Option Value
  retained : List Binding

def Registry.over (metadata : Option Value) : Registry := ⟨[], false, metadata, []⟩

def storageUnavailable : DraftStoreError :=
  .failed "Tab scoped-metadata storage is unavailable or invalid"

/-- A member that `JSON.stringify` keeps. -/
def jsonMember (key : String) (value : Value) : List (String × Value) :=
  Value.optionalMember key value.defined?

/-- `copyKey(key)`. -/
def keyValue (key : DraftKey) : Value :=
  .object (("formUrl", .string key.formUrl)
    :: (Value.optionalMember "formVersion" (key.formVersion.map .string)
      ++ Value.optionalMember "subjectRef" (key.subjectRef.map .string)
      ++ Value.optionalMember "partyRef" (key.partyRef.map .string)))

/-- The handle `persist` writes for a binding, as it survives serialization. -/
def handleValue (formId : String) (binding : Binding) : Value :=
  .object (("key", keyValue binding.key)
    :: ("formId", .string formId)
    :: (jsonMember "draftId" binding.snapshot.draftId
      ++ jsonMember "draftVersion" binding.snapshot.draftVersion
      ++ jsonMember "responseId" binding.snapshot.responseId))

def toHandle (config : RegistryConfig) (binding : Binding) : Except DraftStoreError Value := do
  let formId ← config.resolveFormId binding.key.formUrl binding.key.formVersion
  return handleValue formId binding

def handles (config : RegistryConfig) (bindings : List Binding) :
    Except DraftStoreError (Option Value) := do
  let written ← bindings.mapM (toHandle config)
  return if written.isEmpty then none else some (.array written)

/-- `value === undefined || typeof value === 'string'`, with the text. -/
def optionalText : Option Value → Option (Option String)
  | none => some none
  | some (.string text) => some (some text)
  | some _ => none

/-- `Number.isInteger(value) && value >= 0`. -/
def isDraftVersion : Value → Bool
  | .number value => value.den == 1 && 0 ≤ value.num
  | _ => false

/-- `typeof value === 'string' && value.trim()`. -/
def isResponseId : Value → Bool
  | .string value => hasText value
  | _ => false

/-- What the checks of a stored handle make of it, up to the one of its form. -/
def handleOf (entry : Value) : Option Binding := do
  let key ← entry.get? "key"
  let formUrl ← (key.get? "formUrl").bind (·.nonEmptyString?)
  let formVersion ← optionalText (key.get? "formVersion")
  let subjectRef ← optionalText (key.get? "subjectRef")
  let partyRef ← optionalText (key.get? "partyRef")
  let draftId ← (entry.get? "draftId").bind (·.nonEmptyString?)
  let draftVersion ← (entry.get? "draftVersion").filter isDraftVersion
  let responseId := entry.get? "responseId"
  if responseId.any (!isResponseId ·) then none
  else
    return ⟨⟨formUrl, formVersion, subjectRef, partyRef⟩,
      ⟨.string draftId, draftVersion, .undefined, responseId.getD .undefined⟩, []⟩

def unmatchedHandle : DraftStoreError :=
  .failed "Stored draft handle does not match its form context"

def restoreHandle (config : RegistryConfig) (entry : Value) : Except DraftStoreError Binding :=
  match handleOf entry with
  | some binding => do
      let formId ← config.resolveFormId binding.key.formUrl binding.key.formVersion
      if (entry.get? "formId").any (·.isString formId) then return binding else throw unmatchedHandle
  | none => .error unmatchedHandle

/-! ## The registry -/

/-- `map.set(serializeKey(key), binding)`; the serialized keys of two bindings agree exactly
when their keys do. -/
def setBinding : List Binding → Binding → List Binding
  | [], binding => [binding]
  | found :: rest, binding =>
    if found.key = binding.key then binding :: rest else found :: setBinding rest binding

namespace Registry

variable (config : RegistryConfig) (storage : MetadataStorage)

def readMetadata (registry : Registry) : Except DraftStoreError (Option Value) :=
  if config.resumeMetadata then
    if storage.readable then .ok registry.metadata else .error storageUnavailable
  else .ok none

def restoreFrom (registry : Registry) : Option Value → Except DraftStoreError Registry
  | none => .ok { registry with restored := true }
  | some saved =>
    match saved.entries? with
    | none => .error (.failed "Stored draft handles are invalid")
    | some entries => do
        let found ← entries.mapM (restoreHandle config)
        return { registry with bindings := found.foldl setBinding registry.bindings, restored := true }

def restore (registry : Registry) : Except DraftStoreError Registry :=
  if registry.restored then .ok registry
  else do
    let saved ← readMetadata config storage registry
    restoreFrom config registry saved

def persist (registry : Registry) : Except DraftStoreError Unit × Registry :=
  match handles config registry.bindings with
  | .error e => (.error e, registry)
  | .ok written =>
    if !config.resumeMetadata then (.ok (), { registry with retained := [] })
    else if storage.retains written then
      (.ok (), { registry with metadata := written, retained := registry.bindings })
    else (.error storageUnavailable, registry)

/-- The two keys name one draft, whatever version of the form they were made for. -/
def sameScope (left right : DraftKey) : Except DraftStoreError Bool := do
  let leftId ← config.resolveFormId left.formUrl left.formVersion
  let rightId ← config.resolveFormId right.formUrl right.formVersion
  return leftId == rightId && left.subjectRef == right.subjectRef && left.partyRef == right.partyRef

/-- The loop of `get` over the retained keys. -/
def refuseVersion (key : DraftKey) : List DraftKey → Except DraftStoreError Unit
  | [] => .ok ()
  | retained :: rest => do
      let same ← sameScope config retained key
      if same && retained.formVersion != key.formVersion then
        throw (.versionConflict key retained.formVersion)
      else refuseVersion key rest

def find (bindings : List Binding) (key : DraftKey) :
    Except DraftStoreError (Option DraftBindingSnapshot) :=
  match bindings.find? fun binding => binding.key = key with
  | some matching => .ok (some matching.snapshot)
  | none => do
      refuseVersion config key (bindings.map (·.key))
      return none

/-- The loop of `delete`: the bindings it leaves, also where it throws on the way. -/
def deleteScope (key : DraftKey) : List Binding → Except DraftStoreError Unit × List Binding
  | [] => (.ok (), [])
  | found :: rest =>
    match sameScope config found.key key with
    | .error e => (.error e, found :: rest)
    | .ok same =>
      let after := deleteScope key rest
      (after.1, if same then after.2 else found :: after.2)

def get (key : DraftKey) (registry : Registry) :
    Except DraftStoreError (Option DraftBindingSnapshot) × Registry :=
  match registry.restore config storage with
  | .error e => (.error e, registry)
  | .ok live => (find config live.bindings key, live)

/-- `{ ...snapshot, ...(snapshot.response?.id ? { responseId: snapshot.response.id } : {}) }`. -/
def withResponseId (snapshot : DraftBindingSnapshot) : DraftBindingSnapshot :=
  match (snapshot.response.get? "id").filter (·.isTruthy) with
  | some id => { snapshot with responseId := id }
  | none => snapshot

def writersOf (bindings : List Binding) (key : DraftKey) : List Nat :=
  ((bindings.find? fun binding => binding.key = key).map (·.writers)).getD []

/-- `put`, by the operation `writer`. -/
def put (writer : Nat) (key : DraftKey) (snapshot : DraftBindingSnapshot) (registry : Registry) :
    Except DraftStoreError Unit × Registry :=
  match registry.restore config storage with
  | .error e => (.error e, registry)
  | .ok live =>
    let binding : Binding := ⟨key, withResponseId snapshot, writer :: writersOf live.bindings key⟩
    persist config storage { live with bindings := setBinding live.bindings binding }

def delete (key : DraftKey) (registry : Registry) : Except DraftStoreError Unit × Registry :=
  match registry.restore config storage with
  | .error _ =>
    if storage.retains none then (.ok (), ⟨[], true, none, []⟩)
    else (.error storageUnavailable, registry)
  | .ok live =>
    match deleteScope config key live.bindings with
    | (.error e, kept) => (.error e, { live with bindings := kept })
    | (.ok _, kept) => persist config storage { live with bindings := kept }

end Registry

/-! ## The bindings of a registry -/

variable {bindings : List Binding} {binding found : Binding}

theorem mem_setBinding (h : found ∈ setBinding bindings binding) :
    found = binding ∨ found ∈ bindings := by
  induction bindings with
  | nil => exact .inl (List.mem_singleton.mp h)
  | cons first rest ih =>
    rw [setBinding] at h
    split at h
    · rcases List.mem_cons.mp h with heq | hrest
      · exact .inl heq
      · exact .inr (List.mem_cons_of_mem _ hrest)
    · rcases List.mem_cons.mp h with rfl | hrest
      · exact .inr List.mem_cons_self
      · rcases ih hrest with heq | hmem
        · exact .inl heq
        · exact .inr (List.mem_cons_of_mem _ hmem)

theorem setBinding_of_notMem (h : binding.key ∉ bindings.map (·.key)) :
    setBinding bindings binding = bindings ++ [binding] := by
  induction bindings with
  | nil => rfl
  | cons first rest ih =>
    rw [List.map_cons, List.mem_cons, not_or] at h
    rw [setBinding, if_neg (Ne.symm h.1), ih h.2, List.cons_append]

theorem nodup_setBinding (h : (bindings.map (·.key)).Nodup) :
    ((setBinding bindings binding).map (·.key)).Nodup := by
  induction bindings with
  | nil => simp [setBinding]
  | cons first rest ih =>
    rw [List.map_cons, List.nodup_cons] at h
    rw [setBinding]
    by_cases hkey : first.key = binding.key
    · rw [if_pos hkey, List.map_cons, List.nodup_cons, ← hkey]
      exact h
    · rw [if_neg hkey, List.map_cons, List.nodup_cons]
      refine ⟨fun hmem => ?_, ih h.2⟩
      obtain ⟨other, hother, hsame⟩ := List.mem_map.mp hmem
      rcases mem_setBinding hother with rfl | hrest
      · exact hkey hsame.symm
      · exact h.1 (List.mem_map.mpr ⟨other, hrest, hsame⟩)

variable {others : List Binding}

theorem mem_foldl_setBinding
    (h : found ∈ others.foldl setBinding bindings) : found ∈ bindings ∨ found ∈ others := by
  induction others generalizing bindings with
  | nil => exact .inl h
  | cons first rest ih =>
    rcases ih h with hset | hrest
    · rcases mem_setBinding hset with rfl | hmem
      · exact .inr List.mem_cons_self
      · exact .inl hmem
    · exact .inr (List.mem_cons_of_mem _ hrest)

theorem nodup_foldl_setBinding (h : (bindings.map (·.key)).Nodup) :
    ((others.foldl setBinding bindings).map (·.key)).Nodup := by
  induction others generalizing bindings with
  | nil => exact h
  | cons first rest ih => exact ih (nodup_setBinding h)

theorem foldl_setBinding (h : ((bindings ++ others).map (·.key)).Nodup) :
    others.foldl setBinding bindings = bindings ++ others := by
  induction others generalizing bindings with
  | nil => rw [List.foldl_nil, List.append_nil]
  | cons first rest ih =>
    have hfirst : first.key ∉ bindings.map (·.key) := by
      intro hmem
      rw [List.map_append, List.nodup_append] at h
      exact h.2.2 _ hmem _ (List.mem_map.mpr ⟨first, List.mem_cons_self, rfl⟩) rfl
    rw [List.foldl_cons, setBinding_of_notMem hfirst, ih (by simpa using h), List.append_assoc,
      List.singleton_append]

variable {config : RegistryConfig} {storage : MetadataStorage} {registry live : Registry}

theorem restoreHandle_ok {entry : Value} :
    restoreHandle config entry = .ok found ↔ handleOf entry = some found
      ∧ ∃ formId, config.resolveFormId found.key.formUrl found.key.formVersion = .ok formId
        ∧ (entry.get? "formId").any (·.isString formId) = true := by
  unfold restoreHandle
  cases handleOf entry with
  | none => simp
  | some binding =>
    constructor
    · intro h
      obtain ⟨formId, hformId, h⟩ := sequence_ok.mp h
      split at h
      · rename_i hsame
        cases h
        exact ⟨rfl, formId, hformId, hsame⟩
      · cases h
    · rintro ⟨hbinding, formId, hformId, hsame⟩
      cases hbinding
      exact sequence_ok.mpr ⟨formId, hformId, if_pos hsame⟩

namespace Registry

theorem restore_of_restored (h : registry.restored = true) :
    registry.restore config storage = .ok registry := by
  rw [restore, if_pos h]

theorem restoreFrom_ok {saved : Option Value} (h : restoreFrom config registry saved = .ok live) :
    live.restored = true ∧ live.metadata = registry.metadata ∧ live.retained = registry.retained
      ∧ ∃ others : List Binding, (∀ binding ∈ others, ∃ entry, restoreHandle config entry = .ok binding)
        ∧ live.bindings = others.foldl setBinding registry.bindings := by
  rcases saved with _ | saved
  · cases h
    exact ⟨rfl, rfl, rfl, [], by simp, rfl⟩
  · rw [restoreFrom] at h
    split at h
    · cases h
    · obtain ⟨others, hmap, heq⟩ := sequence_ok.mp h
      cases heq
      refine ⟨rfl, rfl, rfl, others, fun binding hbinding => ?_, rfl⟩
      obtain ⟨i, hi, rfl⟩ := List.getElem_of_mem hbinding
      have hlength := (mapM_ok.mp hmap).length_eq
      have hone := (mapM_ok.mp hmap).get (by rw [hlength]; exact hi) hi
      exact ⟨_, hone⟩

theorem restore_ok (h : registry.restore config storage = .ok live) :
    live.restored = true ∧ live.metadata = registry.metadata ∧ live.retained = registry.retained
      ∧ ∃ others : List Binding, (∀ binding ∈ others, ∃ entry, restoreHandle config entry = .ok binding)
        ∧ live.bindings = others.foldl setBinding registry.bindings := by
  rw [restore] at h
  split at h
  · rename_i hrestored
    cases h
    exact ⟨hrestored, rfl, rfl, [], by simp, rfl⟩
  · obtain ⟨saved, -, hfrom⟩ := sequence_ok.mp h
    exact restoreFrom_ok hfrom

/-! ## What an operation writes -/

/-- The bindings the registry holds, and those its slot was written from. -/
def entries (registry : Registry) : List Binding := registry.bindings ++ registry.retained

def Written (config : RegistryConfig) (registry : Registry) : Prop :=
  handles config registry.retained = .ok registry.metadata

/-- What operations of a restored registry do: an entry was there before, or everyone who wrote
it wrote an entry of its key before or may write it. -/
structure Tidy (config : RegistryConfig) (writes : Nat → DraftKey → Prop)
    (before after : Registry) : Prop where
  restored : after.restored = true
  entries : ∀ binding ∈ after.entries, binding ∈ before.entries ∨ (binding.writers ≠ []
    ∧ ∀ writer ∈ binding.writers,
      (∃ old ∈ before.entries, old.key = binding.key ∧ writer ∈ old.writers)
        ∨ writes writer binding.key)
  written : config.resumeMetadata = true → Written config before → Written config after

variable {writes : Nat → DraftKey → Prop} {after : Registry}

theorem Tidy.refl (h : registry.restored = true) : Tidy config writes registry registry where
  restored := h
  entries _ hbinding := .inl hbinding
  written _ hwritten := hwritten

theorem Tidy.trans (hfirst : Tidy config writes registry live)
    (hsecond : Tidy config writes live after) : Tidy config writes registry after where
  restored := hsecond.restored
  entries := by
    intro binding hbinding
    rcases hsecond.entries binding hbinding with hmem | ⟨hne, hwriters⟩
    · exact hfirst.entries binding hmem
    · refine .inr ⟨hne, fun writer hwriter => ?_⟩
      rcases hwriters writer hwriter with ⟨old, hold, hkey, hwrote⟩ | hwrites
      · rcases hfirst.entries old hold with hmem | ⟨-, holds⟩
        · exact .inl ⟨old, hmem, hkey, hwrote⟩
        · rw [← hkey]
          exact holds writer hwrote
      · exact .inr hwrites
  written hmetadata hwritten := hsecond.written hmetadata (hfirst.written hmetadata hwritten)

/-- What `persist` comes to: it fails and changes nothing, or writes where there is metadata. -/
theorem persist_cases (config : RegistryConfig) (storage : MetadataStorage) (registry : Registry) :
    (∃ e, registry.persist config storage = (.error e, registry))
      ∨ config.resumeMetadata = false
        ∧ registry.persist config storage = (.ok (), { registry with retained := [] })
      ∨ ∃ written, handles config registry.bindings = .ok written
        ∧ registry.persist config storage
          = (.ok (), { registry with metadata := written, retained := registry.bindings }) := by
  unfold persist
  split
  · exact .inl ⟨_, rfl⟩
  · rename_i written hwritten
    split
    · rename_i hmetadata
      exact .inr (.inl ⟨by simpa using hmetadata, rfl⟩)
    split
    · exact .inr (.inr ⟨written, hwritten, rfl⟩)
    · exact .inl ⟨_, rfl⟩

theorem persist_tidy (h : registry.restored = true) :
    Tidy config writes registry (registry.persist config storage).2 := by
  rcases persist_cases config storage registry with ⟨e, hpersist⟩ | ⟨hnone, hpersist⟩ | ⟨written, hwritten, hpersist⟩
  · rw [hpersist]
    exact Tidy.refl h
  · rw [hpersist]
    refine ⟨h, fun binding hbinding => .inl ?_, fun hmetadata => ?_⟩
    · rw [entries, List.append_nil] at hbinding
      exact List.mem_append_left _ hbinding
    · rw [hnone] at hmetadata
      cases hmetadata
  · rw [hpersist]
    refine ⟨h, fun binding hbinding => .inl ?_, fun _ _ => hwritten⟩
    rcases List.mem_append.mp hbinding with hmem | hmem
    · exact List.mem_append_left _ hmem
    · exact List.mem_append_left _ hmem

theorem get_tidy (h : registry.restored = true) (key : DraftKey) :
    Tidy config writes registry (registry.get config storage key).2 := by
  rw [get, restore_of_restored h]
  exact Tidy.refl h

variable {key : DraftKey}

theorem mem_writersOf {writer : Nat} (h : writer ∈ writersOf bindings key) :
    ∃ old ∈ bindings, old.key = key ∧ writer ∈ old.writers := by
  unfold writersOf at h
  cases hfind : bindings.find? fun binding => binding.key = key with
  | none =>
    rw [hfind] at h
    cases h
  | some old =>
    rw [hfind] at h
    refine ⟨old, List.mem_of_find?_eq_some hfind, ?_, h⟩
    simpa using List.find?_some hfind

theorem put_tidy (h : registry.restored = true) {writer : Nat}
    (hwrites : writes writer key) (snapshot : DraftBindingSnapshot) :
    Tidy config writes registry (registry.put config storage writer key snapshot).2 := by
  rw [put, restore_of_restored h]
  refine Tidy.trans ⟨?_, ?_, ?_⟩ (persist_tidy ?_)
  · exact h
  · intro binding hbinding
    rcases List.mem_append.mp hbinding with hset | hretain
    · rcases mem_setBinding hset with rfl | hmem
      · refine .inr ⟨List.cons_ne_nil _ _, fun n hn => ?_⟩
        rcases List.mem_cons.mp hn with rfl | hold
        · exact .inr hwrites
        · obtain ⟨old, hmem, hkey, hwrote⟩ := mem_writersOf hold
          exact .inl ⟨old, List.mem_append_left _ hmem, hkey, hwrote⟩
      · exact .inl (List.mem_append_left _ hmem)
    · exact .inl (List.mem_append_right _ hretain)
  · exact fun _ hwritten => hwritten
  · exact h

theorem deleteScope_sublist (key : DraftKey) (bindings : List Binding) :
    (deleteScope config key bindings).2.Sublist bindings := by
  induction bindings with
  | nil => exact .slnil
  | cons found rest ih =>
    rw [deleteScope]
    split
    · exact .refl _
    · rename_i same hsame
      cases same
      · exact ih.cons_cons found
      · exact ih.cons found

theorem deleteScope_ok (h : (deleteScope config key bindings).1 = .ok ()) :
    ∀ binding ∈ (deleteScope config key bindings).2, sameScope config binding.key key = .ok false := by
  induction bindings with
  | nil => simp [deleteScope]
  | cons found rest ih =>
    rw [deleteScope] at h ⊢
    split at h
    · cases h
    · rename_i same hsame
      intro binding hbinding
      cases same
      · rcases List.mem_cons.mp hbinding with rfl | hrest
        · exact hsame
        · exact ih h binding hrest
      · exact ih h binding hbinding

theorem delete_tidy (h : registry.restored = true) (key : DraftKey) :
    Tidy config writes registry (registry.delete config storage key).2 := by
  have hkept : ∀ kept : List Binding, kept.Sublist registry.bindings →
      Tidy config writes registry { registry with bindings := kept } := by
    intro kept hsublist
    refine ⟨h, fun binding hbinding => .inl ?_, fun _ hwritten => hwritten⟩
    rcases List.mem_append.mp hbinding with hmem | hmem
    · exact List.mem_append_left _ (hsublist.subset hmem)
    · exact List.mem_append_right _ hmem
  have hsublist : (deleteScope config key registry.bindings).2.Sublist registry.bindings :=
    deleteScope_sublist key registry.bindings
  rw [delete, restore_of_restored h]
  rcases hdelete : deleteScope config key registry.bindings with ⟨result, kept⟩
  rw [hdelete] at hsublist
  simp only [hdelete]
  cases result with
  | error e => exact hkept kept hsublist
  | ok _ => exact (hkept kept hsublist).trans (persist_tidy h)

theorem persist_ok (h : registry.persist config storage = (.ok (), after)) :
    after.bindings = registry.bindings ∧ after.restored = registry.restored
      ∧ (∀ binding ∈ after.retained, binding ∈ registry.bindings)
      ∧ (config.resumeMetadata = true → Written config after) := by
  rcases persist_cases config storage registry with ⟨e, hpersist⟩ | ⟨hnone, hpersist⟩ | ⟨written, hwritten, hpersist⟩
  · rw [hpersist] at h
    cases (Prod.mk.inj h).1
  · obtain ⟨-, rfl⟩ := Prod.mk.inj (hpersist.symm.trans h)
    exact ⟨rfl, rfl, by simp, fun hmetadata => by rw [hnone] at hmetadata; cases hmetadata⟩
  · obtain ⟨-, rfl⟩ := Prod.mk.inj (hpersist.symm.trans h)
    exact ⟨rfl, rfl, fun _ hbinding => hbinding, fun _ => hwritten⟩

theorem delete_ok (h : registry.delete config storage key = (.ok (), after)) :
    after.restored = true ∧ (config.resumeMetadata = true → Written config after)
      ∧ ∀ binding ∈ after.entries, sameScope config binding.key key ≠ .ok true := by
  unfold delete at h
  split at h
  · split at h
    · cases h
      exact ⟨rfl, fun _ => rfl, fun binding hbinding => by cases hbinding⟩
    · cases (Prod.mk.inj h).1
  · rename_i found hfound
    rcases hdelete : deleteScope config key found.bindings with ⟨result, kept⟩
    rw [hdelete] at h
    cases result with
    | error e => cases (Prod.mk.inj h).1
    | ok _ =>
      obtain ⟨hbindings, hrestored, hretained, hwritten⟩ := persist_ok h
      have hother : ∀ binding ∈ kept, sameScope config binding.key key = .ok false := by
        have hdone : (deleteScope config key found.bindings).1 = .ok () := by rw [hdelete]
        have hlast := deleteScope_ok hdone
        rwa [hdelete] at hlast
      refine ⟨hrestored.trans (restore_ok hfound).1, hwritten, fun binding hbinding => ?_⟩
      have hmem : binding ∈ kept := by
        rcases List.mem_append.mp hbinding with hheld | hretain
        · rw [hbindings] at hheld
          exact hheld
        · exact hretained binding hretain
      rw [hother binding hmem]
      simp

def draftOf (registry : Registry) (key : DraftKey) : Option Value :=
  (registry.bindings.find? fun binding => binding.key = key).map (·.snapshot.draftId)

theorem find_setBinding (bindings : List Binding) (binding : Binding) :
    (setBinding bindings binding).find? (fun found => found.key = binding.key) = some binding := by
  induction bindings with
  | nil => simp [setBinding]
  | cons first rest ih =>
    rw [setBinding]
    by_cases hkey : first.key = binding.key
    · rw [if_pos hkey]
      simp
    · rw [if_neg hkey, List.find?_cons_of_neg (by simpa using hkey)]
      exact ih

theorem find_ok {result : Option DraftBindingSnapshot}
    (h : find config registry.bindings key = .ok result) :
    registry.draftOf key = result.map (·.draftId) := by
  unfold find at h
  unfold draftOf
  split at h
  · rename_i matching hfind
    cases h
    rw [hfind]
    rfl
  · rename_i hfind
    obtain ⟨-, -, hnone⟩ := sequence_ok.mp h
    cases hnone
    rw [hfind]
    rfl

theorem get_draftOf (config : RegistryConfig) (storage : MetadataStorage) (registry : Registry)
    (key : DraftKey) :
    (registry.restored = true → (registry.get config storage key).2 = registry)
      ∧ ((registry.get config storage key).2.restored = true
        ∨ (registry.get config storage key).2 = registry)
      ∧ ∀ found, (registry.get config storage key).1 = .ok found →
        (registry.get config storage key).2.restored = true
          ∧ (registry.get config storage key).2.draftOf key = found.map (·.draftId) := by
  unfold get
  refine ⟨fun h => by rw [restore_of_restored h], ?_⟩
  split
  · exact ⟨.inr rfl, nofun⟩
  · rename_i live hlive
    exact ⟨.inl (restore_ok hlive).1, fun found h => ⟨(restore_ok hlive).1, find_ok h⟩⟩

theorem persist_bindings : (registry.persist config storage).2.bindings = registry.bindings
    ∧ (registry.persist config storage).2.restored = registry.restored := by
  rcases persist_cases config storage registry with ⟨e, hpersist⟩ | ⟨-, hpersist⟩ | ⟨written, -, hpersist⟩
  all_goals
    rw [hpersist]
    exact ⟨rfl, rfl⟩

theorem put_draftOf (config : RegistryConfig) (storage : MetadataStorage)
    (h : registry.restored = true) (writer : Nat) (key : DraftKey) (snapshot : DraftBindingSnapshot) :
    (registry.put config storage writer key snapshot).2.restored = true
      ∧ (registry.put config storage writer key snapshot).2.draftOf key = some snapshot.draftId := by
  rw [put, restore_of_restored h]
  refine ⟨persist_bindings.2.trans h, ?_⟩
  have hid : (withResponseId snapshot).draftId = snapshot.draftId := by
    unfold withResponseId
    split <;> rfl
  have hfind := find_setBinding registry.bindings
    ⟨key, withResponseId snapshot, writer :: writersOf registry.bindings key⟩
  rw [draftOf, persist_bindings.1, hfind, Option.map_some, hid]

end Registry

end FormspecWeb.DraftStore
