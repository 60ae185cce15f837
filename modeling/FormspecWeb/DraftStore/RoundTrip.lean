import FormspecWeb.DraftStore.HttpDraftStore

/-!
# Restoring the binding registry

What `persist` writes, read back by the restore of a fresh registry. The two are separate
code: the writer takes any snapshot, and the reader refuses the whole slot over one handle
it finds invalid. So the locators survive a reload exactly when every binding held is one
the reader accepts.
-/

namespace FormspecWeb.DraftStore

open Shared

variable {config : RegistryConfig} {binding : Binding} {bindings : List Binding}
  {registry live : Registry}

structure Restorable (binding : Binding) : Prop where
  formUrl : binding.key.formUrl ≠ ""
  draftId : ∃ id, binding.snapshot.draftId = .string id ∧ id ≠ ""
  draftVersion : isDraftVersion binding.snapshot.draftVersion = true
  responseId : binding.snapshot.responseId = .undefined
    ∨ isResponseId binding.snapshot.responseId = true

def Binding.reloaded (binding : Binding) : Binding := ⟨binding.key, binding.snapshot.locator, []⟩

/-! ## What a handle reads as -/

theorem defined?_bind_defined? (value : Value) :
    value.defined?.bind Value.defined? = value.defined? := by
  cases value <;> rfl

theorem getD_defined? (value : Value) : value.defined?.getD .undefined = value := by
  cases value <;> rfl

theorem keyValue_get? (key : DraftKey) :
    (keyValue key).get? "formUrl" = some (.string key.formUrl)
      ∧ (keyValue key).get? "formVersion" = key.formVersion.map .string
      ∧ (keyValue key).get? "subjectRef" = key.subjectRef.map .string
      ∧ (keyValue key).get? "partyRef" = key.partyRef.map .string := by
  obtain ⟨formUrl, formVersion, subjectRef, partyRef⟩ := key
  cases formVersion <;> cases subjectRef <;> cases partyRef <;> exact ⟨rfl, rfl, rfl, rfl⟩

theorem handleValue_get? (formId : String) (binding : Binding) :
    (handleValue formId binding).get? "key" = some (keyValue binding.key)
      ∧ (handleValue formId binding).get? "formId" = some (.string formId)
      ∧ (handleValue formId binding).get? "draftId" = binding.snapshot.draftId.defined?
      ∧ (handleValue formId binding).get? "draftVersion" = binding.snapshot.draftVersion.defined?
      ∧ (handleValue formId binding).get? "responseId" = binding.snapshot.responseId.defined? := by
  rw [← defined?_bind_defined? binding.snapshot.draftId,
    ← defined?_bind_defined? binding.snapshot.draftVersion,
    ← defined?_bind_defined? binding.snapshot.responseId]
  unfold handleValue jsonMember
  cases binding.snapshot.draftId.defined? <;> cases binding.snapshot.draftVersion.defined? <;>
    cases binding.snapshot.responseId.defined? <;> exact ⟨rfl, rfl, rfl, rfl, rfl⟩

theorem optionalText_map (text : Option String) :
    optionalText (text.map .string) = some text := by
  cases text <;> rfl

theorem handleOf_handleValue (h : Restorable binding) (formId : String) :
    handleOf (handleValue formId binding) = some binding.reloaded := by
  obtain ⟨id, hid, hne⟩ := h.draftId
  obtain ⟨hkey, -, hdraftId, hversion, hresponseId⟩ := handleValue_get? formId binding
  obtain ⟨hurl, hformVersion, hsubject, hparty⟩ := keyValue_get? binding.key
  have hformUrl : (Value.string binding.key.formUrl).nonEmptyString? = some binding.key.formUrl := by
    simp [Value.nonEmptyString?, h.formUrl]
  have hidText : (binding.snapshot.draftId.defined?).bind (·.nonEmptyString?) = some id := by
    rw [hid]
    simp [Value.defined?, Value.nonEmptyString?, hne]
  have hdraftVersion : binding.snapshot.draftVersion.defined?.filter isDraftVersion
      = some binding.snapshot.draftVersion := by
    have hvalid := h.draftVersion
    cases hvalue : binding.snapshot.draftVersion with
    | number value =>
      rw [hvalue] at hvalid
      simp [Value.defined?, hvalid]
    | _ =>
      rw [hvalue] at hvalid
      cases hvalid
  have hresponse : binding.snapshot.responseId.defined?.any (!isResponseId ·) = false := by
    rcases h.responseId with hnone | hvalid
    · rw [hnone]
      rfl
    · cases hvalue : binding.snapshot.responseId <;> rw [hvalue] at hvalid <;>
        simp_all [Value.defined?]
  simp only [handleOf, hkey, hdraftId, hversion, hresponseId, hurl, hformVersion, hsubject,
    hparty, hformUrl, hidText, hdraftVersion, optionalText_map, Option.bind_eq_bind,
    Option.bind_some, hresponse]
  simp only [Bool.false_eq_true, if_false, Binding.reloaded, DraftBindingSnapshot.locator,
    getD_defined?, hid]
  rfl

/-- A handle that was written is read back where its binding is restorable. -/
theorem restoreHandle_toHandle (h : Restorable binding) {handle : Value}
    (hhandle : toHandle config binding = .ok handle) :
    restoreHandle config handle = .ok binding.reloaded := by
  obtain ⟨formId, hformId, hwritten⟩ := sequence_ok.mp hhandle
  cases hwritten
  refine restoreHandle_ok.mpr ⟨handleOf_handleValue h formId, formId, hformId, ?_⟩
  rw [(handleValue_get? formId binding).2.1]
  simp [Value.isString]

theorem restorable_of_handleOf {found : Binding} {formId : String}
    (h : handleOf (handleValue formId binding) = some found) : Restorable binding := by
  obtain ⟨hkey, -, hdraftId, hversion, hresponseId⟩ := handleValue_get? formId binding
  obtain ⟨hurl, hformVersion, hsubject, hparty⟩ := keyValue_get? binding.key
  simp only [handleOf, hkey, hdraftId, hversion, hresponseId, hurl, hformVersion, hsubject,
    hparty, optionalText_map, Option.bind_eq_bind, Option.bind_some] at h
  obtain ⟨formUrl, hformUrl, h⟩ := Option.bind_eq_some_iff.mp h
  obtain ⟨id, hid, h⟩ := Option.bind_eq_some_iff.mp h
  obtain ⟨version, hdraftVersion, h⟩ := Option.bind_eq_some_iff.mp h
  split at h
  · cases h
  · rename_i hresponse
    rw [Bool.not_eq_true] at hresponse
    refine ⟨?_, ?_, ?_, ?_⟩
    · intro hempty
      rw [hempty] at hformUrl
      cases hformUrl
    · obtain ⟨value, hvalue, htext⟩ := Option.bind_eq_some_iff.mp hid
      cases hfound : binding.snapshot.draftId with
      | string text =>
        refine ⟨text, rfl, ?_⟩
        rintro rfl
        rw [hfound] at hvalue
        cases hvalue
        cases htext
      | _ =>
        rw [hfound] at hvalue
        cases hvalue <;> cases htext
    · obtain ⟨hvalue, hvalid⟩ := Option.filter_eq_some_iff.mp hdraftVersion
      cases hfound : binding.snapshot.draftVersion with
      | undefined =>
        rw [hfound] at hvalue
        cases hvalue
      | _ =>
        rw [hfound] at hvalue
        cases hvalue
        exact hvalid
    · cases hfound : binding.snapshot.responseId with
      | undefined => exact .inl rfl
      | _ =>
        right
        rw [hfound] at hresponse
        simpa [Value.defined?] using hresponse

theorem handleOf_restorable {entry : Value} {found : Binding} (h : handleOf entry = some found) :
    Restorable found ∧ found.reloaded = found := by
  simp only [handleOf, Option.bind_eq_bind] at h
  obtain ⟨key, -, h⟩ := Option.bind_eq_some_iff.mp h
  obtain ⟨formUrl, hformUrl, h⟩ := Option.bind_eq_some_iff.mp h
  obtain ⟨formVersion, -, h⟩ := Option.bind_eq_some_iff.mp h
  obtain ⟨subjectRef, -, h⟩ := Option.bind_eq_some_iff.mp h
  obtain ⟨partyRef, -, h⟩ := Option.bind_eq_some_iff.mp h
  obtain ⟨id, hid, h⟩ := Option.bind_eq_some_iff.mp h
  obtain ⟨version, hversion, h⟩ := Option.bind_eq_some_iff.mp h
  have hnonEmpty : ∀ {value : Option Value} {text : String},
      value.bind (·.nonEmptyString?) = some text → text ≠ "" := by
    rintro value text htext rfl
    obtain ⟨found, -, hfound⟩ := Option.bind_eq_some_iff.mp htext
    unfold Value.nonEmptyString? at hfound
    split at hfound
    · split at hfound
      · cases hfound
      · rename_i hne
        cases hfound
        exact hne rfl
    · cases hfound
  split at h
  · cases h
  · rename_i hresponse
    rw [Bool.not_eq_true] at hresponse
    cases h
    refine ⟨⟨hnonEmpty hformUrl, ⟨id, rfl, hnonEmpty hid⟩,
      (Option.filter_eq_some_iff.mp hversion).2, ?_⟩, rfl⟩
    cases hvalue : entry.get? "responseId" with
    | none => exact .inl rfl
    | some value =>
      right
      rw [hvalue] at hresponse
      simpa using hresponse

/-! ## A fresh registry over the same metadata -/

open Registry

/-- A fresh registry over the metadata is restored, and returns for every key the locator the
live registry returns, or the same refusal. -/
def RestoresSame (config : RegistryConfig) (registry : Registry) : Prop :=
  ∃ fresh, (Registry.over registry.metadata).restore config .reliable = .ok fresh
    ∧ ∀ key, (fresh.get config .reliable key).1
      = ((registry.get config .reliable key).1).map (·.map (·.locator))

/-- The live registry can be read, and every binding it holds is restorable. -/
def HoldsRestorable (config : RegistryConfig) (registry : Registry) : Prop :=
  ∃ live, registry.restore config .reliable = .ok live ∧ ∀ binding ∈ live.bindings, Restorable binding

structure Saved (config : RegistryConfig) (registry : Registry) : Prop where
  restored : registry.restored = true
  metadata : handles config registry.bindings = .ok registry.metadata
  keys : (registry.bindings.map (·.key)).Nodup

theorem find_reloaded (key : DraftKey) :
    Registry.find config (bindings.map Binding.reloaded) key
      = (Registry.find config bindings key).map (·.map (·.locator)) := by
  have hfind : (bindings.map Binding.reloaded).find? (fun found => decide (found.key = key))
      = (bindings.find? fun found => decide (found.key = key)).map Binding.reloaded := by
    rw [List.find?_map]
    rfl
  have hkeys : (bindings.map Binding.reloaded).map (·.key) = bindings.map (·.key) := by
    rw [List.map_map]
    rfl
  unfold Registry.find
  rw [hfind, hkeys]
  cases bindings.find? fun found => decide (found.key = key) with
  | some matching => rfl
  | none => cases refuseVersion config key (bindings.map (·.key)) <;> rfl

theorem restore_over (hmetadata : config.resumeMetadata = true) (slot : Option Value) :
    (Registry.over slot).restore config .reliable
      = Registry.restoreFrom config (Registry.over slot) slot := by
  rw [Registry.restore, readMetadata, if_pos hmetadata]
  rfl

variable {slot : Option Value}

theorem handles_cons {first : Binding} {rest : List Binding}
    (h : handles config (first :: rest) = .ok slot) :
    ∃ written, (first :: rest).mapM (toHandle config) = .ok written ∧ slot = some (.array written) := by
  obtain ⟨written, hwritten, hslot⟩ := sequence_ok.mp h
  have hlength := (mapM_ok.mp hwritten).length_eq
  refine ⟨written, hwritten, ?_⟩
  cases written with
  | nil => cases hlength
  | cons => exact (Except.ok.inj hslot).symm

theorem restoreHandles_toHandle {written : List Value}
    (h : bindings.mapM (toHandle config) = .ok written)
    (hrestorable : ∀ binding ∈ bindings, Restorable binding) :
    written.mapM (restoreHandle config) = .ok (bindings.map Binding.reloaded) := by
  have hhandles := mapM_ok.mp h
  rw [mapM_ok]
  clear h
  induction hhandles with
  | nil => exact .nil
  | cons hfirst _ ih =>
    refine .cons (restoreHandle_toHandle (hrestorable _ List.mem_cons_self) hfirst) (ih fun binding hbinding => ?_)
    exact hrestorable binding (List.mem_cons_of_mem _ hbinding)

theorem restore_handles (hmetadata : config.resumeMetadata = true)
    (hkeys : (bindings.map (·.key)).Nodup) (hrestorable : ∀ binding ∈ bindings, Restorable binding)
    (hslot : handles config bindings = .ok slot) :
    ∃ fresh, (Registry.over slot).restore config .reliable = .ok fresh
      ∧ fresh.restored = true ∧ fresh.bindings = bindings.map Binding.reloaded := by
  rw [restore_over hmetadata]
  cases bindings with
  | nil =>
    cases hslot
    exact ⟨_, rfl, rfl, rfl⟩
  | cons first rest =>
    obtain ⟨written, hwritten, rfl⟩ := handles_cons hslot
    have hmap := restoreHandles_toHandle hwritten hrestorable
    have hfold : ((first :: rest).map Binding.reloaded).foldl setBinding []
        = (first :: rest).map Binding.reloaded := by
      rw [foldl_setBinding, List.nil_append]
      rw [List.nil_append, List.map_map]
      exact hkeys
    exact ⟨_, sequence_ok.mpr ⟨_, hmap, rfl⟩, rfl, hfold⟩

theorem restorable_of_restore (hmetadata : config.resumeMetadata = true)
    (hslot : handles config bindings = .ok slot) {fresh : Registry}
    (h : (Registry.over slot).restore config .reliable = .ok fresh) :
    ∀ binding ∈ bindings, Restorable binding := by
  rw [restore_over hmetadata] at h
  cases bindings with
  | nil => simp
  | cons first rest =>
    obtain ⟨written, hwritten, rfl⟩ := handles_cons hslot
    obtain ⟨found, hmap, -⟩ := sequence_ok.mp h
    intro binding hbinding
    obtain ⟨i, hi, rfl⟩ := List.getElem_of_mem hbinding
    have hhandles := mapM_ok.mp hwritten
    have hhandle := hhandles.get hi (by rw [← hhandles.length_eq]; exact hi)
    have hrest := (mapM_ok.mp hmap).get (by rw [← hhandles.length_eq]; exact hi)
      (by rw [← (mapM_ok.mp hmap).length_eq, ← hhandles.length_eq]; exact hi)
    obtain ⟨formId, -, hvalue⟩ := sequence_ok.mp hhandle
    rw [← Except.ok.inj hvalue] at hrest
    exact restorable_of_handleOf (restoreHandle_ok.mp hrest).1

theorem restoresSame_of_saved (hmetadata : config.resumeMetadata = true)
    (h : Saved config registry) :
    RestoresSame config registry ↔ HoldsRestorable config registry := by
  have hlive : registry.restore config .reliable = .ok registry := restore_of_restored h.restored
  constructor
  · rintro ⟨fresh, hfresh, -⟩
    exact ⟨registry, hlive, restorable_of_restore hmetadata h.metadata hfresh⟩
  · rintro ⟨live, hrestore, hrestorable⟩
    rw [hlive] at hrestore
    cases hrestore
    obtain ⟨fresh, hfresh, hrestored, hbindings⟩ :=
      restore_handles hmetadata h.keys hrestorable h.metadata
    refine ⟨fresh, hfresh, fun key => ?_⟩
    rw [Registry.get, Registry.get, restore_of_restored hrestored, hlive]
    show Registry.find config fresh.bindings key = _
    rw [hbindings, find_reloaded]

theorem restoresSame_over (saved : Option Value) :
    RestoresSame config (Registry.over saved) ↔ HoldsRestorable config (Registry.over saved) := by
  have hread : ∀ live, (Registry.over saved).restore config .reliable = .ok live →
      ∀ binding ∈ live.bindings, Restorable binding ∧ binding.reloaded = binding := by
    intro live hlive binding hbinding
    obtain ⟨-, -, -, others, hothers, hbindings⟩ := restore_ok hlive
    rw [hbindings] at hbinding
    rcases mem_foldl_setBinding hbinding with hnone | hmem
    · cases hnone
    · obtain ⟨entry, hentry⟩ := hothers binding hmem
      exact handleOf_restorable (restoreHandle_ok.mp hentry).1
  constructor
  · rintro ⟨fresh, hfresh, -⟩
    exact ⟨fresh, hfresh, fun binding hbinding => (hread fresh hfresh binding hbinding).1⟩
  · rintro ⟨live, hlive, -⟩
    refine ⟨live, hlive, fun key => ?_⟩
    have hsame : live.bindings.map Binding.reloaded = live.bindings := by
      calc live.bindings.map Binding.reloaded
          = live.bindings.map id :=
            List.map_congr_left fun binding hbinding => (hread live hlive binding hbinding).2
        _ = live.bindings := List.map_id _
    rw [Registry.get, Registry.get, restore_of_restored (restore_ok hlive).1, hlive]
    show Registry.find config live.bindings key = (Registry.find config live.bindings key).map _
    rw [← find_reloaded, hsame]

/-! ## Sequences of operations -/

inductive RegistryOp where
  | put (writer : Nat) (key : DraftKey) (snapshot : DraftBindingSnapshot)
  | delete (key : DraftKey)

def RegistryOp.perform (config : RegistryConfig) (storage : MetadataStorage) (registry : Registry) :
    RegistryOp → Except DraftStoreError Unit × Registry
  | .put writer key snapshot => registry.put config storage writer key snapshot
  | .delete key => registry.delete config storage key

/-- Operations performed one after another, each under some storage, until one fails. -/
def performAll (config : RegistryConfig) :
    List (MetadataStorage × RegistryOp) → Registry → Except DraftStoreError Registry
  | [], registry => .ok registry
  | (storage, op) :: ops, registry =>
    match op.perform config storage registry with
    | (.ok _, after) => performAll config ops after
    | (.error e, _) => .error e

/-- The keys of a registry are distinct, and it holds nothing before it is restored. -/
structure Settled (registry : Registry) : Prop where
  keys : (registry.bindings.map (·.key)).Nodup
  blank : registry.restored = false → registry.bindings = []

theorem Saved.settled (h : Saved config registry) : Settled registry :=
  ⟨h.keys, fun hblank => by rw [h.restored] at hblank; cases hblank⟩

variable {storage : MetadataStorage}

theorem restore_keys (h : Settled registry)
    (hrestore : registry.restore config storage = .ok live) :
    live.restored = true ∧ (live.bindings.map (·.key)).Nodup := by
  obtain ⟨hrestored, -, -, others, -, hbindings⟩ := restore_ok hrestore
  refine ⟨hrestored, ?_⟩
  rw [hbindings]
  exact nodup_foldl_setBinding h.keys

theorem persist_saved (hmetadata : config.resumeMetadata = true)
    (h : registry.persist config storage = (.ok (), live)) (hrestored : registry.restored = true)
    (hkeys : (registry.bindings.map (·.key)).Nodup) : Saved config live := by
  rcases persist_cases config storage registry with ⟨e, hpersist⟩ | ⟨hnone, -⟩ | ⟨written, hwritten, hpersist⟩
  · rw [hpersist] at h
    cases (Prod.mk.inj h).1
  · rw [hmetadata] at hnone
    cases hnone
  · obtain ⟨-, rfl⟩ := Prod.mk.inj (hpersist.symm.trans h)
    exact ⟨hrestored, hwritten, hkeys⟩

theorem perform_saved {op : RegistryOp}
    (hmetadata : config.resumeMetadata = true) (hsettled : Settled registry)
    (h : op.perform config storage registry = (.ok (), live)) : Saved config live := by
  cases op with
  | put writer key snapshot =>
    simp only [RegistryOp.perform, Registry.put] at h
    split at h
    · cases (Prod.mk.inj h).1
    · rename_i found hfound
      obtain ⟨hrestored, hkeys⟩ := restore_keys hsettled hfound
      exact persist_saved hmetadata h hrestored (nodup_setBinding hkeys)
  | delete key =>
    simp only [RegistryOp.perform, Registry.delete] at h
    split at h
    · split at h
      · cases h
        exact ⟨rfl, rfl, List.nodup_nil⟩
      · cases (Prod.mk.inj h).1
    · rename_i found hfound
      obtain ⟨hrestored, hkeys⟩ := restore_keys hsettled hfound
      have hsublist : (deleteScope config key found.bindings).2.Sublist found.bindings :=
        deleteScope_sublist key found.bindings
      rcases hdelete : deleteScope config key found.bindings with ⟨result, kept⟩
      rw [hdelete] at h hsublist
      cases result with
      | error e => cases (Prod.mk.inj h).1
      | ok _ => exact persist_saved hmetadata h hrestored (hkeys.sublist (hsublist.map _))

theorem performAll_saved {ops : List (MetadataStorage × RegistryOp)}
    (hmetadata : config.resumeMetadata = true) (hsettled : Settled registry)
    (h : performAll config ops registry = .ok live) : live = registry ∨ Saved config live := by
  induction ops generalizing registry with
  | nil => exact .inl (Except.ok.inj h).symm
  | cons first ops ih =>
    obtain ⟨storage, op⟩ := first
    rw [performAll] at h
    split at h
    · rename_i after hperform
      have hsaved := perform_saved hmetadata hsettled hperform
      rcases ih hsaved.settled h with rfl | hlive
      · exact .inr hsaved
      · exact .inr hlive
    · cases h

/-- After any operations, a fresh registry over the metadata returns the locators of the live
one exactly when every binding held is restorable. -/
theorem restoresSame_iff {saved : Option Value} {ops : List (MetadataStorage × RegistryOp)}
    (hmetadata : config.resumeMetadata = true)
    (h : performAll config ops (Registry.over saved) = .ok registry) :
    RestoresSame config registry ↔ HoldsRestorable config registry := by
  have hsettled : Settled (Registry.over saved) := ⟨List.nodup_nil, fun _ => rfl⟩
  rcases performAll_saved hmetadata hsettled h with rfl | hsaved
  · exact restoresSame_over saved
  · exact restoresSame_of_saved hmetadata hsaved

def intakeConfig : RegistryConfig := ⟨fun formUrl _ => .ok formUrl, true⟩

def intakeKey : DraftKey := ⟨"/runtime/forms/intake", some "1.0.0", some "user-1", none⟩

def intakeResponse : Value := .object [("id", .string "response-1")]

def intakeView (draftVersion : Value) : DraftView :=
  ⟨.string "draft-1", draftVersion, .undefined, .undefined, .undefined, none⟩

/-- The put of `createDraft`. -/
def intakeOps (draftVersion : Value) : List (MetadataStorage × RegistryOp) :=
  [(.reliable, .put 0 intakeKey (createdSnapshot (intakeView draftVersion) intakeResponse))]

theorem restoresSame_versioned :
    ∃ registry, performAll intakeConfig (intakeOps (.number 1)) (Registry.over none) = .ok registry
      ∧ RestoresSame intakeConfig registry := by
  refine ⟨_, rfl, (restoresSame_iff rfl
    (show performAll _ (intakeOps (.number 1)) (Registry.over none) = .ok _ from rfl)).mpr ⟨_, rfl, ?_⟩⟩
  intro binding hbinding
  obtain rfl := List.mem_singleton.mp hbinding
  exact ⟨by decide, ⟨"draft-1", rfl, by decide⟩, rfl, .inr (by decide)⟩

/-- A draft the server gave no version cannot be restored, nor anything else in its slot. -/
theorem restoresSame_unversioned :
    ∃ registry, performAll intakeConfig (intakeOps .undefined) (Registry.over none) = .ok registry
      ∧ (Registry.over registry.metadata).restore intakeConfig .reliable
        = .error (.failed "Stored draft handle does not match its form context")
      ∧ ¬ RestoresSame intakeConfig registry := by
  refine ⟨_, rfl, rfl, ?_⟩
  rintro ⟨fresh, hfresh, -⟩
  cases hfresh

end FormspecWeb.DraftStore
