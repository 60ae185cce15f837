import FormspecWeb.Shared.CanonicalText
import FormspecWeb.Signing.PendingSigns
import Mathlib.Data.List.Nodup

/-!
# What a marker recovers

Every marker that is written reads back as it was written, and is recognised with every version and
response its draft then has, but for the prepared revision an act is marked from. This holds in the
runs in which an act is marked while its draft still has that revision, with no other write of it
under way, and in which versions stay safe integers and definitions have names.
-/

namespace FormspecWeb.Signing

open Shared Async

/-- What the maintained schema and the digest of the adapter are relied on for. -/
structure SigningConfig.Maintained (config : SigningConfig) : Prop where
  hash : ∀ response, isSha256Hex (config.handoffHash response) = true
  schema : ∀ response, config.validateResponse response = true → response.isTruthy = true
    ∧ (response.hasOwn "authoredSignatures" = true → isSigned response = true)

section Server

variable {config : SigningConfig} {marker : PendingMarker} {draft : ServerDraft}

@[simp] theorem same_refl (config : SigningConfig) (response : Value) :
    config.same response response = true := beq_self_eq_true _

theorem same_trans {first second third : Value} (h : config.same first second = true)
    (h' : config.same second third = true) : config.same first third = true :=
  beq_iff_eq.mpr ((beq_iff_eq.mp h).trans (beq_iff_eq.mp h'))

def Clean (response : Value) : Prop :=
  isSigned response = false ∧ response.hasOwn "authoredSignatures" = false

namespace Renewal

def IsOriginal (config : SigningConfig) (renewal : Renewal) (response : Value) : Prop :=
  isSigned response = false ∧ config.same response renewal.originalCandidate = true

def IsSignature (config : SigningConfig) (renewal : Renewal) (response : Value) : Prop :=
  isSigned response = true
    ∧ config.same (withoutSignatures response) renewal.originalCandidate = true

def IsSuccessor (config : SigningConfig) (renewal : Renewal) (response : Value) : Prop :=
  isSigned response = false
    ∧ config.same response (withoutContent renewal.originalCandidate) = true

end Renewal

namespace PendingMarker

/-- The oldest version a draft with this marker can have. -/
def base (marker : PendingMarker) : Int :=
  match marker.renewal with
  | none => marker.version - 1
  | some renewal => renewal.previousVersion.getD marker.version

def Linked (config : SigningConfig) (marker : PendingMarker) (draft : ServerDraft) : Prop :=
  match marker.renewal with
  | none => draft.version + 1 = marker.version
      ∨ draft.version = marker.version ∧ Clean draft.response
      ∨ draft.version = marker.version + 1 ∧ isSigned draft.response = true
  | some renewal =>
    match renewal.previousVersion with
    | none => draft.version = marker.version ∧ renewal.IsOriginal config draft.response
        ∨ draft.version = marker.version + 1 ∧ renewal.IsSignature config draft.response
        ∨ draft.version = marker.version + 1 ∧ renewal.IsSuccessor config draft.response
    | some previous => (draft.version = previous ∨ draft.version = previous + 1)
        ∧ renewal.IsSuccessor config draft.response

def Allowed (config : SigningConfig) (marker : PendingMarker) (request : WriteRequest) : Prop :=
  match marker.renewal with
  | none => request.expected = marker.version - 1
        ∧ (∃ response, request.write = .save response ∧ Clean response)
      ∨ request.expected = marker.version ∧ request.write = .sign
  | some renewal =>
    match renewal.previousVersion with
    | none => request.expected = marker.version ∧ (request.write = .sign
        ∨ ∃ response, request.write = .save response ∧ renewal.IsSuccessor config response)
    | some previous => request.expected = previous
        ∧ ∃ response, request.write = .save response ∧ renewal.IsSuccessor config response

theorem Linked.base_le (h : marker.Linked config draft) : marker.base ≤ draft.version := by
  rw [Linked] at h
  rw [base]
  cases hrenewal : marker.renewal with
  | none =>
    simp only [hrenewal] at h ⊢
    omega
  | some renewal =>
    cases hprevious : renewal.previousVersion with
    | none =>
      simp only [hrenewal, hprevious, Option.getD_none] at h ⊢
      omega
    | some previous =>
      simp only [hrenewal, hprevious, Option.getD_some] at h ⊢
      omega

theorem Allowed.save {request : WriteRequest} {response : Value}
    (hallowed : marker.Allowed config request) (hexpected : draft.version = request.expected)
    (hwrite : request.write = .save response) :
    marker.Linked config ⟨draft.version + 1, response⟩ := by
  rw [Allowed] at hallowed
  rw [Linked]
  cases hrenewal : marker.renewal with
  | none =>
    simp only [hrenewal, hwrite] at hallowed ⊢
    rcases hallowed with ⟨hversion, other, heq, hclean⟩ | ⟨_, hsign⟩
    · cases heq
      exact Or.inr (Or.inl ⟨by omega, hclean⟩)
    · cases hsign
  | some renewal =>
    cases hprevious : renewal.previousVersion with
    | none =>
      simp only [hrenewal, hprevious, hwrite] at hallowed ⊢
      rcases hallowed with ⟨hversion, hsign | ⟨other, heq, hsuccessor⟩⟩
      · cases hsign
      · cases heq
        exact Or.inr (Or.inr ⟨by omega, hsuccessor⟩)
    | some previous =>
      simp only [hrenewal, hprevious, hwrite] at hallowed ⊢
      obtain ⟨hversion, other, heq, hsuccessor⟩ := hallowed
      cases heq
      exact ⟨Or.inr (by omega), hsuccessor⟩

theorem Allowed.sign {request : WriteRequest} {signed : Value}
    (hallowed : marker.Allowed config request) (h : marker.Linked config draft)
    (hexpected : draft.version = request.expected) (hwrite : request.write = .sign)
    (hsigned : isSigned signed = true)
    (hsame : config.same (withoutSignatures signed) draft.response = true) :
    marker.Linked config ⟨draft.version + 1, signed⟩ := by
  rw [Allowed] at hallowed
  rw [Linked] at h ⊢
  cases hrenewal : marker.renewal with
  | none =>
    simp only [hrenewal, hwrite] at hallowed ⊢
    rcases hallowed with ⟨_, other, heq, _⟩ | ⟨hversion, _⟩
    · cases heq
    · exact Or.inr (Or.inr ⟨by omega, hsigned⟩)
  | some renewal =>
    cases hprevious : renewal.previousVersion with
    | none =>
      simp only [hrenewal, hprevious, hwrite] at hallowed h ⊢
      have hversion := hallowed.1
      rcases h with ⟨_, horiginal⟩ | ⟨hnext, _⟩ | ⟨hnext, _⟩
      · exact Or.inr (Or.inl ⟨by omega, hsigned, same_trans hsame horiginal.2⟩)
      · omega
      · omega
    | some previous =>
      simp only [hrenewal, hprevious, hwrite] at hallowed
      obtain ⟨_, other, heq, _⟩ := hallowed
      cases heq

/-- What a marker says of itself: it passes the reader, and its hashes are those of its candidate. -/
structure WellFormed (config : SigningConfig) (marker : PendingMarker) : Prop where
  readable : marker.isReadable = true
  keyed : isUuidV7IdempotencyKey marker.operationId = true
  owned : marker.scope = config.scopeOf marker.draftId
  hashed : ∀ renewal, marker.renewal = some renewal →
    config.handoffHash renewal.originalCandidate = renewal.originalHash
      ∧ config.handoffHash (withoutContent renewal.originalCandidate) = renewal.successorHash
      ∧ isSigned renewal.originalCandidate = false

theorem WellFormed.version (h : marker.WellFormed config) {renewal : Renewal}
    (hrenewal : marker.renewal = some renewal) :
    renewal.version = renewal.previousVersion.getD marker.version + 1
      ∧ ∀ previous ∈ renewal.previousVersion, marker.version < previous := by
  have hreadable := h.readable
  rw [isReadable, hrenewal, Option.all_some, Renewal.isReadable] at hreadable
  simp only [Bool.and_eq_true] at hreadable
  have hprevious := hreadable.2.1.1.1.2
  cases heq : renewal.previousVersion with
  | none =>
    rw [heq] at hprevious
    rw [Option.getD_none]
    exact ⟨beq_iff_eq.mp hprevious, fun _ h => by cases h⟩
  | some previous =>
    rw [heq] at hprevious
    simp only [Bool.and_eq_true, decide_eq_true_eq, beq_iff_eq] at hprevious
    rw [Option.getD_some]
    refine ⟨hprevious.2, fun _ h => ?_⟩
    cases h
    omega

theorem Linked.recoveryOf (h : marker.Linked config draft) (hwell : marker.WellFormed config) :
    (marker.renewal = none ∧ draft.version + 1 = marker.version)
      ∨ ∃ recovery, SigningState.recoveryOf config marker draft.version draft.response
          = some recovery ∧ recovery.marker = marker := by
  rw [SigningState.recoveryOf]
  rw [Linked] at h
  cases hrenewal : marker.renewal with
  | none =>
    simp only [hrenewal, Option.any_none, Option.map_none, Option.getD_none, Bool.false_eq_true,
      if_false] at h ⊢
    rcases h with hprepared | ⟨hversion, hunsigned, howned⟩ | ⟨hversion, hsigned⟩
    · exact Or.inl ⟨trivial, hprepared⟩
    · rw [withoutSignatures_of_unsigned howned]
      exact Or.inr ⟨_, by simp [hunsigned, hversion]; rfl, rfl⟩
    · exact Or.inr ⟨_, by simp [hsigned, hversion]; rfl, rfl⟩
  | some renewal =>
    obtain ⟨horiginal, hsuccessor, -⟩ := hwell.hashed renewal hrenewal
    obtain ⟨hnumber, hlater⟩ := hwell.version hrenewal
    right
    simp only [hrenewal, Option.any_some, Option.map_some, Option.getD_some, horiginal, hsuccessor,
      bne_self_eq_false, Bool.or_false, Bool.false_eq_true, if_false] at h ⊢
    cases hprevious : renewal.previousVersion with
    | none =>
      simp only [hprevious, Option.getD_none] at h hnumber
      rcases h with ⟨hversion, hunsigned, hsame⟩ | ⟨hversion, hsigned, hsame⟩
        | ⟨hversion, hunsigned, hsame⟩
      · exact ⟨_, by simp [hunsigned, hversion, hsame]; rfl, rfl⟩
      · exact ⟨_, by simp [hsigned, hversion, hsame]; rfl, rfl⟩
      · have hne : (draft.version == marker.version) = false := by
          rw [beq_eq_false_iff_ne]
          omega
        have hmatch : (draft.version == renewal.version) = true := by
          rw [beq_iff_eq]
          omega
        exact ⟨_, by simp [hunsigned, hne, hmatch, hsame]; rfl, rfl⟩
    | some previous =>
      have hlt := hlater previous hprevious
      simp only [hprevious, Option.getD_some] at h hnumber
      obtain ⟨hversion, hunsigned, hsame⟩ := h
      have hne : (draft.version == marker.version) = false := by
        rw [beq_eq_false_iff_ne]
        omega
      have hmatch : (draft.version == renewal.version
          || some draft.version == some previous) = true := by
        rw [Bool.or_eq_true, beq_iff_eq, beq_iff_eq, Option.some_inj]
        omega
      refine ⟨⟨marker, renewal.originalCandidate, withoutContent renewal.originalCandidate⟩, ?_, rfl⟩
      simp only [hunsigned, hne, hmatch, hsame, Bool.false_eq_true, if_false, if_true]

end PendingMarker

end Server

/-! ## Where acts are marked -/

namespace SigningState

variable {config : SigningConfig}

/-- The draft still has the prepared revision, no write of it is under way, and the next version is
a safe integer. -/
def unmoved (s : SigningState) (preparation : Preparation) : Bool :=
  (s.drafts preparation.draftId).version == preparation.version
    && s.requests.all (fun request => request.draftId != preparation.draftId
      || request.expected < preparation.version)
    && isSafeInteger (preparation.version + 1)

/-- An act is marked where its draft is unmoved, the version a renewal saves is a safe integer, and
a create names its scope and definition. -/
def orderly (s : SigningState) : Event → Bool
  | .sign input => (s.acts.find? (·.operationId == input.operationId)).isSome
      || (s.preparations[input.preparation]?).all s.unmoved
  | .restorePending input => isSafeInteger ((s.drafts input.draftId).version + 1)
  | .create scope _ definitionUrl definitionVersion _ _ =>
    truthy scope && hasText definitionUrl && hasText definitionVersion
  | _ => true

def Orderly (s : SigningState) (event : Event) : Prop := s.orderly event = true

instance (s : SigningState) (event : Event) : Decidable (s.Orderly event) :=
  inferInstanceAs (Decidable (_ = true))

variable {s t : SigningState} {marker : PendingMarker} {draftId scope : String}

/-- A pending marker, with the draft, the writes and the acts there are. -/
structure Kept (config : SigningConfig) (s : SigningState) (marker : PendingMarker) : Prop where
  wellFormed : marker.WellFormed config
  linked : marker.Linked config (s.drafts marker.draftId)
  allowed : ∀ request ∈ s.requests, request.draftId = marker.draftId →
    marker.base ≤ request.expected → marker.Allowed config request
  acted : ∀ act ∈ s.acts, act.preparation.draftId = marker.draftId →
    act.version = marker.version ∨ act.version + 2 ≤ marker.version

structure Inv (config : SigningConfig) (s : SigningState) : Prop where
  slot : s.slot = writeMarkers s.written
  createSlot : s.createSlot = writeCreateMarkers s.writtenCreates
  creates : ∀ create ∈ s.writtenCreates, create.isReadable = true
  once : (s.written.map PendingMarker.scope).Nodup
  apart : ∀ marker ∈ s.written, ∀ create ∈ s.writtenCreates, create.scope ≠ marker.scope
  kept : ∀ marker ∈ s.written, s.Kept config marker
  unsigned : ∀ preparation ∈ s.preparations, isSigned preparation.response = false
  distinct : (s.acts.map FrozenAct.operationId).Nodup
  frozen : ∀ act ∈ s.acts, Clean act.candidate ∧ act.version = act.preparation.version + 1
  resolved : ∀ act ∈ s.acts, act.resolved = true →
    act.version + 1 ≤ (s.drafts act.preparation.draftId).version

theorem inv_opened (drafts : String → ServerDraft) : (opened drafts).Inv config where
  slot := rfl
  createSlot := rfl
  creates _ h := absurd h List.not_mem_nil
  once := List.nodup_nil
  apart _ h := absurd h List.not_mem_nil
  kept _ h := absurd h List.not_mem_nil
  unsigned _ h := absurd h List.not_mem_nil
  distinct := List.nodup_nil
  frozen _ h := absurd h List.not_mem_nil
  resolved _ h := absurd h List.not_mem_nil

theorem Inv.read (hs : s.Inv config) : readMarkers s.slot = some s.written := by
  rw [hs.slot]
  exact readMarkers_writeMarkers fun marker h => (hs.kept marker h).wellFormed.readable

theorem Inv.readCreates (hs : s.Inv config) :
    readCreateMarkers s.createSlot = some s.writtenCreates := by
  rw [hs.createSlot]
  exact readCreateMarkers_writeCreateMarkers hs.creates

theorem filter_scope {markers : List PendingMarker}
    (honce : (markers.map PendingMarker.scope).Nodup) (hmarker : marker ∈ markers) :
    markers.filter (·.scope == marker.scope) = [marker] := by
  induction markers with
  | nil => cases hmarker
  | cons first markers ih =>
    obtain ⟨hfirst, honce⟩ := List.nodup_cons.mp honce
    rcases List.mem_cons.mp hmarker with rfl | hmarker
    · rw [List.filter_cons_of_pos (by simp), List.filter_eq_nil_iff.mpr]
      intro other hother
      rw [beq_iff_eq]
      intro heq
      exact hfirst (heq ▸ List.mem_map_of_mem hother)
    · rw [List.filter_cons_of_neg, ih honce hmarker]
      rw [beq_iff_eq]
      intro heq
      exact hfirst (heq ▸ List.mem_map_of_mem hmarker)

theorem Inv.pendingMarkerFor (hs : s.Inv config) (hmarker : marker ∈ s.written) :
    s.pendingMarkerFor config marker.draftId = some marker := by
  have hwell := (hs.kept marker hmarker).wellFormed
  have hcreates : s.writtenCreates.any (·.scope == marker.scope) = false := by
    rw [List.any_eq_false]
    intro create hcreate
    simpa using hs.apart marker hmarker create hcreate
  rw [SigningState.pendingMarkerFor, hs.read, hs.readCreates, ← hwell.owned]
  simp only [Option.bind_eq_bind, Option.bind_some, hcreates, Bool.false_eq_true, if_false,
    filter_scope hs.once hmarker, hwell.keyed, bne_self_eq_false, Bool.not_true, Bool.or_self]

theorem Inv.of_pendingMarkerFor (hs : s.Inv config)
    (h : s.pendingMarkerFor config draftId = some marker) :
    marker ∈ s.written ∧ marker.draftId = draftId ∧ marker.scope = config.scopeOf draftId := by
  rw [SigningState.pendingMarkerFor, hs.read, hs.readCreates] at h
  simp only [Option.bind_eq_bind, Option.bind_some] at h
  split at h
  · cases h
  split at h
  · next found hfound =>
    split at h
    · cases h
    · next hdraft =>
      obtain rfl := Option.some.inj h
      have hmem : found ∈ s.written.filter (·.scope == config.scopeOf draftId) := by
        rw [hfound]
        exact List.mem_cons_self
      obtain ⟨hwritten, hscope⟩ := List.mem_filter.mp hmem
      rw [Bool.or_eq_true, not_or] at hdraft
      exact ⟨hwritten, by simpa using hdraft.1, beq_iff_eq.mp hscope⟩
  · cases h

theorem Inv.of_resolved (hs : s.Inv config) (h : s.unresolved config scope = false) :
    (∀ marker ∈ s.written, marker.scope ≠ scope)
      ∧ (∀ create ∈ s.writtenCreates, create.scope ≠ scope)
      ∧ ∀ act ∈ s.acts, config.scopeOf act.preparation.draftId = scope → act.resolved = true := by
  rw [unresolved, hs.read, hs.readCreates] at h
  simp only [Bool.or_eq_false_iff, List.any_eq_false] at h
  obtain ⟨⟨hcreates, hmarkers⟩, hacts⟩ := h
  refine ⟨fun marker hmarker => ?_, fun create hcreate => ?_, fun act hact hscope => ?_⟩
  · simpa using hmarkers marker hmarker
  · simpa using hcreates create hcreate
  · simpa [hscope] using hacts act hact

theorem kept_of_drafts (h : s.Kept config marker)
    (hdraft : t.drafts marker.draftId = s.drafts marker.draftId)
    (hrequests : ∀ request ∈ t.requests, request.draftId = marker.draftId →
      marker.base ≤ request.expected → request ∈ s.requests ∨ marker.Allowed config request)
    (hacts : ∀ act ∈ t.acts, act.preparation.draftId = marker.draftId →
      (∃ old ∈ s.acts, old.preparation = act.preparation ∧ old.version = act.version)
        ∨ act.version = marker.version) :
    t.Kept config marker where
  wellFormed := h.wellFormed
  linked := hdraft ▸ h.linked
  allowed request hrequest hid hbase := by
    rcases hrequests request hrequest hid hbase with hold | hnew
    · exact h.allowed request hold hid hbase
    · exact hnew
  acted act hact hid := by
    rcases hacts act hact hid with ⟨old, hold, hpreparation, hversion⟩ | hversion
    · rw [← hversion]
      exact h.acted old hold (hpreparation ▸ hid)
    · exact Or.inl hversion

theorem inv_filter (hs : s.Inv config) (keep : PendingMarker → Bool) :
    (s.putMarkers (s.written.filter keep)).Inv config where
  slot := rfl
  __ := hs
  once := hs.once.sublist (List.filter_sublist.map _)
  apart marker h := hs.apart marker (List.mem_of_mem_filter h)
  kept marker h :=
    have hkept := hs.kept marker (List.mem_of_mem_filter h)
    ⟨hkept.wellFormed, hkept.linked, hkept.allowed, hkept.acted⟩

theorem inv_go (hs : s.Inv config) (scope : String) (running : Option Running) :
    (s.go scope running).Inv config :=
  { hs with kept := fun marker h =>
      have hkept := hs.kept marker h
      ⟨hkept.wellFormed, hkept.linked, hkept.allowed, hkept.acted⟩ }

theorem inv_addPreparation (hs : s.Inv config) {preparation : Preparation}
    (h : isSigned preparation.response = false) : (s.addPreparation preparation).Inv config :=
  { hs with
    kept := fun marker h =>
      have hkept := hs.kept marker h
      ⟨hkept.wellFormed, hkept.linked, hkept.allowed, hkept.acted⟩
    unsigned := by
      intro other hother
      rcases List.mem_append.mp hother with hold | hnew
      · exact hs.unsigned other hold
      · obtain rfl := List.mem_singleton.mp hnew
        exact h }

theorem inv_dispatch (hs : s.Inv config) {request : WriteRequest}
    (h : ∀ marker ∈ s.written, request.draftId = marker.draftId →
      marker.base ≤ request.expected → marker.Allowed config request) :
    (s.dispatch request).Inv config := by
  have hkept : ∀ marker ∈ s.written, (s.dispatch request).Kept config marker := by
    intro marker hmarker
    refine kept_of_drafts (hs.kept marker hmarker) rfl ?_ ?_
    · intro other hother hid hbase
      refine (List.mem_append.mp hother).imp_right fun hnew => ?_
      obtain rfl := List.mem_singleton.mp hnew
      exact h marker hmarker hid hbase
    · intro act hact _
      exact Or.inl ⟨act, hact, rfl, rfl⟩
  exact { hs with kept := hkept }

theorem inv_unmark (hs : s.Inv config) (operationId : String) :
    (s.unmark operationId).Inv config := by
  rw [unmark, hs.read]
  exact inv_filter hs _

theorem resolve_operationIds (operationId : String) :
    (s.resolve operationId).acts.map FrozenAct.operationId = s.acts.map FrozenAct.operationId := by
  rw [resolve, List.map_map]
  refine List.map_congr_left fun act _ => ?_
  rw [Function.comp_apply]
  split <;> rfl

theorem inv_resolve (hs : s.Inv config) {operationId : String}
    (h : ∀ act ∈ s.acts, act.operationId = operationId →
      act.version + 1 ≤ (s.drafts act.preparation.draftId).version) :
    (s.resolve operationId).Inv config := by
  have hacts : ∀ act ∈ (s.resolve operationId).acts, ∃ old ∈ s.acts,
      old.preparation = act.preparation ∧ old.version = act.version
        ∧ old.candidate = act.candidate
        ∧ (act.resolved = true → old.operationId = operationId ∨ old.resolved = true) := by
    intro act hact
    obtain ⟨old, hold, rfl⟩ := List.mem_map.mp hact
    by_cases hid : old.operationId = operationId
    · refine ⟨old, hold, ?_⟩
      rw [if_pos (beq_iff_eq.mpr hid)]
      exact ⟨rfl, rfl, rfl, fun _ => Or.inl hid⟩
    · refine ⟨old, hold, ?_⟩
      rw [if_neg (by simpa using hid)]
      exact ⟨rfl, rfl, rfl, Or.inr⟩
  have hkept : ∀ marker ∈ s.written, (s.resolve operationId).Kept config marker := by
    intro marker hmarker
    refine kept_of_drafts (hs.kept marker hmarker) rfl (fun _ h _ _ => Or.inl h) ?_
    intro act hact _
    obtain ⟨old, hold, hpreparation, hversion, -⟩ := hacts act hact
    exact Or.inl ⟨old, hold, hpreparation, hversion⟩
  have hfrozen : ∀ act ∈ (s.resolve operationId).acts,
      Clean act.candidate ∧ act.version = act.preparation.version + 1 := by
    intro act hact
    obtain ⟨old, hold, hpreparation, hversion, hcandidate, -⟩ := hacts act hact
    rw [← hpreparation, ← hversion, ← hcandidate]
    exact hs.frozen old hold
  have hresolved : ∀ act ∈ (s.resolve operationId).acts, act.resolved = true →
      act.version + 1 ≤ (s.drafts act.preparation.draftId).version := by
    intro act hact hresolved
    obtain ⟨old, hold, hpreparation, hversion, -, hwas⟩ := hacts act hact
    rw [← hpreparation, ← hversion]
    rcases hwas hresolved with hid | hwas
    · exact h old hold hid
    · exact hs.resolved old hold hwas
  have hdistinct : ((s.resolve operationId).acts.map FrozenAct.operationId).Nodup := by
    rw [resolve_operationIds]
    exact hs.distinct
  exact { hs with
    kept := hkept, distinct := hdistinct, frozen := hfrozen, resolved := hresolved }

theorem Inv.act_unique (hs : s.Inv config) {act other : FrozenAct} (hact : act ∈ s.acts)
    (hother : other ∈ s.acts) (h : other.operationId = act.operationId) : other = act :=
  List.inj_on_of_nodup_map hs.distinct hother hact h

variable {act : FrozenAct}

theorem inv_accept (hs : s.Inv config) (hact : act ∈ s.acts)
    (answers : Answers) : (s.accept config act answers).Inv config := by
  rw [accept]
  simp only
  split
  · next h =>
    simp only [Bool.and_eq_true, beq_iff_eq] at h
    have hresolve : (s.resolve act.operationId).Inv config := by
      refine inv_resolve hs fun other hother heq => ?_
      rw [hs.act_unique hact hother heq]
      omega
    split
    · exact inv_go (inv_unmark hresolve _) _ _
    · exact inv_go hresolve _ _
  · exact inv_go hs _ _

theorem Inv.allowed_of_act (hs : s.Inv config) (hact : act ∈ s.acts)
    (hmarker : marker ∈ s.written) (hid : act.preparation.draftId = marker.draftId)
    {expected : Int} {write : DraftWrite} (hbase : marker.base ≤ expected)
    (hwrite : expected = act.version ∧ write = .sign
      ∨ expected = act.preparation.version ∧ write = .save act.candidate) :
    marker.Allowed config ⟨act.preparation.draftId, expected, write⟩ := by
  have hkept := hs.kept marker hmarker
  obtain ⟨hclean, hversion⟩ := hs.frozen act hact
  have hacted := hkept.acted act hact hid
  rw [PendingMarker.base] at hbase
  rw [PendingMarker.Allowed]
  cases hrenewal : marker.renewal with
  | none =>
    simp only [hrenewal] at hbase ⊢
    rcases hwrite with ⟨hexpected, hsign⟩ | ⟨hexpected, hsave⟩
    · exact Or.inr ⟨by omega, hsign⟩
    · exact Or.inl ⟨by omega, act.candidate, hsave, hclean⟩
  | some renewal =>
    have hlater := (hkept.wellFormed.version hrenewal).2
    cases hprevious : renewal.previousVersion with
    | none =>
      simp only [hrenewal, hprevious, Option.getD_none] at hbase ⊢
      rcases hwrite with ⟨hexpected, hsign⟩ | ⟨hexpected, hsave⟩
      · exact ⟨by omega, Or.inl hsign⟩
      · omega
    | some previous =>
      have hlt := hlater previous hprevious
      simp only [hrenewal, hprevious, Option.getD_some] at hbase
      omega

theorem inv_postSign (hs : s.Inv config) (hact : act ∈ s.acts)
    (answers : Answers) : (s.postSign config act answers).Inv config := by
  rw [postSign]
  split
  · refine inv_go (inv_dispatch hs ?_) _ _
    intro marker hmarker hid hbase
    exact hs.allowed_of_act hact hmarker hid hbase (Or.inl ⟨rfl, rfl⟩)
  · exact inv_go hs _ _

theorem inv_execute (hs : s.Inv config) {answers : Answers}
    (h : s.execute config scope answers = some t) : t.Inv config := by
  rw [execute] at h
  split at h
  · next operationId stage hrunning =>
    split at h
    · cases h
    · next act hfind =>
      have hact := List.mem_of_find?_eq_some hfind
      cases stage with
      | reading =>
        simp only at h
        split at h
        · exact Option.some.inj h ▸ inv_accept hs hact answers
        split at h
        · cases h
          refine inv_go (inv_dispatch hs ?_) _ _
          intro marker hmarker hid hbase
          exact hs.allowed_of_act hact hmarker hid hbase (Or.inr ⟨rfl, rfl⟩)
        · exact Option.some.inj h ▸ inv_postSign hs hact answers
      | saving => exact Option.some.inj h ▸ inv_go hs _ _
      | rereading => exact Option.some.inj h ▸ inv_postSign hs hact answers
      | signing =>
        simp only at h
        split at h
        · exact Option.some.inj h ▸ inv_accept hs hact answers
        · exact Option.some.inj h ▸ inv_go hs _ _
      | recovering =>
        simp only at h
        split at h
        · exact Option.some.inj h ▸ inv_accept hs hact answers
        · exact Option.some.inj h ▸ inv_go hs _ _
  · cases h

theorem Inv.marker_unique (hs : s.Inv config) {other : PendingMarker} (hmarker : marker ∈ s.written)
    (hother : other ∈ s.written) (h : other.draftId = marker.draftId) : other = marker := by
  refine List.inj_on_of_nodup_map hs.once hother hmarker ?_
  rw [(hs.kept other hother).wellFormed.owned, (hs.kept marker hmarker).wellFormed.owned, h]

theorem Inv.of_maySign (hs : s.Inv config) {preparation : Preparation} {operationId : String}
    (h : s.maySign config preparation operationId = true)
    (hversion : (s.drafts preparation.draftId).version = preparation.version) :
    (∀ create ∈ s.writtenCreates, create.scope ≠ config.scopeOf preparation.draftId)
      ∧ ∀ act ∈ s.acts, act.preparation.draftId = preparation.draftId →
        act.version + 1 ≤ preparation.version := by
  rw [maySign] at h
  split at h
  · simp only [Bool.and_eq_true, renews, Option.any_eq_true, beq_iff_eq] at h
    obtain ⟨-, marker, hfound, renewal, hrenewal, -, hsuccessor⟩ := h
    obtain ⟨hmarker, hdraft, hscope⟩ := hs.of_pendingMarkerFor hfound
    have hkept := hs.kept marker hmarker
    obtain ⟨hnumber, hlater⟩ := hkept.wellFormed.version hrenewal
    refine ⟨fun create hcreate => ?_, fun act hact hid => ?_⟩
    · rw [← hscope]
      exact hs.apart marker hmarker create hcreate
    · have hacted := hkept.acted act hact (hid.trans hdraft.symm)
      cases hprevious : renewal.previousVersion with
      | none =>
        rw [hprevious, Option.getD_none] at hnumber
        omega
      | some previous =>
        have hlt := hlater previous hprevious
        rw [hprevious, Option.getD_some] at hnumber
        omega
  · rw [Bool.not_eq_true'] at h
    obtain ⟨-, hcreates, hacts⟩ := hs.of_resolved h
    refine ⟨hcreates, fun act hact hid => ?_⟩
    have hresolved := hs.resolved act hact (hacts act hact (congrArg config.scopeOf hid))
    rw [hid] at hresolved
    omega

theorem kept_markerOf
    (hkey : isUuidV7IdempotencyKey act.operationId = true)
    (hversion : act.version = act.preparation.version + 1)
    (hunmoved : s.unmoved act.preparation = true)
    (hpast : ∀ other ∈ s.acts, other.preparation.draftId = act.preparation.draftId →
      other.version + 1 ≤ act.preparation.version) :
    s.Kept config (markerOf config act) := by
  simp only [unmoved, Bool.and_eq_true, beq_iff_eq, List.all_eq_true, Bool.or_eq_true,
    bne_iff_ne, decide_eq_true_eq] at hunmoved
  obtain ⟨⟨hdraft, hrequests⟩, hsafe⟩ := hunmoved
  have hreadable : (markerOf config act).isReadable = true := by
    rw [PendingMarker.isReadable, Bool.and_eq_true]
    exact ⟨(congrArg isSafeInteger hversion).trans hsafe, rfl⟩
  refine ⟨⟨hreadable, hkey, rfl, fun _ h => by cases h⟩, ?_, ?_, ?_⟩
  · refine Or.inl ?_
    calc (s.drafts act.preparation.draftId).version + 1 = act.preparation.version + 1 := by
          rw [hdraft]
      _ = act.version := hversion.symm
  · intro request hrequest hid hbase
    have hbase : act.version - 1 ≤ request.expected := hbase
    rcases hrequests request hrequest with hne | hlt
    · exact absurd hid hne
    · omega
  · intro other hother hid
    have hpast := hpast other hother hid
    have hmarker : (markerOf config act).version = act.version := rfl
    omega

section

variable (hs : s.Inv config)
  (hclean : Clean act.candidate)
  (hopen : act.resolved = false)
  (hfresh : ∀ other ∈ s.acts, other.operationId ≠ act.operationId)
  (hversion : act.version = act.preparation.version + 1)
include hs hclean hopen hfresh hversion

theorem inv_addAct (hmarked : ∀ marker ∈ s.written, act.preparation.draftId = marker.draftId →
      act.version = marker.version) :
    ({ s with acts := s.acts ++ [act] } : SigningState).Inv config := by
  have hacts : ∀ other ∈ s.acts ++ [act], other ∈ s.acts ∨ other = act := by
    intro other hother
    exact (List.mem_append.mp hother).imp_right List.mem_singleton.mp
  have hdistinct : ((s.acts ++ [act]).map FrozenAct.operationId).Nodup := by
    rw [List.map_append, List.nodup_append]
    refine ⟨hs.distinct, List.nodup_singleton _, ?_⟩
    intro first hfirst second hsecond
    obtain ⟨other, hother, rfl⟩ := List.mem_map.mp hfirst
    obtain rfl := List.mem_singleton.mp hsecond
    exact hfresh other hother
  have hkept : ∀ marker ∈ s.written,
      ({ s with acts := s.acts ++ [act] } : SigningState).Kept config marker := by
    intro marker hmarker
    refine kept_of_drafts (hs.kept marker hmarker) rfl (fun _ h _ _ => Or.inl h) ?_
    intro other hother hid
    rcases hacts other hother with hold | rfl
    · exact Or.inl ⟨other, hold, rfl, rfl⟩
    · exact Or.inr (hmarked marker hmarker hid)
  refine { hs with kept := hkept, distinct := hdistinct, frozen := ?_, resolved := ?_ }
  · intro other hother
    rcases hacts other hother with hold | rfl
    · exact hs.frozen other hold
    · exact ⟨hclean, hversion⟩
  · intro other hother hresolved
    rcases hacts other hother with hold | rfl
    · exact hs.resolved other hold hresolved
    · rw [hopen] at hresolved
      cases hresolved

theorem inv_mark {writes : Bool} (hcreates : ∀ create ∈ s.writtenCreates,
      create.scope ≠ config.scopeOf act.preparation.draftId)
    (hkept : s.Kept config (markerOf config act)) :
    (s.mark config act writes).Inv config := by
  rw [mark, hs.read]
  simp only
  split
  · exact hs
  · have hmem : ∀ marker ∈ s.written.filter (·.scope != config.scopeOf act.preparation.draftId)
        ++ [markerOf config act], s.Kept config marker
          ∧ (∀ create ∈ s.writtenCreates, create.scope ≠ marker.scope)
          ∧ (act.preparation.draftId = marker.draftId → act.version = marker.version) := by
      intro marker hmarker
      rcases List.mem_append.mp hmarker with hold | hnew
      · obtain ⟨hold, hscope⟩ := List.mem_filter.mp hold
        refine ⟨hs.kept marker hold, hs.apart marker hold, fun hid => ?_⟩
        rw [(hs.kept marker hold).wellFormed.owned, ← hid, bne_self_eq_false] at hscope
        cases hscope
      · obtain rfl := List.mem_singleton.mp hnew
        exact ⟨hkept, hcreates, fun _ => rfl⟩
    have honce : ((s.written.filter (·.scope != config.scopeOf act.preparation.draftId)
        ++ [markerOf config act]).map PendingMarker.scope).Nodup := by
      rw [List.map_append, List.nodup_append]
      refine ⟨hs.once.sublist (List.filter_sublist.map _), List.nodup_singleton _, ?_⟩
      intro first hfirst second hsecond heq
      obtain ⟨marker, hmarker, rfl⟩ := List.mem_map.mp hfirst
      obtain rfl := List.mem_singleton.mp hsecond
      have hscope := (List.mem_filter.mp hmarker).2
      rw [heq] at hscope
      simp [markerOf] at hscope
    have hput : (s.putMarkers (s.written.filter
        (·.scope != config.scopeOf act.preparation.draftId) ++ [markerOf config act])).Inv config :=
      { hs with
        slot := rfl
        once := honce
        apart := fun marker hmarker => (hmem marker hmarker).2.1
        kept := fun marker hmarker =>
          have hkept := (hmem marker hmarker).1
          ⟨hkept.wellFormed, hkept.linked, hkept.allowed, hkept.acted⟩ }
    split
    · refine inv_go (inv_addAct hput hclean hopen hfresh hversion ?_) _ _
      exact fun marker hmarker => (hmem marker hmarker).2.2
    · exact hput

end

theorem inv_sign (hs : s.Inv config) (hconfig : config.Maintained) {input : SignInput}
    (horderly : s.Orderly (.sign input)) (h : s.sign config input = some t) : t.Inv config := by
  rw [sign] at h
  split at h
  · cases h
  · next preparation hpreparation =>
    simp only at h
    split at h
    · exact Option.some.inj h ▸ hs
    · next hkey =>
      split at h
      · split at h
        · exact Option.some.inj h ▸ inv_go hs _ _
        · exact Option.some.inj h ▸ hs
      · next hfind =>
        split at h
        · exact Option.some.inj h ▸ hs
        · next hadmitted =>
          cases h
          simp only [Bool.or_eq_true, Bool.not_eq_true', not_or, Bool.not_eq_false] at hkey hadmitted
          have hunmoved : s.unmoved preparation = true := by
            rw [Orderly, orderly, hfind, hpreparation] at horderly
            simpa using horderly
          have hdraft : (s.drafts preparation.draftId).version = preparation.version := by
            simp only [unmoved, Bool.and_eq_true, beq_iff_eq] at hunmoved
            exact hunmoved.1.1
          obtain ⟨hcreates, hpast⟩ := hs.of_maySign hadmitted.1.1.1 hdraft
          have hunsigned : isSigned (freezeAct config preparation input).candidate = false := by
            rw [freezeAct, isSigned_withContent]
            exact hs.unsigned preparation (List.mem_of_getElem? hpreparation)
          have hclean : Clean (freezeAct config preparation input).candidate := by
            refine ⟨hunsigned, Bool.eq_false_iff.mpr fun howned => ?_⟩
            rw [(hconfig.schema _ hadmitted.2).2 howned] at hunsigned
            cases hunsigned
          have hfresh : ∀ other ∈ s.acts, other.operationId ≠ input.operationId := by
            intro other hother heq
            exact List.find?_eq_none.mp hfind other hother (beq_iff_eq.mpr heq)
          exact inv_mark hs hclean rfl hfresh rfl hcreates
            (kept_markerOf hkey.1 rfl hunmoved hpast)

theorem kept_renewAgain (h : s.Kept config marker) {renewal : Renewal} {drawn : String}
    (hrenewal : marker.renewal = some renewal)
    (hunsigned : isSigned (s.drafts marker.draftId).response = false)
    (hversion : (s.drafts marker.draftId).version = renewal.version)
    (hdrawn : isUuidV7IdempotencyKey drawn = true) (hne : drawn ≠ marker.operationId)
    (hsafe : isSafeInteger ((s.drafts marker.draftId).version + 1) = true) :
    s.Kept config { marker with renewal := some { renewal with
      previousVersion := some (s.drafts marker.draftId).version
      version := (s.drafts marker.draftId).version + 1
      operationId := drawn } } := by
  obtain ⟨hnumber, hlater⟩ := h.wellFormed.version hrenewal
  have hbase : marker.base < renewal.version := by
    rw [PendingMarker.base, hrenewal]
    simp only
    omega
  have hmore : marker.version < renewal.version := by
    cases hprevious : renewal.previousVersion with
    | none =>
      rw [hprevious, Option.getD_none] at hnumber
      omega
    | some previous =>
      have hlt := hlater previous hprevious
      rw [hprevious, Option.getD_some] at hnumber
      omega
  have hreadable := h.wellFormed.readable
  simp only [PendingMarker.isReadable, hrenewal, Option.all_some, Renewal.isReadable,
    Bool.and_eq_true, decide_eq_true_eq] at hreadable
  have hsuccessor : renewal.IsSuccessor config (s.drafts marker.draftId).response := by
    have hlinked := h.linked
    simp only [PendingMarker.Linked, hrenewal] at hlinked
    split at hlinked
    · rcases hlinked with ⟨heq, _⟩ | ⟨_, hsigned, _⟩ | ⟨_, hsuccessor⟩
      · omega
      · rw [hunsigned] at hsigned
        cases hsigned
      · exact hsuccessor
    · exact hlinked.2
  refine ⟨⟨?_, h.wellFormed.keyed, h.wellFormed.owned, ?_⟩, ⟨Or.inl rfl, hsuccessor⟩, ?_, h.acted⟩
  · simp only [PendingMarker.isReadable, Option.all_some, Renewal.isReadable, Bool.and_eq_true,
      decide_eq_true_eq, bne_iff_ne, beq_iff_eq, ne_eq]
    refine ⟨hreadable.1, ⟨⟨⟨⟨⟨⟨hdrawn, hne⟩, hsafe⟩, by omega⟩, ⟨?_, by omega⟩, trivial⟩, ?_⟩, ?_⟩, ?_⟩
    · rw [hversion]
      exact hreadable.2.1.1.1.1.1.2
    · exact hreadable.2.1.1.2
    · exact hreadable.2.1.2
    · exact hreadable.2.2
  · rintro _ ⟨⟩
    exact h.wellFormed.hashed renewal hrenewal
  · intro request hrequest hid hle
    have hle : (s.drafts marker.draftId).version ≤ request.expected := hle
    have hallowed := h.allowed request hrequest hid (by omega)
    simp only [PendingMarker.Allowed, hrenewal] at hallowed
    split at hallowed
    · omega
    · next previous hprevious =>
      rw [hprevious, Option.getD_some] at hnumber
      omega

theorem kept_renewFirst (hconfig : config.Maintained) (h : s.Kept config marker) {drawn : String}
    (hrenewal : marker.renewal = none)
    (hversion : (s.drafts marker.draftId).version = marker.version)
    (htruthy : (s.drafts marker.draftId).response.isTruthy = true)
    (hdrawn : isUuidV7IdempotencyKey drawn = true) (hne : drawn ≠ marker.operationId)
    (hsafe : isSafeInteger ((s.drafts marker.draftId).version + 1) = true) :
    s.Kept config { marker with renewal := some ⟨drawn, marker.version + 1, none,
      (s.drafts marker.draftId).response, config.handoffHash (s.drafts marker.draftId).response,
      config.handoffHash (withoutContent (s.drafts marker.draftId).response)⟩ } := by
  have hunsigned : isSigned (s.drafts marker.draftId).response = false := by
    have hlinked := h.linked
    simp only [PendingMarker.Linked, hrenewal] at hlinked
    rcases hlinked with hbefore | ⟨_, hclean⟩ | ⟨hafter, _⟩
    · omega
    · exact hclean.1
    · omega
  refine ⟨⟨?_, h.wellFormed.keyed, h.wellFormed.owned, ?_⟩, ?_, ?_, h.acted⟩
  · have hreadable := h.wellFormed.readable
    simp only [PendingMarker.isReadable, Bool.and_eq_true] at hreadable
    simp only [PendingMarker.isReadable, Option.all_some, Renewal.isReadable, Bool.and_eq_true,
      decide_eq_true_eq, bne_iff_ne, beq_iff_eq, ne_eq]
    rw [hversion] at hsafe
    exact ⟨hreadable.1, ⟨⟨⟨⟨⟨⟨hdrawn, hne⟩, hsafe⟩, by omega⟩, trivial⟩, htruthy⟩,
      hconfig.hash _⟩, hconfig.hash _⟩
  · rintro _ ⟨⟩
    exact ⟨rfl, rfl, hunsigned⟩
  · exact Or.inl ⟨hversion, hunsigned, same_refl config _⟩
  · intro request hrequest hid hle
    have hle : marker.version ≤ request.expected := hle
    have hbase : marker.base ≤ request.expected := by
      simp only [PendingMarker.base, hrenewal]
      omega
    have hallowed := h.allowed request hrequest hid hbase
    simp only [PendingMarker.Allowed, hrenewal] at hallowed
    rcases hallowed with ⟨hexpected, _⟩ | ⟨hexpected, hsign⟩
    · omega
    · exact ⟨hexpected, Or.inl hsign⟩

theorem inv_writeRenewal (hs : s.Inv config) {renewal : Renewal} (writes : Bool)
    (hmarker : marker ∈ s.written)
    (hkept : s.Kept config { marker with renewal := some renewal }) :
    (s.writeRenewal config marker renewal writes).1.Inv config
      ∧ (s.writeRenewal config marker renewal writes).1.drafts = s.drafts
      ∧ ∀ next, (s.writeRenewal config marker renewal writes).2 = some next →
        next = { marker with renewal := some renewal }
          ∧ next ∈ (s.writeRenewal config marker renewal writes).1.written := by
  rw [writeRenewal, hs.read]
  simp only [Option.getD_some]
  split
  · exact ⟨hs, rfl, fun _ h => by cases h⟩
  · have hmem : ∀ other ∈ s.written.map (fun found => if found.scope == marker.scope then
        { marker with renewal := some renewal } else found), s.Kept config other
          ∧ ∀ create ∈ s.writtenCreates, create.scope ≠ other.scope := by
      intro other hother
      obtain ⟨found, hfound, rfl⟩ := List.mem_map.mp hother
      split
      · exact ⟨hkept, hs.apart marker hmarker⟩
      · exact ⟨hs.kept found hfound, hs.apart found hfound⟩
    have hscopes : (s.written.map (fun found => if found.scope == marker.scope then
        { marker with renewal := some renewal } else found)).map PendingMarker.scope
          = s.written.map PendingMarker.scope := by
      rw [List.map_map]
      refine List.map_congr_left fun found _ => ?_
      rw [Function.comp_apply]
      split
      · next heq => exact (beq_iff_eq.mp heq).symm
      · rfl
    have honce : ((s.written.map (fun found => if found.scope == marker.scope then
        { marker with renewal := some renewal } else found)).map PendingMarker.scope).Nodup := by
      rw [hscopes]
      exact hs.once
    refine ⟨{ hs with slot := rfl, once := honce, apart := ?_, kept := ?_ }, rfl, ?_⟩
    · exact fun other hother => (hmem other hother).2
    · intro other hother
      have hkept := (hmem other hother).1
      exact ⟨hkept.wellFormed, hkept.linked, hkept.allowed, hkept.acted⟩
    · intro next hnext
      split at hnext
      · refine ⟨(Option.some.inj hnext).symm, List.mem_map.mpr ⟨marker, hmarker, ?_⟩⟩
        rw [if_pos (beq_self_eq_true _)]
        exact Option.some.inj hnext
      · cases hnext

/-- A recovery of a written marker of this draft, with the candidates it has. -/
structure Recovers (s : SigningState) (draftId : String) (recovery : Recovery) : Prop where
  written : recovery.marker ∈ s.written
  draft : recovery.marker.draftId = draftId
  successor : recovery.successor = withoutContent recovery.original
  renewed : ∀ renewal, recovery.marker.renewal = some renewal →
    renewal.originalCandidate = recovery.original
  first : recovery.marker.renewal = none →
    recovery.original = withoutSignatures (s.drafts draftId).response

variable {recovery : Recovery}

theorem eq_of_recoveryOf {version : Int} {response : Value}
    (h : recoveryOf config marker version response = some recovery) :
    recovery = ⟨marker,
      (marker.renewal.map Renewal.originalCandidate).getD (withoutSignatures response),
      withoutContent
        ((marker.renewal.map Renewal.originalCandidate).getD (withoutSignatures response))⟩ := by
  rw [recoveryOf] at h
  split at h
  · cases h
  split at h
  · split at h
    · cases h
    · exact (Option.some.inj h).symm
  split at h
  · split at h
    · exact (Option.some.inj h).symm
    · cases h
  split at h
  · split at h
    · exact (Option.some.inj h).symm
    · cases h
  · cases h

section

variable (hs : s.Inv config)
include hs

theorem Inv.recovers
    (h : s.pendingRecoveryFor config draftId (s.drafts draftId).version (s.drafts draftId).response
      = some recovery) : s.Recovers draftId recovery := by
  obtain ⟨marker, hfound, hrecovery⟩ := Option.bind_eq_some_iff.mp h
  obtain ⟨hmarker, hdraft, -⟩ := hs.of_pendingMarkerFor hfound
  obtain rfl := eq_of_recoveryOf hrecovery
  refine ⟨hmarker, hdraft, rfl, fun renewal hrenewal => ?_, fun hrenewal => ?_⟩
  · have hrenewal : marker.renewal = some renewal := hrenewal
    simp only [hrenewal, Option.map_some, Option.getD_some]
  · have hrenewal : marker.renewal = none := hrenewal
    simp only [hrenewal, Option.map_none, Option.getD_none]

theorem inv_finishRestore (recovery : Recovery) (actor : String)
    (content : Value) (answers : Answers) :
    (s.finishRestore config recovery actor content answers).Inv config := by
  rw [finishRestore]
  split
  · split
    · exact inv_go (inv_unmark hs _) _ _
    · exact inv_go hs _ _
  · next hunsigned =>
    split
    · exact inv_go hs _ _
    split
    · exact inv_go (inv_addPreparation hs (Bool.eq_false_iff.mpr hunsigned)) _ _
    · exact inv_go hs _ _

variable {input : RestoreInput}

theorem inv_renewAgain
    (hrecovery : s.Recovers input.draftId recovery) (hdraws : s.draws input.drawn = true)
    (hsafe : isSafeInteger ((s.drafts input.draftId).version + 1) = true) :
    (s.renewAgain config input recovery.marker).1.Inv config
      ∧ ∀ next, (s.renewAgain config input recovery.marker).2 = some next →
        (s.renewAgain config input recovery.marker).1.Recovers input.draftId
            { recovery with marker := next }
          ∧ (s.renewAgain config input recovery.marker).1.drafts = s.drafts
          ∧ (next.renewal = none → input.drawn ≠ next.operationId) := by
  simp only [draws, Bool.and_eq_true, List.all_eq_true, bne_iff_ne] at hdraws
  obtain ⟨hdrawn, hfresh⟩ := hdraws
  have hne := (hfresh _ hrecovery.written).symm
  have hsame : ∀ next, some recovery.marker = some next →
      s.Recovers input.draftId { recovery with marker := next } ∧ s.drafts = s.drafts
        ∧ (next.renewal = none → input.drawn ≠ next.operationId) := by
    intro next hnext
    cases hnext
    exact ⟨hrecovery, rfl, fun _ => hne⟩
  rw [renewAgain]
  split
  · exact ⟨hs, hsame⟩
  · next renewal hrenewal =>
    split
    · next hwhen =>
      simp only [Bool.and_eq_true, Bool.not_eq_true', beq_iff_eq] at hwhen
      obtain ⟨⟨hunsigned, -⟩, hversion⟩ := hwhen
      have hkept := hs.kept _ hrecovery.written
      rw [← hrecovery.draft] at hunsigned hversion hsafe ⊢
      obtain ⟨hput, hdrafts, hnext⟩ := inv_writeRenewal hs input.answers.writes
        hrecovery.written (kept_renewAgain hkept hrenewal hunsigned hversion hdrawn hne hsafe)
      refine ⟨hput, fun next h => ?_⟩
      obtain ⟨rfl, hwritten⟩ := hnext next h
      refine ⟨⟨hwritten, rfl, hrecovery.successor, ?_, nofun⟩, hdrafts,
        nofun⟩
      rintro _ ⟨⟩
      exact hrecovery.renewed renewal hrenewal
    · exact ⟨hs, hsame⟩

theorem inv_renewFirst (hconfig : config.Maintained) (hrecovery : s.Recovers input.draftId recovery)
    (hdrawn : isUuidV7IdempotencyKey input.drawn = true)
    (hne : recovery.marker.renewal = none → input.drawn ≠ recovery.marker.operationId)
    (hsafe : isSafeInteger ((s.drafts input.draftId).version + 1) = true)
    (hvalid : config.validateResponse recovery.successor = true)
    (hversion : (s.drafts input.draftId).version = recovery.marker.version
      ∨ recovery.marker.renewal.any (fun renewal =>
        some (s.drafts input.draftId).version == renewal.previousVersion) = true) :
    (s.renewFirst config input recovery).1.Inv config
      ∧ ∀ next, (s.renewFirst config input recovery).2 = some next →
        next ∈ (s.renewFirst config input recovery).1.written ∧ next.draftId = input.draftId
          ∧ next.Allowed config ⟨input.draftId, (s.drafts input.draftId).version,
            .save recovery.successor⟩ := by
  have hkept := hs.kept _ hrecovery.written
  rw [renewFirst]
  split
  · next renewal hrenewal =>
    refine ⟨hs, fun next hnext => ?_⟩
    cases hnext
    have hsuccessor : renewal.IsSuccessor config recovery.successor := by
      rw [Renewal.IsSuccessor, hrecovery.successor, hrecovery.renewed renewal hrenewal,
        isSigned_withoutContent, ← hrecovery.renewed renewal hrenewal]
      exact ⟨(hkept.wellFormed.hashed renewal hrenewal).2.2, same_refl config _⟩
    refine ⟨hrecovery.written, hrecovery.draft, ?_⟩
    simp only [PendingMarker.Allowed, hrenewal]
    have hlinked := hkept.linked
    simp only [PendingMarker.Linked, hrenewal, hrecovery.draft] at hlinked
    rw [hrenewal, Option.any_some, beq_iff_eq] at hversion
    split
    · next hprevious =>
      rw [hprevious] at hversion
      refine ⟨?_, Or.inr ⟨_, rfl, hsuccessor⟩⟩
      rcases hversion with hversion | hversion
      · exact hversion
      · cases hversion
    · next previous hprevious =>
      have hlt := (hkept.wellFormed.version hrenewal).2 previous hprevious
      simp only [hprevious] at hlinked hversion
      refine ⟨?_, _, rfl, hsuccessor⟩
      rcases hversion with hversion | hversion
      · omega
      · exact Option.some.inj hversion
  · next hrenewal =>
    simp only [hrenewal, Option.any_none, Bool.false_eq_true, or_false] at hversion
    have hresponse : recovery.original = (s.drafts input.draftId).response := by
      rw [hrecovery.first hrenewal]
      apply withoutSignatures_of_unsigned
      have hlinked := hkept.linked
      simp only [PendingMarker.Linked, hrenewal, hrecovery.draft] at hlinked
      rcases hlinked with hbefore | ⟨_, hclean⟩ | ⟨hafter, _⟩
      · omega
      · exact hclean.2
      · omega
    have htruthy : (s.drafts input.draftId).response.isTruthy = true := by
      have hvalid := (hconfig.schema _ hvalid).1
      rw [hrecovery.successor, isTruthy_withoutContent, hresponse] at hvalid
      exact hvalid
    have hunsigned : isSigned (s.drafts input.draftId).response = false := by
      rw [← hresponse, hrecovery.first hrenewal]
      exact isSigned_withoutSignatures
    rw [hrecovery.successor, hresponse]
    rw [← hrecovery.draft] at hversion htruthy hsafe hunsigned ⊢
    have hfirst := kept_renewFirst hconfig hkept hrenewal hversion htruthy hdrawn (hne hrenewal) hsafe
    obtain ⟨hput, -, hnext⟩ := inv_writeRenewal hs input.answers.writes
      hrecovery.written hfirst
    refine ⟨hput, fun next h => ?_⟩
    obtain ⟨rfl, hwritten⟩ := hnext next h
    refine ⟨hwritten, rfl, hversion, Or.inr ⟨_, rfl, ?_, same_refl config _⟩⟩
    rw [isSigned_withoutContent]
    exact hunsigned

theorem inv_saveSuccessor (hconfig : config.Maintained)
    (hrecovery : s.Recovers input.draftId recovery)
    (hdrawn : isUuidV7IdempotencyKey input.drawn = true)
    (hne : recovery.marker.renewal = none → input.drawn ≠ recovery.marker.operationId)
    (hsafe : isSafeInteger ((s.drafts input.draftId).version + 1) = true) :
    (s.saveSuccessor config input recovery).Inv config := by
  rw [saveSuccessor]
  split
  · next hwhen =>
    simp only [Bool.and_eq_true, Bool.or_eq_true, beq_iff_eq] at hwhen
    split
    · exact hs
    · next hvalid =>
      rw [Bool.not_eq_true', Bool.not_eq_false] at hvalid
      obtain ⟨ht, hnext⟩ := inv_renewFirst hs hconfig hrecovery hdrawn hne hsafe hvalid hwhen.2
      split
      · next hwritten =>
        rw [hwritten] at ht
        exact ht
      · next t marker hwritten =>
        rw [hwritten] at ht hnext
        obtain ⟨hmarker, hdraft, hallowed⟩ := hnext marker rfl
        refine inv_go (inv_dispatch ht ?_) _ _
        intro other hother hid _
        rw [ht.marker_unique hmarker hother (hid.symm.trans hdraft.symm)]
        exact hallowed
  · exact inv_finishRestore hs _ _ _ _

theorem inv_restorePending (hconfig : config.Maintained)
    (hdraws : s.draws input.drawn = true) (horderly : s.Orderly (.restorePending input)) :
    (s.restorePending config input).Inv config := by
  have hsafe : isSafeInteger ((s.drafts input.draftId).version + 1) = true := horderly
  have hdrawn := (Bool.and_eq_true_iff.mp hdraws).1
  rw [restorePending]
  split
  · exact hs
  split
  · exact hs
  · next recovery hpending =>
    split
    · exact hs
    · obtain ⟨ht, hnext⟩ := inv_renewAgain hs (hs.recovers hpending) hdraws hsafe
      split
      · next hwritten =>
        rw [hwritten] at ht
        exact ht
      · next t marker hwritten =>
        rw [hwritten] at ht hnext
        obtain ⟨hrecovery, hdrafts, hne⟩ := hnext marker rfl
        rw [← hdrafts] at hsafe
        exact inv_saveSuccessor ht hconfig hrecovery hdrawn hne hsafe

theorem Inv.of_refused (h : s.refused config scope = false) :
    ∀ marker ∈ s.written, marker.scope ≠ scope :=
  (hs.of_resolved (Bool.or_eq_false_iff.mp h).1).1

theorem inv_save (expected : Int) (response : Value) :
    (s.save config draftId expected response).Inv config := by
  rw [save]
  split
  · exact hs
  · next hrefused =>
    refine inv_dispatch hs fun marker hmarker hid _ => ?_
    have hscope := hs.of_refused (Bool.eq_false_iff.mpr hrefused) marker hmarker
    rw [(hs.kept marker hmarker).wellFormed.owned] at hscope
    exact absurd (congrArg config.scopeOf hid.symm) hscope

theorem inv_prepare (actor : String) (content : Value) :
    (s.prepare config draftId actor content).Inv config := by
  rw [prepare]
  split
  · exact hs
  · next hrefused =>
    rw [Bool.not_eq_true, Bool.or_eq_false_iff] at hrefused
    exact inv_addPreparation hs hrefused.2

theorem inv_create (hconfig : config.Maintained)
    {operationId definitionUrl definitionVersion : String} {response : Value} {writes : Bool}
    (horderly : s.Orderly
      (.create scope operationId definitionUrl definitionVersion response writes)) :
    (s.create config scope operationId definitionUrl definitionVersion response writes).Inv
      config := by
  simp only [Orderly, orderly, Bool.and_eq_true] at horderly
  rw [create, hs.readCreates]
  simp only
  split
  · exact hs
  · next hwhen =>
    simp only [Bool.or_eq_true, Bool.not_eq_true', not_or, Bool.not_eq_false] at hwhen
    obtain ⟨⟨hrefused, hkey⟩, -⟩ := hwhen
    refine { hs with createSlot := rfl, creates := ?_, apart := ?_, kept := ?_ }
    · intro create hcreate
      rcases List.mem_append.mp hcreate with hold | hnew
      · exact hs.creates create hold
      · obtain rfl := List.mem_singleton.mp hnew
        simp only [CreateMarker.isReadable, Bool.and_eq_true]
        exact ⟨⟨⟨⟨horderly.1.1, hkey⟩, horderly.1.2⟩, horderly.2⟩, hconfig.hash response⟩
    · intro marker hmarker create hcreate
      rcases List.mem_append.mp hcreate with hold | hnew
      · exact hs.apart marker hmarker create hold
      · obtain rfl := List.mem_singleton.mp hnew
        exact (hs.of_refused (Bool.eq_false_iff.mpr hrefused) marker hmarker).symm
    · intro marker hmarker
      have hkept := hs.kept marker hmarker
      exact ⟨hkept.wellFormed, hkept.linked, hkept.allowed, hkept.acted⟩

theorem inv_created (scope : String) : (s.created scope).Inv config := by
  rw [created, hs.readCreates]
  refine { hs with createSlot := rfl, creates := ?_, apart := ?_, kept := ?_ }
  · exact fun create hcreate => hs.creates create (List.mem_of_mem_filter hcreate)
  · exact fun marker hmarker create hcreate =>
      hs.apart marker hmarker create (List.mem_of_mem_filter hcreate)
  · intro marker hmarker
    have hkept := hs.kept marker hmarker
    exact ⟨hkept.wellFormed, hkept.linked, hkept.allowed, hkept.acted⟩

theorem inv_drop (keep : FrozenAct → Bool) (keeps : Preparation → Bool)
    (running : String → Option Running) :
    ({ s with
      acts := s.acts.filter keep
      preparations := s.preparations.filter keeps
      running := running } : SigningState).Inv config := by
  have hkept : ∀ marker ∈ s.written, ({ s with
      acts := s.acts.filter keep
      preparations := s.preparations.filter keeps
      running := running } : SigningState).Kept config marker := by
    intro marker hmarker
    refine kept_of_drafts (hs.kept marker hmarker) rfl (fun _ h _ _ => Or.inl h) ?_
    exact fun act hact _ => Or.inl ⟨act, List.mem_of_mem_filter hact, rfl, rfl⟩
  exact { hs with
    kept := hkept
    unsigned := fun preparation h => hs.unsigned preparation (List.mem_of_mem_filter h)
    distinct := hs.distinct.sublist (List.filter_sublist.map _)
    frozen := fun act hact => hs.frozen act (List.mem_of_mem_filter hact)
    resolved := fun act hact => hs.resolved act (List.mem_of_mem_filter hact) }

theorem inv_reload : s.reload.Inv config := by
  have hdrop := inv_drop hs (fun _ => false) (fun _ => false) fun _ => none
  rw [List.filter_false, List.filter_false] at hdrop
  exact hdrop

theorem inv_clearScope (scope : String) :
    (s.clearScope config scope).Inv config := by
  have hdrop := inv_drop hs (fun act => config.scopeOf act.preparation.draftId != scope)
    (fun _ => true) s.running
  rw [List.filter_true] at hdrop
  rw [clearScope]
  simp only [hs.read]
  exact inv_created (inv_filter hdrop _) scope

theorem inv_landed {request : WriteRequest} {response : Value} (hrequest : request ∈ s.requests)
    (hexpected : (s.drafts request.draftId).version = request.expected)
    (hlinked : ∀ marker : PendingMarker, marker.Allowed config request →
      marker.Linked config (s.drafts request.draftId) →
      marker.Linked config ⟨(s.drafts request.draftId).version + 1, response⟩) :
    ({ s with
      drafts := Function.update s.drafts request.draftId
        ⟨(s.drafts request.draftId).version + 1, response⟩ } : SigningState).Inv config := by
  have hkept : ∀ marker ∈ s.written, ({ s with
      drafts := Function.update s.drafts request.draftId
        ⟨(s.drafts request.draftId).version + 1, response⟩ } : SigningState).Kept config marker := by
    intro marker hmarker
    have hkept := hs.kept marker hmarker
    by_cases hid : request.draftId = marker.draftId
    · refine ⟨hkept.wellFormed, ?_, hkept.allowed, hkept.acted⟩
      have hold := hkept.linked
      rw [← hid] at hold ⊢
      simp only [Function.update_self]
      have hbase : marker.base ≤ request.expected := hexpected ▸ hold.base_le
      exact hlinked marker (hkept.allowed request hrequest hid hbase) hold
    · refine kept_of_drafts hkept ?_ (fun _ h _ _ => Or.inl h)
        fun act hact _ => Or.inl ⟨act, hact, rfl, rfl⟩
      exact Function.update_of_ne (Ne.symm hid) _ _
  refine { hs with kept := hkept, resolved := ?_ }
  intro act hact hresolved
  have hold := hs.resolved act hact hresolved
  by_cases hid : act.preparation.draftId = request.draftId
  · rw [hid] at hold ⊢
    simp only [Function.update_self]
    omega
  · simp only [Function.update_of_ne hid]
    exact hold

theorem inv_land {number : Nat} {signed : Value}
    (h : s.land config number signed = some t) : t.Inv config := by
  rw [land] at h
  split at h
  · cases h
  · next request hrequest =>
    have hmem := List.mem_of_getElem? hrequest
    simp only at h
    split at h
    · exact Option.some.inj h ▸ hs
    · next hversion =>
      rw [bne_iff_ne, ne_eq, not_not] at hversion
      split at h
      · next response hwrite =>
        cases h
        exact inv_landed hs hmem hversion fun marker hallowed _ => hallowed.save hversion hwrite
      · next hwrite =>
        split at h
        · next hsigned =>
          simp only [Bool.and_eq_true] at hsigned
          cases h
          exact inv_landed hs hmem hversion fun marker hallowed hlinked =>
            hallowed.sign hlinked hversion hwrite hsigned.1.2 hsigned.2
        · cases h

end

/-! ## Runs -/

theorem inv_step (hs : s.Inv config) (hconfig : config.Maintained) {event : Event}
    (horderly : s.Orderly event) (h : s.step config event = some t) : t.Inv config := by
  cases event with
  | save draftId expected response => exact Option.some.inj h ▸ inv_save hs expected response
  | prepare draftId actor content => exact Option.some.inj h ▸ inv_prepare hs actor content
  | create scope operationId definitionUrl definitionVersion response writes =>
    exact Option.some.inj h ▸ inv_create hs hconfig horderly
  | created scope => exact Option.some.inj h ▸ inv_created hs scope
  | sign input => exact inv_sign hs hconfig horderly h
  | execute scope answers => exact inv_execute hs h
  | restorePending input =>
    rw [step] at h
    split at h
    · next hdraws => exact Option.some.inj h ▸ inv_restorePending hs hconfig hdraws horderly
    · cases h
  | renewed scope actor content answers =>
    rw [step, renewed] at h
    split at h
    · exact Option.some.inj h ▸ inv_finishRestore hs _ _ _ _
    · cases h
  | halt scope => exact Option.some.inj h ▸ inv_go hs _ _
  | clearScope scope =>
    rw [step] at h
    split at h
    · cases h
    · exact Option.some.inj h ▸ inv_clearScope hs scope
  | reload => exact Option.some.inj h ▸ inv_reload hs
  | land request signed => exact inv_land hs h

section Sample

def sampleConfig : SigningConfig where
  canonicalize := SubmitTransport.canonicalText
  handoffHash response :=
    if (((response.get? "extensions").bind fun extensions =>
        extensions.get? signingContentKey).isSome) then
      "a07a2a629086c10486f200c1d81f7a98dd5682e4c79c091f5e53e3da8e055eef"
    else "a3d3d35c8c4f62d9f00cc1fc2fcc98307a73d89666503d537ac23c0cdb58a564"
  validateResponse response :=
    response.isTruthy && (!response.hasOwn "authoredSignatures" || isSigned response)
  expectedIssuer := "urn:issuer"
  scopeOf draftId := "scope:" ++ draftId

def sampleSign (preparation : Nat) (operationId : String) : SignInput :=
  ⟨preparation, operationId, "Ada", "2026-01-01T00:00:00Z", "b7", true, true, true⟩

end Sample

end SigningState

end FormspecWeb.Signing
