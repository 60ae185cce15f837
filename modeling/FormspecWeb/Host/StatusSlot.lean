import FormspecWeb.Host.VisitFence
import FormspecWeb.Host.ApplicantStatus

/-!
# The slot of the applicant status

The three ports of a bound visit agree on which requests have the status, and its revision changes
with it, where the policy leaves the source of the slot as it is by default. The ports test for that
default before they test for the source that is configured.
-/

namespace FormspecWeb.Host

open Shared

namespace StatusHost

section

variable (policy : StatusPolicy) (s : StatusHost) (visit : SurfaceVisit) (request : LoadRequest)

/-- The request is for the source of the slot, and comes from the slot of the current visit. -/
structure Admitted : Prop where
  current : s.visits.isCurrent visit = true
  marker : request.context.sessionGeneration = .marker visit.marker
  descriptor : ∃ catalogRef, resolveDataSourceDescriptor policy.catalogs catalogRef
    policy.visits.statusSourceRef = some request.descriptor
  slot : request.context.slotId = policy.visits.statusSlotId
  module : request.context.moduleId = some policy.visits.statusModuleId
  available : policy.visits.surface.availableToWidget request.descriptor request.context = true

/-- All three ports grant the status, which is the one that is published. -/
structure Grants (status : Value) : Prop where
  published : s.published = some status
  authorized : s.authorizeDataSource policy visit request = .authorized
  loaded : ∃ revision, s.dataSourceRevision policy visit request = some revision
    ∧ s.dataSourceLoader policy visit request = .loaded status s.recordId revision

/-- No port hands out the status: what they grant is a source of the current delivery. -/
structure Withholds : Prop where
  authorized : s.authorizeDataSource policy visit request = .authorized →
    ∃ runtime value, s.visits.runtime = some runtime ∧ (request.descriptor, value) ∈ runtime.entries
  loaded : ∀ value recordId revision,
    s.dataSourceLoader policy visit request = .loaded value recordId revision →
      ∃ runtime, s.visits.runtime = some runtime ∧ (request.descriptor, value) ∈ runtime.entries
  revision : ∀ revision, s.dataSourceRevision policy visit request = some revision →
    s.visits.runtime.isSome = true ∧ request.descriptor ∈ policy.visits.entries

structure Agrees : Prop where
  grants : ∀ status, s.visits.applicantStatus = some status → s.Admitted policy visit request →
    s.Grants policy visit request status
  withholds : s.visits.applicantStatus = none ∨ ¬ s.Admitted policy visit request →
    s.Withholds policy visit request

end

/-- The revision that is reported in two states of a run is the same exactly where every status that
was settled on in between is the same. -/
def RevisionsFollow (policy : StatusPolicy) (s t : StatusHost) : Prop :=
  ∃ since, t.statuses = since ++ s.statuses ∧
    ∀ first second asked again status, s.visits.applicantStatus = some status →
      t.visits.applicantStatus.isSome = true → s.Admitted policy first asked →
      t.Admitted policy second again → again.descriptor = asked.descriptor →
      ∃ before after, s.dataSourceRevision policy first asked = some before
        ∧ t.dataSourceRevision policy second again = some after
        ∧ (after = before ↔ ∀ settled ∈ since, policy.canonicalize settled = policy.canonicalize status)

/-! ## Revisions -/

/-- How often a text changed, its first coming included; newest first. -/
def changes : List String → Int
  | [] => 0
  | [_] => 1
  | newest :: older :: rest => changes (older :: rest) + if newest = older then 0 else 1

def revisionAfter : List String → Option SourceRevision
  | [] => none
  | newest :: older => some ⟨newest, changes (newest :: older)⟩

variable {revisions : SourceRevisions} {key other : String × String} {text : String}
  {texts : List String}

theorem le_changes_cons : changes texts ≤ changes (text :: texts) := by
  cases texts with
  | nil =>
    change (0 : Int) ≤ 1
    decide
  | cons newest older =>
    have hcons : changes (text :: newest :: older)
        = changes (newest :: older) + if text = newest then 0 else 1 := rfl
    rw [hcons]
    split <;> omega

theorem le_changes_append {since : List String} : changes texts ≤ changes (since ++ texts) := by
  induction since with
  | nil => exact Int.le_refl _
  | cons newest older ih => exact Int.le_trans ih le_changes_cons

theorem changes_append_eq_iff {since : List String} :
    changes (since ++ text :: texts) = changes (text :: texts) ↔ ∀ settled ∈ since, settled = text := by
  induction since with
  | nil => simp
  | cons newest since ih =>
    have hle : changes (text :: texts) ≤ changes (since ++ text :: texts) := le_changes_append
    rw [List.forall_mem_cons, List.cons_append]
    cases hsince : since with
    | nil =>
      have hcons : changes (newest :: text :: texts)
          = changes (text :: texts) + if newest = text then 0 else 1 := rfl
      rw [List.nil_append, hcons]
      by_cases hnewest : newest = text
      · simp [hnewest]
      · have hlt : changes (text :: texts) + 1 ≠ changes (text :: texts) := by omega
        rw [if_neg hnewest]
        exact iff_of_false hlt fun hall => hnewest hall.1
    | cons older rest =>
      have hcons : changes (newest :: older :: (rest ++ text :: texts))
          = changes (older :: (rest ++ text :: texts)) + if newest = older then 0 else 1 := rfl
      rw [hsince, List.cons_append] at ih hle
      rw [List.cons_append, hcons]
      constructor
      · intro heq
        by_cases hnewest : newest = older
        · rw [if_pos hnewest] at heq
          have holder := ih.mp (by omega)
          exact ⟨hnewest.trans (holder older List.mem_cons_self), holder⟩
        · rw [if_neg hnewest] at heq
          omega
      · rintro ⟨rfl, holder⟩
        rw [if_pos (holder older List.mem_cons_self).symm, ih.mpr holder]
        omega

theorem revise_other (h : other ≠ key) : revise revisions key text other = revisions other := by
  unfold revise
  split
  · rfl
  · exact Function.update_of_ne h _ _

theorem revise_after (h : revisions key = revisionAfter texts) :
    revise revisions key text key = revisionAfter (text :: texts) := by
  have hafter : revisionAfter (text :: texts) = some ⟨text, changes (text :: texts)⟩ := rfl
  unfold revise
  rw [h, hafter]
  cases texts with
  | nil =>
    rw [if_neg (by simp [revisionAfter]), Function.update_self]
    rfl
  | cons newest older =>
    have hcons : changes (text :: newest :: older)
        = changes (newest :: older) + if text = newest then 0 else 1 := rfl
    have hvalue : (revisionAfter (newest :: older)).map (·.value) = some newest := rfl
    rw [hvalue, hcons]
    by_cases htext : newest = text
    · rw [if_pos (congrArg some htext), if_pos htext.symm, Int.add_zero, h, htext]
      rfl
    · rw [if_neg (fun heq => htext (Option.some.inj heq)), if_neg (Ne.symm htext), Function.update_self]
      rfl

theorem revise_again (h : revisions key = revisionAfter (text :: texts)) :
    revise revisions key text key = revisionAfter (text :: texts) := by
  unfold revise
  rw [if_pos (by rw [h]; rfl), h]

variable {policy : StatusPolicy} {s t next : StatusHost} {visit : SurfaceVisit}
  {request : LoadRequest} {status : Value}

variable {catalogs : List Catalog}

theorem refs_of_resolve {catalogRef sourceRef : String} {descriptor : Descriptor}
    (h : resolveDataSourceDescriptor catalogs catalogRef sourceRef = some descriptor) :
    descriptor.catalogRef = catalogRef ∧ descriptor.sourceRef = sourceRef := by
  unfold resolveDataSourceDescriptor at h
  split at h
  · split at h
    · cases h
      exact ⟨rfl, rfl⟩
    · cases h
  · cases h

theorem catalog_of_resolve {catalogRef sourceRef : String}
    {descriptor : Descriptor}
    (h : resolveDataSourceDescriptor catalogs catalogRef sourceRef = some descriptor) :
    ∃ catalog ∈ catalogs,
      resolveDataSourceDescriptor [catalog] catalog.catalogRef sourceRef = some descriptor := by
  unfold resolveDataSourceDescriptor at h
  split at h
  case h_1 handle hfilter =>
    have hmem : handle ∈ catalogs.filter (·.catalogRef == catalogRef) := by
      rw [hfilter]
      exact List.mem_singleton_self handle
    obtain ⟨hcatalog, href⟩ := List.mem_filter.mp hmem
    refine ⟨handle, hcatalog, ?_⟩
    unfold resolveDataSourceDescriptor
    have hself : [handle].filter (·.catalogRef == handle.catalogRef) = [handle] := by simp
    rw [hself, beq_iff_eq.mp href]
    exact h
  case h_2 => cases h

def SlotKey (policy : StatusPolicy) (key : String × String) : Prop :=
  ∃ catalog ∈ policy.catalogs, ∃ descriptor, slotDescriptor policy catalog = some descriptor
    ∧ FrozenRuntime.sourceKey descriptor = key

theorem Admitted.slotKey (h : s.Admitted policy visit request) :
    SlotKey policy (FrozenRuntime.sourceKey request.descriptor) := by
  obtain ⟨catalogRef, hresolve⟩ := h.descriptor
  obtain ⟨catalog, hcatalog, hslot⟩ := catalog_of_resolve hresolve
  exact ⟨catalog, hcatalog, request.descriptor, hslot, rfl⟩

theorem SlotKey.sourceRef (h : SlotKey policy key) : key.2 = policy.visits.statusSourceRef := by
  obtain ⟨catalog, -, descriptor, hslot, rfl⟩ := h
  exact (refs_of_resolve hslot).2

theorem foldl_reviseSlot_again
    (h : revisions key = revisionAfter (policy.canonicalize status :: texts)) :
    catalogs.foldl (reviseSlot policy status) revisions key
      = revisionAfter (policy.canonicalize status :: texts) := by
  induction catalogs generalizing revisions with
  | nil => exact h
  | cons catalog catalogs ih =>
    rw [List.foldl_cons]
    apply ih
    unfold reviseSlot
    cases slotDescriptor policy catalog with
    | none => exact h
    | some descriptor =>
      by_cases hkey : key = FrozenRuntime.sourceKey descriptor
      · subst hkey
        exact revise_again h
      · exact (revise_other hkey).trans h

theorem foldl_reviseSlot
    (hkey : ∃ catalog ∈ catalogs, ∃ descriptor, slotDescriptor policy catalog = some descriptor
      ∧ FrozenRuntime.sourceKey descriptor = key) (h : revisions key = revisionAfter texts) :
    catalogs.foldl (reviseSlot policy status) revisions key
      = revisionAfter (policy.canonicalize status :: texts) := by
  induction catalogs generalizing revisions with
  | nil =>
    obtain ⟨catalog, hcatalog, -⟩ := hkey
    cases hcatalog
  | cons catalog catalogs ih =>
    rw [List.foldl_cons]
    by_cases hhere : ∃ descriptor, slotDescriptor policy catalog = some descriptor
        ∧ FrozenRuntime.sourceKey descriptor = key
    · obtain ⟨descriptor, hslot, rfl⟩ := hhere
      apply foldl_reviseSlot_again
      unfold reviseSlot
      rw [hslot]
      exact revise_after h
    · apply ih
      · obtain ⟨found, hfound, hslot⟩ := hkey
        rcases List.mem_cons.mp hfound with rfl | hfound
        · exact absurd hslot hhere
        · exact ⟨found, hfound, hslot⟩
      · unfold reviseSlot
        cases hslot : slotDescriptor policy catalog with
        | none => exact h
        | some descriptor =>
          have hother : key ≠ FrozenRuntime.sourceKey descriptor :=
            fun heq => hhere ⟨descriptor, hslot, heq.symm⟩
          exact (revise_other hother).trans h

/-! ## The invariant -/

/-- The text of a source of the slot is the one of the status that was settled on last, which is the
one the host has, if it has any. -/
structure Sound (policy : StatusPolicy) (s : StatusHost) : Prop where
  published : s.published = s.visits.applicantStatus
  revised : ∀ key, SlotKey policy key →
    s.sourceRevisions key = revisionAfter (s.statuses.map policy.canonicalize)
  newest : ∀ status, s.visits.applicantStatus = some status →
    ∃ settled older, s.statuses = settled :: older
      ∧ policy.canonicalize settled = policy.canonicalize status

theorem Sound.of_same (h : s.Sound policy) (hrevisions : t.sourceRevisions = s.sourceRevisions)
    (hstatuses : t.statuses = s.statuses) (hpublished : t.published = t.visits.applicantStatus)
    (hstatus : t.visits.applicantStatus = s.visits.applicantStatus ∨ t.visits.applicantStatus = none) :
    t.Sound policy where
  published := hpublished
  revised key hkey := by
    rw [hrevisions, hstatuses]
    exact h.revised key hkey
  newest status hsome := by
    rcases hstatus with hstatus | hstatus
    · rw [hstatuses]
      exact h.newest status (hstatus ▸ hsome)
    · rw [hstatus] at hsome
      cases hsome

theorem Sound.updateApplicantStatusRevision (h : s.Sound policy) (key : String × String)
    (hkey : SlotKey policy key) :
    (s.updateApplicantStatusRevision policy status).sourceRevisions key
      = revisionAfter ((status :: s.statuses).map policy.canonicalize) :=
  foldl_reviseSlot hkey (h.revised key hkey)

theorem Sound.settle (h : s.Sound policy) (next : Option Value) : (s.settle policy next).Sound policy := by
  unfold StatusHost.settle
  cases next with
  | none =>
    dsimp only
    split
    · exact h
    · exact h.of_same rfl rfl rfl (Or.inr rfl)
  | some status =>
    have hrevised : ∀ key, SlotKey policy key →
        (s.updateApplicantStatusRevision policy status).sourceRevisions key
          = revisionAfter ((status :: s.statuses).map policy.canonicalize) :=
      h.updateApplicantStatusRevision
    dsimp only
    split
    case isTrue hsame =>
      refine ⟨h.published, hrevised, fun present hpresent => ⟨status, s.statuses, rfl, ?_⟩⟩
      have hpresent : s.visits.applicantStatus = some present := hpresent
      have hsame : s.visits.applicantStatus.map policy.canonicalize
        = some (policy.canonicalize status) := hsame
      rw [hpresent] at hsame
      exact (Option.some.inj hsame).symm
    case isFalse =>
      refine ⟨rfl, hrevised, fun present hpresent => ⟨status, s.statuses, rfl, ?_⟩⟩
      rw [Option.some.inj hpresent]

theorem sound_opened : (opened policy).Sound policy := by
  apply Sound.settle
  exact ⟨rfl, fun _ _ => rfl, nofun⟩

theorem statuses_settle (next : Option Value) : s.statuses <:+ (s.settle policy next).statuses := by
  unfold StatusHost.settle
  cases next with
  | none =>
    dsimp only
    split <;> exact List.suffix_refl _
  | some status =>
    dsimp only
    split <;> exact List.suffix_cons _ _

structure Follows (policy : StatusPolicy) (s t : StatusHost) : Prop where
  sound : s.Sound policy → t.Sound policy
  statuses : s.statuses <:+ t.statuses

theorem Follows.refl : Follows policy s s := ⟨id, List.suffix_refl _⟩

theorem Follows.trans (hst : Follows policy s t) (htn : Follows policy t next) : Follows policy s next :=
  ⟨fun h => htn.sound (hst.sound h), hst.statuses.trans htn.statuses⟩

theorem follows_settle (next : Option Value) : Follows policy s (s.settle policy next) :=
  ⟨fun h => h.settle next, statuses_settle next⟩

theorem follows_of_same (hrevisions : t.sourceRevisions = s.sourceRevisions)
    (hstatuses : t.statuses = s.statuses) (hpublished : t.published = s.published)
    (hstatus : t.visits.applicantStatus = s.visits.applicantStatus) : Follows policy s t where
  sound h := h.of_same hrevisions hstatuses (by rw [hpublished, hstatus, h.published]) (Or.inl hstatus)
  statuses := hstatuses ▸ List.suffix_refl _

theorem follows_abortRead : Follows policy s s.abortRead := by
  unfold abortRead
  split
  · exact Follows.refl
  · exact follows_of_same rfl rfl rfl rfl

theorem follows_dropStatus : Follows policy s (s.dropStatus policy) := by
  have hforgotten : Follows policy s { s.abortRead with statusReadKey := none } :=
    follows_abortRead.trans (follows_of_same rfl rfl rfl rfl)
  exact hforgotten.trans (follows_settle none)

theorem follows_beginRead (application : Application) : Follows policy s (s.beginRead application) := by
  unfold beginRead
  dsimp only
  split
  · exact Follows.refl
  · exact follows_abortRead.trans (follows_of_same rfl rfl rfl rfl)

theorem follows_syncApplicantStatus (reader : Bool) :
    Follows policy s (s.syncApplicantStatus policy reader) := by
  have hreader : Follows policy s { s with reader := s.reader || reader } := follows_of_same rfl rfl rfl rfl
  unfold syncApplicantStatus
  dsimp only
  split
  · exact hreader
  split
  · exact hreader.trans (follows_settle _)
  split
  · split
    · exact hreader.trans (follows_beginRead _)
    · exact hreader.trans follows_dropStatus
  · exact hreader.trans follows_dropStatus

theorem follows_readAnswered {n : Nat} {answer : Option StatusResource}
    (h : s.readAnswered policy n answer = some t) : Follows policy s t := by
  obtain ⟨read, -, h⟩ := Option.bind_eq_some_iff.mp h
  split at h
  · exact Option.some.inj h ▸ Follows.refl
  · have hsettled : Follows policy s { s with statusRead := none } := follows_of_same rfl rfl rfl rfl
    exact Option.some.inj h ▸ hsettled.trans (follows_settle _)

theorem follows_readFailed {n : Nat} (h : s.readFailed policy n = some t) : Follows policy s t := by
  obtain ⟨read, -, h⟩ := Option.bind_eq_some_iff.mp h
  split at h
  · exact Option.some.inj h ▸ Follows.refl
  · have hsettled : Follows policy s { s with statusRead := none, statusReadKey := none } :=
      follows_of_same rfl rfl rfl rfl
    exact Option.some.inj h ▸ hsettled.trans (follows_settle _)

variable {visits later : VisitState} {i call : Nat}

theorem applicantStatus_retireNative :
    (visits.retireNative policy.visits).applicantStatus = visits.applicantStatus := by
  unfold VisitState.retireNative
  split <;> rfl

theorem applicantStatus_stop : (visits.stop policy.visits).applicantStatus = visits.applicantStatus :=
  applicantStatus_retireNative

theorem applicantStatus_activate (h : visits.activate policy.visits i = some later) :
    later.applicantStatus = visits.applicantStatus := by
  obtain ⟨visit, -, h⟩ := Option.bind_eq_some_iff.mp h
  split at h
  · rw [← Option.some.inj h]
  · rw [← Option.some.inj h]
    exact applicantStatus_retireNative

theorem applicantStatus_leave (h : visits.leave policy.visits i = some later) :
    later.applicantStatus = visits.applicantStatus := by
  obtain ⟨visit, -, h⟩ := Option.bind_eq_some_iff.mp h
  rw [← Option.some.inj h]
  change (if _ then _ else visits : VisitState).applicantStatus = visits.applicantStatus
  split
  · exact applicantStatus_retireNative
  · rfl

theorem applicantStatus_askProvider {loads provides : Bool} :
    (visits.askProvider policy.visits i visit request loads provides).applicantStatus
      = visits.applicantStatus := by
  unfold VisitState.askProvider
  split <;> rfl

theorem applicantStatus_authorize {provides : Bool}
    (h : visits.authorize policy.visits i request provides = some later) :
    later.applicantStatus = visits.applicantStatus := by
  obtain ⟨visit, -, h⟩ := Option.bind_eq_some_iff.mp h
  split at h
  · rw [← Option.some.inj h]
    exact applicantStatus_askProvider
  split at h
  · rw [← Option.some.inj h]
    rfl
  · rw [← Option.some.inj h]

theorem applicantStatus_load {provides : Bool}
    (h : visits.load policy.visits i request provides = some later) :
    later.applicantStatus = visits.applicantStatus := by
  obtain ⟨visit, -, h⟩ := Option.bind_eq_some_iff.mp h
  split at h
  · rw [← Option.some.inj h]
    exact applicantStatus_askProvider
  split at h
  · rw [← Option.some.inj h]
    rfl
  · rw [← Option.some.inj h]

theorem applicantStatus_answered {authorized : Bool}
    (h : visits.answered policy.visits call authorized = some later) :
    later.applicantStatus = visits.applicantStatus := by
  obtain ⟨⟨i, awaiting⟩, -, h⟩ := Option.bind_eq_some_iff.mp h
  cases awaiting with
  | authorization request loads =>
    obtain ⟨visit, -, h⟩ := Option.bind_eq_some_iff.mp h
    split at h
    · exact Option.some.inj h ▸ rfl
    split at h
    · exact Option.some.inj h ▸ rfl
    · exact Option.some.inj h ▸ rfl
  | _ => cases h

theorem applicantStatus_resumed (h : visits.resumed policy.visits call = some later) :
    later.applicantStatus = visits.applicantStatus := by
  obtain ⟨⟨i, awaiting⟩, -, h⟩ := Option.bind_eq_some_iff.mp h
  cases awaiting with
  | admission request =>
    obtain ⟨visit, -, h⟩ := Option.bind_eq_some_iff.mp h
    split at h
    · exact Option.some.inj h ▸ rfl
    · exact Option.some.inj h ▸ rfl
  | _ => cases h

theorem applicantStatus_provided {value : Bool}
    (h : visits.provided policy.visits call value = some later) :
    later.applicantStatus = visits.applicantStatus := by
  obtain ⟨⟨i, awaiting⟩, -, h⟩ := Option.bind_eq_some_iff.mp h
  cases awaiting with
  | value request =>
    obtain ⟨visit, -, h⟩ := Option.bind_eq_some_iff.mp h
    split at h
    · exact Option.some.inj h ▸ rfl
    · exact Option.some.inj h ▸ rfl
  | _ => cases h

theorem applicantStatus_execute {source : ActionSource}
    (h : visits.execute policy.visits i source = some later) :
    later.applicantStatus = visits.applicantStatus := by
  obtain ⟨visit, -, h⟩ := Option.bind_eq_some_iff.mp h
  split at h
  · exact Option.some.inj h ▸ rfl
  · exact Option.some.inj h ▸ rfl

theorem applicantStatus_settled {result : Bool} (h : visits.settled call result = some later) :
    later.applicantStatus = visits.applicantStatus := by
  obtain ⟨⟨i, awaiting⟩, -, h⟩ := Option.bind_eq_some_iff.mp h
  cases awaiting with
  | action =>
    obtain ⟨visit, -, h⟩ := Option.bind_eq_some_iff.mp h
    split at h
    · exact Option.some.inj h ▸ rfl
    · exact Option.some.inj h ▸ rfl
  | _ => cases h

theorem applicantStatus_step {event : VisitState.Event} (htouches : touchesStatus event = false)
    (h : visits.step policy.visits event = some later) : later.applicantStatus = visits.applicantStatus := by
  cases event with
  | allocateSurfaceSessionMarker sessionGeneration =>
    obtain ⟨⟨marker, allocated⟩, hallocated, rfl⟩ := Option.map_eq_some_iff.mp h
    unfold VisitState.allocateSurfaceSessionMarker at hallocated
    split at hallocated
    · cases hallocated
    · cases hallocated
      rfl
  | createSurfaceVisit marker sessionGeneration =>
    cases h
    unfold VisitState.createSurfaceVisit
    split <;> rfl
  | activate i => exact applicantStatus_activate h
  | leave i => exact applicantStatus_leave h
  | edit => exact Option.some.inj h ▸ applicantStatus_stop
  | fence | setOwner admitted | setController started => exact Option.some.inj h ▸ rfl
  | authorize i request provides => exact applicantStatus_authorize h
  | load i request provides => exact applicantStatus_load h
  | answered call authorized => exact applicantStatus_answered h
  | resumed call => exact applicantStatus_resumed h
  | provided call value => exact applicantStatus_provided h
  | execute i source => exact applicantStatus_execute h
  | settled call result => exact applicantStatus_settled h
  | selectLocale | clearDraftAccess status | dispose | rebuildRuntime values recordId revision
  | setApplicantStatus status recordId revision => cases htouches

theorem follows_visit {event : VisitState.Event} (htouches : touchesStatus event = false)
    (h : s.visits.step policy.visits event = some later) : Follows policy s { s with visits := later } :=
  follows_of_same rfl rfl rfl (applicantStatus_step htouches h)

theorem statuses_abortRead : s.abortRead.statuses = s.statuses
    ∧ s.abortRead.sourceRevisions = s.sourceRevisions := by
  unfold abortRead
  split
  · exact ⟨rfl, rfl⟩
  · exact ⟨rfl, rfl⟩

theorem follows_retired (hstatus : later.applicantStatus = none) :
    Follows policy s { s.retireStatus with visits := later, published := none } where
  sound h := h.of_same statuses_abortRead.2 statuses_abortRead.1 hstatus.symm (Or.inr hstatus)
  statuses := by
    change s.statuses <:+ s.abortRead.statuses
    rw [statuses_abortRead.1]

theorem follows_selectLocale (locale : String) : Follows policy s (s.selectLocale policy locale) := by
  unfold selectLocale
  split
  · exact Follows.refl
  · have hstatus : (s.visits.selectLocale policy.visits).applicantStatus = s.visits.applicantStatus := by
      unfold VisitState.selectLocale
      split
      · rfl
      · exact applicantStatus_stop
    have hselected : Follows policy s { s with visits := s.visits.selectLocale policy.visits, locale } :=
      follows_of_same rfl rfl rfl hstatus
    exact hselected.trans (follows_syncApplicantStatus false)

theorem follows_invalidate : Follows policy s (s.invalidate policy) := follows_retired applicantStatus_stop

theorem follows_cleared (hstatus : later.applicantStatus = s.visits.applicantStatus) :
    Follows policy s { s with visits := later, published := s.visits.applicantStatus } where
  sound h := h.of_same rfl rfl hstatus.symm (Or.inl hstatus)
  statuses := List.suffix_refl _

theorem follows_clearDraftAccess (application : Option Application) :
    Follows policy s (s.clearDraftAccess policy application) := by
  unfold clearDraftAccess
  by_cases hclosed : (s.visits.disposed || s.visits.cleared) = true
  · rw [if_pos hclosed]
    exact Follows.refl
  · rw [if_neg hclosed]
    dsimp only
    refine Follows.trans ?_ (follows_cleared ?_)
    · split
      · have hset : Follows policy s { s.invalidate policy with application } :=
          follows_invalidate.trans (follows_of_same rfl rfl rfl rfl)
        exact hset.trans (follows_syncApplicantStatus false)
      · exact follows_invalidate
    · unfold VisitState.clearDraftAccess
      rw [if_neg hclosed]
      rfl

theorem follows_dispose : Follows policy s (s.dispose policy) := by
  unfold dispose
  by_cases hdisposed : s.visits.disposed = true
  · rw [if_pos hdisposed]
    exact Follows.refl
  · rw [if_neg hdisposed]
    apply follows_retired
    unfold VisitState.dispose
    rw [if_neg hdisposed]
    rfl

def Unbound (policy : StatusPolicy) : Prop :=
  ∀ entry ∈ policy.visits.entries, entry.sourceRef ≠ policy.visits.statusSourceRef

theorem foldl_revise_other {entries : List (Descriptor × Value)}
    (h : ∀ entry ∈ entries, FrozenRuntime.sourceKey entry.1 ≠ key) :
    entries.foldl (fun revisions entry =>
      revise revisions (FrozenRuntime.sourceKey entry.1) (policy.canonicalize entry.2)) revisions key
      = revisions key := by
  induction entries generalizing revisions with
  | nil => rfl
  | cons entry entries ih =>
    obtain ⟨hentry, hentries⟩ := List.forall_mem_cons.mp h
    rw [List.foldl_cons, ih hentries, revise_other hentry.symm]

theorem follows_rebuildRuntime {values : List Value} {recordId : String} {revision : Int}
    (hunbound : Unbound policy) : Follows policy s (s.rebuildRuntime policy values recordId revision) where
  sound h := by
    refine ⟨h.published, fun key hkey => ?_, h.newest⟩
    have hother : ∀ entry ∈ policy.visits.entries.zip values, FrozenRuntime.sourceKey entry.1 ≠ key := by
      intro entry hentry heq
      have hsource : entry.1.sourceRef = policy.visits.statusSourceRef := by
        rw [← hkey.sourceRef, ← heq]
        rfl
      exact hunbound entry.1 (List.of_mem_zip hentry).1 hsource
    exact (foldl_revise_other hother).trans (h.revised key hkey)
  statuses := List.suffix_refl _

theorem follows_step {event : Event} (hunbound : Unbound policy) (h : s.step policy event = some t) :
    Follows policy s t := by
  cases event with
  | visit event =>
    unfold step at h
    dsimp only at h
    split at h
    · cases h
    · next htouches =>
      obtain ⟨later, hlater, rfl⟩ := Option.map_eq_some_iff.mp h
      exact follows_visit (by simpa using htouches) hlater
  | syncApplicantStatus reader => exact Option.some.inj h ▸ follows_syncApplicantStatus reader
  | setApplication application =>
    have hset : Follows policy s { s with application } := follows_of_same rfl rfl rfl rfl
    exact Option.some.inj h ▸ hset.trans (follows_syncApplicantStatus false)
  | forgetRead | setSelected selected => exact Option.some.inj h ▸ follows_of_same rfl rfl rfl rfl
  | readAnswered n answer => exact follows_readAnswered h
  | readFailed n => exact follows_readFailed h
  | selectLocale locale => exact Option.some.inj h ▸ follows_selectLocale locale
  | clearDraftAccess application => exact Option.some.inj h ▸ follows_clearDraftAccess application
  | dispose => exact Option.some.inj h ▸ follows_dispose
  | invalidate => exact Option.some.inj h ▸ follows_invalidate
  | rebuildRuntime values recordId revision => exact Option.some.inj h ▸ follows_rebuildRuntime hunbound

theorem follows_run {events : List Event} (hunbound : Unbound policy)
    (h : events.foldlM (step policy) s = some t) : Follows policy s t := by
  induction events generalizing s with
  | nil => exact Option.some.inj h ▸ Follows.refl
  | cons event events ih =>
    rw [List.foldlM_cons] at h
    obtain ⟨next, hnext, hrest⟩ := Option.bind_eq_some_iff.mp h
    exact (follows_step hunbound hnext).trans (ih hrest)

/-! ## Agreement -/

theorem admitsStatus_iff :
    s.visits.admitsStatus policy.visits visit request = true ↔ s.Admitted policy visit request := by
  unfold VisitState.admitsStatus VisitState.isApplicantStatusSource
  rw [policy.resolves]
  simp only [Bool.and_eq_true, beq_iff_eq]
  constructor
  · rintro ⟨⟨hcurrent, hmarker⟩, ⟨⟨⟨hsource, hslot⟩, hmodule⟩, hresolve⟩, havailable⟩
    exact ⟨hcurrent, hmarker, ⟨_, hsource ▸ hresolve⟩, hslot, hmodule, havailable⟩
  · intro h
    obtain ⟨catalogRef, hresolve⟩ := h.descriptor
    obtain ⟨hcatalog, hsource⟩ := refs_of_resolve hresolve
    refine ⟨⟨h.current, h.marker⟩, ⟨⟨⟨hsource, h.slot⟩, h.module⟩, ?_⟩, h.available⟩
    rw [hcatalog, hsource]
    exact hresolve

theorem withholds_of_other (hsource : request.descriptor.sourceRef ≠ VisitState.statusSource) :
    s.Withholds policy visit request := by
  have hother : (request.descriptor.sourceRef == VisitState.statusSource) = false := by simpa using hsource
  constructor
  · intro hauthorized
    unfold authorizeDataSource VisitState.authorizeDataSource at hauthorized
    rw [hother, if_neg Bool.false_ne_true] at hauthorized
    split at hauthorized
    case h_1 => cases hauthorized
    case h_2 => cases hauthorized
    case h_3 runtime captured hrequest =>
      obtain ⟨-, -, -, -, hruntime, hdescriptor⟩ := VisitState.of_requestFor hrequest
      unfold FrozenRuntime.authorizeDataSource at hauthorized
      split at hauthorized
      case h_1 value hadmitted =>
        obtain ⟨-, hmem, -⟩ := FrozenRuntime.mem_of_admitted hadmitted
        exact ⟨runtime, value, hruntime.symm, hdescriptor ▸ hmem⟩
      case h_2 => cases hauthorized
  · intro value recordId revision hloaded
    unfold dataSourceLoader VisitState.dataSourceLoader at hloaded
    dsimp only at hloaded
    rw [hother, if_neg Bool.false_ne_true] at hloaded
    split at hloaded
    case h_1 => cases hloaded
    case h_2 => cases hloaded
    case h_3 runtime captured hrequest =>
      obtain ⟨-, -, -, -, hruntime, hdescriptor⟩ := VisitState.of_requestFor hrequest
      unfold FrozenRuntime.dataSourceLoader at hloaded
      split at hloaded
      case h_1 found hadmitted =>
        obtain ⟨-, hmem, -⟩ := FrozenRuntime.mem_of_admitted hadmitted
        cases hloaded
        exact ⟨runtime, hruntime.symm, hdescriptor ▸ hmem⟩
      case h_2 => cases hloaded
  · intro revision hrevision
    unfold dataSourceRevision at hrevision
    rw [hother, if_neg Bool.false_ne_true] at hrevision
    split at hrevision
    case h_1 => cases hrevision
    case h_2 => cases hrevision
    case h_3 runtime captured hrequest =>
      obtain ⟨-, -, -, -, hruntime, -⟩ := VisitState.of_requestFor hrequest
      split at hrevision
      · cases hrevision
      · next hchecks =>
        simp only [Bool.not_eq_true', Bool.or_eq_true, not_or, Bool.not_eq_false] at hchecks
        exact ⟨by rw [← hruntime]; rfl, by simpa using hchecks.1.1.2⟩

theorem dataSourceLoader_status
    (hsource : (request.descriptor.sourceRef == VisitState.statusSource) = true) :
    s.dataSourceLoader policy visit request
      = if !s.visits.admitsStatus policy.visits visit request then .unavailable VisitState.visitRetired
        else match s.visits.applicantStatus with
          | none => .unavailable VisitState.stateUnavailable
          | some status => .loaded status s.recordId ((s.revisionOf request.descriptor).getD 1) := by
  unfold dataSourceLoader VisitState.dataSourceLoader
  dsimp only
  rw [if_pos hsource]
  rfl

theorem withholds_of_refused (hsource : request.descriptor.sourceRef = VisitState.statusSource)
    (h : s.visits.applicantStatus = none ∨ ¬ s.Admitted policy visit request) :
    s.Withholds policy visit request := by
  have hsource : (request.descriptor.sourceRef == VisitState.statusSource) = true := by simpa using hsource
  have hrefused : s.visits.admitsStatus policy.visits visit request = false
      ∨ s.visits.applicantStatus = none := by
    rcases h with hnone | hadmitted
    · exact Or.inr hnone
    · rw [← admitsStatus_iff, Bool.not_eq_true] at hadmitted
      exact Or.inl hadmitted
  constructor
  · intro hauthorized
    unfold authorizeDataSource VisitState.authorizeDataSource at hauthorized
    rw [hsource, if_pos rfl] at hauthorized
    rcases hrefused with hrefused | hnone
    · rw [hrefused] at hauthorized
      cases hauthorized
    · rw [hnone] at hauthorized
      split at hauthorized <;> cases hauthorized
  · intro value recordId revision hloaded
    rw [dataSourceLoader_status hsource] at hloaded
    rcases hrefused with hrefused | hnone
    · rw [hrefused] at hloaded
      cases hloaded
    · rw [hnone] at hloaded
      split at hloaded <;> cases hloaded
  · intro revision hrevision
    unfold dataSourceRevision at hrevision
    rw [hsource, if_pos rfl] at hrevision
    rcases hrefused with hrefused | hnone
    · rw [hrefused] at hrevision
      cases hrevision
    · rw [hnone, Option.isNone_none, Bool.or_true, if_pos rfl] at hrevision
      cases hrevision

theorem Sound.revisionOf (h : s.Sound policy) (hadmitted : s.Admitted policy visit request)
    (hstatus : s.visits.applicantStatus = some status) :
    s.revisionOf request.descriptor = some (changes (s.statuses.map policy.canonicalize)) := by
  obtain ⟨settled, older, hstatuses, -⟩ := h.newest status hstatus
  unfold StatusHost.revisionOf
  rw [h.revised _ hadmitted.slotKey, hstatuses]
  rfl

section

variable (hdefault : policy.visits.statusSourceRef = VisitState.statusSource)
include hdefault

theorem Admitted.sourceRef (hadmitted : s.Admitted policy visit request) :
    (request.descriptor.sourceRef == VisitState.statusSource) = true := by
  obtain ⟨catalogRef, hresolve⟩ := hadmitted.descriptor
  rw [beq_iff_eq, (refs_of_resolve hresolve).2, hdefault]

theorem dataSourceRevision_of_admitted (hadmitted : s.Admitted policy visit request)
    (hstatus : s.visits.applicantStatus = some status) :
    s.dataSourceRevision policy visit request = s.revisionOf request.descriptor := by
  unfold dataSourceRevision
  rw [hadmitted.sourceRef hdefault, if_pos rfl, admitsStatus_iff.mpr hadmitted, hstatus]
  rfl

theorem grants_of_default (h : s.Sound policy) (hadmitted : s.Admitted policy visit request)
    (hstatus : s.visits.applicantStatus = some status) : s.Grants policy visit request status := by
  have hsource := hadmitted.sourceRef hdefault
  have hadmits := admitsStatus_iff.mpr hadmitted
  have hrevision := h.revisionOf hadmitted hstatus
  refine ⟨h.published.trans hstatus, ?_, changes (s.statuses.map policy.canonicalize), ?_, ?_⟩
  · unfold authorizeDataSource VisitState.authorizeDataSource
    rw [hsource, if_pos rfl, hadmits, hstatus]
    rfl
  · rw [dataSourceRevision_of_admitted hdefault hadmitted hstatus, hrevision]
  · rw [dataSourceLoader_status hsource, hadmits, hstatus, hrevision]
    rfl

theorem agrees_of_default (h : s.Sound policy) : s.Agrees policy visit request where
  grants _ hstatus hadmitted := grants_of_default hdefault h hadmitted hstatus
  withholds hrefused := by
    by_cases hsource : request.descriptor.sourceRef = VisitState.statusSource
    · exact withholds_of_refused hsource hrefused
    · exact withholds_of_other hsource

theorem revisionsFollow (hs : s.Sound policy) (h : Follows policy s t) : RevisionsFollow policy s t := by
  obtain ⟨since, hsince⟩ := h.statuses
  refine ⟨since, hsince.symm, ?_⟩
  intro first second asked again status hstatus hpresent hasked hagain hdescriptor
  obtain ⟨present, hpresent⟩ := Option.isSome_iff_exists.mp hpresent
  refine ⟨_, _, (dataSourceRevision_of_admitted hdefault hasked hstatus).trans (hs.revisionOf hasked hstatus),
    (dataSourceRevision_of_admitted hdefault hagain hpresent).trans ((h.sound hs).revisionOf hagain hpresent), ?_⟩
  obtain ⟨settled, older, hstatuses, htext⟩ := hs.newest status hstatus
  rw [← hsince, hstatuses, List.map_append, List.map_cons, changes_append_eq_iff, List.forall_mem_map, htext]

end

/-- In every run of a host whose slot has the default source, which no delivery has, the ports agree
on every request, and the revision follows the status. -/
theorem status_slot_agrees {events : List Event}
    (hdefault : policy.visits.statusSourceRef = VisitState.statusSource) (hunbound : Unbound policy)
    (h : events.foldlM (step policy) (opened policy) = some s) :
    (∀ visit request, VisitState.owns policy.visits request = false → s.Agrees policy visit request)
      ∧ ∀ (more : List Event) (t : StatusHost), more.foldlM (step policy) s = some t →
          RevisionsFollow policy s t := by
  have hsound : s.Sound policy := (follows_run hunbound h).sound sound_opened
  exact ⟨fun _ _ _ => agrees_of_default hdefault hsound,
    fun _ _ hmore => revisionsFollow hdefault hsound (follows_run hunbound hmore)⟩

theorem not_agrees (hother : policy.visits.statusSourceRef ≠ VisitState.statusSource)
    (hadmitted : s.Admitted policy visit request) (hstatus : s.visits.applicantStatus = some status)
    (hunserved : ∀ runtime value, s.visits.runtime = some runtime →
      (request.descriptor, value) ∉ runtime.entries) : ¬ s.Agrees policy visit request := by
  intro hagrees
  obtain ⟨catalogRef, hresolve⟩ := hadmitted.descriptor
  have hsource : request.descriptor.sourceRef ≠ VisitState.statusSource :=
    (refs_of_resolve hresolve).2 ▸ hother
  obtain ⟨runtime, value, hruntime, hmem⟩ :=
    (withholds_of_other hsource).authorized (hagrees.grants status hstatus hadmitted).authorized
  exact hunserved runtime value hruntime hmem

def caseFilePolicy (sourceRef : String) : StatusPolicy where
  visits := {
    surface := {
      resolve := resolveDataSourceDescriptor [⟨"urn:sources", [⟨sourceRef, none, true, ""⟩]⟩]
      availableToWidget := fun _ _ => true
      availableToDefinitionForm := fun _ _ => false
      reviewWidget := "response-review"
      ceremonyWidget := "signing-ceremony" }
    moduleId := "x-signing"
    signingScope := none
    entries := []
    initialDataSites := []
    sites_apart := by simp
    statusModuleId := "x-case-file-review"
    statusSlotId := "applicant-case-status"
    statusSourceRef := sourceRef
    native := false }
  catalogs := [⟨"urn:sources", [⟨sourceRef, none, true, ""⟩]⟩]
  resolves := rfl
  canonicalize value := if value.isTruthy then "status" else ""
  applicantStatus := some (some (.string "waiting"))
  statusReader := false
  initialLocale := "en"

def caseFileVisit : SurfaceVisit := ⟨"native-visit:0:1", 0, some 1, false⟩

def caseFileRequest (sourceRef : String) : LoadRequest where
  descriptor := ⟨"urn:sources", sourceRef, none, true, ""⟩
  context := ⟨"case-file", none, "status", "applicant-case-status", none, some "x-case-file-review",
    none, .marker "native-visit:0:1"⟩

def caseFileEvents : List Event :=
  [.visit (.createSurfaceVisit "native-visit:0:1" 0), .visit (.activate 0)]

theorem status_slot_agrees_caseFile : ∃ s,
    caseFileEvents.foldlM (step (caseFilePolicy VisitState.statusSource))
        (opened (caseFilePolicy VisitState.statusSource)) = some s
      ∧ s.Grants (caseFilePolicy VisitState.statusSource) caseFileVisit
          (caseFileRequest VisitState.statusSource) (.string "waiting") := by
  obtain ⟨s, hrun, hstatus, hcurrent⟩ : ∃ s, caseFileEvents.foldlM (step (caseFilePolicy VisitState.statusSource))
        (opened (caseFilePolicy VisitState.statusSource)) = some s
      ∧ s.visits.applicantStatus = some (.string "waiting") ∧ s.visits.isCurrent caseFileVisit = true :=
    ⟨_, rfl, rfl, rfl⟩
  have hunbound : Unbound (caseFilePolicy VisitState.statusSource) := by
    intro entry hentry
    cases hentry
  have hagrees := (status_slot_agrees rfl hunbound hrun).1 caseFileVisit
    (caseFileRequest VisitState.statusSource) rfl
  exact ⟨s, hrun, hagrees.grants _ hstatus ⟨hcurrent, rfl, ⟨"urn:sources", by decide +kernel⟩, rfl, rfl, rfl⟩⟩

theorem configured_source_refused : ¬ ∀ (policy : StatusPolicy) (events : List Event) (s : StatusHost),
    events.foldlM (step policy) (opened policy) = some s →
    ∀ visit request, VisitState.owns policy.visits request = false → s.Agrees policy visit request := by
  intro h
  obtain ⟨s, hrun, hstatus, hcurrent, hruntime⟩ : ∃ s,
      caseFileEvents.foldlM (step (caseFilePolicy "host:case-status")) (opened (caseFilePolicy "host:case-status"))
          = some s
        ∧ s.visits.applicantStatus = some (.string "waiting") ∧ s.visits.isCurrent caseFileVisit = true
        ∧ s.visits.runtime = none :=
    ⟨_, rfl, rfl, rfl, rfl⟩
  have hadmitted : s.Admitted (caseFilePolicy "host:case-status") caseFileVisit
      (caseFileRequest "host:case-status") :=
    ⟨hcurrent, rfl, ⟨"urn:sources", by decide +kernel⟩, rfl, rfl, rfl⟩
  have hunserved : ∀ runtime value, s.visits.runtime = some runtime →
      ((caseFileRequest "host:case-status").descriptor, value) ∉ runtime.entries := by
    intro runtime value hsome
    rw [hruntime] at hsome
    cases hsome
  exact not_agrees (by decide +kernel) hadmitted hstatus hunserved (h _ _ s hrun _ _ rfl)

end StatusHost

end FormspecWeb.Host
