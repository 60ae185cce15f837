import FormspecWeb.Async.History
import FormspecWeb.Async.Steps
import FormspecWeb.Host.SurfaceVisits

/-!
# The surface visit fence

Only the visit that was activated last, and has not left, is served, and only for the session it was
created for. What a visit waits for when it is retired is not delivered, as long as the same visit is
not activated again before that is settled: `assertVisit` compares the ticket of the visit at the
moment it is asked, not the one the request began under.
-/

namespace FormspecWeb.Host

open Shared

namespace VisitState

def lastActive : List VisitEntry → Option Nat
  | [] => none
  | .activated visit :: _ => some visit
  | .left visit :: older => if lastActive older = some visit then none else lastActive older
  | _ :: older => lastActive older

def sessionsEnded : List VisitEntry → Nat
  | [] => 0
  | .stopped :: older => sessionsEnded older + 1
  | _ :: older => sessionsEnded older

def isClosed : List VisitEntry → Bool
  | [] => false
  | .closed :: _ => true
  | _ :: older => isClosed older

structure Active (log : List VisitEntry) (visit : Nat) (marker : String) : Prop where
  last : lastActive log = some visit
  session : .created visit marker (sessionsEnded log) ∈ log
  opened : isClosed log = false

/-- The entries that retire a visit. A host that is closed has ended its session before. -/
def Retires (visit : Nat) : VisitEntry → Prop
  | .activated other => other ≠ visit
  | .left other => other = visit
  | .stopped => True
  | _ => False

def Undisturbed (call visit : Nat) : List VisitEntry → Prop
  | [] => False
  | entry :: older => entry = .began call visit ∨ ¬ Retires visit entry ∧ Undisturbed call visit older

section Law

variable (policy : VisitPolicy)

structure FormRequest (request : LoadRequest) : Prop where
  site : ∃ site ∈ policy.initialDataSites, site.admits policy.surface request = true
  apart : request.descriptor ∉ policy.entries

structure SigningRequest (request : LoadRequest) : Prop where
  descriptor : request.descriptor ∈ policy.entries
  moduleId : request.context.moduleId = some policy.moduleId
  widget : request.context.widgetName = some policy.surface.reviewWidget
    ∨ request.context.widgetName = some policy.surface.ceremonyWidget
  review : isResponseReviewSource request.descriptor = true →
    request.context.widgetName = some policy.surface.reviewWidget
  ceremony : isCeremonyStateSource request.descriptor = true →
    request.context.widgetName = some policy.surface.ceremonyWidget
  scope : ∀ scope, policy.signingScope = some scope →
    signingScopeAllows policy.surface scope request.context = true

def HostRequest (request : LoadRequest) : Prop :=
  request.descriptor.sourceRef = statusSource ∧ isApplicantStatusSource policy request = true
    ∨ SigningRequest policy request

def Asks (log : List VisitEntry) (visit : Nat) (request : LoadRequest) : Prop :=
  ∃ marker, Active log visit marker ∧ request.context.sessionGeneration = .marker marker

def Proper : VisitEntry → List VisitEntry → Prop
  | .created visit _ _, older => ∀ marker sessionGeneration,
      .created visit marker sessionGeneration ∉ older
  | .began call _, older => ∀ visit, .began call visit ∉ older
  | .authorized visit request, older =>
    Asks older visit request ∧ (FormRequest policy request ∨ HostRequest policy request)
  | .loaded visit request none, older => Asks older visit request ∧ HostRequest policy request
  | .loaded visit request (some call), older =>
    Asks older visit request ∧ FormRequest policy request ∧ .granted call request ∈ older
      ∧ Undisturbed call visit older
  | .passed visit source, older =>
    (∃ marker, Active older visit marker) ∧ isAdmittedAction policy source = true
  | .delivered visit call, older => (∃ marker, Active older visit marker) ∧ Undisturbed call visit older
  | _, _ => True

structure Fenced (s : VisitState) : Prop where
  proper : Async.Throughout (Proper policy) s.log
  authorized : ∀ visit request, (s.dataSourceLoader policy visit request).isLoaded = true →
    (s.authorizeDataSource policy visit request).isAuthorized = true

end Law

def isPending : Awaiting → Bool
  | .authorization _ loads => loads
  | .nothing => false
  | _ => true

/-- `activate()` of the visit does not throw. -/
def canActivate (s : VisitState) (visit : SurfaceVisit) : Bool :=
  !s.disposed && !s.cleared && visit.sessionGeneration == s.authorityGeneration

/-- A visit that was retired is not activated again while a load or a widget action it began is
pending. -/
def NotRenewed (s : VisitState) : Event → Prop
  | .activate i => ∀ visit ∈ s.visits[i]?, s.canActivate visit = true →
      s.isCurrent visit = true ∨ ∀ call ∈ s.calls, call.visit = i → isPending call.awaiting = false
  | _ => True

/-! ## What the checks admit -/

variable {policy : VisitPolicy} {s : VisitState} {visit : SurfaceVisit} {request : LoadRequest}

theorem isCurrent_iff : s.isCurrent visit = true ↔ s.disposed = false ∧ s.cleared = false
    ∧ visit.ticket = some s.visitEpoch ∧ visit.sessionGeneration = s.authorityGeneration := by
  unfold isCurrent
  simp [and_assoc]

theorem not_isCeremonyStateSource {descriptor : Descriptor}
    (h : isResponseReviewSource descriptor = true) : isCeremonyStateSource descriptor = false := by
  unfold isResponseReviewSource producedBy at h
  unfold isCeremonyStateSource producedBy
  cases hprovenance : descriptor.provenance with
  | none => simp
  | some source =>
    rw [hprovenance, Option.any_some, Bool.or_eq_true, beq_iff_eq] at h
    have hreview : "admitted-response-review".toList <+: source.toList := by
      rcases h with rfl | h
      · exact List.prefix_refl _
      · refine List.IsPrefix.trans ?_ (List.isPrefixOf_iff_prefix.mp h)
        decide
    have hceremony : ¬ "admitted-signing-cohort".toList <+: source.toList := by
      intro hprefix
      rcases List.prefix_or_prefix_of_prefix hreview hprefix with hle | hle
      · revert hle
        decide
      · revert hle
        decide
    have hne : source ≠ "admitted-signing-cohort" := by
      rintro rfl
      exact hceremony (List.prefix_refl _)
    have hnot : ¬ ("admitted-signing-cohort" ++ ":").toList <+: source.toList := by
      intro hprefix
      refine hceremony (List.IsPrefix.trans ?_ hprefix)
      decide
    have hfalse : ("admitted-signing-cohort" ++ ":").toList.isPrefixOf source.toList = false := by
      rw [← Bool.not_eq_true, List.isPrefixOf_iff_prefix]
      exact hnot
    rw [Option.any_some, beq_eq_false_iff_ne.mpr hne, hfalse, Bool.or_false, Bool.and_false]

/-- What `check` admits comes from a form site, and from the current visit. -/
theorem formRequest_of_check {provides : Bool} (h : s.check policy visit request provides = true) :
    s.isCurrent visit = true ∧ request.context.sessionGeneration = .marker visit.marker
      ∧ FormRequest policy request := by
  unfold check at h
  simp only [Bool.and_eq_true, beq_iff_eq] at h
  obtain ⟨⟨⟨hcurrent, hsite⟩, hmarker⟩, -⟩ := h
  obtain ⟨site, hmem, hadmits⟩ := List.any_eq_true.mp hsite
  refine ⟨hcurrent, hmarker, ⟨site, hmem, hadmits⟩, fun hentry => ?_⟩
  have heq : site.descriptor = request.descriptor := by
    unfold InitialDataSite.admits at hadmits
    simp only [Bool.and_eq_true, beq_iff_eq] at hadmits
    exact hadmits.1.1.1.1.1.1.1
  exact policy.sites_apart site hmem _ hentry (congrArg FrozenRuntime.sourceKey heq)

/-- What `requestFor` puts to a delivery comes from a widget of the signing module. -/
theorem of_requestFor {runtime : Option FrozenRuntime} {captured : LoadRequest}
    (h : s.requestFor policy visit request = .ok (runtime, captured)) :
    s.isCurrent visit = true ∧ request.context.sessionGeneration = .marker visit.marker
      ∧ isAdmittedWidget policy request = true
      ∧ (∀ scope, policy.signingScope = some scope →
          signingScopeAllows policy.surface scope request.context = true)
      ∧ runtime = s.runtime ∧ captured.descriptor = request.descriptor := by
  unfold requestFor at h
  split at h
  · cases h
  · next hcurrent =>
    split at h
    · cases h
    · next hwidget =>
      split at h
      · cases h
      · next hscope =>
        split at h
        · cases h
        · next hmarker =>
          cases h
          refine ⟨by simpa using hcurrent, by simpa using hmarker, by simpa using hwidget, ?_, rfl, rfl⟩
          intro scope hsome
          simpa [hsome] using hscope

theorem signingRequest_of_admitted (hdescriptor : request.descriptor ∈ policy.entries)
    (hwidget : isAdmittedWidget policy request = true)
    (hscope : ∀ scope, policy.signingScope = some scope →
      signingScopeAllows policy.surface scope request.context = true) :
    SigningRequest policy request := by
  unfold isAdmittedWidget at hwidget
  rw [Bool.and_eq_true, beq_iff_eq] at hwidget
  obtain ⟨hmodule, hwidget⟩ := hwidget
  obtain ⟨name, hname, hmem⟩ : ∃ name, request.context.widgetName = some name
      ∧ name ∈ sourceWidgets policy request.descriptor := by
    simpa [Option.any_eq_true] using hwidget
  rw [sourceWidgets] at hmem
  by_cases hreview : isResponseReviewSource request.descriptor = true
  · rw [if_pos hreview, List.mem_singleton] at hmem
    subst hmem
    refine ⟨hdescriptor, hmodule, Or.inl hname, fun _ => hname, fun hceremony => ?_, hscope⟩
    rw [not_isCeremonyStateSource hreview] at hceremony
    cases hceremony
  · rw [if_neg hreview] at hmem
    by_cases hceremony : isCeremonyStateSource request.descriptor = true
    · rw [if_pos hceremony, List.mem_singleton] at hmem
      subst hmem
      exact ⟨hdescriptor, hmodule, Or.inr hname, fun h => absurd h hreview, fun _ => hname, hscope⟩
    · rw [if_neg hceremony, List.mem_cons, List.mem_singleton] at hmem
      refine ⟨hdescriptor, hmodule, ?_, fun h => absurd h hreview, fun h => absurd h hceremony, hscope⟩
      rcases hmem with rfl | rfl
      · exact Or.inr hname
      · exact Or.inl hname

def Admitted (policy : VisitPolicy) (s : VisitState) : Prop :=
  ∀ runtime, s.runtime = some runtime → ∀ entry ∈ runtime.entries, entry.1 ∈ policy.entries

theorem of_authorizeDataSource (hruntime : Admitted policy s)
    (h : (s.authorizeDataSource policy visit request).isAuthorized = true) :
    s.isCurrent visit = true ∧ request.context.sessionGeneration = .marker visit.marker
      ∧ HostRequest policy request := by
  unfold authorizeDataSource at h
  split at h
  · next hstatus =>
    split at h
    · cases h
    · next hadmits =>
      have hadmits : s.admitsStatus policy visit request = true := by simpa using hadmits
      unfold admitsStatus at hadmits
      simp only [Bool.and_eq_true, beq_iff_eq] at hadmits
      obtain ⟨⟨hcurrent, hmarker⟩, hsource⟩ := hadmits
      exact ⟨hcurrent, hmarker, Or.inl ⟨by simpa using hstatus, hsource⟩⟩
  split at h
  · cases h
  · cases h
  · next runtime captured hrequest =>
    obtain ⟨hcurrent, hmarker, hwidget, hscope, hsome, hdescriptor⟩ := of_requestFor hrequest
    refine ⟨hcurrent, hmarker, Or.inr (signingRequest_of_admitted ?_ hwidget hscope)⟩
    rw [FrozenRuntime.authorizeDataSource] at h
    split at h
    · next value hadmitted =>
      rw [← hdescriptor]
      exact hruntime runtime hsome.symm _ (FrozenRuntime.mem_of_admitted hadmitted).2.1
    · cases h

theorem isAuthorized_of_isLoaded (h : (s.dataSourceLoader policy visit request).isLoaded = true) :
    (s.authorizeDataSource policy visit request).isAuthorized = true := by
  unfold dataSourceLoader at h
  unfold authorizeDataSource
  split at h
  · next hstatus =>
    rw [if_pos hstatus]
    split at h
    · cases h
    · next hadmits =>
      rw [if_neg hadmits]
      split at h
      · cases h
      · next status hsome =>
        rw [hsome]
        rfl
  · next hstatus =>
    rw [if_neg hstatus]
    split at h
    · cases h
    · cases h
    · next runtime captured hrequest =>
      exact FrozenRuntime.isLoaded_dataSourceLoader ▸ h

end VisitState

end FormspecWeb.Host
