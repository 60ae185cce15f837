import FormspecWeb.Status.LifecycleActionsPanel

/-!
# The case a status page displays

The page loads the case of its route in an effect behind each render of a new route. A load lands in a
queued view, which a later render shows; that render keeps the mounted panel where the view before it
had the same component. The client answers of the case it was asked for. The page displays the case of
the load whose view it shows.
-/

namespace FormspecWeb.Status

open Shared Policy Async

namespace StatusViewState

def lifecycle? : StatusViewState → Option LifecycleViewState
  | ready _ lifecycle | readyReduced _ lifecycle => some lifecycle
  | _ => none

def sameComponent : StatusViewState → StatusViewState → Bool
  | ready _ _, ready _ _ | readyReduced _ _, readyReduced _ _ => true
  | _, _ => false

end StatusViewState

def isCompletedOrTerminated (value : Value) : Bool :=
  isTextAt value "lifecycleState" "completed" || isTextAt value "lifecycleState" "terminated"

def caseDecisionReached (detail : Value) : Bool :=
  (((detail.get? "statusTimeline").bind Value.entries?).getD []).any
      (fun entry => isTextAt entry "event" "decision-reached")
    || (detail.get? "summary").any isCompletedOrTerminated

def isDecisionReachedResource (resource : Value) : Bool :=
  if isApplicantCaseDetail resource then caseDecisionReached resource
  else isTextAt resource "event" "decision-reached" || isCompletedOrTerminated resource

def StatusViewState.decisionReached : StatusViewState → Bool
  | ready detail _ => caseDecisionReached detail
  | readyReduced resource _ => isDecisionReachedResource resource
  | _ => false

/-! ## The page -/

structure PageLoad where
  caseUrn : String
  cancelled : Bool
  settled : Bool

/-- A call of `submit(action, run)`, with what its closure holds. -/
structure Submission where
  request : LifecycleRequest
  kind : LifecycleActionKind
  policy : Option Value
  shown : Value
  panel : Nat
  pending : Bool
  displayed : Option String

structure StatusPage where
  /-- `route.caseLedgerId`, as rendered last. -/
  caseUrn : String
  effectPending : Bool
  loads : List PageLoad
  view : StatusViewState
  viewLoad : Nat
  /-- The last `setView` since the last render, and its load. -/
  queued : Option (Nat × StatusViewState)
  panel : Option LifecyclePanel
  mounts : Nat
  submissions : List Submission

namespace StatusPage

variable (config : StatusRuntimeConfig)

def opened (caseUrn : String) : StatusPage := ⟨caseUrn, true, [], .loading, 0, none, none, 0, []⟩

def caseOfLoad (s : StatusPage) (load : Nat) : Option String := s.loads[load]?.map PageLoad.caseUrn

def displayed (s : StatusPage) : Option String := s.caseOfLoad s.viewLoad

def startView : StatusViewState × Bool :=
  match config.profile with
  | .error error => (.policyError (policyErrorOf error), false)
  | .ok profile =>
    if profile.enabled.contains .status then (.loading, true)
    else (.disabled (disabledCause profile .status), false)

def runEffect (s : StatusPage) : StatusPage :=
  { s with
    effectPending := false
    loads := s.loads.map (fun load => { load with cancelled := true })
      ++ [⟨s.caseUrn, false, !(startView config).2⟩]
    queued := some (s.loads.length, (startView config).1) }

def settleLoad (s : StatusPage) (n : Nat) (load : PageLoad) (view : StatusViewState) : StatusPage :=
  { s with
    loads := s.loads.set n { load with settled := true }
    queued := if load.cancelled then s.queued else some (n, view) }

def retireLoad (s : StatusPage) (n : Nat) (load : PageLoad) : StatusPage :=
  if load.cancelled then s
  else
    { s with
      loads := s.loads.set n { load with cancelled := true }
      queued := some (n, .signInRequired) }

/-- A snapshot the client answers with is of the case it was asked for. -/
def answersFor (caseUrn : String) : LifecycleResult → Bool
  | .ok (some snapshot) => caseOf snapshot == some caseUrn
  | _ => true

def receiptFor (caseUrn : String) : Except String LifecycleActionReceipt → Bool
  | .ok receipt => caseOf receipt.snapshot == some caseUrn
  | .error _ => true

/-- The panel behind a render of another view, and how often one was mounted. -/
def renderPanel (s : StatusPage) (load : Nat) (view : StatusViewState) :
    Option LifecyclePanel × Nat :=
  match view.lifecycle? with
  | none => (none, s.mounts)
  | some lifecycle =>
    match s.panel with
    | some panel =>
      if s.view.sameComponent view then (some (panel.rendered load lifecycle), s.mounts)
      else (some (.mount load lifecycle), s.mounts + 1)
    | none => (some (.mount load lifecycle), s.mounts + 1)

def render (s : StatusPage) (load : Nat) (view : StatusViewState) : StatusPage :=
  let rendered := s.renderPanel load view
  { s with view := view, viewLoad := load, queued := none, panel := rendered.1, mounts := rendered.2 }

def submit (s : StatusPage) (panel : LifecyclePanel) (input : LifecycleInput) : Option StatusPage :=
  (panel.request s.caseUrn s.view.decisionReached input).map fun (request, snapshot, policy) =>
    { s with
      panel := some (panel.submitting input.kind)
      submissions := s.submissions ++
        [⟨request, input.kind, policy, snapshot, s.mounts, true, s.displayed⟩] }

def panelOf (s : StatusPage) (submission : Submission) : Option LifecyclePanel :=
  if submission.panel = s.mounts then s.panel else none

def settle (s : StatusPage) (n : Nat) (submission : Submission)
    (result : Except String LifecycleActionReceipt) : StatusPage :=
  { s with
    submissions := s.submissions.set n { submission with pending := false }
    panel := match s.panelOf submission with
      | some panel => some (panel.settled submission.kind submission.policy result)
      | none => s.panel }

inductive Event where
  | route (caseUrn : String)
  | effect
  | landed (load : Nat) (status : StatusResult) (lifecycle : LifecycleResult)
  | caught (load : Nat)
  | retired (load : Nat)
  | render
  | toggle (kind : LifecycleActionKind)
  | submit (input : LifecycleInput)
  | settled (submission : Nat) (result : Except String LifecycleActionReceipt)

def step (s : StatusPage) : Event → Option StatusPage
  | .route caseUrn =>
    -- effects run before the next render, and only behind a route that is new
    if s.effectPending = false ∧ caseUrn ≠ s.caseUrn then
      some { s with caseUrn := caseUrn, effectPending := true }
    else none
  | .effect => if s.effectPending then some (s.runEffect config) else none
  | .landed n status lifecycle =>
    match config.profile, s.loads[n]? with
    | .ok profile, some load =>
      if load.settled = false ∧ answersFor load.caseUrn lifecycle then
        some (s.settleLoad n load (landedView profile status lifecycle))
      else none
    | _, _ => none
  | .caught n =>
    match s.loads[n]? with
    | some load => if load.settled = false then some (s.settleLoad n load .adapterError) else none
    | none => none
  | .retired n => if (startView config).2 then s.loads[n]?.map (s.retireLoad n) else none
  | .render =>
    match s.queued with
    | some (load, view) => if s.effectPending = false then some (s.render load view) else none
    | none => none
  | .toggle kind => s.panel.bind fun panel =>
    if (panel.action kind).any LifecycleAction.opens then
      some { s with panel := some (panel.toggle kind) }
    else none
  | .submit input => s.panel.bind fun panel => s.submit panel input
  | .settled n result =>
    match s.submissions[n]? with
    | some submission =>
      if submission.pending = true ∧ receiptFor submission.request.caseUrn result then
        some (s.settle n submission result)
      else none
    | none => none

end StatusPage

def LifecycleRequestBody.disputes : LifecycleRequestBody → Option Value
  | .dispute _ eventId => eventId
  | _ => none

/-- A request names the case that was displayed, and a dispute an event that was shown of it. -/
structure Submission.Names (submission : Submission) : Prop where
  displayed : submission.displayed = some submission.request.caseUrn
  shown : caseOf submission.shown = some submission.request.caseUrn
  event : ∀ eventId, submission.request.body.disputes = some eventId →
    ∃ event ∈ eventsOf submission.shown, event.get? "eventId" = some eventId

def OfProfile (config : StatusRuntimeConfig) (policy : Option Value) : Prop :=
  ∃ profile, config.profile = .ok profile ∧ policy = profile.recordLifecycle

namespace LifecycleViewState

def UnderProfile (config : StatusRuntimeConfig) (lifecycle : LifecycleViewState) : Prop :=
  ∀ snapshot policy, lifecycle = .available snapshot policy → OfProfile config policy

def OfCase (caseUrn : String) (lifecycle : LifecycleViewState) : Prop :=
  ∀ snapshot policy, lifecycle = .available snapshot policy → caseOf snapshot = some caseUrn

end LifecycleViewState

namespace StatusPage

def ShowsDisplayed (s : StatusPage) : Prop :=
  ∀ panel, s.panel = some panel → ∃ caseUrn, s.displayed = some caseUrn ∧ panel.lifecycle.OfCase caseUrn

structure BelongsToCase (config : StatusRuntimeConfig) (s : StatusPage) : Prop where
  snapshot : s.ShowsDisplayed
  policy : ∀ panel, s.panel = some panel → panel.lifecycle.UnderProfile config
  names : ∀ submission ∈ s.submissions, submission.Names

/-- A form is submitted where the route is the displayed case, and a receipt comes for the displayed
case or for a panel that is gone. -/
def Current (s : StatusPage) : Event → Prop
  | .submit _ => s.displayed = some s.caseUrn
  | .settled n (.ok _) => ∀ submission ∈ s.submissions[n]?,
      (s.panelOf submission).isSome = true → s.displayed = some submission.request.caseUrn
  | _ => True

instance decidableCurrent (s : StatusPage) : ∀ event, Decidable (s.Current event)
  | .submit _ => inferInstanceAs (Decidable (s.displayed = some s.caseUrn))
  | .settled n (.ok _) => inferInstanceAs (Decidable (∀ submission ∈ s.submissions[n]?,
      (s.panelOf submission).isSome = true → s.displayed = some submission.request.caseUrn))
  | .settled _ (.error _) | .route _ | .effect | .landed _ _ _ | .caught _ | .retired _ | .render
  | .toggle _ => isTrue trivial

/-! ## The invariant -/

def Fits (config : StatusRuntimeConfig) (s : StatusPage) (load : Nat) (view : StatusViewState) : Prop :=
  ∃ caseUrn, s.caseOfLoad load = some caseUrn ∧ ∀ lifecycle, view.lifecycle? = some lifecycle →
    lifecycle.OfCase caseUrn ∧ lifecycle.UnderProfile config

structure Inv (config : StatusRuntimeConfig) (s : StatusPage) : Prop where
  loaded : ∀ panel, s.panel = some panel → panel.loadedState = s.viewLoad
  displayed : ∀ panel, s.panel = some panel → ∃ caseUrn, s.displayed = some caseUrn
  queued : ∀ load view, s.queued = some (load, view) → s.Fits config load view
  policy : ∀ panel, s.panel = some panel → panel.lifecycle.UnderProfile config
  policies : ∀ submission ∈ s.submissions, OfProfile config submission.policy

variable {config : StatusRuntimeConfig} {s t : StatusPage}

theorem inv_opened (caseUrn : String) : (opened caseUrn).Inv config where
  loaded _ h := by cases h
  displayed _ h := by cases h
  queued _ _ h := by cases h
  policy _ h := by cases h
  policies _ h := by cases h

structure Frame (s t : StatusPage) : Prop where
  panel : ∀ after, t.panel = some after → ∃ before, s.panel = some before
    ∧ after.lifecycle = before.lifecycle ∧ after.loadedState = before.loadedState
  viewLoad : t.viewLoad = s.viewLoad
  loads : ∀ n caseUrn, s.caseOfLoad n = some caseUrn → t.caseOfLoad n = some caseUrn

theorem Frame.displayed (h : Frame s t) {caseUrn : String} (hs : s.displayed = some caseUrn) :
    t.displayed = some caseUrn := by
  rw [StatusPage.displayed, h.viewLoad]
  exact h.loads s.viewLoad caseUrn hs

theorem Frame.snapshot (h : Frame s t) (hs : s.ShowsDisplayed) : t.ShowsDisplayed := by
  intro after hafter
  obtain ⟨before, hbefore, hlifecycle, -⟩ := h.panel after hafter
  obtain ⟨caseUrn, hdisplayed, hcase⟩ := hs before hbefore
  rw [hlifecycle]
  exact ⟨caseUrn, h.displayed hdisplayed, hcase⟩

theorem Frame.inv (h : Frame s t) (hs : s.Inv config)
    (hqueued : ∀ load view, t.queued = some (load, view) →
      s.queued = some (load, view) ∨ t.Fits config load view)
    (hpolicies : ∀ submission ∈ t.submissions, OfProfile config submission.policy) :
    t.Inv config where
  loaded after hafter := by
    obtain ⟨before, hbefore, -, hloaded⟩ := h.panel after hafter
    rw [hloaded, h.viewLoad]
    exact hs.loaded before hbefore
  displayed after hafter := by
    obtain ⟨before, hbefore, -⟩ := h.panel after hafter
    obtain ⟨caseUrn, hdisplayed⟩ := hs.displayed before hbefore
    exact ⟨caseUrn, h.displayed hdisplayed⟩
  queued load view heq := by
    rcases hqueued load view heq with hbefore | hnew
    · obtain ⟨caseUrn, hcase, hview⟩ := hs.queued load view hbefore
      exact ⟨caseUrn, h.loads load caseUrn hcase, hview⟩
    · exact hnew
  policy after hafter := by
    obtain ⟨before, hbefore, hlifecycle, -⟩ := h.panel after hafter
    rw [hlifecycle]
    exact hs.policy before hbefore
  policies := hpolicies

def Judged (config : StatusRuntimeConfig) (s t : StatusPage) (current : Prop) : Prop :=
  t.Inv config ∧ (s.BelongsToCase config → (t.BelongsToCase config ↔ current))

theorem judged_of_loads (hs : s.Inv config) (hpanel : t.panel = s.panel)
    (hview : t.viewLoad = s.viewLoad) (hsubmissions : t.submissions = s.submissions)
    (hloads : ∀ n caseUrn, s.caseOfLoad n = some caseUrn → t.caseOfLoad n = some caseUrn)
    (hqueued : ∀ load view, t.queued = some (load, view) → s.queued = some (load, view)
      ∨ ∃ caseUrn, t.caseOfLoad load = some caseUrn ∧ ∀ lifecycle, view.lifecycle? = some lifecycle →
        lifecycle.OfCase caseUrn ∧ lifecycle.UnderProfile config) :
    Judged config s t True := by
  have hframe : Frame s t :=
    ⟨fun after hafter => ⟨after, hpanel ▸ hafter, rfl, rfl⟩, hview, hloads⟩
  have hinv : t.Inv config := hframe.inv hs hqueued (hsubmissions ▸ hs.policies)
  refine ⟨hinv, fun hgood => iff_of_true ?_ trivial⟩
  exact ⟨hframe.snapshot hgood.snapshot, hinv.policy, hsubmissions ▸ hgood.names⟩

theorem caseOfLoad_set {n : Nat} {load after : PageLoad} (hloads : t.loads = s.loads.set n after)
    (hload : s.loads[n]? = some load) (hcase : after.caseUrn = load.caseUrn) (m : Nat) :
    t.caseOfLoad m = s.caseOfLoad m := by
  rw [caseOfLoad, caseOfLoad, hloads, List.getElem?_set]
  have hlt : n < s.loads.length := (List.getElem?_eq_some_iff.mp hload).1
  split
  · next heq =>
      subst heq
      rw [hload, Option.map_some, Option.map_some, hcase]
  · rfl

variable {view : StatusViewState}

theorem judged_settleLoad {n : Nat} {load : PageLoad} (hs : s.Inv config)
    (hload : s.loads[n]? = some load)
    (hview : ∀ lifecycle, view.lifecycle? = some lifecycle →
      lifecycle.OfCase load.caseUrn ∧ lifecycle.UnderProfile config) :
    Judged config s (s.settleLoad n load view) True := by
  have hcases : ∀ m, (s.settleLoad n load view).caseOfLoad m = s.caseOfLoad m :=
    caseOfLoad_set rfl hload rfl
  refine judged_of_loads hs rfl rfl rfl ?_ ?_
  · intro m caseUrn hm
    rw [hcases, hm]
  · intro m queued hqueued
    simp only [settleLoad] at hqueued
    split at hqueued
    · exact Or.inl hqueued
    · cases hqueued
      refine Or.inr ⟨load.caseUrn, ?_, hview⟩
      rw [hcases, caseOfLoad, hload]
      rfl

theorem judged_retireLoad {n : Nat} {load : PageLoad} (hs : s.Inv config)
    (hload : s.loads[n]? = some load) : Judged config s (s.retireLoad n load) True := by
  unfold retireLoad
  split
  · exact judged_of_loads hs rfl rfl rfl (fun _ _ h => h) fun _ _ h => Or.inl h
  · have hcases : ∀ m, { s with
          loads := s.loads.set n { load with cancelled := true }
          queued := some (n, .signInRequired) }.caseOfLoad m = s.caseOfLoad m :=
      caseOfLoad_set rfl hload rfl
    refine judged_of_loads hs rfl rfl rfl ?_ ?_
    · intro m caseUrn hm
      exact (hcases m).trans hm
    · intro m view hqueued
      cases hqueued
      refine Or.inr ⟨load.caseUrn, (hcases n).trans ?_, nofun⟩
      rw [caseOfLoad, hload]
      rfl

theorem startView_lifecycle : (startView config).1.lifecycle? = none := by
  unfold startView
  split
  · rfl
  · split <;> rfl

theorem judged_runEffect (hs : s.Inv config) : Judged config s (s.runEffect config) True := by
  refine judged_of_loads hs rfl rfl rfl ?_ ?_
  · intro n caseUrn hn
    obtain ⟨load, hload, rfl⟩ := Option.map_eq_some_iff.mp hn
    have hcancelled : (s.loads.map fun load => { load with cancelled := true })[n]?
        = some { load with cancelled := true } := by
      rw [List.getElem?_map, hload]
      rfl
    rw [caseOfLoad, runEffect, getElem?_concat_of hcancelled]
    rfl
  · intro n view hqueued
    cases hqueued
    refine Or.inr ⟨s.caseUrn, ?_, fun lifecycle h => ?_⟩
    · simp [caseOfLoad, runEffect]
    · rw [startView_lifecycle] at h
      cases h

theorem landedView_lifecycle {profile : ResolvedRuntimeProfile} {status : StatusResult}
    {result : LifecycleResult} {caseUrn : String} (hprofile : config.profile = .ok profile)
    (hresult : answersFor caseUrn result = true) {lifecycle : LifecycleViewState}
    (h : (landedView profile status result).lifecycle? = some lifecycle) :
    lifecycle.OfCase caseUrn ∧ lifecycle.UnderProfile config := by
  have hlifecycle : lifecycle = lifecycleStateFromResult profile result := by
    unfold landedView at h
    split at h
    · next failure =>
        unfold refusedView at h
        split at h <;> cases h
    · cases h
    · split at h <;> exact (Option.some.inj h).symm
  have havailable : ∀ snapshot policy, lifecycle = .available snapshot policy →
      result = .ok (some snapshot) ∧ policy = profile.recordLifecycle := by
    intro snapshot policy heq
    rw [hlifecycle] at heq
    unfold lifecycleStateFromResult at heq
    split at heq
    · cases heq
    split at heq
    · cases heq
    · cases heq
    · cases heq
      exact ⟨rfl, rfl⟩
  constructor
  · intro snapshot policy heq
    rw [(havailable snapshot policy heq).1] at hresult
    exact beq_iff_eq.mp hresult
  · intro snapshot policy heq
    exact ⟨profile, hprofile, (havailable snapshot policy heq).2⟩

variable {panel : LifecyclePanel}

theorem renderPanel_some {load : Nat} (h : (s.renderPanel load view).1 = some panel) :
    (∃ lifecycle, view.lifecycle? = some lifecycle ∧ panel = .mount load lifecycle)
      ∨ s.panel = some panel ∧ load = panel.loadedState := by
  unfold renderPanel at h
  split at h
  · cases h
  · next lifecycle hlifecycle =>
      split at h
      · next mounted hmounted =>
          split at h
          · unfold LifecyclePanel.rendered at h
            split at h
            · next hload =>
                cases h
                exact Or.inr ⟨hmounted, hload⟩
            · exact Or.inl ⟨lifecycle, hlifecycle, (Option.some.inj h).symm⟩
          · exact Or.inl ⟨lifecycle, hlifecycle, (Option.some.inj h).symm⟩
      · exact Or.inl ⟨lifecycle, hlifecycle, (Option.some.inj h).symm⟩

theorem judged_render {load : Nat} (hs : s.Inv config)
    (hqueued : s.queued = some (load, view)) : Judged config s (s.render load view) True := by
  obtain ⟨caseUrn, hcase, hview⟩ := hs.queued load view hqueued
  have hpolicy : ∀ panel, (s.renderPanel load view).1 = some panel →
      panel.lifecycle.UnderProfile config := by
    intro panel hpanel
    rcases renderPanel_some hpanel with ⟨lifecycle, hlifecycle, rfl⟩ | ⟨hkept, -⟩
    · exact (hview lifecycle hlifecycle).2
    · exact hs.policy panel hkept
  have hnone : (s.render load view).queued = none := rfl
  refine ⟨⟨fun panel hpanel => ?_, fun _ _ => ⟨caseUrn, hcase⟩, fun _ _ h => absurd h (by simp [hnone]),
    hpolicy, hs.policies⟩, fun hgood => iff_of_true ⟨fun panel hpanel => ?_, hpolicy, hgood.names⟩
      trivial⟩
  · rcases renderPanel_some hpanel with ⟨lifecycle, -, rfl⟩ | ⟨-, hload⟩
    · rfl
    · exact hload.symm
  · rcases renderPanel_some hpanel with ⟨lifecycle, hlifecycle, rfl⟩ | ⟨hkept, hload⟩
    · exact ⟨caseUrn, hcase, (hview lifecycle hlifecycle).1⟩
    · have hsame : (s.render load view).displayed = s.displayed := by
        rw [displayed, displayed, ← hs.loaded panel hkept, ← hload]
        rfl
      rw [hsame]
      exact hgood.snapshot panel hkept

theorem firstEventId_mem {snapshot eventId : Value} (h : firstEventId snapshot = some eventId) :
    ∃ event ∈ eventsOf snapshot, event.get? "eventId" = some eventId := by
  obtain ⟨event, hevent, hid⟩ := Option.bind_eq_some_iff.mp h
  exact ⟨event, List.mem_of_mem_head? hevent, hid⟩

theorem request_spec {caseUrn : String} {reached : Bool}
    {input : LifecycleInput} {request : LifecycleRequest} {snapshot : Value} {policy : Option Value}
    (h : panel.request caseUrn reached input = some (request, snapshot, policy)) :
    panel.lifecycle = .available snapshot policy ∧ request.caseUrn = caseUrn
      ∧ ∀ eventId, request.body.disputes = some eventId →
        ∃ event ∈ eventsOf snapshot, event.get? "eventId" = some eventId := by
  unfold LifecyclePanel.request at h
  split at h
  · next shown ruled action hlifecycle haction =>
      rw [Option.ite_none_right_eq_some, Option.some.injEq, Prod.mk.injEq, Prod.mk.injEq] at h
      obtain ⟨-, rfl, rfl, rfl⟩ := h
      refine ⟨hlifecycle, rfl, fun eventId hdisputes => ?_⟩
      cases input with
      | correct fields reason evidenceRefs => cases hdisputes
      | withdraw reason rescissionRequested => cases hdisputes
      | dispute statement => exact firstEventId_mem hdisputes
  · cases h

theorem judged_submit {input : LifecycleInput} (hs : s.Inv config)
    (hpanel : s.panel = some panel) (h : s.submit panel input = some t) :
    Judged config s t (s.displayed = some s.caseUrn) := by
  obtain ⟨⟨request, snapshot, policy⟩, hrequest, rfl⟩ := Option.map_eq_some_iff.mp h
  obtain ⟨hlifecycle, hcaseUrn, hevent⟩ := request_spec hrequest
  have hframe : Frame s { s with
      panel := some (panel.submitting input.kind)
      submissions := s.submissions ++
        [⟨request, input.kind, policy, snapshot, s.mounts, true, s.displayed⟩] } :=
    ⟨fun after hafter => ⟨panel, hpanel, by rw [← Option.some.inj hafter]; exact ⟨rfl, rfl⟩⟩, rfl,
      fun _ _ hload => hload⟩
  have hinv := hframe.inv hs (fun _ _ hqueued => Or.inl hqueued) fun submission hmem => by
    rcases List.mem_append.mp hmem with hmem | hmem
    · exact hs.policies submission hmem
    · rw [List.mem_singleton.mp hmem]
      exact hs.policy panel hpanel snapshot policy hlifecycle
  refine ⟨hinv, fun hgood => ⟨fun hnext => ?_, fun hcurrent => ?_⟩⟩
  · have hnames := (hnext.names _ (List.mem_append_right _ List.mem_cons_self)).displayed
    rw [hcaseUrn] at hnames
    exact hnames
  · refine ⟨hframe.snapshot hgood.snapshot, hinv.policy, fun submission hmem => ?_⟩
    rcases List.mem_append.mp hmem with hmem | hmem
    · exact hgood.names submission hmem
    · rw [List.mem_singleton.mp hmem]
      obtain ⟨caseUrn, hdisplayed, hcase⟩ := hgood.snapshot panel hpanel
      obtain rfl := Option.some.inj (hdisplayed.symm.trans hcurrent)
      rw [← hcaseUrn] at hcurrent hcase
      exact ⟨hcurrent, hcase snapshot policy hlifecycle, hevent⟩

theorem judged_toggle {kind : LifecycleActionKind} (hs : s.Inv config)
    (hpanel : s.panel = some panel) :
    Judged config s { s with panel := some (panel.toggle kind) } True := by
  have hframe : Frame s { s with panel := some (panel.toggle kind) } :=
    ⟨fun after hafter => ⟨panel, hpanel, by rw [← Option.some.inj hafter]; exact ⟨rfl, rfl⟩⟩, rfl,
      fun _ _ hload => hload⟩
  have hinv := hframe.inv hs (fun _ _ hqueued => Or.inl hqueued) hs.policies
  exact ⟨hinv, fun hgood => iff_of_true
    ⟨hframe.snapshot hgood.snapshot, hinv.policy, hgood.names⟩ trivial⟩

section Settlements

variable {n : Nat} {submission : Submission} {result : Except String LifecycleActionReceipt}

theorem forall_settle (hsubmission : s.submissions[n]? = some submission) {P : Submission → Prop}
    (hP : P submission → P { submission with pending := false })
    (h : ∀ other ∈ s.submissions, P other) :
    ∀ other ∈ (s.settle n submission result).submissions, P other := by
  intro other hother
  rcases List.mem_or_eq_of_mem_set hother with hmem | rfl
  · exact h other hmem
  · exact hP (h submission (List.mem_of_getElem? hsubmission))

theorem settle_names (hsubmission : s.submissions[n]? = some submission)
    (h : ∀ other ∈ s.submissions, other.Names) :
    ∀ other ∈ (s.settle n submission result).submissions, other.Names :=
  forall_settle hsubmission (fun hnames => ⟨hnames.displayed, hnames.shown, hnames.event⟩) h

theorem judged_of_kept (result : Except String LifecycleActionReceipt) (hs : s.Inv config)
    (hsubmission : s.submissions[n]? = some submission)
    (hkept : ∀ after, (s.settle n submission result).panel = some after → ∃ before,
      s.panel = some before ∧ after.lifecycle = before.lifecycle
        ∧ after.loadedState = before.loadedState) :
    Judged config s (s.settle n submission result) True := by
  have hframe : Frame s (s.settle n submission result) := ⟨hkept, rfl, fun _ _ hload => hload⟩
  have hinv := hframe.inv hs (fun _ _ hqueued => Or.inl hqueued)
    (forall_settle hsubmission id hs.policies)
  exact ⟨hinv, fun hgood => iff_of_true ⟨hframe.snapshot hgood.snapshot, hinv.policy,
    settle_names hsubmission hgood.names⟩ trivial⟩

theorem judged_receipt {panel : LifecyclePanel} {receipt : LifecycleActionReceipt} (hs : s.Inv config)
    (hsubmission : s.submissions[n]? = some submission) (hmounted : s.panel = some panel)
    (hpanel : (s.settle n submission (.ok receipt)).panel
      = some (panel.settled submission.kind submission.policy (.ok receipt)))
    (hreceipt : caseOf receipt.snapshot = some submission.request.caseUrn) :
    Judged config s (s.settle n submission (.ok receipt))
      (s.displayed = some submission.request.caseUrn) := by
  have hshown : ∀ after, (s.settle n submission (.ok receipt)).panel = some after →
      after.lifecycle = .available receipt.snapshot submission.policy
        ∧ after.loadedState = panel.loadedState := by
    intro after hafter
    obtain rfl := Option.some.inj (hpanel.symm.trans hafter)
    exact ⟨rfl, rfl⟩
  have hpolicy : ∀ after, (s.settle n submission (.ok receipt)).panel = some after →
      after.lifecycle.UnderProfile config := by
    intro after hafter snapshot policy heq
    rw [(hshown after hafter).1] at heq
    cases heq
    exact hs.policies submission (List.mem_of_getElem? hsubmission)
  refine ⟨⟨fun after hafter => ?_, fun _ _ => hs.displayed panel hmounted, hs.queued, hpolicy,
    forall_settle hsubmission id hs.policies⟩, fun hgood => ⟨fun hnext => ?_, fun hcurrent => ?_⟩⟩
  · rw [(hshown after hafter).2]
    exact hs.loaded panel hmounted
  · obtain ⟨caseUrn, hdisplayed, hcase⟩ := hnext.snapshot _ hpanel
    have hof := hcase receipt.snapshot submission.policy rfl
    rw [hreceipt] at hof
    cases hof
    exact hdisplayed
  · refine ⟨fun after hafter => ⟨_, hcurrent, fun snapshot policy heq => ?_⟩, hpolicy,
      settle_names hsubmission hgood.names⟩
    rw [(hshown after hafter).1] at heq
    cases heq
    exact hreceipt

theorem judged_settle (hs : s.Inv config) (hsubmission : s.submissions[n]? = some submission)
    (hresult : receiptFor submission.request.caseUrn result = true) :
    Judged config s (s.settle n submission result) (s.Current (.settled n result)) := by
  have hcurrent : ∀ receipt, s.Current (.settled n (.ok receipt)) ↔
      ((s.panelOf submission).isSome = true → s.displayed = some submission.request.caseUrn) := by
    intro receipt
    constructor
    · intro h
      exact h submission hsubmission
    · intro h other hother
      obtain rfl := Option.some.inj (hsubmission.symm.trans hother)
      exact h
  cases hpanel : s.panelOf submission with
  | none =>
    have hnext : (s.settle n submission result).panel = s.panel := by
      rw [settle, hpanel]
    have hjudged := judged_of_kept result hs hsubmission fun after hafter =>
      ⟨after, hnext ▸ hafter, rfl, rfl⟩
    cases result with
    | error message => exact hjudged
    | ok receipt =>
      rw [hcurrent receipt, hpanel]
      simpa using hjudged
  | some panel =>
    have hmounted : s.panel = some panel := by
      unfold panelOf at hpanel
      split at hpanel
      · exact hpanel
      · cases hpanel
    have hnext : (s.settle n submission result).panel
        = some (panel.settled submission.kind submission.policy result) := by
      rw [settle, hpanel]
    cases result with
    | error message =>
      refine judged_of_kept _ hs hsubmission fun after hafter => ⟨panel, hmounted, ?_⟩
      obtain rfl := Option.some.inj (hnext.symm.trans hafter)
      exact ⟨rfl, rfl⟩
    | ok receipt =>
      rw [hcurrent receipt, hpanel]
      simpa using judged_receipt hs hsubmission hmounted hnext (beq_iff_eq.mp hresult)

end Settlements

/-! ## Runs -/

theorem judged_step {event : Event} (hs : s.Inv config) (hstep : step config s event = some t) :
    Judged config s t (s.Current event) := by
  cases event with
  | route caseUrn =>
    rw [step, Option.ite_none_right_eq_some] at hstep
    rw [← Option.some.inj hstep.2]
    exact judged_of_loads hs rfl rfl rfl (fun _ _ h => h) fun _ _ h => Or.inl h
  | effect =>
    rw [step, Option.ite_none_right_eq_some] at hstep
    exact Option.some.inj hstep.2 ▸ judged_runEffect hs
  | landed n status lifecycle =>
    rw [step] at hstep
    split at hstep
    · next profile load hprofile hload =>
        rw [Option.ite_none_right_eq_some] at hstep
        obtain ⟨⟨-, hanswers⟩, hstep⟩ := hstep
        rw [← Option.some.inj hstep]
        exact judged_settleLoad hs hload fun _ => landedView_lifecycle hprofile hanswers
    · cases hstep
  | caught n =>
    rw [step] at hstep
    split at hstep
    · next load hload =>
        rw [Option.ite_none_right_eq_some] at hstep
        rw [← Option.some.inj hstep.2]
        exact judged_settleLoad hs hload nofun
    · cases hstep
  | retired n =>
    rw [step, Option.ite_none_right_eq_some] at hstep
    obtain ⟨load, hload, rfl⟩ := Option.map_eq_some_iff.mp hstep.2
    exact judged_retireLoad hs hload
  | render =>
    rw [step] at hstep
    split at hstep
    · next load view hqueued =>
        rw [Option.ite_none_right_eq_some] at hstep
        exact Option.some.inj hstep.2 ▸ judged_render hs hqueued
    · cases hstep
  | toggle kind =>
    obtain ⟨panel, hpanel, hstep⟩ := Option.bind_eq_some_iff.mp hstep
    rw [Option.ite_none_right_eq_some] at hstep
    exact Option.some.inj hstep.2 ▸ judged_toggle hs hpanel
  | submit input =>
    obtain ⟨panel, hpanel, hstep⟩ := Option.bind_eq_some_iff.mp hstep
    exact judged_submit hs hpanel hstep
  | settled n result =>
    rw [step] at hstep
    split at hstep
    · next submission hsubmission =>
        rw [Option.ite_none_right_eq_some] at hstep
        obtain ⟨⟨-, hresult⟩, hstep⟩ := hstep
        exact Option.some.inj hstep ▸ judged_settle hs hsubmission hresult
    · cases hstep

theorem belongsToCase_opened (caseUrn : String) : (opened caseUrn).BelongsToCase config where
  snapshot _ h := by cases h
  policy _ h := by cases h
  names _ h := by cases h

/-- The panel belongs to the displayed case throughout a run exactly where every submission is made
under the route it displays, and every receipt that reaches a mounted panel is of the displayed case. -/
theorem panel_belongs_to_case_iff {caseUrn : String} {events : List Event} {states : List StatusPage}
    (h : statesOf (step config) (opened caseUrn) events = some states) :
    (∀ reached ∈ states, reached.BelongsToCase config)
      ↔ EveryStep (step config) Current (opened caseUrn) events :=
  statesOf_good_iff (fun _ _ _ hs hstep => (judged_step hs hstep).1)
    (fun _ _ _ hs hgood hstep => (judged_step hs hstep).2 hgood) (inv_opened caseUrn)
    (belongsToCase_opened caseUrn) h

def sampleConfig : StatusRuntimeConfig where
  mode := .production
  instanceCapabilities := fun
    | .status | .recordLifecycle => .available
    | _ => .unavailable
  orgRuntimePolicy :=
    ⟨[("status", some .defaultOn), ("recordLifecycle", some .defaultOn)], fun _ => none, none⟩
  urlOrigin := fun _ => none
  browserAuthSession :=
    ⟨"issuer", ⟨true, true, true, true, true, true⟩, fun _ => "", fun _ => ""⟩
  dateParse _ := none

def sampleSnapshot (caseUrn : String) : Value :=
  .object [("caseUrn", .string caseUrn), ("events", .array []), ("actions", .array [.object
    [("action", .string "withdraw"), ("enabled", .bool true), ("requiresReason", .bool true)]])]

def sampleReceipt (caseUrn : String) : Except String LifecycleActionReceipt :=
  .ok ⟨.withdraw, .object [("kind", .string "withdrawal")], sampleSnapshot caseUrn, none⟩

def sampleLoad (load : Nat) (caseUrn : String) : List Event :=
  [.effect, .landed load (.ok (some (.object []))) (.ok (some (sampleSnapshot caseUrn))), .render]

def submittedRun : List Event :=
  sampleLoad 0 "urn:wos:a" ++ [.toggle .withdraw, .submit (.withdraw (some "moved") false)]

theorem panel_belongs_to_case_submitted : ∃ states,
    statesOf (step sampleConfig) (opened "urn:wos:a")
        (submittedRun ++ [.settled 0 (sampleReceipt "urn:wos:a")]) = some states
      ∧ ∀ reached ∈ states, reached.BelongsToCase sampleConfig := by
  obtain ⟨states, hstates⟩ : ∃ states, statesOf (step sampleConfig) (opened "urn:wos:a")
      (submittedRun ++ [.settled 0 (sampleReceipt "urn:wos:a")]) = some states := ⟨_, rfl⟩
  exact ⟨states, hstates, (panel_belongs_to_case_iff hstates).mpr (by decide)⟩

/-- The next case reaches the mounted panel, and then the receipt of the case before. -/
theorem late_receipt_replaces_snapshot : ∃ states reached,
    statesOf (step sampleConfig) (opened "urn:wos:a") (submittedRun
        ++ .route "urn:wos:b" :: sampleLoad 1 "urn:wos:b" ++ [.settled 0 (sampleReceipt "urn:wos:a")])
      = some states ∧ reached ∈ states ∧ ¬ reached.BelongsToCase sampleConfig := by
  refine ⟨_, _, rfl, List.mem_of_getLast? rfl, fun hbelongs => ?_⟩
  obtain ⟨caseUrn, hdisplayed, hcase⟩ := hbelongs.snapshot _ rfl
  have hshown := hcase _ _ rfl
  rw [← hdisplayed] at hshown
  exact absurd hshown (by decide)

end StatusPage

end FormspecWeb.Status
