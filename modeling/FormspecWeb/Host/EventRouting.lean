import FormspecWeb.Async.Steps
import FormspecWeb.Host.HostEvents
import FormspecWeb.Shared.InsertionMap
import Mathlib.Data.List.Nodup

/-!
# Where host events are routed

Admission finds one capability for every authored event. The lookup of an invocation finds the same
one exactly where no earlier capability for an action of the same name has a document of the same
text. A handler is called once at most, on a completed action with one dispatch, under a guard that
passes.
-/

namespace FormspecWeb.Host.HostEvents

open Shared Async JsonText

variable {ν : Type} {format : NumberFormat ν} {input : HostEventsInput ν}
  {admitted : List (Admitted ν)}

/-- An action of the definition that raises a host event and is not the controller's. -/
structure Authored (format : NumberFormat ν) (input : HostEventsInput ν) (artifactRef : Text)
    (document : Json ν) (actionRef : Text) : Prop where
  listed : (artifactRef, document) ∈ input.documents
  versioned : isVersioned document = true
  targeted : targets input.definitionUrl document = true
  action : ∃ actions action, authoredActions document = some actions ∧ action ∈ actions
    ∧ hasId action actionRef = true ∧ raisesHostEvent action = some true
  free : controllerOwns format input document actionRef = false

/-- One capability is declared for the action in its artifact, and it is the one that is found. -/
def Handled (format : NumberFormat ν) (input : HostEventsInput ν) (admitted : List (Admitted ν))
    (artifactRef : Text) (document : Json ν) (actionRef : Text) : Prop :=
  ∃ capability,
    input.capabilities.filter (fun other => other.artifactRef == artifactRef
      && other.actionRef == actionRef) = [capability]
    ∧ (select format admitted document actionRef).map (·.capability) = some capability

/-- No capability follows one for an action of the same name in a document of the same text. -/
def Unambiguous (format : NumberFormat ν) (input : HostEventsInput ν) : Prop :=
  input.capabilities.Pairwise fun first second => first.actionRef = second.actionRef →
    ∀ document, input.documents.lookup second.artifactRef = some document →
      isVersioned document = true →
      (input.documents.lookup first.artifactRef).map (print format) ≠ some (print format document)

theorem isText_some {value : Option (Json ν)} {text : Text} (h : isText value text = true) :
    value = some (.string text) := by
  unfold isText at h
  split at h
  · rw [beq_iff_eq.mp h]
  · cases h

theorem declaresEvent_authored {document : Json ν} {capability : HostEventCapability}
    (h : declaresEvent document capability = true) :
    ∃ actions action, authoredActions document = some actions ∧ action ∈ actions
      ∧ hasId action capability.actionRef = true ∧ raisesHostEvent action = some true := by
  unfold declaresEvent at h
  split at h
  · next action hfound =>
    obtain ⟨actions, hactions, hfilter⟩ := Option.map_eq_some_iff.mp hfound
    have hmem : action ∈ actions.filter (hasId · capability.actionRef) := by
      rw [hfilter]
      exact List.mem_singleton_self _
    obtain ⟨hin, hid⟩ := List.mem_filter.mp hmem
    refine ⟨actions, action, ?_, hin, hid, ?_⟩
    · unfold actionsOf at hactions
      split at hactions
      · next found hmember =>
        split at hactions
        · cases hactions
        · cases hactions
          rw [authoredActions, hmember]
      · cases hactions
    split at h
    · next effect heffects =>
      obtain ⟨hevent, -⟩ := Bool.and_eq_true_iff.mp h
      have hnull : isNull effect = false := by
        cases effect <;> first | rfl | cases hevent
      rw [raisesHostEvent, heffects]
      simp [someHostEvent, hnull, hevent]
    · cases h
  · cases h

/-! ## Admission -/

structure Admits (format : NumberFormat ν) (input : HostEventsInput ν)
    (admitted : List (Admitted ν)) : Prop where
  capabilities : admitted.map (·.capability) = input.capabilities
  keys : (admitted.map fun value => capabilityKey value.capability).Nodup
  document : ∀ value ∈ admitted,
    input.documents.lookup value.capability.artifactRef = some value.document
  authored : ∀ value ∈ admitted, isVersioned value.document = true →
    Authored format input value.capability.artifactRef value.document value.capability.actionRef
  covered : ∀ artifactRef document actionRef,
    Authored format input artifactRef document actionRef → ∃ value ∈ admitted,
      value.capability.artifactRef = artifactRef ∧ value.capability.actionRef = actionRef

theorem admit_ok {capability : HostEventCapability} {value : Admitted ν}
    (h : admitCapability format input capability = .ok value) :
    value.capability = capability
      ∧ input.documents.lookup capability.artifactRef = some value.document
      ∧ targets input.definitionUrl value.document = true
      ∧ declaresEvent value.document capability = true
      ∧ controllerOwns format input value.document capability.actionRef = false := by
  unfold admitCapability at h
  split at h
  · cases h
  · next document hdocument =>
    split at h
    · next hchecks =>
      cases h
      simp only [Bool.and_eq_true, Bool.not_eq_true'] at hchecks
      exact ⟨rfl, hdocument, hchecks.1.1.1.1, hchecks.1.2, hchecks.2⟩
    · cases h

theorem admit_mapM {capabilities : List HostEventCapability}
    (h : List.Forall₂ (fun capability value => admitCapability format input capability = .ok value)
      capabilities admitted) : admitted.map (·.capability) = capabilities
      ∧ ∀ value ∈ admitted, admitCapability format input value.capability = .ok value := by
  induction h with
  | nil => exact ⟨rfl, nofun⟩
  | cons hfirst _ ih =>
    obtain ⟨heq, -⟩ := admit_ok hfirst
    constructor
    · rw [List.map_cons, ih.1, heq]
    · intro value hvalue
      rcases List.mem_cons.mp hvalue with rfl | hrest
      · rw [heq]
        exact hfirst
      · exact ih.2 value hrest

theorem checkDocument_ok {artifactRef actionRef : Text} {document : Json ν}
    (h : checkDocument format input admitted (artifactRef, document) = .ok ())
    (hauthored : Authored format input artifactRef document actionRef) : ∃ value ∈ admitted,
      value.capability.artifactRef = artifactRef ∧ value.capability.actionRef = actionRef := by
  obtain ⟨actions, action, hactions, hin, hid, hraises⟩ := hauthored.action
  unfold checkDocument at h
  split at h
  · cases h
  simp only [hauthored.versioned, hauthored.targeted, Bool.not_true, Bool.or_self,
    Bool.false_eq_true, if_false, hactions] at h
  have hchecked := checkAll_ok.mp h action hin
  unfold checkAction at hchecked
  split at hchecked
  · cases hchecked
  rw [hraises] at hchecked
  simp only [isText_some hid, failIf_ok, Bool.not_eq_false', hauthored.free, Bool.false_or] at hchecked
  obtain ⟨value, hvalue, hnames⟩ := List.any_eq_true.mp hchecked
  obtain ⟨hartifact, haction⟩ := Bool.and_eq_true_iff.mp hnames
  exact ⟨value, hvalue, beq_iff_eq.mp hartifact, beq_iff_eq.mp haction⟩

theorem admitNativeHostEvents_ok (h : admitNativeHostEvents format input = .ok admitted) :
    Admits format input admitted := by
  unfold admitNativeHostEvents at h
  obtain ⟨found, hfound, h⟩ := sequence_ok.mp h
  obtain ⟨hkeys, h⟩ := failIf_bind_ok.mp h
  obtain ⟨hdocuments, h⟩ := then_ok.mp h
  cases h
  obtain ⟨hcapabilities, hadmits⟩ := admit_mapM (mapM_ok.mp hfound)
  exact {
    capabilities := hcapabilities
    keys := by simpa using hkeys
    document := fun value hvalue => (admit_ok (hadmits value hvalue)).2.1
    authored := by
      intro value hvalue hversioned
      obtain ⟨-, hlookup, htargets, hdeclares, hfree⟩ := admit_ok (hadmits value hvalue)
      exact ⟨mem_of_lookup hlookup, hversioned, htargets, declaresEvent_authored hdeclares, hfree⟩
    covered := fun artifactRef document actionRef hauthored =>
      checkDocument_ok (checkAll_ok.mp hdocuments _ hauthored.listed) hauthored }

/-! ## Routing -/

theorem capabilityKey_eq {first second : HostEventCapability}
    (hartifact : first.artifactRef = second.artifactRef) (haction : first.actionRef = second.actionRef) :
    capabilityKey first = capabilityKey second := by
  rw [capabilityKey, capabilityKey, hartifact, haction]

theorem Admits.eq_of_names (h : Admits format input admitted) {value other : Admitted ν}
    (hvalue : value ∈ admitted) (hother : other ∈ admitted)
    (hartifact : value.capability.artifactRef = other.capability.artifactRef)
    (haction : value.capability.actionRef = other.capability.actionRef) : value = other :=
  List.inj_on_of_nodup_map h.keys hvalue hother (capabilityKey_eq hartifact haction)

theorem filter_eq_singleton {α : Type} {p : α → Bool} {entries : List α} {entry : α}
    (hnodup : entries.Nodup) (hmem : entry ∈ entries)
    (hp : ∀ other ∈ entries, p other = true ↔ other = entry) : entries.filter p = [entry] := by
  have hperm : (entries.filter p).Perm [entry] := by
    rw [List.perm_ext_iff_of_nodup (hnodup.filter p) (List.nodup_singleton entry)]
    intro other
    rw [List.mem_filter, List.mem_singleton]
    constructor
    · rintro ⟨hin, htrue⟩
      exact (hp other hin).mp htrue
    · rintro rfl
      exact ⟨hmem, (hp other hmem).mpr rfl⟩
  exact List.perm_singleton.mp hperm

theorem Admits.declared (h : Admits format input admitted) {value : Admitted ν}
    (hvalue : value ∈ admitted) :
    input.capabilities.filter (fun other => other.artifactRef == value.capability.artifactRef
      && other.actionRef == value.capability.actionRef) = [value.capability] := by
  have hkeys : (input.capabilities.map capabilityKey).Nodup := by
    rw [← h.capabilities, List.map_map]
    exact h.keys
  have hmem : value.capability ∈ input.capabilities := by
    rw [← h.capabilities]
    exact List.mem_map_of_mem hvalue
  refine filter_eq_singleton (List.Nodup.of_map _ hkeys) hmem fun other hother => ?_
  rw [Bool.and_eq_true, beq_iff_eq, beq_iff_eq]
  constructor
  · rintro ⟨hartifact, haction⟩
    exact List.inj_on_of_nodup_map hkeys hother hmem (capabilityKey_eq hartifact haction)
  · rintro rfl
    exact ⟨rfl, rfl⟩

theorem Admits.unambiguous_iff (h : Admits format input admitted) :
    Unambiguous format input ↔ admitted.Pairwise fun first second =>
      first.capability.actionRef = second.capability.actionRef →
        isVersioned second.document = true →
        print format first.document ≠ print format second.document := by
  unfold Unambiguous
  rw [← h.capabilities, List.pairwise_map]
  apply List.Pairwise.iff_of_mem
  intro first second hfirst hsecond
  rw [h.document first hfirst, h.document second hsecond, Option.map_some]
  constructor
  · intro hpair haction hversioned heq
    exact hpair haction second.document rfl hversioned (congrArg some heq)
  · intro hpair haction document hdocument hversioned heq
    cases hdocument
    exact hpair haction hversioned (Option.some.inj heq)

theorem find?_each_iff {α : Type} {r : α → α → Bool} {wanted : α → Prop} {entries : List α}
    (hrefl : ∀ entry, r entry entry = true) (hnodup : entries.Nodup) :
    (∀ entry ∈ entries, wanted entry → entries.find? (r · entry) = some entry)
      ↔ entries.Pairwise fun first second => wanted second → r first second = false := by
  induction entries with
  | nil => simp
  | cons first entries ih =>
    obtain ⟨hfirst, hrest⟩ := List.nodup_cons.mp hnodup
    rw [List.pairwise_cons, ← ih hrest]
    constructor
    · intro h
      have hapart : ∀ entry ∈ entries, wanted entry → r first entry = false := by
        intro entry hentry hwanted
        by_contra hmatch
        have hfind := h entry (List.mem_cons_of_mem _ hentry) hwanted
        rw [List.find?_cons_of_pos (by simpa using hmatch)] at hfind
        exact hfirst (Option.some.inj hfind ▸ hentry)
      refine ⟨hapart, fun entry hentry hwanted => ?_⟩
      have hfind := h entry (List.mem_cons_of_mem _ hentry) hwanted
      rwa [List.find?_cons_of_neg (by simp [hapart entry hentry hwanted])] at hfind
    · rintro ⟨hapart, h⟩ entry hentry hwanted
      rcases List.mem_cons.mp hentry with rfl | hin
      · exact List.find?_cons_of_pos (hrefl entry)
      · rw [List.find?_cons_of_neg (by simp [hapart entry hin hwanted])]
        exact h entry hin hwanted

def answers (format : NumberFormat ν) (first second : Admitted ν) : Bool :=
  first.capability.actionRef == second.capability.actionRef
    && print format first.document == print format second.document

theorem Admits.handled_iff (h : Admits format input admitted) :
    (∀ artifactRef document actionRef, Authored format input artifactRef document actionRef →
        Handled format input admitted artifactRef document actionRef)
      ↔ ∀ value ∈ admitted, isVersioned value.document = true →
        admitted.find? (answers format · value) = some value := by
  constructor
  · intro hall value hvalue hversioned
    obtain ⟨capability, hdeclared, hselected⟩ := hall _ _ _ (h.authored value hvalue hversioned)
    rw [h.declared hvalue, List.cons.injEq] at hdeclared
    obtain ⟨other, hfound, hcapability⟩ := Option.map_eq_some_iff.mp hselected
    have hother : other ∈ admitted := List.mem_of_find?_eq_some hfound
    have heq : other = value := by
      apply h.eq_of_names hother hvalue <;> rw [hcapability, ← hdeclared.1]
    exact heq ▸ hfound
  · intro hall artifactRef document actionRef hauthored
    obtain ⟨value, hvalue, rfl, rfl⟩ := h.covered _ _ _ hauthored
    have hdocument : value.document = document := by
      have hlookup := lookup_of_mem input.distinct hauthored.listed
      exact Option.some.inj ((h.document value hvalue).symm.trans hlookup)
    subst hdocument
    refine ⟨value.capability, h.declared hvalue, ?_⟩
    change (admitted.find? (answers format · value)).map _ = _
    rw [hall value hvalue hauthored.versioned]
    rfl

theorem Admits.routed_iff (h : Admits format input admitted) :
    (∀ artifactRef document actionRef, Authored format input artifactRef document actionRef →
        Handled format input admitted artifactRef document actionRef)
      ↔ Unambiguous format input := by
  have hanswers : ∀ value, answers format value value = true := by simp [answers]
  rw [h.handled_iff, h.unambiguous_iff, find?_each_iff hanswers (List.Nodup.of_map _ h.keys)]
  apply List.Pairwise.iff
  intro first second
  simp only [answers, Bool.and_eq_false_iff, beq_eq_false_iff_ne]
  constructor
  · intro hpair haction hversioned
    exact (hpair hversioned).resolve_left fun hne => hne haction
  · intro hpair hversioned
    by_cases haction : first.capability.actionRef = second.capability.actionRef
    · exact Or.inr (hpair haction hversioned)
    · exact Or.inl haction

/-! ## Runs of an invocation -/

namespace Invocation

/-- What an invocation keeps: the handler is called once at most, and the engine has dispatched the
declared event only. -/
structure Keeps (s : Invocation) : Prop where
  dispatched : ∀ eventName ∈ s.calls, eventName = s.selected.eventName
  handled : s.handled = [] ∨ s.handled = [s.selected]
  unhandled : s.stage = .entering ∨ s.stage = .engine → s.handled = []

/-- What a step that calls a handler meets, and whose handler it calls. -/
structure Calls (s : Invocation) (event : InvocationEvent) (t : Invocation) : Prop where
  completed : event = .engine (some (units "completed"))
  dispatched : s.calls = [s.selected.eventName]
  alive : s.aborted = false
  current : s.current = true
  handled : s.handled = [] ∧ t.handled = [s.selected]

variable {s t : Invocation} {event : InvocationEvent}

theorem Keeps.retire {stage : InvocationStage} (h : s.Keeps) (hstage : stage = .failed ∨ stage = .returned) :
    (s.retire stage).Keeps where
  __ := h
  unhandled := by
    rintro (heq | heq)
    · change stage = .entering at heq
      rcases hstage with rfl | rfl <;> cases heq
    · change stage = .engine at heq
      rcases hstage with rfl | rfl <;> cases heq

theorem Keeps.onEngine (status : Option Text) (h : s.Keeps) (hstage : s.stage = .engine) :
    (s.onEngine status).Keeps
      ∧ ((s.onEngine status).handled = s.handled ∨ s.Calls (.engine status) (s.onEngine status)) := by
  unfold Invocation.onEngine
  split
  · exact ⟨h.retire (Or.inl rfl), Or.inl rfl⟩
  split
  · exact ⟨h.retire (Or.inl rfl), Or.inl rfl⟩
  next hasserts =>
  split
  · exact ⟨h.retire (Or.inr rfl), Or.inl rfl⟩
  next hstatus =>
  split
  · exact ⟨h.retire (Or.inl rfl), Or.inl rfl⟩
  next hlength =>
  have hnone := h.unhandled (Or.inr hstage)
  simp only [asserts, Bool.not_eq_true', Bool.not_eq_false, Bool.and_eq_true] at hasserts
  simp only [bne_iff_ne, ne_eq, Decidable.not_not] at hstatus hlength
  have hcalls : s.calls = [s.selected.eventName] := by
    obtain ⟨eventName, heq⟩ := List.length_eq_one_iff.mp hlength
    rw [heq, h.dispatched eventName (by rw [heq]; exact List.mem_singleton_self _)]
  refine ⟨⟨h.dispatched, Or.inr ?_, ?_⟩, Or.inr ⟨?_, hcalls, hasserts.1, hasserts.2, hnone, ?_⟩⟩
  · simp [hnone]
  · rintro (heq | heq) <;> cases heq
  · rw [hstatus]
  · simp [hnone]

theorem Keeps.step (h : s.Keeps) (hstep : s.step event = some t) :
    t.Keeps ∧ t.selected = s.selected ∧ (t.handled = s.handled ∨ s.Calls event t) := by
  cases event with
  | abort =>
    cases hstep
    exact ⟨⟨h.dispatched, h.handled, h.unhandled⟩, rfl, Or.inl rfl⟩
  | owner current =>
    cases hstep
    exact ⟨⟨h.dispatched, h.handled, h.unhandled⟩, rfl, Or.inl rfl⟩
  | enter =>
    obtain ⟨hstage, hstep⟩ := Option.ite_none_right_eq_some.mp hstep
    cases hstep
    split
    · exact ⟨⟨h.dispatched, h.handled, fun _ => h.unhandled (Or.inl hstage)⟩, rfl, Or.inl rfl⟩
    · exact ⟨h.retire (Or.inl rfl), rfl, Or.inl rfl⟩
  | dispatch eventName =>
    obtain ⟨-, hstep⟩ := Option.ite_none_left_eq_some.mp hstep
    split at hstep
    · next hasserts =>
      cases hstep
      obtain ⟨-, hname⟩ := Bool.and_eq_true_iff.mp hasserts
      refine ⟨⟨?_, h.handled, h.unhandled⟩, rfl, Or.inl rfl⟩
      intro other hother
      rcases List.mem_append.mp hother with hold | hnew
      · exact h.dispatched other hold
      · rw [List.mem_singleton.mp hnew]
        exact beq_iff_eq.mp hname
    · cases hstep
      exact ⟨h, rfl, Or.inl rfl⟩
  | engine status =>
    obtain ⟨hstage, hstep⟩ := Option.ite_none_right_eq_some.mp hstep
    cases hstep
    obtain ⟨hkeeps, hcalls⟩ := h.onEngine status hstage
    refine ⟨hkeeps, ?_, hcalls⟩
    unfold Invocation.onEngine Invocation.retire
    split
    · rfl
    split
    · rfl
    split
    · rfl
    · split <;> rfl
  | refresh =>
    obtain ⟨-, hstep⟩ := Option.ite_none_left_eq_some.mp hstep
    split at hstep
    · cases hstep
      exact ⟨⟨h.dispatched, h.handled, h.unhandled⟩, rfl, Or.inl rfl⟩
    · cases hstep
      exact ⟨h, rfl, Or.inl rfl⟩
  | handler succeeded =>
    obtain ⟨-, hstep⟩ := Option.ite_none_right_eq_some.mp hstep
    cases hstep
    split
    · exact ⟨⟨h.dispatched, h.handled, by rintro (heq | heq) <;> cases heq⟩, rfl, Or.inl rfl⟩
    · exact ⟨h.retire (Or.inl rfl), rfl, Or.inl rfl⟩
  | refreshed succeeded =>
    obtain ⟨-, hstep⟩ := Option.ite_none_right_eq_some.mp hstep
    cases hstep
    split
    · exact ⟨⟨h.dispatched, h.handled, by rintro (heq | heq) <;> cases heq⟩, rfl, Or.inl rfl⟩
    · exact ⟨h.retire (Or.inl rfl), rfl, Or.inl rfl⟩

theorem opened_keeps (selected : HostEventCapability) (aborted current : Bool) :
    (opened selected aborted current).Keeps where
  dispatched := nofun
  handled := Or.inl rfl
  unhandled := fun _ => rfl

/-- In a run, the handler is called once at most; the step that calls it finds the action completed
with one dispatch, the signal alive and the owner current. -/
def Fenced (selected : HostEventCapability) (s : Invocation) : Prop :=
  (s.handled = [] ∨ s.handled = [selected])
    ∧ ∀ event t, s.step event = some t → t.handled = s.handled ∨ s.Calls event t

theorem run_fenced {selected : HostEventCapability} {aborted current : Bool}
    {events : List InvocationEvent} (hrun : events.foldlM step (opened selected aborted current) = some s) :
    s.Fenced selected := by
  have hkeeps : s.Keeps ∧ s.selected = selected :=
    foldlM_invariant (J := fun s => s.Keeps ∧ s.selected = selected)
      (fun _ _ _ h hstep => ⟨(h.1.step hstep).1, (h.1.step hstep).2.1.trans h.2⟩)
      ⟨opened_keeps selected aborted current, rfl⟩ hrun
  exact ⟨hkeeps.2 ▸ hkeeps.1.handled, fun event t hstep => (hkeeps.1.step hstep).2.2⟩

end Invocation

/-- Every authored action that is not the controller's is handled by the one capability of its artifact
exactly where no capability follows one of the same action and the same document text; and in every
run of an invocation the handler is called once at most, on a completed action with one dispatch of
the declared event, while the signal is alive and the owner is current. -/
theorem hostEvents_routed_iff (hadmitted : admitNativeHostEvents format input = .ok admitted) :
    ((∀ artifactRef document actionRef, Authored format input artifactRef document actionRef →
        Handled format input admitted artifactRef document actionRef)
      ↔ Unambiguous format input)
    ∧ ∀ document actionRef value, select format admitted document actionRef = some value →
      ∀ aborted current events s, List.foldlM Invocation.step
          (Invocation.opened value.capability aborted current) events = some s →
        s.Fenced value.capability :=
  ⟨(admitNativeHostEvents_ok hadmitted).routed_iff,
    fun _ _ _ _ _ _ _ _ hrun => Invocation.run_fenced hrun⟩

def noNumbers : NumberFormat Empty where
  print n := n.elim
  read _ := none
  reread n := n
  print_units n := n.elim
  print_ne n := n.elim
  read_print n := n.elim

def text (value : String) : Json Empty := .string (units value)

def savedDocument : Json Empty :=
  .object [(units "$formspecResponseActions", text "1.0"), (units "scope", text "response"),
    (units "targetDefinition", .object [(units "url", text "urn:form")]),
    (units "actions", .array [.object [(units "id", text "refresh"),
      (units "effects", .array [.object [(units "type", text "hostEvent"),
        (units "eventName", text "saved")]])]])]

def savedCapability (artifactRef : String) : HostEventCapability :=
  ⟨units artifactRef, units "refresh", units "saved", true⟩

def savedInput : HostEventsInput Empty where
  documents := [(units "urn:a", savedDocument), (units "urn:b", savedDocument)]
  distinct := by decide
  definitionUrl := units "urn:form"
  controllerActions := []
  capabilities := [savedCapability "urn:a", savedCapability "urn:b"]

def savedAdmitted : List (Admitted Empty) :=
  [⟨savedCapability "urn:a", savedDocument⟩, ⟨savedCapability "urn:b", savedDocument⟩]

theorem saved_admitted : admitNativeHostEvents noNumbers savedInput = .ok savedAdmitted := by
  rfl

theorem saved_authored :
    Authored noNumbers savedInput (units "urn:b") savedDocument (units "refresh") where
  listed := List.mem_cons_of_mem _ (List.mem_singleton_self _)
  versioned := by decide
  targeted := by decide
  action := ⟨_, _, rfl, List.mem_singleton_self _, by decide, by decide⟩
  free := by decide

theorem saved_selected : (select noNumbers savedAdmitted savedDocument (units "refresh")).map
    (·.capability) = some (savedCapability "urn:a") := by
  rfl

theorem saved_unhandled :
    ¬Handled noNumbers savedInput savedAdmitted (units "urn:b") savedDocument (units "refresh") := by
  rintro ⟨capability, hdeclared, hhandled⟩
  have heq : capability = savedCapability "urn:a" :=
    (Option.some.inj (saved_selected.symm.trans hhandled)).symm
  rw [heq] at hdeclared
  revert hdeclared
  decide

/-- The action of the second artifact is handled by the capability of the first. -/
theorem hostEvents_misrouted : admitNativeHostEvents noNumbers savedInput = .ok savedAdmitted
    ∧ Authored noNumbers savedInput (units "urn:b") savedDocument (units "refresh")
    ∧ (select noNumbers savedAdmitted savedDocument (units "refresh")).map (·.capability)
      = some (savedCapability "urn:a")
    ∧ ¬Handled noNumbers savedInput savedAdmitted (units "urn:b") savedDocument (units "refresh") :=
  ⟨saved_admitted, saved_authored, saved_selected, saved_unhandled⟩

theorem hostEvents_routed_iff_saved : ¬Unambiguous noNumbers savedInput :=
  fun h => saved_unhandled (((hostEvents_routed_iff saved_admitted).1.mpr h) _ _ _ saved_authored)

end FormspecWeb.Host.HostEvents
