import FormspecWeb.Controller.Runs

/-!
# Evidence

What the published slots hold has passed its evidence check, and an operation
whose check failed wrote no slot. The early start stores its checkpoint before
checking it, so this holds of the runs in which nothing but the checkpoint's own
check meets it unchecked, and of no others in general.
-/

namespace FormspecWeb.Controller

open Shared Ports Engine Async

variable {config : ResponseActionControllerConfig} {F : Schedule} {t : Nat} {s s' : State config}
  {es : List (Entry config)}

def Passed (es : List (Entry config)) (draft : SavedResponseDraft) : Prop :=
  ∃ t evidence, Entry.passed t evidence ∈ es ∧ evidence.result = draft
    ∧ Against t es evidence.result evidence.expected

theorem Passed.mono {es es' : List (Entry config)} {draft : SavedResponseDraft} (h : Passed es draft)
    (hes : ∀ e ∈ es, e ∈ es') : Passed es' draft := by
  obtain ⟨t, evidence, hmem, hresult, hagainst⟩ := h
  exact ⟨t, evidence, hes _ hmem, hresult, hagainst.mono hes⟩

structure SlotsPassed (es : List (Entry config)) (slots : Slots) : Prop where
  saved : ∀ draft, slots.saved = some draft → Passed es draft
  prepared : ∀ preparation, slots.prepared = some preparation →
    Passed es preparation.toSavedResponseDraft
  signed : ∀ signature, slots.signed = some signature → Passed es signature.toSavedResponseDraft

def Snapshot.slots (snapshot : Snapshot) : Slots :=
  ⟨snapshot.saved, snapshot.prepared, snapshot.signed⟩

/-- A publication shows only what passed, and an operation that fails a check
writes no slot before or after. -/
def KeepsEvidence : Entry config → List (Entry config) → Prop
  | .published snapshot, older => SlotsPassed older snapshot.slots
  | .failedEvidence t, older => storedSinceOpening t older = false
  | .stored t _, older | .unchecked t _, older => failedSinceOpening t older = false
  | _, _ => True

/-- The log records every write of the slots, and every entry keeps the evidence. -/
structure EvidenceInvariant (s : State config) : Prop where
  recorded : s.slots = slotsOf s.log
  kept : Throughout KeepsEvidence s.log

/-- The schedule of the runs in which a checkpoint meets its own check first. -/
def Schedule.checkingFirst : Schedule := { Schedule.any with checkpointsChecked := true }

/-! ## The invariant of those runs -/

/-- What the slots hold passed, but for a checkpoint that is still unchecked. -/
structure EvidenceState (s : State config) : Prop where
  kept : Throughout KeepsEvidence s.log
  against : ∀ t evidence, Entry.passed t evidence ∈ s.log →
    Against t s.log evidence.result evidence.expected
  saved : uncheckedBy s.log = none → ∀ draft, s.saved = some draft → Passed s.log draft
  prepared : ∀ preparation, s.prepared = some preparation →
    Passed s.log preparation.toSavedResponseDraft
  signed : ∀ signature, s.signed = some signature → Passed s.log signature.toSavedResponseDraft

namespace EvidenceState

section

variable (h : EvidenceState s)
include h

theorem passed {draft : SavedResponseDraft} (hpassed : HasPassed t s.log draft) :
    Passed s.log draft := by
  obtain ⟨evidence, hmem, hresult⟩ := hpassed
  exact ⟨t, evidence, hmem, hresult, h.against t evidence hmem⟩

theorem of_slots (hslots : s'.slots = s.slots)
    (hlog : s'.log = s.log ∨ ∃ e, s'.log = e :: s.log ∧ KeepsEvidence e s.log
      ∧ uncheckedBy (e :: s.log) = uncheckedBy s.log ∧ ∀ t evidence, e ≠ .passed t evidence) :
    EvidenceState s' := by
  have hsaved : s'.saved = s.saved := congrArg Slots.saved hslots
  have hprepared : s'.prepared = s.prepared := congrArg Slots.prepared hslots
  have hsigned : s'.signed = s.signed := congrArg Slots.signed hslots
  rcases hlog with hlog | ⟨e, hlog, he, hunchecked, hother⟩
  · constructor
    · exact hlog ▸ h.kept
    · exact hlog ▸ h.against
    · rw [hlog, hsaved]
      exact h.saved
    · rw [hlog, hprepared]
      exact h.prepared
    · rw [hlog, hsigned]
      exact h.signed
  · have hmono : ∀ old ∈ s.log, old ∈ s'.log := fun old hold => hlog ▸ List.mem_cons_of_mem e hold
    constructor
    · rw [hlog]
      exact throughout_cons.mpr ⟨he, h.kept⟩
    · intro u evidence hmem
      rw [hlog] at hmem
      rcases List.mem_cons.mp hmem with heq | hmem
      · exact absurd heq.symm (hother u evidence)
      · exact (h.against u evidence hmem).mono hmono
    · intro hnone draft hdraft
      exact (h.saved (by rw [← hunchecked, ← hlog]; exact hnone) draft (hsaved ▸ hdraft)).mono hmono
    · exact fun preparation hp => (h.prepared preparation (hprepared ▸ hp)).mono hmono
    · exact fun signature hs => (h.signed signature (hsigned ▸ hs)).mono hmono

theorem slots (hunchecked : uncheckedBy s.log = none) :
    SlotsPassed s.log s.slots :=
  ⟨h.saved hunchecked, h.prepared, h.signed⟩

theorem mark {e : Entry config} (hF : F.checkpointsChecked = true)
    (he : Marks F t s e) : EvidenceState (s.note e) := by
  have hmono : ∀ old ∈ s.log, old ∈ (s.note e).log := fun _ => List.mem_cons_of_mem e
  cases he with
  | passed evidence hagainst hwindow =>
    have hnew : Passed (s.note (.passed t evidence)).log evidence.result :=
      ⟨t, evidence, List.mem_cons_self, rfl, hagainst.mono hmono⟩
    constructor
    · exact throughout_cons.mpr ⟨trivial, h.kept⟩
    · intro u other hmem
      rcases List.mem_cons.mp hmem with heq | hmem
      · cases heq
        exact hagainst.mono hmono
      · exact (h.against u other hmem).mono hmono
    · intro hnone draft hdraft
      have hnone : (if uncheckedBy s.log = some t then none else uncheckedBy s.log) = none := hnone
      split at hnone
      · rename_i hunchecked
        have hsaved := hwindow hF hunchecked
        rw [show (s.note (.passed t evidence)).saved = s.saved from rfl, hsaved] at hdraft
        cases hdraft
        exact hnew
      · exact (h.saved hnone draft hdraft).mono hmono
    · exact fun preparation hp => (h.prepared preparation hp).mono hmono
    · exact fun signature hs => (h.signed signature hs).mono hmono
  | failedEvidence hclean =>
    exact h.of_slots rfl (.inr ⟨_, rfl, hclean hF, rfl, fun _ _ heq => by cases heq⟩)
  | _ => exact h.of_slots rfl (.inr ⟨_, rfl, trivial, rfl, fun _ _ heq => by cases heq⟩)

theorem store (hstore : Stores F t s s') : EvidenceState s' := by
  have hmono : ∀ old ∈ s.log, old ∈ s'.log := fun _ hold =>
    hstore.log ▸ List.mem_cons_of_mem _ hold
  constructor
  · rw [hstore.log]
    exact throughout_cons.mpr ⟨hstore.clean, h.kept⟩
  · intro u evidence hmem
    rw [hstore.log] at hmem
    rcases List.mem_cons.mp hmem with heq | hmem
    · cases heq
    · exact (h.against u evidence hmem).mono hmono
  · intro _ draft hdraft
    obtain ⟨stored, hstored, hpassed, -⟩ := hstore.saved
    obtain rfl := Option.some.inj (hstored.symm.trans hdraft)
    exact (h.passed hpassed).mono hmono
  · intro preparation hp
    rcases hstore.prepared with hsame | hnone | ⟨stored, hstored, hpassed⟩
    · exact (h.prepared preparation (hsame ▸ hp)).mono hmono
    · rw [hnone] at hp
      cases hp
    · obtain rfl := Option.some.inj (hstored.symm.trans hp)
      exact (h.passed hpassed).mono hmono
  · intro signature hs
    rcases hstore.signed with hsame | ⟨stored, hstored, hpassed⟩
    · exact (h.signed signature (hsame ▸ hs)).mono hmono
    · obtain rfl := Option.some.inj (hstored.symm.trans hs)
      exact (h.passed hpassed).mono hmono

theorem storeUnchecked {draft : SavedResponseDraft}
    (hclean : failedSinceOpening t s.log = false) : EvidenceState (s.storeUnchecked t draft) := by
  have hmono : ∀ old ∈ s.log, old ∈ (s.storeUnchecked t draft).log := fun _ =>
    List.mem_cons_of_mem _
  constructor
  · exact throughout_cons.mpr ⟨hclean, h.kept⟩
  · intro u evidence hmem
    rcases List.mem_cons.mp hmem with heq | hmem
    · cases heq
    · exact (h.against u evidence hmem).mono hmono
  · intro hnone
    cases hnone
  · exact fun preparation hp => (h.prepared preparation hp).mono hmono
  · exact fun signature hs => (h.signed signature hs).mono hmono

theorem invalidate : EvidenceState s.invalidate := by
  constructor
  · exact throughout_cons.mpr ⟨trivial, h.kept⟩
  · intro u evidence hmem
    rcases List.mem_cons.mp hmem with heq | hmem
    · cases heq
    · exact (h.against u evidence hmem).mono fun _ => List.mem_cons_of_mem _
  · exact fun _ _ hd => by cases hd
  · exact fun _ hp => by cases hp
  · exact fun _ hs => by cases hs

end

theorem move (hF : F.checkpointsChecked = true) (hmove : Move F t s s') (h : EvidenceState s) :
    EvidenceState s' := by
  cases hmove with
  | quiet _ hlog hslots => exact h.of_slots hslots (.inl hlog)
  | learn _ _ hlog hslots => exact h.of_slots hslots (.inl hlog)
  | publish phase reason hclear =>
    exact h.of_slots rfl (.inr ⟨_, rfl, h.slots (clear_none hclear hF), rfl,
      fun _ _ heq => by cases heq⟩)
  | mark e he => exact h.mark hF he
  | admitCall => exact h.of_slots rfl (.inr ⟨_, rfl, trivial, rfl, fun _ _ heq => by cases heq⟩)
  | hold => exact h.of_slots rfl (.inr ⟨_, rfl, trivial, rfl, fun _ _ heq => by cases heq⟩)
  | unhold => exact h.of_slots rfl (.inr ⟨_, rfl, trivial, rfl, fun _ _ heq => by cases heq⟩)
  | release => exact h.of_slots rfl (.inr ⟨_, rfl, trivial, rfl, fun _ _ heq => by cases heq⟩)
  | accept => exact h.of_slots rfl (.inr ⟨_, rfl, trivial, rfl, fun _ _ heq => by cases heq⟩)
  | store hstore => exact h.store hstore
  | storeUnchecked draft _ _ hclean _ => exact h.storeUnchecked hclean
  | settle => exact h.of_slots rfl (.inl rfl)
  | update => exact h.of_slots rfl (.inl rfl)
  | keep => exact h.of_slots rfl (.inl rfl)
  | invalidate => exact h.invalidate

end EvidenceState

theorem evidence_initial : EvidenceState (State.initial config) where
  kept := throughout_nil
  against _ _ h := by cases h
  saved _ _ h := by cases h
  prepared _ h := by cases h
  signed _ h := by cases h

/-- In every run in which checkpoints meet their own check first, every published
slot passed its evidence check and failed checks leave the slots alone. -/
theorem evidence_of_run {es : List (Event Callbacks Begin Answer)}
    {p : Pool (State config) Callbacks Failure Reply}
    (hrun : Schedule.checkingFirst.Run config es p) : EvidenceInvariant p.state where
  recorded := (hrun.keeps (J := Wellformed Schedule.checkingFirst)
    (fun _ _ _ _ hmove hw => hmove.wellformed hw) wellformed_initial).slots
  kept := (hrun.keeps (fun _ _ _ _ hmove h => EvidenceState.move rfl hmove h) evidence_initial).kept

/-! ## An early start -/

def sampleHash : String := "aaaaaaaaaaaaaaaaaaaaaaaaaaaaaaaaaaaaaaaaaaaaaaaaaaaaaaaaaaaaaaaa"

def sampleDocument : ResponseActionsDocument :=
  let action (id intent profile blocking persistence : String) : ResponseAction :=
    { id := id, intent := intent
      validation := some (some ⟨some profile, some blocking, some persistence⟩)
      preconditions := [], effects := some [.serviceRequest "r" "@invocation.id" none]
      onFailure := none }
  { scope := none
    targetDefinitionUrl := some "urn:form"
    actions :=
      [action "save" "save-draft" "off" "non-blocking" "draft-checkpoint",
        action "start" "x-start-application" "off" "non-blocking" "none",
        action "prepare" "review" "on-submit" "non-blocking" "none",
        action "sign" "x-sign" "off" "non-blocking" "none",
        action "submit" "submit" "on-submit" "block-on-error" "complete-response"]
    runtimeRequests := some [⟨"r", ⟨"{}"⟩, some [200], []⟩] }

def sampleRole (actionRef : String) : QualifiedResponseActionRole :=
  { document := sampleDocument, artifactRef := "urn:artifact", artifactDigest := "sha256:1"
    actionRef := actionRef, requestRef := some "r", widgetSource := some ⟨"widget"⟩
    responseSource := some ⟨"response", "catalog", "source"⟩ }

def sampleConfig : ResponseActionControllerConfig where
  applicationLifecycle := some ⟨true, true, "fv1"⟩
  restoredApplication := none
  restoredApplicationLookup := none
  context :=
    { definition := ⟨"urn:form", "1.0.0", ⟨"{}"⟩⟩
      draftKey := ⟨"urn:form", some "1.0.0", none, none⟩
      formId := "f1", formVersionId := "fv1", responseId := "r1", generation := "g1"
      expectedActor := none }
  roles := fun
    | .startApplication => some (sampleRole "start")
    | .saveInitial => some (sampleRole "save")
    | .prepare => some (sampleRole "prepare")
    | .sign => some (sampleRole "sign")
    | .submit => some (sampleRole "submit")
    | _ => none
  restoredResponse := none
  completion := some ⟨.intake, fun _ => .ok ()⟩
  reconcileSignRetries := true
  restoresPending := true
  planServiceRequest := fun _ input =>
    some ⟨"POST", "/drafts/" ++ encodeURIComponent (input.draftId.getD "") ++ "/sign"⟩

def sampleResponse : FormResponse :=
  { id := some "r1", definitionUrl := "urn:form", definitionVersion := "1.0.0"
    status := "completed", data := ⟨"{}"⟩, displayedLocale := none, authoredSignatures := none
    extensions := none, rest := ⟨"{}"⟩ }

def sampleDraft (version : Int) : SavedResponseDraft :=
  { draftKey := sampleConfig.context.draftKey, response := sampleResponse
    draft := ⟨"d1", version, sampleHash⟩, actor := "a1"
    evidence := ⟨"d1", "fv1", "a1", version, ⟨"{}"⟩, sampleResponse, "in_progress", none⟩ }

def sampleCallbacks : Callbacks where
  signingContext := .ok ⟨⟨"src"⟩, "en"⟩
  reviewReady := .ok true
  generatedKey := "01890a5d-ac96-774b-bcce-b302099a8057"

/-- An early start up to the check of the checkpoint a port returned for it. -/
def earlyStart (checkpoint : SavedResponseDraft) : List (Event Callbacks Begin Answer) :=
  [.begin (.definition ⟨sampleDocument, "start", ⟨"null"⟩, some "start-1", .dispatch sampleResponse⟩)
      sampleCallbacks,
    .resume 0 (.valid (.ok true)) sampleCallbacks,
    .resume 0 (.hash (.ok sampleHash)) sampleCallbacks,
    .resume 0 (.saved (.ok checkpoint)) sampleCallbacks,
    .resume 0 (.evidence ⟨.ok true, .ok sampleHash⟩) sampleCallbacks]

/-- An early start whose checkpoint the port returned for another draft key. -/
def refusedStart : List (Event Callbacks Begin Answer) :=
  earlyStart { sampleDraft 1 with draftKey := ⟨"urn:other", none, none, none⟩ } ++
    [.resume 0 .done sampleCallbacks, .resume 0 .done sampleCallbacks]

def receivedStart : List (Event Callbacks Begin Answer) :=
  earlyStart (sampleDraft 1) ++
    [.resume 0 .done sampleCallbacks,
      .resume 0 (.receipt (.ok ⟨"case-1", "C-1", "urn:formspec:draft:d1", "active"⟩)) sampleCallbacks,
      .resume 0 .done sampleCallbacks, .resume 0 .done sampleCallbacks]

theorem evidence_of_received_start :
    ∃ p, Schedule.checkingFirst.Run sampleConfig receivedStart p ∧ EvidenceInvariant p.state := by
  obtain ⟨p, hp⟩ := Schedule.checkingFirst.exists_run sampleConfig receivedStart (by decide +kernel)
  exact ⟨p, hp, evidence_of_run hp⟩

/-- A saved draft was published although no receipt ever passed its check. -/
def showsUnpassed (es : List (Entry config)) : Bool :=
  es.any (fun | .published snapshot => snapshot.saved.isSome | _ => false)
    && es.all fun | .passed _ _ => false | _ => true

theorem not_evidence_of_showsUnpassed (h : showsUnpassed s.log = true) : ¬ EvidenceInvariant s := by
  intro hinvariant
  simp only [showsUnpassed, Bool.and_eq_true, List.any_eq_true, List.all_eq_true] at h
  obtain ⟨⟨e, hmem, hshown⟩, hnone⟩ := h
  cases e with
  | published snapshot =>
    obtain ⟨newer, older, hlog⟩ := List.append_of_mem hmem
    obtain ⟨draft, hdraft⟩ := Option.isSome_iff_exists.mp hshown
    have hsuffix : .published snapshot :: older <:+ s.log := ⟨newer, hlog.symm⟩
    have hslots : SlotsPassed older snapshot.slots := hinvariant.kept _ _ hsuffix
    obtain ⟨t, evidence, hpassed, -⟩ := hslots.saved draft hdraft
    have hnever := hnone (.passed t evidence) (hlog ▸ by simp [hpassed])
    cases hnever
  | _ => cases hshown

/-- The failed check of an early start's checkpoint leaves the checkpoint in the
slot, and the refusal publishes it. -/
theorem refused_start_shows_unpassed :
    ∃ p, (controller sampleConfig).run (create sampleConfig) refusedStart = some p
      ∧ ¬ EvidenceInvariant p.state := by
  have hshows : ((controller sampleConfig).run (create sampleConfig) refusedStart).any
      (fun p => showsUnpassed p.state.log) = true := by decide +kernel
  obtain ⟨p, hp, hshown⟩ := (Option.any_eq_true _ _).mp hshows
  exact ⟨p, hp, not_evidence_of_showsUnpassed hshown⟩

end FormspecWeb.Controller
