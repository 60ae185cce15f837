import FormspecWeb.MultiParty.Draft
import FormspecWeb.Async.Steps
import Mathlib.Data.Fintype.EquivFin

/-!
# Sessions of a multi-party form

The sessions that load a form and submit signers, over the one progress draft they save to.
A session can go on where some claim passes `assertMultiPartySignerCanSubmit`.
-/

namespace FormspecWeb.MultiParty

open Shared Async

inductive Phase where
  | idle
  | saving (next : MultiPartyPersistedState)
  | submitting

structure Session where
  multiPartyState : MultiPartyPersistedState
  earlier : List MultiPartyPersistedState
  phase : Phase
  accepted : Bool

structure World where
  /-- What `multiPartyProgressDraftKey` holds. -/
  progressDraft : Option Value
  sessions : List Session

def World.initial : World := ⟨none, []⟩

inductive Event where
  | load
  | submit (session render : Nat) (input : SignerInput)
  /-- The save of the progress draft ends: it took effect or not, and resolved or not. -/
  | saved (session : Nat) (now : String) (stored resolved : Bool)
  /-- The final submit ends, from building the handoff to the transport's answer. -/
  | submitted (session : Nat) (accepted : Bool)

def Session.afterSave (policy : ResolvedMultiPartyPolicy) (session : Session)
    (recorded : MultiPartyPersistedState) : Bool → Except Failure Session
  | false => .ok { session with phase := .idle }
  | true => do
      let complete ← multiPartyComplete policy recorded.progress
      return { session with
        multiPartyState := recorded
        earlier := session.multiPartyState :: session.earlier
        phase := if complete then .submitting else .idle }

def World.put (world : World) (index : Nat) (session : Session) : World :=
  { world with sessions := world.sessions.set index session }

/-- One event; one that cannot happen here is refused. The guard on the submit state is left out,
which refuses submissions only. -/
def World.step (policy : ResolvedMultiPartyPolicy) (definition : FormDefinition) (world : World) :
    Event → Option World
  | .load => do
      let state ← (multiPartyStateFromDraft world.progressDraft policy).toOption
      return { world with sessions := world.sessions ++ [⟨state, [], .idle, false⟩] }
  | .submit index render input =>
    match world.sessions[index]? with
    | some ⟨state, earlier, .idle, accepted⟩ => do
        let seen ← (state :: earlier)[render]?
        let recorded ← (recordMultiPartySignerState policy input seen).toOption
        return world.put index ⟨state, earlier, .saving recorded, accepted⟩
    | _ => none
  | .saved index now stored resolved =>
    match world.sessions[index]? with
    | some ⟨state, earlier, .saving recorded, accepted⟩ => do
        let after ← (Session.afterSave policy ⟨state, earlier, .saving recorded, accepted⟩ recorded
          resolved).toOption
        let draft := (multiPartyStateDraftResponse definition now recorded).value
        return { world.put index after with
          progressDraft := if stored then some draft else world.progressDraft }
    | _ => none
  | .submitted index success =>
    match world.sessions[index]? with
    | some ⟨state, earlier, .submitting, accepted⟩ =>
      some (world.put index ⟨state, earlier, .idle, accepted || success⟩)
    | _ => none

variable {policy : ResolvedMultiPartyPolicy} {definition : FormDefinition} {world next : World}

theorem toOption_some {α : Type} {x : Except Failure α} {a : α} (h : x.toOption = some a) :
    x = .ok a := by
  cases x with
  | error e => cases h
  | ok found => exact congrArg _ (Option.some.inj h)

theorem load_ok (h : world.step policy definition .load = some next) :
    ∃ state, multiPartyStateFromDraft world.progressDraft policy = .ok state
      ∧ next = ⟨world.progressDraft, world.sessions ++ [⟨state, [], .idle, false⟩]⟩ := by
  obtain ⟨state, hstate, heq⟩ := Option.bind_eq_some_iff.mp h
  exact ⟨state, toOption_some hstate, (Option.some.inj heq).symm⟩

theorem submit_ok {index render : Nat} {input : SignerInput}
    (h : world.step policy definition (.submit index render input) = some next) :
    ∃ session seen recorded, world.sessions[index]? = some session ∧ session.phase = .idle
      ∧ seen ∈ session.multiPartyState :: session.earlier
      ∧ recordMultiPartySignerState policy input seen = .ok recorded
      ∧ next = world.put index { session with phase := .saving recorded } := by
  simp only [World.step] at h
  split at h
  · rename_i state earlier accepted hsession
    obtain ⟨seen, hseen, h⟩ := Option.bind_eq_some_iff.mp h
    obtain ⟨recorded, hrecorded, heq⟩ := Option.bind_eq_some_iff.mp h
    exact ⟨_, seen, recorded, hsession, rfl, List.mem_of_getElem? hseen, toOption_some hrecorded,
      (Option.some.inj heq).symm⟩
  · cases h

theorem afterSave_ok {session after : Session} {recorded : MultiPartyPersistedState}
    {resolved : Bool} (h : session.afterSave policy recorded resolved = .ok after) :
    after = { session with phase := .idle }
      ∨ ∃ complete, multiPartyComplete policy recorded.progress = .ok complete
        ∧ after = { session with
          multiPartyState := recorded
          earlier := session.multiPartyState :: session.earlier
          phase := if complete then .submitting else .idle } := by
  cases resolved with
  | false => exact .inl (Except.ok.inj h).symm
  | true =>
    obtain ⟨complete, hcomplete, heq⟩ := sequence_ok.mp h
    exact .inr ⟨complete, hcomplete, (Except.ok.inj heq).symm⟩

variable {index : Nat}

theorem saved_ok {now : String} {stored resolved : Bool}
    (h : world.step policy definition (.saved index now stored resolved) = some next) :
    ∃ session recorded after, world.sessions[index]? = some session
      ∧ session.phase = .saving recorded
      ∧ session.afterSave policy recorded resolved = .ok after
      ∧ next = { world.put index after with
        progressDraft := if stored then
            some (multiPartyStateDraftResponse definition now recorded).value
          else world.progressDraft } := by
  simp only [World.step] at h
  split at h
  · rename_i state earlier recorded accepted hsession
    obtain ⟨after, hafter, heq⟩ := Option.bind_eq_some_iff.mp h
    exact ⟨_, recorded, after, hsession, rfl, toOption_some hafter, (Option.some.inj heq).symm⟩
  · cases h

theorem submitted_ok {success : Bool}
    (h : world.step policy definition (.submitted index success) = some next) :
    ∃ session, world.sessions[index]? = some session ∧ session.phase = .submitting
      ∧ next = world.put index
        { session with phase := .idle, accepted := session.accepted || success } := by
  simp only [World.step] at h
  split at h
  · rename_i state earlier accepted hsession
    exact ⟨_, hsession, rfl, (Option.some.inj h).symm⟩
  · cases h

/-! ## What holds in every run -/

structure SessionSound (policy : ResolvedMultiPartyPolicy) (session : Session) : Prop where
  reachable : ∀ state ∈ session.multiPartyState :: session.earlier, ReachableState policy state
  saving : ∀ recorded, session.phase = .saving recorded → ReachableState policy recorded
  submitting : session.phase = .submitting →
    multiPartyComplete policy session.multiPartyState.progress = .ok true

structure WorldSound (policy : ResolvedMultiPartyPolicy) (definition : FormDefinition)
    (world : World) : Prop where
  draft : ∀ draft, world.progressDraft = some draft → ∃ state now, ReachableState policy state
    ∧ draft = (multiPartyStateDraftResponse definition now state).value
  sessions : ∀ session ∈ world.sessions, SessionSound policy session

theorem initial_sound : WorldSound policy definition .initial :=
  ⟨nofun, nofun⟩

variable {state : MultiPartyPersistedState}

theorem restored_reachable (haccepted : Accepted policy) (hsound : WorldSound policy definition world)
    (h : multiPartyStateFromDraft world.progressDraft policy = .ok state) :
    ReachableState policy state := by
  cases hdraft : world.progressDraft with
  | none =>
    rw [hdraft] at h
    exact .start h
  | some draft =>
    obtain ⟨saved, now, hreachable, rfl⟩ := hsound.draft draft hdraft
    obtain ⟨slots, hslots, hstate⟩ := reachableState_sound hreachable
    rw [hdraft, fromDraft_written haccepted.wellFormed hslots hstate] at h
    exact Except.ok.inj h ▸ hreachable

theorem put_sound (hsound : WorldSound policy definition world) {session : Session}
    (h : SessionSound policy session) : WorldSound policy definition (world.put index session) := by
  refine ⟨hsound.draft, fun other hother => ?_⟩
  rcases List.mem_or_eq_of_mem_set hother with hold | rfl
  · exact hsound.sessions other hold
  · exact h

theorem idle_sound {session : Session} (hsound : SessionSound policy session) (accepted : Bool) :
    SessionSound policy { session with phase := .idle, accepted := accepted } :=
  ⟨hsound.reachable, nofun, nofun⟩

theorem afterSave_sound {session after : Session} {recorded : MultiPartyPersistedState}
    {resolved : Bool} (hsound : SessionSound policy session)
    (hrecorded : ReachableState policy recorded)
    (h : session.afterSave policy recorded resolved = .ok after) : SessionSound policy after := by
  rcases afterSave_ok h with rfl | ⟨complete, hcomplete, rfl⟩
  · exact idle_sound hsound session.accepted
  · refine ⟨List.forall_mem_cons.mpr ⟨hrecorded, hsound.reachable⟩, ?_, ?_⟩
    · intro other hother
      cases complete <;> cases hother
    · intro hsubmitting
      cases complete with
      | false => cases hsubmitting
      | true => exact hcomplete

theorem step_sound (haccepted : Accepted policy) (hsound : WorldSound policy definition world)
    {event : Event} (h : world.step policy definition event = some next) :
    WorldSound policy definition next := by
  cases event with
  | load =>
    obtain ⟨state, hstate, rfl⟩ := load_ok h
    refine ⟨hsound.draft, fun session hsession => ?_⟩
    rcases List.mem_append.mp hsession with hold | hnew
    · exact hsound.sessions session hold
    · obtain rfl := List.mem_singleton.mp hnew
      have hreachable := restored_reachable haccepted hsound hstate
      exact ⟨by simpa using hreachable, nofun,
        nofun⟩
  | submit index render input =>
    obtain ⟨session, seen, recorded, hsession, -, hseen, hrecorded, rfl⟩ := submit_ok h
    have hold := hsound.sessions session (List.mem_of_getElem? hsession)
    refine put_sound hsound ⟨hold.reachable, fun other hother => ?_, nofun⟩
    cases hother
    exact .step (hold.reachable seen hseen) hrecorded
  | saved index now stored resolved =>
    obtain ⟨session, recorded, after, hsession, hphase, hafter, rfl⟩ := saved_ok h
    have hold := hsound.sessions session (List.mem_of_getElem? hsession)
    have hrecorded := hold.saving recorded hphase
    have hput : WorldSound policy definition (world.put index after) :=
      put_sound hsound (afterSave_sound hold hrecorded hafter)
    refine ⟨fun draft hdraft => ?_, hput.sessions⟩
    change (if stored then _ else _) = some draft at hdraft
    split at hdraft
    · exact ⟨recorded, now, hrecorded, (Option.some.inj hdraft).symm⟩
    · exact hsound.draft draft hdraft
  | submitted index success =>
    obtain ⟨session, hsession, -, rfl⟩ := submitted_ok h
    have hold := hsound.sessions session (List.mem_of_getElem? hsession)
    exact put_sound hsound (idle_sound hold (session.accepted || success))

/-! ## Dead ends -/

def CanSubmit (policy : ResolvedMultiPartyPolicy) (state : MultiPartyPersistedState) : Prop :=
  ∃ claim slot, assertMultiPartySignerCanSubmit (some claim) policy state.progress = .ok slot

theorem exists_new_subject (subjects : List String) : ∃ subject, subject ∉ subjects := by
  have : Infinite String := Infinite.of_injective (fun n : Nat => toString n) fun _ _ => toString_injective
  obtain ⟨subject, hnew⟩ := Infinite.exists_notMem_finset subjects.toFinset
  exact ⟨subject, fun hmem => hnew (List.mem_toFinset.mpr hmem)⟩

theorem canSubmit_of_unsigned {slots : List MultiPartyPartySlot}
    (hslots : requiredMultiPartySlots policy = .ok slots) (hsound : SoundState slots state)
    (hunsigned : signed state.progress.signatures state.progress.activePartyRef = false) :
    CanSubmit policy state := by
  obtain ⟨subject, hnew⟩ :=
    exists_new_subject (state.progress.signatures.map (·.subjectRef))
  obtain ⟨active, hactive, hparty⟩ := hsound.progress.active
  have hfound : (slots.find? (·.partyRef == state.progress.activePartyRef)).isSome = true :=
    List.find?_isSome.mpr ⟨active, hactive, beq_iff_eq.mpr hparty⟩
  obtain ⟨slot, hslot⟩ := Option.isSome_iff_exists.mp hfound
  refine ⟨⟨subject⟩, slot, assert_ok.mpr ⟨⟨subject⟩, rfl, hunsigned, ?_, slots, hslots, hslot⟩⟩
  intro signature hsignature hsame
  exact absurd (List.mem_map.mpr ⟨signature, hsignature, hsame⟩) hnew

theorem canSubmit_iff (h : ReachableState policy state) :
    CanSubmit policy state ↔ multiPartyComplete policy state.progress = .ok false := by
  obtain ⟨slots, hslots, hsound⟩ := reachableState_sound h
  rw [complete_ok hslots]
  constructor
  · rintro ⟨claim, slot, hassert⟩
    obtain ⟨-, -, hunsigned, -⟩ := assert_ok.mp hassert
    obtain ⟨active, hactive, hparty⟩ := hsound.progress.active
    refine (List.all_eq_false.mpr ⟨active, hactive, ?_⟩).symm
    rw [hparty, hunsigned]
    exact Bool.false_ne_true
  · intro hincomplete
    have hunsigned : signed state.progress.signatures state.progress.activePartyRef = false := by
      refine Bool.eq_false_iff.mpr fun hsigned => ?_
      obtain ⟨slot, hslot, hfalse⟩ := List.all_eq_false.mp hincomplete.symm
      exact hfalse (hsound.progress.waiting hsigned slot hslot)
    exact canSubmit_of_unsigned hslots hsound hunsigned

/-- A session whose aggregate was not accepted, and is not on its way, can go on. -/
def Session.Open (policy : ResolvedMultiPartyPolicy) (session : Session) : Prop :=
  session.accepted = false → session.phase ≠ .submitting → CanSubmit policy session.multiPartyState

def NoDeadEnd (policy : ResolvedMultiPartyPolicy) (world : World) : Prop :=
  ∀ session ∈ world.sessions, session.Open policy

/-- No load meets saved progress that is complete, and no final submit fails in a session whose
aggregate was not accepted before. -/
def Event.Benign (policy : ResolvedMultiPartyPolicy) (world : World) : Event → Prop
  | .load => ∀ state, multiPartyStateFromDraft world.progressDraft policy = .ok state →
      multiPartyComplete policy state.progress = .ok false
  | .submitted index false => ∀ session, world.sessions[index]? = some session →
      session.accepted = true
  | _ => True

theorem put_noDeadEnd (hopen : NoDeadEnd policy world) {session : Session}
    (h : session.Open policy) : NoDeadEnd policy (world.put index session) := by
  intro other hother
  rcases List.mem_or_eq_of_mem_set hother with hold | rfl
  · exact hopen other hold
  · exact h

theorem put_mem {old session : Session} (h : world.sessions[index]? = some old) :
    session ∈ (world.put index session).sessions := by
  obtain ⟨hindex, -⟩ := List.getElem?_eq_some_iff.mp h
  exact List.mem_set hindex session

theorem step_noDeadEnd_iff (haccepted : Accepted policy)
    (hsound : WorldSound policy definition world) (hopen : NoDeadEnd policy world) {event : Event}
    (h : world.step policy definition event = some next) :
    NoDeadEnd policy next ↔ event.Benign policy world := by
  cases event with
  | load =>
    obtain ⟨state, hstate, rfl⟩ := load_ok h
    have hcan := canSubmit_iff (restored_reachable haccepted hsound hstate)
    constructor
    · intro hnext other hother
      obtain rfl := Except.ok.inj (hstate.symm.trans hother)
      exact hcan.mp (hnext _ (List.mem_append_right _ List.mem_cons_self) rfl (by simp))
    · intro hbenign session hsession
      rcases List.mem_append.mp hsession with hold | hnew
      · exact hopen session hold
      · obtain rfl := List.mem_singleton.mp hnew
        exact fun _ _ => hcan.mpr (hbenign state hstate)
  | submit index render input =>
    obtain ⟨session, seen, recorded, hsession, hphase, -, -, rfl⟩ := submit_ok h
    refine iff_of_true (put_noDeadEnd hopen fun hnot _ => ?_) trivial
    exact hopen session (List.mem_of_getElem? hsession) hnot (by simp [hphase])
  | saved index now stored resolved =>
    obtain ⟨session, recorded, after, hsession, hphase, hafter, rfl⟩ := saved_ok h
    have hold := hsound.sessions session (List.mem_of_getElem? hsession)
    have hafterOpen : after.Open policy := by
      rcases afterSave_ok hafter with rfl | ⟨complete, hcomplete, rfl⟩
      · exact fun hnot _ => hopen session (List.mem_of_getElem? hsession) hnot (by simp [hphase])
      · intro _ hidle
        refine (canSubmit_iff (hold.saving recorded hphase)).mpr ?_
        cases complete with
        | false => exact hcomplete
        | true => exact absurd rfl hidle
    have hput : NoDeadEnd policy (world.put index after) := put_noDeadEnd hopen hafterOpen
    exact iff_of_true hput trivial
  | submitted index success =>
    obtain ⟨session, hsession, hphase, rfl⟩ := submitted_ok h
    have hold := hsound.sessions session (List.mem_of_getElem? hsession)
    have hcan := canSubmit_iff (hold.reachable _ List.mem_cons_self)
    rw [hold.submitting hphase] at hcan
    cases success with
    | true =>
      refine iff_of_true (put_noDeadEnd hopen fun hnot _ => ?_) trivial
      simp at hnot
    | false =>
      constructor
      · intro hnext other hother
        obtain rfl := Option.some.inj (hsession.symm.trans hother)
        refine (Bool.not_eq_false _).mp fun hnot => ?_
        have hdead := hnext _ (put_mem hsession) (by simp [hnot]) (by simp)
        cases hcan.mp hdead
      · intro hbenign
        refine put_noDeadEnd hopen fun hnot _ => ?_
        simp [hbenign session hsession] at hnot

/-- In a run of the sessions of a form every session can go on, in every world it passes through,
exactly where no load meets complete progress and no final submit fails. -/
theorem no_dead_end_iff (haccepted : Accepted policy) {events : List Event} {worlds : List World}
    (h : statesOf (World.step policy definition) .initial events = some worlds) :
    (∀ world ∈ worlds, NoDeadEnd policy world)
      ↔ EveryStep (World.step policy definition) (Event.Benign policy) .initial events := by
  refine statesOf_good_iff (J := WorldSound policy definition) (fun world event next hsound hstep => ?_)
    (fun world event next hsound hopen hstep => ?_) initial_sound (fun _ hsession => ?_) h
  · exact step_sound haccepted hsound hstep
  · exact step_noDeadEnd_iff haccepted hsound hopen hstep
  · cases hsession

def bothSign : List Event :=
  [.submit 0 0 (signerInput "ana"), .saved 0 "2024-01-01T00:00:00.000Z" true true,
    .submit 0 0 (signerInput "ben"), .saved 0 "2024-01-01T00:00:00.000Z" true true]

theorem bothSign_benign {event : Event} (h : event ∈ bothSign) (reached : World) :
    event.Benign policy reached := by
  simp only [bothSign, List.mem_cons, List.not_mem_nil, or_false] at h
  rcases h with rfl | rfl | rfl | rfl <;> trivial

theorem oneTenantPolicy_accepted : Accepted oneTenantPolicy := by
  have hresolved : signingPolicy [signingParty "landlord" 1, signingParty "tenant" 1]
      = some oneTenantPolicy := by rfl
  exact signingPolicy_accepted hresolved

theorem no_dead_end_iff_submitted :
    ∃ worlds, statesOf (World.step oneTenantPolicy leaseDefinition) .initial
        (.load :: (bothSign ++ [.submitted 0 true])) = some worlds
      ∧ ∀ world ∈ worlds, NoDeadEnd oneTenantPolicy world := by
  have hrun : ∃ worlds, statesOf (World.step oneTenantPolicy leaseDefinition) .initial
      (.load :: (bothSign ++ [.submitted 0 true])) = some worlds := ⟨_, rfl⟩
  obtain ⟨worlds, hworlds⟩ := hrun
  refine ⟨worlds, hworlds, (no_dead_end_iff oneTenantPolicy_accepted hworlds).mpr ⟨?_, ?_⟩⟩
  · intro state hstate
    cases hstate
    rfl
  · intro next _
    refine everyStep_of_forall fun event hevent reached => ?_
    rcases List.mem_append.mp hevent with hsign | hsubmitted
    · exact bothSign_benign hsign reached
    · obtain rfl := List.mem_singleton.mp hsubmitted
      trivial

def signatureOf (roleId subjectRef : String) : MultiPartySignatureRecord :=
  ⟨roleId, roleId, subjectRef, "response:key", "sha256:00", "2024-01-01T00:00:00.000Z"⟩

def bothSigned : MultiPartySignerProgress :=
  ⟨"tenant", [signatureOf "landlord" "ana", signatureOf "tenant" "ben"]⟩

/-- The final submit fails, and no claim can submit the aggregate again. -/
theorem failed_submit_dead_end :
    Accepted oneTenantPolicy ∧ ∃ worlds world session,
      statesOf (World.step oneTenantPolicy leaseDefinition) .initial
        (.load :: (bothSign ++ [.submitted 0 false])) = some worlds
      ∧ worlds.getLast? = some world ∧ world.sessions = [session]
      ∧ session.accepted = false ∧ session.phase = .idle
      ∧ ¬ CanSubmit oneTenantPolicy session.multiPartyState
      ∧ ¬ ∀ reached ∈ worlds, NoDeadEnd oneTenantPolicy reached := by
  refine ⟨oneTenantPolicy_accepted, _, _, _, rfl, rfl, rfl, rfl, rfl, ?_⟩
  have hdead : ∀ state : MultiPartyPersistedState, state.progress = bothSigned →
      ¬ CanSubmit oneTenantPolicy state := by
    rintro state hstate ⟨claim, slot, hassert⟩
    obtain ⟨-, -, hunsigned, -⟩ := assert_ok.mp hassert
    rw [hstate] at hunsigned
    cases hunsigned
  refine ⟨hdead _ rfl, fun hopen => ?_⟩
  have hcan := hopen _ (List.mem_of_getLast? rfl) _ List.mem_cons_self rfl
    nofun
  exact hdead _ rfl hcan

end FormspecWeb.MultiParty
