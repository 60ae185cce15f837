import FormspecWeb.Async.History
import FormspecWeb.Identity.AnonymousSession

/-!
# One anonymous session between two clears

Between two clears the calls for a form return one session, and one request at most is in flight
for it. A clear fences the requests in flight. One that preserves the grant keeps the session for the
calls after it, and one that does not leaves them nothing of the sessions before it. A call that issues
a request while such a clear still waits is left out.
-/

namespace FormspecWeb.Identity

open Async

/-- The session was issued before the end of a log; one that was stored before the bridge was. -/
def IssuedIn (origin : Option Nat) (log : List BridgeEntry) : Prop :=
  ∀ request, origin = some request → .issued request ∈ log

/-- The session was issued before a clear that did not preserve the grant. -/
def Stale (log : List BridgeEntry) (origin : Option Nat) : Prop :=
  ∃ newer clear older, log = newer ++ .clearResolved clear false :: older ∧ IssuedIn origin older

/-- The session was issued before a clear that did not preserve the grant, and the call began after
that clear resolved. -/
def Outdated (log : List BridgeEntry) (call : Nat) (origin : Option Nat) : Prop :=
  ∃ newer clear older, log = newer ++ .clearResolved clear false :: older ∧ IssuedIn origin older
    ∧ .called call ∈ newer

def Fenced (log : List BridgeEntry) (request : Nat) : Prop :=
  ∃ newer clear older, log = newer ++ .clearCalled clear :: older ∧ .issued request ∈ older
    ∧ .settled request ∉ older

namespace FormSessions

def Unsettled (s : FormSessions) (request : Nat) : Prop :=
  ∃ generation, s.requests[request]? = some ⟨generation, none⟩

def current (s : FormSessions) : Option SessionSlot := s.slot.bind fun i => s.slots[i]?

structure OneSession (s : FormSessions) : Prop where
  one_request : ∀ first second, s.Unsettled first → s.Unsettled second → first = second
  /-- Calls that begin and return while no clear removes the grant, whatever other steps of clears are
  taken. -/
  same_session : ∀ newer segment older call other issued found, s.log = newer ++ segment ++ older →
    (∀ entry ∈ segment, entry.removesGrant = false) →
    .called call ∈ segment → .returned call issued ∈ segment →
    .called other ∈ segment → .returned other found ∈ segment → issued.session = found.session
  /-- No clear leaves a request begun before it to be persisted. -/
  not_persisted : ∀ newer clear older request, s.log = newer ++ .clearCalled clear :: older →
    .issued request ∈ older → .persisted request ∉ newer
  not_returned : ∀ call issued, .returned call issued ∈ s.log → ¬ Outdated s.log call issued.origin
  fenced : ∀ call issued request, .returned call issued ∈ s.log → issued.origin = some request →
    ¬ Fenced s.log request
  /-- A clear that preserves the grant keeps the session the form has. -/
  preserved : ∀ form removes t, t = s.clearForForm form true removes
      ∨ (∃ clear request, s.clears[clear]? = some (.waiting request true)
        ∧ s.goOnClear form clear removes = some t) →
    t.current = s.current ∧ t.grant = s.grant
  /-- A call that no clear was called behind returns the session its form has, unless it expires soon. -/
  returns : ∀ form call requireExisting readings slot issued, s.current = some slot →
    slot.session = some issued → s.calls[call]? = some (.validating s.generation requireExisting) →
    readings.validated = true → form.expiresSoon issued.session.expiresAt readings.now = false →
    s.look form call readings = some (s.endCall call (.returned call issued))

def StartsRequest (form : AnonymousForm) (s : FormSessions) (call : Nat) (readings : LookReadings) :
    Prop :=
  ∃ generation next slot, s.calls[call]? = some (.validating generation false)
    ∧ readings.validated = true ∧ generation = s.generation
    ∧ s.openSlot form readings.reads = .ok (next, slot, ⟨none, none⟩)

/-- No call issues a request while a clear that does not preserve the grant still waits. -/
def Orderly (form : AnonymousForm) (s : FormSessions) : Event → Prop
  | .look call readings => s.StartsRequest form call readings →
      ∀ request, .waiting request false ∉ s.clears
  | _ => True

end FormSessions

/-! ## What the log says -/

section Log

variable {log : List BridgeEntry} {entry : BridgeEntry} {call request : Nat} {origin : Option Nat}

theorem split_cons {marker : Nat → BridgeEntry} {Q : List BridgeEntry → List BridgeEntry → Prop} :
    (∃ newer clear older, entry :: log = newer ++ marker clear :: older ∧ Q newer older)
      ↔ (∃ newer clear older, log = newer ++ marker clear :: older ∧ Q (entry :: newer) older)
        ∨ (∃ clear, entry = marker clear) ∧ Q [] log := by
  constructor
  · rintro ⟨newer, clear, older, heq, hsplit⟩
    cases newer with
    | nil =>
      cases heq
      exact Or.inr ⟨⟨clear, rfl⟩, hsplit⟩
    | cons first newer =>
      cases heq
      exact Or.inl ⟨newer, clear, older, rfl, hsplit⟩
  · rintro (⟨newer, clear, older, rfl, hsplit⟩ | ⟨⟨clear, rfl⟩, hsplit⟩)
    · exact ⟨entry :: newer, clear, older, rfl, hsplit⟩
    · exact ⟨[], clear, log, rfl, hsplit⟩

theorem stale_cons : Stale (entry :: log) origin
    ↔ Stale log origin ∨ (∃ clear, entry = .clearResolved clear false) ∧ IssuedIn origin log :=
  split_cons

theorem outdated_cons : Outdated (entry :: log) call origin
    ↔ Outdated log call origin ∨ entry = .called call ∧ Stale log origin := by
  constructor
  · rintro ⟨newer, clear, older, heq, hissued, hcalled⟩
    cases newer with
    | nil => cases hcalled
    | cons first newer =>
      cases heq
      rcases List.mem_cons.mp hcalled with rfl | hcalled
      · exact Or.inr ⟨rfl, newer, clear, older, rfl, hissued⟩
      · exact Or.inl ⟨newer, clear, older, rfl, hissued, hcalled⟩
  · rintro (⟨newer, clear, older, rfl, hissued, hcalled⟩ | ⟨rfl, newer, clear, older, rfl, hissued⟩)
    · exact ⟨entry :: newer, clear, older, rfl, hissued, List.mem_cons_of_mem _ hcalled⟩
    · exact ⟨.called call :: newer, clear, older, rfl, hissued, List.mem_cons_self⟩

theorem Outdated.stale (h : Outdated log call origin) : Stale log origin := by
  obtain ⟨newer, clear, older, heq, hissued, -⟩ := h
  exact ⟨newer, clear, older, heq, hissued⟩

theorem Stale.issued (h : Stale log (some request)) : .issued request ∈ log := by
  obtain ⟨newer, clear, older, rfl, hissued⟩ := h
  exact List.mem_append_right _ (List.mem_cons_of_mem _ (hissued request rfl))

theorem fenced_cons : Fenced (entry :: log) request
    ↔ Fenced log request ∨ (∃ clear, entry = .clearCalled clear) ∧ .issued request ∈ log
      ∧ .settled request ∉ log :=
  split_cons

/-- The call began since a clear last removed the grant. -/
def CalledSince (log : List BridgeEntry) (call : Nat) : Prop :=
  .called call ∈ log.takeWhile fun entry => !entry.removesGrant

theorem calledSince_cons : CalledSince (entry :: log) call
    ↔ entry.removesGrant = false ∧ (entry = .called call ∨ CalledSince log call) := by
  rw [CalledSince, CalledSince, List.takeWhile_cons]
  cases hremoves : entry.removesGrant with
  | true => simp
  | false => simp [eq_comm]

def ClearedSince (log : List BridgeEntry) (request : Nat) : Prop :=
  ∃ newer clear older, log = newer ++ .clearCalled clear :: older ∧ .issued request ∈ older

theorem clearedSince_cons : ClearedSince (entry :: log) request
    ↔ ClearedSince log request ∨ (∃ clear, entry = .clearCalled clear) ∧ .issued request ∈ log :=
  split_cons

theorem ClearedSince.issued (h : ClearedSince log request) : .issued request ∈ log := by
  obtain ⟨newer, clear, older, rfl, hissued⟩ := h
  exact List.mem_append_right _ (List.mem_cons_of_mem _ hissued)

theorem Fenced.clearedSince (h : Fenced log request) : ClearedSince log request := by
  obtain ⟨newer, clear, older, heq, hissued, -⟩ := h
  exact ⟨newer, clear, older, heq, hissued⟩

def BridgeEntry.isQuiet : BridgeEntry → Bool
  | .called _ => false
  | entry => !entry.isClear

theorem BridgeEntry.isClear_of_isQuiet (h : entry.isQuiet = true) : entry.isClear = false := by
  cases entry <;> first | rfl | cases h

variable (hclear : entry.isClear = false)
include hclear

theorem stale_of_cons (h : Stale (entry :: log) origin) : Stale log origin := by
  refine (stale_cons.mp h).resolve_right ?_
  rintro ⟨⟨clear, rfl⟩, -⟩
  cases hclear

theorem fenced_of_cons (h : Fenced (entry :: log) request) : Fenced log request := by
  refine (fenced_cons.mp h).resolve_right ?_
  rintro ⟨⟨clear, rfl⟩, -⟩
  cases hclear

theorem clearedSince_of_cons (h : ClearedSince (entry :: log) request) : ClearedSince log request := by
  refine (clearedSince_cons.mp h).resolve_right ?_
  rintro ⟨⟨clear, rfl⟩, -⟩
  cases hclear

end Log

/-! ## The invariant -/

namespace FormSessions

def Holds (s : FormSessions) (issued : Issued) : Prop :=
  ∃ slot, s.current = some slot ∧ (slot.session = some issued
    ∨ ∃ request, slot.inFlight = some request ∧ s.settled request = some (.ok issued))

def Promises (s : FormSessions) (request : Nat) : Prop :=
  s.inFlight = some request ∨ (∃ message, s.settled request = some (.error message))
    ∨ ∃ issued, s.settled request = some (.ok issued) ∧ s.Holds issued

/-- The session of a request that was answered, or one that was stored before the bridge. -/
def Answered (s : FormSessions) (origin : Option Nat) : Prop :=
  ∀ request, origin = some request → ∃ issued, s.settled request = some (.ok issued)

def SameSession (log : List BridgeEntry) : Prop :=
  ∀ newer segment older call other issued found, log = newer ++ segment ++ older →
    (∀ entry ∈ segment, entry.removesGrant = false) →
    .called call ∈ segment → .returned call issued ∈ segment →
    .called other ∈ segment → .returned other found ∈ segment → issued.session = found.session

def NotPersisted (log : List BridgeEntry) : Prop :=
  ∀ newer clear older request, log = newer ++ .clearCalled clear :: older →
    .issued request ∈ older → .persisted request ∉ newer

structure Inv (s : FormSessions) : Prop where
  slot_lt : ∀ i, s.slot = some i → i < s.slots.length
  flying : ∀ (i : Nat) (slot : SessionSlot) request, s.slots[i]? = some slot →
    slot.inFlight = some request → slot.session = none ∧ request < s.requests.length
  unsettled : ∀ request, s.Unsettled request → s.inFlight = some request
  waiting : ∀ request other, .waiting request false ∈ s.clears → s.Unsettled other → other = request
  issuing : ∀ (call : Nat) slot request, s.calls[call]? = some (.issuing slot request) →
    s.slots[slot]? = some ⟨none, some request⟩
  issuing_unique : ∀ (call other : Nat) slot found request,
    s.calls[call]? = some (.issuing slot request) → s.calls[other]? = some (.issuing found request) →
    call = other
  origin : ∀ request issued, s.settled request = some (.ok issued) → issued.origin = some request
  issued_lt : ∀ request, .issued request ∈ s.log → request < s.requests.length
  called_lt : ∀ call, .called call ∈ s.log → call < s.calls.length
  returned_lt : ∀ call issued, .returned call issued ∈ s.log → call < s.calls.length
  settled_logged : ∀ request result, s.settled request = some result → .settled request ∈ s.log
  cleared_lt : ∀ request generation, ClearedSince s.log request →
    s.requests[request]? = some ⟨generation, none⟩ → generation < s.generation
  generation_le : ∀ (request : Nat) (found : IssueRequest), s.requests[request]? = some found →
    found.generation ≤ s.generation
  not_answered : ∀ request issued, Fenced s.log request → s.settled request ≠ some (.ok issued)
  grant : ∀ grant, s.grant = some grant → ¬ Stale s.log grant.origin ∧ s.Answered grant.origin
  session : ∀ slot issued, s.current = some slot → slot.session = some issued →
    ¬ Stale s.log issued.origin ∧ s.Answered issued.origin
  inFlight_fresh : ∀ request, s.inFlight = some request → ¬ Stale s.log (some request)
  issuing_fresh : ∀ (call : Nat) slot request, s.calls[call]? = some (.issuing slot request) →
    ¬ Outdated s.log call (some request)
  joined_fresh : ∀ (call : Nat) request, s.calls[call]? = some (.joined request) →
    ¬ Outdated s.log call (some request)
  returned : ∀ call issued, .returned call issued ∈ s.log →
    ¬ Outdated s.log call issued.origin ∧ s.Answered issued.origin
  returned_since : ∀ call issued, CalledSince s.log call → .returned call issued ∈ s.log → s.Holds issued
  issuing_since : ∀ (call : Nat) slot request, CalledSince s.log call →
    s.calls[call]? = some (.issuing slot request) → s.slot = some slot
  joined_since : ∀ (call : Nat) request, CalledSince s.log call →
    s.calls[call]? = some (.joined request) → s.Promises request
  same_session : SameSession s.log
  not_persisted : NotPersisted s.log

theorem inv_opened (grant : Option Shared.Value) : (opened grant).Inv where
  slot_lt := fun _ h => by cases h
  flying := fun _ _ _ h => by simp [opened] at h
  unsettled := fun _ ⟨_, h⟩ => by simp [opened] at h
  waiting := fun _ _ h => by simp [opened] at h
  issuing := fun _ _ _ h => by simp [opened] at h
  issuing_unique := fun _ _ _ _ _ h => by simp [opened] at h
  origin := fun _ _ h => by simp [opened, settled] at h
  issued_lt := by simp [opened]
  called_lt := by simp [opened]
  returned_lt := by simp [opened]
  settled_logged := fun _ _ h => by simp [opened, settled] at h
  cleared_lt := fun _ _ _ h => by simp [opened] at h
  generation_le := fun _ _ h => by simp [opened] at h
  not_answered := fun _ _ _ h => by simp [opened, settled] at h
  grant := fun found h => by
    obtain ⟨value, -, rfl⟩ := Option.map_eq_some_iff.mp h
    refine ⟨?_, fun _ h => by cases h⟩
    rintro ⟨newer, clear, older, heq, -⟩
    simp [opened] at heq
  session := fun _ _ h => by cases h
  inFlight_fresh := fun _ h => by cases h
  issuing_fresh := fun _ _ _ h => by simp [opened] at h
  joined_fresh := fun _ _ h => by simp [opened] at h
  returned := by simp [opened]
  returned_since := fun _ _ _ h => by simp [opened] at h
  issuing_since := fun _ _ _ _ h => by simp [opened] at h
  joined_since := fun _ _ _ h => by simp [opened] at h
  same_session := fun newer segment older _ _ _ _ h _ hcalled => by
    simp only [opened, List.nil_eq, List.append_eq_nil_iff] at h
    obtain ⟨⟨-, rfl⟩, -⟩ := h
    cases hcalled
  not_persisted := fun _ _ _ _ h => by simp [opened] at h

section Steps

variable {form : AnonymousForm} {s t : FormSessions} {call : Nat}

theorem Holds.unique (hs : s.Inv) {issued found : Issued} (h : s.Holds issued) (h' : s.Holds found) :
    issued = found := by
  obtain ⟨slot, hslot, hissued⟩ := h
  obtain ⟨other, hother, hfound⟩ := h'
  obtain rfl := Option.some.inj (hslot.symm.trans hother)
  obtain ⟨i, -, hi⟩ := Option.bind_eq_some_iff.mp hslot
  rcases hissued with hissued | ⟨request, hrequest, hissued⟩
  · rcases hfound with hfound | ⟨other, hflying, -⟩
    · exact Option.some.inj (hissued.symm.trans hfound)
    · have hnone := (hs.flying i slot other hi hflying).1
      rw [hnone] at hissued
      cases hissued
  · rcases hfound with hfound | ⟨other, hflying, hfound⟩
    · have hnone := (hs.flying i slot request hi hrequest).1
      rw [hnone] at hfound
      cases hfound
    · obtain rfl := Option.some.inj (hrequest.symm.trans hflying)
      exact Except.ok.inj (Option.some.inj (hissued.symm.trans hfound))

variable {entry : BridgeEntry}

theorem same_session_cons {log : List BridgeEntry} (hlog : SameSession log)
    (hsince : ∀ call other issued found, CalledSince (entry :: log) call →
      .returned call issued ∈ entry :: log → CalledSince (entry :: log) other →
      .returned other found ∈ entry :: log → issued = found) :
    SameSession (entry :: log) := by
  intro newer segment older call other issued found heq hclear hcall hissued hother hfound
  cases newer with
  | nil =>
    have hsegment : ∀ call, .called call ∈ segment → CalledSince (entry :: log) call := by
      intro call hcall
      rw [CalledSince, heq, List.nil_append, List.takeWhile_append_of_pos (by simpa using hclear)]
      exact List.mem_append_left _ hcall
    have hmem : ∀ {found}, found ∈ segment → found ∈ entry :: log := by
      intro found hfound
      rw [heq]
      simp [hfound]
    rw [hsince call other issued found (hsegment call hcall) (hmem hissued) (hsegment other hother)
      (hmem hfound)]
  | cons first newer =>
    cases heq
    exact hlog newer segment older call other issued found (by simp) hclear hcall hissued hother hfound

theorem not_persisted_cons {log : List BridgeEntry} (hlog : NotPersisted log)
    (hentry : ∀ request, entry = .persisted request → ¬ ClearedSince log request) :
    NotPersisted (entry :: log) := by
  intro newer clear older request heq hissued hpersisted
  cases newer with
  | nil => cases hpersisted
  | cons first newer =>
    cases heq
    rcases List.mem_cons.mp hpersisted with rfl | hpersisted
    · exact hentry request rfl ⟨newer, clear, older, rfl, hissued⟩
    · exact hlog newer clear older request rfl hissued hpersisted

/-- What a call may end with: a session is one that its slot has, of a request that was answered, and
is not outdated for the call. -/
structure MayEnd (s : FormSessions) (call : Nat) (entry : BridgeEntry) : Prop where
  quiet : entry.isQuiet = true
  issued : ∀ request, entry ≠ .issued request
  settled : ∀ request, entry ≠ .settled request
  persisted : ∀ request, entry ≠ .persisted request
  returned : ∀ other issued, entry = .returned other issued → other = call
    ∧ ¬ Outdated s.log call issued.origin ∧ s.Answered issued.origin
    ∧ (CalledSince s.log call → s.Holds issued)

theorem mayEnd_refused (message : String) : MayEnd s call (.refused call message) :=
  ⟨rfl, by simp, by simp, by simp, by simp⟩

theorem mayEnd_returned {issued : Issued} (houtdated : ¬ Outdated s.log call issued.origin)
    (hanswered : s.Answered issued.origin) (hheld : CalledSince s.log call → s.Holds issued) :
    MayEnd s call (.returned call issued) where
  quiet := rfl
  issued := by simp
  settled := by simp
  persisted := by simp
  returned := fun other found heq => by
    cases heq
    exact ⟨rfl, houtdated, hanswered, hheld⟩

theorem inv_logged (hs : s.Inv) (hclear : entry.isClear = false)
    (hissued : ∀ request, entry = .issued request → request < s.requests.length)
    (hcalled : ∀ call, entry = .called call → call < s.calls.length
      ∧ (∀ slot request, s.calls[call]? ≠ some (.issuing slot request))
      ∧ (∀ request, s.calls[call]? ≠ some (.joined request))
      ∧ ∀ issued, .returned call issued ∉ s.log)
    (hreturned : ∀ call issued, entry = .returned call issued → call < s.calls.length
      ∧ ¬ Outdated s.log call issued.origin ∧ s.Answered issued.origin
      ∧ (CalledSince s.log call → s.Holds issued))
    (hpersisted : ∀ request, entry = .persisted request → ¬ ClearedSince s.log request) :
    (s.logged entry).Inv := by
  have hmem : ∀ {found}, found ∈ entry :: s.log → entry = found ∨ found ∈ s.log :=
    fun h => (List.mem_cons.mp h).imp_left Eq.symm
  have houtdated : ∀ {call origin}, entry ≠ .called call → Outdated (entry :: s.log) call origin →
      Outdated s.log call origin :=
    fun hne h => (outdated_cons.mp h).resolve_right fun ⟨heq, _⟩ => hne heq
  have hsince : ∀ {call}, entry ≠ .called call → CalledSince (entry :: s.log) call →
      CalledSince s.log call :=
    fun hne h => (calledSince_cons.mp h).2.resolve_left hne
  -- A call that begins has no stage of its own yet, and has returned nothing.
  have hissuing : ∀ {call slot request}, s.calls[call]? = some (.issuing slot request) →
      entry ≠ .called call := fun {call slot request} h heq => (hcalled call heq).2.1 slot request h
  have hjoined : ∀ {call request}, s.calls[call]? = some (.joined request) → entry ≠ .called call :=
    fun {call request} h heq => (hcalled call heq).2.2.1 request h
  have hended : ∀ {call issued}, .returned call issued ∈ entry :: s.log → entry ≠ .called call := by
    rintro call issued h rfl
    exact (hcalled call rfl).2.2.2 issued ((hmem h).resolve_left (by simp))
  have hholds : ∀ call issued, CalledSince (entry :: s.log) call →
      .returned call issued ∈ entry :: s.log → s.Holds issued := by
    intro call issued h h'
    have hcall := hsince (hended h') h
    rcases hmem h' with heq | hold
    · exact (hreturned call issued heq).2.2.2 hcall
    · exact hs.returned_since call issued hcall hold
  exact { hs with
    issued_lt := fun request h => (hmem h).elim (hissued request) (hs.issued_lt request)
    called_lt := fun call h => (hmem h).elim (fun heq => (hcalled call heq).1) (hs.called_lt call)
    returned_lt := fun call issued h =>
      (hmem h).elim (fun heq => (hreturned call issued heq).1) (hs.returned_lt call issued)
    settled_logged := fun request result h => List.mem_cons_of_mem _ (hs.settled_logged request result h)
    cleared_lt := fun request generation h =>
      hs.cleared_lt request generation (clearedSince_of_cons hclear h)
    not_answered := fun request issued h => hs.not_answered request issued (fenced_of_cons hclear h)
    grant := fun grant h => (hs.grant grant h).imp_left fun hfresh h => hfresh (stale_of_cons hclear h)
    session := fun slot issued hslot h =>
      (hs.session slot issued hslot h).imp_left fun hfresh h => hfresh (stale_of_cons hclear h)
    inFlight_fresh := fun request h h' => hs.inFlight_fresh request h (stale_of_cons hclear h')
    issuing_fresh := fun call slot request h h' =>
      hs.issuing_fresh call slot request h (houtdated (hissuing h) h')
    joined_fresh := fun call request h h' => hs.joined_fresh call request h (houtdated (hjoined h) h')
    returned := fun call issued h => by
      have hfound : ¬ Outdated s.log call issued.origin ∧ s.Answered issued.origin := by
        rcases hmem h with heq | hold
        · exact ⟨(hreturned call issued heq).2.1, (hreturned call issued heq).2.2.1⟩
        · exact hs.returned call issued hold
      exact hfound.imp_left fun hfresh h' => hfresh (houtdated (hended h) h')
    returned_since := hholds
    issuing_since := fun call slot request h h' =>
      hs.issuing_since call slot request (hsince (hissuing h') h) h'
    joined_since := fun call request h h' => hs.joined_since call request (hsince (hjoined h') h) h'
    same_session := same_session_cons hs.same_session fun first second issued found hfirst hissued
        hsecond hfound =>
      Holds.unique hs (hholds first issued hfirst hissued) (hholds second found hsecond hfound)
    not_persisted := not_persisted_cons hs.not_persisted hpersisted }

/-- Calls of which none comes to issue a request, and that join the request in flight at most. -/
theorem inv_calls (hs : s.Inv) {calls : List CallStage} (hlength : s.calls.length ≤ calls.length)
    (hissuing : ∀ {other slot request : Nat}, calls[other]? = some (.issuing slot request) →
      s.calls[other]? = some (.issuing slot request))
    (hjoined : ∀ {other request : Nat}, calls[other]? = some (.joined request) →
      s.inFlight = some request ∨ s.calls[other]? = some (.joined request)) :
    Inv { s with calls := calls } :=
  { hs with
    issuing := fun other slot request h => hs.issuing other slot request (hissuing h)
    issuing_unique := fun first second slot found request h h' =>
      hs.issuing_unique first second slot found request (hissuing h) (hissuing h')
    called_lt := fun other h => Nat.lt_of_lt_of_le (hs.called_lt other h) hlength
    returned_lt := fun other issued h => Nat.lt_of_lt_of_le (hs.returned_lt other issued h) hlength
    issuing_fresh := fun other slot request h => hs.issuing_fresh other slot request (hissuing h)
    joined_fresh := fun other request h houtdated => by
      rcases hjoined h with hflying | hold
      · exact hs.inFlight_fresh request hflying houtdated.stale
      · exact hs.joined_fresh other request hold houtdated
    issuing_since := fun other slot request hsince h =>
      hs.issuing_since other slot request hsince (hissuing h)
    joined_since := fun other request hsince h =>
      (hjoined h).elim Or.inl (hs.joined_since other request hsince) }

theorem inv_endCall (hs : s.Inv) (hcall : call < s.calls.length)
    (hentry : s.MayEnd call entry) : (s.endCall call entry).Inv := by
  have hstage : ∀ {other : Nat} {stage}, (s.calls.set call .ended)[other]? = some stage →
      stage ≠ .ended → s.calls[other]? = some stage := by
    intro other stage h hne
    rcases of_getElem?_set h with ⟨-, heq⟩ | ⟨-, hold⟩
    · exact absurd heq hne
    · exact hold
  have hended : Inv { s with calls := s.calls.set call .ended } :=
    inv_calls hs (Nat.le_of_eq List.length_set.symm) (fun h => hstage h (by simp))
      (fun h => Or.inr (hstage h (by simp)))
  have hcalled : ∀ other, entry ≠ .called other := by
    rintro other rfl
    cases hentry.quiet
  refine inv_logged hended (BridgeEntry.isClear_of_isQuiet hentry.quiet)
    (fun request heq => absurd heq (hentry.issued request)) (fun other heq => absurd heq (hcalled other))
    (fun other issued heq => ?_) (fun request heq => absurd heq (hentry.persisted request))
  obtain ⟨rfl, hfound⟩ := hentry.returned other issued heq
  exact ⟨by rwa [List.length_set], hfound⟩

theorem inv_refuse (hs : s.Inv) (hcall : call < s.calls.length) (message : String) :
    (s.refuse call message).Inv :=
  inv_endCall hs hcall (mayEnd_refused message)

theorem current_none (h : s.slot = none) : s.current = none := by
  rw [current, h]
  rfl

theorem inFlight_eq (s : FormSessions) : s.inFlight = s.current.bind SessionSlot.inFlight := rfl

theorem inv_create (hs : s.Inv) (hnone : s.slot = none) {session : Option Issued}
    (hsession : ∀ issued, session = some issued →
      ¬ Stale s.log issued.origin ∧ s.Answered issued.origin) :
    Inv { s with slot := some s.slots.length, slots := s.slots ++ [SessionSlot.mk session none] } := by
  have hcurrent := current_none hnone
  have hinFlight : s.inFlight = none := by
    rw [inFlight_eq, hcurrent]
    rfl
  have hnoHolds : ∀ issued, ¬ s.Holds issued := by
    rintro issued ⟨slot, hslot, -⟩
    rw [hcurrent] at hslot
    cases hslot
  have hnoUnsettled : ∀ request, ¬ s.Unsettled request := by
    intro request h
    have hsome := hs.unsettled request h
    rw [hinFlight] at hsome
    cases hsome
  have hnew : ∀ slot, (s.slots ++ [SessionSlot.mk session none])[s.slots.length]? = some slot →
      slot = ⟨session, none⟩ := by
    intro slot h
    simpa using h.symm
  exact { hs with
    slot_lt := fun i h => by
      cases h
      simp
    flying := fun i slot request h hflying => by
      rcases of_getElem?_concat h with hold | ⟨-, rfl⟩
      · exact hs.flying i slot request hold hflying
      · cases hflying
    unsettled := fun request h => absurd h (hnoUnsettled request)
    issuing := fun other slot request h => getElem?_concat_of (hs.issuing other slot request h)
    session := fun slot issued hslot h => by
      obtain rfl := hnew slot hslot
      exact hsession issued h
    inFlight_fresh := fun request h => by
      obtain ⟨slot, hslot, hflying⟩ := Option.bind_eq_some_iff.mp h
      obtain rfl := hnew slot hslot
      cases hflying
    returned_since := fun other issued hsince h =>
      absurd (hs.returned_since other issued hsince h) (hnoHolds issued)
    issuing_since := fun other slot request hsince h => by
      have hsome := hs.issuing_since other slot request hsince h
      rw [hnone] at hsome
      cases hsome
    joined_since := fun other request hsince h => by
      rcases hs.joined_since other request hsince h with hflying | herror | ⟨issued, -, hheld⟩
      · rw [hinFlight] at hflying
        cases hflying
      · exact Or.inr (Or.inl herror)
      · exact absurd hheld (hnoHolds issued) }

/-- What a call finds of the form: the slot there is, or one made from the stored grant. -/
structure Opened (s t : FormSessions) (i : Nat) (slot : SessionSlot) : Prop where
  inv : t.Inv
  current : t.slot = some i ∧ t.slots[i]? = some slot
  calls : t.calls = s.calls
  clears : t.clears = s.clears
  generation : t.generation = s.generation

theorem opened_openSlot (hs : s.Inv) {reads : Bool} {i : Nat} {slot : SessionSlot}
    (h : s.openSlot form reads = .ok (t, i, slot)) : Opened s t i slot := by
  have hcreated : ∀ session : Option Issued, s.slot = none →
      (∀ issued, session = some issued → ¬ Stale s.log issued.origin ∧ s.Answered issued.origin) →
      (({ s with
          slot := some s.slots.length
          slots := s.slots ++ [SessionSlot.mk session none] } : FormSessions),
        s.slots.length, SessionSlot.mk session none) = (t, i, slot) → Opened s t i slot := by
    intro session hnone hsession heq
    cases heq
    exact ⟨inv_create hs hnone hsession, ⟨rfl, by simp⟩, rfl, rfl, rfl⟩
  rw [openSlot] at h
  split at h
  · next found hfound =>
    cases h
    refine ⟨hs, ⟨hfound, ?_⟩, rfl, rfl, rfl⟩
    rw [List.getElem?_eq_getElem (hs.slot_lt _ hfound)]
    rfl
  · next hnone =>
    simp only at h
    split at h
    · exact hcreated none hnone nofun (Except.ok.inj h)
    split at h
    · cases h
    split at h
    · exact hcreated none hnone nofun (Except.ok.inj h)
    · next saved hsaved =>
      split at h
      · cases h
      · refine hcreated _ hnone ?_ (Except.ok.inj h)
        intro issued heq
        cases heq
        exact hs.grant saved hsaved

theorem inv_join (hs : s.Inv) {request : Nat} (hflying : s.inFlight = some request) :
    Inv { s with calls := s.calls.set call (.joined request) } := by
  refine inv_calls hs (Nat.le_of_eq List.length_set.symm) (fun h => ?_) (fun h => ?_)
  · rcases of_getElem?_set h with ⟨-, heq⟩ | ⟨-, hold⟩
    · cases heq
    · exact hold
  · rcases of_getElem?_set h with ⟨-, heq⟩ | ⟨-, hold⟩
    · cases heq
      exact Or.inl hflying
    · exact Or.inr hold

theorem settled_append (s : FormSessions) (new : IssueRequest) (hnew : new.result = none)
    (request : Nat) : ((s.requests ++ [new])[request]?).bind IssueRequest.result = s.settled request := by
  rw [settled]
  rcases Nat.lt_or_ge request s.requests.length with hlt | hge
  · rw [List.getElem?_append_left hlt]
  · rw [List.getElem?_append_right hge, List.getElem?_eq_none hge, List.getElem?_singleton]
    split
    · exact hnew
    · rfl

theorem inv_issue (hs : s.Inv) {slot : Nat} (hcall : call < s.calls.length)
    (hslot : s.slot = some slot ∧ s.slots[slot]? = some ⟨none, none⟩)
    (hwaiting : ∀ request, .waiting request false ∉ s.clears) :
    (s.issue call slot s.generation).Inv := by
  let added : FormSessions := { s with
    requests := s.requests ++ [IssueRequest.mk s.generation none]
    slots := s.slots.set slot ⟨none, some s.requests.length⟩
    calls := s.calls.set call (.issuing slot s.requests.length) }
  have hcurrent : s.current = some ⟨none, none⟩ := by
    rw [current, hslot.1]
    exact hslot.2
  have hinFlight : s.inFlight = none := by
    rw [inFlight_eq, hcurrent]
    rfl
  have hnoHolds : ∀ issued, ¬ s.Holds issued := by
    rintro issued ⟨found, hfound, hissued⟩
    obtain rfl := Option.some.inj (hcurrent.symm.trans hfound)
    rcases hissued with h | ⟨request, h, -⟩ <;> cases h
  have hnoUnsettled : ∀ request, ¬ s.Unsettled request := by
    intro request h
    have hsome := hs.unsettled request h
    rw [hinFlight] at hsome
    cases hsome
  have hlt : slot < s.slots.length := (List.getElem?_eq_some_iff.mp hslot.2).1
  have hunissued : .issued s.requests.length ∉ s.log := fun h =>
    absurd (hs.issued_lt _ h) (Nat.lt_irrefl _)
  have hsettled : ∀ request, added.settled request = s.settled request :=
    settled_append s ⟨s.generation, none⟩ rfl
  have hanswered : ∀ origin, s.Answered origin → added.Answered origin := by
    intro origin h request heq
    rw [hsettled]
    exact h request heq
  have hrequests : ∀ (request : Nat) found,
      (s.requests ++ [IssueRequest.mk s.generation none])[request]? = some found →
      s.requests[request]? = some found ∨ request = s.requests.length ∧ found = ⟨s.generation, none⟩ := by
    intro request found h
    exact of_getElem?_concat h
  have hnewCurrent : added.current = some ⟨none, some s.requests.length⟩ := by
    simp only [added, current, hslot.1, Option.bind_some, List.getElem?_set_self hlt]
  have hnewFlight : added.inFlight = some s.requests.length := by
    rw [inFlight_eq, hnewCurrent]
    rfl
  have hnoStale : ¬ Stale s.log (some s.requests.length) := fun h => hunissued h.issued
  have hlength : added.requests.length = s.requests.length + 1 := by simp [added]
  have hadded : added.Inv := {
    slot_lt := fun i h => by
      rw [List.length_set]
      exact hs.slot_lt i h
    flying := fun i found request h hflying => by
      rw [hlength]
      rcases of_getElem?_set h with ⟨rfl, rfl⟩ | ⟨-, hold⟩
      · cases hflying
        exact ⟨rfl, Nat.lt_succ_self _⟩
      · obtain ⟨hsession, hrequest⟩ := hs.flying i found request hold hflying
        exact ⟨hsession, Nat.lt_succ_of_lt hrequest⟩
    unsettled := fun request ⟨generation, h⟩ => by
      rcases hrequests request _ h with hold | ⟨rfl, -⟩
      · exact absurd ⟨generation, hold⟩ (hnoUnsettled request)
      · exact hnewFlight
    waiting := fun request other h => absurd h (hwaiting request)
    issuing := fun other found request h => by
      rcases of_getElem?_set h with ⟨rfl, heq⟩ | ⟨-, hold⟩
      · cases heq
        exact List.getElem?_set_self hlt
      · have hfound := hs.issuing other found request hold
        have hne : slot ≠ found := by
          rintro rfl
          have heq := hslot.2.symm.trans hfound
          cases heq
        exact (List.getElem?_set_ne hne).trans hfound
    issuing_unique := fun first second found found' request h h' => by
      have hold : ∀ {other found : Nat}, s.calls[other]? = some (.issuing found s.requests.length) → False := by
        intro other found h
        have hslot := hs.issuing other found _ h
        exact absurd (hs.flying found _ _ hslot rfl).2 (Nat.lt_irrefl _)
      rcases of_getElem?_set h with ⟨rfl, heq⟩ | ⟨-, hfirst⟩
      · cases heq
        rcases of_getElem?_set h' with ⟨rfl, -⟩ | ⟨-, hsecond⟩
        · rfl
        · exact (hold hsecond).elim
      · rcases of_getElem?_set h' with ⟨rfl, heq⟩ | ⟨-, hsecond⟩
        · cases heq
          exact (hold hfirst).elim
        · exact hs.issuing_unique first second found found' request hfirst hsecond
    origin := fun request issued h => hs.origin request issued ((hsettled request).symm.trans h)
    issued_lt := fun request h => by
      rw [hlength]
      exact Nat.lt_succ_of_lt (hs.issued_lt request h)
    called_lt := fun other h => by
      rw [List.length_set]
      exact hs.called_lt other h
    returned_lt := fun other issued h => by
      rw [List.length_set]
      exact hs.returned_lt other issued h
    settled_logged := fun request result h =>
      hs.settled_logged request result ((hsettled request).symm.trans h)
    cleared_lt := fun request generation hcleared h => by
      rcases hrequests request _ h with hfound | ⟨rfl, -⟩
      · exact absurd ⟨generation, hfound⟩ (hnoUnsettled request)
      · exact absurd hcleared.issued hunissued
    generation_le := fun request found h => by
      rcases hrequests request found h with hold | ⟨-, rfl⟩
      · exact hs.generation_le request found hold
      · exact Nat.le_refl s.generation
    not_answered := fun request issued h => by
      rw [hsettled]
      exact hs.not_answered request issued h
    grant := fun grant h => (hs.grant grant h).imp_right (hanswered _)
    session := fun found issued hfound h => by
      obtain rfl := Option.some.inj (hnewCurrent.symm.trans hfound)
      cases h
    inFlight_fresh := fun request h hstale => by
      obtain rfl := Option.some.inj (hnewFlight.symm.trans h)
      exact hnoStale hstale
    issuing_fresh := fun other found request h houtdated => by
      rcases of_getElem?_set h with ⟨rfl, heq⟩ | ⟨-, hold⟩
      · cases heq
        exact hnoStale houtdated.stale
      · exact hs.issuing_fresh other found request hold houtdated
    joined_fresh := fun other request h => by
      rcases of_getElem?_set h with ⟨-, heq⟩ | ⟨-, hold⟩
      · cases heq
      · exact hs.joined_fresh other request hold
    returned := fun other issued h => (hs.returned other issued h).imp_right (hanswered _)
    returned_since := fun other issued hsince h =>
      absurd (hs.returned_since other issued hsince h) (hnoHolds issued)
    issuing_since := fun other found request hsince h => by
      rcases of_getElem?_set h with ⟨rfl, heq⟩ | ⟨-, hold⟩
      · cases heq
        exact hslot.1
      · exact hs.issuing_since other found request hsince hold
    joined_since := fun other request hsince h => by
      rcases of_getElem?_set h with ⟨-, heq⟩ | ⟨-, hold⟩
      · cases heq
      · rcases hs.joined_since other request hsince hold with
          hflying | ⟨message, herror⟩ | ⟨issued, -, hheld⟩
        · rw [hinFlight] at hflying
          cases hflying
        · exact Or.inr (Or.inl ⟨message, (hsettled request).trans herror⟩)
        · exact absurd hheld (hnoHolds issued)
    same_session := hs.same_session
    not_persisted := hs.not_persisted }
  refine inv_logged hadded rfl ?_ (by simp) (by simp) (by simp)
  rintro request ⟨⟩
  rw [hlength]
  exact Nat.lt_succ_self _

theorem inv_result (hs : s.Inv) {request generation : Nat} {result : Except String Issued}
    (hrequest : s.requests[request]? = some ⟨generation, none⟩) (hlogged : .settled request ∈ s.log)
    (hok : ∀ issued, result = .ok issued → issued.origin = some request ∧ generation = s.generation) :
    Inv { s with requests := s.requests.set request ⟨generation, some result⟩ } := by
  have hlt : request < s.requests.length := (List.getElem?_eq_some_iff.mp hrequest).1
  have hnone : s.settled request = none := by
    rw [settled, hrequest]
    rfl
  have hself : ((s.requests.set request ⟨generation, some result⟩)[request]?).bind IssueRequest.result
      = some result := by
    rw [List.getElem?_set_self hlt]
    rfl
  have hother : ∀ {other}, other ≠ request →
      ((s.requests.set request ⟨generation, some result⟩)[other]?).bind IssueRequest.result
        = s.settled other := by
    intro other hne
    rw [List.getElem?_set_ne (Ne.symm hne)]
    rfl
  -- A promise that is settled stays as it is.
  have hkeeps : ∀ {other found}, s.settled other = some found →
      ((s.requests.set request ⟨generation, some result⟩)[other]?).bind IssueRequest.result
        = some found := by
    intro other found h
    have hne : other ≠ request := by
      rintro rfl
      rw [hnone] at h
      cases h
    exact (hother hne).trans h
  have hsettled : ∀ {other found},
      ((s.requests.set request ⟨generation, some result⟩)[other]?).bind IssueRequest.result = some found →
      other = request ∧ found = result ∨ s.settled other = some found := by
    intro other found h
    by_cases hne : other = request
    · subst hne
      exact Or.inl ⟨rfl, (Option.some.inj (hself.symm.trans h)).symm⟩
    · exact Or.inr ((hother hne).symm.trans h)
  have hunsettled : ∀ {other other' : Nat},
      (s.requests.set request ⟨generation, some result⟩)[other]? = some ⟨other', none⟩ →
      s.requests[other]? = some ⟨other', none⟩ := by
    intro other other' h
    rcases of_getElem?_set h with ⟨-, heq⟩ | ⟨-, hold⟩
    · cases heq
    · exact hold
  have hholds : ∀ {issued}, s.Holds issued →
      Holds { s with requests := s.requests.set request ⟨generation, some result⟩ } issued := by
    rintro issued ⟨slot, hslot, hissued⟩
    refine ⟨slot, hslot, hissued.imp_right ?_⟩
    rintro ⟨other, hflying, hother⟩
    exact ⟨other, hflying, hkeeps hother⟩
  have hanswered : ∀ {origin}, s.Answered origin →
      Answered { s with requests := s.requests.set request ⟨generation, some result⟩ } origin := by
    intro origin h other heq
    obtain ⟨issued, hissued⟩ := h other heq
    exact ⟨issued, hkeeps hissued⟩
  exact { hs with
    flying := fun i slot other h hflying => by
      rw [List.length_set]
      exact hs.flying i slot other h hflying
    unsettled := fun other ⟨found, h⟩ => hs.unsettled other ⟨found, hunsettled h⟩
    waiting := fun other other' h ⟨found, h'⟩ => hs.waiting other other' h ⟨found, hunsettled h'⟩
    origin := fun other issued h => by
      rcases hsettled h with ⟨rfl, heq⟩ | hold
      · exact (hok issued heq.symm).1
      · exact hs.origin other issued hold
    issued_lt := fun other h => by
      rw [List.length_set]
      exact hs.issued_lt other h
    settled_logged := fun other found h => by
      rcases hsettled h with ⟨rfl, -⟩ | hold
      · exact hlogged
      · exact hs.settled_logged other found hold
    cleared_lt := fun other found hcleared h => hs.cleared_lt other found hcleared (hunsettled h)
    generation_le := fun other found h => by
      rcases of_getElem?_set h with ⟨rfl, rfl⟩ | ⟨-, hold⟩
      · exact hs.generation_le other ⟨generation, none⟩ hrequest
      · exact hs.generation_le other found hold
    not_answered := fun other issued hfenced h => by
      rcases hsettled h with ⟨rfl, heq⟩ | hold
      · have hlt := hs.cleared_lt other generation hfenced.clearedSince hrequest
        have := (hok issued heq.symm).2
        omega
      · exact hs.not_answered other issued hfenced hold
    grant := fun grant h => (hs.grant grant h).imp_right hanswered
    session := fun slot issued hslot h => (hs.session slot issued hslot h).imp_right hanswered
    returned := fun call issued h => (hs.returned call issued h).imp_right hanswered
    returned_since := fun call issued hsince h => hholds (hs.returned_since call issued hsince h)
    joined_since := fun call other hsince h => by
      rcases hs.joined_since call other hsince h with hflying | ⟨message, herror⟩ | ⟨issued, hok, hheld⟩
      · exact Or.inl hflying
      · exact Or.inr (Or.inl ⟨message, hkeeps herror⟩)
      · exact Or.inr (Or.inr ⟨issued, hkeeps hok, hholds hheld⟩) }

theorem settlement_ok {request generation : Nat} {reply : Except String Shared.Value} {now : Int}
    {writes : Bool} {issued : Issued}
    (h : s.settlement form request generation reply now writes = .ok issued) :
    issued.origin = some request ∧ generation = s.generation := by
  rw [settlement] at h
  split at h
  · cases h
  split at h
  · cases h
  · next hgeneration =>
    split at h
    · cases h
    · cases h
      exact ⟨rfl, by simpa using hgeneration⟩

section

variable (hs : s.Inv)
include hs

theorem inv_settle {request : Nat} {reply : Except String Shared.Value} {now : Int}
    {writes : Bool} (h : s.settle form request reply now writes = some t) : t.Inv := by
  simp only [settle] at h
  split at h
  · next generation hrequest =>
    have hlogged : Inv { s with log := .settled request :: s.log } :=
      inv_logged hs rfl (by simp) (by simp) (by simp) (by simp)
    have hresult := inv_result hlogged hrequest List.mem_cons_self
      fun issued (hissued : s.settlement form request generation reply now writes = .ok issued) =>
        settlement_ok hissued
    split at h
    · cases h
      exact hresult
    · next issued hissued =>
      obtain ⟨horigin, hgeneration⟩ := settlement_ok hissued
      split at h
      · cases h
        have hflying := hs.unsettled request ⟨generation, hrequest⟩
        have hcleared : ¬ ClearedSince (.settled request :: s.log) request := by
          intro hcleared
          have := hs.cleared_lt request generation (clearedSince_of_cons rfl hcleared) hrequest
          omega
        have hpersists : ∀ other, BridgeEntry.persisted request = .persisted other →
            ¬ ClearedSince (.settled request :: s.log) other := by
          rintro other ⟨⟩
          exact hcleared
        have hpersisted := inv_logged hresult rfl (by simp) (by simp) (by simp) hpersists
        exact { hpersisted with
          grant := fun grant h => by
            cases h
            rw [horigin]
            refine ⟨hpersisted.inFlight_fresh request hflying, ?_⟩
            intro other heq
            cases heq
            have hlt : request < s.requests.length := (List.getElem?_eq_some_iff.mp hrequest).1
            refine ⟨issued, ?_⟩
            simp only [settled, logged, List.getElem?_set_self hlt, Option.bind_some, hissued] }
      · cases h
        exact hresult
  · cases h

theorem inv_landed {slot request : Nat} {result : Except String Issued}
    (hslot : s.slots[slot]? = some ⟨none, some request⟩) (hsettled : s.settled request = some result)
    (hnone : ∀ (call : Nat) found, s.calls[call]? ≠ some (.issuing found request)) :
    Inv { s with slots := s.slots.set slot ⟨result.toOption, none⟩ } := by
  have hlt : slot < s.slots.length := (List.getElem?_eq_some_iff.mp hslot).1
  have hself : (s.slots.set slot ⟨result.toOption, none⟩)[slot]? = some ⟨result.toOption, none⟩ :=
    List.getElem?_set_self hlt
  have hcurrent : ∀ {landed}, (s.slot.bind fun i =>
        (s.slots.set slot ⟨result.toOption, none⟩)[i]?) = some landed →
      s.slot = some slot ∧ landed = ⟨result.toOption, none⟩ ∨ s.current = some landed := by
    intro landed h
    obtain ⟨i, hi, h⟩ := Option.bind_eq_some_iff.mp h
    rcases of_getElem?_set h with ⟨rfl, heq⟩ | ⟨-, hold⟩
    · exact Or.inl ⟨hi, heq⟩
    · exact Or.inr (Option.bind_eq_some_iff.mpr ⟨i, hi, hold⟩)
  have hkeeps : s.slot ≠ some slot → (s.slot.bind fun i =>
      (s.slots.set slot ⟨result.toOption, none⟩)[i]?) = s.current := by
    intro hne
    rw [current]
    cases hslot' : s.slot with
    | none => rfl
    | some i => exact List.getElem?_set_ne fun heq => hne (hslot'.trans (congrArg some heq.symm))
  have hlanded : s.slot = some slot → (s.slot.bind fun i =>
      (s.slots.set slot ⟨result.toOption, none⟩)[i]?) = some ⟨result.toOption, none⟩ := by
    intro heq
    rw [heq]
    exact hself
  have hbefore : s.slot = some slot → s.current = some ⟨none, some request⟩ := by
    intro heq
    rw [current, heq]
    exact hslot
  have hholds : ∀ {issued}, s.Holds issued →
      Holds { s with slots := s.slots.set slot ⟨result.toOption, none⟩ } issued := by
    intro issued h
    by_cases heq : s.slot = some slot
    · obtain ⟨found, hfound, hissued⟩ := h
      obtain rfl := Option.some.inj ((hbefore heq).symm.trans hfound)
      rcases hissued with hissued | ⟨other, hother, hissued⟩
      · cases hissued
      · cases hother
        obtain rfl := Option.some.inj (hsettled.symm.trans hissued)
        exact ⟨_, hlanded heq, Or.inl rfl⟩
    · obtain ⟨found, hfound, hissued⟩ := h
      exact ⟨found, (hkeeps heq).trans hfound, hissued⟩
  exact { hs with
    slot_lt := fun i h => by
      rw [List.length_set]
      exact hs.slot_lt i h
    flying := fun i found other h hflying => by
      rcases of_getElem?_set h with ⟨-, rfl⟩ | ⟨-, hold⟩
      · cases hflying
      · exact hs.flying i found other hold hflying
    unsettled := fun other h => by
      have hflying := hs.unsettled other h
      by_cases heq : s.slot = some slot
      · rw [inFlight_eq, hbefore heq] at hflying
        cases hflying
        obtain ⟨generation, h⟩ := h
        rw [settled, h] at hsettled
        cases hsettled
      · rw [inFlight_eq, current, hkeeps heq]
        exact hflying
    issuing := fun call found other h => by
      have hfound := hs.issuing call found other h
      have hne : slot ≠ found := by
        rintro rfl
        have heq := hslot.symm.trans hfound
        simp only [Option.some.injEq, SessionSlot.mk.injEq, true_and] at heq
        exact hnone call slot (heq ▸ h)
      exact (List.getElem?_set_ne hne).trans hfound
    session := fun found issued hfound h => by
      rcases hcurrent hfound with ⟨heq, rfl⟩ | hold
      · cases result with
        | error message => cases h
        | ok answered =>
          obtain rfl := Option.some.inj h
          have horigin := hs.origin request answered hsettled
          rw [horigin]
          refine ⟨hs.inFlight_fresh request ?_, ?_⟩
          · rw [inFlight_eq, hbefore heq]
            rfl
          · intro other heq
            cases heq
            exact ⟨answered, hsettled⟩
      · exact hs.session found issued hold h
    inFlight_fresh := fun other h => by
      obtain ⟨found, hfound, hflying⟩ := Option.bind_eq_some_iff.mp h
      rcases hcurrent hfound with ⟨-, rfl⟩ | hold
      · cases hflying
      · exact hs.inFlight_fresh other (Option.bind_eq_some_iff.mpr ⟨found, hold, hflying⟩)
    returned_since := fun call issued hsince h => hholds (hs.returned_since call issued hsince h)
    joined_since := fun call other hsince h => by
      rcases hs.joined_since call other hsince h with hflying | herror | ⟨issued, hok, hheld⟩
      · by_cases heq : s.slot = some slot
        · rw [inFlight_eq, hbefore heq] at hflying
          cases hflying
          cases result with
          | error message => exact Or.inr (Or.inl ⟨message, hsettled⟩)
          | ok issued =>
            refine Or.inr (Or.inr ⟨issued, hsettled, hholds ⟨_, hbefore heq, Or.inr ?_⟩⟩)
            exact ⟨request, rfl, hsettled⟩
        · refine Or.inl ?_
          rw [inFlight_eq, current, hkeeps heq]
          exact hflying
      · exact Or.inr (Or.inl herror)
      · exact Or.inr (Or.inr ⟨issued, hok, hholds hheld⟩) }

theorem inv_goOn (h : s.goOn call = some t) : t.Inv := by
  rw [goOn] at h
  split at h
  · next slot request hcall =>
    have hlt : call < s.calls.length := (List.getElem?_eq_some_iff.mp hcall).1
    have hslot := hs.issuing call slot request hcall
    have hfree : ∀ (other : Nat) found,
        (s.calls.set call .ended)[other]? ≠ some (.issuing found request) := by
      intro other found h
      rcases of_getElem?_set h with ⟨-, heq⟩ | ⟨hne, hold⟩
      · cases heq
      · exact hne (hs.issuing_unique other call found slot request hold hcall)
    split at h
    · cases h
    · next message hsettled =>
      cases h
      have hended := inv_refuse hs hlt message
      have hmodify : s.slots.modify slot (fun found => { found with inFlight := none })
          = s.slots.set slot ⟨none, none⟩ := by
        apply List.ext_getElem?
        intro i
        rw [List.getElem?_modify, List.getElem?_set]
        by_cases hi : slot = i
        · subst hi
          obtain ⟨hbound, hget⟩ := List.getElem?_eq_some_iff.mp hslot
          simp [hbound, hget]
        · simp [hi]
      rw [hmodify]
      exact inv_landed hended hslot hsettled hfree
    · next issued hsettled =>
      cases h
      have horigin := hs.origin request issued hsettled
      have hmayEnd : s.MayEnd call (.returned call issued) := by
        apply mayEnd_returned
        · rw [horigin]
          exact hs.issuing_fresh call slot request hcall
        · intro other heq
          obtain rfl := Option.some.inj (horigin.symm.trans heq)
          exact ⟨issued, hsettled⟩
        · intro hsince
          have hcurrent : s.current = some ⟨none, some request⟩ := by
            rw [current, hs.issuing_since call slot request hsince hcall]
            exact hslot
          exact ⟨_, hcurrent, Or.inr ⟨request, rfl, hsettled⟩⟩
      have hended := inv_endCall hs hlt hmayEnd
      exact inv_landed hended hslot hsettled hfree
  · next request hcall =>
    have hlt : call < s.calls.length := (List.getElem?_eq_some_iff.mp hcall).1
    split at h
    · cases h
    · next message hsettled => exact Option.some.inj h ▸ inv_refuse hs hlt message
    · next issued hsettled =>
      have horigin := hs.origin request issued hsettled
      refine Option.some.inj h ▸ inv_endCall hs hlt (mayEnd_returned ?_ ?_ fun hsince => ?_)
      · rw [horigin]
        exact hs.joined_fresh call request hcall
      · intro other heq
        obtain rfl := Option.some.inj (horigin.symm.trans heq)
        exact ⟨issued, hsettled⟩
      · rcases hs.joined_since call request hsince hcall with hflying | ⟨message, herror⟩ | ⟨found, hok, hheld⟩
        · obtain ⟨slot, hslot, hflying⟩ := Option.bind_eq_some_iff.mp hflying
          exact ⟨slot, hslot, Or.inr ⟨request, hflying, hsettled⟩⟩
        · have heq := herror.symm.trans hsettled
          cases heq
        · have heq := hok.symm.trans hsettled
          cases heq
          exact hheld
  · cases h

theorem inv_look {readings : LookReadings}
    (horderly : s.StartsRequest form call readings → ∀ request, .waiting request false ∉ s.clears)
    (h : s.look form call readings = some t) : t.Inv := by
  rw [look] at h
  split at h
  · next generation requireExisting hcall =>
    have hlt : call < s.calls.length := (List.getElem?_eq_some_iff.mp hcall).1
    split at h
    · exact Option.some.inj h ▸ inv_refuse hs hlt _
    · next hvalidated =>
      split at h
      · exact Option.some.inj h ▸ inv_refuse hs hlt _
      · next hgeneration =>
        split at h
        · exact Option.some.inj h ▸ inv_refuse hs hlt _
        · next next i slot hopen =>
          have hopened := opened_openSlot hs hopen
          have hlt' : call < next.calls.length := hopened.calls ▸ hlt
          have hcurrent : next.current = some slot := by
            rw [current, hopened.current.1]
            exact hopened.current.2
          split at h
          · next issued hsession =>
            split at h
            · exact Option.some.inj h ▸ inv_refuse hopened.inv hlt' _
            · obtain ⟨hstale, hanswered⟩ := hopened.inv.session slot issued hcurrent hsession
              exact Option.some.inj h ▸ inv_endCall hopened.inv hlt' (mayEnd_returned
                (fun houtdated => hstale houtdated.stale) hanswered
                fun _ => ⟨slot, hcurrent, Or.inl hsession⟩)
          · next hsession =>
            split at h
            · next request hflying =>
              refine Option.some.inj h ▸ inv_join hopened.inv ?_
              exact Option.bind_eq_some_iff.mpr ⟨slot, hcurrent, hflying⟩
            · next hfree =>
              have hslot : slot = ⟨none, none⟩ := by
                obtain ⟨session, inFlight⟩ := slot
                simp only at hsession hfree
                rw [hsession, hfree]
              subst hslot
              split at h
              · exact Option.some.inj h ▸ inv_refuse hopened.inv hlt' _
              · next hexisting =>
                have hgeneration : generation = s.generation := by simpa using hgeneration
                have hcall : s.calls[call]? = some (.validating generation false) := by
                  cases requireExisting with
                  | false => exact hcall
                  | true => exact absurd rfl hexisting
                have hstarts : s.StartsRequest form call readings :=
                  ⟨generation, next, i, hcall, by simpa using hvalidated, hgeneration, hopen⟩
                have hissue := inv_issue hopened.inv hlt' hopened.current
                  (fun request => hopened.clears ▸ horderly hstarts request)
                rw [hopened.generation, ← hgeneration] at hissue
                exact Option.some.inj h ▸ hissue
  · cases h

theorem inv_sessionForForm (requireExisting : Bool) :
    (s.sessionForForm requireExisting).Inv := by
  let calls := s.calls ++ [CallStage.validating s.generation requireExisting]
  have hstage : ∀ {other : Nat} {stage}, calls[other]? = some stage →
      stage ≠ .validating s.generation requireExisting → s.calls[other]? = some stage := by
    intro other stage h hne
    rcases of_getElem?_concat h with hold | ⟨-, heq⟩
    · exact hold
    · exact absurd heq hne
  have hlength : calls.length = s.calls.length + 1 := by simp [calls]
  have hadded : Inv { s with calls := calls } :=
    inv_calls hs (by omega) (fun h => hstage h (by simp)) (fun h => Or.inr (hstage h (by simp)))
  have hnew : calls[s.calls.length]? = some (.validating s.generation requireExisting) := by
    simp [calls]
  refine inv_logged hadded rfl (by simp) ?_ (by simp) (by simp)
  rintro call ⟨⟩
  refine ⟨hlength ▸ Nat.lt_succ_self _, ?_, ?_, ?_⟩
  · intro slot request h
    have heq := hnew.symm.trans h
    cases heq
  · intro request h
    have heq := hnew.symm.trans h
    cases heq
  · intro issued h
    exact absurd (hs.returned_lt _ issued h) (Nat.lt_irrefl _)

theorem inv_cleared (hclear : entry.isClear = true)
    {generation : Nat} (hgeneration : s.generation ≤ generation)
    (hcalled : ∀ clear, entry = .clearCalled clear → s.generation < generation)
    {grant : Option StoredGrant} {slot : Option Nat} {clears : List ClearStage}
    (hclears : ∀ request, .waiting request false ∈ clears →
      .waiting request false ∈ s.clears ∨ s.inFlight = some request)
    (hkept : entry.removesGrant = false ∧ grant = s.grant ∧ slot = s.slot
      ∨ entry.removesGrant = true ∧ (∀ request, ¬ s.Unsettled request) ∧ grant = none ∧ slot = none) :
    Inv { s with
      generation := generation
      grant := grant
      slot := slot
      clears := clears
      log := entry :: s.log } := by
  have hsince : ∀ {other}, CalledSince (entry :: s.log) other → CalledSince s.log other ∧ slot = s.slot := by
    intro other h
    obtain ⟨hremoves, hcalled⟩ := calledSince_cons.mp h
    refine ⟨hcalled.resolve_left ?_, ?_⟩
    · rintro rfl
      cases hclear
    · rcases hkept with ⟨-, -, hslot⟩ | ⟨hremoved, -⟩
      · exact hslot
      · rw [hremoves] at hremoved
        cases hremoved
  have hentry : ∀ {found : BridgeEntry}, found.isClear = false → entry ≠ found := by
    rintro found hfound rfl
    rw [hclear] at hfound
    cases hfound
  have hmem : ∀ {found : BridgeEntry}, found ∈ entry :: s.log → found.isClear = false → found ∈ s.log :=
    fun h hfound => (List.mem_cons.mp h).resolve_left (Ne.symm (hentry hfound))
  have houtdated : ∀ {other origin}, Outdated (entry :: s.log) other origin → Outdated s.log other origin :=
    fun h => (outdated_cons.mp h).resolve_right fun ⟨heq, _⟩ => hentry rfl heq
  have hstale : (∀ clear, entry ≠ .clearResolved clear false) → ∀ {origin},
      Stale (entry :: s.log) origin → Stale s.log origin :=
    fun hne _ h => (stale_cons.mp h).resolve_right fun ⟨⟨clear, heq⟩, _⟩ => hne clear heq
  have hnone : entry.removesGrant = false → ∀ clear, entry ≠ .clearResolved clear false := by
    rintro hremoves clear rfl
    cases hremoves
  have hcurrent : ∀ {found}, (slot.bind fun i => s.slots[i]?) = some found →
      (∀ clear, entry ≠ .clearResolved clear false) ∧ s.current = some found := by
    intro found h
    rcases hkept with ⟨hremoves, -, rfl⟩ | ⟨-, -, -, rfl⟩
    · exact ⟨hnone hremoves, h⟩
    · cases h
  have hreturned : ∀ {other issued}, CalledSince (entry :: s.log) other →
      .returned other issued ∈ entry :: s.log → s.Holds issued :=
    fun h h' => hs.returned_since _ _ (hsince h).1 (hmem h' rfl)
  exact { hs with
    slot_lt := fun i h => by
      rcases hkept with ⟨-, -, rfl⟩ | ⟨-, -, -, rfl⟩
      · exact hs.slot_lt i h
      · cases h
    unsettled := fun request h => by
      rcases hkept with ⟨-, -, rfl⟩ | ⟨-, hsettled, -, -⟩
      · exact hs.unsettled request h
      · exact absurd h (hsettled request)
    waiting := fun request other h hother => by
      rcases hclears request h with hold | hflying
      · exact hs.waiting request other hold hother
      · exact Option.some.inj ((hs.unsettled other hother).symm.trans hflying)
    issued_lt := fun request h => hs.issued_lt request (hmem h rfl)
    called_lt := fun other h => hs.called_lt other (hmem h rfl)
    returned_lt := fun other issued h => hs.returned_lt other issued (hmem h rfl)
    settled_logged := fun request result h => List.mem_cons_of_mem _ (hs.settled_logged request result h)
    cleared_lt := fun request found h hrequest => by
      rcases clearedSince_cons.mp h with hold | ⟨⟨clear, heq⟩, -⟩
      · exact Nat.lt_of_lt_of_le (hs.cleared_lt request found hold hrequest) hgeneration
      · exact Nat.lt_of_le_of_lt (hs.generation_le request _ hrequest) (hcalled clear heq)
    generation_le := fun request found h => Nat.le_trans (hs.generation_le request found h) hgeneration
    not_answered := fun request issued h hsettled => by
      rcases fenced_cons.mp h with hold | ⟨-, -, hunsettled⟩
      · exact hs.not_answered request issued hold hsettled
      · exact hunsettled (hs.settled_logged request _ hsettled)
    grant := fun found h => by
      rcases hkept with ⟨hremoves, rfl, -⟩ | ⟨-, -, rfl, -⟩
      · exact (hs.grant found h).imp_left fun hfresh h => hfresh (hstale (hnone hremoves) h)
      · cases h
    session := fun found issued hfound h => by
      obtain ⟨hne, hold⟩ := hcurrent hfound
      exact (hs.session found issued hold h).imp_left fun hfresh h => hfresh (hstale hne h)
    inFlight_fresh := fun request h h' => by
      obtain ⟨found, hfound, hflying⟩ := Option.bind_eq_some_iff.mp h
      obtain ⟨hne, hold⟩ := hcurrent hfound
      exact hs.inFlight_fresh request (Option.bind_eq_some_iff.mpr ⟨found, hold, hflying⟩) (hstale hne h')
    issuing_fresh := fun other found request h h' => hs.issuing_fresh other found request h (houtdated h')
    joined_fresh := fun other request h h' => hs.joined_fresh other request h (houtdated h')
    returned := fun other issued h =>
      (hs.returned other issued (hmem h rfl)).imp_left fun hfresh h => hfresh (houtdated h)
    returned_since := fun other issued h h' => by
      obtain ⟨-, rfl⟩ := hsince h
      exact hreturned h h'
    issuing_since := fun other found request h h' => by
      obtain ⟨hcalled, rfl⟩ := hsince h
      exact hs.issuing_since other found request hcalled h'
    joined_since := fun other request h h' => by
      obtain ⟨hcalled, rfl⟩ := hsince h
      exact hs.joined_since other request hcalled h'
    same_session := same_session_cons hs.same_session fun _ _ _ _ hfirst hissued hsecond hfound =>
      Holds.unique hs (hreturned hfirst hissued) (hreturned hsecond hfound)
    not_persisted := not_persisted_cons hs.not_persisted fun request heq => absurd heq (hentry rfl) }

theorem inv_finishClear (clear : Nat) {preserveGrant : Bool} (removes : Bool)
    (hfree : preserveGrant = false → ∀ request, ¬ s.Unsettled request) :
    (s.finishClear form clear preserveGrant removes).Inv := by
  have hclears : ∀ request, .waiting request false ∈ s.clears.set clear .ended →
      .waiting request false ∈ s.clears ∨ s.inFlight = some request := by
    intro request h
    exact Or.inl ((List.mem_or_eq_of_mem_set h).resolve_right (by simp))
  rw [finishClear]
  split
  · exact inv_cleared hs rfl (Nat.le_refl _) (by simp) hclears (Or.inl ⟨rfl, rfl, rfl⟩)
  · next hpreserve =>
    split
    · exact inv_cleared hs rfl (Nat.le_refl _) (by simp) hclears (Or.inl ⟨rfl, rfl, rfl⟩)
    · exact inv_cleared hs rfl (Nat.le_refl _) (by simp) hclears
        (Or.inr ⟨rfl, hfree (by simpa using hpreserve), rfl, rfl⟩)

theorem inv_clearForForm (preserveGrant removes : Bool) :
    (s.clearForForm form preserveGrant removes).Inv := by
  have hcalled : ∀ clears, (∀ request, .waiting request false ∈ clears →
      .waiting request false ∈ s.clears ∨ s.inFlight = some request) →
      Inv { s with
        generation := s.generation + 1
        clears := clears
        log := .clearCalled s.clears.length :: s.log } := fun _ hclears =>
    inv_cleared hs rfl (Nat.le_succ _) (fun _ _ => Nat.lt_succ_self _) hclears
      (Or.inl ⟨rfl, rfl, rfl⟩)
  rw [clearForForm]
  split
  · next request hflying =>
    refine hcalled _ fun other h => ?_
    rcases List.mem_append.mp h with hold | hnew
    · exact Or.inl hold
    · obtain ⟨rfl, -⟩ := ClearStage.waiting.inj (List.mem_singleton.mp hnew)
      exact Or.inr hflying
  · next hnone =>
    apply inv_finishClear
    · refine hcalled _ fun other h => Or.inl ?_
      exact (List.mem_append.mp h).resolve_right (by simp)
    · intro _ request h
      have hsome := hs.unsettled request h
      have hnone : s.inFlight = none := hnone
      rw [hnone] at hsome
      cases hsome

theorem inv_goOnClear {clear : Nat} {removes : Bool}
    (h : s.goOnClear form clear removes = some t) : t.Inv := by
  rw [goOnClear] at h
  split at h
  · next request preserveGrant hclear =>
    split at h
    · next hsettled =>
      refine Option.some.inj h ▸ inv_finishClear hs clear removes ?_
      rintro rfl other hother
      obtain rfl := hs.waiting request other (List.mem_of_getElem? hclear) hother
      obtain ⟨generation, hother⟩ := hother
      rw [settled, hother] at hsettled
      cases hsettled
    · cases h
  · cases h

theorem inv_step {event : Event} (horderly : s.Orderly form event)
    (h : s.step form event = some t) : t.Inv := by
  cases event with
  | sessionForForm requireExisting => exact Option.some.inj h ▸ inv_sessionForForm hs requireExisting
  | look call readings => exact inv_look hs horderly h
  | settle request reply now writes => exact inv_settle hs h
  | goOn call => exact inv_goOn hs h
  | clearForForm preserveGrant removes => exact Option.some.inj h ▸ inv_clearForForm hs preserveGrant removes
  | goOnClear clear removes => exact inv_goOnClear hs h

end

theorem preserved_finishClear {clear : Nat} {removes : Bool} :
    (s.finishClear form clear true removes).current = s.current
      ∧ (s.finishClear form clear true removes).grant = s.grant :=
  ⟨rfl, rfl⟩

/-- A clear that preserves the grant changes neither the slot of the form nor its stored grant. -/
theorem preserved_clear {removes : Bool} (h : t = s.clearForForm form true removes
      ∨ ∃ clear request, s.clears[clear]? = some (.waiting request true)
        ∧ s.goOnClear form clear removes = some t) :
    t.current = s.current ∧ t.grant = s.grant := by
  rcases h with rfl | ⟨clear, request, hclear, h⟩
  · rw [clearForForm]
    split
    · exact ⟨rfl, rfl⟩
    · exact preserved_finishClear
  · rw [goOnClear, hclear] at h
    simp only at h
    split at h
    · exact Option.some.inj h ▸ preserved_finishClear
    · cases h

theorem look_returns {requireExisting : Bool} {readings : LookReadings} {slot : SessionSlot}
    {issued : Issued} (hcurrent : s.current = some slot) (hsession : slot.session = some issued)
    (hcall : s.calls[call]? = some (.validating s.generation requireExisting))
    (hvalidated : readings.validated = true)
    (hlasts : form.expiresSoon issued.session.expiresAt readings.now = false) :
    s.look form call readings = some (s.endCall call (.returned call issued)) := by
  obtain ⟨i, hi, hslot⟩ := Option.bind_eq_some_iff.mp hcurrent
  have hopen : s.openSlot form readings.reads = .ok (s, i, slot) := by
    rw [openSlot, hi]
    simp only [hslot, Option.getD_some]
  rw [look, hcall]
  simp only [hvalidated, hopen, hsession, hlasts, ne_eq, not_true_eq_false, if_false, Bool.not_true,
    Bool.false_eq_true]

theorem Inv.oneSession (hs : s.Inv) : s.OneSession where
  one_request first second hfirst hsecond :=
    Option.some.inj ((hs.unsettled first hfirst).symm.trans (hs.unsettled second hsecond))
  __ := hs
  not_returned call issued h := (hs.returned call issued h).1
  fenced call issued request h horigin hfenced := by
    obtain ⟨found, hfound⟩ := (hs.returned call issued h).2 request horigin
    exact hs.not_answered request found hfenced hfound
  preserved _ _ _ h := preserved_clear h
  returns _ _ _ _ _ _ hcurrent hsession hcall hvalidated hlasts :=
    look_returns hcurrent hsession hcall hvalidated hlasts

end Steps

end FormSessions

/-! ## Runs of the bridge -/

namespace AnonymousSessionBridge

variable {config : AnonymousSessionBridgeConfig} {s t : AnonymousSessionBridge}

/-- No call issues a request while a clear of its form that does not preserve the grant waits. -/
def Orderly (config : AnonymousSessionBridgeConfig) (s : AnonymousSessionBridge) (event : Event) :
    Prop :=
  ∀ formId, config.formIdResolver event.formUrl event.version = .ok formId →
    (s formId).Orderly (config.form formId) event.act

theorem inv_step (hs : ∀ formId, (s formId).Inv) {event : Event} (horderly : Orderly config s event)
    (h : step config s event = some t) (formId : String) : (t formId).Inv := by
  rw [step] at h
  split at h
  · exact Option.some.inj h ▸ hs formId
  · next resolved hresolved =>
    obtain ⟨next, hnext, rfl⟩ := Option.map_eq_some_iff.mp h
    by_cases hform : formId = resolved
    · subst hform
      rw [Function.update_self]
      exact FormSessions.inv_step (hs _) (horderly _ hresolved) hnext
    · rw [Function.update_of_ne hform]
      exact hs formId

/-- In every orderly run of the bridge, and for every form. -/
theorem one_session_run {grants : String → Option Shared.Value} {events : List Event}
    {states : List AnonymousSessionBridge}
    (horderly : EveryStep (step config) (Orderly config) (opened grants) events)
    (h : statesOf (step config) (opened grants) events = some states) :
    ∀ reached ∈ states, ∀ formId, (reached formId).OneSession := by
  intro reached hreached formId
  have hinv := statesOf_invariant (J := fun s : AnonymousSessionBridge => ∀ formId, (s formId).Inv)
    (fun s event next hs hevent hnext => inv_step hs hevent hnext)
    (fun formId => FormSessions.inv_opened (grants formId)) horderly h
  exact (hinv reached hreached formId).oneSession

section Sample

def sampleConfig : AnonymousSessionBridgeConfig where
  formIdResolver url _ := if url = "urn:form" then .ok "conformance" else .error "URI malformed"
  dateParse text := if text = "2099-01-01T00:00:00.000Z" then some 4070908800000 else none
  persists := true

def sampleView (token : String) : Shared.Value :=
  .object [("session_id", .string "server-session-id"), ("session_token", .string token),
    ("subject_ref", .string "anon:server-subject"), ("form_id", .string "conformance"),
    ("expires_at", .string "2099-01-01T00:00:00.000Z")]

def sampleSession (token : String) : AnonymousSession :=
  ⟨"server-session-id", token, "anon:server-subject", "conformance", "2099-01-01T00:00:00.000Z"⟩

def act (act : FormSessions.Event) : Event := ⟨"urn:form", none, act⟩

def look (call : Nat) : Event := act (.look call ⟨true, true, 0⟩)

def answer (request : Nat) (token : String) : Event :=
  act (.settle request (.ok (sampleView token)) 0 true)

/-- A clear waits for the request it fences. Two calls behind it share a request, and a call behind a
clear that preserves the grant gets their session; a form that cannot be resolved is refused. -/
def clearedRequests : List Event :=
  [act (.sessionForForm false), look 0, act (.clearForForm false true), answer 0 "token-0",
    act (.goOn 0), act (.goOnClear 0 true), act (.sessionForForm false), act (.sessionForForm false),
    look 1, look 2, answer 1 "token-1", ⟨"%", none, .sessionForForm false⟩, act (.goOn 1), act (.goOn 2),
    act (.clearForForm true true), act (.sessionForForm false), look 3]

/-- A session is issued, the form is cleared but its grant preserved, and a call follows. -/
def preservedGrant : List Event :=
  [act (.sessionForForm false), look 0, answer 0 "token-0", act (.goOn 0),
    act (.clearForForm true true), act (.sessionForForm false), look 1]

/-- The issuing call goes on behind its fenced request before the clear that waits for it does, and
another call issues a request between the two. -/
def overtakenClear : List Event :=
  [act (.sessionForForm false), look 0, act (.clearForForm false true), act (.sessionForForm false),
    answer 0 "token-0", act (.goOn 0), look 1, act (.goOnClear 0 true), act (.sessionForForm false),
    look 2]

/-- No clear waits that does not preserve the grant as a call looks. -/
def looksBehindClears (s : AnonymousSessionBridge) (event : Event) : Bool :=
  match event.act with
  | .look _ _ => (s "conformance").clears.all fun
      | .waiting _ false => false
      | _ => true
  | _ => true

theorem orderly_of_looksBehindClears (s : AnonymousSessionBridge) (event : Event)
    (h : looksBehindClears s event = true) : Orderly sampleConfig s event := by
  intro formId hform
  obtain rfl : formId = "conformance" := by
    simp only [sampleConfig] at hform
    split at hform
    · exact (Except.ok.inj hform).symm
    · cases hform
  unfold looksBehindClears at h
  cases hact : event.act with
  | look call readings =>
    rw [hact] at h
    intro _ request hwaiting
    exact absurd (List.all_eq_true.mp h _ hwaiting) (by simp)
  | _ => trivial

theorem one_session_run_clearedRequests :
    ∃ states last, statesOf (step sampleConfig) (opened fun _ => none) clearedRequests = some states
      ∧ states.getLast? = some last
      ∧ .clearResolved 0 false ∈ (last "conformance").log
      ∧ .returned 1 ⟨sampleSession "token-1", some 1⟩ ∈ (last "conformance").log
      ∧ .returned 2 ⟨sampleSession "token-1", some 1⟩ ∈ (last "conformance").log
      ∧ .returned 3 ⟨sampleSession "token-1", some 1⟩ ∈ (last "conformance").log
      ∧ ∀ reached ∈ states, ∀ formId, (reached formId).OneSession := by
  have hrun : (statesOf (step sampleConfig) (opened fun _ => none) clearedRequests).bind
      (fun states => states.getLast?.map fun last => (last "conformance").log)
      = some [.returned 3 ⟨sampleSession "token-1", some 1⟩, .called 3, .clearResolved 1 true,
          .clearCalled 1, .returned 2 ⟨sampleSession "token-1", some 1⟩,
          .returned 1 ⟨sampleSession "token-1", some 1⟩, .persisted 1, .settled 1, .issued 1, .called 2,
          .called 1, .clearResolved 0 false, .refused 0 FormSessions.issuedWhileClearedMessage,
          .settled 0, .clearCalled 0, .issued 0, .called 0] := by
    decide +kernel
  obtain ⟨states, hstates, hread⟩ := Option.bind_eq_some_iff.mp hrun
  obtain ⟨last, hlast, hlog⟩ := Option.map_eq_some_iff.mp hread
  have hlooks : EveryStep (step sampleConfig) (fun s event => looksBehindClears s event = true)
      (opened fun _ => none) clearedRequests := by decide +kernel
  have horderly : EveryStep (step sampleConfig) (Orderly sampleConfig) (opened fun _ => none)
      clearedRequests :=
    everyStep_of_invariant (J := fun _ => True) (fun _ _ _ _ _ _ => trivial)
      (fun s event _ h => orderly_of_looksBehindClears s event h) trivial hlooks
  exact ⟨states, last, hstates, hlast, by simp [hlog], by simp [hlog], by simp [hlog], by simp [hlog],
    one_session_run horderly hstates⟩

/-- A session is returned to a call that began after a clear, which preserved the grant; and two
requests are in flight at once. -/
theorem preserved_and_overtaken :
    (∃ states last newer older, statesOf (step sampleConfig) (opened fun _ => none) preservedGrant
          = some states
        ∧ states.getLast? = some last
        ∧ (last "conformance").log = newer ++ .clearResolved 0 true :: older
        ∧ .issued 0 ∈ older ∧ .called 1 ∈ newer
        ∧ .returned 1 ⟨sampleSession "token-0", some 0⟩ ∈ newer)
      ∧ ∃ states last, statesOf (step sampleConfig) (opened fun _ => none) overtakenClear = some states
        ∧ states.getLast? = some last
        ∧ ¬ (last "conformance").OneSession := by
  constructor
  · have hrun : (statesOf (step sampleConfig) (opened fun _ => none) preservedGrant).bind
        (fun states => states.getLast?.map fun last => (last "conformance").log)
        = some ([.returned 1 ⟨sampleSession "token-0", some 0⟩, .called 1]
            ++ .clearResolved 0 true :: [.clearCalled 0, .returned 0 ⟨sampleSession "token-0", some 0⟩,
              .persisted 0, .settled 0, .issued 0, .called 0]) := by
      decide +kernel
    obtain ⟨states, hstates, hread⟩ := Option.bind_eq_some_iff.mp hrun
    obtain ⟨last, hlast, hlog⟩ := Option.map_eq_some_iff.mp hread
    exact ⟨states, last, _, _, hstates, hlast, hlog, by simp, by simp, by simp⟩
  · have hrun : (statesOf (step sampleConfig) (opened fun _ => none) overtakenClear).bind
        (fun states => states.getLast?.map fun last =>
          (last "conformance").requests.map IssueRequest.result)
        = some [some (.error FormSessions.issuedWhileClearedMessage), none, none] := by
      decide +kernel
    obtain ⟨states, hstates, hread⟩ := Option.bind_eq_some_iff.mp hrun
    obtain ⟨last, hlast, hrequests⟩ := Option.map_eq_some_iff.mp hread
    refine ⟨states, last, hstates, hlast, fun hone => ?_⟩
    have hunsettled : ∀ i, ((last "conformance").requests.map IssueRequest.result)[i]? = some none →
        (last "conformance").Unsettled i := by
      intro i h
      rw [List.getElem?_map] at h
      obtain ⟨⟨generation, result⟩, hfound, rfl⟩ := Option.map_eq_some_iff.mp h
      exact ⟨generation, hfound⟩
    have heq := hone.one_request 1 2 (hunsettled 1 (by rw [hrequests]; rfl))
      (hunsettled 2 (by rw [hrequests]; rfl))
    cases heq

end Sample

end AnonymousSessionBridge

end FormspecWeb.Identity
