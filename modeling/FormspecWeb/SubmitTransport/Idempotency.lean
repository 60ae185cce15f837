import FormspecWeb.SubmitTransport.HttpSubmitTransport

/-!
# Idempotent submission

What the log of a transport keeps for each idempotency key: one finalized handoff, one
submission at a time, and one confirmation.
-/

namespace FormspecWeb.SubmitTransport

open Shared Async

def Entry.call : Entry → Nat
  | .called call _ _ _ _ _ => call
  | .sent call _ _ => call
  | .answered call _ => call
  | .settled call _ _ => call
  | .returned call _ _ => call

def Entry.taken? (config : HttpSubmitTransportConfig) (key : String) : Entry → Option Finalized
  | .called _ found handoff options _ (.ok _) =>
    if found = key then
      (snapshotSubmitOptions config options).toOption.map fun selected => ⟨handoff, selected⟩
    else none
  | _ => none

def firstTaken (config : HttpSubmitTransportConfig) (key : String) : List Entry → Option Finalized
  | [] => none
  | entry :: older => (firstTaken config key older).or (entry.taken? config key)

def inFlight (key : String) : List Entry → List Nat
  | [] => []
  | .sent call found _ :: older => if found = key then call :: inFlight key older else inFlight key older
  | .answered call _ :: older => (inFlight key older).filter (· != call)
  | _ :: older => inFlight key older

def confirmed (key : String) : List Entry → Option SubmitConfirmation
  | [] => none
  | .settled _ found (.ok confirmation) :: older =>
    if found = key then some confirmation else confirmed key older
  | _ :: older => confirmed key older

def confirmedBefore (call : Nat) (key : String) : List Entry → Option SubmitConfirmation
  | [] => none
  | .called found _ _ _ _ _ :: older =>
    if found = call then confirmed key older else confirmedBefore call key older
  | _ :: older => confirmedBefore call key older

/-- The handoff and options of a call are those of the first one, up to their canonical form. -/
def Preserves (config : HttpSubmitTransportConfig) (first : Finalized) (handoff options : Value) : Prop :=
  config.canonicalize handoff = config.canonicalize first.handoff
    ∧ ∃ selected, snapshotSubmitOptions config options = .ok selected
      ∧ config.canonicalize selected = config.canonicalize first.options

/-- A call that differs from the first is refused. One that does not, that carries a canonical
Response and whose context is current, is admitted, to the submission that succeeded where one
did. -/
def CallKept (config : HttpSubmitTransportConfig) (key : String) (handoff options : Value)
    (current : Except SubmitError Unit) (admission : Except SubmitError Nat) (older : List Entry) : Prop :=
  ∀ first, firstTaken config key older = some first →
    (¬ Preserves config first handoff options → ∃ error, admission = .error error)
    ∧ (Preserves config first handoff options → current = .ok () →
        (∃ response, requireCanonicalResponse handoff = .ok response) →
        ∃ submission, admission = .ok submission ∧ ∀ confirmation,
          confirmed key older = some confirmation →
            Entry.settled submission key (.ok confirmation) ∈ older)

/-- A request is sent by an admitted call while none of the key is in flight and none succeeded,
and it says of the handoff what the first call submitted. -/
def RequestKept (config : HttpSubmitTransportConfig) (call : Nat) (key : String) (request : SubmitRequest)
    (older : List Entry) : Prop :=
  inFlight key older = [] ∧ confirmed key older = none
    ∧ (∃ handoff options current, Entry.called call key handoff options current (.ok call) ∈ older)
    ∧ ∃ first canonicalResponse, firstTaken config key older = some first
      ∧ requireCanonicalResponse first.handoff = .ok canonicalResponse
      ∧ request.toHandoffBody = handoffBody first canonicalResponse (snapshotId canonicalResponse)

def Kept (config : HttpSubmitTransportConfig) : Entry → List Entry → Prop
  | .called _ key handoff options current admission, older =>
    CallKept config key handoff options current admission older
  | .sent call key request, older => RequestKept config call key request older
  | .returned call key outcome, older => ∀ confirmation,
      confirmedBefore call key older = some confirmation → outcome = .ok confirmation
  | _, _ => True

/-- Submission is idempotent: everything that happened was kept, and at most one request of
a key is in flight. -/
structure Idempotent (config : HttpSubmitTransportConfig) (log : List Entry) : Prop where
  kept : Throughout (Kept config) log
  inFlight_le : ∀ key, (inFlight key log).length ≤ 1

/-! ## The invariant -/

structure Consistent (config : HttpSubmitTransportConfig) (s : TransportState) : Prop where
  kept : Throughout (Kept config) s.log
  outcomes_lt : ∀ n outcome, s.outcomes n = some outcome → n < s.owners.length
  replay_lt : ∀ key n, s.replay key = some n → n < s.owners.length
  log_lt : ∀ entry ∈ s.log, entry.call < s.owners.length
  finalized : ∀ key, s.finalizedHandoffs key = firstTaken config key s.log
  valid : ∀ key finalized, s.finalizedHandoffs key = some finalized →
    isUuidV7IdempotencyKey key = true
      ∧ ∃ response, requireCanonicalResponse finalized.handoff = .ok response
  confirmed : ∀ key confirmation, confirmed key s.log = some confirmation →
    ∃ n, s.replay key = some n ∧ s.outcomes n = some (.ok confirmation)
  settled : ∀ key n outcome, s.replay key = some n → s.outcomes n = some outcome →
    Entry.settled n key outcome ∈ s.log
  flying : ∀ key, inFlight key s.log = []
    ∨ ∃ n, inFlight key s.log = [n] ∧ s.replay key = some n ∧ s.outcomes n = none

/-- What thread `u` relies on: the others note only their own entries, leave its submissions
alone, and keep what is finalized and settled. -/
structure Rely (u : Nat) (s s' : TransportState) : Prop where
  owners : s.owners <+: s'.owners
  history : ∃ newer, s'.log = newer ++ s.log
    ∧ ∀ n, s.owners[n]? = some u → ∀ entry ∈ newer, entry.call ≠ n
  finalized : ∀ key finalized, s.finalizedHandoffs key = some finalized →
    s'.finalizedHandoffs key = some finalized
  replay : ∀ n key, s.owners[n]? = some u → (s'.replay key = some n ↔ s.replay key = some n)
  outcome : ∀ n, s.owners[n]? = some u → s'.outcomes n = s.outcomes n
  settled : ∀ n outcome, s.outcomes n = some outcome → s'.outcomes n = some outcome

/-- What a write of thread `t` does. -/
structure Move (config : HttpSubmitTransportConfig) (t : Nat) (s s' : TransportState) : Prop where
  consistent : Consistent config s'
  others : ∀ u, u ≠ t → Rely u s s'

/-- The contract of thread `t`. -/
abbrev keeping (config : HttpSubmitTransportConfig) (t : Nat) : Contract TransportState Rep where
  inv := Consistent config
  rely := Rely t
  guar := Move config t
  admits s l answer := (Discipline.free TransportState TransportOp Rep).resumes s l answer
    ∧ ∃ arrival, accept s l arrival = some answer

variable {config : HttpSubmitTransportConfig} {t u n : Nat} {key : String}
  {s s' s'' : TransportState} {α β : Type}

theorem Rely.refl (u : Nat) (s : TransportState) : Rely u s s where
  owners := List.prefix_rfl
  history := ⟨[], rfl, fun _ _ _ h => by cases h⟩
  finalized _ _ h := h
  replay _ _ _ := Iff.rfl
  outcome _ _ := rfl
  settled _ _ h := h

theorem Rely.trans (h : Rely u s s') (h' : Rely u s' s'') : Rely u s s'' where
  owners := h.owners.trans h'.owners
  history := by
    obtain ⟨newer, heq, hcall⟩ := h.history
    obtain ⟨newer', heq', hcall'⟩ := h'.history
    refine ⟨newer' ++ newer, by rw [heq', heq, List.append_assoc], fun n hn entry hentry => ?_⟩
    rcases List.mem_append.mp hentry with hmem | hmem
    · exact hcall' n (owner_mono h.owners hn) entry hmem
    · exact hcall n hn entry hmem
  finalized key finalized hs := h'.finalized key finalized (h.finalized key finalized hs)
  replay n key hn := (h'.replay n key (owner_mono h.owners hn)).trans (h.replay n key hn)
  outcome n hn := (h'.outcome n (owner_mono h.owners hn)).trans (h.outcome n hn)
  settled n outcome hs := h'.settled n outcome (h.settled n outcome hs)

theorem mem_inFlight_append {newer older : List Entry} (h : ∀ entry ∈ newer, entry.call ≠ n) :
    n ∈ inFlight key (newer ++ older) ↔ n ∈ inFlight key older := by
  induction newer with
  | nil => rfl
  | cons entry newer ih =>
    have hhead : entry.call ≠ n := h entry List.mem_cons_self
    have hrest := ih fun entry hentry => h entry (List.mem_cons_of_mem _ hentry)
    rw [List.cons_append]
    cases entry with
    | sent call found request =>
      rw [inFlight]
      split
      · rw [List.mem_cons, hrest]
        exact or_iff_right (Ne.symm hhead)
      · exact hrest
    | answered call found =>
      have hne : call ≠ n := hhead
      rw [inFlight, List.mem_filter, hrest]
      exact and_iff_left (by simpa using hne.symm)
    | called call found handoff options current admission => exact hrest
    | settled call found outcome => exact hrest
    | returned call found outcome => exact hrest

theorem confirmedBefore_append {newer older : List Entry} (h : ∀ entry ∈ newer, entry.call ≠ n) :
    confirmedBefore n key (newer ++ older) = confirmedBefore n key older := by
  induction newer with
  | nil => rfl
  | cons entry newer ih =>
    have hhead : entry.call ≠ n := h entry List.mem_cons_self
    have hrest := ih fun entry hentry => h entry (List.mem_cons_of_mem _ hentry)
    rw [List.cons_append]
    cases entry with
    | called call found handoff options current admission =>
      have hne : call ≠ n := hhead
      rw [confirmedBefore, if_neg hne]
      exact hrest
    | sent call found request => exact hrest
    | answered call found => exact hrest
    | settled call found outcome => exact hrest
    | returned call found outcome => exact hrest

theorem Rely.inFlight_iff (h : Rely u s s') (hn : s.owners[n]? = some u) :
    n ∈ inFlight key s'.log ↔ n ∈ inFlight key s.log := by
  obtain ⟨newer, heq, hcall⟩ := h.history
  rw [heq]
  exact mem_inFlight_append (hcall n hn)

theorem Rely.confirmedBefore_eq (h : Rely u s s') (hn : s.owners[n]? = some u) :
    confirmedBefore n key s'.log = confirmedBefore n key s.log := by
  obtain ⟨newer, heq, hcall⟩ := h.history
  rw [heq]
  exact confirmedBefore_append (hcall n hn)

variable {entry : Entry}

theorem Rely.mem_log (h : Rely u s s') (hentry : entry ∈ s.log) : entry ∈ s'.log := by
  obtain ⟨newer, heq, -⟩ := h.history
  exact heq ▸ List.mem_append_right _ hentry

variable {finalized : Finalized}

variable {canonicalResponse : Value}

theorem checkCall_ok {current : Except SubmitError Unit} {handoff options : Value}
    (h : checkCall config s current key handoff options = .ok (finalized, canonicalResponse)) :
    isUuidV7IdempotencyKey key = true ∧ requireCanonicalResponse finalized.handoff = .ok canonicalResponse
      ∧ ∃ selected, snapshotSubmitOptions config options = .ok selected
        ∧ ((s.finalizedHandoffs key = none ∧ finalized = ⟨handoff, selected⟩)
          ∨ (s.finalizedHandoffs key = some finalized
            ∧ config.canonicalize handoff = config.canonicalize finalized.handoff
            ∧ config.canonicalize selected = config.canonicalize finalized.options)) := by
  obtain ⟨-, h⟩ := then_ok.mp h
  obtain ⟨hkey, h⟩ := failIf_bind_ok.mp h
  obtain ⟨response, hresponse, h⟩ := sequence_ok.mp h
  obtain ⟨selected, hselected, h⟩ := sequence_ok.mp h
  refine ⟨by simpa using hkey, ?_⟩
  split at h
  · rename_i hnone
    obtain ⟨canonical, hcanonical, h⟩ := sequence_ok.mp h
    cases h
    exact ⟨hcanonical, selected, hselected, .inl ⟨hnone, rfl⟩⟩
  · rename_i found hfound
    obtain ⟨hhandoff, h⟩ := failIf_bind_ok.mp h
    obtain ⟨hoptions, h⟩ := failIf_bind_ok.mp h
    obtain ⟨canonical, hcanonical, h⟩ := sequence_ok.mp h
    cases h
    rw [bne_eq_false_iff_eq] at hhandoff hoptions
    exact ⟨hcanonical, selected, hselected, .inr ⟨hfound, hhandoff.symm, hoptions.symm⟩⟩

theorem checkCall_of_preserves {handoff options response : Value}
    (hfinalized : s.finalizedHandoffs key = some finalized) (h : Consistent config s)
    (hpreserves : Preserves config finalized handoff options)
    (hresponse : requireCanonicalResponse handoff = .ok response) :
    ∃ result, checkCall config s (.ok ()) key handoff options = .ok result := by
  obtain ⟨hhandoff, selected, hselected, hoptions⟩ := hpreserves
  obtain ⟨hkey, canonical, hcanonical⟩ := h.valid key finalized hfinalized
  refine ⟨(finalized, canonical), then_ok.mpr ⟨rfl, failIf_bind_ok.mpr ⟨by simp [hkey],
    sequence_ok.mpr ⟨response, hresponse, sequence_ok.mpr ⟨selected, hselected, ?_⟩⟩⟩⟩⟩
  rw [hfinalized]
  exact failIf_bind_ok.mpr ⟨by simp [hhandoff], failIf_bind_ok.mpr ⟨by simp [hoptions],
    sequence_ok.mpr ⟨canonical, hcanonical, rfl⟩⟩⟩

/-! ## Writes -/

structure Fresh (t n : Nat) (s : TransportState) : Prop where
  owner : s.owners[n]? = some t
  log_lt : ∀ entry ∈ s.log, entry.call < n
  replay : ∀ key, s.replay key ≠ some n
  outcome : s.outcomes n = none

theorem Consistent.begin (h : Consistent config s) :
    Move config t s (s.begin t) ∧ Fresh t s.owners.length (s.begin t) := by
  refine ⟨⟨{ h with
    outcomes_lt := fun n outcome hn => lt_of_begin (h.outcomes_lt n outcome hn)
    replay_lt := fun key n hn => lt_of_begin (h.replay_lt key n hn)
    log_lt := fun entry hentry => lt_of_begin (h.log_lt entry hentry) }, fun u _ => ?_⟩,
    owner_of_begin, h.log_lt, fun key hn => ?_, ?_⟩
  · exact { Rely.refl u s with owners := List.prefix_append _ _ }
  · exact absurd (h.replay_lt key _ hn) (Nat.lt_irrefl _)
  · by_contra hsome
    obtain ⟨outcome, houtcome⟩ := Option.ne_none_iff_exists'.mp hsome
    exact absurd (h.outcomes_lt _ outcome houtcome) (Nat.lt_irrefl _)

theorem Rely.note (hn : s.owners[entry.call]? = some t) (hne : u ≠ t) :
    Rely u s (s.note entry) :=
  { Rely.refl u s with
    history := ⟨[entry], rfl, fun n hm found hfound => by
      rw [List.mem_singleton.mp hfound]
      exact (owner_ne hn hm hne).symm⟩ }

theorem Consistent.log_lt_cons (h : Consistent config s) (hn : s.owners[entry.call]? = some t) :
    ∀ found ∈ entry :: s.log, found.call < s.owners.length := by
  intro found hfound
  rcases List.mem_cons.mp hfound with rfl | hold
  · exact owner_lt hn
  · exact h.log_lt found hold

theorem Consistent.note (h : Consistent config s)
    (hn : s.owners[entry.call]? = some t) (hkept : Kept config entry s.log)
    (htaken : ∀ key, entry.taken? config key = none)
    (hflying : ∀ key, inFlight key (entry :: s.log) = inFlight key s.log)
    (hconfirmed : ∀ key, SubmitTransport.confirmed key (entry :: s.log)
      = SubmitTransport.confirmed key s.log) :
    Move config t s (s.note entry) := by
  refine ⟨{ h with
    kept := throughout_cons.mpr ⟨hkept, h.kept⟩
    log_lt := h.log_lt_cons hn
    finalized := fun key => ?_
    confirmed := fun key confirmation hfound => ?_
    settled := fun key n outcome hreplay houtcome =>
      List.mem_cons_of_mem _ (h.settled key n outcome hreplay houtcome)
    flying := fun key => ?_ }, fun u hne => .note hn hne⟩
  · show s.finalizedHandoffs key = (firstTaken config key s.log).or (entry.taken? config key)
    rw [htaken, Option.or_none]
    exact h.finalized key
  · exact h.confirmed key confirmation ((hconfirmed key).symm.trans hfound)
  · rw [show (s.note entry).log = entry :: s.log from rfl, hflying]
    exact h.flying key

theorem Rely.finalize
    (hold : ∀ first, s.finalizedHandoffs key = some first → first = finalized) :
    Rely u s (s.finalize key finalized) := by
  refine { Rely.refl u s with finalized := fun found taken htaken => ?_ }
  by_cases hsame : found = key
  · subst hsame
    rw [hold taken htaken]
    exact Function.update_self found (some finalized) s.finalizedHandoffs
  · exact (Function.update_of_ne hsame (some finalized) s.finalizedHandoffs).trans htaken

theorem Consistent.callAdmitted (h : Consistent config s) (hn : s.owners[n]? = some t)
    {current : Except SubmitError Unit} {handoff options : Value}
    {submission : Nat}
    (hcheck : checkCall config s current key handoff options = .ok (finalized, canonicalResponse))
    (hsubmission : ∀ found, s.replay key = some found → found = submission) :
    Move config t s ((s.finalize key finalized).note
      (.called n key handoff options current (.ok submission))) := by
  obtain ⟨hkey, hcanonical, selected, hselected, hcases⟩ := checkCall_ok hcheck
  have hold : ∀ first, s.finalizedHandoffs key = some first →
      first = finalized ∧ Preserves config first handoff options := by
    intro first hfirst
    rcases hcases with ⟨hnone, -⟩ | ⟨hsome, hhandoff, hoptions⟩
    · rw [hnone] at hfirst
      cases hfirst
    · obtain rfl : finalized = first := Option.some.inj (hsome.symm.trans hfirst)
      exact ⟨rfl, hhandoff, selected, hselected, hoptions⟩
  have hfirst : ∀ found, Function.update s.finalizedHandoffs key (some finalized) found
      = firstTaken config found
        (.called n key handoff options current (.ok submission) :: s.log) := by
    intro found
    rw [firstTaken, ← h.finalized found]
    by_cases hsame : found = key
    · subst hsame
      rw [Function.update_self]
      rcases hcases with ⟨hnone, rfl⟩ | ⟨hsome, -, -⟩
      · simp [hnone, Entry.taken?, hselected, Except.toOption]
      · rw [hsome, Option.some_or]
    · rw [Function.update_of_ne hsame]
      simp [Entry.taken?, Ne.symm hsame]
  refine ⟨{ h with
    kept := throughout_cons.mpr ⟨?_, h.kept⟩
    log_lt := h.log_lt_cons hn
    finalized := hfirst
    valid := fun found taken htaken => ?_
    settled := fun found m outcome hreplay houtcome =>
      List.mem_cons_of_mem _ (h.settled found m outcome hreplay houtcome) }, fun u hne => ?_⟩
  · intro first htaken
    obtain ⟨-, hpreserves⟩ := hold first ((h.finalized key).trans htaken)
    refine ⟨fun hdiffers => absurd hpreserves hdiffers, fun _ _ _ => ⟨submission, rfl, ?_⟩⟩
    intro confirmation hconfirmed
    obtain ⟨m, hreplay, houtcome⟩ := h.confirmed key confirmation hconfirmed
    rw [← hsubmission m hreplay]
    exact h.settled key m _ hreplay houtcome
  · by_cases hsame : found = key
    · subst hsame
      obtain rfl : finalized = taken := by simpa [TransportState.note, TransportState.finalize] using htaken
      exact ⟨hkey, canonicalResponse, hcanonical⟩
    · refine h.valid found taken ?_
      simpa [TransportState.note, TransportState.finalize, hsame] using htaken
  · exact (Rely.finalize fun first hfirst => (hold first hfirst).1).trans (.note hn hne)

theorem start_replay (found : String) :
    (s.start key n).replay found = if found = key then some n else s.replay found :=
  Function.update_apply s.replay key (some n) found

theorem forget_replay (found : String) :
    (s.forget key).replay found = if found = key then none else s.replay found :=
  Function.update_apply s.replay key none found

theorem settle_outcomes (outcome : Except SubmitError SubmitConfirmation) (m : Nat) :
    (s.settle n outcome).outcomes m = if m = n then some outcome else s.outcomes m :=
  Function.update_apply s.outcomes n (some outcome) m

theorem Consistent.start (h : Consistent config s) (hn : s.owners[n]? = some t)
    (houtcome : s.outcomes n = none) (hnone : s.replay key = none) :
    Move config t s (s.start key n) := by
  have hreplay : ∀ found m, (s.start key n).replay found = some m →
      found = key ∧ m = n ∨ found ≠ key ∧ s.replay found = some m := by
    intro found m hm
    rw [start_replay] at hm
    by_cases hsame : found = key
    · rw [if_pos hsame] at hm
      exact .inl ⟨hsame, (Option.some.inj hm).symm⟩
    · rw [if_neg hsame] at hm
      exact .inr ⟨hsame, hm⟩
  have hother : ∀ found m, s.replay found = some m → (s.start key n).replay found = some m := by
    intro found m hm
    have hne : found ≠ key := by
      rintro rfl
      rw [hnone] at hm
      cases hm
    rw [start_replay, if_neg hne]
    exact hm
  refine ⟨{ h with
    replay_lt := fun found m hm => ?_
    confirmed := fun found confirmation hfound => ?_
    settled := fun found m outcome hm houtcome' => ?_
    flying := fun found => ?_ }, fun u hne => ?_⟩
  · rcases hreplay found m hm with ⟨-, rfl⟩ | ⟨-, hold⟩
    · exact owner_lt hn
    · exact h.replay_lt found m hold
  · obtain ⟨m, hm, hconfirmed⟩ := h.confirmed found confirmation hfound
    exact ⟨m, hother found m hm, hconfirmed⟩
  · rcases hreplay found m hm with ⟨-, rfl⟩ | ⟨-, hold⟩
    · exact absurd (houtcome.symm.trans houtcome') (by simp)
    · exact h.settled found m outcome hold houtcome'
  · rcases h.flying found with hidle | ⟨m, hflying, hm, hopen⟩
    · exact .inl hidle
    · exact .inr ⟨m, hflying, hother found m hm, hopen⟩
  · refine { Rely.refl u s with replay := fun m found hm => ⟨fun hstarted => ?_, hother found m⟩ }
    rcases hreplay found m hstarted with ⟨-, rfl⟩ | ⟨-, hold⟩
    · exact absurd rfl (owner_ne hn hm hne)
    · exact hold

structure Running (t n : Nat) (key : String) (finalized : Finalized) (flying : Bool)
    (s : TransportState) : Prop where
  owner : s.owners[n]? = some t
  replay : ∀ found, s.replay found = some n ↔ found = key
  outcome : s.outcomes n = none
  finalized : s.finalizedHandoffs key = some finalized
  flying : n ∈ inFlight key s.log ↔ flying = true
  called : ∃ handoff options current, Entry.called n key handoff options current (.ok n) ∈ s.log
  before : confirmedBefore n key s.log = none

variable {flying : Bool}

theorem running_stable {s s' : TransportState}
    (hs : Running t n key finalized flying s) (hrely : Rely t s s') :
    Running t n key finalized flying s' where
  owner := owner_mono hrely.owners hs.owner
  replay found := (hrely.replay n found hs.owner).trans (hs.replay found)
  outcome := (hrely.outcome n hs.owner).trans hs.outcome
  finalized := hrely.finalized key finalized hs.finalized
  flying := (hrely.inFlight_iff hs.owner).trans hs.flying
  called := by
    obtain ⟨handoff, options, current, hmem⟩ := hs.called
    exact ⟨handoff, options, current, hrely.mem_log hmem⟩
  before := (hrely.confirmedBefore_eq hs.owner).trans hs.before

theorem Running.called_cons (hs : Running t n key finalized flying s) (entry : Entry) :
    ∃ handoff options current, Entry.called n key handoff options current (.ok n) ∈ entry :: s.log := by
  obtain ⟨handoff, options, current, hmem⟩ := hs.called
  exact ⟨handoff, options, current, List.mem_cons_of_mem entry hmem⟩

theorem Running.inFlight_eq (hs : Running t n key finalized flying s) (h : Consistent config s) :
    inFlight key s.log = if flying then [n] else [] := by
  rcases h.flying key with hidle | ⟨m, hflying, hreplay, -⟩
  · have hnot : ¬ flying = true := fun hf => by
      have hmem := hs.flying.mpr hf
      rw [hidle] at hmem
      cases hmem
    rw [if_neg hnot, hidle]
  · obtain rfl : m = n := Option.some.inj (hreplay.symm.trans ((hs.replay key).mpr rfl))
    rw [if_pos (hs.flying.mp (hflying ▸ List.mem_singleton.mpr rfl)), hflying]

theorem Running.unconfirmed (hs : Running t n key finalized flying s) (h : Consistent config s) :
    SubmitTransport.confirmed key s.log = none := by
  by_contra hsome
  obtain ⟨confirmation, hconfirmed⟩ := Option.ne_none_iff_exists'.mp hsome
  obtain ⟨m, hreplay, houtcome⟩ := h.confirmed key confirmation hconfirmed
  obtain rfl : m = n := Option.some.inj (hreplay.symm.trans ((hs.replay key).mpr rfl))
  exact absurd (hs.outcome.symm.trans houtcome) (by simp)

theorem Running.send {request : SubmitRequest}
    (hs : Running t n key finalized false s) (h : Consistent config s)
    (hcanonical : requireCanonicalResponse finalized.handoff = .ok canonicalResponse)
    (hbody : request.toHandoffBody
      = handoffBody finalized canonicalResponse (snapshotId canonicalResponse)) :
    Move config t s (s.note (.sent n key request))
      ∧ Running t n key finalized true (s.note (.sent n key request)) := by
  have hidle : inFlight key s.log = [] := hs.inFlight_eq h
  have hflying : ∀ found, inFlight found (.sent n key request :: s.log)
      = if key = found then n :: inFlight found s.log else inFlight found s.log := fun _ => rfl
  refine ⟨⟨{ h with
    kept := throughout_cons.mpr ⟨⟨hidle, hs.unconfirmed h, hs.called, finalized, canonicalResponse,
      (h.finalized key).symm.trans hs.finalized, hcanonical, hbody⟩, h.kept⟩
    log_lt := h.log_lt_cons hs.owner
    finalized := fun found => (h.finalized found).trans (Option.or_none).symm
    settled := fun found m outcome hm houtcome => List.mem_cons_of_mem _ (h.settled found m outcome hm houtcome)
    flying := fun found => ?_ }, fun u hne => .note hs.owner hne⟩, { hs with
      flying := ?_
      called := hs.called_cons _ }⟩
  · rw [show (s.note (.sent n key request)).log = .sent n key request :: s.log from rfl, hflying]
    by_cases hsame : key = found
    · subst hsame
      rw [if_pos rfl, hidle]
      exact .inr ⟨n, rfl, (hs.replay key).mpr rfl, hs.outcome⟩
    · rw [if_neg hsame]
      exact h.flying found
  · rw [show (s.note (.sent n key request)).log = .sent n key request :: s.log from rfl, hflying,
      if_pos rfl]
    simp

theorem Running.answer (hs : Running t n key finalized true s)
    (h : Consistent config s) :
    Move config t s (s.note (.answered n key))
      ∧ Running t n key finalized false (s.note (.answered n key)) := by
  refine ⟨⟨{ h with
    kept := throughout_cons.mpr ⟨trivial, h.kept⟩
    log_lt := h.log_lt_cons hs.owner
    finalized := fun found => (h.finalized found).trans (Option.or_none).symm
    settled := fun found m outcome hm houtcome => List.mem_cons_of_mem _ (h.settled found m outcome hm houtcome)
    flying := fun found => ?_ }, fun u hne => .note hs.owner hne⟩, { hs with
      flying := ?_
      called := hs.called_cons _ }⟩
  · show (inFlight found s.log).filter (· != n) = [] ∨ _
    rcases h.flying found with hidle | ⟨m, hflying, hm, hopen⟩
    · rw [hidle]
      exact .inl rfl
    · by_cases hsame : m = n
      · subst hsame
        rw [hflying]
        exact .inl (by simp)
      · refine .inr ⟨m, ?_, hm, hopen⟩
        show (inFlight found s.log).filter (· != n) = [m]
        rw [hflying]
        simp [hsame]
  · show n ∈ (inFlight key s.log).filter (· != n) ↔ false = true
    simp

structure Ended (t n : Nat) (key : String) (outcome : Except SubmitError SubmitConfirmation)
    (s : TransportState) : Prop where
  owner : s.owners[n]? = some t
  replay : ∀ found, s.replay found = some n ↔ found = key
  outcome : s.outcomes n = some outcome
  before : confirmedBefore n key s.log = none

theorem ended_stable {outcome : Except SubmitError SubmitConfirmation} {s s' : TransportState}
    (hs : Ended t n key outcome s) (hrely : Rely t s s') : Ended t n key outcome s' where
  owner := owner_mono hrely.owners hs.owner
  replay found := (hrely.replay n found hs.owner).trans (hs.replay found)
  outcome := (hrely.outcome n hs.owner).trans hs.outcome
  before := (hrely.confirmedBefore_eq hs.owner).trans hs.before

theorem Running.settle (hs : Running t n key finalized false s)
    (h : Consistent config s) (outcome : Except SubmitError SubmitConfirmation) :
    Move config t s ((s.settle n outcome).note (.settled n key outcome))
      ∧ Ended t n key outcome ((s.settle n outcome).note (.settled n key outcome)) := by
  have hself : (s.settle n outcome).outcomes n = some outcome := by rw [settle_outcomes, if_pos rfl]
  have hother : ∀ m, m ≠ n → (s.settle n outcome).outcomes m = s.outcomes m :=
    fun m hm => by rw [settle_outcomes, if_neg hm]
  have hidle : inFlight key s.log = [] := hs.inFlight_eq h
  refine ⟨⟨{ h with
    kept := throughout_cons.mpr ⟨trivial, h.kept⟩
    outcomes_lt := fun m found hfound => ?_
    log_lt := h.log_lt_cons hs.owner
    finalized := fun found => (h.finalized found).trans (Option.or_none).symm
    confirmed := fun found confirmation hconfirmed => ?_
    settled := fun found m found' hm houtcome => ?_
    flying := fun found => ?_ }, fun u hne => ?_⟩, ⟨hs.owner, hs.replay, hself, hs.before⟩⟩
  · by_cases hsame : m = n
    · rw [hsame]
      exact owner_lt hs.owner
    · exact h.outcomes_lt m found ((hother m hsame).symm.trans hfound)
  · -- A confirmation is the one just given, or an old one, of another submission.
    have hcases : outcome = .ok confirmation ∧ found = key
        ∨ SubmitTransport.confirmed found s.log = some confirmation := by
      cases outcome with
      | error error => exact .inr hconfirmed
      | ok given =>
        rw [show ((s.settle n (.ok given)).note (.settled n key (.ok given))).log
          = .settled n key (.ok given) :: s.log from rfl, SubmitTransport.confirmed] at hconfirmed
        split at hconfirmed
        · rename_i hsame
          exact .inl ⟨congrArg _ (Option.some.inj hconfirmed), hsame.symm⟩
        · exact .inr hconfirmed
    rcases hcases with ⟨rfl, rfl⟩ | hold
    · exact ⟨n, (hs.replay found).mpr rfl, hself⟩
    · obtain ⟨m, hm, houtcome⟩ := h.confirmed found confirmation hold
      have hne : m ≠ n := by
        rintro rfl
        exact absurd (hs.outcome.symm.trans houtcome) (by simp)
      exact ⟨m, hm, (hother m hne).trans houtcome⟩
  · by_cases hsame : m = n
    · subst hsame
      obtain rfl := (hs.replay found).mp hm
      obtain rfl := Option.some.inj (hself.symm.trans houtcome)
      exact List.mem_cons_self
    · exact List.mem_cons_of_mem _ (h.settled found m found' hm ((hother m hsame).symm.trans houtcome))
  · rcases h.flying found with hnone | ⟨m, hflying, hm, hopen⟩
    · exact .inl hnone
    · have hne : m ≠ n := by
        rintro rfl
        obtain rfl := (hs.replay found).mp hm
        rw [hidle] at hflying
        cases hflying
      exact .inr ⟨m, hflying, hm, (hother m hne).trans hopen⟩
  · have hsettle : Rely u s (s.settle n outcome) := { Rely.refl u s with
      outcome := fun m hm => hother m (owner_ne hs.owner hm hne)
      settled := fun m found hfound => by
        rw [hother m, hfound]
        rintro rfl
        exact absurd (hs.outcome.symm.trans hfound) (by simp) }
    exact hsettle.trans (.note hs.owner hne)

theorem Ended.forget {error : SubmitError} (hs : Ended t n key (.error error) s)
    (h : Consistent config s) : Move config t s (s.forget key) := by
  have hreplay : ∀ found m, (s.forget key).replay found = some m →
      found ≠ key ∧ s.replay found = some m := by
    intro found m hm
    rw [forget_replay] at hm
    split at hm
    · cases hm
    · rename_i hne
      exact ⟨hne, hm⟩
  have hkept : ∀ found m, s.replay found = some m → m ≠ n → (s.forget key).replay found = some m := by
    intro found m hm hne
    rw [forget_replay, if_neg, hm]
    rintro rfl
    exact hne (Option.some.inj (hm.symm.trans ((hs.replay found).mpr rfl)))
  refine ⟨{ h with
    replay_lt := fun found m hm => h.replay_lt found m (hreplay found m hm).2
    confirmed := fun found confirmation hconfirmed => ?_
    settled := fun found m outcome hm houtcome => h.settled found m outcome (hreplay found m hm).2 houtcome
    flying := fun found => ?_ }, fun u hne => { Rely.refl u s with
      replay := fun m found hm => ⟨fun hforgot => (hreplay found m hforgot).2,
        fun hheld => hkept found m hheld (owner_ne hs.owner hm hne)⟩ }⟩
  · obtain ⟨m, hm, houtcome⟩ := h.confirmed found confirmation hconfirmed
    refine ⟨m, hkept found m hm ?_, houtcome⟩
    rintro rfl
    exact absurd (hs.outcome.symm.trans houtcome) (by simp)
  · rcases h.flying found with hnone | ⟨m, hflying, hm, hopen⟩
    · exact .inl hnone
    · refine .inr ⟨m, hflying, hkept found m hm ?_, hopen⟩
      rintro rfl
      exact absurd (hs.outcome.symm.trans hopen) (by simp)

end FormspecWeb.SubmitTransport
