import FormspecWeb.App.RespondentRuntime

/-!
# One intake of a form session

What the history of a session says of its intakes, the submit events that may fire, the
invariant of a session, and what each write does to it.
-/

namespace FormspecWeb.App

open Shared Async

def Entry.accepted? : Entry → Option String
  | .accepted (some _) key => some key
  | _ => none

/-- The key under which an intake of this session was accepted or queued. -/
def Entry.intake? : Entry → Option String
  | .accepted (some _) key => some key
  | .queued _ key => some key
  | _ => none

def acceptedKeys (log : List Entry) : List String := log.filterMap Entry.accepted?

def intakes (log : List Entry) : List String := log.filterMap Entry.intake?

def inFlight : List Entry → List Nat
  | [] => []
  | .fired attempt :: older => attempt :: inFlight older
  | .ended attempt :: older => (inFlight older).filter (· != attempt)
  | _ :: older => inFlight older

/-- The attempt fired while no other was in flight and no intake had been accepted. -/
def Clean (attempt : Nat) (log : List Entry) : Prop :=
  ∃ earlier, .fired attempt :: earlier <:+ log ∧ inFlight earlier = [] ∧ acceptedKeys earlier = []

/-- An intake of an attempt is sent under a key that is not new, or the attempt is clean. -/
def Kept : Entry → List Entry → Prop
  | .sent (some attempt) key, older => (∃ other, .sent other key ∈ older) ∨ Clean attempt older
  | _, _ => True

/-- At most one intake of the session is accepted, and no attempt that fired while another was
in flight, or after one was accepted, sends an intake under a new key. -/
structure OneIntake (log : List Entry) : Prop where
  kept : Throughout Kept log
  accepted : ∀ k ∈ acceptedKeys log, ∀ k' ∈ acceptedKeys log, k = k'

def holdsIntake : SubmitState → Bool
  | .submitting | .authorizingPayment _ | .queued _ | .confirmed _ _ | .captureFailed _ _
  | .error _ => true
  | _ => false

def isBusy : SubmitState → Bool
  | .submitting | .authorizingPayment _ => true
  | _ => false

def isQueued : SubmitState → Bool
  | .queued _ => true
  | _ => false

/-- The latest submit state passes the guard, the session did not end in a failed capture, and
no error hides an intake that was accepted or queued. -/
def mayFire (s : SessionState) : Bool :=
  match s.submitState with
  | .captureFailed _ _ => false
  | .error _ => (intakes s.log).isEmpty
  | state => !refusesSubmit state

def fires (s : SessionState) : SessionOp → Bool
  | .submit render _ => s.renders[render]?.any fun closure => !closure.refuses s.terminalClearRequested
  | _ => false

/-- A submit event that passes the guard of its render finds a session in which it may. -/
def submitsInTurn : Discipline SessionState SessionOp Rep where
  begins s op := fires s op = true → mayFire s = true
  resumes _ _ _ := True

def Sealed (log : List Entry) : Prop := inFlight log = [] ∧ intakes log ≠ []

structure Single (s : SessionState) : Prop where
  kept : Throughout Kept s.log
  one : ∀ k ∈ intakes s.log, ∀ k' ∈ intakes s.log, k = k'
  flying : inFlight s.log = [] ∨ ∃ n, inFlight s.log = [n] ∧ isBusy s.submitState = true
  held : intakes s.log ≠ [] → holdsIntake s.submitState = true
  queued : isQueued s.submitState = true → Sealed s.log
  rendered : ∀ closure ∈ s.renders, isQueued closure.submitState = true → Sealed s.log
  listening : ∀ found, s.listener = some found → Sealed s.log
  entries : ∀ entry ∈ s.queue, ∀ n, entry.attempt = some n →
    entry.idempotencyKey ∈ intakes s.log ∧ Clean n s.log

/-- What thread `u` relies on: nothing happens while its attempt is in flight, and a sealed
session stays sealed. -/
structure Rely (u : Nat) (s s' : SessionState) : Prop where
  owners : s.owners <+: s'.owners
  log : s.log <:+ s'.log
  flying : ∀ n, s.owners[n]? = some u → inFlight s.log = [n] →
    s'.log = s.log ∧ s'.submitState = s.submitState
  sealed : Sealed s.log → Sealed s'.log

/-- What a write of thread `t` does. -/
structure Move (t : Nat) (s s' : SessionState) : Prop where
  single : Single s'
  others : ∀ u, u ≠ t → Rely u s s'

/-- The contract of thread `t`. -/
abbrev keeping (t : Nat) : Contract SessionState Rep where
  inv := Single
  rely := Rely t
  guar := Move t
  admits s l answer := submitsInTurn.resumes s l answer
    ∧ ∃ arrival, formSession.accept s l arrival = some answer

variable {t u n : Nat} {key : String} {s s' s'' : SessionState} {log older : List Entry}

theorem Rely.refl (u : Nat) (s : SessionState) : Rely u s s where
  owners := List.prefix_rfl
  log := List.suffix_rfl
  flying _ _ _ := ⟨rfl, rfl⟩
  sealed h := h

theorem Rely.trans (h : Rely u s s') (h' : Rely u s' s'') : Rely u s s'' where
  owners := h.owners.trans h'.owners
  log := h.log.trans h'.log
  flying n hn hflying := by
    obtain ⟨hlog, hstate⟩ := h.flying n hn hflying
    obtain ⟨hlog', hstate'⟩ := h'.flying n (owner_mono h.owners hn) (hlog ▸ hflying)
    exact ⟨hlog'.trans hlog, hstate'.trans hstate⟩
  sealed hs := h'.sealed (h.sealed hs)

theorem Clean.mono (h : Clean n older) (hlog : older <:+ log) : Clean n log := by
  obtain ⟨earlier, hfired, hidle⟩ := h
  exact ⟨earlier, hfired.trans hlog, hidle⟩

theorem intakes_mono (hlog : older <:+ log) (h : key ∈ intakes older) : key ∈ intakes log := by
  obtain ⟨newer, rfl⟩ := hlog
  unfold intakes
  rw [List.filterMap_append]
  exact List.mem_append_right _ h

theorem mem_intakes_of_accepted (h : key ∈ acceptedKeys log) : key ∈ intakes log := by
  obtain ⟨entry, hentry, hkey⟩ := List.mem_filterMap.mp h
  apply List.mem_filterMap.mpr ⟨entry, hentry, ?_⟩
  cases entry with
  | accepted attempt found =>
    cases attempt with
    | none => cases hkey
    | some m => exact hkey
  | fired m => cases hkey
  | sent attempt found => cases hkey
  | queued m found => cases hkey
  | ended m => cases hkey

theorem acceptedKeys_nil (h : intakes log = []) : acceptedKeys log = [] := by
  apply List.eq_nil_iff_forall_not_mem.mpr
  intro found hfound
  have hmem := mem_intakes_of_accepted hfound
  rw [h] at hmem
  cases hmem

theorem Single.oneIntake (h : Single s) : OneIntake s.log where
  kept := h.kept
  accepted k hk k' hk' := h.one k (mem_intakes_of_accepted hk) k' (mem_intakes_of_accepted hk')

/-! ## Writes of an attempt -/

/-- Attempt `n` of thread `t` is in flight. -/
structure Flying (t n : Nat) (s : SessionState) : Prop where
  owner : s.owners[n]? = some t
  flying : inFlight s.log = [n]
  clean : Clean n s.log

theorem Flying.stable (h : Flying t n s) (hrely : Rely t s s') : Flying t n s' ∧ s'.log = s.log := by
  obtain ⟨hlog, -⟩ := hrely.flying n h.owner h.flying
  exact ⟨⟨owner_mono hrely.owners h.owner, hlog ▸ h.flying, hlog ▸ h.clean⟩, hlog⟩

theorem Flying.not_sealed (h : Flying t n s) : ¬ Sealed s.log := by
  rintro ⟨hidle, -⟩
  rw [h.flying] at hidle
  cases hidle

theorem Flying.others (h : Flying t n s) (howners : s'.owners = s.owners) (hlog : s.log <:+ s'.log)
    (hne : u ≠ t) : Rely u s s' where
  owners := howners ▸ List.prefix_rfl
  log := hlog
  flying m hm hflying := by
    obtain rfl : n = m := List.singleton_inj.mp (h.flying.symm.trans hflying)
    rw [h.owner] at hm
    exact absurd (Option.some.inj hm).symm hne
  sealed hs := absurd hs h.not_sealed

theorem Single.busy (h : Single s) (hf : Flying t n s) : isBusy s.submitState = true := by
  rcases h.flying with hidle | ⟨m, -, hbusy⟩
  · rw [hf.flying] at hidle
    cases hidle
  · exact hbusy

variable {state : SubmitState}

theorem holdsIntake_of_busy (h : isBusy state = true) :
    holdsIntake state = true := by
  cases state <;> first | rfl | cases h

theorem not_queued_of_busy (h : isBusy state = true) :
    isQueued state = false := by
  cases state <;> first | rfl | cases h

theorem Single.during (h : Single s) (hf : Flying t n s) (howners : s'.owners = s.owners)
    (hlog : s.log <:+ s'.log) (hkept : Throughout Kept s'.log)
    (hone : ∀ k ∈ intakes s'.log, ∀ k' ∈ intakes s'.log, k = k') (hflying : inFlight s'.log = [n])
    (hbusy : isBusy s'.submitState = true) (hrenders : s'.renders = s.renders)
    (hlistener : s'.listener = s.listener)
    (hentries : ∀ entry ∈ s'.queue, ∀ m, entry.attempt = some m →
      entry.idempotencyKey ∈ intakes s'.log ∧ Clean m s'.log) : Move t s s' ∧ Flying t n s' where
  left := {
    single := {
      kept := hkept
      one := hone
      flying := .inr ⟨n, hflying, hbusy⟩
      held := fun _ => holdsIntake_of_busy hbusy
      queued := fun hq => by rw [not_queued_of_busy hbusy] at hq; cases hq
      rendered := fun closure hc hq => absurd (h.rendered closure (hrenders ▸ hc) hq) hf.not_sealed
      listening := fun found hl => absurd (h.listening found (hlistener ▸ hl)) hf.not_sealed
      entries := hentries }
    others := fun u hne => hf.others howners hlog hne }
  right := ⟨howners ▸ hf.owner, hflying, hf.clean.mono hlog⟩

theorem Single.setBusy (h : Single s) (hf : Flying t n s)
    (hbusy : isBusy state = true) :
    Move t s (s.setSubmitState state) ∧ Flying t n (s.setSubmitState state) :=
  h.during hf rfl List.suffix_rfl h.kept h.one hf.flying hbusy rfl rfl h.entries

theorem Single.setMultiPartyState (h : Single s) (hf : Flying t n s)
    (progress : MultiPartySignerProgress) :
    Move t s (s.setMultiPartyState progress) ∧ Flying t n (s.setMultiPartyState progress) :=
  h.during hf rfl List.suffix_rfl h.kept h.one hf.flying (h.busy hf) rfl rfl h.entries

theorem Single.entries_mono (h : Single s) (hlog : s.log <:+ log) {entry : QueuedSubmit}
    (hentry : entry ∈ s.queue) {m : Nat} (hm : entry.attempt = some m) :
    entry.idempotencyKey ∈ intakes log ∧ Clean m log := by
  obtain ⟨hkey, hclean⟩ := h.entries entry hentry m hm
  exact ⟨intakes_mono hlog hkey, hclean.mono hlog⟩

theorem Single.send (h : Single s) (hf : Flying t n s) (key : String) :
    Move t s (s.note (.sent (some n) key)) ∧ Flying t n (s.note (.sent (some n) key)) :=
  h.during hf rfl (List.suffix_cons _ _) (throughout_cons.mpr ⟨.inr hf.clean, h.kept⟩) h.one
    hf.flying (h.busy hf) rfl rfl fun _ hentry _ hm => h.entries_mono (List.suffix_cons _ _) hentry hm

theorem one_of_first (hnone : intakes s.log = []) {k k' : String} (hk : k ∈ key :: intakes s.log)
    (hk' : k' ∈ key :: intakes s.log) : k = k' := by
  rw [hnone, List.mem_singleton] at hk hk'
  rw [hk, hk']

theorem Single.accept (h : Single s) (hf : Flying t n s) (hnone : intakes s.log = []) (key : String) :
    Move t s (s.note (.accepted (some n) key)) ∧ Flying t n (s.note (.accepted (some n) key)) :=
  h.during hf rfl (List.suffix_cons _ _) (throughout_cons.mpr ⟨trivial, h.kept⟩)
    (fun _ hk _ hk' => one_of_first hnone hk hk') hf.flying (h.busy hf) rfl rfl
    fun _ hentry _ hm => h.entries_mono (List.suffix_cons _ _) hentry hm

theorem Single.enqueue (h : Single s) (hf : Flying t n s) (hnone : intakes s.log = []) (key : String) :
    Move t s (s.enqueue n key) ∧ Flying t n (s.enqueue n key) := by
  refine h.during hf rfl (List.suffix_cons _ _) (throughout_cons.mpr ⟨trivial, h.kept⟩)
    (fun _ hk _ hk' => one_of_first hnone hk hk') hf.flying (h.busy hf) rfl rfl ?_
  intro entry hentry m hm
  unfold SessionState.enqueue at hentry
  have hold : entry ∈ s.queue → entry.idempotencyKey ∈ intakes (s.enqueue n key).log
      ∧ Clean m (s.enqueue n key).log := fun hmem => h.entries_mono (List.suffix_cons _ _) hmem hm
  split at hentry
  · exact hold hentry
  · rcases List.mem_append.mp hentry with hmem | hmem
    · exact hold hmem
    · rw [List.mem_singleton.mp hmem] at hm ⊢
      cases hm
      exact ⟨List.mem_cons_self, hf.clean.mono (List.suffix_cons _ _)⟩

def Leaves (state : SubmitState) (log : List Entry) : Prop :=
  (intakes log ≠ [] → holdsIntake state = true) ∧ (isQueued state = true → intakes log ≠ [])

theorem Single.finish (h : Single s) (hf : Flying t n s)
    (hleaves : Leaves state s.log) : Move t s (s.finish n state) := by
  have hidle : inFlight (s.finish n state).log = [] := by
    show (inFlight s.log).filter (· != n) = []
    rw [hf.flying]
    simp
  exact {
    single := {
      kept := throughout_cons.mpr ⟨trivial, h.kept⟩
      one := h.one
      flying := .inl hidle
      held := hleaves.1
      queued := fun hq => ⟨hidle, hleaves.2 hq⟩
      rendered := fun closure hc hq => absurd (h.rendered closure hc hq) hf.not_sealed
      listening := fun found hl => absurd (h.listening found hl) hf.not_sealed
      entries := fun _ hentry _ hm => h.entries_mono (List.suffix_cons _ _) hentry hm }
    others := fun u hne => hf.others rfl (List.suffix_cons _ _) hne }

theorem mayFire_idle (h : Single s) (hfire : mayFire s = true) :
    inFlight s.log = [] ∧ intakes s.log = [] := by
  have hstate : isBusy s.submitState = false
      ∧ (holdsIntake s.submitState = true → intakes s.log = []) := by
    unfold mayFire at hfire
    generalize s.submitState = state at hfire ⊢
    cases state with
    | error error => exact ⟨rfl, fun _ => List.isEmpty_iff.mp hfire⟩
    | idle => exact ⟨rfl, nofun⟩
    | invalid message => exact ⟨rfl, nofun⟩
    | paymentVoidedAfterSubmitFailure error => exact ⟨rfl, nofun⟩
    | submitting => cases hfire
    | queued key => cases hfire
    | authorizingPayment amount => cases hfire
    | capturingPayment authorization => cases hfire
    | voidingPayment authorization => cases hfire
    | awaitingNextParty label signed total => cases hfire
    | captureFailed confirmation error => cases hfire
    | confirmed confirmation receipt => cases hfire
  constructor
  · rcases h.flying with hidle | ⟨m, -, hbusy⟩
    · exact hidle
    · rw [hstate.1] at hbusy
      cases hbusy
  · by_contra hsome
    exact hsome (hstate.2 (h.held hsome))

theorem Single.fire (h : Single s) (hfire : mayFire s = true) :
    Move t s (s.fire t) ∧ Flying t s.owners.length (s.fire t) ∧ intakes (s.fire t).log = [] := by
  obtain ⟨hidle, hnone⟩ := mayFire_idle h hfire
  have hunsealed : ¬ Sealed s.log := fun hs => hs.2 hnone
  have hclean : Clean s.owners.length (s.fire t).log :=
    ⟨s.log, List.suffix_rfl, hidle, acceptedKeys_nil hnone⟩
  have hflying : inFlight (s.fire t).log = [s.owners.length] :=
    congrArg (s.owners.length :: ·) hidle
  refine ⟨⟨?_, fun u hne => ?_⟩, ⟨owner_of_begin, hflying, hclean⟩, hnone⟩
  · exact {
      kept := throughout_cons.mpr ⟨trivial, h.kept⟩
      one := h.one
      flying := .inr ⟨_, hflying, rfl⟩
      held := fun _ => rfl
      queued := nofun
      rendered := fun closure hc hq => absurd (h.rendered closure hc hq) hunsealed
      listening := fun found hl => absurd (h.listening found hl) hunsealed
      entries := fun _ hentry _ hm => h.entries_mono (List.suffix_cons _ _) hentry hm }
  · exact {
      owners := List.prefix_append _ _
      log := List.suffix_cons _ _
      flying := fun m _ hm => by rw [hidle] at hm; cases hm
      sealed := fun hs => absurd hs hunsealed }

theorem sealed_of_closed (hs : Sealed s.log) (howners : s'.owners = s.owners)
    (hlog : s.log <:+ s'.log) (hs' : Sealed s'.log) : Rely u s s' where
  owners := howners ▸ List.prefix_rfl
  log := hlog
  flying m _ hflying := by rw [hs.1] at hflying; cases hflying
  sealed _ := hs'

theorem Single.noteSealed (h : Single s) (hs : Sealed s.log) {entry : Entry}
    (hkept : Kept entry s.log) (hidle : inFlight (entry :: s.log) = inFlight s.log)
    (hintake : ∀ found, entry.intake? = some found → found ∈ intakes s.log) :
    Move t s (s.note entry) ∧ Sealed (s.note entry).log := by
  have hsealed : Sealed (s.note entry).log := by
    refine ⟨hidle.trans hs.1, fun hnone => hs.2 ?_⟩
    apply List.eq_nil_iff_forall_not_mem.mpr
    intro found hfound
    have hmem := intakes_mono (List.suffix_cons entry s.log) hfound
    rw [show intakes (entry :: s.log) = [] from hnone] at hmem
    cases hmem
  have hsame : ∀ found ∈ intakes (s.note entry).log, found ∈ intakes s.log := by
    intro found hfound
    obtain ⟨other, hother, hkey⟩ := List.mem_filterMap.mp hfound
    rcases List.mem_cons.mp hother with rfl | hold
    · exact hintake found hkey
    · exact List.mem_filterMap.mpr ⟨other, hold, hkey⟩
  refine ⟨⟨?_, fun u hne => sealed_of_closed hs rfl (List.suffix_cons _ _) hsealed⟩, hsealed⟩
  exact {
    kept := throughout_cons.mpr ⟨hkept, h.kept⟩
    one := fun k hk k' hk' => h.one k (hsame k hk) k' (hsame k' hk')
    flying := .inl hsealed.1
    held := fun _ => h.held hs.2
    queued := fun _ => hsealed
    rendered := fun _ _ _ => hsealed
    listening := fun _ _ => hsealed
    entries := fun _ hentry _ hm => h.entries_mono (List.suffix_cons _ _) hentry hm }

theorem Single.dequeue (h : Single s) (hs : Sealed s.log) (key : String) : Move t s (s.dequeue key) where
  single := { h with
    entries := fun entry hentry => h.entries entry (List.mem_of_mem_filter hentry) }
  others _ _ := sealed_of_closed hs rfl List.suffix_rfl hs

theorem Single.settle (h : Single s) (hs : Sealed s.log)
    (hholds : holdsIntake state = true) : Move t s (s.setSubmitState state) where
  single := { h with
    flying := .inl hs.1
    held := fun _ => hholds
    queued := fun _ => hs }
  others _ _ := sealed_of_closed hs rfl List.suffix_rfl hs

theorem Rely.of_same (howners : s'.owners = s.owners) (hlog : s'.log = s.log)
    (hstate : s'.submitState = s.submitState) : Rely u s s' where
  owners := howners ▸ List.prefix_rfl
  log := hlog ▸ List.suffix_rfl
  flying _ _ _ := ⟨hlog, hstate⟩
  sealed hs := hlog ▸ hs

theorem Single.render (h : Single s) : Move t s s.render where
  single := { h with
    rendered := fun closure hc hq => by
      rcases List.mem_append.mp hc with hold | hnew
      · exact h.rendered closure hold hq
      · rw [List.mem_singleton.mp hnew] at hq
        exact h.queued hq }
  others _ _ := .of_same rfl rfl rfl

theorem Single.queuedIdempotencyKey (h : Single s) (hkey : s.queuedIdempotencyKey = some key) :
    Sealed s.log := by
  unfold SessionState.queuedIdempotencyKey at hkey
  split at hkey
  · rename_i ready found hlast
    exact h.rendered _ (List.mem_of_getLast? hlast) rfl
  · cases hkey

theorem Single.runEffects (h : Single s) : Move t s s.runEffects := by
  unfold SessionState.runEffects
  split
  · exact ⟨h, fun u _ => .refl u s⟩
  · refine ⟨{ h with listening := fun found hfound => ?_ }, fun _ _ => .of_same rfl rfl rfl⟩
    obtain ⟨key, hkey, -⟩ := Option.map_eq_some_iff.mp hfound
    exact h.queuedIdempotencyKey hkey

end FormspecWeb.App
