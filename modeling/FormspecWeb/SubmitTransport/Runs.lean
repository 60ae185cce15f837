import FormspecWeb.SubmitTransport.Idempotency
import FormspecWeb.Shared.CanonicalText

/-!
# Every run keeps submissions idempotent

The program of a call followed from one await to the next, and what that says of every
run of a transport.
-/

namespace FormspecWeb.SubmitTransport

open Shared Async

variable {config : HttpSubmitTransportConfig} {t n : Nat} {key : String} {finalized : Finalized}
  {canonicalResponse : Value} {s : TransportState} {α β : Type}

/-! ## A submission -/

theorem failed_safe {C : Contract TransportState Rep} {message : String}
    {Q : Except SubmitError α → TransportState → Prop} (h : Q (.error (.failed message)) s) :
    Safe C (failed message) Q s := h

theorem current_safe {C : Contract TransportState Rep} {f : Unit → Op β}
    {Q : Except SubmitError β → TransportState → Prop} (hok : Safe C (f ()) Q s)
    (herror : ∀ e, Q (.error e) s) : Safe C (current >>= f) Q s := by
  refine Safe.bind (P := fun _ s' => s' = s) ?_ ?_ ?_
  · exact Safe.ask fun callbacks => rfl
  · rintro ⟨⟩ s' rfl
    exact hok
  · rintro e s' rfl
    exact herror e

def Submitting (config : HttpSubmitTransportConfig) (t n : Nat) (key : String) (finalized : Finalized)
    {α : Type} (_ : Except SubmitError α) (s : TransportState) : Prop :=
  Consistent config s ∧ Running t n key finalized false s

theorem awaiting_safe {flying : Bool} {l : Label} {f : Rep l → Op β}
    {Q : Except SubmitError β → TransportState → Prop} (hs : Running t n key finalized flying s)
    (h : ∀ answer s', Consistent config s' → Running t n key finalized flying s' →
      Safe (keeping config t) (f answer) Q s') :
    Safe (keeping config t) (Prog.awaiting l >>= f) Q s :=
  Safe.awaiting fun s' hrely hinv answer _ => h answer s' hinv (running_stable hs hrely)

theorem postJson_safe {request : SubmitRequest} (h : Consistent config s)
    (hs : Running t n key finalized false s)
    (hcanonical : requireCanonicalResponse finalized.handoff = .ok canonicalResponse)
    (hbody : request.toHandoffBody
      = handoffBody finalized canonicalResponse (snapshotId canonicalResponse)) :
    Safe (keeping config t) (postJson n key request) (Submitting config t n key finalized) s := by
  refine current_safe ?_ fun _ => ⟨h, hs⟩
  refine awaiting_safe hs fun credentials s₁ h₁ hs₁ => ?_
  refine Safe.check (fun _ _ => ?_) fun _ _ => ⟨h₁, hs₁⟩
  refine current_safe ?_ fun _ => ⟨h₁, hs₁⟩
  obtain ⟨hsend, hs₂⟩ := hs₁.send h₁ hcanonical hbody
  refine Safe.modify hsend (awaiting_safe hs₂ fun reply s₃ h₃ hs₃ => ?_)
  obtain ⟨hanswer, hs₄⟩ := hs₃.answer h₃
  refine Safe.modify hanswer ?_
  have hend : ∀ result : Except SubmitError ResponseView,
      Submitting config t n key finalized result (s₃.note (.answered n key)) :=
    fun _ => ⟨hanswer.consistent, hs₄⟩
  cases reply with
  | ok view => exact current_safe (hend _) fun _ => hend _
  | error e =>
    cases e with
    | http status => exact current_safe (hend _) fun _ => hend _
    | failed message => exact hend _

theorem configuredId_or {answers : Option Value} {configuredId : Option String}
    (h : conflicts config canonicalResponse answers configuredId = false) :
    configuredId.or (snapshotId canonicalResponse) = snapshotId canonicalResponse := by
  obtain ⟨-, hid⟩ := Bool.or_eq_false_iff.mp h
  cases configuredId with
  | none => rfl
  | some id =>
    have hsame : some id = snapshotId canonicalResponse := by simpa using hid
    rw [Option.some_or, hsame]

theorem submitDraft_safe {draftId : String} (h : Consistent config s)
    (hs : Running t n key finalized false s)
    (hcanonical : requireCanonicalResponse finalized.handoff = .ok canonicalResponse) :
    Safe (keeping config t) (submitDraft config n finalized canonicalResponse key draftId)
      (Submitting config t n key finalized) s := by
  refine Safe.ask fun callbacks => ?_
  refine Safe.check (fun answers _ => ?_) fun _ _ => ⟨h, hs⟩
  refine Safe.check (fun configuredId _ => ?_) fun _ _ => ⟨h, hs⟩
  split
  · exact failed_safe ⟨h, hs⟩
  · rename_i hconflicts
    refine awaiting_safe hs fun resolved s₁ h₁ hs₁ => ?_
    refine Safe.check (fun token _ => ?_) fun _ _ => ⟨h₁, hs₁⟩
    refine current_safe ?_ fun _ => ⟨h₁, hs₁⟩
    refine Safe.ask fun callbacks => Safe.check (fun signing _ => ?_) fun _ _ => ⟨h₁, hs₁⟩
    refine Safe.bind (postJson_safe h₁ hs₁ hcanonical ?_) ?_ fun _ _ hs => hs
    · rw [configuredId_or (by simpa using hconflicts)]
    · rintro response s₂ hs₂
      split
      · exact failed_safe hs₂
      · exact Safe.pure hs₂

theorem submitOnce_safe (hs : Running t n key finalized false s)
    (hcanonical : requireCanonicalResponse finalized.handoff = .ok canonicalResponse) :
    Safe (keeping config t) (submitOnce config n finalized canonicalResponse key)
      (Submitting config t n key finalized) s := by
  refine awaiting_safe hs fun resolved s₁ h₁ hs₁ => ?_
  refine Safe.check (fun draftId _ => ?_) fun _ _ => ⟨h₁, hs₁⟩
  refine current_safe ?_ fun _ => ⟨h₁, hs₁⟩
  split
  · exact failed_safe ⟨h₁, hs₁⟩
  · exact submitDraft_safe h₁ hs₁ hcanonical

/-! ## Calls -/

theorem returned_safe {outcome : Except SubmitError SubmitConfirmation} (h : Consistent config s)
    (hn : s.owners[n]? = some t)
    (hkept : ∀ confirmation, confirmedBefore n key s.log = some confirmation →
      outcome = .ok confirmation) :
    Safe (keeping config t) (Prog.modify (·.note (.returned n key outcome)) : Op Unit)
      (fun _ _ => True) s :=
  ⟨h.note hn hkept (fun _ => rfl) (fun _ => rfl) fun _ => rfl, trivial⟩

theorem launch_safe (hs : Running t n key finalized false s)
    (hcanonical : requireCanonicalResponse finalized.handoff = .ok canonicalResponse) :
    Safe (keeping config t) (launch config n finalized canonicalResponse key) (fun _ _ => True) s := by
  have houtcome : Safe (keeping config t) (submitOnce config n finalized canonicalResponse key).outcome
      (Submitting config t n key finalized) s := Safe.outcome (submitOnce_safe hs hcanonical)
  refine Safe.bind houtcome ?_ fun _ _ _ => trivial
  rintro outcome s₁ ⟨h₁, hs₁⟩
  obtain ⟨hsettle, hs₂⟩ := hs₁.settle h₁ outcome
  refine Safe.modify hsettle (Safe.awaiting fun s₃ hrely h₃ answer hadmits => ?_)
  have hs₃ := ended_stable hs₂ hrely
  obtain ⟨-, arrival, haccept⟩ := hadmits
  have hanswer : s₃.outcomes n = some answer := by
    cases arrival with
    | settled => exact haccept
    | _ => cases haccept
  obtain rfl : outcome = answer := Option.some.inj (hs₃.outcome.symm.trans hanswer)
  have hbefore : ∀ confirmation, confirmedBefore n key s₃.log = some confirmation →
      outcome = .ok confirmation := fun _ hfound => by rw [hs₃.before] at hfound; cases hfound
  cases outcome with
  | ok confirmation => exact returned_safe h₃ hs₃.owner hbefore
  | error error =>
    have hforget := hs₃.forget h₃
    exact Safe.modify hforget (returned_safe hforget.consistent hs₃.owner hbefore)

theorem join_safe {submission : Nat} (hn : s.owners[n]? = some t)
    (hjoined : ∀ confirmation, confirmedBefore n key s.log = some confirmation →
      s.outcomes submission = some (.ok confirmation)) :
    Safe (keeping config t) (join n key submission) (fun _ _ => True) s := by
  refine Safe.awaiting fun s₁ hrely h₁ answer hadmits => ?_
  obtain ⟨-, arrival, haccept⟩ := hadmits
  have hanswer : s₁.outcomes submission = some answer := by
    cases arrival with
    | settled => exact haccept
    | _ => cases haccept
  refine returned_safe h₁ (owner_mono hrely.owners hn) fun confirmation hfound => ?_
  rw [hrely.confirmedBefore_eq hn] at hfound
  have hsettled := hrely.settled submission _ (hjoined confirmation hfound)
  exact Option.some.inj (hanswer.symm.trans hsettled)

section

variable (h : Consistent config s)
include h

theorem Consistent.idle (hnone : s.replay key = none) :
    SubmitTransport.confirmed key s.log = none ∧ inFlight key s.log = [] := by
  constructor
  · by_contra hsome
    obtain ⟨confirmation, hconfirmed⟩ := Option.ne_none_iff_exists'.mp hsome
    obtain ⟨m, hm, -⟩ := h.confirmed key confirmation hconfirmed
    rw [hnone] at hm
    cases hm
  · rcases h.flying key with hidle | ⟨m, -, hm, -⟩
    · exact hidle
    · rw [hnone] at hm
      cases hm

theorem refused_kept {current : Except SubmitError Unit} {handoff options : Value} {error : SubmitError} (hcheck : checkCall config s current key handoff options = .error error) :
    CallKept config key handoff options current (.error error) s.log := by
  intro first hfirst
  refine ⟨fun _ => ⟨error, rfl⟩, fun hpreserves hcurrent hresponse => ?_⟩
  obtain ⟨response, hresponse⟩ := hresponse
  obtain ⟨result, hresult⟩ :=
    checkCall_of_preserves ((h.finalized key).trans hfirst) h hpreserves hresponse
  rw [hcurrent, hresult] at hcheck
  cases hcheck

theorem Consistent.running (hfresh : Fresh t n s) (hnone : s.replay key = none)
    (handoff options : Value) (current : Except SubmitError Unit) :
    Running t n key finalized false (((s.finalize key finalized).note
      (.called n key handoff options current (.ok n))).start key n) := by
  obtain ⟨hunconfirmed, hidle⟩ := h.idle hnone
  refine ⟨hfresh.owner, fun found => ?_, hfresh.outcome, ?_, ?_, ⟨handoff, options, current,
    List.mem_cons_self⟩, ?_⟩
  · rw [start_replay]
    split
    · rename_i hsame
      exact iff_of_true rfl hsame
    · rename_i hne
      exact iff_of_false (hfresh.replay found) hne
  · exact Function.update_self key (some finalized) s.finalizedHandoffs
  · show n ∈ inFlight key s.log ↔ false = true
    rw [hidle]
    simp
  · exact (if_pos rfl).trans hunconfirmed

theorem proceed_safe {current : Except SubmitError Unit} {handoff options : Value} (hfresh : Fresh t n s) :
    Safe (keeping config t) (proceed config n key handoff options current (s.replay key)
      (checkCall config s current key handoff options)) (fun _ _ => True) s := by
  cases hcheck : checkCall config s current key handoff options with
  | error error =>
    exact ⟨h.note hfresh.owner (refused_kept h hcheck) (fun _ => rfl) (fun _ => rfl) fun _ => rfl,
      trivial⟩
  | ok submitted =>
    obtain ⟨finalized, canonicalResponse⟩ := submitted
    cases hreplay : s.replay key with
    | some submission =>
      have hsame : ∀ found, s.replay key = some found → found = submission :=
        fun found hfound => Option.some.inj (hfound.symm.trans hreplay)
      refine Safe.modify (h.callAdmitted hfresh.owner hcheck hsame)
        (join_safe hfresh.owner fun confirmation hfound => ?_)
      obtain ⟨m, hm, houtcome⟩ := h.confirmed key confirmation ((if_pos rfl).symm.trans hfound)
      rw [← hsame m hm]
      exact houtcome
    | none =>
      have hnew : ∀ found, s.replay key = some found → found = n :=
        fun found hfound => by rw [hreplay] at hfound; cases hfound
      have hcalled := h.callAdmitted hfresh.owner hcheck hnew
      have hstart := hcalled.consistent.start hfresh.owner hfresh.outcome hreplay
      refine Safe.modify ⟨hstart.consistent, fun u hne =>
        (hcalled.others u hne).trans (hstart.others u hne)⟩ ?_
      exact launch_safe (h.running hfresh hreplay handoff options current) (checkCall_ok hcheck).2.1

theorem submit_safe {handoffObject optionsObject : Nat} :
    Safe (keeping config t) (submit config t handoffObject key optionsObject) (fun _ _ => True) s := by
  refine Safe.ask fun callbacks => Safe.get ?_
  obtain ⟨hbegin, hfresh⟩ := h.begin (t := t)
  exact Safe.modify hbegin (proceed_safe hbegin.consistent hfresh)

theorem program_safe {op : TransportOp} :
    Safe (keeping config t) (program config t op) (fun _ _ => True) s := by
  cases op with
  | submit handoffObject key optionsObject => exact submit_safe h
  | mutate object value => exact ⟨⟨{ h with }, fun u _ => { Rely.refl u s with }⟩, trivial⟩

end

def submitProtocol (config : HttpSubmitTransportConfig) :
    Protocol (submitTransport config) (Discipline.free TransportState TransportOp Rep) where
  inv := Consistent config
  rely := Rely
  guar := Move config
  rely_refl := Rely.refl
  rely_trans _ _ _ _ := Rely.trans
  guar_rely _ u _ _ hne _ hmove := hmove.others u hne.symm
  guar_inv _ _ _ _ hmove := hmove.consistent
  safe _ _ _ h _ := program_safe h

theorem consistent_initial : Consistent config TransportState.initial where
  kept := throughout_nil
  outcomes_lt _ _ h := by cases h
  replay_lt _ _ h := by cases h
  log_lt _ h := by cases h
  finalized _ := rfl
  valid _ _ h := by cases h
  confirmed _ _ h := by cases h
  settled _ _ _ h := by cases h
  flying _ := .inl rfl

theorem Consistent.idempotent (h : Consistent config s) : Idempotent config s.log where
  kept := h.kept
  inFlight_le key := by
    rcases h.flying key with hidle | ⟨m, hflying, -⟩
    · rw [hidle]
      exact Nat.zero_le 1
    · rw [hflying]
      exact Nat.le_refl 1

/-- Submission is idempotent in every run of a transport. -/
theorem submission_idempotent (config : HttpSubmitTransportConfig)
    (es : List (Event Callbacks TransportOp Arrival))
    (p : Pool TransportState Callbacks SubmitError Rep)
    (hrun : (submitTransport config).run (Pool.initial TransportState.initial) es = some p) :
    Idempotent config p.state.log :=
  (submitProtocol config).run_invariant (J := fun s => Idempotent config s.log)
    (fun _ _ _ _ hmove _ => hmove.consistent.idempotent) consistent_initial
    consistent_initial.idempotent (Discipline.free_meets _ _ es) hrun

def intakeTransport : HttpSubmitTransportConfig where
  canonicalize value := some (canonicalText value)
  snapshotFiniteJson := .ok

def intakeHandoff : Value :=
  .object [("extensions", .object [("x-formspec-response",
    .object [("data", .object [("name", .string "Ada")]), ("id", .string "response-1")])])]

def submitKey : String := "01890a5d-ac96-774b-bcce-b302099a8057"

def openForm : Callbacks := ⟨.ok (), .ok none, .ok none, .ok false⟩

def closedForm : Callbacks := { openForm with assertCurrent := .error (.failed "retired") }

def submitted : List (Event Callbacks TransportOp Arrival) :=
  [.begin (.mutate 0 intakeHandoff) openForm, .begin (.submit 0 submitKey 1) openForm,
    .resume 1 (.resolved (.ok (some "draft-1"))) openForm, .resume 1 (.resolved (.ok none)) openForm,
    .resume 1 (.credentials (.ok ())) openForm,
    .resume 1 (.replied (.ok ⟨.string "response-1", .string "accepted"⟩)) openForm,
    .resume 1 .settled openForm]

def submitAgain (callbacks : Callbacks) : List (Event Callbacks TransportOp Arrival) :=
  [.begin (.submit 0 submitKey 1) callbacks]

theorem submission_idempotent_again :
    ∃ p, (submitTransport intakeTransport).run (Pool.initial TransportState.initial)
        (submitted ++ submitAgain openForm ++ [.resume 2 .settled openForm]) = some p
      ∧ Idempotent intakeTransport p.state.log := by
  have hruns : ((submitTransport intakeTransport).run (Pool.initial TransportState.initial)
      (submitted ++ submitAgain openForm ++ [.resume 2 .settled openForm])).isSome = true := by
    decide +kernel
  obtain ⟨p, hp⟩ := Option.isSome_iff_exists.mp hruns
  exact ⟨p, hp, submission_idempotent intakeTransport _ p hp⟩

/-- Once a submission of the key succeeded, every call that preserves its handoff and options is
admitted to it. -/
def ReturnsConfirmed (config : HttpSubmitTransportConfig) : Entry → List Entry → Prop
  | .called _ key handoff options _ admission, older => ∀ first confirmation,
      firstTaken config key older = some first → confirmed key older = some confirmation →
        Preserves config first handoff options → ∃ submission, admission = .ok submission
  | _, _ => True

def refusesConfirmed (config : HttpSubmitTransportConfig) : List Entry → Bool
  | .called _ key handoff options _ (.error _) :: older =>
    (confirmed key older).isSome && (firstTaken config key older).any fun first =>
      config.canonicalize handoff == config.canonicalize first.handoff
        && (snapshotSubmitOptions config options).toOption.any fun selected =>
          config.canonicalize selected == config.canonicalize first.options
  | _ => false

/-- A call whose own guard fails is refused after the success, though it differs in nothing. -/
theorem closed_form_refused :
    ∃ p, (submitTransport intakeTransport).run (Pool.initial TransportState.initial)
        (submitted ++ submitAgain closedForm) = some p
      ∧ ¬ Throughout (ReturnsConfirmed intakeTransport) p.state.log := by
  have hruns : ((submitTransport intakeTransport).run (Pool.initial TransportState.initial)
      (submitted ++ submitAgain closedForm)).any
        (fun p => refusesConfirmed intakeTransport p.state.log) = true := by decide +kernel
  obtain ⟨p, hp, hrefuses⟩ := (Option.any_eq_true _ _).mp hruns
  refine ⟨p, hp, fun hreturns => ?_⟩
  unfold refusesConfirmed at hrefuses
  split at hrefuses
  · rename_i call key handoff options current error older hlog
    obtain ⟨hconfirmed, hfirst⟩ := Bool.and_eq_true_iff.mp hrefuses
    obtain ⟨confirmation, hconfirmed⟩ := Option.isSome_iff_exists.mp hconfirmed
    obtain ⟨first, hfirst, hsame⟩ := (Option.any_eq_true _ _).mp hfirst
    obtain ⟨hhandoff, hoptions⟩ := Bool.and_eq_true_iff.mp hsame
    obtain ⟨selected, hselected, hoptions⟩ := (Option.any_eq_true _ _).mp hoptions
    rw [hlog, throughout_cons] at hreturns
    have hpreserves : Preserves intakeTransport first handoff options := by
      refine ⟨eq_of_beq hhandoff, selected, ?_, eq_of_beq hoptions⟩
      cases hsnapshot : snapshotSubmitOptions intakeTransport options with
      | error error => rw [hsnapshot] at hselected; cases hselected
      | ok found => rw [hsnapshot] at hselected; exact congrArg _ (Option.some.inj hselected)
    obtain ⟨submission, hadmitted⟩ := hreturns.1 first confirmation hfirst hconfirmed hpreserves
    cases hadmitted
  · cases hrefuses

end FormspecWeb.SubmitTransport
