import FormspecWeb.App.OneIntake

/-!
# Every run of a form session

The submit handler and the online listener followed from one await to the next, and what that
says of every run whose submit events fire in turn.
-/

namespace FormspecWeb.App

open Shared Async

variable {t n : Nat} {key : String} {ready : ReadyState} {s s' : SessionState} {α β : Type}

/-- Attempt `n` is in flight, and `R` holds of its result and the history. -/
def During (t n : Nat) (R : Except Failure α → List Entry → Prop) (r : Except Failure α)
    (s : SessionState) : Prop :=
  Single s ∧ Flying t n s ∧ R r s.log

theorem awaiting_safe {l : Label} {f : Rep l → Op β} {Q : Except Failure β → SessionState → Prop}
    (hf : Flying t n s)
    (h : ∀ answer s', Single s' → Flying t n s' → s'.log = s.log → Safe (keeping t) (f answer) Q s') :
    Safe (keeping t) (Prog.awaiting l >>= f) Q s := by
  apply Safe.awaiting
  intro s' hrely h' answer _
  obtain ⟨hf', hlog⟩ := hf.stable hrely
  exact h answer s' h' hf' hlog

theorem step_safe {l : Step} {f : Unit → Op β} {R : Except Failure β → List Entry → Prop}
    (hf : Flying t n s)
    (hok : ∀ s', Single s' → Flying t n s' → s'.log = s.log → Safe (keeping t) (f ()) (During t n R) s')
    (herror : ∀ e, R (.error e) s.log) : Safe (keeping t) (step l >>= f) (During t n R) s := by
  have hstep : Safe (keeping t) (step l) (During t n fun _ log => log = s.log) s := by
    refine awaiting_safe hf fun answer s' h' hf' hlog => ?_
    exact (⟨h', hf', hlog⟩ : During t n (fun _ log => log = s.log) answer s')
  refine Safe.bind hstep ?_ ?_
  · rintro ⟨⟩ s' ⟨h', hf', hlog⟩
    exact hok s' h' hf' hlog
  · rintro e s' ⟨h', hf', hlog⟩
    exact ⟨h', hf', hlog ▸ herror e⟩

theorem awaited_safe {p : Op α} {R : Except Failure α → List Entry → Prop}
    (hp : Safe (keeping t) p (During t n R) s) : Safe (keeping t) (awaited p) (During t n R) s := by
  refine Safe.sequel_iff.mpr (Safe.outcome (hp.mono fun r s' hr => ?_))
  obtain ⟨-, hf, hR⟩ := hr
  refine awaiting_safe hf fun _ s'' h'' hf'' hlog => ?_
  exact ⟨h'', hf'', hlog ▸ hR⟩

def Unsent (_ : Except Failure α) (log : List Entry) : Prop := intakes log = []

def Replied : Except Failure (Except Failure SubmitConfirmation) → List Entry → Prop
  | .ok (.error _), log => intakes log = []
  | _, _ => True

/-- A paid submission that did not reach the transport, or was refused there, left no intake. -/
def Paid : Except Failure SubmitWithPaymentOutcome → List Entry → Prop
  | .ok (.authorizeFailed _), log | .ok (.submitFailedPaymentVoided _), log
  | .ok (.voidFailedAfterSubmitFailure _ _), log => intakes log = []
  | _, _ => True

def Handed : Except Failure SubmitOrQueueOutcome → List Entry → Prop
  | .ok (.queued _), log => intakes log ≠ []
  | _, _ => True

def Left (r : Except Failure SubmitState) (log : List Entry) : Prop := Leaves (settledState r) log

theorem left_of_holds {r : Except Failure SubmitState} {log : List Entry}
    (hholds : holdsIntake (settledState r) = true) (hqueued : isQueued (settledState r) = false) :
    Left r log :=
  ⟨fun _ => hholds, fun hq => by rw [hqueued] at hq; cases hq⟩

theorem left_of_unsent {r : Except Failure SubmitState} {log : List Entry} (hnone : intakes log = [])
    (hqueued : isQueued (settledState r) = false) : Left r log :=
  ⟨fun hsome => absurd hnone hsome, fun hq => by rw [hqueued] at hq; cases hq⟩

theorem left_error (e : Failure) (log : List Entry) : Left (.error e) log := left_of_holds rfl rfl

/-! ## Submission -/

theorem submitIntake_safe (h : Single s) (hf : Flying t n s) (hnone : intakes s.log = []) :
    Safe (keeping t) (submitIntake (some n) key) (During t n Replied) s := by
  obtain ⟨hsend, hf₁⟩ := h.send hf key
  refine Safe.modify hsend (awaiting_safe hf₁ fun reply s₂ h₂ hf₂ hlog => ?_)
  have hnone₂ : intakes s₂.log = [] := by
    rw [hlog]
    exact hnone
  cases reply with
  | ok confirmation =>
    obtain ⟨haccept, hf₃⟩ := h₂.accept hf₂ hnone₂ key
    exact ⟨haccept, haccept.single, hf₃, trivial⟩
  | error e => exact ⟨h₂, hf₂, hnone₂⟩

theorem submitAuthorized_safe {authorization : Authorization} {captureKey voidKey : String}
    (h : Single s) (hf : Flying t n s) (hnone : intakes s.log = []) :
    Safe (keeping t) (submitAuthorized n key authorization captureKey voidKey) (During t n Paid) s := by
  refine Safe.bind (submitIntake_safe h hf hnone) ?_ fun e s₁ hs₁ => hs₁
  rintro reply s₁ ⟨h₁, hf₁, hreplied⟩
  cases reply with
  | error submitError =>
    have hnone₁ : intakes s₁.log = [] := hreplied
    refine awaiting_safe hf₁ fun voided s₂ h₂ hf₂ hlog => ?_
    cases voided with
    | error voidError => exact ⟨h₂, hf₂, hlog ▸ hnone₁⟩
    | ok _ => exact ⟨h₂, hf₂, hlog ▸ hnone₁⟩
  | ok confirmation =>
    refine awaiting_safe hf₁ fun captured s₂ h₂ hf₂ _ => ?_
    cases captured with
    | error error => exact ⟨h₂, hf₂, trivial⟩
    | ok captureReceipt => exact ⟨h₂, hf₂, trivial⟩

theorem resolveRailKey_safe {suffix : String} (hf : Flying t n s) (hnone : intakes s.log = []) :
    Safe (keeping t) (awaited (resolveRailKey key suffix)) (During t n Unsent) s := by
  refine awaited_safe (awaiting_safe hf fun derived s₁ h₁ hf₁ hlog => ?_)
  have hnone₁ : intakes s₁.log = [] := hlog ▸ hnone
  exact ⟨h₁, hf₁, hnone₁⟩

section

variable (h : Single s) (hf : Flying t n s)
include h hf

theorem submitAmount_safe {amount : Money} (hnone : intakes s.log = []) :
    Safe (keeping t) (submitAmount ready n key amount) (During t n Paid) s := by
  refine Safe.check (fun methodToken _ => ?_) fun e _ => ⟨h, hf, trivial⟩
  have hfailed : ∀ (e : Failure) s', During t n Unsent (.error e : Except Failure String) s' →
      During t n Paid (.error e) s' := fun e s' hs' => ⟨hs'.1, hs'.2.1, trivial⟩
  refine Safe.bind (resolveRailKey_safe hf hnone) ?_ hfailed
  rintro authorizeKey s₁ ⟨-, hf₁, hnone₁⟩
  refine Safe.bind (resolveRailKey_safe hf₁ hnone₁) ?_ hfailed
  rintro captureKey s₂ ⟨-, hf₂, hnone₂⟩
  refine Safe.bind (resolveRailKey_safe hf₂ hnone₂) ?_ hfailed
  rintro voidKey s₃ ⟨-, hf₃, hnone₃⟩
  refine awaiting_safe hf₃ fun authorized s₄ h₄ hf₄ hlog => ?_
  have hnone₄ : intakes s₄.log = [] := hlog ▸ hnone₃
  cases authorized with
  | error error => exact ⟨h₄, hf₄, hnone₄⟩
  | ok authorization => exact submitAuthorized_safe h₄ hf₄ hnone₄

theorem submitWithPayment_safe (hnone : intakes s.log = []) :
    Safe (keeping t) (submitWithPayment ready n key) (During t n Paid) s := by
  unfold submitWithPayment
  split
  · exact ⟨h, hf, trivial⟩
  split
  · exact ⟨h, hf, trivial⟩
  · exact submitAmount_safe h hf hnone

theorem notifyConfirmed_safe {state : SubmitState}
    (hholds : holdsIntake state = true) (hqueued : isQueued state = false) :
    Safe (keeping t) (notifyConfirmed >>= fun _ => (pure state : Op SubmitState))
      (During t n Left) s := by
  refine Safe.bind (P := fun _ s' => s' = s) (Safe.ask fun callbacks => rfl) ?_ ?_
  · rintro _ s' rfl
    exact ⟨h, hf, left_of_holds hholds hqueued⟩
  · rintro e s' rfl
    exact ⟨h, hf, left_error e _⟩

theorem settlePayment_safe {outcome : SubmitWithPaymentOutcome} (hpaid : Paid (.ok outcome) s.log) :
    Safe (keeping t) (settlePayment outcome) (During t n Left) s := by
  cases outcome with
  | submittedWithPayment confirmation receipt => exact notifyConfirmed_safe h hf rfl rfl
  | authorizeFailed error => exact ⟨h, hf, left_of_unsent hpaid rfl⟩
  | submitFailedPaymentVoided error => exact ⟨h, hf, left_of_unsent hpaid rfl⟩
  | voidFailedAfterSubmitFailure submitError voidError => exact ⟨h, hf, left_of_unsent hpaid rfl⟩
  | captureFailed confirmation error => exact notifyConfirmed_safe h hf rfl rfl

theorem submitOrQueue_safe {navigatorOnLine : Bool} (hnone : intakes s.log = []) :
    Safe (keeping t) (submitOrQueue ready n key navigatorOnLine) (During t n Handed) s := by
  unfold submitOrQueue
  split
  · refine Safe.check (fun _ _ => ?_) fun e _ => ⟨h, hf, trivial⟩
    obtain ⟨hqueue, hf₁⟩ := h.enqueue hf hnone key
    refine Safe.modify hqueue (step_safe hf₁ (fun s₂ h₂ hf₂ hlog => ?_) fun _ => trivial)
    have hqueued : intakes s₂.log ≠ [] := by
      rw [hlog]
      exact List.cons_ne_nil _ _
    exact ⟨h₂, hf₂, hqueued⟩
  · refine Safe.bind (submitIntake_safe h hf hnone) ?_ fun e s₁ hs₁ => ⟨hs₁.1, hs₁.2.1, trivial⟩
    rintro reply s₁ ⟨h₁, hf₁, -⟩
    exact Safe.check (fun confirmation _ => ⟨h₁, hf₁, trivial⟩) fun e _ => ⟨h₁, hf₁, trivial⟩

theorem settleUnpaid_safe {outcome : SubmitOrQueueOutcome} (hhanded : Handed (.ok outcome) s.log) :
    Safe (keeping t) (settleUnpaid outcome) (During t n Left) s := by
  cases outcome with
  | submitted confirmation => exact notifyConfirmed_safe h hf rfl rfl
  | queued queuedSubmit => exact ⟨h, hf, fun _ => rfl, fun _ => hhanded⟩

end

/-! ## The handler -/

theorem deliver_safe (hf : Flying t n s) (hnone : intakes s.log = []) :
    Safe (keeping t) (deliver ready n key) (During t n Left) s := by
  refine step_safe hf (fun s₁ h₁ hf₁ hlog => ?_) fun e => left_error e _
  have hnone₁ : intakes s₁.log = [] := hlog ▸ hnone
  split
  · have hpay : ∀ s₂, Single s₂ → Flying t n s₂ → intakes s₂.log = [] →
        Safe (keeping t) (awaited (submitWithPayment ready n key) >>= settlePayment)
          (During t n Left) s₂ := by
      intro s₂ h₂ hf₂ hnone₂
      refine Safe.bind (awaited_safe (submitWithPayment_safe h₂ hf₂ hnone₂)) ?_ ?_
      · rintro outcome s₃ ⟨h₃, hf₃, hpaid⟩
        exact settlePayment_safe h₃ hf₃ hpaid
      · rintro e s₃ ⟨h₃, hf₃, -⟩
        exact ⟨h₃, hf₃, left_error e _⟩
    split
    · rename_i amount _
      have hbusy : isBusy (.authorizingPayment amount) = true := rfl
      obtain ⟨hset, hf₂⟩ := h₁.setBusy hf₁ hbusy
      exact Safe.modify hset (hpay _ hset.single hf₂ hnone₁)
    · exact hpay s₁ h₁ hf₁ hnone₁
  · refine Safe.ask fun callbacks => ?_
    refine Safe.bind (awaited_safe (submitOrQueue_safe h₁ hf₁ hnone₁)) ?_ ?_
    · rintro outcome s₂ ⟨h₂, hf₂, hhanded⟩
      exact settleUnpaid_safe h₂ hf₂ hhanded
    · rintro e s₂ ⟨h₂, hf₂, -⟩
      exact ⟨h₂, hf₂, left_error e _⟩

theorem deliverSigned_safe {policy : MultiPartyPolicy} (hf : Flying t n s)
    (hnone : intakes s.log = []) :
    Safe (keeping t) (deliverSigned ready n key policy) (During t n Left) s := by
  refine awaiting_safe hf fun recorded s₁ h₁ hf₁ hlog₁ => ?_
  refine Safe.check (fun completed _ => ?_) fun e _ => ⟨h₁, hf₁, left_error e _⟩
  refine step_safe hf₁ (fun s₂ h₂ hf₂ hlog₂ => ?_) fun e => left_error e _
  have hnone₂ : intakes s₂.log = [] := by
    rw [hlog₂, hlog₁]
    exact hnone
  obtain ⟨hset, hf₃⟩ := h₂.setMultiPartyState hf₂ completed
  refine Safe.modify hset ?_
  split
  · exact ⟨hset.single, hf₃, left_of_unsent hnone₂ rfl⟩
  · refine Safe.ask fun callbacks => Safe.check (fun _ _ => ?_) fun e _ =>
      ⟨hset.single, hf₃, left_error e _⟩
    refine step_safe hf₃ (fun s₄ _ hf₄ hlog₄ => ?_) fun e => left_error e _
    exact deliver_safe hf₄ (hlog₄ ▸ hnone₂)

theorem handIn_safe (hf : Flying t n s) (hnone : intakes s.log = []) :
    Safe (keeping t) (handIn ready n key) (During t n Left) s := by
  unfold handIn
  split
  · exact deliver_safe hf hnone
  · exact deliverSigned_safe hf hnone

theorem complete_safe (h : Single s) (hf : Flying t n s) (hnone : intakes s.log = []) :
    Safe (keeping t) (complete ready n) (During t n Left) s := by
  refine Safe.ask fun callbacks => Safe.check (fun _ _ => ?_) fun e _ => ⟨h, hf, left_error e _⟩
  have hsave : ∀ s₁, Flying t n s₁ → intakes s₁.log = [] →
      Safe (keeping t) (step .save >>= fun _ => handIn ready n callbacks.idempotencyKey)
        (During t n Left) s₁ := by
    intro s₁ hf₁ hnone₁
    refine step_safe hf₁ (fun s₂ _ hf₂ hlog => ?_) fun e => left_error e _
    exact handIn_safe hf₂ (hlog ▸ hnone₁)
  split
  · exact step_safe hf (fun s₁ _ hf₁ hlog => hsave s₁ hf₁ (hlog ▸ hnone)) fun e => left_error e _
  · exact hsave s hf hnone

variable {result : SubmitResult}

theorem submission_safe (hf : Flying t n s) (hnone : intakes s.log = []) :
    Safe (keeping t) (submission ready result n) (During t n Left) s := by
  refine step_safe hf (fun s₁ _ hf₁ hlog₁ => ?_) fun e => left_error e _
  refine step_safe hf₁ (fun s₂ h₂ hf₂ hlog₂ => ?_) fun e => left_error e _
  refine Safe.check (fun _ _ => ?_) fun e _ => ⟨h₂, hf₂, left_error e _⟩
  refine step_safe hf₂ (fun s₃ h₃ hf₃ hlog₃ => ?_) fun e => left_error e _
  have hnone₃ : intakes s₃.log = [] := by
    rw [hlog₃, hlog₂, hlog₁]
    exact hnone
  split
  · exact ⟨h₃, hf₃, left_of_unsent hnone₃ rfl⟩
  · exact complete_safe h₃ hf₃ hnone₃

theorem attemptSubmit_safe (h : Single s) (hfire : mayFire s = true) :
    Safe (keeping t) (attemptSubmit t s.owners.length ready result) (fun _ _ => True) s := by
  obtain ⟨hmove, hf, hnone⟩ := h.fire (t := t) hfire
  refine Safe.modify hmove ?_
  have houtcome : Safe (keeping t) (submission ready result s.owners.length).outcome
      (fun r s' => ∀ outcome, r = .ok outcome → During t s.owners.length Left outcome s') (s.fire t) :=
    Safe.outcome ((submission_safe hf hnone).mono fun r s' hr outcome heq => Except.ok.inj heq ▸ hr)
  refine Safe.bind houtcome ?_ fun _ _ _ => trivial
  intro outcome s₁ hs₁
  obtain ⟨h₁, hf₁, hleft⟩ := hs₁ outcome rfl
  exact ⟨h₁.finish hf₁ hleft, trivial⟩

theorem handleSubmit_safe {render : Nat} (h : Single s)
    (hturn : fires s (.submit render result) = true → mayFire s = true) :
    Safe (keeping t) (handleSubmit t render result) (fun _ _ => True) s := by
  refine Safe.get ?_
  split
  · trivial
  · rename_i closure hclosure
    split
    · trivial
    · rename_i hpasses
      apply attemptSubmit_safe h (hturn ?_)
      simpa [fires, hclosure] using hpasses

/-! ## The online listener -/

def AfterSeal (_ : Except Failure α) (s : SessionState) : Prop := Single s ∧ Sealed s.log

theorem awaitingSealed_safe {l : Label} {f : Rep l → Op β} {Q : Except Failure β → SessionState → Prop}
    (hs : Sealed s.log)
    (h : ∀ answer s', Single s' → Sealed s'.log → s.log <:+ s'.log → Safe (keeping t) (f answer) Q s') :
    Safe (keeping t) (Prog.awaiting l >>= f) Q s := by
  apply Safe.awaiting
  intro s' hrely h' answer _
  exact h answer s' h' (hrely.sealed hs) hrely.log

section

variable (h : Single s) (hs : Sealed s.log)
include h hs

theorem submitQueued_safe {attempt : Option Nat}
    (hentry : ∀ m, attempt = some m → key ∈ intakes s.log ∧ Clean m s.log) :
    Safe (keeping t) (submitIntake attempt key) AfterSeal s := by
  have hkept : Kept (.sent attempt key) s.log := by
    cases attempt with
    | none => trivial
    | some m => exact .inr (hentry m rfl).2
  obtain ⟨hsend, hs₁⟩ := h.noteSealed (t := t) hs hkept rfl nofun
  refine Safe.modify hsend (awaitingSealed_safe hs₁ fun reply s₂ h₂ hs₂ hlog => ?_)
  have hintake : ∀ found, (Entry.accepted attempt key).intake? = some found →
      found ∈ intakes s₂.log := by
    intro found hfound
    cases attempt with
    | none => cases hfound
    | some m =>
      cases hfound
      exact intakes_mono ((List.suffix_cons _ _).trans hlog) (hentry m rfl).1
  cases reply with
  | ok confirmation =>
    have hfine : Kept (.accepted attempt key) s₂.log := trivial
    obtain ⟨haccept, hs₃⟩ := h₂.noteSealed (t := t) hs₂ hfine rfl hintake
    exact ⟨haccept, haccept.single, hs₃⟩
  | error e => exact ⟨h₂, hs₂⟩

theorem replayKeys_safe {keys : List String} :
    Safe (keeping t) (replayKeys keys) AfterSeal s := by
  induction keys generalizing s with
  | nil => exact ⟨h, hs⟩
  | cons key rest ih =>
    refine Safe.get ?_
    split
    · exact ih h hs
    · rename_i entry hfound
      have hkey : entry.idempotencyKey = key := by simpa using List.find?_some hfound
      have hentry : ∀ m, entry.attempt = some m → key ∈ intakes s.log ∧ Clean m s.log :=
        fun m hm => hkey ▸ h.entries entry (List.mem_of_find?_eq_some hfound) m hm
      refine Safe.bind (submitQueued_safe h hs hentry) ?_ fun _ _ hs₁ => hs₁
      rintro reply s₁ ⟨h₁, hs₁⟩
      have hrest : ∀ s₂, Single s₂ → Sealed s₂.log → Safe (keeping t)
          (replayKeys rest >>= fun outcomes => pure (⟨key, reply⟩ :: outcomes)) AfterSeal s₂ :=
        fun s₂ h₂ hs₂ => Safe.bind (ih h₂ hs₂) (fun _ _ hs₃ => hs₃) fun _ _ hs₃ => hs₃
      split
      · have hdequeue := h₁.dequeue (t := t) hs₁ key
        exact Safe.modify hdequeue (hrest _ hdequeue.single hs₁)
      · exact hrest s₁ h₁ hs₁

theorem replay_safe :
    Safe (keeping t) (awaited replay) AfterSeal s := by
  have hreplay : Safe (keeping t) replay AfterSeal s := by
    refine Safe.get (Safe.bind (replayKeys_safe h hs) ?_ fun _ _ hs₁ => hs₁)
    rintro outcomes s₁ ⟨-, hs₁⟩
    refine Safe.bind (P := AfterSeal) ?_ (fun _ _ hs₂ => hs₂) fun _ _ hs₂ => hs₂
    exact awaitingSealed_safe hs₁ fun _ s₂ h₂ hs₂ _ => ⟨h₂, hs₂⟩
  refine Safe.sequel_iff.mpr (Safe.outcome (hreplay.mono fun r s' hr => ?_))
  exact awaitingSealed_safe hr.2 fun _ s'' h'' hs'' _ => ⟨h'', hs''⟩

theorem settleReplay_safe {effect : Nat} {queuedKey : String} {outcomes : List ReplayOutcome} :
    Safe (keeping t) (settleReplay effect queuedKey outcomes) AfterSeal s := by
  have hset : ∀ state, holdsIntake state = true →
      Safe (keeping t) (Prog.modify (·.setSubmitState state) : Op Unit) AfterSeal s := by
    intro state hholds
    have hsettle := h.settle (t := t) hs hholds
    exact ⟨hsettle, hsettle.single, hs⟩
  refine Safe.get ?_
  split
  · exact ⟨h, hs⟩
  split
  · refine Safe.bind (P := fun _ s' => s' = s) (Safe.ask fun callbacks => rfl) ?_ ?_
    · rintro _ s' rfl
      exact hset _ rfl
    · rintro e s' rfl
      exact ⟨h, hs⟩
  split
  · exact hset _ rfl
  · exact ⟨h, hs⟩

end

theorem onlineListener_safe (h : Single s) :
    Safe (keeping t) onlineListener (fun _ _ => True) s := by
  refine Safe.get ?_
  split
  · trivial
  · rename_i effect queuedKey hlistener
    have hs : Sealed s.log := h.listening _ hlistener
    refine Safe.tryCatch (P := AfterSeal) ?_ (fun _ _ _ => trivial) ?_
    · refine Safe.bind (replay_safe h hs) ?_ fun _ _ hs₁ => hs₁
      rintro outcomes s₁ ⟨h₁, hs₁⟩
      exact settleReplay_safe h₁ hs₁
    · rintro e s₁ ⟨h₁, hs₁⟩
      refine Safe.get ?_
      split
      · trivial
      · exact ⟨h₁.settle hs₁ rfl, trivial⟩

theorem program_safe {op : SessionOp} (h : Single s)
    (hturn : fires s op = true → mayFire s = true) :
    Safe (keeping t) (program t op) (fun _ _ => True) s := by
  cases op with
  | submit render result => exact handleSubmit_safe h hturn
  | render => exact ⟨h.render, trivial⟩
  | runEffects => exact ⟨h.runEffects, trivial⟩
  | online => exact onlineListener_safe h
  | setRespondentState ready => exact ⟨⟨{ h with }, fun _ _ => .of_same rfl rfl rfl⟩, trivial⟩
  | requestTerminalClear requested =>
    exact ⟨⟨{ h with }, fun _ _ => .of_same rfl rfl rfl⟩, trivial⟩

/-- The handlers of a session follow one protocol while submit events fire in turn. -/
def sessionProtocol : Protocol formSession submitsInTurn where
  inv := Single
  rely := Rely
  guar := Move
  rely_refl := Rely.refl
  rely_trans _ _ _ _ := Rely.trans
  guar_rely _ u _ _ hne _ hmove := hmove.others u hne.symm
  guar_inv _ _ _ _ hmove := hmove.single
  safe _ _ _ h hturn := program_safe h hturn

theorem single_initial (ready : ReadyState) (leftover : List String) :
    Single (SessionState.initial ready leftover) where
  kept := throughout_nil
  one _ hk := by cases hk
  flying := .inl rfl
  held hsome := absurd rfl hsome
  queued hq := by cases hq
  rendered _ hc := by cases hc
  listening _ hl := by cases hl
  entries entry hentry n hn := by
    obtain ⟨found, -, rfl⟩ := List.mem_map.mp hentry
    cases hn

/-- At most one intake of a session is accepted, in every run whose submit events fire in turn. -/
theorem one_intake (ready : ReadyState) (leftover : List String)
    (es : List (Event Callbacks SessionOp Arrival)) (p : Pool SessionState Callbacks Failure Rep)
    (hturn : submitsInTurn.Meets formSession (Pool.initial (.initial ready leftover)) es)
    (hrun : formSession.run (Pool.initial (.initial ready leftover)) es = some p) :
    OneIntake p.state.log :=
  sessionProtocol.run_invariant (J := fun s => OneIntake s.log)
    (fun _ _ _ _ hmove _ => hmove.single.oneIntake) (single_initial ready leftover)
    (single_initial ready leftover).oneIntake hturn hrun

instance (s : SessionState) (op : SessionOp) : Decidable (submitsInTurn.begins s op) :=
  inferInstanceAs (Decidable (fires s op = true → mayFire s = true))

instance (s : SessionState) (l : Label) (r : Rep l) : Decidable (submitsInTurn.resumes s l r) :=
  inferInstanceAs (Decidable True)

def paidForm : ReadyState where
  definition := .object [("extensions", .object [
    ("x-formspec-payment-amount", .object [("amountMinorUnits", .number 2500),
      ("currency", .string "USD")]),
    ("x-formspec-payment-method-token", .string "card-1")])]
  subjectRef := none
  multiPartyState := none
  runtimeProfile := ⟨true, false, false, false, none⟩
  ownedRuntime := false

def firstKey : String := "01890a5d-ac96-774b-bcce-b302099a8057"

def secondKey : String := "01890a5d-ac96-774b-bcce-b302099a8058"

def onlineWith (key : String) : Callbacks := ⟨key, .ok (), .ok (), true, .ok ()⟩

/-- A render, a submit event of it, and the attempt up to the authorization. -/
def authorizing (render : Nat) (callbacks : Callbacks) : List (Event Callbacks SessionOp Arrival) :=
  [.begin .render callbacks, .begin (.submit render ⟨none⟩) callbacks]
    ++ ([.done (.ok ()), .done (.ok ()), .done (.ok ()), .done (.ok ()), .done (.ok ()),
      .derived (.ok "authorize-key"), .returned, .derived (.ok "capture-key"), .returned,
      .derived (.ok "void-key"), .returned].map fun answer =>
        .resume (2 * render + 1) answer callbacks)

def captureFails (render : Nat) (callbacks : Callbacks) : List (Event Callbacks SessionOp Arrival) :=
  authorizing render callbacks
    ++ ([.authorized (.ok ⟨"authorization-1"⟩), .replied (.ok ⟨"reference-1"⟩),
      .captured (.error "settlement failed"), .returned].map fun answer =>
        .resume (2 * render + 1) answer callbacks)

def authorizeFails (render : Nat) (callbacks : Callbacks) : List (Event Callbacks SessionOp Arrival) :=
  authorizing render callbacks
    ++ ([.authorized (.error "card declined"), .returned].map fun answer =>
        .resume (2 * render + 1) answer callbacks)

theorem one_intake_after_decline :
    ∃ p, formSession.run (Pool.initial (.initial paidForm []))
        (authorizeFails 0 (onlineWith firstKey) ++ captureFails 1 (onlineWith secondKey)) = some p
      ∧ OneIntake p.state.log := by
  have hruns : (formSession.run (Pool.initial (.initial paidForm []))
      (authorizeFails 0 (onlineWith firstKey) ++ captureFails 1 (onlineWith secondKey))).isSome
        = true := by decide +kernel
  obtain ⟨p, hp⟩ := Option.isSome_iff_exists.mp hruns
  exact ⟨p, hp, one_intake paidForm [] _ p (Discipline.meets_of_obeys (by decide +kernel)) hp⟩

/-- After a capture that failed the form is still there, and its next submit event sends another
intake, under a key of its own. -/
theorem capture_failed_submits_again :
    ∃ p, formSession.run (Pool.initial (.initial paidForm []))
        (captureFails 0 (onlineWith firstKey) ++ captureFails 1 (onlineWith secondKey)) = some p
      ∧ ¬ OneIntake p.state.log := by
  have hkeys : (formSession.run (Pool.initial (.initial paidForm []))
      (captureFails 0 (onlineWith firstKey) ++ captureFails 1 (onlineWith secondKey))).map
        (fun p => acceptedKeys p.state.log) = some [secondKey, firstKey] := by decide +kernel
  obtain ⟨p, hp, hkeys⟩ := Option.map_eq_some_iff.mp hkeys
  refine ⟨p, hp, fun hone => ?_⟩
  have hsame : secondKey = firstKey :=
    hone.accepted _ (by rw [hkeys]; exact List.mem_cons_self) _
      (by rw [hkeys]; exact List.mem_cons_of_mem _ List.mem_cons_self)
  exact absurd hsame (by decide)

end FormspecWeb.App
