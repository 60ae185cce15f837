import FormspecWeb.Controller.Arrivals
import FormspecWeb.Controller.Deliveries

/-!
# A delivery again

Whatever the runs before, a delivery that finds another one under its id is answered from the table:
refused where its identity differs, joined where the first is pending, and where that has kept its
outputs, given those or, a Save or Prepare, refused. None of this calls a port.
-/

namespace FormspecWeb.Controller

open Shared Ports Engine Async

variable {config : ResponseActionControllerConfig} {t : Nat} {s : State config}
  {hashed : HashedCall} {request : Option RuntimeRequest} {recoveringSign : Bool}
  {responseHash : String} {caller : Except Failure Outputs → Script config Unit} {callbacks : Callbacks}

theorem keepsDeliveries_of_moves {s' : State config}
    (h : Relation.ReflTransGen (controllerProtocol config Schedule.any).Move s s')
    (hcurrent : s'.invalidated = false) : KeepsDeliveries s s' := by
  induction h with
  | refl => exact fun id old hold => ⟨old, hold, .refl old⟩
  | tail _ hmove ih =>
    obtain ⟨u, -, hmove⟩ := hmove
    have hmove : Move Schedule.any u _ _ := hmove
    have hbefore := ih (hmove.invalidated_false hcurrent)
    rcases hmove.keepsDeliveries with hkept | hinvalidated
    · intro id old hold
      obtain ⟨middle, hmiddle, hfollows⟩ := hbefore id old hold
      obtain ⟨delivery, hdelivery, hfollows'⟩ := hkept id middle hmiddle
      exact ⟨delivery, hdelivery, hfollows.trans hfollows'⟩
    · rw [hcurrent] at hinvalidated
      cases hinvalidated

section

variable {call : Call} {identity : OperationIdentity} {entry : Delivery}

theorem decideAdmission_stale (h : s.isCurrent call.generation = false) :
    decideAdmission s call identity = .error (.refusal .contextObsolete) := by
  simp only [decideAdmission, h]
  rfl

section

variable (hcurrent : s.isCurrent call.generation = true)
  (hentry : s.deliveries call.deliveryId = some entry)
include hcurrent hentry

theorem decideAdmission_differs (h : entry.identity ≠ identity) :
    decideAdmission s call identity = .error (.refusal .operationConflict) := by
  have hne : (entry.identity != identity) = true := by simpa using h
  simp only [decideAdmission, hcurrent, hentry, hne]
  rfl

theorem decideAdmission_joins {promise : Nat} (h : entry.identity = identity)
    (hpending : entry.pending = some promise) : decideAdmission s call identity = .ok (.join promise) := by
  have heq : (entry.identity != identity) = false := by simpa using h
  simp only [decideAdmission, hcurrent, hentry, heq, hpending]
  rfl

theorem decideAdmission_retired (h : entry.identity = identity)
    (hpending : entry.pending = none) (hretired : entry.retired = true) :
    decideAdmission s call identity = .error (.refusal .operationConflict) := by
  have heq : (entry.identity != identity) = false := by simpa using h
  simp only [decideAdmission, hcurrent, hentry, heq, hpending, hretired]
  rfl

theorem decideAdmission_replays {outputs : Outputs} (h : entry.identity = identity)
    (hpending : entry.pending = none) (hretired : entry.retired = false)
    (hcompleted : entry.completed = some outputs) :
    decideAdmission s call identity = .ok (.replay outputs) := by
  have heq : (entry.identity != identity) = false := by simpa using h
  simp only [decideAdmission, hcurrent, hentry, heq, hpending, hretired, hcompleted]
  rfl

end

end

theorem segment_refused {failure : Failure}
    (h : decideAdmission (s.note (.hashed t)) hashed.call (hashed.identity responseHash) = .error failure) :
    ((arrived config t hashed request recoveringSign (.ok responseHash)).sequel caller).segment callbacks s
      = (caller (.error failure)).segment callbacks (s.note (.hashed t)) := by
  show Prog.segment callbacks (Prog.sequel (Prog.check (decideAdmission (s.note (.hashed t)) hashed.call
    (hashed.identity responseHash)) >>= _) caller) _ = _
  rw [h]
  rfl

theorem segment_replayed {outputs : Outputs}
    (h : decideAdmission (s.note (.hashed t)) hashed.call (hashed.identity responseHash)
      = .ok (.replay outputs)) :
    ((arrived config t hashed request recoveringSign (.ok responseHash)).sequel caller).segment callbacks s
      = (caller (.ok outputs)).segment callbacks (s.note (.hashed t)) := by
  show Prog.segment callbacks (Prog.sequel (Prog.check (decideAdmission (s.note (.hashed t)) hashed.call
    (hashed.identity responseHash)) >>= _) caller) _ = _
  rw [h]
  rfl

theorem segment_joined {promise : Nat}
    (h : decideAdmission (s.note (.hashed t)) hashed.call (hashed.identity responseHash)
      = .ok (.join promise)) :
    ((arrived config t hashed request recoveringSign (.ok responseHash)).sequel caller).segment callbacks s
      = (s.note (.hashed t), some ⟨.joined promise, caller⟩) := by
  show Prog.segment callbacks (Prog.sequel (Prog.check (decideAdmission (s.note (.hashed t)) hashed.call
    (hashed.identity responseHash)) >>= _) caller) _ = _
  rw [h]
  rfl

/-! ## The law -/

/-- A delivery ends where its hash arrives: nothing is written but the arrival, and its caller goes on
with the outcome. -/
def EndsOnArrival (q : Pool (State config) Callbacks Failure Reply) (t : Nat)
    (next : Except Failure String → Script config Unit) (caller : Except Failure Outputs → Script config Unit)
    (responseHash : String) (outcome : Except Failure Outputs) : Prop :=
  ∀ callbacks, (next (.ok responseHash)).segment callbacks q.state
    = (caller outcome).segment callbacks (q.state.note (.hashed t))

/-- How a delivery whose hash is awaited is answered beside an entry of its id. -/
structure Redelivered (q : Pool (State config) Callbacks Failure Reply) (t : Nat) (hashed : HashedCall)
    (next : Except Failure String → Script config Unit) (caller : Except Failure Outputs → Script config Unit)
    (entry : Delivery) : Prop where
  stale : q.state.isCurrent hashed.call.generation = false → ∀ responseHash,
    EndsOnArrival q t next caller responseHash (.error (.refusal .contextObsolete))
  differs : q.state.isCurrent hashed.call.generation = true → ∀ responseHash,
    entry.identity ≠ hashed.identity responseHash →
    EndsOnArrival q t next caller responseHash (.error (.refusal .operationConflict))
  joins : q.state.isCurrent hashed.call.generation = true → ∀ responseHash promise,
    entry.identity = hashed.identity responseHash → entry.pending = some promise → ∀ callbacks,
    (next (.ok responseHash)).segment callbacks q.state
      = (q.state.note (.hashed t), some ⟨.joined promise, caller⟩)
  retires : q.state.isCurrent hashed.call.generation = true → ∀ responseHash outputs,
    entry.identity = hashed.identity responseHash → entry.pending = none →
    entry.completed = some outputs →
    (entry.identity.role.isSave || entry.identity.role == .prepare) = true →
    EndsOnArrival q t next caller responseHash (.error (.refusal .operationConflict))
  replays : q.state.isCurrent hashed.call.generation = true → ∀ responseHash outputs,
    entry.identity = hashed.identity responseHash → entry.pending = none →
    entry.completed = some outputs → entry.identity.role = .sign ∨ entry.identity.role = .submit →
    EndsOnArrival q t next caller responseHash (.ok outputs)

theorem redelivered {q : Pool (State config) Callbacks Failure Reply} {entry : Delivery}
    {next : Except Failure String → Script config Unit} (htable : TableState q.state)
    (hentry : q.state.deliveries hashed.call.deliveryId = some entry)
    (hnext : next = fun answer => (arrived config t hashed request recoveringSign answer).sequel caller) :
    Redelivered q t hashed next caller entry := by
  subst hnext
  constructor
  · intro hstale responseHash callbacks
    exact segment_refused (decideAdmission_stale hstale)
  · intro hcurrent responseHash hdiffers callbacks
    exact segment_refused (decideAdmission_differs hcurrent hentry hdiffers)
  · intro hcurrent responseHash promise hidentity hpending callbacks
    exact segment_joined (decideAdmission_joins hcurrent hentry hidentity hpending)
  · intro hcurrent responseHash outputs hidentity hpending hcompleted hrole callbacks
    have hretired := htable.retires _ entry outputs hentry hrole hcompleted
    exact segment_refused (decideAdmission_retired hcurrent hentry hidentity hpending hretired)
  · intro hcurrent responseHash outputs hidentity hpending hcompleted hrole callbacks
    have hretired : entry.retired = false := by
      by_contra hretired
      have hunsaved := htable.retired _ entry hentry (Bool.not_eq_false _ ▸ hretired)
      rcases hrole with hsign | hsubmit
      · rw [hsign] at hunsaved
        cases hunsaved
      · rw [hsubmit] at hunsaved
        cases hunsaved
    exact segment_replayed (decideAdmission_replays hcurrent hentry hidentity hpending hretired hcompleted)

/-- A delivery whose result was retained returns it before the other checks of the controller. -/
theorem segment_retained {widget : WidgetRequest} {result : InvocationResult}
    (hcurrent : s.invalidated = false) (hreplayed : replayedSubmit s widget = .ok (some result)) :
    (widgetExecutor config t widget).segment callbacks s
      = (s.note (.returned t (some .submit) result), none) := by
  have hnow : refuseIf (!s.isCurrent s.epoch) .contextObsolete = .ok () := by
    simp [State.isCurrent, hcurrent, refuseIf]
  simp only [widgetExecutor, current, Prog.get, Prog.check, Bind.bind, MonadExcept.tryCatch, Prog.sequel,
    Prog.segment, hnow, hreplayed]
  rfl

theorem replayedSubmit_outputs {F : Schedule} (hw : Wellformed F s) {widget : WidgetRequest}
    {result : InvocationResult} (hreplayed : replayedSubmit s widget = .ok (some result))
    {entry : Delivery} {outputs : Outputs} (hentry : s.deliveries widget.invocationId = some entry)
    (hrole : entry.identity.role = .submit) (hcompleted : entry.completed = some outputs) :
    result.status = .completed ∧ result.transitionBindings = outputs := by
  obtain ⟨identity, hretained⟩ := replayedSubmit_ok hreplayed
  obtain ⟨hstatus, u, completion, hmem, hbindings⟩ := hw.retained identity result hretained
  obtain ⟨v, accepted, hmem', houtputs⟩ := hw.completed _ entry outputs hentry hrole hcompleted
  have hone := (hw.once u _ completion hmem).symm.trans (hw.once v _ accepted hmem')
  obtain ⟨-, rfl⟩ := Prod.mk.inj (Option.some.inj hone)
  exact ⟨hstatus, Option.some.inj (hbindings.symm.trans houtputs)⟩

/-- In every run, the port calls made for one delivery carry one operation id and are made by admitted
calls only. A delivery stays in the table while the controller is current; one more under its id is
answered from the table, with the outputs its operation settled with, and its call then returns those or
the refusal; a Submit whose result was retained returns this at once. -/
theorem deliveries_idempotent {es later : List (Event Callbacks Begin Answer)}
    {p q : Pool (State config) Callbacks Failure Reply}
    (hrun : (controller config).run (create config) es = some p)
    (hlater : (controller config).run p later = some q) :
    Throughout OneOperation q.state.log ∧
      ∀ id first, p.state.deliveries id = some first → q.state.invalidated = false →
        ∃ entry, q.state.deliveries id = some entry ∧ first.Follows entry
          ∧ (∀ n promise outputs, q.state.promises n = some promise → promise.deliveryId = id →
              promise.role.keepsOutputs = true → promise.outcome = some (.ok outputs) →
              entry.completed = some outputs)
          ∧ (∀ widget result outputs, widget.invocationId = id →
              replayedSubmit q.state widget = .ok (some result) → entry.identity.role = .submit →
              entry.completed = some outputs →
              result.status = .completed ∧ result.transitionBindings = outputs ∧
                ∀ t callbacks, (widgetExecutor config t widget).segment callbacks q.state
                  = (q.state.note (.returned t (some .submit) result), none))
          ∧ ∀ t hashed next, q.threads t = some ⟨.hashResponse hashed, next⟩ →
              hashed.call.deliveryId = id → ∃ caller, Served config t hashed.call caller ∧
                Redelivered q t hashed next caller entry := by
  have hwhole : (controller config).run (create config) (es ++ later) = some q :=
    (System.run_append _ hrun).trans hlater
  have htable : TableState q.state := (Schedule.Run.any hwhole).keeps
    (fun _ _ _ hw hmove h => h.move hw hmove) tableState_initial
  have hwellformed : Wellformed Schedule.any q.state := (Schedule.Run.any hwhole).keeps
    (fun _ _ _ _ hmove hw => hmove.wellformed hw) wellformed_initial
  refine ⟨htable.calls, fun id first hfirst hcurrent => ?_⟩
  have hkept := keepsDeliveries_of_moves (moves_between hrun hlater) hcurrent
  obtain ⟨entry, hentry, hfollows⟩ := hkept id first hfirst
  refine ⟨entry, hentry, hfollows, ?_, ?_, ?_⟩
  · rintro n promise outputs hpromise rfl hkeeps hok
    obtain ⟨found, hfound, hcompleted⟩ := htable.settled n promise outputs hpromise hkeeps hok hcurrent
    obtain rfl : entry = found := Option.some.inj (hentry.symm.trans hfound)
    exact hcompleted
  · rintro widget result outputs rfl hreplayed hrole hcompleted
    obtain ⟨hstatus, hbindings⟩ := replayedSubmit_outputs hwellformed hreplayed hentry hrole hcompleted
    exact ⟨hstatus, hbindings, fun t callbacks => segment_retained hcurrent hreplayed⟩
  · rintro t hashed next hawaits rfl
    obtain ⟨request, recoveringSign, caller, hserved, hnext⟩ := arrives_of_run hwhole hawaits
    exact ⟨caller, hserved, redelivered htable hentry hnext⟩

def unreconciledConfig : ResponseActionControllerConfig := { sampleConfig with reconcileSignRetries := false }

/-- The completed Sign is delivered again, as call 3, up to where the controller reviewed it. -/
def signAgain (callbacks : Callbacks) : List (Event Callbacks Begin Answer) :=
  [.begin (.widget sampleSign) callbacks,
    .resume 3 (.valid (.ok true)) callbacks,
    .resume 3 (.validated (.ok ⟨sampleResponse, ⟨"off", "non-blocking", "none"⟩,
      some ⟨"urn:form", "1.0.0", some true⟩⟩)) callbacks,
    .resume 3 (.valid (.ok true)) callbacks]

/-- The call awaits the hash of this delivery. -/
def awaitsHash (p : Pool (State config) Callbacks Failure Reply) (t : Nat) (id : String) : Bool :=
  (p.threads t).any fun k => match k.label with
    | .hashResponse hashed => hashed.call.deliveryId == id
    | _ => false

theorem hashed_of_awaitsHash {p : Pool (State config) Callbacks Failure Reply} {id : String}
    (h : awaitsHash p t id = true) :
    ∃ hashed next, p.threads t = some ⟨.hashResponse hashed, next⟩ ∧ hashed.call.deliveryId = id := by
  obtain ⟨⟨label, next⟩, hthread, hlabel⟩ := (Option.any_eq_true _ _).mp h
  cases label with
  | hashResponse hashed => exact ⟨hashed, next, hthread, by simpa using hlabel⟩
  | _ => cases hlabel

theorem deliveries_idempotent_sign_again : ∃ p q first,
    (controller unreconciledConfig).run (create unreconciledConfig) sealedRun = some p
      ∧ (controller unreconciledConfig).run p (signAgain sampleCallbacks) = some q
      ∧ p.state.deliveries "sign-1" = some first
      ∧ ∃ entry, q.state.deliveries "sign-1" = some entry ∧ first.Follows entry
        ∧ ∃ hashed next caller, q.threads 3 = some ⟨.hashResponse hashed, next⟩
          ∧ Served unreconciledConfig 3 hashed.call caller ∧ Redelivered q 3 hashed next caller entry := by
  have hruns : ((controller unreconciledConfig).run (create unreconciledConfig) sealedRun).any (fun p =>
      (p.state.deliveries "sign-1").isSome
        && ((controller unreconciledConfig).run p (signAgain sampleCallbacks)).any fun q =>
          !q.state.invalidated && awaitsHash q 3 "sign-1") = true := by decide +kernel
  obtain ⟨p, hp, hrest⟩ := (Option.any_eq_true _ _).mp hruns
  obtain ⟨hfirst, hrest⟩ := Bool.and_eq_true_iff.mp hrest
  obtain ⟨first, hfirst⟩ := Option.isSome_iff_exists.mp hfirst
  obtain ⟨q, hq, hrest⟩ := (Option.any_eq_true _ _).mp hrest
  obtain ⟨hcurrent, hawaits⟩ := Bool.and_eq_true_iff.mp hrest
  obtain ⟨hashed, next, hthread, hid⟩ := hashed_of_awaitsHash hawaits
  obtain ⟨entry, hentry, hfollows, -, -, hagain⟩ :=
    (deliveries_idempotent hp hq).2 "sign-1" first hfirst (Bool.not_eq_true' _ ▸ hcurrent)
  obtain ⟨caller, hserved, hredelivered⟩ := hagain 3 hashed next hthread hid
  exact ⟨p, q, first, hp, hq, hfirst, entry, hentry, hfollows, hashed, next, caller, hthread, hserved,
    hredelivered⟩

/-- A Sign that is delivered again once it was completed returns the same outputs. -/
def SignReturnsAgain : Entry config → List (Entry config) → Prop
  | .returned _ (some .sign) result, older => ∀ t earlier,
      .returned t (some .sign) earlier ∈ older → earlier.invocationId = result.invocationId →
      earlier.status = .completed →
      result.status = .completed ∧ result.transitionBindings = earlier.transitionBindings
  | _, _ => True

/-- The last entry is a Sign that failed behind one of its id that was completed. -/
def failsAgain : List (Entry config) → Bool
  | .returned _ (some .sign) result :: older => result.status == .failed && older.any fun
      | .returned _ (some .sign) earlier =>
        earlier.invocationId == result.invocationId && earlier.status == .completed
      | _ => false
  | _ => false

theorem not_signReturnsAgain {es : List (Entry config)} (h : failsAgain es = true) :
    ¬Throughout SignReturnsAgain es := by
  intro hall
  unfold failsAgain at h
  split at h
  · rename_i t result older
    obtain ⟨hfailed, hany⟩ := Bool.and_eq_true_iff.mp h
    obtain ⟨entry, hentry, hearlier⟩ := List.any_eq_true.mp hany
    split at hearlier
    · rename_i u earlier
      simp only [Bool.and_eq_true, beq_iff_eq] at hearlier
      have hagain := (throughout_cons.mp hall).1 u earlier hentry hearlier.1 hearlier.2
      rw [beq_iff_eq.mp hfailed] at hagain
      cases hagain.1
    · cases hearlier
  · cases h

/-- Once its review is not ready any more, a completed Sign is refused when it is delivered again. -/
theorem unready_sign_refused : ∃ p,
    (controller unreconciledConfig).run (create unreconciledConfig)
        (sealedRun ++ signAgain { sampleCallbacks with reviewReady := .ok false }
          ++ [.resume 3 .done sampleCallbacks, .resume 3 .done sampleCallbacks]) = some p
      ∧ ¬Throughout SignReturnsAgain p.state.log := by
  have hfails : ((controller unreconciledConfig).run (create unreconciledConfig)
      (sealedRun ++ signAgain { sampleCallbacks with reviewReady := .ok false }
        ++ [.resume 3 .done sampleCallbacks, .resume 3 .done sampleCallbacks])).any
      (fun p => failsAgain p.state.log) = true := by decide +kernel
  obtain ⟨p, hp, hlast⟩ := (Option.any_eq_true _ _).mp hfails
  exact ⟨p, hp, not_signReturnsAgain hlast⟩

end FormspecWeb.Controller
