import FormspecWeb.Async.Receiver
import FormspecWeb.Completion.Intake
import FormspecWeb.Controller.Invalidation

/-!
# One key for each delivery

A delivery keeps its operation id and its completion preparation for as long as
the controller is current, however often it is redelivered and however its
earlier completions ended. The operation id is the intake's idempotency key, so
a receiver that deduplicates accepts one intake for each delivery.
-/

namespace FormspecWeb.Controller

open Shared Ports Engine Async Completion

variable {config : ResponseActionControllerConfig} {F : Schedule} {t : Nat} {s s' : State config}

/-- Every completion of a delivery repeats the preparation and the operation id
of the earlier ones. -/
def CompletionKeyed : Entry config → List (Entry config) → Prop
  | .called _ (.complete id preparation operationId), older =>
    ∀ t earlier key, .called t (.complete id earlier key) ∈ older →
      earlier = preparation ∧ key = operationId
  | _, _ => True

def KeepsCaptured (s s' : State config) : Prop :=
  ∀ id delivery, s.deliveries id = some delivery → delivery.completionPreparation.isSome = true →
    ∃ delivery', s'.deliveries id = some delivery' ∧ delivery'.operationId = delivery.operationId
      ∧ delivery'.completionPreparation = delivery.completionPreparation

theorem KeepsCaptured.of_core
    (h : ∀ id, (s'.deliveries id).map Delivery.core = (s.deliveries id).map Delivery.core) :
    KeepsCaptured s s' := by
  intro id delivery hdelivery _
  have hcore := h id
  rw [hdelivery] at hcore
  obtain ⟨delivery', hdelivery', hsame⟩ := Option.map_eq_some_iff.mp hcore
  obtain ⟨-, hoperation, -, hpreparation, -⟩ := core_eq hsame
  exact ⟨delivery', hdelivery', hoperation, hpreparation⟩

theorem KeepsCaptured.admitCall {hashed : HashedCall} {identity : OperationIdentity} {key : String} :
    KeepsCaptured s (s.admitCall t hashed identity key) := by
  intro id delivery hdelivery _
  by_cases hid : id = hashed.call.deliveryId
  · subst hid
    refine ⟨_, by simp only [State.admitCall, Function.update_self, Option.map_some]; rfl, ?_, ?_⟩ <;>
      split <;> simp [admittedDelivery, hdelivery]
  · refine ⟨_, by simp only [State.admitCall, Function.update_of_ne hid, hdelivery, Option.map_some]; rfl,
      ?_, ?_⟩ <;> split <;> rfl

theorem KeepsCaptured.update {id : String} {f : Delivery → Delivery}
    (hoperation : ∀ delivery, (f delivery).operationId = delivery.operationId)
    (hpreparation : ∀ delivery, s.deliveries id = some delivery →
      delivery.completionPreparation = none
        ∨ (f delivery).completionPreparation = delivery.completionPreparation) :
    KeepsCaptured s (s.updateDelivery id f) := by
  intro key delivery hdelivery hcaptured
  by_cases hkey : key = id
  · subst hkey
    refine ⟨f delivery, by simp [State.updateDelivery, hdelivery], hoperation delivery, ?_⟩
    rcases hpreparation delivery hdelivery with hnone | hsame
    · rw [hnone] at hcaptured
      cases hcaptured
    · exact hsame
  · exact ⟨delivery, by simp [State.updateDelivery, hkey, hdelivery], rfl, rfl⟩

theorem Move.keepsCaptured (h : Move F t s s') : KeepsCaptured s s' ∨ s'.invalidated = true := by
  cases h with
  | quiet hframe => exact .inl (.of_core hframe.deliveries)
  | learn _ hframe => exact .inl (.of_core hframe.deliveries)
  | store h => exact .inl (.of_core h.frame.deliveries)
  | admitCall => exact .inl .admitCall
  | release role id =>
    have hkept : KeepsCaptured s
        (s.updateDelivery id fun delivery => { delivery with pending := none }) :=
      .update (fun _ => rfl) fun _ _ => .inr rfl
    exact .inl hkept
  | update role id f _ h => exact .inl (.update h.operationId h.preparation)
  | invalidate => exact .inr rfl
  | _ => exact .inl (.of_core fun _ => rfl)

/-! ## The invariant -/

/-- The completions of the log, and the deliveries they were dispatched for. -/
structure CompletionState (s : State config) : Prop where
  kept : Throughout CompletionKeyed s.log
  held : s.invalidated = false → ∀ u id preparation operationId,
    .called u (.complete id preparation operationId) ∈ s.log →
    ∃ delivery, s.deliveries id = some delivery ∧ delivery.operationId = operationId
      ∧ delivery.completionPreparation = preparation ∧ preparation.isSome = true

theorem Move.invalidated_false (h : Move F t s s') (hcurrent : s'.invalidated = false) :
    s.invalidated = false := by
  cases h with
  | quiet hframe => exact hframe.invalidated.symm.trans hcurrent
  | learn hbefore => exact hbefore
  | store h => exact h.current
  | invalidate => cases hcurrent
  | _ => exact hcurrent

theorem CompletionState.move (hmove : Move F t s s') (h : CompletionState s) : CompletionState s' := by
  have hnew : s'.log = s.log ∨ ∃ e, s'.log = e :: s.log ∧ CompletionKeyed e s.log
      ∧ ∀ u id preparation operationId, e = .called u (.complete id preparation operationId) →
        ∃ delivery, s.deliveries id = some delivery ∧ delivery.operationId = operationId
          ∧ delivery.completionPreparation = preparation ∧ preparation.isSome = true := by
    refine hmove.log_cases.imp_right fun ⟨e, hlog, he⟩ => ⟨e, hlog, ?_⟩
    rcases he with he | he
    · cases he with
      | called call hcurrent _ hcall =>
        cases hcall with
        | complete id delivery _ hdelivery hcaptured =>
          refine ⟨fun u earlier key hmem => ?_, fun u id' preparation operationId heq => ?_⟩
          · obtain ⟨found, hfound, rfl, rfl, -⟩ := h.held hcurrent u id earlier key hmem
            obtain rfl : delivery = found := Option.some.inj (hdelivery.symm.trans hfound)
            exact ⟨rfl, rfl⟩
          · cases heq
            exact ⟨delivery, hdelivery, rfl, rfl, hcaptured⟩
        | _ => exact ⟨trivial, fun _ _ _ _ heq => by cases heq⟩
      | _ => exact ⟨trivial, fun _ _ _ _ heq => by cases heq⟩
    · cases e with
      | called => cases he
      | _ => exact ⟨trivial, fun _ _ _ _ heq => by cases heq⟩
  refine ⟨h.kept.extend (hnew.imp_right fun ⟨e, hlog, hkeyed, _⟩ => ⟨e, hlog, hkeyed⟩), ?_⟩
  intro hcurrent u id preparation operationId hmem
  have hbefore : ∃ delivery, s.deliveries id = some delivery ∧ delivery.operationId = operationId
      ∧ delivery.completionPreparation = preparation ∧ preparation.isSome = true := by
    have hheld := h.held (hmove.invalidated_false hcurrent) u id preparation operationId
    rcases hnew with hlog | ⟨e, hlog, -, hcalled⟩
    · exact hheld (hlog ▸ hmem)
    · rw [hlog] at hmem
      rcases List.mem_cons.mp hmem with heq | hmem
      · exact hcalled u id preparation operationId heq.symm
      · exact hheld hmem
  obtain ⟨delivery, hdelivery, rfl, rfl, hcaptured⟩ := hbefore
  rcases hmove.keepsCaptured with hkept | hinvalidated
  · obtain ⟨delivery', hdelivery', hoperation, hpreparation⟩ := hkept id delivery hdelivery hcaptured
    exact ⟨delivery', hdelivery', hoperation, hpreparation, hcaptured⟩
  · rw [hcurrent] at hinvalidated
    cases hinvalidated

theorem completion_initial : CompletionState (State.initial config) where
  kept := throughout_nil
  held _ _ _ _ _ h := by cases h

variable {es : List (Entry config)}

theorem keyed_unique (h : Throughout CompletionKeyed es) {t u : Nat}
    {id : String} {a b : Option PreparedResponseCompletion} {k l : String}
    (ha : .called t (.complete id a k) ∈ es) (hb : .called u (.complete id b l) ∈ es) : k = l := by
  induction es with
  | nil => cases ha
  | cons e es ih =>
    obtain ⟨hhead, htail⟩ := throughout_cons.mp h
    rcases List.mem_cons.mp ha with rfl | ha'
    · rcases List.mem_cons.mp hb with heq | hb'
      · cases heq
        rfl
      · exact (hhead u b l hb').2.symm
    · rcases List.mem_cons.mp hb with rfl | hb'
      · exact (hhead t a k ha').2
      · exact ih htail ha' hb'

/-- In every run, the completions of a delivery share one operation id, and of
the intake requests they cause at most one is accepted. -/
theorem completion_keyed {es : List (Event Callbacks Begin Answer)}
    {p : Pool (State config) Callbacks Failure Reply}
    (hrun : (controller config).run (create config) es = some p) :
    Throughout CompletionKeyed p.state.log
      ∧ ∀ (id : String) (port : IntakeResponseCompletion) (events : List IntakeEvent)
          (delivered : List Request),
        (∀ prepared operationId, IntakeEvent.complete prepared operationId ∈ events →
          ∃ t, .called t (.complete id prepared operationId) ∈ p.state.log) →
        (∀ request ∈ delivered, request ∈ port.wire events) →
        (received Request.idempotencyKey delivered).length ≤ 1 := by
  have hkeyed : Throughout CompletionKeyed p.state.log :=
    ((Schedule.Run.any hrun).keeps (fun _ _ _ _ hmove h => CompletionState.move hmove h)
      completion_initial).kept
  refine ⟨hkeyed, fun id port events delivered hevents hdelivered => ?_⟩
  cases delivered with
  | nil => simp [received]
  | cons first rest =>
    have hcalled : ∀ request ∈ first :: rest, ∃ t prepared,
        .called t (.complete id prepared request.idempotencyKey) ∈ p.state.log := by
      intro request hrequest
      obtain ⟨prepared, hmem⟩ := IntakeResponseCompletion.wire_key (hdelivered request hrequest)
      obtain ⟨t, hcall⟩ := hevents _ _ hmem
      exact ⟨t, prepared, hcall⟩
    obtain ⟨t, prepared, hfirst⟩ := hcalled first List.mem_cons_self
    refine received_length_le (k := first.idempotencyKey) fun request hrequest => ?_
    obtain ⟨u, other, hother⟩ := hcalled request hrequest
    exact keyed_unique hkeyed hother hfirst

/-! ## Two deliveries of one signed Response -/

def sampleSigned : FormResponse :=
  { sampleResponse with authoredSignatures := some [⟨"provider", ⟨"{}"⟩⟩] }

def sampleSignature : SignedResponseSigning :=
  { samplePreparation 4 with
    response := sampleSigned
    evidence := { (sampleDraft 4).evidence with canonicalResponse := sampleSigned }
    verification := ⟨"delegated-service-key", "provider", "key-1"⟩ }

def sealedRun : List (Event Callbacks Begin Answer) :=
  signedRun ++
    [.resume 2 (.signature (.ok sampleSignature)) sampleCallbacks,
      .resume 2 (.evidence ⟨.ok true, .ok sampleHash⟩) sampleCallbacks,
      .resume 2 .done sampleCallbacks, .resume 2 .done sampleCallbacks,
      .resume 2 .done sampleCallbacks]

def sampleSubmit (id : String) : WidgetRequest :=
  sampleWidget "submit" id sampleSigned
    [("draftId", .text "d1"), ("draftVersion", .number 4),
      ("canonical_response", .response sampleSigned)]

/-- A Submit begun as call `t`, up to the hash of its Response. -/
def submitToHash (t : Nat) (id : String) : List (Event Callbacks Begin Answer) :=
  [.begin (.widget (sampleSubmit id)) sampleCallbacks,
    .resume t (.valid (.ok true)) sampleCallbacks,
    .resume t (.validated (.ok ⟨sampleSigned, ⟨"on-submit", "block-on-error", "complete-response"⟩,
      some ⟨"urn:form", "1.0.0", some true⟩⟩)) sampleCallbacks,
    .resume t (.valid (.ok true)) sampleCallbacks]

def laterCallbacks : Callbacks :=
  { sampleCallbacks with generatedKey := "01890a5d-ac96-774b-bcce-b302099a8058" }

/-- A first delivery whose completion fails, its reply lost, up to its return. -/
def lostReply : List (Event Callbacks Begin Answer) :=
  sealedRun ++ submitToHash 3 "submit-1" ++
    [.resume 3 (.hash (.ok sampleHash)) sampleCallbacks,
      .resume 3 (.submitOptions (.ok none)) sampleCallbacks,
      .resume 3 (.captured (.ok ⟨.intake, 0⟩)) sampleCallbacks,
      .resume 3 (.completion (.error .other)) sampleCallbacks,
      .resume 3 .done sampleCallbacks, .resume 3 .done sampleCallbacks,
      .resume 3 .done sampleCallbacks]

def redeliveredRun : List (Event Callbacks Begin Answer) :=
  lostReply ++ submitToHash 4 "submit-1" ++ [.resume 4 (.hash (.ok sampleHash)) laterCallbacks]

def resubmittedRun : List (Event Callbacks Begin Answer) :=
  lostReply ++ submitToHash 4 "submit-2" ++
    [.resume 4 (.hash (.ok sampleHash)) laterCallbacks,
      .resume 4 (.submitOptions (.ok none)) laterCallbacks,
      .resume 4 (.captured (.ok ⟨.intake, 1⟩)) laterCallbacks]

def completionOf : Entry config → Option (String × Option PreparedResponseCompletion × String)
  | .called _ (.complete id preparation operationId) => some (id, preparation, operationId)
  | _ => none

theorem called_of_completionOf {id : String}
    {preparation : Option PreparedResponseCompletion} {operationId : String}
    (h : (id, preparation, operationId) ∈ es.filterMap completionOf) :
    ∃ t, .called t (.complete id preparation operationId) ∈ es := by
  obtain ⟨e, hmem, he⟩ := List.mem_filterMap.mp h
  unfold completionOf at he
  split at he
  · rename_i t _ _ _
    obtain ⟨rfl, heq⟩ := Prod.mk.inj (Option.some.inj he)
    cases heq
    exact ⟨t, hmem⟩
  · cases he

def sampleIntake : IntakeResponseCompletion := ⟨fun _ => none, ⟨fun _ => none, fun _ => false⟩⟩

/-- The completions of the redelivered run at the intake, the first with its reply lost. -/
def redeliveredIntake : List IntakeEvent :=
  [.captured ⟨.intake, 0⟩ ⟨⟨some sampleSigned, ⟨"{}"⟩⟩, none, none⟩,
    .complete (some ⟨.intake, 0⟩) sampleCallbacks.generatedKey,
    .failed sampleCallbacks.generatedKey,
    .complete (some ⟨.intake, 0⟩) sampleCallbacks.generatedKey]

/-- Two requests are delivered, and one is accepted. -/
theorem completion_keyed_redelivered_run :
    ∃ p, (controller sampleConfig).run (create sampleConfig) redeliveredRun = some p
      ∧ Throughout CompletionKeyed p.state.log
      ∧ (sampleIntake.wire redeliveredIntake).length = 2
      ∧ (received Request.idempotencyKey (sampleIntake.wire redeliveredIntake)).length ≤ 1 := by
  have hlog : ((controller sampleConfig).run (create sampleConfig) redeliveredRun).map
      (fun p => p.state.log.filterMap completionOf)
      = some (List.replicate 2 ("submit-1", some ⟨.intake, 0⟩, sampleCallbacks.generatedKey)) := by
    decide +kernel
  obtain ⟨p, hp, hcompletions⟩ := Option.map_eq_some_iff.mp hlog
  obtain ⟨hkeyed, haccepted⟩ := completion_keyed hp
  refine ⟨p, hp, hkeyed, by decide, haccepted "submit-1" sampleIntake redeliveredIntake _ ?_
    fun request hrequest => hrequest⟩
  intro prepared operationId hmem
  have hcalled : prepared = some ⟨.intake, 0⟩ ∧ operationId = sampleCallbacks.generatedKey := by
    simpa [redeliveredIntake] using hmem
  obtain ⟨rfl, rfl⟩ := hcalled
  refine called_of_completionOf ?_
  rw [hcompletions]
  exact List.mem_cons_self

def SameResponseKeyed : Entry config → List (Entry config) → Prop
  | .called _ (.complete _ _ operationId), older => ∀ t id preparation key before,
      .called t (.complete id preparation key) :: before <:+ older →
      (slotsOf before).signed = (slotsOf older).signed → key = operationId
  | _, _ => True

def completions : List (Entry config) → List (Option SignedResponseSigning × String)
  | [] => []
  | .called _ (.complete _ _ key) :: es => ((slotsOf es).signed, key) :: completions es
  | _ :: es => completions es

theorem exists_of_mem_completions
    {signed : Option SignedResponseSigning} {key : String} (h : (signed, key) ∈ completions es) :
    ∃ t id preparation before, .called t (.complete id preparation key) :: before <:+ es
      ∧ (slotsOf before).signed = signed := by
  induction es with
  | nil => cases h
  | cons e es ih =>
    have htail : (signed, key) ∈ completions es → ∃ t id preparation before,
        .called t (.complete id preparation key) :: before <:+ e :: es
          ∧ (slotsOf before).signed = signed := by
      intro hmem
      obtain ⟨t, id, preparation, before, hsuffix, hsigned⟩ := ih hmem
      exact ⟨t, id, preparation, before, hsuffix.trans (List.suffix_cons e es), hsigned⟩
    unfold completions at h
    split at h
    · cases h
    · rename_i t id preparation found _ heq
      cases heq
      rcases List.mem_cons.mp h with hhead | hmem
      · cases hhead
        exact ⟨t, id, preparation, _, List.suffix_refl _, rfl⟩
      · exact htail hmem
    · rename_i heq
      cases heq
      exact htail h

/-- The last entry completes the signed Response of an earlier completion under another key. -/
def changesKey : List (Entry config) → Bool
  | .called _ (.complete _ _ key) :: older => (completions older).any fun (signed, earlier) =>
    signed == (slotsOf older).signed && earlier != key
  | _ => false

/-- The signed Response is completed again under another operation id. -/
theorem resubmitted_run_changes_key :
    ∃ p, (controller sampleConfig).run (create sampleConfig) resubmittedRun = some p
      ∧ ¬ Throughout SameResponseKeyed p.state.log := by
  have hkeys : ((controller sampleConfig).run (create sampleConfig) resubmittedRun).any
      (fun p => changesKey p.state.log) = true := by decide +kernel
  obtain ⟨p, hp, hlast⟩ := (Option.any_eq_true _ _).mp hkeys
  refine ⟨p, hp, fun hall => ?_⟩
  unfold changesKey at hlast
  split at hlast
  · rename_i t id preparation key older hlog
    obtain ⟨⟨signed, earlier⟩, hmem, hdiffers⟩ := List.any_eq_true.mp hlast
    simp only [Bool.and_eq_true, beq_iff_eq, bne_iff_ne] at hdiffers
    obtain ⟨u, other, found, before, hsuffix, hsigned⟩ := exists_of_mem_completions hmem
    rw [hlog, throughout_cons] at hall
    exact hdiffers.2 (hall.1 u other found earlier before hsuffix (hsigned.trans hdiffers.1))
  · cases hlast

end FormspecWeb.Controller
