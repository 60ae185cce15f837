import FormspecWeb.Controller.Evidence

/-!
# What a Sign signs

A Sign checks its input against the preparation of that moment, awaits the hash
of the Response, and only then reads the preparation it hands to the port. It
signs what it assented to in the runs in which no preparation is replaced during
that await.
-/

namespace FormspecWeb.Controller

open Shared Ports Engine Async

variable {config : ResponseActionControllerConfig}

/-- A Sign is dispatched with the preparation its call last assented to. -/
def SignsAssented : Entry config → List (Entry config) → Prop
  | .called t (.sign preparation _ _), older => ∃ assent, lastAssent t older = some assent
      ∧ assent.role = .sign ∧ preparation = some assent.preparation
  | _, _ => True

/-- The schedule of the runs in which no preparation is replaced while a Sign
awaits the hash of the Response it assented to. -/
def Schedule.keepingAssents : Schedule := { Schedule.any with assentsKept := true }

/-- In those runs every Sign signs exactly the preparation it was checked against. -/
theorem signs_assented {es : List (Event Callbacks Begin Answer)}
    {p : Pool (State config) Callbacks Failure Reply}
    (hrun : Schedule.keepingAssents.Run config es p) : Throughout SignsAssented p.state.log := by
  refine hrun.throughout (fun t s e _ he => ?_) fun e older he => ?_
  · cases he with
    | called call _ _ hcall =>
      cases hcall with
      | sign preparation operationId action assent hassent hrole hkept =>
        exact ⟨assent, hassent, hrole, hkept rfl⟩
      | _ => trivial
    | _ => trivial
  · cases e <;> trivial

/-! ## A Sign between two preparations -/

def sampleInvocation (actionRef id : String) : Begin :=
  .definition ⟨sampleDocument, actionRef, ⟨"null"⟩, some id, .dispatch sampleResponse⟩

def samplePreparation (version : Int) : PreparedResponseSigning :=
  { sampleDraft version with content := ⟨⟨"src"⟩, "en", ⟨"{}"⟩⟩ }

/-- The answers that lead a Save or Prepare begun as call `t` to its end. -/
def sampleAnswers (t : Nat) (receipt : Answer) : List (Event Callbacks Begin Answer) :=
  [.resume t (.valid (.ok true)) sampleCallbacks,
    .resume t (.hash (.ok sampleHash)) sampleCallbacks,
    .resume t receipt sampleCallbacks,
    .resume t (.evidence ⟨.ok true, .ok sampleHash⟩) sampleCallbacks,
    .resume t .done sampleCallbacks, .resume t .done sampleCallbacks,
    .resume t .done sampleCallbacks]

def preparedRun : List (Event Callbacks Begin Answer) :=
  .begin (sampleInvocation "save" "save-1") sampleCallbacks
    :: sampleAnswers 0 (.saved (.ok (sampleDraft 1)))
    ++ .begin (sampleInvocation "prepare" "prepare-1") sampleCallbacks
      :: sampleAnswers 1 (.preparation (.ok (samplePreparation 2)))

def sampleWidget (actionRef id : String) (response : FormResponse) (input : ActionInput) :
    WidgetRequest where
  document := sampleDocument
  actionRef := actionRef
  source := ⟨"widget"⟩
  responseContext :=
    some ⟨"response", "catalog", "source", sampleConfig.context.definition, response⟩
  input := input
  invocationId := id

def sampleSign : WidgetRequest :=
  sampleWidget "sign" "sign-1" sampleResponse
    [("draftId", .text "d1"), ("draftVersion", .number 2), ("responseId", .text "r1"),
      ("responseHash", .text sampleHash), ("source", .structured ⟨"src"⟩), ("locale", .text "en"),
      ("signerName", .text "Ada"), ("consentAccepted", .flag true)]

def signToHash : List (Event Callbacks Begin Answer) :=
  [.begin (.widget sampleSign) sampleCallbacks,
    .resume 2 (.valid (.ok true)) sampleCallbacks,
    .resume 2 (.validated (.ok ⟨sampleResponse, ⟨"off", "non-blocking", "none"⟩,
      some ⟨"urn:form", "1.0.0", some true⟩⟩)) sampleCallbacks,
    .resume 2 (.valid (.ok true)) sampleCallbacks]

def signedRun : List (Event Callbacks Begin Answer) :=
  preparedRun ++ signToHash ++ [.resume 2 (.hash (.ok sampleHash)) sampleCallbacks]

/-- A Sign whose preparation another Prepare replaces while it awaits the hash. -/
def replacedRun : List (Event Callbacks Begin Answer) :=
  preparedRun ++ signToHash
    ++ .begin (sampleInvocation "prepare" "prepare-2") sampleCallbacks
      :: sampleAnswers 3 (.preparation (.ok (samplePreparation 3)))
    ++ [.resume 2 (.hash (.ok sampleHash)) sampleCallbacks]

theorem signs_assented_signed_run :
    ∃ p, Schedule.keepingAssents.Run sampleConfig signedRun p
      ∧ Throughout SignsAssented p.state.log := by
  obtain ⟨p, hp⟩ := Schedule.keepingAssents.exists_run sampleConfig signedRun (by decide +kernel)
  exact ⟨p, hp, signs_assented hp⟩

/-- Some Sign was dispatched with another preparation than it assented to. -/
def signsOther : List (Entry config) → Bool
  | [] => false
  | .called t (.sign preparation _ _) :: es =>
    (lastAssent t es).all (fun assent => preparation != some assent.preparation) || signsOther es
  | _ :: es => signsOther es

theorem not_signsAssented_of_signsOther {es : List (Entry config)} (h : signsOther es = true) :
    ¬ Throughout SignsAssented es := by
  induction es with
  | nil => cases h
  | cons e es ih =>
    rw [throughout_cons]
    rintro ⟨he, hes⟩
    unfold signsOther at h
    split at h
    · cases h
    · rename_i t preparation _ _ _ heq
      cases heq
      obtain ⟨assent, hassent, -, rfl⟩ := he
      exact ih (by simpa [hassent] using h) hes
    · rename_i heq
      cases heq
      exact ih h hes

/-- The second preparation is signed under the check of the first. -/
theorem replaced_run_signs_other :
    ∃ p, (controller sampleConfig).run (create sampleConfig) replacedRun = some p
      ∧ ¬ Throughout SignsAssented p.state.log := by
  have hsigns : ((controller sampleConfig).run (create sampleConfig) replacedRun).any
      (fun p => signsOther p.state.log) = true := by decide +kernel
  obtain ⟨p, hp, hother⟩ := (Option.any_eq_true _ _).mp hsigns
  exact ⟨p, hp, not_signsAssented_of_signsOther hother⟩

end FormspecWeb.Controller
