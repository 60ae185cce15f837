import FormspecWeb.Status.StatusRuntime

/-!
# The lifecycle panel

The panel keeps a copy of the lifecycle view it is given, and starts over as it renders the view of
another load. What a form submits goes out under the case of the render it was submitted in, and its
receipt replaces the copy whenever it arrives.
-/

namespace FormspecWeb.Status

open Shared Policy

inductive LifecycleActionKind where
  | correct
  | withdraw
  | dispute
deriving DecidableEq

namespace LifecycleActionKind

def name : LifecycleActionKind → String
  | correct => "correct"
  | withdraw => "withdraw"
  | dispute => "dispute"

def policyKey : LifecycleActionKind → String
  | correct => "correctable"
  | withdraw => "withdrawable"
  | dispute => "disputable"

end LifecycleActionKind

def isTextAt (value : Value) (key text : String) : Bool := (value.get? key).any (Value.isString text)

/-- `snapshot.caseUrn` -/
def caseOf (snapshot : Value) : Option String := (snapshot.get? "caseUrn").bind Value.text?

/-- `snapshot.events` -/
def eventsOf (snapshot : Value) : List Value := ((snapshot.get? "events").bind Value.entries?).getD []

/-- `snapshot.events[0]?.eventId` -/
def firstEventId (snapshot : Value) : Option Value :=
  (eventsOf snapshot).head?.bind fun event => event.get? "eventId"

/-- `actionByKind.get(kind)`: the last of a kind counts. -/
def actionByKind (snapshot : Value) (kind : LifecycleActionKind) : Option Value :=
  (((snapshot.get? "actions").bind Value.entries?).getD []).reverse.find? fun action =>
    isTextAt action "action" kind.name

def isClosed (window : Option Value) : Bool := window.any fun window => isTextAt window "state" "closed"

structure LifecycleAction where
  enabled : Bool
  window : Option Value
  correctableFieldSet : Option Value
  requiresReason : Option Value
  requiresEvidence : Option Value
  partyScope : Option Value
  postDeterminationIntent : Option Value
  requiresIssuerAcceptance : Option Value

def isEnabled (value : Value) : Bool := (value.get? "enabled").any Value.isTruthy

/-- The action of the adapter, under the act of the policy if there is one. -/
def effectiveLifecycleAction (kind : LifecycleActionKind) (adapterAction policy : Option Value) :
    LifecycleAction :=
  let base := adapterAction.getD (.object [("enabled", .bool false)])
  match policy with
  | none =>
    { enabled := isEnabled base
      window := base.get? "window"
      correctableFieldSet := base.get? "correctableFieldSet"
      requiresReason := base.get? "requiresReason"
      requiresEvidence := base.get? "requiresEvidence"
      partyScope := base.get? "partyScope"
      postDeterminationIntent := base.get? "postDeterminationIntent"
      requiresIssuerAcceptance := base.get? "requiresIssuerAcceptance" }
  | some policy =>
    let owned (key : String) := if policy.hasOwn key then policy.get? key else base.get? key
    { enabled := isEnabled base && isEnabled policy && !isClosed (base.get? "window")
        && !isClosed (policy.get? "window")
        && !(kind == .withdraw && isTextAt policy "partyScope" "all-parties-must-agree")
      window := (policy.get? "window").or (base.get? "window")
      correctableFieldSet := owned "correctableFieldSet"
      requiresReason := policy.get? "requiresReason"
      requiresEvidence := owned "requiresEvidence"
      partyScope := owned "partyScope"
      postDeterminationIntent := owned "postDeterminationIntent"
      requiresIssuerAcceptance := owned "requiresIssuerAcceptance" }

/-- What a form hands to `onSubmit`. -/
inductive LifecycleInput where
  | correct (fields : List Value) (reason : Option String) (evidenceRefs : Option (List String))
  | withdraw (reason : Option String) (rescissionRequested : Bool)
  | dispute (statement : String)

def LifecycleInput.kind : LifecycleInput → LifecycleActionKind
  | .correct _ _ _ => .correct
  | .withdraw _ _ => .withdraw
  | .dispute _ => .dispute

namespace LifecycleAction

variable (action : LifecycleAction)

def opens : Bool := action.enabled && !isClosed action.window

/-- The form of the action hands this to `onSubmit`: what is left blank is none. -/
def accepts (input : LifecycleInput) : Bool :=
  let requiresReason := action.requiresReason.all Value.isTruthy
  action.enabled && match input with
    | .correct fields reason evidenceRefs =>
      !fields.isEmpty && reason.all hasText && (!requiresReason || reason.isSome)
        && evidenceRefs.all (!·.isEmpty)
        && (!action.requiresEvidence.any Value.isTrue || evidenceRefs.isSome)
    | .withdraw reason rescissionRequested =>
      !action.partyScope.any (Value.isString "all-parties-must-agree")
        && reason.all hasText && (!requiresReason || reason.isSome)
        && (!rescissionRequested
          || action.postDeterminationIntent.any (Value.isString "rescission-requested")
            && action.requiresIssuerAcceptance.any Value.isTrue)
    | .dispute statement => !requiresReason || truthy statement

end LifecycleAction

inductive LifecycleRequestBody where
  | correction (changedFields : List Value) (correctableFieldSet : Option Value)
    (caseDecisionReached : Bool) (reason : Option String) (evidenceRefs : Option (List String))
  | withdrawal (reason : Option String) (rescissionRequested : Bool) (partyScope : Option Value)
    (allPartiesApproved : Bool)
  | dispute (statement : String) (disputedEventId : Option Value)

def LifecycleRequestBody.kind : LifecycleRequestBody → LifecycleActionKind
  | correction _ _ _ _ _ => .correct
  | withdrawal _ _ _ _ => .withdraw
  | dispute _ _ => .dispute

structure LifecycleRequest where
  caseUrn : String
  actorRef : Option String
  partyRef : Option String
  body : LifecycleRequestBody

structure LifecycleActionReceipt where
  action : LifecycleActionKind
  event : Value
  snapshot : Value
  supportRef : Option String

def messageForLifecycleReceipt (event : Value) : String :=
  if isTextAt event "kind" "correction" then
    if isTextAt event "recordedAs" "amendment" then "Amendment opened on the receipt chain."
    else "Correction recorded on the receipt chain."
  else if isTextAt event "kind" "withdrawal" then
    if (event.get? "requiresIssuerAcceptance").any Value.isTruthy then
      "Withdrawal request sent for agency review."
    else "Submission withdrawn on the receipt chain."
  else if isTextAt event "kind" "dispute" then "Dispute note added to the receipt chain."
  else if isTextAt event "kind" "consent-revocation" then
    "Consent revocation recorded on the receipt chain."
  else "Lifecycle event recorded."

inductive LifecycleSubmitState where
  | idle
  | submitting (action : LifecycleActionKind)
  | submitted (action : LifecycleActionKind) (message : String)
  | error (message : String)

def LifecycleSubmitState.isSubmitting : LifecycleSubmitState → Bool
  | submitting _ => true
  | _ => false

structure LifecyclePanel where
  lifecycle : LifecycleViewState
  activeAction : Option LifecycleActionKind
  submitState : LifecycleSubmitState
  loadedState : Nat

namespace LifecyclePanel

def mount (load : Nat) (state : LifecycleViewState) : LifecyclePanel := ⟨state, none, .idle, load⟩

def rendered (panel : LifecyclePanel) (load : Nat) (state : LifecycleViewState) : LifecyclePanel :=
  if load = panel.loadedState then panel else mount load state

def action (panel : LifecyclePanel) (kind : LifecycleActionKind) : Option LifecycleAction :=
  match panel.lifecycle with
  | .available snapshot policy => some (effectiveLifecycleAction kind (actionByKind snapshot kind)
      (policy.bind fun policy => policy.get? kind.policyKey))
  | _ => none

def toggle (panel : LifecyclePanel) (kind : LifecycleActionKind) : LifecyclePanel :=
  { panel with activeAction := if panel.activeAction = some kind then none else some kind }

def requestBody (action : LifecycleAction) (snapshot : Value) (caseDecisionReached : Bool) :
    LifecycleInput → LifecycleRequestBody
  | .correct fields reason evidenceRefs =>
    .correction fields action.correctableFieldSet caseDecisionReached reason evidenceRefs
  | .withdraw reason rescissionRequested =>
    .withdrawal reason rescissionRequested action.partyScope false
  | .dispute statement => .dispute statement (firstEventId snapshot)

/-- What an open form sends, with the snapshot and the policy of the render. -/
def request (panel : LifecyclePanel) (caseUrn : String) (caseDecisionReached : Bool)
    (input : LifecycleInput) : Option (LifecycleRequest × Value × Option Value) :=
  match panel.lifecycle, panel.action input.kind with
  | .available snapshot policy, some action =>
    if panel.activeAction = some input.kind ∧ panel.submitState.isSubmitting = false
        ∧ action.accepts input = true then
      some (⟨caseUrn, none, none, requestBody action snapshot caseDecisionReached input⟩, snapshot, policy)
    else none
  | _, _ => none

def submitting (panel : LifecyclePanel) (kind : LifecycleActionKind) : LifecyclePanel :=
  { panel with submitState := .submitting kind }

/-- `submit(action, run)`, behind `run()`. -/
def settled (panel : LifecyclePanel) (kind : LifecycleActionKind) (policy : Option Value) :
    Except String LifecycleActionReceipt → LifecyclePanel
  | .ok receipt =>
    { panel with
      lifecycle := .available receipt.snapshot policy
      activeAction := none
      submitState := .submitted kind (messageForLifecycleReceipt receipt.event) }
  | .error message => { panel with submitState := .error message }

end LifecyclePanel

end FormspecWeb.Status
