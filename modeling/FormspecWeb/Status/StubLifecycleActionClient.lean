import FormspecWeb.Payment.StubPaymentRail
import FormspecWeb.Shared.InsertionMap
import FormspecWeb.Status.LifecycleActionsPanel

/-!
# The stub lifecycle service

The service keeps the snapshot of each case and the receipt of each key. A key it has met gets its
first receipt again, and nothing is appended. What it hands out and what it keeps are JSON copies, in
which a member that is absent is not written.
-/

namespace FormspecWeb.Status

open Shared
open Payment (assertUuidV7IdempotencyKey padded)

namespace LifecycleActionKind

def eventKind : LifecycleActionKind → String
  | correct => "correction"
  | withdraw => "withdrawal"
  | dispute => "dispute"

end LifecycleActionKind

structure StubLifecycleActionClientOptions where
  correctableFieldSet : List String
  signerRefs : List String

def defaultCorrectableFieldSet : List String := ["/fullName", "/householdSize", "/address/street"]

def defaultActions : Value := .array [
  .object [("action", .string "correct"), ("enabled", .bool true),
    ("window", .object [("state", .string "open")]),
    ("correctableFieldSet", .ofStrings defaultCorrectableFieldSet), ("requiresReason", .bool true)],
  .object [("action", .string "withdraw"), ("enabled", .bool true),
    ("window", .object [("state", .string "closes-at"),
      ("closesAt", .string "2026-06-24T23:59:59.000Z")]),
    ("requiresReason", .bool true)],
  .object [("action", .string "dispute"), ("enabled", .bool true), ("signerOnly", .bool true),
    ("requiresReason", .bool true)]]

structure StubLifecycleActionClient where
  options : StubLifecycleActionClientOptions
  snapshots : List (String × Value)
  receiptsByKey : List (String × LifecycleActionReceipt)
  nextEvent : Nat

def assertChangedFields (fields : List Value) : Except String Unit := do
  failIf fields.isEmpty "At least one changed field is required"
  failIf (fields.any fun field => isTextAt field "path" "" || isTextAt field "label" "")
    "Changed fields need a path and label"

def assertActionEnabled (snapshot : Value) (action : LifecycleActionKind) : Except String Value := do
  let found := (((snapshot.get? "actions").bind Value.entries?).getD []).find? fun candidate =>
    isTextAt candidate "action" action.name
  failIf (!found.any isEnabled) (action.name ++ " is not available for this record")
  let found := found.getD .undefined
  failIf (isClosed (found.get? "window")) (action.name ++ " window is closed for this record")
  return found

def assertReasonIfRequired (action : Value) (reason : Option String) (message : String) :
    Except String Unit :=
  failIf ((action.get? "requiresReason").any Value.isTrue && !reason.any hasText) message

def assertEvidenceIfRequired (action : Value) (evidenceRefs : Option (List String)) :
    Except String Unit :=
  failIf ((action.get? "requiresEvidence").any Value.isTrue && evidenceRefs.all List.isEmpty)
    "Evidence is required for this lifecycle action"

def assertSignerScope (action : Value) (actorRef : Option String) (signerRefs : List String) :
    Except String Unit :=
  failIf ((action.get? "signerOnly").any Value.isTrue && !signerRefs.isEmpty
      && !actorRef.any fun ref => truthy ref && signerRefs.contains ref)
    "Only signers can add a dispute note to this record"

def assertPartyScope (action : Value) (partyScope : Option Value) (allPartiesApproved : Bool) :
    Except String Unit :=
  let scope := partyScope.or (action.get? "partyScope")
  failIf (scope.any (Value.isString "all-parties-must-agree") && !allPartiesApproved)
    "All parties must approve withdrawal before it can be submitted"

def assertRescissionPolicy (action : Value) (rescissionRequested : Bool) : Except String Unit :=
  failIf (rescissionRequested && !(isTextAt action "postDeterminationIntent" "rescission-requested"
      && (action.get? "requiresIssuerAcceptance").any Value.isTrue))
    "Post-determination withdrawal review is not available for this record"

def introducesNewField (fields : List Value) : Bool :=
  fields.any fun field => (field.get? "originalValue").isNone && (field.get? "correctedValue").isSome

/-- `{ text }`, of a text that is there and not empty. -/
def textMember (key : String) (text : Option String) : List (String × Value) :=
  Value.optionalMember key
    ((text.filter truthy).map fun text => .object [("text", .string text)])

def partyMember (partyRef : Option String) : List (String × Value) :=
  Value.optionalMember "partyRef" (partyRef.map .string)

def eventId (prefixText : String) (n : Nat) : String := "evt-" ++ prefixText ++ "-" ++ padded n

def originalSubmissionEvent (n : Nat) : Value :=
  .object [("kind", .string "original-submission"), ("eventId", .string (eventId "original" n)),
    ("occurredAt", .string "2026-05-23T12:00:00.000Z"), ("verified", .bool true),
    ("title", .string "Original signed submission"), ("actorLabel", .string "Respondent")]

def eventOf (kind : LifecycleActionKind) (n : Nat) (now : String) (members : List (String × Value)) :
    Value :=
  .object ([("kind", .string kind.eventKind), ("eventId", .string (eventId kind.eventKind n)),
    ("occurredAt", .string now), ("verified", .bool true)] ++ members)

/-- `{ ...current, events: [...current.events, event], updatedAt }` -/
def withEvent (current event : Value) (updatedAt : String) : Value :=
  .object (spread current.members
    [("events", .array (eventsOf current ++ [event])), ("updatedAt", .string updatedAt)])

namespace StubLifecycleActionClient

/-! ## The service -/

variable (client : StubLifecycleActionClient)

def registerLifecycle (caseUrn : String) (snapshot : Value) : StubLifecycleActionClient :=
  { client with snapshots := setEntry caseUrn snapshot client.snapshots }

def readLifecycle (caseUrn : String) : Option Value := client.snapshots.lookup caseUrn

def snapshotFor (caseUrn now : String) : Value × StubLifecycleActionClient :=
  match client.snapshots.lookup caseUrn with
  | some existing => (existing, client)
  | none =>
    let nextEvent := client.nextEvent + 1
    let created := .object [("caseUrn", .string caseUrn), ("actions", defaultActions),
      ("events", .array [originalSubmissionEvent nextEvent]), ("updatedAt", .string now)]
    (created, { client with
      snapshots := setEntry caseUrn created client.snapshots
      nextEvent := nextEvent })

/-- `appendReceipt`, behind the number of the event. -/
def appendReceipt (caseUrn : String) (action : LifecycleActionKind) (now idempotencyKey : String)
    (members : List (String × Value)) : LifecycleActionReceipt × StubLifecycleActionClient :=
  let nextEvent := client.nextEvent + 1
  let event := eventOf action nextEvent now members
  let snapshot := withEvent (client.snapshotFor caseUrn now).1 event now
  let receipt := ⟨action, event, snapshot, some ("lifecycle-" ++ eventId action.eventKind nextEvent)⟩
  (receipt, { client with
    snapshots := setEntry caseUrn snapshot client.snapshots
    receiptsByKey := setEntry idempotencyKey receipt client.receiptsByKey
    nextEvent := nextEvent })

/-- What the three calls share: the members of the event are checked against the action found. -/
def submitAction (action : LifecycleActionKind) (caseUrn now idempotencyKey : String)
    (members : Value → Except String (List (String × Value))) :
    Except String LifecycleActionReceipt × StubLifecycleActionClient :=
  match assertUuidV7IdempotencyKey idempotencyKey with
  | .error error => (.error error, client)
  | .ok _ =>
    match client.receiptsByKey.lookup idempotencyKey with
    | some existing => (.ok existing, client)
    | none =>
      let found := client.snapshotFor caseUrn now
      match assertActionEnabled found.1 action >>= members with
      | .error error => (.error error, found.2)
      | .ok members =>
        let appended := found.2.appendReceipt caseUrn action now idempotencyKey members
        (.ok appended.1, appended.2)

def submitCorrection (request : LifecycleRequest) (changedFields : List Value)
    (correctableFieldSet : Option Value) (caseDecisionReached : Bool) (reason : Option String)
    (evidenceRefs : Option (List String)) (now idempotencyKey : String) :
    Except String LifecycleActionReceipt × StubLifecycleActionClient :=
  client.submitAction .correct request.caseUrn now idempotencyKey fun action => do
    assertChangedFields changedFields
    assertReasonIfRequired action reason "Correction reason is required"
    assertEvidenceIfRequired action evidenceRefs
    let declared := (((correctableFieldSet.or (action.get? "correctableFieldSet")).bind
      Value.entries?).getD (client.options.correctableFieldSet.map .string))
    failIf declared.isEmpty "Correction field set is not declared for this record"
    let isDeclared (field : Value) := ((field.get? "path").bind Value.text?).any fun path =>
      declared.any (Value.isString path)
    let isNarrowCorrection :=
      changedFields.all isDeclared && !caseDecisionReached && !introducesNewField changedFields
    return [("actorLabel", .string "Respondent")] ++ partyMember request.partyRef
      ++ [("recordedAs", .string (if isNarrowCorrection then "correction" else "amendment")),
        ("changedFields", .array changedFields)]
      ++ textMember "reason" reason
      ++ Value.optionalMember "evidenceRefs" (evidenceRefs.map .ofStrings)

def submitWithdrawal (request : LifecycleRequest) (reason : Option String)
    (rescissionRequested : Bool) (partyScope : Option Value) (allPartiesApproved : Bool)
    (now idempotencyKey : String) : Except String LifecycleActionReceipt × StubLifecycleActionClient :=
  client.submitAction .withdraw request.caseUrn now idempotencyKey fun action => do
    assertReasonIfRequired action reason "Withdrawal reason is required"
    assertPartyScope action partyScope allPartiesApproved
    assertRescissionPolicy action rescissionRequested
    return [("actorLabel", .string "Applicant")] ++ partyMember request.partyRef
      ++ textMember "reason" reason
      ++ if rescissionRequested then
          [("rescissionRequested", .bool true), ("requiresIssuerAcceptance", .bool true)]
        else []

def submitDispute (request : LifecycleRequest) (statement : String) (disputedEventId : Option Value)
    (now idempotencyKey : String) : Except String LifecycleActionReceipt × StubLifecycleActionClient :=
  client.submitAction .dispute request.caseUrn now idempotencyKey fun action => do
    assertSignerScope action request.actorRef client.options.signerRefs
    failIf (!hasText statement) "Dispute statement is required"
    return [("actorLabel", .string "Signer")] ++ partyMember request.partyRef
      ++ Value.optionalMember "disputedEventId" disputedEventId
      ++ [("statement", .object [("text", .string statement)])]

def submit (request : LifecycleRequest) (now idempotencyKey : String) :
    Except String LifecycleActionReceipt × StubLifecycleActionClient :=
  match request.body with
  | .correction changedFields correctableFieldSet caseDecisionReached reason evidenceRefs =>
    client.submitCorrection request changedFields correctableFieldSet caseDecisionReached reason
      evidenceRefs now idempotencyKey
  | .withdrawal reason rescissionRequested partyScope allPartiesApproved =>
    client.submitWithdrawal request reason rescissionRequested partyScope allPartiesApproved now
      idempotencyKey
  | .dispute statement disputedEventId =>
    client.submitDispute request statement disputedEventId now idempotencyKey

def recorded (caseUrn : String) (kind : LifecycleActionKind) : Nat :=
  ((client.readLifecycle caseUrn).map eventsOf).elim 0
    (List.countP fun event => isTextAt event "kind" kind.eventKind)

/-! ## What a call records -/

variable {client} {caseUrn now key : String} {kind : LifecycleActionKind}

theorem eventsOf_withEvent (current event : Value) (updatedAt : String) :
    eventsOf (withEvent current event updatedAt) = eventsOf current ++ [event] := by
  rw [eventsOf, withEvent, Value.get?, Value.members, lookup_spread]
  rfl

theorem isTextAt_original (n : Nat) :
    isTextAt (originalSubmissionEvent n) "kind" kind.eventKind = false := by
  cases kind <;> rfl

theorem isTextAt_eventOf (n : Nat) (members : List (String × Value)) :
    isTextAt (eventOf kind n now members) "kind" kind.eventKind = true := by
  cases kind <;> rfl

theorem recorded_of_lookup {snapshot : Value} (h : client.snapshots.lookup caseUrn = some snapshot) :
    client.recorded caseUrn kind
      = (eventsOf snapshot).countP fun event => isTextAt event "kind" kind.eventKind := by
  rw [recorded, readLifecycle, h]
  rfl

theorem recorded_snapshotFor : (eventsOf (client.snapshotFor caseUrn now).1).countP
      (fun event => isTextAt event "kind" kind.eventKind) = client.recorded caseUrn kind
    ∧ (client.snapshotFor caseUrn now).2.recorded caseUrn kind = client.recorded caseUrn kind := by
  cases hlookup : client.snapshots.lookup caseUrn with
  | some existing =>
    have hfound : client.snapshotFor caseUrn now = (existing, client) := by
      rw [snapshotFor, hlookup]
    rw [hfound]
    exact ⟨(recorded_of_lookup hlookup).symm, rfl⟩
  | none =>
    have hnone : client.recorded caseUrn kind = 0 := by
      rw [recorded, readLifecycle, hlookup]
      rfl
    have hcreated : (client.snapshotFor caseUrn now).2.snapshots.lookup caseUrn
        = some (client.snapshotFor caseUrn now).1 := by
      simp [snapshotFor, hlookup, lookup_setEntry]
    have hevents : eventsOf (client.snapshotFor caseUrn now).1
        = [originalSubmissionEvent (client.nextEvent + 1)] := by
      rw [snapshotFor, hlookup]
      rfl
    rw [recorded_of_lookup hcreated, hevents, hnone, List.countP_singleton, isTextAt_original]
    exact ⟨rfl, rfl⟩

theorem receipts_snapshotFor :
    (client.snapshotFor caseUrn now).2.receiptsByKey = client.receiptsByKey := by
  unfold snapshotFor
  split <;> rfl

theorem receipts_appendReceipt {found : StubLifecycleActionClient}
    (h : found.receiptsByKey = client.receiptsByKey) (members : List (String × Value)) :
    ∃ receipt, (found.appendReceipt caseUrn kind now key members).2.receiptsByKey
      = setEntry key receipt client.receiptsByKey := by
  rw [← h]
  exact ⟨_, rfl⟩

theorem recorded_appendReceipt (members : List (String × Value)) :
    (client.appendReceipt caseUrn kind now key members).2.recorded caseUrn kind
      = client.recorded caseUrn kind + 1 := by
  have hlookup : (client.appendReceipt caseUrn kind now key members).2.snapshots.lookup caseUrn
      = some (withEvent (client.snapshotFor caseUrn now).1
          (eventOf kind (client.nextEvent + 1) now members) now) := by
    simp [appendReceipt, lookup_setEntry]
  rw [recorded_of_lookup hlookup, eventsOf_withEvent, List.countP_append, List.countP_singleton,
    isTextAt_eventOf, recorded_snapshotFor.1]
  rfl

/-- A call records nothing, or it records one event under a key the service had not met. -/
def Appends (client next : StubLifecycleActionClient) (caseUrn : String) (kind : LifecycleActionKind)
    (key : String) : Prop :=
  next.receiptsByKey = client.receiptsByKey
      ∧ next.recorded caseUrn kind = client.recorded caseUrn kind
    ∨ client.receiptsByKey.lookup key = none
      ∧ (∃ receipt, next.receiptsByKey = setEntry key receipt client.receiptsByKey)
      ∧ next.recorded caseUrn kind = client.recorded caseUrn kind + 1

theorem submitAction_appends (members : Value → Except String (List (String × Value))) :
    client.Appends (client.submitAction kind caseUrn now key members).2 caseUrn kind key := by
  unfold submitAction
  split
  · exact Or.inl ⟨rfl, rfl⟩
  split
  · exact Or.inl ⟨rfl, rfl⟩
  · next hnew =>
      simp only
      split
      · exact Or.inl ⟨receipts_snapshotFor, recorded_snapshotFor.2⟩
      · refine Or.inr ⟨hnew, receipts_appendReceipt receipts_snapshotFor _, ?_⟩
        rw [recorded_appendReceipt, recorded_snapshotFor.2]

theorem submit_appends (client : StubLifecycleActionClient) (request : LifecycleRequest)
    (now key : String) :
    client.Appends (client.submit request now key).2 request.caseUrn request.body.kind key := by
  unfold submit
  split
  · next hbody => exact hbody ▸ submitAction_appends _
  · next hbody => exact hbody ▸ submitAction_appends _
  · next hbody => exact hbody ▸ submitAction_appends _

end StubLifecycleActionClient

end FormspecWeb.Status
