import FormspecWeb.Ledger.ResponseActionLedger

/-!
# What an anchored invocation is anchored by

The batch of a command lists the lifecycle of its invocation, its durable effects in the order of
their indices, and the invocation. The receipt of an append is checked for its shape alone: it is the
receipt of the command exactly where the server says so.
-/

namespace FormspecWeb.Ledger

open Shared

/-! ## The batch -/

structure BatchOf (record : InvocationRecord) (semanticOps : List SemanticOp) (actionId : String)
    (invocationId : String) (effects : List EffectOutcomeOp) : Prop where
  resolved : record.invocation.action = some actionId
  listed : semanticOps = record.lifecycle.map .lifecycle ++ effects.map .effectOutcome
    ++ [.invocation (invocationSemanticOp record.invocation actionId invocationId effects.length)]
  /-- The effects stand in the order of their indices, each once. -/
  ordered : effects.Pairwise fun first second => first.effectIndex < second.effectIndex
  durable : ∀ effect, effect ∈ effects ↔ ∃ outcome,
    record.invocation.effectTrace[effect.effectIndex]? = some outcome ∧ isHostEvent outcome = false
      ∧ effect = effectOutcomeSemanticOp actionId invocationId outcome effect.effectIndex

section

variable {actionId invocationId : String}

variable {outcomes : List EffectOutcome}

theorem mem_effectOps {start : Nat} {effect : EffectOutcomeOp} :
    effect ∈ (outcomes.zipIdx start).flatMap (fun (outcome, effectIndex) =>
        if isHostEvent outcome then []
        else [effectOutcomeSemanticOp actionId invocationId outcome effectIndex])
      ↔ ∃ outcome index, outcomes[index]? = some outcome ∧ isHostEvent outcome = false
        ∧ effect = effectOutcomeSemanticOp actionId invocationId outcome (start + index) := by
  induction outcomes generalizing start with
  | nil => simp
  | cons first outcomes ih =>
    rw [List.zipIdx_cons, List.flatMap_cons, List.mem_append, ih]
    constructor
    · rintro (hfirst | ⟨outcome, index, htrace, hdurable, heq⟩)
      · cases hhost : isHostEvent first with
        | true => simp [hhost] at hfirst
        | false =>
          refine ⟨first, 0, rfl, hhost, ?_⟩
          simpa [hhost] using hfirst
      · exact ⟨outcome, index + 1, htrace, hdurable, by rw [heq]; congr 1; omega⟩
    · rintro ⟨outcome, index, htrace, hdurable, heq⟩
      cases index with
      | zero =>
        cases htrace
        left
        simpa [hdurable] using heq
      | succ index =>
        right
        exact ⟨outcome, index, htrace, hdurable, by rw [heq]; congr 1; omega⟩

theorem effectOps_ordered {start : Nat} :
    ((outcomes.zipIdx start).flatMap (fun (outcome, effectIndex) =>
        if isHostEvent outcome then []
        else [effectOutcomeSemanticOp actionId invocationId outcome effectIndex])).Pairwise
      fun first second => first.effectIndex < second.effectIndex := by
  induction outcomes generalizing start with
  | nil => exact List.Pairwise.nil
  | cons first outcomes ih =>
    rw [List.zipIdx_cons, List.flatMap_cons]
    apply List.pairwise_append.mpr
    refine ⟨?_, ih, ?_⟩
    · cases hhost : isHostEvent first <;> simp [hhost]
    · intro effect heffect later hlater
      obtain ⟨outcome, index, -, -, rfl⟩ := mem_effectOps.mp hlater
      cases hhost : isHostEvent first with
      | true => simp [hhost] at heffect
      | false =>
        have heq : effect = effectOutcomeSemanticOp actionId invocationId first start := by
          simpa [hhost] using heffect
        rw [heq]
        change start < start + 1 + index
        omega

theorem mem_effectOutcomeSemanticOps {effect : EffectOutcomeOp} :
    effect ∈ effectOutcomeSemanticOps actionId invocationId outcomes
      ↔ ∃ outcome, outcomes[effect.effectIndex]? = some outcome ∧ isHostEvent outcome = false
        ∧ effect = effectOutcomeSemanticOp actionId invocationId outcome effect.effectIndex := by
  rw [effectOutcomeSemanticOps, mem_effectOps]
  constructor
  · rintro ⟨outcome, index, htrace, hdurable, rfl⟩
    rw [Nat.zero_add]
    exact ⟨outcome, htrace, hdurable, rfl⟩
  · rintro ⟨outcome, htrace, hdurable, heq⟩
    exact ⟨outcome, effect.effectIndex, htrace, hdurable, by rw [Nat.zero_add]; exact heq⟩

end

variable {hashing : LedgerHashing} {input : LedgerInput} {record : InvocationRecord}
  {command : AppendCommand}

theorem invokeWithLedger_batch (h : invokeWithLedger hashing input record = .ok (some command)) :
    ∃ actionId invocationId effects,
      BatchOf record command.opBatch.semanticOps actionId invocationId effects := by
  unfold invokeWithLedger at h
  split at h
  · cases h
  · next actionId haction =>
    dsimp only at h
    split at h
    · cases h
    · cases h
      exact ⟨actionId, _, _, haction, rfl, effectOps_ordered, fun effect =>
        mem_effectOutcomeSemanticOps⟩

/-! ## The receipt -/

def receiptText (payload : Value) (field : String) : Option String :=
  (payload.get? field).bind Value.nonEmptyString?

structure IsReceipt (payload : Value) : Prop where
  object : payload.isPlainObject = true
  anchored : (payload.get? "status").any (·.isString "anchored") = true
  scope : (receiptText payload "ledgerScope").isSome = true
  prior : payload.get? "priorEventHash" = none ∨ payload.get? "priorEventHash" = some .null
    ∨ (receiptText payload "priorEventHash").isSome = true
  event : (receiptText payload "eventHash").isSome = true
  key : (receiptText payload "idempotencyKey").isSome = true

def Answered (capability : String) (reply : Option LedgerReply) (payload : Value) : Prop :=
  isTrimmedText capability = true ∧ isHeaderValue capability = true
    ∧ ∃ found, reply = some found ∧ found.ok = true ∧ found.payload = some payload

def Names (payload : Value) (command : AppendCommand) : Prop :=
  receiptText payload "ledgerScope" = some command.ledgerScope
    ∧ receiptText payload "idempotencyKey" = some command.idempotencyKey

variable {payload : Value}

theorem stringField_ok {field text : String} :
    stringField payload field = .ok text ↔ receiptText payload field = some text := by
  unfold stringField receiptText
  cases (payload.get? field).bind Value.nonEmptyString? <;> simp

theorem nullableStringField_ok {field : String} :
    (∃ text, nullableStringField payload field = .ok text) ↔ payload.get? field = none
      ∨ payload.get? field = some .null ∨ (receiptText payload field).isSome = true := by
  unfold nullableStringField receiptText
  cases hfound : payload.get? field with
  | none => simp
  | some entry =>
    cases entry with
    | string value => by_cases hempty : value = "" <;> simp [Value.nonEmptyString?, hempty]
    | _ => simp [Value.nonEmptyString?]

theorem parseAnchoredReceipt_ok {receipt : AppendReceipt}
    (h : parseAnchoredReceipt payload = .ok receipt) :
    IsReceipt payload ∧ receiptText payload "ledgerScope" = some receipt.ledgerScope
      ∧ receiptText payload "idempotencyKey" = some receipt.idempotencyKey := by
  unfold parseAnchoredReceipt at h
  split at h
  · cases h
  next hshape =>
  simp only [Bool.not_eq_true', Bool.not_eq_false, Bool.and_eq_true] at hshape
  obtain ⟨scope, hscope, h⟩ := sequence_ok.mp h
  obtain ⟨prior, hprior, h⟩ := sequence_ok.mp h
  obtain ⟨event, hevent, h⟩ := sequence_ok.mp h
  obtain ⟨key, hkey, h⟩ := sequence_ok.mp h
  cases h
  rw [stringField_ok] at hscope hevent hkey
  exact ⟨{
    object := hshape.1
    anchored := hshape.2
    scope := Option.isSome_of_eq_some hscope
    prior := nullableStringField_ok.mp ⟨prior, hprior⟩
    event := Option.isSome_of_eq_some hevent
    key := Option.isSome_of_eq_some hkey }, hscope, hkey⟩

theorem IsReceipt.parse (h : IsReceipt payload) :
    ∃ receipt, parseAnchoredReceipt payload = .ok receipt := by
  obtain ⟨scope, hscope⟩ := Option.isSome_iff_exists.mp h.scope
  obtain ⟨prior, hprior⟩ := nullableStringField_ok.mpr h.prior
  obtain ⟨event, hevent⟩ := Option.isSome_iff_exists.mp h.event
  obtain ⟨key, hkey⟩ := Option.isSome_iff_exists.mp h.key
  rw [← stringField_ok] at hscope hevent hkey
  unfold parseAnchoredReceipt
  rw [h.object, h.anchored, hscope, hprior, hevent, hkey]
  exact ⟨_, rfl⟩

theorem appendSessionOpBatch_answered {capability : String} {reply : Option LedgerReply}
    (h : Answered capability reply payload) :
    appendSessionOpBatch capability reply = parseAnchoredReceipt payload := by
  obtain ⟨htrimmed, hheader, found, rfl, hok, hpayload⟩ := h
  simp only [appendSessionOpBatch, htrimmed, hheader, hok, hpayload, Bool.not_true,
    Bool.false_eq_true, if_false]

theorem appendSessionOpBatch_ok {capability : String} {reply : Option LedgerReply}
    {receipt : AppendReceipt} (h : appendSessionOpBatch capability reply = .ok receipt) :
    ∃ payload, Answered capability reply payload ∧ parseAnchoredReceipt payload = .ok receipt := by
  unfold appendSessionOpBatch at h
  split at h
  · cases h
  next htrimmed =>
  split at h
  · cases h
  next hheader =>
  split at h
  · cases h
  next found =>
  split at h
  · cases h
  next hok =>
  split at h
  · cases h
  next payload hpayload =>
  simp only [Bool.not_eq_true', Bool.not_eq_false] at htrimmed hheader hok
  exact ⟨payload, ⟨htrimmed, hheader, found, rfl, hok, hpayload⟩, h⟩

/-- The batch of a command is the batch of its invocation. A receipt that is taken for it is its own
exactly where the server answers with no receipt, or with one that names the command. -/
theorem append_bound_iff (hcommand : invokeWithLedger hashing input record = .ok (some command))
    (capability : String) (reply : Option LedgerReply) :
    (∃ actionId invocationId effects,
        BatchOf record command.opBatch.semanticOps actionId invocationId effects)
    ∧ ((∀ receipt, appendSessionOpBatch capability reply = .ok receipt →
          receipt.ledgerScope = command.ledgerScope
            ∧ receipt.idempotencyKey = command.idempotencyKey)
        ↔ ∀ payload, Answered capability reply payload → IsReceipt payload →
          Names payload command) := by
  refine ⟨invokeWithLedger_batch hcommand, ?_, ?_⟩
  · intro h payload hanswered hreceipt
    obtain ⟨receipt, hparsed⟩ := hreceipt.parse
    obtain ⟨-, hscope, hkey⟩ := parseAnchoredReceipt_ok hparsed
    obtain ⟨hownScope, hownKey⟩ :=
      h receipt ((appendSessionOpBatch_answered hanswered).trans hparsed)
    rw [hownScope] at hscope
    rw [hownKey] at hkey
    exact ⟨hscope, hkey⟩
  · intro h receipt happend
    obtain ⟨payload, hanswered, hparsed⟩ := appendSessionOpBatch_ok happend
    obtain ⟨hreceipt, hscope, hkey⟩ := parseAnchoredReceipt_ok hparsed
    obtain ⟨hownScope, hownKey⟩ := h payload hanswered hreceipt
    rw [hownScope] at hscope
    rw [hownKey] at hkey
    exact ⟨(Option.some.inj hscope).symm, (Option.some.inj hkey).symm⟩

def submitHashing : LedgerHashing where
  computeJcsSha256Digest _ :=
    some "sha256:c2a46a9a9ad68d5c2d232bbc34795e2d051a0219447b1def119c0e5947482a81"
  sha256Prefixed _ := "sha256:1a2dfc50caa3d0c6349824572ae90857390b66347457790051bd6268842dd2a8"

def submitInput : LedgerInput where
  sessionId := "s1"
  invocationId := none
  branchId := "branch-main"
  actor := ⟨"urn:formspec:actor:human:anon:1", "human", "human"⟩
  artifactRefs := ["formspec-definition:urn:form"]
  previousHeads := []
  newHeads := []
  changeHashes := []
  now := "2026-01-01T00:00:00Z"

def submitRecord : InvocationRecord where
  lifecycle := [⟨"action.invoked", ⟨"submit", "i1", 1, none, none, none, none, none⟩⟩]
  invocation := ⟨"completed", some "submit",
    [⟨"hostEvent", "completed", none, none, none, none⟩,
      ⟨"serviceRequest", "completed", none, none, none, none⟩],
    none, none, none, none, none, none, none, none⟩

def submitCommand : AppendCommand where
  ledgerScope := "urn:formspec:session:s1"
  sessionRef := ⟨"urn:formspec:session:s1", "2026-01-01T00:00:00Z",
    ["urn:formspec:actor:human:anon:1"]⟩
  branchId := "branch-main"
  opBatch := {
    version := "1.0.0"
    sessionRef := ⟨"urn:formspec:session:s1", "2026-01-01T00:00:00Z",
      ["urn:formspec:actor:human:anon:1"]⟩
    branchId := "branch-main"
    actor := ⟨"urn:formspec:actor:human:anon:1", "human", "human"⟩
    artifactRefs := ["formspec-definition:urn:form"]
    previousHeads := []
    newHeads := []
    semanticOps := [
      .lifecycle ⟨"action.invoked", ⟨"submit", "i1", 1, none, none, none, none, none⟩⟩,
      .effectOutcome ⟨"submit", "i1", 1, "serviceRequest", "completed", none, none, none, none⟩,
      .invocation ⟨"submit", "i1", "completed", none, none, none, none, none, none, none, none, 1⟩]
    changeHashes := [] }
  opBatchHash := "sha256:c2a46a9a9ad68d5c2d232bbc34795e2d051a0219447b1def119c0e5947482a81"
  idempotencyKey := "sha256:1a2dfc50caa3d0c6349824572ae90857390b66347457790051bd6268842dd2a8"
  mode := "require-anchored"

def otherReceipt : Value :=
  .object [("status", .string "anchored"), ("ledgerScope", .string "urn:formspec:session:s2"),
    ("priorEventHash", .null), ("eventHash", .string "sha256:1"), ("idempotencyKey", .string "k2")]

def otherReply : LedgerReply := ⟨true, 200, "OK", some otherReceipt⟩

theorem submit_command :
    invokeWithLedger submitHashing submitInput submitRecord = .ok (some submitCommand) := by
  rfl

theorem append_unbound :
    invokeWithLedger submitHashing submitInput submitRecord = .ok (some submitCommand)
    ∧ ∃ receipt, appendSessionOpBatch "capability" (some otherReply) = .ok receipt
      ∧ receipt.ledgerScope ≠ submitCommand.ledgerScope
      ∧ receipt.idempotencyKey ≠ submitCommand.idempotencyKey :=
  ⟨submit_command, ⟨"urn:formspec:session:s2", none, "sha256:1", "k2", none, none, none⟩,
    by rfl, by decide, by decide⟩

theorem append_bound_iff_other : ¬∀ payload, Answered "capability" (some otherReply) payload →
    IsReceipt payload → Names payload submitCommand := by
  intro h
  have hreceipt := (append_bound_iff submit_command "capability" (some otherReply)).2.mpr h
    ⟨"urn:formspec:session:s2", none, "sha256:1", "k2", none, none, none⟩ rfl
  exact absurd hreceipt.1 (by decide)

end FormspecWeb.Ledger
