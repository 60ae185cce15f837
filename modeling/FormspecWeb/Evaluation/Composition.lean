import FormspecWeb.Shared.Base64
import FormspecWeb.Shared.Checks
import FormspecWeb.Shared.Doubles
import FormspecWeb.Shared.Value
import FormspecWeb.SourceWorker.MixedProofWorkerClient
import Mathlib.Order.WithBot

/-!
# Composition of sources

A composed receipt has an owner, a contribution and a result for every source of a hydration. The
verifier walks the three lists side by side and folds the deadline of the qualified results, in
nanoseconds; what it returns is the time that is left, in milliseconds of a host number.
-/

namespace FormspecWeb.Evaluation

open Shared SourceWorker

/-! ## The wire -/

structure EvaluationProviderRegistration where
  providerId : String
  providerVersion : String
  registrationHash : String
  outputSchemaHash : String
  maxEvidenceAgeSeconds : Rat
  maxValiditySeconds : Rat
  publicDescriptor : Value

def EvaluationProviderRegistration.value (registration : EvaluationProviderRegistration) : Value :=
  .object [
    ("providerId", .string registration.providerId),
    ("providerVersion", .string registration.providerVersion),
    ("registrationHash", .string registration.registrationHash),
    ("outputSchemaHash", .string registration.outputSchemaHash),
    ("maxEvidenceAgeSeconds", .number registration.maxEvidenceAgeSeconds),
    ("maxValiditySeconds", .number registration.maxValiditySeconds),
    ("publicDescriptor", registration.publicDescriptor)]

structure NativeScreenerMappingReceipt where
  kind : String
  registration : EvaluationProviderRegistration
  resolvedAt : String
  /-- The members that only `verifyNative` reads. -/
  rest : List (String × Value)

def NativeScreenerMappingReceipt.value (receipt : NativeScreenerMappingReceipt) : Value :=
  .object ([("kind", .string receipt.kind), ("registration", receipt.registration.value),
    ("resolvedAt", .string receipt.resolvedAt)] ++ receipt.rest)

structure Contribution where
  instanceName : String
  sourceRef : String
  resultHash : String
  receipt : Option NativeScreenerMappingReceipt

def nullable (value : Option Value) : Value := value.getD .null

def Contribution.value (contribution : Contribution) : Value :=
  .object [("instanceName", .string contribution.instanceName),
    ("sourceRef", .string contribution.sourceRef),
    ("resultHash", .string contribution.resultHash),
    ("receipt", nullable (contribution.receipt.map (·.value)))]

structure ComposedSourcesReceipt where
  registration : EvaluationProviderRegistration
  requestHash : String
  resolvedAt : String
  validUntil : Option String
  contributions : List Contribution
  receiptHash : String
  rest : List (String × Value)

def ComposedSourcesReceipt.preimage (receipt : ComposedSourcesReceipt) : List (String × Value) :=
  receipt.rest ++ [("registration", receipt.registration.value),
    ("requestHash", .string receipt.requestHash), ("resolvedAt", .string receipt.resolvedAt),
    ("validUntil", nullable (receipt.validUntil.map .string)),
    ("contributions", .array (receipt.contributions.map (·.value)))]

def ComposedSourcesReceipt.value (receipt : ComposedSourcesReceipt) : Value :=
  .object (receipt.preimage ++ [("receiptHash", .string receipt.receiptHash)])

inductive EvaluationHydrationResult where
  | qualified (instanceName sourceRef : String) (data : Value)
      (dataHash evidenceRef issuedAt expiresAt : String)
  | pending (instanceName sourceRef reason : String)
  | unavailable (instanceName sourceRef reason : String)

namespace EvaluationHydrationResult

def instanceName : EvaluationHydrationResult → String
  | .qualified instanceName .. | .pending instanceName .. | .unavailable instanceName .. =>
    instanceName

def sourceRef : EvaluationHydrationResult → String
  | .qualified _ sourceRef .. | .pending _ sourceRef _ | .unavailable _ sourceRef _ => sourceRef

def isQualified : EvaluationHydrationResult → Bool
  | .qualified .. => true
  | _ => false

def reason? : EvaluationHydrationResult → Option String
  | .qualified .. => none
  | .pending _ _ reason | .unavailable _ _ reason => some reason

def unavailable? : EvaluationHydrationResult → Option String
  | .unavailable _ _ reason => some reason
  | _ => none

def value : EvaluationHydrationResult → Value
  | .qualified instanceName sourceRef data dataHash evidenceRef issuedAt expiresAt =>
    .object [("status", .string "qualified"), ("instanceName", .string instanceName),
      ("sourceRef", .string sourceRef), ("data", data), ("dataHash", .string dataHash),
      ("evidenceRef", .string evidenceRef), ("issuedAt", .string issuedAt),
      ("expiresAt", .string expiresAt)]
  | .pending instanceName sourceRef reason =>
    .object [("status", .string "pending"), ("instanceName", .string instanceName),
      ("sourceRef", .string sourceRef), ("reason", .string reason)]
  | .unavailable instanceName sourceRef reason =>
    .object [("status", .string "unavailable"), ("instanceName", .string instanceName),
      ("sourceRef", .string sourceRef), ("reason", .string reason)]

end EvaluationHydrationResult

structure EvaluationHydrationWire where
  selection : Value
  formVersionHash : String
  sources : List (String × String)
  sources_nodup : (sources.map (·.1)).Nodup
  qualifiedAt : String
  results : List EvaluationHydrationResult
  rest : List (String × Value)

def EvaluationHydrationWire.value (view : EvaluationHydrationWire) : Value :=
  .object ([("selection", view.selection), ("formVersionHash", .string view.formVersionHash),
    ("sources", .object (view.sources.map fun (name, sourceRef) => (name, .string sourceRef))),
    ("qualifiedAt", .string view.qualifiedAt),
    ("results", .array (view.results.map (·.value)))] ++ view.rest)

/-- `Object.keys(view.sources).sort()`. -/
def EvaluationHydrationWire.names (view : EvaluationHydrationWire) : List String :=
  sortTexts (view.sources.map (·.1))

/-! ## The policy -/

inductive ResolverKind where
  | nativeScreenerMapping
  | unavailable
deriving DecidableEq

structure Owner where
  instanceName : String
  sourceRef : String
  resolverKind : ResolverKind
  registrationHash : Option String
  unavailableReason : Option String

structure CompositionPolicy where
  providerId : String
  providerVersion : String
  selection : Value
  formVersionHash : String
  outputSchemaHash : String
  outputSchemaDocument : String
  maxEvidenceAgeSeconds : Rat
  maxValiditySeconds : Rat
  responseBytes : Rat
  owners : List Owner

def text? (value : Value) (key : String) : Option String := (value.get? key).bind Value.text?

def number? (value : Value) (key : String) : Option Rat :=
  match value.get? key with
  | some (.number number) => some number
  | _ => none

def nullableText? (value : Value) (key : String) : Option (Option String) :=
  match value.get? key with
  | some .null => some none
  | some (.string text) => some (some text)
  | _ => none

def resolverKind? (value : Value) : Option ResolverKind := do
  let kind ← text? value "resolverKind"
  if kind == "nativeScreenerMapping" then some .nativeScreenerMapping
  else if kind == "unavailable" then some .unavailable
  else none

def owner? (value : Value) : Option Owner := do
  let instanceName ← text? value "instanceName"
  let sourceRef ← text? value "sourceRef"
  let resolverKind ← resolverKind? value
  let registrationHash ← nullableText? value "registrationHash"
  let unavailableReason ← nullableText? value "unavailableReason"
  return { instanceName, sourceRef, resolverKind, registrationHash, unavailableReason }

/-- What `isCompositionPolicy` holds of, as it is read. -/
def compositionPolicy? (value : Value) : Option CompositionPolicy := do
  let outputSchema ← value.get? "outputSchema"
  let budgets ← value.get? "budgets"
  let providerId ← text? value "providerId"
  let providerVersion ← text? value "providerVersion"
  let selection ← (value.get? "selection").filter Value.isPlainObject
  let formVersionHash ← text? value "formVersionHash"
  let outputSchemaHash ← text? outputSchema "hash"
  let outputSchemaDocument ← text? outputSchema "document"
  let maxEvidenceAgeSeconds ← number? budgets "maxEvidenceAgeSeconds"
  let maxValiditySeconds ← number? budgets "maxValiditySeconds"
  let responseBytes ← number? budgets "responseBytes"
  let entries ← (value.get? "owners").bind Value.entries?
  let owners ← entries.mapM owner?
  return ⟨providerId, providerVersion, selection, formVersionHash, outputSchemaHash,
    outputSchemaDocument, maxEvidenceAgeSeconds, maxValiditySeconds, responseBytes, owners⟩

structure CompositionPlatform where
  computeJcsSha256Digest : Value → Except String String
  rawUtf8Hash : String → String
  /-- `new TextEncoder().encode(JSON.stringify(value)).byteLength`. -/
  bytes : Value → Nat
  /-- `Date.parse`, none where it is not finite. -/
  dateParse : String → Option Int

def failure (detail : String) : String := "Source composition " ++ detail

/-- `hydrationInstant`, with what it throws. -/
def clock (platform : CompositionPlatform) (value : String) : Except String Int :=
  match hydrationInstant platform.dateParse value with
  | some instant => .ok instant
  | none =>
    if ((splitFraction value.toList).2.drop 9).any (· != '0') then
      .error (failure "unsupported clock precision")
    else .error (failure "clock mismatch")

def seconds (value : Rat) : Except String Int :=
  if value.isInt then .ok (value.num * 1000000000)
  else .error "The number cannot be converted to a BigInt because it is not an integer"

def minimum (first : Int) (others : List Int) : Int :=
  others.foldl (fun left right => if left < right then left else right) first

/-! ## The verifier -/

structure CompositionInput where
  view : EvaluationHydrationWire
  receipt : ComposedSourcesReceipt
  registrationHash : Option String
  requestHash : String
  /-- What the callback answers at an index of the walk; it may throw. -/
  verifyNative : Nat → NativeScreenerMappingReceipt → EvaluationHydrationResult → Except String Unit

variable (platform : CompositionPlatform) (input : CompositionInput)

def checkPolicy (descriptor : CompositionPolicy) : Except String Unit := do
  let mismatch := failure "policy or receipt mismatch"
  let registration := input.receipt.registration
  failIf (input.registrationHash.all (· == "")) mismatch
  failIf (some registration.registrationHash != input.registrationHash) mismatch
  let descriptorHash ← platform.computeJcsSha256Digest registration.publicDescriptor
  failIf (registration.registrationHash != descriptorHash) mismatch
  let receiptHash ← platform.computeJcsSha256Digest (.object input.receipt.preimage)
  failIf (input.receipt.receiptHash != receiptHash || input.receipt.requestHash != input.requestHash
    || descriptor.providerId != registration.providerId
    || descriptor.providerVersion != registration.providerVersion) mismatch
  let policySelection ← platform.computeJcsSha256Digest descriptor.selection
  let viewSelection ← platform.computeJcsSha256Digest input.view.selection
  failIf (policySelection != viewSelection
    || descriptor.formVersionHash != input.view.formVersionHash
    || descriptor.outputSchemaHash != registration.outputSchemaHash
    || platform.rawUtf8Hash descriptor.outputSchemaDocument != descriptor.outputSchemaHash
    || descriptor.maxEvidenceAgeSeconds != registration.maxEvidenceAgeSeconds
    || descriptor.maxValiditySeconds != registration.maxValiditySeconds) mismatch

def checkBytes (descriptor : CompositionPolicy) : Except String Unit :=
  failIf (64 * 1024 < platform.bytes input.receipt.registration.publicDescriptor
    || 1024 * 1024 < platform.bytes input.receipt.value
    || descriptor.responseBytes < (platform.bytes input.view.value : Rat))
    (failure "byte budget exceeded")

/-- A list has the names of the sources in their order, each with its source. -/
def coversSources (view : EvaluationHydrationWire) (entries : List (String × String)) : Bool :=
  entries.map (fun (name, sourceRef) => (name, some sourceRef))
    == view.names.map fun name => (name, view.sources.lookup name)

def checkCoverage (descriptor : CompositionPolicy) : Except String Unit :=
  checkAll (fun entries =>
      failIf (!coversSources input.view entries) (failure "sorted source coverage mismatch"))
    [descriptor.owners.map fun owner => (owner.instanceName, owner.sourceRef),
      input.receipt.contributions.map fun contribution =>
        (contribution.instanceName, contribution.sourceRef),
      input.view.results.map fun result => (result.instanceName, result.sourceRef)]

def checkLeaf (owner : Owner) (leaf : NativeScreenerMappingReceipt)
    (result : EvaluationHydrationResult) (resolved : Int) : Except String Unit := do
  failIf (leaf.kind != "nativeScreenerMapping"
    || owner.registrationHash != some leaf.registration.registrationHash || !result.isQualified
    || 64 * 1024 < platform.bytes leaf.registration.publicDescriptor
    || 1024 * 1024 < platform.bytes leaf.value) (failure "native owner mismatch")
  let leafResolved ← clock platform leaf.resolvedAt
  failIf (resolved < leafResolved) (failure "native owner mismatch")

def checkValidity (child : EvaluationProviderRegistration) (issuedAt expiresAt : String) (now : Int) :
    Except String (Int × Int) := do
  let issued ← clock platform issuedAt
  let expires ← clock platform expiresAt
  failIf (now < issued || expires ≤ now || expires ≤ issued) (failure "invalid child validity")
  let validity ← seconds child.maxValiditySeconds
  failIf (validity < expires - issued) (failure "invalid child validity")
  return (issued, expires)

def foldDeadline (registration child : EvaluationProviderRegistration) (issued expires : Int)
    (deadline : Option Int) : Except String Int := do
  let childAge ← seconds child.maxEvidenceAgeSeconds
  let age ← seconds registration.maxEvidenceAgeSeconds
  let validity ← seconds registration.maxValiditySeconds
  return minimum (deadline.getD expires)
    [expires, issued + childAge, issued + age, issued + validity]

def verifySource (now resolved : Int) (index : Nat) (owner : Owner) (contribution : Contribution)
    (result : EvaluationHydrationResult) (deadline : Option Int) : Except String (Option Int) := do
  let resultHash ← platform.computeJcsSha256Digest result.value
  failIf (resultHash != contribution.resultHash) (failure "complete result digest mismatch")
  match owner.resolverKind, contribution.receipt with
  | .unavailable, receipt => do
      failIf (result.unavailable?.isNone || result.unavailable? != owner.unavailableReason
        || receipt.isSome) (failure "unavailable owner mismatch")
      return deadline
  | .nativeScreenerMapping, none => do
      failIf (!result.reason?.any hasText) (failure "unqualified native leaf mismatch")
      return deadline
  | .nativeScreenerMapping, some leaf => do
      checkLeaf platform owner leaf result resolved
      input.verifyNative index leaf result
      match result with
      | .qualified _ _ _ _ _ issuedAt expiresAt => do
          let (issued, expires) ← checkValidity platform leaf.registration issuedAt expiresAt now
          let next ← foldDeadline input.receipt.registration leaf.registration issued expires deadline
          return some next
      | _ => .error (failure "native owner mismatch")

def verifySources (now resolved : Int) (index : Nat) :
    List Owner → List Contribution → List EvaluationHydrationResult → Option Int →
      Except String (Option Int)
  | owner :: owners, contribution :: contributions, result :: results, deadline => do
      let next ← verifySource platform input now resolved index owner contribution result deadline
      verifySources now resolved (index + 1) owners contributions results next
  | _, _, _, deadline => .ok deadline

/-- `Math.floor(Number(deadline - now) / 1_000_000)`. -/
def wholeMilliseconds (nanoseconds : Int) : Int :=
  ⌊Doubles.toDouble (Doubles.toDouble nanoseconds / 1000000)⌋

/-- What the walk's deadline leaves, where the receipt states it; `⊤` is `Infinity`. -/
def remainingTime (now : Int) : Option Int → Except String (WithTop Int)
  | none => do
      failIf input.receipt.validUntil.isSome (failure "unqualified deadline mismatch")
      return ⊤
  | some deadline =>
    match input.receipt.validUntil with
    | none => .error (failure "shared deadline mismatch")
    | some validUntil => do
        let stated ← clock platform validUntil
        failIf (stated != deadline || deadline ≤ now) (failure "shared deadline mismatch")
        return (wholeMilliseconds (deadline - now) : Int)

def verifyComposedSources : Except String (WithTop Int) :=
  match compositionPolicy? input.receipt.registration.publicDescriptor with
  | none => .error (failure "descriptor shape differs")
  | some descriptor => do
      checkPolicy platform input descriptor
      checkBytes platform input descriptor
      checkCoverage input descriptor
      let now ← clock platform input.view.qualifiedAt
      let resolved ← clock platform input.receipt.resolvedAt
      failIf (now < resolved) (failure "completion clock mismatch")
      let deadline ← verifySources platform input now resolved 0 descriptor.owners
        input.receipt.contributions input.view.results none
      remainingTime platform input now deadline

end FormspecWeb.Evaluation
