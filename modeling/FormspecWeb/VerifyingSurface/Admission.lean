import FormspecWeb.Async.History
import FormspecWeb.Async.Steps
import FormspecWeb.VerifyingSurface.ManifestClosed

/-!
# Admission of a surface bundle

`admitSurfaceBundle` acquires a snapshot, has it verified, validates it, prepares it and commits its
release, and asks between the steps whether the admission is still current. The source, the verifier,
the validation and the callbacks of the host answer by events; the host may abort or replace the
admission between any two of them.
-/

namespace FormspecWeb.VerifyingSurface

open Shared Async

/-! ## Snapshots and their verification -/

structure SurfaceBundleSnapshot where
  identity : String
  /-- `copyBytes()`. -/
  bytes : List UInt8
deriving DecidableEq

inductive SurfaceBundleSourceErrorCode where
  | unavailable
  | notFound
  | timeout
  | sizeLimitExceeded
  | disallowedLocation
  | malformedResponse
  | cancelled
  | internal
deriving DecidableEq

def SurfaceBundleSourceErrorCode.text : SurfaceBundleSourceErrorCode → String
  | .unavailable => "unavailable"
  | .notFound => "not-found"
  | .timeout => "timeout"
  | .sizeLimitExceeded => "size-limit-exceeded"
  | .disallowedLocation => "disallowed-location"
  | .malformedResponse => "malformed-response"
  | .cancelled => "cancelled"
  | .internal => "internal"

/-- What `source.acquire` throws. -/
inductive AcquireError where
  | sourceError (code : SurfaceBundleSourceErrorCode)
  | other

structure SurfaceBundleVerifiedResult where
  snapshotIdentity : String
  manifest : Members
  documents : Members
  /-- `provenance.snapshotIdentity`. -/
  provenanceIdentity : String
  signedPayloadDigest : String
  releasePrecondition : Nat

inductive SurfaceBundleVerificationResult where
  | verified (result : SurfaceBundleVerifiedResult)
  | failed (code : String)
  | unverified (code : String)

structure Candidate where
  snapshot : SurfaceBundleSnapshot
  verification : SurfaceBundleVerifiedResult

structure ReportRequest where
  config : Members
  manifest : Members
  documents : Members
  source : String
  digest : String

structure AppGraphReportProducerResult where
  ok : Bool
  report : Value

structure ResolvedBundle where
  diagnosticCodes : List String
  content : Value

def bundleIsRenderable (bundle : ResolvedBundle) : Bool :=
  !bundle.diagnosticCodes.any fun code =>
    code == "BUNDLE-DOCUMENT-MISSING" || code == "BUNDLE-DOCUMENT-SHAPE"

structure CommitRequest where
  snapshot : SurfaceBundleSnapshot
  precondition : Nat
  /-- `hostValidation.status`. -/
  hostValidation : String

structure SurfaceBundleReleaseCommit where
  releaseCommit : String
  snapshotIdentity : String

inductive SurfaceBundleReleaseCommitResult where
  | committed (commit : SurfaceBundleReleaseCommit)
  | refused (code : String)
  | unavailable (code : String)

inductive SurfaceAdmissionFailureCode where
  | sourceRefused
  | verificationFailed
  | appGraphInvalid
  | releaseRefused
  | bundleNotRenderable
deriving DecidableEq

inductive SurfaceAdmissionUnsupportedCode where
  | verificationUnsupported
deriving DecidableEq

inductive SurfaceAdmissionAdapterErrorCode where
  | admissionCancelled
  | sourceUnavailable
  | verificationUnavailable
  | validationUnavailable
  | releaseUnavailable
  | renderPreparationUnavailable
  | unexpectedAdapterError
deriving DecidableEq

inductive SurfaceAdmissionState where
  | checking
  | failure (code : SurfaceAdmissionFailureCode) (diagnosticCode : Option String)
  | unsupported (code : SurfaceAdmissionUnsupportedCode) (diagnosticCode : Option String)
  | adapterError (code : SurfaceAdmissionAdapterErrorCode) (diagnosticCode : Option String)
  | admitted (candidate : Candidate) (validation : AppGraphReportProducerResult)
      (releaseCommit : SurfaceBundleReleaseCommit) (bundle : ResolvedBundle)

namespace SurfaceAdmissionState

def isAdmitted : SurfaceAdmissionState → Bool
  | .admitted .. => true
  | _ => false

def payload? : SurfaceAdmissionState → Option (Members × Members)
  | .admitted candidate _ _ _ => some (candidate.verification.manifest, candidate.verification.documents)
  | _ => none

def validation? : SurfaceAdmissionState → Option AppGraphReportProducerResult
  | .admitted _ validation _ _ => some validation
  | _ => none

def bundle? : SurfaceAdmissionState → Option ResolvedBundle
  | .admitted _ _ _ bundle => some bundle
  | _ => none

end SurfaceAdmissionState

def cancelledAdmission : SurfaceAdmissionState :=
  .adapterError .admissionCancelled (some "cancelled")

def sourceFailure : AcquireError → SurfaceAdmissionState
  | .other => .adapterError .unexpectedAdapterError none
  | .sourceError code =>
    if code = .unavailable ∨ code = .notFound ∨ code = .timeout ∨ code = .cancelled ∨ code = .internal then
      .adapterError .sourceUnavailable (some code.text)
    else .failure .sourceRefused (some code.text)

structure SurfaceAdmissionInput where
  signal : Bool
  isCurrentAdmission : Bool
  onValidationReport : Bool

/-- What the host has done to the admission. An abort and a replacement last. The check reads the
generation of the host; besides, it may throw or answer `false` for a while. -/
structure Environment where
  aborted : Bool
  replaced : Bool
  checkFails : Bool

def admissionIsCurrent (input : SurfaceAdmissionInput) (env : Environment) : Bool :=
  if input.signal && env.aborted then false
  else if input.isCurrentAdmission then !(env.checkFails || env.replaced)
  else true

/-! ## Runs -/

inductive LoadedValidation where
  | ok (config : Members)
  | failed

inductive PendingValidation where
  | notBegun
  | loading
  | settled (loaded : LoadedValidation)

/-- Where a run is: what it awaits, or the synchronous step that comes next. -/
inductive Stage where
  | fresh
  | acquiring
  | verifying (snapshot : SurfaceBundleSnapshot)
  | joining (candidate : Candidate)
  | producing (candidate : Candidate) (request : ReportRequest)
  | produced (candidate : Candidate) (validation : AppGraphReportProducerResult)
  | reporting (candidate : Candidate) (validation : AppGraphReportProducerResult)
  | prepared (candidate : Candidate) (validation : AppGraphReportProducerResult) (bundle : ResolvedBundle)
  | committing (candidate : Candidate) (validation : AppGraphReportProducerResult) (bundle : ResolvedBundle)
  | done (result : SurfaceAdmissionState)

/-- What a run has done and seen. A delivery, a commit and the answer to one are recorded with the
environment they meet; `none` answers where the commit throws. -/
inductive Entry where
  | aborted
  | replaced
  | verified (candidate : Candidate)
  | reportProduced (request : ReportRequest) (validation : AppGraphReportProducerResult)
  | reportDelivered (validation : AppGraphReportProducerResult) (env : Environment)
  | commitCalled (request : CommitRequest) (env : Environment)
  | commitAnswered (answer : Option SurfaceBundleReleaseCommitResult) (env : Environment)

structure Run where
  env : Environment
  pendingValidation : PendingValidation
  stage : Stage
  log : List Entry

inductive Event where
  | abort
  | replace
  | checkFails (fails : Bool)
  | start
  | validationLoaded (loaded : LoadedValidation)
  | acquired (answer : Except AcquireError SurfaceBundleSnapshot)
  /-- `none` where the verifier throws, and so for the answers below. -/
  | verified (answer : Option SurfaceBundleVerificationResult)
  | validationJoined
  | produced (answer : Option AppGraphReportProducerResult)
  | deliverReport
  | reportReturned (throws : Bool)
  | commit
  | commitAnswered (answer : Option SurfaceBundleReleaseCommitResult)

namespace Run

def fresh : Run := ⟨⟨false, false, false⟩, .notBegun, .fresh, []⟩

def goto (run : Run) (stage : Stage) : Run := { run with stage }

def finish (run : Run) (result : SurfaceAdmissionState) : Run := run.goto (.done result)

def record (run : Run) (entry : Entry) : Run := { run with log := entry :: run.log }

/-- `if (!admissionIsCurrent(input)) return cancelledAdmission();`, then the rest. -/
def whileCurrent (input : SurfaceAdmissionInput) (run next : Run) : Run :=
  if admissionIsCurrent input run.env then next else run.finish cancelledAdmission

variable (input : SurfaceAdmissionInput) (run : Run)

def start : Run :=
  run.whileCurrent input ({ run with pendingValidation := .loading }.goto .acquiring)

def acquired : Except AcquireError SurfaceBundleSnapshot → Run
  | .error error => run.whileCurrent input (run.finish (sourceFailure error))
  | .ok snapshot => run.whileCurrent input (run.goto (.verifying snapshot))

def checkVerified (candidate : Candidate) : Run :=
  if candidate.verification.snapshotIdentity ≠ candidate.snapshot.identity
      ∨ candidate.verification.provenanceIdentity ≠ candidate.snapshot.identity then
    run.finish (.adapterError .verificationUnavailable (some "snapshot-identity-mismatch"))
  else if !documentsAreManifestClosed candidate.verification.manifest candidate.verification.documents then
    run.finish (.failure .appGraphInvalid (some "unmanifested-document"))
  else run.goto (.joining candidate)

def checkVerification (snapshot : SurfaceBundleSnapshot) : SurfaceBundleVerificationResult → Run
  | .failed code => run.finish (.failure .verificationFailed (some code))
  | .unverified code =>
    if code = "integrity-unsupported" then
      run.finish (.unsupported .verificationUnsupported (some code))
    else run.finish (.adapterError .verificationUnavailable (some code))
  | .verified verification =>
    (run.record (.verified ⟨snapshot, verification⟩)).checkVerified ⟨snapshot, verification⟩

def verified (snapshot : SurfaceBundleSnapshot) : Option SurfaceBundleVerificationResult → Run
  | none => run.whileCurrent input (run.finish (.adapterError .unexpectedAdapterError none))
  | some verification => run.whileCurrent input (run.checkVerification snapshot verification)

end Run

def reportRequest (config : Members) (candidate : Candidate) : ReportRequest where
  config := config
  manifest := candidate.verification.manifest
  documents := candidate.verification.documents
  source := "surface-bundle:" ++ candidate.snapshot.identity
  digest := candidate.verification.signedPayloadDigest

def commitRequest (candidate : Candidate) : CommitRequest where
  snapshot := candidate.snapshot
  precondition := candidate.verification.releasePrecondition
  hostValidation := "passed"

def commitOutcome (input : SurfaceAdmissionInput) (env : Environment) (candidate : Candidate)
    (validation : AppGraphReportProducerResult) (bundle : ResolvedBundle)
    (answer : Option SurfaceBundleReleaseCommitResult) : SurfaceAdmissionState :=
  if !admissionIsCurrent input env then cancelledAdmission
  else match answer with
  | none => .adapterError .unexpectedAdapterError none
  | some (.refused code) => .failure .releaseRefused (some code)
  | some (.unavailable code) => .adapterError .releaseUnavailable (some code)
  | some (.committed commit) =>
    if commit.snapshotIdentity ≠ candidate.snapshot.identity then
      .adapterError .releaseUnavailable (some "snapshot-identity-mismatch")
    else .admitted candidate validation commit bundle

section

-- `dereferenceBundleExport` reads a manifest and its documents, and throws where it is `none`.
variable (dereferenceBundleExport : Members → Members → Option ResolvedBundle)
  (input : SurfaceAdmissionInput)

namespace Run

variable (run : Run)

def joined (candidate : Candidate) (loaded : LoadedValidation) : Run :=
  run.whileCurrent input
    (match loaded with
    | .failed => run.finish (.adapterError .validationUnavailable none)
    | .ok config => run.goto (.producing candidate (reportRequest config candidate)))

def produced (candidate : Candidate) (request : ReportRequest) :
    Option AppGraphReportProducerResult → Run
  | none => run.whileCurrent input (run.finish (.adapterError .validationUnavailable none))
  | some validation => (run.record (.reportProduced request validation)).goto (.produced candidate validation)

def deliverReport (candidate : Candidate) (validation : AppGraphReportProducerResult) : Run :=
  run.whileCurrent input
    ((if input.onValidationReport then run.record (.reportDelivered validation run.env) else run).goto
      (.reporting candidate validation))

def prepare (candidate : Candidate) (validation : AppGraphReportProducerResult) : Run :=
  if !validation.ok then run.finish (.failure .appGraphInvalid none)
  else match dereferenceBundleExport candidate.verification.manifest candidate.verification.documents with
  | none => run.finish (.adapterError .renderPreparationUnavailable none)
  | some bundle =>
    if !bundleIsRenderable bundle then run.finish (.failure .bundleNotRenderable none)
    else run.goto (.prepared candidate validation bundle)

def reportReturned (candidate : Candidate) (validation : AppGraphReportProducerResult) (throws : Bool) : Run :=
  if throws && input.onValidationReport then
    run.whileCurrent input (run.finish (.adapterError .validationUnavailable none))
  else run.whileCurrent input (run.prepare dereferenceBundleExport candidate validation)

def commit (candidate : Candidate) (validation : AppGraphReportProducerResult) (bundle : ResolvedBundle) : Run :=
  run.whileCurrent input
    ((run.record (.commitCalled (commitRequest candidate) run.env)).goto
      (.committing candidate validation bundle))

def commitAnswered (candidate : Candidate) (validation : AppGraphReportProducerResult)
    (bundle : ResolvedBundle) (answer : Option SurfaceBundleReleaseCommitResult) : Run :=
  (run.record (.commitAnswered answer run.env)).finish
    (commitOutcome input run.env candidate validation bundle answer)

def validationLoaded (loaded : LoadedValidation) : Option Run :=
  match run.pendingValidation with
  | .loading => some { run with pendingValidation := .settled loaded }
  | _ => none

def validationJoined (candidate : Candidate) : Option Run :=
  match run.pendingValidation with
  | .settled loaded => some (run.joined input candidate loaded)
  | _ => none

def step (run : Run) (event : Event) : Option Run :=
  match run.stage, event with
  | _, .abort => some ({ run with env := { run.env with aborted := true } }.record .aborted)
  | _, .replace => some ({ run with env := { run.env with replaced := true } }.record .replaced)
  | _, .checkFails fails => some { run with env := { run.env with checkFails := fails } }
  | _, .validationLoaded loaded => run.validationLoaded loaded
  | .fresh, .start => some (run.start input)
  | .acquiring, .acquired answer => some (run.acquired input answer)
  | .verifying snapshot, .verified answer => some (run.verified input snapshot answer)
  | .joining candidate, .validationJoined => run.validationJoined input candidate
  | .producing candidate request, .produced answer => some (run.produced input candidate request answer)
  | .produced candidate validation, .deliverReport => some (run.deliverReport input candidate validation)
  | .reporting candidate validation, .reportReturned throws =>
    some (run.reportReturned dereferenceBundleExport input candidate validation throws)
  | .prepared candidate validation bundle, .commit => some (run.commit input candidate validation bundle)
  | .committing candidate validation bundle, .commitAnswered answer =>
    some (run.commitAnswered input candidate validation bundle answer)
  | _, _ => none

end Run

end

end FormspecWeb.VerifyingSurface
