import FormspecWeb.VerifyingSurface.Admission

/-!
# The order of an admission

A release is committed once at most, and only for a candidate that has passed every check while the
admission is current.
-/

namespace FormspecWeb.VerifyingSurface

open Shared Async

def Entry.isCommit : Entry → Bool
  | .commitCalled .. | .commitAnswered .. => true
  | _ => false

def Entry.isCommitCall : Entry → Bool
  | .commitCalled .. => true
  | _ => false

def commits (log : List Entry) : List Entry := log.filter Entry.isCommit

/-- The admission was aborted or replaced, as far as it can be told to be. -/
def Retired (input : SurfaceAdmissionInput) (log : List Entry) : Prop :=
  (input.signal = true ∧ Entry.aborted ∈ log) ∨ (input.isCurrentAdmission = true ∧ Entry.replaced ∈ log)

/-- The snapshot was verified under its own identity, and the manifest references all documents. -/
def Verified (log : List Entry) (candidate : Candidate) : Prop :=
  Entry.verified candidate ∈ log
    ∧ candidate.verification.snapshotIdentity = candidate.snapshot.identity
    ∧ candidate.verification.provenanceIdentity = candidate.snapshot.identity
    ∧ ∀ url ∈ candidate.verification.documents.map Prod.fst, References candidate.verification.manifest url

def Validated (log : List Entry) (candidate : Candidate) (validation : AppGraphReportProducerResult) : Prop :=
  ∃ config, Entry.reportProduced (reportRequest config candidate) validation ∈ log

section

variable (dereferenceBundleExport : Members → Members → Option ResolvedBundle)
  (input : SurfaceAdmissionInput)

/-- The candidate has passed its checks, and the bundle is what it renders. -/
def Passed (log : List Entry) (candidate : Candidate) (validation : AppGraphReportProducerResult)
    (bundle : ResolvedBundle) : Prop :=
  Verified log candidate ∧ Validated log candidate validation ∧ validation.ok = true
    ∧ dereferenceBundleExport candidate.verification.manifest candidate.verification.documents = some bundle
    ∧ bundleIsRenderable bundle = true

def Current (env : Environment) (older : List Entry) : Prop :=
  admissionIsCurrent input env = true ∧ ¬ Retired input older

def Fenced : Entry → List Entry → Prop
  | .reportDelivered validation env, older =>
    (∃ request, Entry.reportProduced request validation ∈ older) ∧ Current input env older
  | .commitCalled request env, older =>
    (∃ candidate validation bundle, request = commitRequest candidate
      ∧ Passed dereferenceBundleExport older candidate validation bundle) ∧ Current input env older
  | .commitAnswered _ env, older => admissionIsCurrent input env = true → ¬ Retired input older
  | _, _ => True

/-! ## The invariant -/

/-- What the result of a run comes from: no commit, or the answer to its commit. -/
def Settled (log : List Entry) (result : SurfaceAdmissionState) : Prop :=
  (commits log = [] ∧ result.isAdmitted = false) ∨
    ∃ candidate validation bundle called answer answered,
      Passed dereferenceBundleExport log candidate validation bundle
        ∧ commits log = [.commitAnswered answer answered, .commitCalled (commitRequest candidate) called]
        ∧ result = commitOutcome input answered candidate validation bundle answer

def StageSound (log : List Entry) : Stage → Prop
  | .fresh | .acquiring | .verifying _ => commits log = []
  | .joining candidate => commits log = [] ∧ Verified log candidate
  | .producing candidate request =>
    commits log = [] ∧ Verified log candidate ∧ ∃ config, request = reportRequest config candidate
  | .produced candidate validation | .reporting candidate validation =>
    commits log = [] ∧ Verified log candidate ∧ Validated log candidate validation
  | .prepared candidate validation bundle =>
    commits log = [] ∧ Passed dereferenceBundleExport log candidate validation bundle
  | .committing candidate validation bundle =>
    (∃ called, commits log = [.commitCalled (commitRequest candidate) called])
      ∧ Passed dereferenceBundleExport log candidate validation bundle
  | .done result => Settled dereferenceBundleExport input log result

structure Run.Sound (run : Run) : Prop where
  aborted : run.env.aborted = true ↔ Entry.aborted ∈ run.log
  replaced : run.env.replaced = true ↔ Entry.replaced ∈ run.log
  fenced : Throughout (Fenced dereferenceBundleExport input) run.log
  stage : StageSound dereferenceBundleExport input run.log run.stage

end

variable {dereferenceBundleExport : Members → Members → Option ResolvedBundle}
  {input : SurfaceAdmissionInput} {run next : Run} {log : List Entry} {entry : Entry}

variable {candidate : Candidate}

theorem Verified.cons (h : Verified log candidate) :
    Verified (entry :: log) candidate :=
  ⟨List.mem_cons_of_mem entry h.1, h.2⟩

variable {validation : AppGraphReportProducerResult}

theorem Validated.cons
    (h : Validated log candidate validation) : Validated (entry :: log) candidate validation := by
  obtain ⟨config, hconfig⟩ := h
  exact ⟨config, List.mem_cons_of_mem entry hconfig⟩

theorem Passed.cons
    {bundle : ResolvedBundle} (h : Passed dereferenceBundleExport log candidate validation bundle) :
    Passed dereferenceBundleExport (entry :: log) candidate validation bundle :=
  ⟨h.1.cons, h.2.1.cons, h.2.2⟩

theorem commits_cons (h : entry.isCommit = false) : commits (entry :: log) = commits log := by
  unfold commits
  rw [List.filter_cons_of_neg]
  rw [h]
  exact Bool.false_ne_true

theorem StageSound.cons {stage : Stage} (hentry : entry.isCommit = false)
    (h : StageSound dereferenceBundleExport input log stage) :
    StageSound dereferenceBundleExport input (entry :: log) stage := by
  have hcommits : commits (entry :: log) = commits log := commits_cons hentry
  cases stage with
  | fresh | acquiring | verifying snapshot => exact hcommits.trans h
  | joining candidate => exact ⟨hcommits.trans h.1, h.2.cons⟩
  | producing candidate request => exact ⟨hcommits.trans h.1, h.2.1.cons, h.2.2⟩
  | produced candidate validation | reporting candidate validation =>
    exact ⟨hcommits.trans h.1, h.2.1.cons, h.2.2.cons⟩
  | prepared candidate validation bundle => exact ⟨hcommits.trans h.1, h.2.cons⟩
  | committing candidate validation bundle =>
    obtain ⟨⟨called, hcalled⟩, hpassed⟩ := h
    exact ⟨⟨called, hcommits.trans hcalled⟩, hpassed.cons⟩
  | done result =>
    rcases h with ⟨hnone, hresult⟩ | ⟨candidate, validation, bundle, called, answer, answered, hpassed, hlog, hresult⟩
    · exact Or.inl ⟨hcommits.trans hnone, hresult⟩
    · exact Or.inr ⟨candidate, validation, bundle, called, answer, answered, hpassed.cons,
        hcommits.trans hlog, hresult⟩

section

variable (h : run.Sound dereferenceBundleExport input)
include h

theorem Run.Sound.goto {stage : Stage}
    (hstage : StageSound dereferenceBundleExport input run.log stage) :
    (run.goto stage).Sound dereferenceBundleExport input :=
  ⟨h.aborted, h.replaced, h.fenced, hstage⟩

theorem Run.Sound.finish {result : SurfaceAdmissionState}
    (hcommits : commits run.log = []) (hresult : result.isAdmitted = false) :
    (run.finish result).Sound dereferenceBundleExport input :=
  h.goto (Or.inl ⟨hcommits, hresult⟩)

theorem Run.Sound.record {stage : Stage}
    (haborted : entry ≠ .aborted) (hreplaced : entry ≠ .replaced)
    (hfenced : Fenced dereferenceBundleExport input entry run.log)
    (hstage : StageSound dereferenceBundleExport input (entry :: run.log) stage) :
    ((run.record entry).goto stage).Sound dereferenceBundleExport input where
  aborted := by
    have hmem : Entry.aborted ∈ entry :: run.log ↔ Entry.aborted ∈ run.log := by
      rw [List.mem_cons, or_iff_right haborted.symm]
    exact h.aborted.trans hmem.symm
  replaced := by
    have hmem : Entry.replaced ∈ entry :: run.log ↔ Entry.replaced ∈ run.log := by
      rw [List.mem_cons, or_iff_right hreplaced.symm]
    exact h.replaced.trans hmem.symm
  fenced := throughout_cons.mpr ⟨hfenced, h.fenced⟩
  stage := hstage

theorem Run.Sound.not_retired
    (hcurrent : admissionIsCurrent input run.env = true) : ¬ Retired input run.log := by
  unfold admissionIsCurrent at hcurrent
  rintro (⟨hsignal, haborted⟩ | ⟨hcheck, hreplaced⟩)
  · rw [hsignal, h.aborted.mpr haborted] at hcurrent
    cases hcurrent
  · rw [hcheck, h.replaced.mpr hreplaced] at hcurrent
    simp at hcurrent

theorem Run.Sound.whileCurrent (hcommits : commits run.log = [])
    (hnext : Current input run.env run.log → next.Sound dereferenceBundleExport input) :
    (run.whileCurrent input next).Sound dereferenceBundleExport input := by
  unfold Run.whileCurrent
  by_cases hcurrent : admissionIsCurrent input run.env = true
  · rw [if_pos hcurrent]
    exact hnext ⟨hcurrent, h.not_retired hcurrent⟩
  · rw [if_neg hcurrent]
    exact h.finish hcommits rfl

end

theorem sound_fresh : Run.fresh.Sound dereferenceBundleExport input where
  aborted := by simp [Run.fresh]
  replaced := by simp [Run.fresh]
  fenced := throughout_nil
  stage := rfl

theorem Run.Sound.abort (h : run.Sound dereferenceBundleExport input) :
    ({ run with env := { run.env with aborted := true } }.record .aborted).Sound
      dereferenceBundleExport input where
  aborted := by simp [Run.record]
  replaced := by simpa [Run.record] using h.replaced
  fenced := throughout_cons.mpr ⟨trivial, h.fenced⟩
  stage := h.stage.cons rfl

theorem Run.Sound.replace (h : run.Sound dereferenceBundleExport input) :
    ({ run with env := { run.env with replaced := true } }.record .replaced).Sound
      dereferenceBundleExport input where
  aborted := by simpa [Run.record] using h.aborted
  replaced := by simp [Run.record]
  fenced := throughout_cons.mpr ⟨trivial, h.fenced⟩
  stage := h.stage.cons rfl

theorem sourceFailure_isAdmitted (error : AcquireError) : (sourceFailure error).isAdmitted = false := by
  cases error with
  | other => rfl
  | sourceError code =>
    unfold sourceFailure
    dsimp only
    split <;> rfl

section

variable (h : run.Sound dereferenceBundleExport input)
include h

theorem Run.Sound.acquired
    (hcommits : commits run.log = []) (answer : Except AcquireError SurfaceBundleSnapshot) :
    (run.acquired input answer).Sound dereferenceBundleExport input := by
  cases answer with
  | error error =>
    exact h.whileCurrent hcommits fun _ => h.finish hcommits (sourceFailure_isAdmitted error)
  | ok snapshot => exact h.whileCurrent hcommits fun _ => h.goto hcommits

theorem Run.Sound.checkVerified
    (hcommits : commits run.log = []) (hmem : Entry.verified candidate ∈ run.log) :
    (run.checkVerified candidate).Sound dereferenceBundleExport input := by
  unfold Run.checkVerified
  split
  case isTrue => exact h.finish hcommits rfl
  case isFalse hidentities =>
    rw [not_or, not_not, not_not] at hidentities
    split
    case isTrue => exact h.finish hcommits rfl
    case isFalse hclosed =>
      have hdocuments := documentsAreManifestClosed_iff.mp (by simpa using hclosed)
      exact h.goto ⟨hcommits, hmem, hidentities.1, hidentities.2, hdocuments⟩

theorem Run.Sound.note (haborted : entry ≠ .aborted)
    (hreplaced : entry ≠ .replaced) (hentry : entry.isCommit = false)
    (hfenced : Fenced dereferenceBundleExport input entry run.log) :
    (run.record entry).Sound dereferenceBundleExport input :=
  h.record haborted hreplaced hfenced (h.stage.cons hentry)

section

variable (hcommits : commits run.log = [])
include hcommits

theorem Run.Sound.checkVerification (snapshot : SurfaceBundleSnapshot)
    (result : SurfaceBundleVerificationResult) :
    (run.checkVerification snapshot result).Sound dereferenceBundleExport input := by
  cases result with
  | failed code => exact h.finish hcommits rfl
  | unverified code =>
    unfold Run.checkVerification
    dsimp only
    split
    · exact h.finish hcommits rfl
    · exact h.finish hcommits rfl
  | verified verification =>
    have hrecorded : (run.record (.verified ⟨snapshot, verification⟩)).Sound dereferenceBundleExport input :=
      h.note (by simp) (by simp) rfl trivial
    exact hrecorded.checkVerified ((commits_cons rfl).trans hcommits) List.mem_cons_self

theorem Run.Sound.verified (snapshot : SurfaceBundleSnapshot)
    (answer : Option SurfaceBundleVerificationResult) :
    (run.verified input snapshot answer).Sound dereferenceBundleExport input := by
  cases answer with
  | none => exact h.whileCurrent hcommits fun _ => h.finish hcommits rfl
  | some result => exact h.whileCurrent hcommits fun _ => h.checkVerification hcommits snapshot result

section

variable (hverified : Verified run.log candidate)
include hverified

theorem Run.Sound.joined (loaded : LoadedValidation) :
    (run.joined input candidate loaded).Sound dereferenceBundleExport input := by
  apply h.whileCurrent hcommits
  intro _
  cases loaded with
  | failed => exact h.finish hcommits rfl
  | ok config => exact h.goto ⟨hcommits, hverified, config, rfl⟩

theorem Run.Sound.produced {config : Members} (answer : Option AppGraphReportProducerResult) :
    (run.produced input candidate (reportRequest config candidate) answer).Sound dereferenceBundleExport input := by
  cases answer with
  | none => exact h.whileCurrent hcommits fun _ => h.finish hcommits rfl
  | some validation =>
    have hlog : commits (.reportProduced (reportRequest config candidate) validation :: run.log) = [] :=
      (commits_cons rfl).trans hcommits
    exact h.record (by simp) (by simp) trivial ⟨hlog, hverified.cons, config, List.mem_cons_self⟩

theorem Run.Sound.deliverReport (hvalidated : Validated run.log candidate validation) :
    (run.deliverReport input candidate validation).Sound dereferenceBundleExport input := by
  apply h.whileCurrent hcommits
  intro hcurrent
  by_cases hcallback : input.onValidationReport = true
  · rw [if_pos hcallback]
    obtain ⟨config, hconfig⟩ := hvalidated
    exact h.record (by simp) (by simp) ⟨⟨_, hconfig⟩, hcurrent⟩
      ⟨(commits_cons rfl).trans hcommits, hverified.cons, config, List.mem_cons_of_mem _ hconfig⟩
  · rw [if_neg hcallback]
    exact h.goto ⟨hcommits, hverified, hvalidated⟩

theorem Run.Sound.prepare (hvalidated : Validated run.log candidate validation) :
    (run.prepare dereferenceBundleExport candidate validation).Sound dereferenceBundleExport input := by
  unfold Run.prepare
  split
  case isTrue => exact h.finish hcommits rfl
  case isFalse hok =>
    split
    case h_1 => exact h.finish hcommits rfl
    case h_2 bundle hbundle =>
      split
      case isTrue => exact h.finish hcommits rfl
      case isFalse hrenderable =>
        exact h.goto ⟨hcommits, hverified, hvalidated, by simpa using hok, hbundle, by simpa using hrenderable⟩

theorem Run.Sound.reportReturned (hvalidated : Validated run.log candidate validation)
    (throws : Bool) :
    (run.reportReturned dereferenceBundleExport input candidate validation throws).Sound
      dereferenceBundleExport input := by
  unfold Run.reportReturned
  split
  · exact h.whileCurrent hcommits fun _ => h.finish hcommits rfl
  · exact h.whileCurrent hcommits fun _ => h.prepare hcommits hverified hvalidated

end

theorem Run.Sound.commit
    {bundle : ResolvedBundle}
    (hpassed : Passed dereferenceBundleExport run.log candidate validation bundle) :
    (run.commit input candidate validation bundle).Sound dereferenceBundleExport input := by
  apply h.whileCurrent hcommits
  intro hcurrent
  have hlog : commits (.commitCalled (commitRequest candidate) run.env :: run.log)
      = [.commitCalled (commitRequest candidate) run.env] :=
    congrArg (List.cons _) hcommits
  exact h.record (by simp) (by simp) ⟨⟨candidate, validation, bundle, rfl, hpassed⟩, hcurrent⟩
    ⟨⟨run.env, hlog⟩, hpassed.cons⟩

end

theorem Run.Sound.commitAnswered
    {bundle : ResolvedBundle} {called : Environment}
    (hcommits : commits run.log = [.commitCalled (commitRequest candidate) called])
    (hpassed : Passed dereferenceBundleExport run.log candidate validation bundle)
    (answer : Option SurfaceBundleReleaseCommitResult) :
    (run.commitAnswered input candidate validation bundle answer).Sound dereferenceBundleExport input := by
  have hlog : commits (.commitAnswered answer run.env :: run.log)
      = [.commitAnswered answer run.env, .commitCalled (commitRequest candidate) called] :=
    congrArg (List.cons _) hcommits
  exact h.record (by simp) (by simp) (fun hcurrent => h.not_retired hcurrent)
    (Or.inr ⟨candidate, validation, bundle, called, answer, run.env, hpassed.cons, hlog, rfl⟩)

/-- A step keeps the invariant. The cases are those of the source: what the environment does in any
stage, and what continues the run in the stage that waits for it. -/
theorem Run.Sound.step {event : Event}
    (hstep : run.step dereferenceBundleExport input event = some next) :
    next.Sound dereferenceBundleExport input := by
  have hstage := h.stage
  unfold Run.step at hstep
  split at hstep
  case h_1 => exact Option.some.inj hstep ▸ h.abort
  case h_2 => exact Option.some.inj hstep ▸ h.replace
  case h_3 => exact Option.some.inj hstep ▸ ⟨h.aborted, h.replaced, h.fenced, h.stage⟩
  case h_4 =>
    unfold Run.validationLoaded at hstep
    split at hstep
    · exact Option.some.inj hstep ▸ ⟨h.aborted, h.replaced, h.fenced, h.stage⟩
    · cases hstep
  case h_5 hfresh =>
    rw [hfresh] at hstage
    have hbegun : ({ run with pendingValidation := .loading } : Run).Sound dereferenceBundleExport input :=
      ⟨h.aborted, h.replaced, h.fenced, h.stage⟩
    exact Option.some.inj hstep ▸ h.whileCurrent hstage fun _ => hbegun.goto hstage
  case h_6 hacquiring =>
    rw [hacquiring] at hstage
    exact Option.some.inj hstep ▸ h.acquired hstage _
  case h_7 hverifying =>
    rw [hverifying] at hstage
    exact Option.some.inj hstep ▸ h.verified hstage _ _
  case h_8 hjoining =>
    rw [hjoining] at hstage
    unfold Run.validationJoined at hstep
    split at hstep
    · exact Option.some.inj hstep ▸ h.joined hstage.1 hstage.2 _
    · cases hstep
  case h_9 hproducing =>
    rw [hproducing] at hstage
    obtain ⟨hcommits, hverified, config, rfl⟩ := hstage
    exact Option.some.inj hstep ▸ h.produced hcommits hverified _
  case h_10 hproduced =>
    rw [hproduced] at hstage
    exact Option.some.inj hstep ▸ h.deliverReport hstage.1 hstage.2.1 hstage.2.2
  case h_11 hreporting =>
    rw [hreporting] at hstage
    exact Option.some.inj hstep ▸ h.reportReturned hstage.1 hstage.2.1 hstage.2.2 _
  case h_12 hprepared =>
    rw [hprepared] at hstage
    exact Option.some.inj hstep ▸ h.commit hstage.1 hstage.2
  case h_13 hcommitting =>
    rw [hcommitting] at hstage
    obtain ⟨⟨called, hcalled⟩, hpassed⟩ := hstage
    exact Option.some.inj hstep ▸ h.commitAnswered hcalled hpassed _
  case h_14 => cases hstep

end

theorem sound_of_run {events : List Event}
    (h : events.foldlM (Run.step dereferenceBundleExport input) Run.fresh = some run) :
    run.Sound dereferenceBundleExport input :=
  foldlM_invariant (fun _ _ _ hsound hstep => hsound.step hstep) sound_fresh h

/-! ## The order -/

section

variable (dereferenceBundleExport : Members → Members → Option ResolvedBundle)
  (input : SurfaceAdmissionInput)

/-- The commit of a run was accepted for the snapshot it was called with, and found the admission
current. -/
def AcceptedCommit (log : List Entry) : Prop :=
  ∃ request called commit answered,
    Entry.commitCalled request called ∈ log
      ∧ Entry.commitAnswered (some (.committed commit)) answered ∈ log
      ∧ commit.snapshotIdentity = request.snapshot.identity
      ∧ admissionIsCurrent input answered = true

/-- The order of an admission. A release is committed once at most; each delivery and each commit is
fenced; and a result admits the candidate of an accepted commit, or carries nothing of any. -/
structure AdmissionOrder (run : Run) : Prop where
  commitsOnce : run.log.countP Entry.isCommitCall ≤ 1
  fenced : Throughout (Fenced dereferenceBundleExport input) run.log
  admitted_iff : ∀ result, run.stage = .done result →
    (result.isAdmitted = true ↔ AcceptedCommit input run.log)
  admitted : ∀ candidate validation commit bundle,
    run.stage = .done (.admitted candidate validation commit bundle) →
      Passed dereferenceBundleExport run.log candidate validation bundle
        ∧ (∃ called, Entry.commitCalled (commitRequest candidate) called ∈ run.log)
        ∧ ∃ answered, Entry.commitAnswered (some (.committed commit)) answered ∈ run.log
  others : ∀ result, run.stage = .done result → result.isAdmitted = false →
    result.payload? = none ∧ result.validation? = none ∧ result.bundle? = none

end

theorem mem_commits (hentry : entry.isCommit = true) : entry ∈ log ↔ entry ∈ commits log := by
  unfold commits
  rw [List.mem_filter, and_iff_left hentry]

theorem countP_isCommitCall : log.countP Entry.isCommitCall = (commits log).countP Entry.isCommitCall := by
  unfold commits
  rw [List.countP_filter]
  apply List.countP_congr
  intro entry _
  cases entry <;> simp [Entry.isCommitCall, Entry.isCommit]

theorem commitOutcome_admitted_iff {env : Environment} {candidate : Candidate}
    {validation : AppGraphReportProducerResult} {bundle : ResolvedBundle}
    {answer : Option SurfaceBundleReleaseCommitResult} :
    (commitOutcome input env candidate validation bundle answer).isAdmitted = true ↔
      ∃ commit, answer = some (.committed commit) ∧ commit.snapshotIdentity = candidate.snapshot.identity
        ∧ admissionIsCurrent input env = true := by
  unfold commitOutcome
  by_cases hcurrent : admissionIsCurrent input env = true
  · rw [hcurrent, if_neg (by simp)]
    rcases answer with - | commit | code | code
    · simp [SurfaceAdmissionState.isAdmitted]
    · by_cases hidentity : commit.snapshotIdentity = candidate.snapshot.identity
      · simp [SurfaceAdmissionState.isAdmitted, hidentity]
      · simp [SurfaceAdmissionState.isAdmitted, hidentity]
    · simp [SurfaceAdmissionState.isAdmitted]
    · simp [SurfaceAdmissionState.isAdmitted]
  · rw [if_pos (by simpa using hcurrent)]
    simp [SurfaceAdmissionState.isAdmitted, cancelledAdmission, hcurrent]

theorem commitOutcome_admitted {env : Environment} {candidate admitted : Candidate}
    {validation report : AppGraphReportProducerResult} {bundle rendered : ResolvedBundle}
    {answer : Option SurfaceBundleReleaseCommitResult} {commit : SurfaceBundleReleaseCommit}
    (h : .admitted admitted report commit rendered = commitOutcome input env candidate validation bundle answer) :
    admitted = candidate ∧ report = validation ∧ rendered = bundle ∧ answer = some (.committed commit) := by
  unfold commitOutcome at h
  split at h
  · cases h
  split at h
  · cases h
  · cases h
  · cases h
  split at h
  · cases h
  · cases h
    exact ⟨rfl, rfl, rfl, rfl⟩

theorem Run.Sound.commitsOnce (h : run.Sound dereferenceBundleExport input) :
    run.log.countP Entry.isCommitCall ≤ 1 := by
  have hstage := h.stage
  rw [countP_isCommitCall]
  cases hcase : run.stage with
  | fresh | acquiring | verifying snapshot =>
    rw [hcase] at hstage
    rw [show commits run.log = [] from hstage]
    exact Nat.zero_le 1
  | joining candidate | producing candidate request | produced candidate validation
  | reporting candidate validation | prepared candidate validation bundle =>
    rw [hcase] at hstage
    rw [hstage.1]
    exact Nat.zero_le 1
  | committing candidate validation bundle =>
    rw [hcase] at hstage
    obtain ⟨⟨called, hcalled⟩, -⟩ := hstage
    rw [hcalled]
    exact Nat.le_refl 1
  | done result =>
    rw [hcase] at hstage
    rcases hstage with ⟨hnone, -⟩ | ⟨_, _, _, called, answer, answered, -, hlog, -⟩
    · rw [hnone]
      exact Nat.zero_le 1
    · rw [hlog]
      exact Nat.le_refl 1

theorem Settled.admitted_iff {result : SurfaceAdmissionState}
    (h : Settled dereferenceBundleExport input log result) :
    result.isAdmitted = true ↔ AcceptedCommit input log := by
  rcases h with ⟨hnone, hresult⟩ | ⟨candidate, validation, bundle, called, answer, answered, -, hlog, rfl⟩
  · rw [hresult]
    refine iff_of_false Bool.false_ne_true ?_
    rintro ⟨request, called, commit, answered, hcalled, -⟩
    rw [mem_commits rfl, hnone] at hcalled
    cases hcalled
  · rw [commitOutcome_admitted_iff]
    constructor
    · rintro ⟨commit, rfl, hidentity, hcurrent⟩
      refine ⟨commitRequest candidate, called, commit, answered, ?_, ?_, hidentity, hcurrent⟩
      · rw [mem_commits rfl, hlog]
        exact List.mem_cons_of_mem _ List.mem_cons_self
      · rw [mem_commits rfl, hlog]
        exact List.mem_cons_self
    · rintro ⟨request, env, commit, answeredEnv, hcalled, hanswered, hidentity, hcurrent⟩
      rw [mem_commits rfl, hlog] at hcalled hanswered
      simp only [List.mem_cons, List.not_mem_nil, or_false, reduceCtorEq, false_or, or_false,
        Entry.commitCalled.injEq, Entry.commitAnswered.injEq] at hcalled hanswered
      obtain ⟨rfl, rfl⟩ := hcalled
      obtain ⟨rfl, rfl⟩ := hanswered
      exact ⟨commit, rfl, hidentity, hcurrent⟩

theorem Settled.admitted {candidate : Candidate} {validation : AppGraphReportProducerResult}
    {commit : SurfaceBundleReleaseCommit} {bundle : ResolvedBundle}
    (h : Settled dereferenceBundleExport input log (.admitted candidate validation commit bundle)) :
    Passed dereferenceBundleExport log candidate validation bundle
      ∧ (∃ called, Entry.commitCalled (commitRequest candidate) called ∈ log)
      ∧ ∃ answered, Entry.commitAnswered (some (.committed commit)) answered ∈ log := by
  rcases h with ⟨-, hresult⟩ | ⟨checked, report, rendered, called, answer, answered, hpassed, hlog, hresult⟩
  · cases hresult
  · obtain ⟨rfl, rfl, rfl, rfl⟩ := commitOutcome_admitted hresult
    refine ⟨hpassed, ⟨called, ?_⟩, ⟨answered, ?_⟩⟩
    · rw [mem_commits rfl, hlog]
      exact List.mem_cons_of_mem _ List.mem_cons_self
    · rw [mem_commits rfl, hlog]
      exact List.mem_cons_self

theorem carries_nothing {result : SurfaceAdmissionState} (h : result.isAdmitted = false) :
    result.payload? = none ∧ result.validation? = none ∧ result.bundle? = none := by
  cases result with
  | admitted => cases h
  | _ => exact ⟨rfl, rfl, rfl⟩

/-- Every run of `admitSurfaceBundle` keeps the order of an admission, whatever its collaborators
answer or throw, and whenever the host aborts or replaces it. -/
theorem admission_order {events : List Event}
    (h : events.foldlM (Run.step dereferenceBundleExport input) Run.fresh = some run) :
    AdmissionOrder dereferenceBundleExport input run := by
  have hsound : run.Sound dereferenceBundleExport input := sound_of_run h
  have hsettled : ∀ result, run.stage = .done result → Settled dereferenceBundleExport input run.log result := by
    intro result hdone
    have hstage := hsound.stage
    rwa [hdone] at hstage
  exact {
    commitsOnce := hsound.commitsOnce
    fenced := hsound.fenced
    admitted_iff := fun result hdone => (hsettled result hdone).admitted_iff
    admitted := fun candidate validation commit bundle hdone => (hsettled _ hdone).admitted
    others := fun result _ hresult => carries_nothing hresult }

def intakeSnapshot : SurfaceBundleSnapshot := ⟨"sha256:7f", [123, 125]⟩

def intakeVerification : SurfaceBundleVerifiedResult where
  snapshotIdentity := "sha256:7f"
  manifest := [("definitions", .array [.object [("url", .string "urn:intake")]])]
  documents := [("urn:intake", .object [])]
  provenanceIdentity := "sha256:7f"
  signedPayloadDigest := "sha256:9a"
  releasePrecondition := 0

def intakeEvents : List Event :=
  [.start, .acquired (.ok intakeSnapshot), .validationLoaded (.ok []),
    .verified (some (.verified intakeVerification)), .validationJoined,
    .produced (some ⟨true, .object []⟩), .deliverReport, .reportReturned false, .commit,
    .commitAnswered (some (.committed ⟨"committed", "sha256:7f"⟩))]

def resolveAll (_ documents : Members) : Option ResolvedBundle := some ⟨[], .object documents⟩

theorem admission_order_intake : ∃ run,
    intakeEvents.foldlM (Run.step resolveAll ⟨true, true, true⟩) Run.fresh = some run
      ∧ (∃ result, run.stage = .done result ∧ result.isAdmitted = true)
      ∧ AdmissionOrder resolveAll ⟨true, true, true⟩ run := by
  obtain ⟨run, hrun, hdone⟩ : ∃ run,
      intakeEvents.foldlM (Run.step resolveAll ⟨true, true, true⟩) Run.fresh = some run
        ∧ ∃ result, run.stage = .done result ∧ result.isAdmitted = true :=
    ⟨_, rfl, _, rfl, rfl⟩
  exact ⟨run, hrun, hdone, admission_order hrun⟩

end FormspecWeb.VerifyingSurface
