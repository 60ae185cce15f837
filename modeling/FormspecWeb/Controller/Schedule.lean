import FormspecWeb.Controller.Trace

/-!
# Schedules

Some properties of the controller hold only of runs that avoid one kind of
interleaving. `Schedule` selects the restrictions a run obeys; each is a
condition on the state before an event and on the answer the event delivers.
-/

namespace FormspecWeb.Controller

open Ports Engine Async

structure Schedule where
  /-- While the checkpoint draft of an early start is stored and unchecked, only
  its own check answers; it passes, and the controller is still current. -/
  checkpointsChecked : Bool
  /-- No save, prepare or restoration passes its evidence check while a Sign
  awaits the hash of the Response it assented to. -/
  assentsKept : Bool
  /-- Nothing is admitted while a restoration that does not take the busy flag is
  open, and a draft a port returns is newer than every draft shown so far. -/
  restoresAlone : Bool
  /-- No Submit is admitted once a completion was rejected as unknown. -/
  unknownBlocks : Bool

def Schedule.any : Schedule := ⟨false, false, false, false⟩

variable {config : ResponseActionControllerConfig}

def restoreOpen (es : List (Entry config)) : Bool :=
  (openOperations es).any fun (_, operation) => operation.busyKey.isNone

def exceedsShown (s : State config) (version : Int) : Bool :=
  (shownVersions s.log).all (· < version) && s.saved.all (·.draft.version < version)

def EvidenceCheck.passes (config : ResponseActionControllerConfig) (check : EvidenceCheck)
    (answer : EvidenceAnswer) : Bool :=
  match assertSavedResponseDraftEvidence config check.result check.expected check.actor answer with
  | .ok _ => true
  | .error _ => false

/-- The operation of an evidence check writes the `prepared` slot. -/
def EvidencePurpose.writesPrepared : EvidencePurpose → Bool
  | .save | .prepare | .restoredPending => true
  | _ => false

def admitsCall (s : State config) (hashed : HashedCall) (hash : Except Failure String) : Bool :=
  match hash with
  | .ok responseHash =>
    match decideAdmission s hashed.call (hashed.identity responseHash) with
    | .ok .admitted => true
    | _ => false
  | .error _ => false

def Begin.isRestore : Begin → Bool
  | .restoreSavedDraft _ | .restorePending _ | .restoreSigned _ => true
  | _ => false

namespace Schedule

variable (F : Schedule)

/-- No checkpoint draft is stored unchecked, where the schedule looks for one. -/
def clear (s : State config) : Bool := !F.checkpointsChecked || (uncheckedBy s.log).isNone

def begins (s : State config) (op : Begin) : Bool :=
  F.clear s
    && (!F.restoresAlone || !op.isRestore || !restoreOpen s.log)

def resumes (s : State config) : (l : Await) → Reply l → Bool
  | .checkEvidence check, answer =>
    (if check.purpose = .checkpoint
      then !F.checkpointsChecked || (check.passes config answer && !s.invalidated)
      else F.clear s)
    && (!F.assentsKept || !check.purpose.writesPrepared || !check.passes config answer
      || (assenting s.log).isEmpty)
  | .hashResponse hashed, hash =>
    F.clear s && (!admitsCall s hashed hash
      || ((!F.restoresAlone || !restoreOpen s.log)
        && (!F.unknownBlocks || hashed.call.role != .submit || !hasUnknown s.log)))
  | .saveDraft purpose, .ok draft =>
    F.clear s && (!F.checkpointsChecked || purpose != .checkpoint || !s.invalidated)
      && (!F.restoresAlone || exceedsShown s draft.draft.version)
  | .prepare, .ok preparation =>
    F.clear s && (!F.restoresAlone || exceedsShown s preparation.draft.version)
  | .sign, .ok signature =>
    F.clear s && (!F.restoresAlone || exceedsShown s signature.draft.version)
  | _, _ => F.clear s

theorem any_resumes (s : State config) (l : Await) (answer : Reply l) :
    Schedule.any.resumes s l answer = true := by
  unfold Schedule.resumes
  split <;> simp [Schedule.any, Schedule.clear]

def discipline : Discipline (State config) Begin Reply where
  begins s op := F.begins s op = true
  resumes s l answer := F.resumes s l answer = true

end Schedule

end FormspecWeb.Controller
