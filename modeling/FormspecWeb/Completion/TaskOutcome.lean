import FormspecWeb.Completion.HttpTaskCompletion

/-!
# How a task submission ends

A call posts its submission once, and reads the receipt of the first 202 and no other. A dispatched
call that the deadline ends is reported as unknown; whatever else ends it is passed on as it is.
-/

namespace FormspecWeb.Completion.TaskCall

open Shared Async

variable {config : HttpTaskCompletionConfig} {s t : TaskCall}

def accepted (s : TaskCall) : Option PendingReceipt :=
  (s.replies.find? (·.1 == 202)).bind fun (_, payload) => receiptOf payload

def PollsAccepted (config : HttpTaskCompletionConfig) (s : TaskCall) : Prop :=
  (s.requests = [] ∧ s.dispatched = false)
    ∨ s.dispatched = true ∧ ∃ polls, s.requests = .post (path config) s.body s.operationId :: polls
      ∧ ∀ request ∈ polls, ∃ receipt, s.accepted = some receipt ∧ request = .get receipt.receiptUrl

def CompletesTask (config : HttpTaskCompletionConfig) (s : TaskCall) : Prop :=
  ∀ event, s.stage = .settled (.completed event) → s.dispatched = true
    ∧ completes config event = true ∧ ∃ raw, s.replies.getLast? = some (200, raw)
      ∧ config.snapshotFiniteJson raw = .ok event

/-- A timeout behind the dispatch is an unknown outcome, and any other failure is passed on. -/
def ReportsTimeout (s : TaskCall) : Prop :=
  (s.stage = .settled .outcomeUnknown → s.dispatched = true ∧ s.failure = some .timeout)
    ∧ ∀ failure, s.stage = .settled (.failed failure) → s.failure = some failure
      ∧ (s.dispatched = true → failure ≠ .timeout)

/-- The deadline ends a dispatched call in an unknown outcome, wherever it waits. -/
def MeetsDeadline (config : HttpTaskCompletionConfig) (s : TaskCall) : Prop :=
  s.dispatched = true → (∀ result, s.stage ≠ .settled result) →
    ∃ t, s.step config (.abort .timeout) = some t ∧ t.stage = .settled .outcomeUnknown

/-- The receipt a call reads is the accepted one; before there is one, nothing was read. -/
def Accepted (s : TaskCall) (receipt : Option PendingReceipt) : Prop :=
  s.accepted = receipt ∧ (receipt = none → s.replies = [])

def StageInv (s : TaskCall) : Prop :=
  match s.stage with
  | .idle => s.dispatched = false ∧ s.Accepted none
  | .credentials receipt => s.dispatched = receipt.isSome ∧ s.Accepted receipt
  | .requested receipt | .reading receipt _ => s.dispatched = true ∧ s.Accepted receipt
  | .waiting receipt => s.dispatched = true ∧ s.Accepted (some receipt)
  | .settled _ => True

structure Inv (config : HttpTaskCompletionConfig) (s : TaskCall) : Prop where
  polls : s.PollsAccepted config
  stage : s.StageInv
  completes : s.CompletesTask config
  reports : s.ReportsTimeout

theorem inv_opened : opened.Inv config where
  polls := Or.inl ⟨rfl, rfl⟩
  stage := ⟨rfl, rfl, fun _ => rfl⟩
  completes _ h := by cases h
  reports := ⟨nofun, nofun⟩

theorem accepted_append {receipt : PendingReceipt} (reply : Nat × Value)
    (h : s.accepted = some receipt) :
    ({ s with replies := s.replies ++ [reply] } : TaskCall).accepted = some receipt := by
  unfold accepted at h ⊢
  obtain ⟨first, hfirst, hreceipt⟩ := Option.bind_eq_some_iff.mp h
  rw [List.find?_append, hfirst]
  exact hreceipt

theorem PollsAccepted.read (h : s.PollsAccepted config) (reply : Nat × Value) :
    ({ s with replies := s.replies ++ [reply] } : TaskCall).PollsAccepted config := by
  refine h.imp_right fun ⟨hdispatched, polls, hrequests, hpolls⟩ => ?_
  refine ⟨hdispatched, polls, hrequests, fun request hrequest => ?_⟩
  obtain ⟨receipt, haccepted, heq⟩ := hpolls request hrequest
  exact ⟨receipt, accepted_append reply haccepted, heq⟩

/-! ## Steps -/

theorem inv_fail (h : s.PollsAccepted config) (failure : Failure) :
    (s.fail failure).Inv config := by
  refine ⟨h, trivial, ?_, ?_⟩
  · intro event hstage
    unfold fail at hstage
    cases failure with
    | timeout =>
      simp only at hstage
      split at hstage <;> cases hstage
    | _ => cases hstage
  · constructor
    · intro hstage
      unfold fail at hstage
      cases failure with
      | timeout =>
        simp only at hstage
        split at hstage
        · next hdispatched => exact ⟨hdispatched, rfl⟩
        · cases hstage
      | _ => cases hstage
    · intro passed hstage
      unfold fail at hstage
      cases failure with
      | timeout =>
        simp only at hstage
        split at hstage
        · cases hstage
        · next hdispatched =>
          cases hstage
          exact ⟨rfl, fun h => absurd h hdispatched⟩
      | _ =>
        cases hstage
        exact ⟨rfl, nofun⟩

theorem inv_guarded (h : s.PollsAccepted config) (guard : Option Failure)
    {next : TaskCall → TaskCall} (hnext : (next s).Inv config) :
    (s.guarded guard next).Inv config := by
  unfold guarded
  cases guard with
  | none => exact hnext
  | some failure => exact inv_fail h failure

theorem inv_waits (hpolls : s.PollsAccepted config) (hstage : s.StageInv)
    (hwaits : ∀ result, s.stage ≠ .settled result) : s.Inv config where
  polls := hpolls
  stage := hstage
  completes _ h := absurd h (hwaits _)
  reports := ⟨fun h => absurd h (hwaits _), fun _ h => absurd h (hwaits _)⟩

theorem inv_request {receipt : Option PendingReceipt} (h : s.PollsAccepted config)
    (hdispatched : s.dispatched = receipt.isSome) (haccepted : s.Accepted receipt) :
    (s.request config receipt).Inv config := by
  cases receipt with
  | none =>
    have hempty : s.requests = [] := by
      rcases h with ⟨hempty, -⟩ | ⟨htrue, -⟩
      · exact hempty
      · rw [hdispatched] at htrue
        cases htrue
    refine inv_waits (Or.inr ⟨rfl, [], ?_, ?_⟩) ⟨rfl, haccepted⟩ nofun
    · unfold request
      rw [hempty]
      rfl
    · exact fun _ h => absurd h List.not_mem_nil
  | some receipt =>
    have hsent : s.dispatched = true := hdispatched
    refine inv_waits ?_ ⟨hsent, haccepted⟩ nofun
    rcases h with ⟨-, hfalse⟩ | ⟨-, polls, hrequests, hpolls⟩
    · rw [hsent] at hfalse
      cases hfalse
    · refine Or.inr ⟨hsent, polls ++ [.get receipt.receiptUrl], ?_, ?_⟩
      · unfold request
        rw [hrequests]
        rfl
      · intro sent hmem
        rcases List.mem_append.mp hmem with hold | hnew
        · exact hpolls sent hold
        · exact ⟨receipt, haccepted.1, List.mem_singleton.mp hnew⟩

theorem inv_conclude {raw : Value} (h : s.PollsAccepted config) (hdispatched : s.dispatched = true)
    (hlast : s.replies.getLast? = some (200, raw)) : (s.conclude config raw).Inv config := by
  unfold conclude
  split
  · exact inv_fail h _
  · next event hsnapshot =>
    split
    · next hcompletes =>
      refine ⟨h, trivial, ?_, nofun, nofun⟩
      intro completed hstage
      cases hstage
      exact ⟨hdispatched, hcompletes, raw, hlast, hsnapshot⟩
    · exact inv_fail h _

theorem pendingReceipt_ok {status : Nat} {payload : Value} {original : Option PendingReceipt}
    {receipt : PendingReceipt} (h : pendingReceipt (.http status payload) original = .ok receipt) :
    status = 202 ∧ receiptOf payload = some receipt
      ∧ ∀ first, original = some first → first = receipt := by
  unfold pendingReceipt at h
  split at h
  · next value heq =>
    cases heq
    split at h
    · next found hfound =>
      split at h
      · next hsame =>
        cases h
        refine ⟨rfl, hfound, fun first hfirst => ?_⟩
        rw [hfirst] at hsame
        exact beq_iff_eq.mp hsame
      · cases h
    · cases h
  · cases h

theorem inv_received {receipt : Option PendingReceipt} {reply : TaskReply} {payload : Value}
    (h : s.PollsAccepted config) (hdispatched : s.dispatched = true)
    (haccepted : s.Accepted receipt) (late : Option Failure) :
    (({ s with replies := s.replies ++ [(reply.status, payload)] } : TaskCall).received config
      receipt reply payload late).Inv config := by
  have hread := h.read (reply.status, payload)
  unfold received
  split
  · split
    · next next hnext =>
      obtain ⟨hstatus, hreceipt, hsame⟩ := pendingReceipt_ok hnext
      refine inv_waits hread ⟨hdispatched, ?_, nofun⟩ nofun
      cases receipt with
      | some first =>
        rw [← hsame first rfl]
        exact accepted_append _ haccepted.1
      | none =>
        unfold accepted
        rw [haccepted.2 rfl, hstatus]
        exact hreceipt
    · exact inv_fail hread _
  · next hstatus =>
    have hstatus : reply.status = 200 := by simpa using hstatus
    split
    · exact inv_fail hread _
    · refine inv_guarded hread late (inv_conclude hread hdispatched ?_)
      rw [List.getLast?_append, hstatus]
      rfl

theorem inv_step (hs : s.Inv config) {event : Event} (h : s.step config event = some t) :
    t.Inv config := by
  have hstage := hs.stage
  unfold StageInv at hstage
  cases event with
  | complete submission operationId guard =>
    unfold step at h
    simp only at h
    split at h
    · next hidle =>
      rw [hidle] at hstage
      cases h
      apply inv_guarded hs.polls
      split
      · exact inv_fail hs.polls _
      split
      · refine inv_waits ?_ hstage nofun
        rcases hs.polls with hempty | ⟨htrue, -⟩
        · exact Or.inl hempty
        · rw [hstage.1] at htrue
          cases htrue
      · exact inv_fail hs.polls _
    · cases h
  | token token session guard =>
    unfold step at h
    simp only at h
    split at h
    · next receipt hcredentials =>
      rw [hcredentials] at hstage
      cases token with
      | error failure => exact Option.some.inj h ▸ inv_fail hs.polls failure
      | ok token =>
        cases h
        apply inv_guarded hs.polls
        split
        · exact inv_guarded hs.polls guard (inv_request hs.polls hstage.1 hstage.2)
        · exact inv_fail hs.polls _
    · cases h
  | reply reply guard =>
    unfold step at h
    simp only at h
    split at h
    · next receipt hrequested =>
      rw [hrequested] at hstage
      cases h
      apply inv_guarded hs.polls
      split
      · exact inv_waits hs.polls hstage nofun
      · exact inv_fail hs.polls _
    · cases h
  | unreachable failure =>
    unfold step at h
    simp only at h
    split at h
    · exact Option.some.inj h ▸ inv_fail hs.polls failure
    · cases h
  | body payload guard late =>
    unfold step at h
    simp only at h
    split at h
    · next receipt reply hreading =>
      rw [hreading] at hstage
      cases payload with
      | error failure => exact Option.some.inj h ▸ inv_fail hs.polls failure
      | ok payload =>
        cases h
        apply inv_guarded (hs.polls.read _)
        exact inv_received hs.polls hstage.1 hstage.2 late
    · cases h
  | timer guard =>
    unfold step at h
    simp only at h
    split at h
    · next receipt hwaiting =>
      rw [hwaiting] at hstage
      cases h
      apply inv_guarded hs.polls
      exact inv_waits hs.polls hstage nofun
    · cases h
  | abort reason =>
    unfold step at h
    simp only at h
    split at h
    · cases h
    · cases h
    · exact Option.some.inj h ▸ inv_fail hs.polls reason

theorem meetsDeadline_of_inv (hs : s.Inv config) : s.MeetsDeadline config := by
  intro hdispatched hwaits
  have hstage := hs.stage
  unfold StageInv at hstage
  refine ⟨s.fail .timeout, ?_, ?_⟩
  · unfold step
    simp only
    split
    · next hidle =>
      rw [hidle, hdispatched] at hstage
      cases hstage.1
    · next result hsettled => exact absurd hsettled (hwaits result)
    · rfl
  · unfold fail
    simp only [hdispatched, if_true]

/-- In every run of a call: one POST and the reads of the receipt it was accepted with, an outcome
that was read, and a timeout behind the dispatch, and that alone, reported as unknown. -/
theorem timeout_reported {events : List Event} {states : List TaskCall}
    (h : statesOf (step config) opened events = some states) :
    ∀ reached ∈ states, reached.PollsAccepted config ∧ reached.CompletesTask config
      ∧ reached.ReportsTimeout ∧ reached.MeetsDeadline config := by
  have hinv := statesOf_invariant (J := Inv config) (P := fun _ _ => True)
    (fun _ _ _ hs _ hstep => inv_step hs hstep) inv_opened
    (everyStep_of_forall fun _ _ _ => trivial) h
  intro reached hreached
  have hs := hinv reached hreached
  exact ⟨hs.polls, hs.completes, hs.reports, meetsDeadline_of_inv hs⟩

section Sample

def sampleSelection : TaskCompletionSelection :=
  ⟨"urn:wos:p/tasks/t", "urn:wos:p", "urn:form", "1.0.0"⟩

def sampleConfig : HttpTaskCompletionConfig where
  selection := sampleSelection
  submissionShape := Value.isPlainObject
  outcomeShape := Value.isPlainObject
  snapshotFiniteJson := .ok
  jsonByteLength _ := 200

def sampleSubmission : Value :=
  .object [("definitionUrl", .string "urn:form"), ("definitionVersion", .string "1.0.0"),
    ("response", .object [("definitionUrl", .string "urn:form"),
      ("definitionVersion", .string "1.0.0"), ("status", .string "completed"),
      ("authoredSignatures", .array [.object []])])]

def sampleOutcome : Value :=
  .object [("taskId", .string "urn:wos:p/tasks/t"), ("processId", .string "urn:wos:p"),
    ("outcome", .string "completed"), ("newStatus", .string "submitted"),
    ("occurredAt", .string "2026-10-09T12:00:00Z")]

def sampleReceipt : Value :=
  .object [("acceptedCommandRef", .string "c-1"),
    ("receiptUrl", .string "/api/v1/accepted-commands/c-1?operation=task-submit")]

def posted : List Event :=
  [.complete sampleSubmission "operation" none, .token (.ok "token") none none]

/-- The submission is accepted, its receipt pending once, and then carries the outcome. -/
def polled : List Event :=
  posted ++ [.reply ⟨202, true, true⟩ none, .body (.ok sampleReceipt) none none, .timer none,
    .token (.ok "token") none none, .reply ⟨202, true, true⟩ none,
    .body (.ok sampleReceipt) none none, .timer none, .token (.ok "token") none none,
    .reply ⟨200, true, true⟩ none, .body (.ok sampleOutcome) none none]

def lostReply : List Event := posted ++ [.unreachable (.other "fetch failed")]

def serverError : List Event := posted ++ [.reply ⟨503, true, true⟩ none, .body (.ok .null) none none]

def callerRetired : List Event := posted ++ [.abort (.other "retired")]

theorem timeout_reported_polled :
    ∃ states last, statesOf (step sampleConfig) opened polled = some states
      ∧ states.getLast? = some last ∧ last.requests.length = 3
      ∧ ∀ reached ∈ states, reached.PollsAccepted sampleConfig
        ∧ reached.CompletesTask sampleConfig ∧ reached.ReportsTimeout
        ∧ reached.MeetsDeadline sampleConfig := by
  have hrun : ((statesOf (step sampleConfig) opened polled).bind fun states =>
      states.getLast?.map fun last => last.requests.length) = some 3 := by
    decide +kernel
  obtain ⟨states, hstates, hread⟩ := Option.bind_eq_some_iff.mp hrun
  obtain ⟨last, hlast, hlength⟩ := Option.map_eq_some_iff.mp hread
  exact ⟨states, last, hstates, hlast, hlength, timeout_reported hstates⟩

/-- A submission whose reply is lost, one whose reply is a server error, and one whose caller leaves
were all dispatched and refused by nothing, and end in a plain failure. -/
theorem lost_reply_fails :
    (∃ s, lostReply.foldlM (step sampleConfig) opened = some s
      ∧ s.dispatched = true ∧ s.replies = [] ∧ s.stage = .settled (.failed (.other "fetch failed")))
    ∧ (∃ s, serverError.foldlM (step sampleConfig) opened = some s
      ∧ s.dispatched = true ∧ s.stage = .settled (.failed (.http 503 .null)))
    ∧ ∃ s, callerRetired.foldlM (step sampleConfig) opened = some s
      ∧ s.dispatched = true ∧ s.stage = .settled (.failed (.other "retired")) :=
  ⟨⟨_, rfl, rfl, rfl, rfl⟩, ⟨_, rfl, rfl, rfl⟩, ⟨_, rfl, rfl, rfl⟩⟩

end Sample

end FormspecWeb.Completion.TaskCall
