import FormspecWeb.Hydration.HttpTaskCandidateHydration
import FormspecWeb.Shared.CanonicalText
import Mathlib.Data.List.Perm.Subperm

/-!
# Task candidate facts

A returned candidate has a result for each declared source, with the data its digests state, and was
accepted by the verifier where anything in it is qualified. It is current only while it is the candidate
of the last call and the clock is below its deadline; and where it failed once, it fails for good: it is
retired, or the clock cannot go back behind its deadline.
-/

namespace FormspecWeb.Hydration

open Shared Evaluation

/-! ## Results -/

def named (result : EvaluationHydrationResult) : String × String := (result.instanceName, result.sourceRef)

def Stated (platform : HydrationPlatform) : EvaluationHydrationResult → Prop
  | .qualified _ _ data dataHash .. => platform.hash data = .ok dataHash
  | _ => True

structure Passed (config : HttpTaskCandidateHydrationConfig) (done : List EvaluationHydrationResult)
    (names : List String) : Prop where
  names_eq : ∀ name, name ∈ names ↔ name ∈ done.map (·.instanceName)
  nodup : (done.map (·.instanceName)).Nodup
  declared : ∀ result ∈ done, (sources config.definition).lookup result.instanceName = some result.sourceRef

/-- The results of a view are those of the declared sources, each once, and state their digests. -/
structure Sound (config : HttpTaskCandidateHydrationConfig) (view : View) : Prop where
  covers : (view.results.map named).Perm (declared config.definition)
  stated : ∀ result ∈ view.results, Stated config.platform result

structure Walking (config : HttpTaskCandidateHydrationConfig) (view : View)
    (done rest : List EvaluationHydrationResult) (names : List String) : Prop where
  results : view.results = done ++ rest
  length : view.results.length = (declared config.definition).length
  passed : Passed config done names
  stated : ∀ result ∈ done, Stated config.platform result

/-- The digest of a qualified result is awaited, behind results that have passed. -/
def Awaiting (config : HttpTaskCandidateHydrationConfig) (view : View) (names : List String) (data : Value)
    (stated : String) (rest : List EvaluationHydrationResult) : Prop :=
  ∃ done result, (config.platform.hash data = .ok stated → Stated config.platform result)
    ∧ view.results = done ++ result :: rest
    ∧ view.results.length = (declared config.definition).length
    ∧ Passed config (done ++ [result]) names ∧ ∀ found ∈ done, Stated config.platform found

variable {config : HttpTaskCandidateHydrationConfig} {view : View}
  {done rest : List EvaluationHydrationResult} {names : List String}

theorem Passed.nil : Passed config [] [] :=
  ⟨fun _ => Iff.rfl, List.nodup_nil, fun _ h => absurd h List.not_mem_nil⟩

theorem Passed.append {result : EvaluationHydrationResult} (h : Passed config done names)
    (hsource : (sources config.definition).lookup result.instanceName = some result.sourceRef)
    (hnew : result.instanceName ∉ names) : Passed config (done ++ [result]) (result.instanceName :: names) := by
  refine ⟨fun name => ?_, ?_, ?_⟩
  · rw [List.map_append, List.mem_append, List.mem_cons, h.names_eq, List.map_singleton, List.mem_singleton]
    exact or_comm
  · rw [List.map_append, List.map_singleton, List.nodup_append]
    refine ⟨h.nodup, List.nodup_singleton _, ?_⟩
    intro name hname other hother heq
    rw [List.mem_singleton.mp hother] at heq
    exact hnew ((h.names_eq _).mpr (heq ▸ hname))
  · intro found hfound
    rcases List.mem_append.mp hfound with hdone | hlast
    · exact h.declared found hdone
    · rw [List.mem_singleton.mp hlast]
      exact hsource

theorem length_declared (definition : Value) : (declared definition).length = (sourceEntries definition).length :=
  List.length_map ..

theorem mem_sources {definition : Value} {entry : String × String} (h : entry ∈ sources definition) :
    entry ∈ declared definition := by
  have hfold : ∀ (entries set : List (String × String)), entry ∈ entries.foldl
      (fun members stated => setEntry stated.1 stated.2 members) set → entry ∈ entries ∨ entry ∈ set := by
    intro entries
    induction entries with
    | nil => exact fun set hset => Or.inr hset
    | cons first entries ih =>
      intro set hset
      rcases ih _ hset with hentries | hset
      · exact Or.inl (List.mem_cons_of_mem _ hentries)
      · rcases mem_setEntry hset with ⟨hname, hsource⟩ | hset
        · exact Or.inl (List.mem_cons.mpr (Or.inl (Prod.ext hname hsource)))
        · exact Or.inr hset
  exact (hfold _ _ h).resolve_right List.not_mem_nil

theorem Walking.sound (h : Walking config view done [] names) : Sound config view := by
  have hdone : view.results = done := by rw [h.results, List.append_nil]
  refine ⟨?_, by rw [hdone]; exact h.stated⟩
  have hnodup : (view.results.map named).Nodup := by
    apply List.Nodup.of_map Prod.fst
    rw [List.map_map, hdone]
    exact h.passed.nodup
  have hsubset : view.results.map named ⊆ declared config.definition := by
    intro entry hentry
    obtain ⟨result, hresult, rfl⟩ := List.mem_map.mp hentry
    rw [hdone] at hresult
    exact mem_sources (mem_of_lookup (h.passed.declared result hresult))
  apply (List.subperm_of_subset hnodup hsubset).perm_of_length_le
  rw [List.length_map, h.length]

namespace HttpTaskCandidateHydration

theorem walk_cons {result : EvaluationHydrationResult} {next : Option Phase}
    (h : walk (sources config.definition) view names (result :: rest) = .ok next) :
    (sources config.definition).lookup result.instanceName = some result.sourceRef ∧ result.instanceName ∉ names
      ∧ match result with
        | .qualified _ _ data stated .. => next = some (.dataHash view (result.instanceName :: names) data stated rest)
        | _ => walk (sources config.definition) view (result.instanceName :: names) rest = .ok next := by
  unfold walk at h
  rw [failIf_bind_ok, Bool.or_eq_false_iff] at h
  obtain ⟨⟨hsource, hnames⟩, hnext⟩ := h
  refine ⟨by simpa using hsource, by simpa using hnames, ?_⟩
  cases result with
  | qualified => exact (Except.ok.inj hnext).symm
  | pending => exact hnext
  | unavailable => exact hnext

theorem walk_ok {next : Option Phase} (h : Walking config view done rest names)
    (hwalk : walk (sources config.definition) view names rest = .ok next) :
    (next = none ∧ Sound config view) ∨ ∃ names data stated rest,
      next = some (.dataHash view names data stated rest) ∧ Awaiting config view names data stated rest := by
  induction rest generalizing done names with
  | nil => exact Or.inl ⟨(Except.ok.inj hwalk).symm, h.sound⟩
  | cons result rest ih =>
    obtain ⟨hsource, hnames, hnext⟩ := walk_cons hwalk
    have hpassed := h.passed.append hsource hnames
    have hgo (hstated : Stated config.platform result)
        (hrest : walk (sources config.definition) view (result.instanceName :: names) rest = .ok next) :=
      ih ⟨by rw [h.results, List.append_assoc]; rfl, h.length, hpassed, fun found hfound => by
        rcases List.mem_append.mp hfound with hdone | hlast
        · exact h.stated found hdone
        · rw [List.mem_singleton.mp hlast]
          exact hstated⟩ hrest
    cases result with
    | qualified name source data stated evidence issued expires =>
      exact Or.inr ⟨_, data, stated, rest, hnext, done, _, id, h.results, h.length, hpassed, h.stated⟩
    | pending => exact hgo trivial hnext
    | unavailable => exact hgo trivial hnext

theorem awaiting_walking {data : Value} {stated : String}
    (h : Awaiting config view names data stated rest) (hhash : config.platform.hash data = .ok stated) :
    ∃ done, Walking config view done rest names := by
  obtain ⟨done, result, hstated, hresults, hlength, hpassed, hdone⟩ := h
  refine ⟨done ++ [result], by rw [hresults, List.append_assoc]; rfl, hlength, hpassed, fun found hfound => ?_⟩
  rcases List.mem_append.mp hfound with hfound | hlast
  · exact hdone found hfound
  · rw [List.mem_singleton.mp hlast]
    exact hstated hhash

end HttpTaskCandidateHydration

/-! ## The invariant -/

/-- The verifier accepted this view for this call's draft, and the deadline is counted from the call's
start. -/
def Verified (config : HttpTaskCandidateHydrationConfig) (acceptances : List Acceptance) (k : Nat) (call : Call)
    (view : View) (deadline : Option Rat) : Prop :=
  config.receiptVerifier = true ∧ ∃ started valid, ⟨k, call.saved, view, valid⟩ ∈ acceptances
    ∧ call.started = some started ∧ deadline = some (started + valid)

def PhaseInv (config : HttpTaskCandidateHydrationConfig) (acceptances : List Acceptance) (k : Nat)
    (call : Call) : Prop :=
  match call.phase with
  | .dataHash view names data stated rest => Awaiting config view names data stated rest
  | .proof view => Sound config view ∧ config.receiptVerifier = true
  | .returned candidate => Sound config candidate.view
      ∧ (candidate.view.results.any (·.isQualified) = true →
          Verified config acceptances k call candidate.view candidate.deadline)
  | _ => True

structure Inv (config : HttpTaskCandidateHydrationConfig) (s : HttpTaskCandidateHydration) : Prop where
  generation : ∀ k call, s.calls[k]? = some call →
    call.generation ≤ s.generation ∧ (call.generation = s.generation → k + 1 = s.calls.length)
  phase : ∀ k call, s.calls[k]? = some call → PhaseInv config s.acceptances k call

/-- A candidate keeps its generation and its deadline, and stays retired. -/
def KeepsCandidate (call : Call) (candidate : Candidate) (call' : Call) : Prop :=
  call'.generation = call.generation ∧ ∃ candidate', call'.phase = .returned candidate'
    ∧ candidate'.deadline = candidate.deadline ∧ (candidate.retired.isSome → candidate'.retired.isSome)

/-- Nothing about a candidate comes back, and neither does a generation; the watermark of the clock does
not sink. -/
structure Keeps (s t : HttpTaskCandidateHydration) : Prop where
  generation : s.generation ≤ t.generation
  elapsed : ∀ l, s.lastElapsed = some l → ∃ m, t.lastElapsed = some m ∧ l ≤ m
  candidates : ∀ (k : Nat) (call : Call) (candidate : Candidate), s.calls[k]? = some call →
    call.phase = .returned candidate → ∃ call', t.calls[k]? = some call' ∧ KeepsCandidate call candidate call'

variable {s t u : HttpTaskCandidateHydration} {k : Nat} {call : Call} {reading : Reading}

theorem KeepsCandidate.same {candidate : Candidate} (h : call.phase = .returned candidate) :
    KeepsCandidate call candidate call := ⟨rfl, candidate, h, rfl, id⟩

theorem Keeps.refl (s : HttpTaskCandidateHydration) : Keeps s s :=
  ⟨Nat.le_refl _, fun l hl => ⟨l, hl, le_refl l⟩, fun _ call _ hcall hphase => ⟨call, hcall, .same hphase⟩⟩

theorem Keeps.trans (h : Keeps s t) (h' : Keeps t u) : Keeps s u := by
  refine ⟨Nat.le_trans h.generation h'.generation, ?_, ?_⟩
  · intro l hl
    obtain ⟨m, hm, hle⟩ := h.elapsed l hl
    obtain ⟨n, hn, hle'⟩ := h'.elapsed m hm
    exact ⟨n, hn, le_trans hle hle'⟩
  · intro k call candidate hcall hphase
    obtain ⟨call', hcall', hgeneration, candidate', hphase', hdeadline, hretired⟩ :=
      h.candidates k call candidate hcall hphase
    obtain ⟨call'', hcall'', hgeneration', candidate'', hphase'', hdeadline', hretired'⟩ :=
      h'.candidates k call' candidate' hcall' hphase'
    exact ⟨call'', hcall'', hgeneration'.trans hgeneration, candidate'', hphase'', hdeadline'.trans hdeadline,
      fun hsome => hretired' (hretired hsome)⟩

theorem PhaseInv.mono {acceptances more : List Acceptance} (h : PhaseInv config acceptances k call)
    (hmore : acceptances ⊆ more) : PhaseInv config more k call := by
  unfold PhaseInv at h ⊢
  split at h
  · exact h
  · exact h
  · refine ⟨h.1, fun hqualified => ?_⟩
    obtain ⟨hverifier, started, valid, hmem, hstarted⟩ := h.2 hqualified
    exact ⟨hverifier, started, valid, hmore hmem, hstarted⟩
  · trivial

theorem Inv.of_calls (h : Inv config s) (hlength : t.calls.length = s.calls.length)
    (hgeneration : s.generation ≤ t.generation)
    (hcalls : ∀ (k : Nat) (call' : Call), t.calls[k]? = some call' → ∃ call, s.calls[k]? = some call
      ∧ call'.generation = call.generation ∧ PhaseInv config t.acceptances k call') : Inv config t := by
  constructor
  · intro k call' hcall'
    obtain ⟨call, hcall, heq, -⟩ := hcalls k call' hcall'
    obtain ⟨hle, hlast⟩ := h.generation k call hcall
    rw [hlength, heq]
    exact ⟨by omega, fun hpresent => hlast (by omega)⟩
  · intro k call' hcall'
    obtain ⟨call, -, -, hphase⟩ := hcalls k call' hcall'
    exact hphase

theorem Inv.frame (h : Inv config s) (hcalls : t.calls = s.calls) (hgeneration : s.generation ≤ t.generation)
    (hacceptances : s.acceptances ⊆ t.acceptances) : Inv config t := by
  apply h.of_calls (by rw [hcalls]) hgeneration
  intro k call hcall
  rw [hcalls] at hcall
  exact ⟨call, hcall, rfl, (h.phase k call hcall).mono hacceptances⟩

theorem Keeps.frame (hcalls : t.calls = s.calls) (hgeneration : s.generation ≤ t.generation)
    (helapsed : ∀ l, s.lastElapsed = some l → ∃ m, t.lastElapsed = some m ∧ l ≤ m) : Keeps s t := by
  refine ⟨hgeneration, helapsed, fun k call candidate hcall hphase => ?_⟩
  rw [← hcalls] at hcall
  exact ⟨call, hcall, .same hphase⟩

namespace HttpTaskCandidateHydration

theorem getElem?_setCall {j : Nat} {call' : Call} (hcall : s.calls[k]? = some call) :
    (s.setCall k call').calls[j]? = if j = k then some call' else s.calls[j]? := by
  obtain ⟨hk, -⟩ := List.getElem?_eq_some_iff.mp hcall
  rw [setCall, List.getElem?_set]
  by_cases heq : j = k
  · rw [if_pos heq.symm, if_pos hk, if_pos heq]
  · rw [if_neg fun h => heq h.symm, if_neg heq]

end HttpTaskCandidateHydration

open HttpTaskCandidateHydration

theorem Inv.setCall {call' : Call} (h : Inv config s) (hcall : s.calls[k]? = some call)
    (hgeneration : call'.generation = call.generation) (hphase : PhaseInv config s.acceptances k call') :
    Inv config (s.setCall k call') := by
  refine h.of_calls (t := s.setCall k call') (List.length_set ..) (Nat.le_refl _) ?_
  intro j found hfound
  rw [getElem?_setCall hcall] at hfound
  by_cases heq : j = k
  · rw [if_pos heq, Option.some.injEq] at hfound
    rw [heq, ← hfound]
    exact ⟨call, hcall, hgeneration, hphase⟩
  · rw [if_neg heq] at hfound
    exact ⟨found, hfound, rfl, h.phase j found hfound⟩

theorem Keeps.setCall {call' : Call} (hcall : s.calls[k]? = some call)
    (hphase : ∀ candidate, call.phase = .returned candidate → KeepsCandidate call candidate call') :
    Keeps s (s.setCall k call') := by
  refine ⟨Nat.le_refl _, fun l hl => ⟨l, hl, le_refl l⟩, fun j found candidate hfound hreturned => ?_⟩
  rw [getElem?_setCall hcall]
  by_cases heq : j = k
  · rw [heq, hcall, Option.some.injEq] at hfound
    subst hfound
    exact ⟨call', if_pos heq, hphase candidate hreturned⟩
  · exact ⟨found, (if_neg heq).trans hfound, .same hreturned⟩

variable {result : Except String Phase}

theorem Inv.settle (h : Inv config s) (hcall : s.calls[k]? = some call)
    (hphase : ∀ phase, result = .ok phase → PhaseInv config s.acceptances k { call with phase }) :
    Inv config (s.settle k call result) := by
  cases result with
  | ok phase => exact h.setCall hcall rfl (hphase phase rfl)
  | error error => exact h.setCall hcall rfl trivial

theorem Keeps.settle (hcall : s.calls[k]? = some call)
    (hflight : ∀ candidate, call.phase ≠ .returned candidate) : Keeps s (s.settle k call result) := by
  cases result with
  | ok phase => exact Keeps.setCall hcall fun candidate hreturned => absurd hreturned (hflight candidate)
  | error error => exact Keeps.setCall hcall fun candidate hreturned => absurd hreturned (hflight candidate)

theorem not_returned {phase : Phase} (hphase : call.phase = phase) (hflight : inFlight phase = true) :
    ∀ candidate, call.phase ≠ .returned candidate := by
  intro candidate hreturned
  rw [← hphase, hreturned] at hflight
  cases hflight

theorem now_ok {value : Rat} (h : s.now reading = .ok value) :
    reading.now = some value ∧ ∀ l, s.lastElapsed = some l → l ≤ value := by
  rw [now] at h
  split at h
  · cases h
  · next found hfound =>
    split at h
    · cases h
    · next hwatermark =>
      cases h
      refine ⟨hfound, fun l hl => ?_⟩
      rw [hl, Option.any_some, decide_eq_true_eq] at hwatermark
      exact not_lt.mp hwatermark

theorem check_ok (h : s.check call reading = .ok ()) :
    call.aborted = none ∧ s.disposed = false ∧ s.lifetimeAborted = none ∧ call.generation = s.generation := by
  have habort : ∀ signal, throwIfAborted signal = .ok () → signal = none := by
    intro signal hsignal
    cases signal with
    | none => rfl
    | some reason => cases hsignal
  rw [check, then_ok, then_ok, then_ok, failIf_ok, bne_eq_false_iff_eq] at h
  obtain ⟨hcall, howner, -, hgeneration⟩ := h
  rw [checkOwner, failIf_bind_ok, then_ok] at howner
  exact ⟨habort _ hcall, howner.1, habort _ howner.2.1, hgeneration⟩

theorem remaining_cases (s : HttpTaskCandidateHydration) (call : Call) (candidate : Candidate) (reading : Reading) :
    (∃ error, candidate.retired = some error
        ∧ s.remaining call candidate reading = (s, candidate, .error error))
      ∨ (∃ value, candidate.retired = none ∧ s.check call reading = .ok () ∧ s.now reading = .ok value
        ∧ s.remaining call candidate reading = ({ s with lastElapsed := some value }, candidate,
          .ok (candidate.deadline.map (max 0 <| · - value))))
      ∨ ∃ error, s.remaining call candidate reading
          = (s, { candidate with retired := some error }, .error error) := by
  unfold remaining
  cases hretired : candidate.retired with
  | some error => exact Or.inl ⟨error, rfl, rfl⟩
  | none =>
    refine Or.inr ?_
    cases hchecked : s.check call reading >>= fun _ => s.now reading with
    | error error => exact Or.inr ⟨error, rfl⟩
    | ok value =>
      obtain ⟨hcheck, hnow⟩ := then_ok.mp hchecked
      exact Or.inl ⟨value, rfl, hcheck, hnow, rfl⟩

theorem remaining_frame (s : HttpTaskCandidateHydration) (call : Call) (candidate : Candidate) (reading : Reading) :
    ∃ elapsed retired left, s.remaining call candidate reading
        = ({ s with lastElapsed := elapsed }, { candidate with retired }, left)
      ∧ (∀ l, s.lastElapsed = some l → ∃ m, elapsed = some m ∧ l ≤ m)
      ∧ (candidate.retired.isSome → retired.isSome) := by
  rcases remaining_cases s call candidate reading with ⟨error, hretired, heq⟩ | ⟨value, hretired, -, hnow, heq⟩ | ⟨error, heq⟩
  · exact ⟨s.lastElapsed, candidate.retired, _, heq, fun l hl => ⟨l, hl, le_refl l⟩, id⟩
  · exact ⟨some value, candidate.retired, _, heq, fun l hl => ⟨value, rfl, (now_ok hnow).2 l hl⟩, id⟩
  · exact ⟨s.lastElapsed, some error, _, heq, fun l hl => ⟨l, hl, le_refl l⟩, fun _ => rfl⟩

variable {view : View}

theorem Inv.complete {deadline : Option Rat} (h : Inv config s) (hcall : s.calls[k]? = some call)
    (hsound : Sound config view)
    (hverified : view.results.any (·.isQualified) = true → Verified config s.acceptances k call view deadline) :
    Inv config (s.complete k call view deadline reading) := by
  obtain ⟨elapsed, retired, left, heq, -, -⟩ := remaining_frame s call ⟨view, deadline, none⟩ reading
  rw [HttpTaskCandidateHydration.complete, heq]
  have hframe : Inv config { s with lastElapsed := elapsed } := h.frame rfl (Nat.le_refl _) (List.Subset.refl _)
  apply hframe.settle hcall
  intro phase hphase
  obtain ⟨-, hreturned⟩ := then_ok.mp hphase
  rw [← Except.ok.inj hreturned]
  exact ⟨hsound, hverified⟩

theorem Keeps.complete {deadline : Option Rat} (hcall : s.calls[k]? = some call)
    (hflight : ∀ candidate, call.phase ≠ .returned candidate) :
    Keeps s (s.complete k call view deadline reading) := by
  obtain ⟨elapsed, retired, left, heq, helapsed, -⟩ := remaining_frame s call ⟨view, deadline, none⟩ reading
  rw [HttpTaskCandidateHydration.complete, heq]
  have hframe : Keeps s { s with lastElapsed := elapsed } := Keeps.frame rfl (Nat.le_refl _) helapsed
  exact hframe.trans (Keeps.settle hcall hflight)

theorem abortedCall_returned (reason : String) {candidate : Candidate} (h : call.phase = .returned candidate) :
    (abortedCall reason call).phase = .returned candidate := by
  unfold abortedCall
  split
  · exact h
  · simp only [h, inFlight, Bool.false_eq_true, if_false]

theorem generation_abortedCall (reason : String) (call : Call) :
    (abortedCall reason call).generation = call.generation := by
  unfold abortedCall
  split <;> rfl

theorem PhaseInv.aborted {acceptances : List Acceptance} (reason : String)
    (h : PhaseInv config acceptances k call) : PhaseInv config acceptances k (abortedCall reason call) := by
  unfold abortedCall
  split
  · exact h
  · unfold PhaseInv at h ⊢
    cases hphase : call.phase with
    | returned candidate =>
      simp only [hphase, inFlight, Bool.false_eq_true, if_false] at h ⊢
      exact h
    | _ => trivial

variable {reason : String}

theorem Inv.abortCall (h : Inv config s) : Inv config (s.abortCall k reason) := by
  rw [HttpTaskCandidateHydration.abortCall]
  split
  · next call hcall =>
    exact h.setCall hcall (generation_abortedCall reason call) ((h.phase k call hcall).aborted reason)
  · exact h

theorem Keeps.abortCall : Keeps s (s.abortCall k reason) := by
  rw [HttpTaskCandidateHydration.abortCall]
  split
  · next call hcall =>
    exact Keeps.setCall hcall fun candidate hphase =>
      ⟨generation_abortedCall reason call, candidate, abortedCall_returned reason hphase, rfl, id⟩
  · exact Keeps.refl s

theorem calls_retireFacts (s : HttpTaskCandidateHydration) : s.retireFacts.calls.length = s.calls.length
    ∧ s.retireFacts.generation = s.generation + 1 := by
  rw [retireFacts]
  cases s.active with
  | none => exact ⟨rfl, rfl⟩
  | some k =>
    dsimp only
    rw [HttpTaskCandidateHydration.abortCall]
    split
    · exact ⟨List.length_set .., rfl⟩
    · exact ⟨rfl, rfl⟩

theorem Inv.retireFacts (h : Inv config s) : Inv config s.retireFacts := by
  rw [HttpTaskCandidateHydration.retireFacts]
  cases s.active with
  | none => exact h.frame rfl (Nat.le_succ _) (List.Subset.refl _)
  | some k => exact (h.abortCall (k := k)).frame rfl (Nat.le_succ _) (List.Subset.refl _)

theorem Keeps.retireFacts : Keeps s s.retireFacts := by
  rw [HttpTaskCandidateHydration.retireFacts]
  cases s.active with
  | none => exact Keeps.frame rfl (Nat.le_succ _) fun l hl => ⟨l, hl, le_refl l⟩
  | some k =>
    have hframe : ∀ t : HttpTaskCandidateHydration, Keeps t { t with generation := t.generation + 1, active := none } :=
      fun t => Keeps.frame rfl (Nat.le_succ _) fun l hl => ⟨l, hl, le_refl l⟩
    exact (Keeps.abortCall (k := k)).trans (hframe _)

theorem Inv.abortLifetime (h : Inv config s) : Inv config (s.abortLifetime reason) := by
  refine h.of_calls (t := s.abortLifetime reason) (List.length_map ..) (Nat.le_refl _) ?_
  intro k call' hcall'
  rw [HttpTaskCandidateHydration.abortLifetime, List.getElem?_map, Option.map_eq_some_iff] at hcall'
  obtain ⟨call, hcall, rfl⟩ := hcall'
  exact ⟨call, hcall, generation_abortedCall reason call, (h.phase k call hcall).aborted reason⟩

theorem Keeps.abortLifetime : Keeps s (s.abortLifetime reason) := by
  refine ⟨Nat.le_refl _, fun l hl => ⟨l, hl, le_refl l⟩, fun k call candidate hcall hphase => ?_⟩
  refine ⟨abortedCall reason call, ?_, generation_abortedCall reason call, candidate,
    abortedCall_returned reason hphase, rfl, id⟩
  rw [HttpTaskCandidateHydration.abortLifetime, List.getElem?_map, hcall, Option.map_some]

/-! ## Steps -/

theorem candidate?_eq {found : Call × Candidate} (h : s.candidate? k = some found) :
    s.calls[k]? = some found.1 ∧ found.1.phase = .returned found.2 := by
  rw [candidate?] at h
  split at h
  · next call hcall =>
    split at h
    · next candidate hphase =>
      cases h
      exact ⟨hcall, hphase⟩
    · cases h
  · cases h

theorem Inv.consult (h : Inv config s) : Inv config (s.consult k reading) := by
  rw [HttpTaskCandidateHydration.consult]
  split
  · next call candidate hfound =>
    obtain ⟨hcall, hphase⟩ := candidate?_eq hfound
    obtain ⟨elapsed, retired, left, heq, -, -⟩ := remaining_frame s call candidate reading
    rw [heq]
    have hframe : Inv config { s with lastElapsed := elapsed } := h.frame rfl (Nat.le_refl _) (List.Subset.refl _)
    refine hframe.setCall hcall ?_ ?_
    · rfl
    · have hinv := h.phase k call hcall
      unfold PhaseInv at hinv ⊢
      rw [hphase] at hinv
      exact hinv
  · exact h

theorem Keeps.consult : Keeps s (s.consult k reading) := by
  rw [HttpTaskCandidateHydration.consult]
  split
  · next call candidate hfound =>
    obtain ⟨hcall, hphase⟩ := candidate?_eq hfound
    obtain ⟨elapsed, retired, left, heq, helapsed, hretired⟩ := remaining_frame s call candidate reading
    rw [heq]
    have hframe : Keeps s { s with lastElapsed := elapsed } := Keeps.frame rfl (Nat.le_refl _) helapsed
    apply hframe.trans (Keeps.setCall hcall _)
    intro found hreturned
    rw [hphase] at hreturned
    cases hreturned
    exact ⟨rfl, _, rfl, rfl, hretired⟩
  · exact Keeps.refl s

theorem Inv.walked {next : Except String (Option Phase)} (h : Inv config s)
    (hcall : s.calls[k]? = some call)
    (hwalk : ∀ next', next = .ok next' → (next' = none ∧ Sound config view) ∨ ∃ names data stated rest,
      next' = some (.dataHash view names data stated rest) ∧ Awaiting config view names data stated rest) :
    Inv config (s.walked config k call view reading next) := by
  unfold HttpTaskCandidateHydration.walked
  split
  · exact h.settle hcall fun phase hphase => by cases hphase
  · next phase =>
    rcases hwalk _ rfl with ⟨hnone, -⟩ | ⟨names, data, stated, rest, hphase, hawaiting⟩
    · cases hnone
    · cases hphase
      apply h.settle hcall
      intro phase hphase
      rw [← Except.ok.inj hphase]
      exact hawaiting
  · rcases hwalk _ rfl with ⟨-, hsound⟩ | ⟨names, data, stated, rest, hphase, -⟩
    · split
      · apply h.settle hcall
        intro phase hphase
        obtain ⟨hverifier, hproof⟩ := failIf_bind_ok.mp hphase
        rw [Bool.or_eq_false_iff, Bool.not_eq_false'] at hverifier
        rw [← Except.ok.inj hproof]
        exact ⟨hsound, hverifier.2⟩
      · next hqualified => exact h.complete hcall hsound fun hsome => absurd hsome hqualified
    · cases hphase

theorem Keeps.walked {next : Except String (Option Phase)} (hcall : s.calls[k]? = some call)
    (hflight : ∀ candidate, call.phase ≠ .returned candidate) :
    Keeps s (s.walked config k call view reading next) := by
  unfold HttpTaskCandidateHydration.walked
  split
  · exact Keeps.settle hcall hflight
  · exact Keeps.settle hcall hflight
  split
  · exact Keeps.settle hcall hflight
  · exact Keeps.complete hcall hflight

theorem Inv.settle_plain (h : Inv config s) (hcall : s.calls[k]? = some call)
    (hplain : ∀ phase, result = .ok phase → phase = .responseHash ∨ (∃ digest, phase = .reply digest)
      ∨ ∃ digest view, phase = .requestHash digest view) : Inv config (s.settle k call result) := by
  apply h.settle hcall
  intro phase hphase
  rcases hplain phase hphase with rfl | ⟨digest, rfl⟩ | ⟨digest, view, rfl⟩ <;> trivial

theorem Inv.hashed (h : Inv config s) (hcall : s.calls[k]? = some call) :
    Inv config (s.hashed config k call reading) := by
  unfold HttpTaskCandidateHydration.hashed
  split
  · apply h.settle_plain hcall
    intro phase hphase
    obtain ⟨digest, -, hphase⟩ := sequence_ok.mp hphase
    rw [failIf_bind_ok, failIf_bind_ok] at hphase
    exact Or.inl (Except.ok.inj hphase.2.2).symm
  · apply h.settle_plain hcall
    intro phase hphase
    obtain ⟨digest, -, hphase⟩ := sequence_ok.mp hphase
    exact Or.inr (Or.inl ⟨digest, (Except.ok.inj (then_ok.mp hphase).2).symm⟩)
  · next candidateHash view hphase =>
    apply h.walked hcall
    intro next hnext
    obtain ⟨digest, -, hnext⟩ := sequence_ok.mp hnext
    rw [failIf_bind_ok, Bool.or_eq_false_iff, bne_eq_false_iff_eq, bne_eq_false_iff_eq] at hnext
    refine walk_ok ⟨(List.nil_append _).symm, ?_, Passed.nil, fun _ hmem => absurd hmem List.not_mem_nil⟩ hnext.2
    rw [length_declared]
    exact hnext.1.2
  · next view names data stated rest hphase =>
    apply h.walked hcall
    intro next hnext
    obtain ⟨digest, hdigest, hnext⟩ := sequence_ok.mp hnext
    rw [failIf_bind_ok, bne_eq_false_iff_eq] at hnext
    obtain ⟨rfl, hwalk⟩ := hnext
    have hawaiting := h.phase k call hcall
    unfold PhaseInv at hawaiting
    rw [hphase] at hawaiting
    obtain ⟨done, hwalking⟩ := awaiting_walking hawaiting hdigest
    exact walk_ok hwalking hwalk
  · exact h

theorem Keeps.hashed (hcall : s.calls[k]? = some call) : Keeps s (s.hashed config k call reading) := by
  unfold HttpTaskCandidateHydration.hashed
  split
  · next hphase => exact Keeps.settle hcall (not_returned hphase rfl)
  · next hphase => exact Keeps.settle hcall (not_returned hphase rfl)
  · next hphase => exact Keeps.walked hcall (not_returned hphase rfl)
  · next hphase => exact Keeps.walked hcall (not_returned hphase rfl)
  · exact Keeps.refl s

theorem Inv.replied {reply : Except String View} (h : Inv config s) (hcall : s.calls[k]? = some call) :
    Inv config (s.replied config k call reply reading) := by
  unfold HttpTaskCandidateHydration.replied
  split
  · apply h.settle_plain hcall
    intro phase hphase
    obtain ⟨view, -, hphase⟩ := sequence_ok.mp hphase
    obtain ⟨-, hphase⟩ := then_ok.mp hphase
    rw [failIf_bind_ok] at hphase
    exact Or.inr (Or.inr ⟨_, view, (Except.ok.inj hphase.2).symm⟩)
  · exact h

theorem Keeps.replied {reply : Except String View} (hcall : s.calls[k]? = some call) :
    Keeps s (s.replied config k call reply reading) := by
  unfold HttpTaskCandidateHydration.replied
  split
  · next hphase => exact Keeps.settle hcall (not_returned hphase rfl)
  · exact Keeps.refl s

theorem Inv.proved {proof : Except String (Option Rat)} (h : Inv config s) (hcall : s.calls[k]? = some call) :
    Inv config (s.proved k call proof reading) := by
  unfold HttpTaskCandidateHydration.proved
  split
  · next view started hphase hstarted =>
    have hproof := h.phase k call hcall
    unfold PhaseInv at hproof
    rw [hphase] at hproof
    split
    · next value _ =>
      have hframe : Inv config { s with acceptances := s.acceptances ++ [Acceptance.mk k call.saved view value] } :=
        h.frame rfl (Nat.le_refl _) (List.subset_append_left _ _)
      exact hframe.complete hcall hproof.1 fun _ => ⟨hproof.2, started, value,
        List.mem_append_right _ (List.mem_singleton.mpr rfl), hstarted, rfl⟩
    · exact h.settle hcall fun phase hphase => by cases hphase
  · exact h

theorem Keeps.proved {proof : Except String (Option Rat)} (hcall : s.calls[k]? = some call) :
    Keeps s (s.proved k call proof reading) := by
  unfold HttpTaskCandidateHydration.proved
  split
  · next view started hphase hstarted =>
    have hflight := not_returned hphase rfl
    split
    · next value _ =>
      have hframe : Keeps s { s with acceptances := s.acceptances ++ [Acceptance.mk k call.saved view value] } :=
        Keeps.frame rfl (Nat.le_refl _) fun l hl => ⟨l, hl, le_refl l⟩
      exact hframe.trans (Keeps.complete hcall hflight)
    · exact Keeps.settle hcall hflight
  · exact Keeps.refl s

theorem Inv.append (call : Call) (h : Inv config s) (hcalls : t.calls = s.calls ++ [call])
    (hgeneration : t.generation = s.generation) (hacceptances : t.acceptances = s.acceptances)
    (holder : ∀ (k : Nat) (older : Call), s.calls[k]? = some older → older.generation < s.generation)
    (hcall : call.generation = s.generation) (hphase : PhaseInv config s.acceptances s.calls.length call) :
    Inv config t := by
  have hsplit : ∀ (k : Nat) (found : Call), t.calls[k]? = some found →
      s.calls[k]? = some found ∨ k = s.calls.length ∧ found = call := by
    intro k found hfound
    rw [hcalls, List.getElem?_append] at hfound
    split at hfound
    · exact Or.inl hfound
    · next hge =>
      obtain ⟨hk, heq⟩ := List.getElem?_eq_some_iff.mp hfound
      rw [List.length_singleton] at hk
      have hzero : k - s.calls.length = 0 := by omega
      simp only [hzero, List.getElem_cons_zero] at heq
      exact Or.inr ⟨by omega, heq.symm⟩
  constructor
  · intro k found hfound
    rw [hgeneration, hcalls, List.length_append, List.length_singleton]
    rcases hsplit k found hfound with hold | ⟨rfl, rfl⟩
    · have hlt := holder k found hold
      exact ⟨by omega, fun heq => by omega⟩
    · exact ⟨by omega, fun _ => rfl⟩
  · intro k found hfound
    rw [hacceptances]
    rcases hsplit k found hfound with hold | ⟨rfl, rfl⟩
    · exact h.phase k found hold
    · exact hphase

theorem Keeps.append (hcalls : t.calls = s.calls ++ [call]) (hgeneration : s.generation ≤ t.generation)
    (helapsed : ∀ l, s.lastElapsed = some l → ∃ m, t.lastElapsed = some m ∧ l ≤ m) : Keeps s t := by
  refine ⟨hgeneration, helapsed, fun k found candidate hfound hphase => ⟨found, ?_, .same hphase⟩⟩
  obtain ⟨hk, -⟩ := List.getElem?_eq_some_iff.mp hfound
  rw [hcalls, List.getElem?_append_left hk, hfound]

theorem older_of_retired (h : Inv config s) {older : Call} (hcall : s.retireFacts.calls[k]? = some older) :
    older.generation < s.retireFacts.generation := by
  have hbefore : ∀ {t : HttpTaskCandidateHydration}, Inv config t → t.generation = s.generation →
      t.calls[k]? = some older → older.generation < s.generation + 1 := by
    intro t ht hgeneration hfound
    have hle := (ht.generation k older hfound).1
    omega
  rw [(calls_retireFacts s).2]
  rw [HttpTaskCandidateHydration.retireFacts] at hcall
  cases hactive : s.active with
  | none =>
    rw [hactive] at hcall
    exact hbefore h rfl hcall
  | some j =>
    rw [hactive] at hcall
    have habort : (s.abortCall j "Source task candidate retired").generation = s.generation := by
      rw [HttpTaskCandidateHydration.abortCall]
      split <;> rfl
    exact hbefore (h.abortCall (k := j)) habort hcall

theorem Inv.qualifySaved {input : SavedResponseDraft} {signal : Option String} (h : Inv config s) :
    Inv config (s.qualifySaved config input signal reading) := by
  unfold HttpTaskCandidateHydration.qualifySaved
  dsimp only
  split
  · exact h.retireFacts.append _ rfl rfl rfl (fun k older hold => older_of_retired h hold) rfl trivial
  · refine h.retireFacts.append _ rfl rfl rfl (fun k older hold => older_of_retired h hold) rfl ?_
    unfold PhaseInv
    dsimp only
    by_cases hmismatch : savedMismatch config input = true
    · rw [if_pos hmismatch]
      trivial
    · rw [if_neg hmismatch]
      trivial

theorem Keeps.qualifySaved {input : SavedResponseDraft} {signal : Option String} :
    Keeps s (s.qualifySaved config input signal reading) := by
  apply Keeps.retireFacts.trans
  unfold HttpTaskCandidateHydration.qualifySaved
  dsimp only
  split
  · exact Keeps.append rfl (Nat.le_refl _) fun l hl => ⟨l, hl, le_refl l⟩
  · next started hchecked =>
    refine Keeps.append rfl (Nat.le_refl _) fun l hl => ⟨started, rfl, ?_⟩
    exact (now_ok (then_ok.mp hchecked).2).2 l hl

theorem Inv.initial : Inv config initial :=
  ⟨fun _ _ h => (by cases h), fun _ _ h => (by cases h)⟩

theorem Inv.step {event : Event} (h : Inv config s) : Inv config (s.step config event) := by
  have hat : ∀ (k : Nat) (go : Call → HttpTaskCandidateHydration),
      (∀ call, s.calls[k]? = some call → Inv config (go call)) → Inv config (s.atCall k go) := by
    intro k go hgo
    rw [atCall]
    split
    · exact hgo _ ‹_›
    · exact h
  cases event with
  | qualifySaved input signal reading => exact h.qualifySaved
  | retireFacts => exact h.retireFacts
  | dispose => exact h.retireFacts.frame rfl (Nat.le_refl _) (List.Subset.refl _)
  | abortLifetime reason => exact h.abortLifetime
  | abortCall k reason => exact h.abortCall
  | hashed k reading => exact hat k _ fun call hcall => h.hashed hcall
  | replied k reply reading => exact hat k _ fun call hcall => h.replied hcall
  | proved k proof reading => exact hat k _ fun call hcall => h.proved hcall
  | consult k reading => exact h.consult

theorem Keeps.step {event : Event} : Keeps s (s.step config event) := by
  have hat : ∀ (k : Nat) (go : Call → HttpTaskCandidateHydration),
      (∀ call, s.calls[k]? = some call → Keeps s (go call)) → Keeps s (s.atCall k go) := by
    intro k go hgo
    rw [atCall]
    split
    · exact hgo _ ‹_›
    · exact Keeps.refl s
  cases event with
  | qualifySaved input signal reading => exact Keeps.qualifySaved
  | retireFacts => exact Keeps.retireFacts
  | dispose => exact Keeps.retireFacts.trans (Keeps.frame rfl (Nat.le_refl _) fun l hl => ⟨l, hl, le_refl l⟩)
  | abortLifetime reason => exact Keeps.abortLifetime
  | abortCall k reason => exact Keeps.abortCall
  | hashed k reading => exact hat k _ fun call hcall => Keeps.hashed hcall
  | replied k reply reading => exact hat k _ fun call hcall => Keeps.replied hcall
  | proved k proof reading => exact hat k _ fun call hcall => Keeps.proved hcall
  | consult k reading => exact Keeps.consult

theorem Inv.run (h : Inv config s) (events : List Event) : Inv config (s.run config events) := by
  induction events generalizing s with
  | nil => exact h
  | cons event events ih => exact ih h.step

theorem Keeps.run (events : List Event) : Keeps s (s.run config events) := by
  induction events generalizing s with
  | nil => exact Keeps.refl s
  | cons event events ih => exact Keeps.step.trans ih

/-! ## Currency -/

theorem current_ok {left : Option Rat} : current (.ok left) = .ok () ↔ left ≠ some 0 := by
  rw [current, ← beq_eq_false_iff_ne]
  exact failIf_ok

theorem assertCurrent_ok (h : s.assertCurrent k reading = .ok ()) :
    ∃ (call : Call) (candidate : Candidate) (value : Rat), s.calls[k]? = some call ∧ call.phase = .returned candidate
      ∧ candidate.retired = none ∧ s.check call reading = .ok () ∧ s.now reading = .ok value
      ∧ ∀ deadline, candidate.deadline = some deadline → value < deadline := by
  rw [assertCurrent] at h
  split at h
  · next call candidate hfound =>
    obtain ⟨hcall, hphase⟩ := candidate?_eq hfound
    rcases remaining_cases s call candidate reading with
      ⟨error, -, heq⟩ | ⟨value, hretired, hcheck, hnow, heq⟩ | ⟨error, heq⟩
    · rw [heq] at h
      cases h
    · rw [heq, current_ok] at h
      refine ⟨call, candidate, value, hcall, hphase, hretired, hcheck, hnow, fun deadline hdeadline => ?_⟩
      by_contra hlate
      apply h
      rw [hdeadline, Option.map_some, Option.some.injEq]
      exact max_eq_left (sub_nonpos.mpr (not_lt.mp hlate))
    · rw [heq] at h
      cases h
  · cases h

/-- A candidate that will not pass again: it is of an older generation, it is retired, or the clock has
reached its deadline. -/
def Dead (s : HttpTaskCandidateHydration) (k : Nat) : Prop :=
  ∃ (call : Call) (candidate : Candidate), s.calls[k]? = some call ∧ call.phase = .returned candidate
    ∧ (call.generation < s.generation ∨ candidate.retired.isSome ∨ ∃ deadline l,
      candidate.deadline = some deadline ∧ s.lastElapsed = some l ∧ deadline ≤ l)

theorem Dead.keeps (h : Dead s k) (hkeeps : Keeps s t) : Dead t k := by
  obtain ⟨call, candidate, hcall, hphase, hdead⟩ := h
  obtain ⟨call', hcall', hgeneration, candidate', hphase', hdeadline, hretired⟩ :=
    hkeeps.candidates k call candidate hcall hphase
  refine ⟨call', candidate', hcall', hphase', hdead.imp ?_ (Or.imp hretired ?_)⟩
  · intro holder
    have hle := hkeeps.generation
    omega
  · rintro ⟨deadline, l, heq, hl, hle⟩
    obtain ⟨m, hm, hle'⟩ := hkeeps.elapsed l hl
    exact ⟨deadline, m, hdeadline.trans heq, hm, le_trans hle hle'⟩

theorem Dead.fails (h : Dead s k) : s.assertCurrent k reading ≠ .ok () := by
  intro hpass
  obtain ⟨call, candidate, hcall, hphase, hdead⟩ := h
  obtain ⟨call', candidate', value, hcall', hphase', hretired, hcheck, hnow, hdeadline⟩ := assertCurrent_ok hpass
  rw [hcall, Option.some.injEq] at hcall'
  subst hcall'
  rw [hphase] at hphase'
  cases hphase'
  rcases hdead with holder | hsome | ⟨deadline, l, heq, hl, hle⟩
  · have hgeneration := (check_ok hcheck).2.2.2
    omega
  · rw [hretired] at hsome
    cases hsome
  · have hlt := hdeadline deadline heq
    have hwatermark := (now_ok hnow).2 l hl
    exact absurd (lt_of_lt_of_le hlt hle) (not_lt.mpr hwatermark)

theorem dead_of_failed (hcandidate : (s.candidate? k).isSome) (h : s.assertCurrent k reading ≠ .ok ()) :
    Dead (s.consult k reading) k := by
  obtain ⟨⟨call, candidate⟩, hfound⟩ := Option.isSome_iff_exists.mp hcandidate
  obtain ⟨hcall, hphase⟩ := candidate?_eq hfound
  rw [assertCurrent, hfound] at h
  rw [HttpTaskCandidateHydration.consult, hfound]
  dsimp only at h ⊢
  rcases remaining_cases s call candidate reading with
    ⟨error, hretired, heq⟩ | ⟨value, -, -, -, heq⟩ | ⟨error, heq⟩
  · rw [heq]
    exact ⟨_, candidate, (getElem?_setCall hcall).trans (if_pos rfl), rfl, Or.inr (Or.inl (by rw [hretired]; rfl))⟩
  · rw [heq] at h ⊢
    rw [ne_eq, current_ok, not_not] at h
    refine ⟨_, candidate, (getElem?_setCall hcall).trans (if_pos rfl), rfl, Or.inr (Or.inr ?_)⟩
    obtain ⟨deadline, hdeadline, hleft⟩ := Option.map_eq_some_iff.mp h
    exact ⟨deadline, value, hdeadline, rfl, sub_nonpos.mp (max_eq_left_iff.mp hleft)⟩
  · rw [heq]
    exact ⟨_, _, (getElem?_setCall hcall).trans (if_pos rfl), rfl, Or.inr (Or.inl rfl)⟩

theorem dead_of_retired (h : Inv config s) (hcandidate : (s.candidate? k).isSome) : Dead s.retireFacts k := by
  obtain ⟨⟨call, candidate⟩, hfound⟩ := Option.isSome_iff_exists.mp hcandidate
  obtain ⟨hcall, hphase⟩ := candidate?_eq hfound
  obtain ⟨call', hcall', -, candidate', hphase', -⟩ := Keeps.retireFacts.candidates k call candidate hcall hphase
  exact ⟨call', candidate', hcall', hphase', Or.inl (older_of_retired h hcall')⟩

/-- The results of a candidate cover the definition's sources, and what is qualified was verified. -/
def Qualified (config : HttpTaskCandidateHydrationConfig) (s : HttpTaskCandidateHydration) (k : Nat) (call : Call)
    (candidate : Candidate) : Prop :=
  (candidate.view.results.map named).Perm (declared config.definition)
    ∧ (∀ result ∈ candidate.view.results, ∀ name source data dataHash evidence issued expires,
        result = .qualified name source data dataHash evidence issued expires →
        config.platform.hash data = .ok dataHash)
    ∧ (candidate.view.results.any (·.isQualified) = true →
        config.receiptVerifier = true ∧ ∃ started valid, ⟨k, call.saved, candidate.view, valid⟩ ∈ s.acceptances
          ∧ call.started = some started ∧ candidate.deadline = some (started + valid))

theorem Inv.qualified {candidate : Candidate} (h : Inv config s) (hcall : s.calls[k]? = some call)
    (hphase : call.phase = .returned candidate) : Qualified config s k call candidate := by
  have hinv := h.phase k call hcall
  unfold PhaseInv at hinv
  rw [hphase] at hinv
  refine ⟨hinv.1.covers, ?_, hinv.2⟩
  rintro result hresult name source data dataHash evidence issued expires rfl
  exact hinv.1.stated _ hresult

/-- In every run: a returned candidate is qualified; a candidate passes only as that of the last call that
was begun, while nothing has retired it and the clock is below its deadline; where it fails once, it fails
in every run that follows, and so it does once the facts are retired. -/
theorem candidate_facts (config : HttpTaskCandidateHydrationConfig) (events : List Event) (k : Nat)
    (reading : Reading) (s : HttpTaskCandidateHydration) (hs : s = initial.run config events) :
    (∀ (call : Call) (candidate : Candidate), s.calls[k]? = some call → call.phase = .returned candidate →
        Qualified config s k call candidate)
      ∧ (s.assertCurrent k reading = .ok () → k + 1 = s.calls.length ∧ s.disposed = false
        ∧ s.lifetimeAborted = none ∧ ∃ (call : Call) (candidate : Candidate) (now : Rat), s.calls[k]? = some call
          ∧ call.phase = .returned candidate ∧ call.aborted = none ∧ reading.now = some now
          ∧ (candidate.view.results.any (·.isQualified) = true → ∃ started valid,
              ⟨k, call.saved, candidate.view, valid⟩ ∈ s.acceptances ∧ call.started = some started
                ∧ now < started + valid))
      ∧ ((s.candidate? k).isSome → ∀ (later : List Event) (reading' : Reading),
          (s.assertCurrent k reading ≠ .ok () →
              ((s.consult k reading).run config later).assertCurrent k reading' ≠ .ok ())
            ∧ (s.retireFacts.run config later).assertCurrent k reading' ≠ .ok ()) := by
  have hinv : Inv config s := hs ▸ Inv.initial.run events
  refine ⟨fun call candidate hcall hphase => hinv.qualified hcall hphase, ?_, ?_⟩
  · intro hpass
    obtain ⟨call, candidate, now, hcall, hphase, -, hcheck, hnow, hdeadline⟩ := assertCurrent_ok hpass
    obtain ⟨haborted, hdisposed, hlifetime, hgeneration⟩ := check_ok hcheck
    refine ⟨(hinv.generation k call hcall).2 hgeneration, hdisposed, hlifetime, call, candidate, now, hcall, hphase,
      haborted, (now_ok hnow).1, fun hqualified => ?_⟩
    obtain ⟨-, started, valid, hmem, hstarted, heq⟩ := (hinv.qualified hcall hphase).2.2 hqualified
    exact ⟨started, valid, hmem, hstarted, hdeadline _ heq⟩
  · intro hcandidate later reading'
    refine ⟨fun hfail => ?_, ?_⟩
    · exact ((dead_of_failed hcandidate hfail).keeps (Keeps.run later)).fails
    · exact ((dead_of_retired hinv hcandidate).keeps (Keeps.run later)).fails

section

/-- A definition with one instance, `facts`, whose source is `screening`. -/
def sampleDefinition : Value :=
  .object [("instances", .object [("facts", .object [("source", .string "screening")])])]

def sampleHash (value : Value) : String := "sha256:" ++ String.ofList (canonicalText value)

def samplePlatform : HydrationPlatform :=
  ⟨fun value => String.ofList (canonicalText value), fun value => .ok (sampleHash value)⟩

def sampleSelection : Selection :=
  ⟨.string "scope", "version", "form", "1", sampleHash sampleDefinition, ["screening"],
    .object [("formVersionId", .string "version")]⟩

def sampleConfig : HttpTaskCandidateHydrationConfig :=
  ⟨samplePlatform, sampleDefinition, sampleSelection, "version-hash", ⟨1, "association", "binding"⟩, "subject",
    ⟨"issuer", "person", none⟩, true⟩

def sampleData : Value := .object [("name", .string "Ada")]

def sampleResponse : Value := .object [("data", sampleData), ("status", .string "in-progress")]

def sampleSaved : SavedResponseDraft :=
  ⟨"subject", "subject", "form", "1", "draft", 1, "form", "1", sampleResponse, sampleData,
    some ⟨1, "association", "binding"⟩, "subject", "version", "in_progress", "draft", 1, sampleResponse, sampleData⟩

def sampleOwner : Owner :=
  ⟨"session", "subject", some ⟨"subject", "session", ⟨"issuer", "person", none⟩⟩,
    .object [("sessionId", .string "session")]⟩

def sampleFacts : Value := .object [("resident", .bool true)]

/-- The view that answers a request of the given hash. -/
def viewOf (requestHash : String) : View :=
  ⟨sampleSelection.scope, sampleSelection.value, sampleOwner, "version-hash", "draft", 1,
    sampleHash sampleResponse, sourcesValue sampleDefinition, requestHash,
    [.qualified "facts" "screening" sampleFacts (sampleHash sampleFacts) "evidence" "issued" "expires"],
    some (.object [("providerId", .string "screener")])⟩

def sampleView : View :=
  viewOf (sampleHash (requestValue sampleConfig sampleSaved (sampleHash sampleResponse) (viewOf "")))

def sampleReading (now : Rat) : Reading := ⟨.ok (), .ok (), .ok (), some now⟩

def sampleEvents : List Event :=
  [.qualifySaved sampleSaved none (sampleReading 0), .hashed 0 (sampleReading 1), .hashed 0 (sampleReading 2),
    .replied 0 (.ok sampleView) (sampleReading 3), .hashed 0 (sampleReading 4), .hashed 0 (sampleReading 5),
    .proved 0 (.ok (some 50)) (sampleReading 6)]

theorem sample_passes : (initial.run sampleConfig sampleEvents).assertCurrent 0 (sampleReading 49) = .ok () := by
  decide +kernel

theorem sample_returned : ((initial.run sampleConfig sampleEvents).candidate? 0).isSome := by
  have hpass := sample_passes
  rw [assertCurrent] at hpass
  split at hpass
  · next hfound => exact Option.isSome_of_eq_some hfound
  · cases hpass

theorem candidate_facts_of_sample :
    (initial.run sampleConfig sampleEvents).assertCurrent 0 (sampleReading 49) = .ok ()
      ∧ 0 + 1 = (initial.run sampleConfig sampleEvents).calls.length
      ∧ ∀ later reading, ((initial.run sampleConfig sampleEvents).retireFacts.run sampleConfig later).assertCurrent 0
          reading ≠ .ok () := by
  obtain ⟨-, hpass, hfail⟩ := candidate_facts sampleConfig sampleEvents 0 (sampleReading 49) _ rfl
  exact ⟨sample_passes, (hpass sample_passes).1, fun later reading => (hfail sample_returned later reading).2⟩

end

end FormspecWeb.Hydration
