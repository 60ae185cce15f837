import FormspecWeb.Async.History
import FormspecWeb.Photo.ProviderHandler

/-!
# One job at a time

No work of another request is left while a request is served, since a handler that leaves work
behind takes no further request. A result is sent behind both checks of the token and the receipt
of exactly this request; what can forge one is a failure that carries the status itself.
-/

namespace FormspecWeb.Photo

open Async

/-- A result of the request is earned: by two checks of its token and the store of its receipt, with
no abort. -/
def Earned (request : Nat) (call : Option (String × String)) (older : List ProviderEntry) : Prop :=
  ∃ receipt, call = some (receipt.binding.requestHash, receipt.binding.callHash)
    ∧ .resolved request .token ∈ older
    ∧ .resolved request (.receipt receipt) ∈ older
    ∧ .resolved request (.recheck receipt) ∈ older
    ∧ .aborted request ∉ older

def Lawful : ProviderEntry → List ProviderEntry → Prop
  | .replied request status call, older =>
    ((∃ other, .retired other ∈ older) → status = 503) ∧ (status = 200 → Earned request call older)
  | _, _ => True

namespace ProviderHandler

variable {Body : Type} {config : ProviderConfig Body} {s t : ProviderHandler} {request : Nat}
  {job : Job}

def LawfulLog (s : ProviderHandler) : Prop := Throughout Lawful s.log

/-- While a request is served no work of another is left; behind a request that left work, every
other is refused. -/
structure OneJob (config : ProviderConfig Body) (s : ProviderHandler) : Prop where
  others : ∀ request job, s.jobs[request]? = some job → job.stage ≠ .ended →
    ∀ work ∈ s.works, work.settled = none → work.request = request
  children : ∀ work ∈ s.works, work.decoder ≠ none → work.settled = none
  retires : ∀ work ∈ s.works, work.settled = none → ∀ job, s.jobs[work.request]? = some job →
    job.stage = .ended → ∃ request, .retired request ∈ s.log
  refuses : (∃ request, .retired request ∈ s.log) → ∀ head now,
    (s.arrive config head now .writable).log
      = .replied s.jobs.length 503 none :: .arrived s.jobs.length :: s.log

/-- The request fails with the status of what it waited for, which Node writes as that of a result,
and its response takes the reply. -/
def Forges (config : ProviderConfig Body) (s : ProviderHandler) (request : Nat) : Prop :=
  ∃ job number work status, s.jobs[request]? = some job
    ∧ job.stage = .waiting number (some (.rejected status)) ∧ failureStatus status = 200
    ∧ s.works[number]? = some work
    ∧ work.kind.checksToken = false
    ∧ job.response = .writable ∧ errorBytes "provider request refused" ≤ config.responseBytes

def Genuine (config : ProviderConfig Body) (s : ProviderHandler) : Event → Prop
  | .resume request _ => ¬ Forges config s request
  | _ => True

/-! ## The invariant -/

/-- The request has the slot of the handler, and all work left is its own. -/
structure Slot (s : ProviderHandler) (request : Nat) : Prop where
  occupied : s.occupied = true
  unretired : s.quarantined = false
  lt : request < s.jobs.length
  jobs : ∀ other job, s.jobs[other]? = some job → job.stage ≠ .ended → other = request
  works : ∀ work ∈ s.works, work.settled = none → work.request = request

/-- No request has the slot, and no work is left, except behind a retirement. -/
structure Idle (s : ProviderHandler) : Prop where
  free : s.occupied = false
  jobs : ∀ job ∈ s.jobs, job.stage = .ended
  works : s.quarantined = false → ∀ work ∈ s.works, work.settled ≠ none

def Progress (log : List ProviderEntry) (request : Nat) : WorkKind → Prop
  | .token => True
  | .containment | .measure _ | .receipt _ => .resolved request .token ∈ log
  | .recheck receipt =>
    .resolved request .token ∈ log ∧ .resolved request (.receipt receipt) ∈ log

def StageInv (works : List Work) (log : List ProviderEntry) (request : Nat) (job : Job) : Prop :=
  match job.stage with
  | .waiting number race => (job.aborted = false → .aborted request ∉ log)
      ∧ ∃ work, works[number]? = some work ∧ work.request = request
        ∧ Progress log request work.kind
        ∧ ∀ decoding, race = some (.resolved decoding) → .resolved request work.kind ∈ log
  | .reading _ => (job.aborted = false → .aborted request ∉ log) ∧ .resolved request .token ∈ log
  | .draining | .ended => True

structure Base (s : ProviderHandler) : Prop where
  retired : s.quarantined = true ↔ ∃ request, .retired request ∈ s.log
  children : ∀ work ∈ s.works, work.decoder ≠ none → work.settled = none
  fresh : ∀ request, .aborted request ∈ s.log → request < s.jobs.length

structure Inv (s : ProviderHandler) : Prop where
  base : s.Base
  slot : (∃ request, s.Slot request) ∨ s.Idle
  busy : s.occupied = true → ∃ job ∈ s.jobs, job.stage ≠ .ended
  stages : ∀ request job, s.jobs[request]? = some job → StageInv s.works s.log request job

def SameWorks (works works' : List Work) : Prop :=
  ∀ (number : Nat) (work : Work), works[number]? = some work →
    ∃ later : Work, works'[number]? = some later ∧ later.request = work.request
      ∧ later.kind = work.kind

theorem sameWorks_refl (works : List Work) : SameWorks works works :=
  fun _ work h => ⟨work, h, rfl, rfl⟩

variable {kind : WorkKind}

theorem Progress.mono {log log' : List ProviderEntry} (hlog : ∀ entry ∈ log, entry ∈ log')
    (h : Progress log request kind) : Progress log' request kind := by
  cases kind with
  | token => trivial
  | recheck receipt => exact ⟨hlog _ h.1, hlog _ h.2⟩
  | _ => exact hlog _ h

theorem StageInv.mono {works works' : List Work} {log log' : List ProviderEntry}
    (h : StageInv works log request job) (hworks : SameWorks works works')
    (hlog : ∀ entry ∈ log, entry ∈ log')
    (haborted : .aborted request ∈ log' → .aborted request ∈ log) :
    StageInv works' log' request job := by
  unfold StageInv at h ⊢
  split at h
  · obtain ⟨hopen, work, hwork, hrequest, hprogress, hresolved⟩ := h
    obtain ⟨later, hlater, hsame, hkind⟩ := hworks _ work hwork
    refine ⟨fun hjob habort => hopen hjob (haborted habort), later, hlater, hsame.trans hrequest, ?_, ?_⟩
    · rw [hkind]
      exact hprogress.mono hlog
    · intro decoding hrace
      rw [hkind]
      exact hlog _ (hresolved decoding hrace)
  · exact ⟨fun hjob habort => h.1 hjob (haborted habort), hlog _ h.2⟩
  · trivial
  · trivial

theorem Slot.stages (h : s.Slot request)
    (hown : ∀ job, s.jobs[request]? = some job → StageInv s.works s.log request job) :
    ∀ other job, s.jobs[other]? = some job → StageInv s.works s.log other job := by
  intro other job hjob
  by_cases hended : job.stage = .ended
  · unfold StageInv
    rw [hended]
    trivial
  · obtain rfl := h.jobs other job hjob hended
    exact hown job hjob

theorem Idle.stages (h : s.Idle) :
    ∀ other job, s.jobs[other]? = some job → StageInv s.works s.log other job := by
  intro other job hjob
  unfold StageInv
  rw [h.jobs job (List.mem_of_getElem? hjob)]
  trivial

theorem Slot.unretired_log (hbase : s.Base) (h : s.Slot request) :
    ¬ ∃ other, .retired other ∈ s.log := by
  intro hretired
  have hquarantined := hbase.retired.mpr hretired
  rw [h.unretired] at hquarantined
  cases hquarantined

theorem getElem?_put {other : Nat} {found : Job} (h : (s.put request job).jobs[other]? = some found) :
    (other = request ∧ found = job) ∨ (other ≠ request ∧ s.jobs[other]? = some found) := by
  unfold put at h
  rw [List.getElem?_set] at h
  split at h
  · next heq =>
    split at h
    · exact Or.inl ⟨heq.symm, (Option.some.inj h).symm⟩
    · cases h
  · next hne => exact Or.inr ⟨fun heq => hne heq.symm, h⟩

theorem Slot.put (h : s.Slot request) (job : Job) : (s.put request job).Slot request where
  __ := h
  lt := by
    unfold ProviderHandler.put
    rw [List.length_set]
    exact h.lt
  jobs := by
    intro other found hfound hne
    rcases getElem?_put hfound with ⟨rfl, -⟩ | ⟨-, hold⟩
    · rfl
    · exact h.jobs other found hold hne

theorem Base.put (h : s.Base) (job : Job) : (s.put request job).Base where
  __ := h
  fresh := by
    intro other hother
    unfold ProviderHandler.put
    rw [List.length_set]
    exact h.fresh other hother

theorem mem_put (h : request < s.jobs.length) (job : Job) : job ∈ (s.put request job).jobs :=
  List.mem_set h job

theorem inv_put (hbase : s.Base) (h : s.Slot request) (hne : job.stage ≠ .ended)
    (hstage : StageInv s.works s.log request job) : (s.put request job).Inv where
  base := hbase.put job
  slot := Or.inl ⟨request, h.put job⟩
  busy := fun _ => ⟨job, mem_put h.lt job, hne⟩
  stages := by
    apply (h.put job).stages
    intro found hfound
    rcases getElem?_put hfound with ⟨-, rfl⟩ | ⟨hne, -⟩
    · exact hstage
    · exact absurd rfl hne

theorem inv_wait (hbase : s.Base) (h : s.Slot request)
    (haborted : job.aborted = false → .aborted request ∉ s.log)
    (hprogress : Progress s.log request kind) (decoder : Option Decoder) :
    (s.wait request job kind decoder).Inv := by
  unfold wait
  apply inv_put
  · refine ⟨hbase.retired, ?_, hbase.fresh⟩
    intro work hwork hchild
    rcases List.mem_append.mp hwork with hold | hnew
    · exact hbase.children work hold hchild
    · rw [List.mem_singleton.mp hnew]
  · refine ⟨h.occupied, h.unretired, h.lt, h.jobs, ?_⟩
    intro work hwork hunsettled
    rcases List.mem_append.mp hwork with hold | hnew
    · exact h.works work hold hunsettled
    · rw [List.mem_singleton.mp hnew]
  · simp
  · unfold StageInv
    refine ⟨haborted, ⟨request, kind, decoder, none⟩, ?_, rfl, hprogress, nofun⟩
    simp

theorem reply_cases (config : ProviderConfig Body) (s : ProviderHandler) (request : Nat) (job : Job)
    (status bytes : Nat) (call : Option (String × String)) :
    ∃ response log, s.reply config request job status bytes call
        = { s.put request { job with response := response } with log := log }
      ∧ (log = s.log ∨ log = .replied request 503 none :: s.log
        ∨ log = .replied request status call :: s.log) := by
  unfold reply
  split
  · exact ⟨job.response, s.log, rfl, Or.inl rfl⟩
  split
  · exact ⟨.ended, _, rfl, Or.inr (Or.inl rfl)⟩
  split
  · exact ⟨job.response, s.log, rfl, Or.inl rfl⟩
  · exact ⟨.ended, _, rfl, Or.inr (Or.inr rfl)⟩

theorem getElem?_put_self (h : request < s.jobs.length) :
    (s.put request job).jobs[request]? = some job := by
  unfold put
  rw [List.getElem?_set_self h]

theorem log_settle (s : ProviderHandler) (request : Nat) : (s.settle request).log = s.log := by
  unfold settle
  split
  · rfl
  · split <;> rfl

section

variable (hbase : s.Base) (h : s.Slot request)
include hbase h

theorem inv_finish (job : Job) (status bytes : Nat) (call : Option (String × String)) :
    ((s.reply config request job status bytes call).settle request).Inv := by
  obtain ⟨response, log, heq, hlog⟩ := reply_cases config s request job status bytes call
  rw [heq]
  have hbase' : ({ s.put request { job with response := response } with log := log } :
      ProviderHandler).Base := by
    have hmem : ∀ entry, (∀ other status call, entry ≠ .replied other status call) →
        (entry ∈ log ↔ entry ∈ s.log) := by
      intro entry hentry
      rcases hlog with rfl | rfl | rfl
      · exact Iff.rfl
      · simp [hentry]
      · simp [hentry]
    have hput : (s.put request { job with response := response }).Base := hbase.put _
    refine ⟨?_, hput.children, ?_⟩
    · refine hput.retired.trans (exists_congr fun other => ?_)
      exact (hmem (.retired other) (by simp)).symm
    · intro other hother
      exact hput.fresh other ((hmem (.aborted other) (by simp)).mp hother)
  have hslot' : ({ s.put request { job with response := response } with log := log } :
      ProviderHandler).Slot request := by
    have hput := h.put { job with response := response }
    exact ⟨hput.occupied, hput.unretired, hput.lt, hput.jobs, hput.works⟩
  unfold settle
  rw [show ({ s.put request { job with response := response } with log := log } :
      ProviderHandler).jobs[request]? = some { job with response := response } from
    getElem?_put_self h.lt]
  simp only
  split
  · exact inv_put hbase' hslot' (by simp) trivial
  · next hleft =>
    have hidle : (({ s.put request { job with response := response } with
        log := log, occupied := false } : ProviderHandler).put request
          { job with response := response, stage := .ended }).Idle := by
      refine ⟨rfl, ?_, fun _ work hwork hunsettled => ?_⟩
      · intro found hfound
        obtain ⟨other, hother⟩ := List.getElem?_of_mem hfound
        rcases getElem?_put hother with ⟨-, rfl⟩ | ⟨hne, hold⟩
        · rfl
        · by_contra hended
          exact hne (hslot'.jobs other found hold hended)
      · apply hleft
        unfold hasUnsettled
        rw [List.any_eq_true]
        refine ⟨work, hwork, ?_⟩
        rw [h.works work hwork hunsettled, hunsettled]
        simp
    exact ⟨⟨hbase'.retired, hbase'.children, (hbase'.put _).fresh⟩, Or.inr hidle,
      nofun, hidle.stages⟩

section

variable (haborted : job.aborted = false → .aborted request ∉ s.log)
include haborted

theorem inv_store (htoken : .resolved request .token ∈ s.log) (binding : Binding)
    (decoding : Option DecoderResult) (reading : Reading) :
    (s.store config request job binding decoding reading).Inv := by
  unfold store
  split
  · exact inv_finish hbase h job _ _ _
  · refine inv_wait hbase h haborted ?_ none
    exact htoken

theorem inv_bind
    (htoken : .resolved request .token ∈ s.log) (bytes : List UInt8) (reading : Reading) :
    (s.bind config request job bytes reading).Inv := by
  unfold bind
  split
  · exact inv_finish hbase h job _ _ _
  split
  · exact inv_finish hbase h job _ _ _
  split
  · exact inv_finish hbase h job _ _ _
  split
  · exact inv_finish hbase h job _ _ _
  split
  · refine inv_wait hbase h haborted ?_ _
    exact htoken
  · exact inv_store hbase h haborted htoken _ _ _

theorem inv_proceed
    (hprogress : Progress s.log request kind) (hresolved : .resolved request kind ∈ s.log)
    (decoding : Option DecoderResult) (reading : Reading) :
    (s.proceed config request job decoding reading kind).Inv := by
  cases kind with
  | token =>
    refine inv_wait hbase h haborted ?_ none
    exact hresolved
  | containment => exact inv_put hbase h (by simp) ⟨haborted, hprogress⟩
  | measure binding => exact inv_store hbase h haborted hprogress binding decoding reading
  | receipt receipt =>
    refine inv_wait hbase h haborted ?_ none
    exact ⟨hprogress, hresolved⟩
  | recheck receipt => exact inv_finish hbase h job _ _ _

theorem inv_resume {race : Settled} (hprogress : Progress s.log request kind)
    (hresolved : ∀ decoding, race = .resolved decoding → .resolved request kind ∈ s.log)
    (reading : Reading) : (s.resume config request job kind race reading).Inv := by
  unfold resume
  split
  · exact inv_finish hbase h job _ _ _
  · exact inv_finish hbase h job _ _ _
  · exact inv_finish hbase h job _ _ _
  · next decoding =>
    split
    · exact inv_finish hbase h job _ _ _
    · exact inv_proceed hbase h haborted hprogress (hresolved decoding rfl) decoding reading

theorem inv_receive
    (htoken : .resolved request .token ∈ s.log) (body chunk : List UInt8) (now : Rat) :
    (s.receive config request job body chunk now).Inv := by
  unfold receive
  split
  · exact inv_finish hbase h job _ _ _
  split
  · exact inv_finish hbase h job _ _ _
  · exact inv_put hbase h (by simp) ⟨haborted, htoken⟩

end

end

theorem Inv.slot_of (hs : s.Inv) (hjob : s.jobs[request]? = some job) (hne : job.stage ≠ .ended) :
    s.Slot request := by
  rcases hs.slot with ⟨other, hslot⟩ | hidle
  · obtain rfl := hslot.jobs request job hjob hne
    exact hslot
  · exact absurd (hidle.jobs job (List.mem_of_getElem? hjob)) hne

/-! ## Arrivals -/

theorem inv_same (hs : s.Inv) {old : Job} (hold : s.jobs[request]? = some old)
    (hstage : job.stage = old.stage) (haborted : job.aborted = old.aborted) :
    (s.put request job).Inv := by
  have hstages : StageInv s.works s.log request job := by
    have := hs.stages request old hold
    unfold StageInv at this ⊢
    rw [hstage, haborted]
    exact this
  by_cases hended : old.stage = .ended
  · refine ⟨hs.base.put job, ?_, ?_, ?_⟩
    · rcases hs.slot with ⟨other, hslot⟩ | hidle
      · left
        refine ⟨other, hslot.occupied, hslot.unretired, ?_, ?_, hslot.works⟩
        · unfold put
          rw [List.length_set]
          exact hslot.lt
        · intro number found hfound hne
          rcases getElem?_put hfound with ⟨-, rfl⟩ | ⟨-, hfound⟩
          · exact absurd (hstage.trans hended) hne
          · exact hslot.jobs number found hfound hne
      · right
        refine ⟨hidle.free, ?_, hidle.works⟩
        intro found hfound
        obtain ⟨number, hnumber⟩ := List.getElem?_of_mem hfound
        rcases getElem?_put hnumber with ⟨-, rfl⟩ | ⟨-, hnumber⟩
        · exact hstage.trans hended
        · exact hidle.jobs found (List.mem_of_getElem? hnumber)
    · intro hoccupied
      obtain ⟨found, hfound, hne⟩ := hs.busy hoccupied
      obtain ⟨number, hnumber⟩ := List.getElem?_of_mem hfound
      have hother : request ≠ number := by
        intro heq
        rw [heq, hnumber] at hold
        exact hne ((Option.some.inj hold) ▸ hended)
      refine ⟨found, List.mem_of_getElem? (i := number) ?_, hne⟩
      unfold put
      rw [List.getElem?_set_ne hother, hnumber]
    · intro number found hfound
      rcases getElem?_put hfound with ⟨rfl, rfl⟩ | ⟨-, hfound⟩
      · exact hstages
      · exact hs.stages number found hfound
  · exact inv_put hs.base (hs.slot_of hold hended) (hstage ▸ hended) hstages

theorem inv_replied (hs : s.Inv) {log : List ProviderEntry}
    (hlog : log = s.log ∨ ∃ entry, log = entry :: s.log
      ∧ (∀ other, entry ≠ .retired other) ∧ ∀ other, entry ≠ .aborted other) :
    ({ s with log := log } : ProviderHandler).Inv := by
  rcases hlog with rfl | ⟨entry, rfl, hretired, haborted⟩
  · exact hs
  · refine ⟨⟨?_, hs.base.children, ?_⟩, ?_, hs.busy, ?_⟩
    · refine hs.base.retired.trans (exists_congr fun other => ?_)
      simp [Ne.symm (hretired other)]
    · intro other hother
      exact hs.base.fresh other ((List.mem_cons.mp hother).resolve_left (Ne.symm (haborted other)))
    · rcases hs.slot with ⟨other, hslot⟩ | hidle
      · exact Or.inl ⟨other, hslot.occupied, hslot.unretired, hslot.lt, hslot.jobs, hslot.works⟩
      · exact Or.inr ⟨hidle.free, hidle.jobs, hidle.works⟩
    · intro number found hfound
      exact (hs.stages number found hfound).mono (sameWorks_refl s.works)
        (fun _ h => List.mem_cons_of_mem _ h)
        (fun h => (List.mem_cons.mp h).resolve_left (Ne.symm (haborted number)))

theorem inv_arrived (hs : s.Inv) (hended : job.stage = .ended) :
    ({ s with jobs := s.jobs ++ [job], log := .arrived s.jobs.length :: s.log } :
      ProviderHandler).Inv := by
  have hjobs : ∀ (number : Nat) (found : Job), (s.jobs ++ [job])[number]? = some found →
      s.jobs[number]? = some found ∨ found.stage = .ended := by
    intro number found hfound
    rcases of_getElem?_concat hfound with hold | ⟨-, rfl⟩
    · exact Or.inl hold
    · exact Or.inr hended
  refine ⟨⟨?_, hs.base.children, ?_⟩, ?_, ?_, ?_⟩
  · exact hs.base.retired.trans (exists_congr fun other => by simp)
  · intro other hother
    have hlt := hs.base.fresh other ((List.mem_cons.mp hother).resolve_left (by simp))
    rw [List.length_append]
    exact Nat.lt_add_right 1 hlt
  · rcases hs.slot with ⟨other, hslot⟩ | hidle
    · left
      refine ⟨other, hslot.occupied, hslot.unretired, ?_, ?_, hslot.works⟩
      · rw [List.length_append]
        exact Nat.lt_add_right 1 hslot.lt
      · intro number found hfound hne
        exact hslot.jobs number found ((hjobs number found hfound).resolve_right hne) hne
    · right
      refine ⟨hidle.free, ?_, hidle.works⟩
      intro found hfound
      obtain ⟨number, hnumber⟩ := List.getElem?_of_mem hfound
      rcases hjobs number found hnumber with hold | hended
      · exact hidle.jobs found (List.mem_of_getElem? hold)
      · exact hended
  · intro hoccupied
    obtain ⟨found, hfound, hne⟩ := hs.busy hoccupied
    exact ⟨found, List.mem_append_left _ hfound, hne⟩
  · intro number found hfound
    rcases hjobs number found hfound with hold | hended
    · exact (hs.stages number found hold).mono (sameWorks_refl s.works)
        (fun _ h => List.mem_cons_of_mem _ h)
        (fun h => (List.mem_cons.mp h).resolve_left (by simp))
    · unfold StageInv
      rw [hended]
      trivial

theorem inv_refuse (hs : s.Inv) (hjob : s.jobs[request]? = some job) (status bytes : Nat) :
    (s.reply config request job status bytes none).Inv := by
  obtain ⟨response, log, heq, hlog⟩ := reply_cases config s request job status bytes none
  rw [heq]
  have hput : (s.put request { job with response := response }).Inv := inv_same hs hjob rfl rfl
  refine inv_replied hput ?_
  rcases hlog with rfl | rfl | rfl
  · exact Or.inl rfl
  · exact Or.inr ⟨_, rfl, by simp, by simp⟩
  · exact Or.inr ⟨_, rfl, by simp, by simp⟩

theorem inv_arrive (hs : s.Inv) (head : RequestHead) (now : Rat) (response : ResponseState) :
    (s.arrive config head now response).Inv := by
  let job : Job := ⟨now + config.deadlineMillis, false, response, .ended⟩
  have harrived : ({ s with jobs := s.jobs ++ [job], log := .arrived s.jobs.length :: s.log } :
      ProviderHandler).Inv := inv_arrived hs rfl
  have hself : (s.jobs ++ [⟨now + config.deadlineMillis, false, response, .ended⟩])[s.jobs.length]?
      = some ⟨now + config.deadlineMillis, false, response, .ended⟩ := by
    simp
  unfold arrive logged
  simp only
  split
  · exact inv_refuse harrived hself _ _
  · next hunretired =>
    have hunretired : s.quarantined = false := by simpa using hunretired
    split
    · exact inv_refuse harrived hself _ _
    · next hfree =>
      have hidle : s.Idle := by
        rcases hs.slot with ⟨other, hslot⟩ | hidle
        · exact absurd hslot.occupied hfree
        · exact hidle
      have hidle' := harrived.slot.resolve_left fun ⟨other, hslot⟩ => hfree hslot.occupied
      let taken : ProviderHandler := { s with
          jobs := s.jobs ++ [⟨now + config.deadlineMillis, false, response, .ended⟩]
          log := .arrived s.jobs.length :: s.log
          occupied := true }
      have hslot : taken.Slot s.jobs.length := by
        refine ⟨rfl, hunretired, ?_, ?_, ?_⟩
        · exact (List.getElem?_eq_some_iff.mp hself).1
        · intro other found hfound hne
          exact absurd (hidle'.jobs found (List.mem_of_getElem? hfound)) hne
        · intro work hwork hunsettled
          exact absurd hunsettled (hidle.works hunretired work hwork)
      have hbase : taken.Base :=
        ⟨harrived.base.retired, harrived.base.children, harrived.base.fresh⟩
      split
      · exact inv_finish hbase hslot _ _ _ _
      · refine inv_wait hbase hslot ?_ ?_ none
        · intro _ haborted
          have hlt := hs.base.fresh _ ((List.mem_cons.mp haborted).resolve_left (by simp))
          exact absurd hlt (Nat.lt_irrefl _)
        · trivial

/-! ## What happens to a request -/

theorem inv_works (hs : s.Inv) {works : List Work} (hsame : SameWorks s.works works)
    (hleft : ∀ work ∈ works, work.settled = none →
      ∃ old ∈ s.works, old.settled = none ∧ old.request = work.request)
    (hchildren : ∀ work ∈ works, work.decoder ≠ none → work.settled = none) :
    ({ s with works := works } : ProviderHandler).Inv where
  base := ⟨hs.base.retired, hchildren, hs.base.fresh⟩
  slot := by
    rcases hs.slot with ⟨other, hslot⟩ | hidle
    · left
      refine ⟨other, hslot.occupied, hslot.unretired, hslot.lt, hslot.jobs, ?_⟩
      intro work hwork hunsettled
      obtain ⟨old, hold, holdUnsettled, hrequest⟩ := hleft work hwork hunsettled
      exact hrequest ▸ hslot.works old hold holdUnsettled
    · right
      refine ⟨hidle.free, hidle.jobs, fun hunretired work hwork hunsettled => ?_⟩
      obtain ⟨old, hold, holdUnsettled, -⟩ := hleft work hwork hunsettled
      exact hidle.works hunretired old hold holdUnsettled
  busy := hs.busy
  stages := fun number found hfound =>
    (hs.stages number found hfound).mono hsame (fun _ h => h) (fun h => h)

theorem inv_setWork (hs : s.Inv) {number : Nat} {old work : Work}
    (hold : s.works[number]? = some old) (hrequest : work.request = old.request)
    (hkind : work.kind = old.kind) (hleft : work.settled = none → old.settled = none)
    (hchild : work.decoder ≠ none → work.settled = none) :
    ({ s with works := s.works.set number work } : ProviderHandler).Inv := by
  apply inv_works hs
  · intro other found hfound
    by_cases heq : number = other
    · subst heq
      obtain rfl := Option.some.inj (hold.symm.trans hfound)
      refine ⟨work, ?_, hrequest, hkind⟩
      rw [List.getElem?_set_self (List.getElem?_eq_some_iff.mp hold).1]
    · exact ⟨found, by rw [List.getElem?_set_ne heq, hfound], rfl, rfl⟩
  · intro found hfound hunsettled
    rcases List.mem_or_eq_of_mem_set hfound with hmem | rfl
    · exact ⟨found, hmem, hunsettled, rfl⟩
    · exact ⟨old, List.mem_of_getElem? hold, hleft hunsettled, hrequest.symm⟩
  · intro found hfound hdecoder
    rcases List.mem_or_eq_of_mem_set hfound with hmem | rfl
    · exact hs.base.children found hmem hdecoder
    · exact hchild hdecoder

theorem inv_win (hs : s.Inv) {number : Nat} {work : Work} {settled : Settled}
    (hwork : s.works[number]? = some work) (hrequest : work.request = request)
    (hresolved : ∀ decoding, settled = .resolved decoding → .resolved request work.kind ∈ s.log) :
    (s.win request number settled).Inv := by
  unfold win
  split
  · exact hs
  · next job hjob =>
    split
    · next hstage =>
      have hslot := hs.slot_of hjob (by rw [hstage]; simp)
      have hold := hs.stages _ _ hjob
      unfold StageInv at hold
      rw [hstage] at hold
      obtain ⟨hopen, found, hfound, -, hprogress, -⟩ := hold
      obtain rfl := Option.some.inj (hwork.symm.trans hfound)
      refine inv_put hs.base hslot (by simp) ⟨hopen, work, hwork, hrequest, hprogress, ?_⟩
      intro decoding hrace
      exact hresolved decoding (Option.some.inj hrace)
    · exact hs

theorem inv_settleWork (hs : s.Inv) {number : Nat} {work : Work}
    (hwork : s.works[number]? = some work) (settled : Settled) :
    (s.settleWork number work settled).Inv := by
  let ended : Work := { work with decoder := none, settled := some settled }
  have hset : ({ s with works := s.works.set number ended } : ProviderHandler).Inv :=
    inv_setWork hs hwork rfl rfl nofun (fun h => absurd rfl h)
  have hself : (s.works.set number { work with decoder := none, settled := some settled })[number]?
      = some { work with decoder := none, settled := some settled } :=
    List.getElem?_set_self (List.getElem?_eq_some_iff.mp hwork).1
  unfold settleWork
  cases settled with
  | resolved decoding =>
    have hlogged := inv_replied hset (Or.inr ⟨.resolved work.request work.kind, rfl, by simp, by simp⟩)
    exact inv_win hlogged hself rfl fun _ _ => List.mem_cons_self
  | rejected status => exact inv_win hset hself rfl nofun

section

variable (hs : s.Inv) (hjob : s.jobs[request]? = some job)
include hs hjob

theorem inv_aborted (hlistens : listens job = true) :
    ((s.put request { job with aborted := true, stage := job.stage.lose }).logged
      (.aborted request)).Inv := by
  have hne : job.stage ≠ .ended := by
    intro hended
    unfold listens at hlistens
    rw [hended] at hlistens
    cases hlistens
  have hslot := hs.slot_of hjob hne
  have hput := hslot.put (s := s) { job with aborted := true, stage := job.stage.lose }
  have hslot' : ((s.put request { job with aborted := true, stage := job.stage.lose }).logged
      (.aborted request)).Slot request :=
    ⟨hput.occupied, hput.unretired, hput.lt, hput.jobs, hput.works⟩
  have hstays : job.stage.lose ≠ .ended := by
    unfold Stage.lose
    split
    · simp
    · exact hne
  refine ⟨⟨?_, hs.base.children, ?_⟩, Or.inl ⟨request, hslot'⟩,
    fun _ => ⟨_, mem_put hslot.lt _, hstays⟩, hslot'.stages ?_⟩
  · exact hs.base.retired.trans (exists_congr fun other => by simp [logged, put])
  · intro other hother
    unfold logged put
    simp only [List.length_set]
    rcases List.mem_cons.mp hother with hnew | hold
    · exact ProviderEntry.aborted.inj hnew ▸ hslot.lt
    · exact hs.base.fresh other hold
  · intro found hfound
    obtain rfl := Option.some.inj ((getElem?_put_self hslot.lt).symm.trans hfound)
    have hold := hs.stages _ _ hjob
    have hlog : ∀ entry ∈ s.log, entry ∈ .aborted request :: s.log :=
      fun _ h => List.mem_cons_of_mem _ h
    unfold StageInv at hold ⊢
    cases hstage : job.stage with
    | waiting number race =>
      rw [hstage] at hold
      obtain ⟨-, work, hwork, hrequest, hprogress, hresolved⟩ := hold
      cases race with
      | none =>
        exact ⟨fun h => (by cases h), work, hwork, hrequest, hprogress.mono hlog,
          fun _ h => (by cases h)⟩
      | some race =>
        exact ⟨fun h => (by cases h), work, hwork, hrequest, hprogress.mono hlog,
          fun decoding h => hlog _ (hresolved decoding h)⟩
    | reading body =>
      rw [hstage] at hold
      exact ⟨fun h => (by cases h), hlog _ hold.2⟩
    | draining => trivial
    | ended => trivial

theorem inv_abort (hlistens : listens job = true) :
    (s.abort request job).Inv := by
  unfold abort
  split
  · exact hs
  · have hkilled : ∀ work : Work, ∃ decoder, (if work.request = request then
        { work with decoder := work.decoder.map fun child => child.kill "cancelled" } else work)
          = { work with decoder := decoder } ∧ (decoder ≠ none → work.decoder ≠ none) := by
      intro work
      split
      · exact ⟨_, rfl, fun h hnone => h (by rw [hnone]; rfl)⟩
      · exact ⟨work.decoder, rfl, fun h => h⟩
    refine inv_aborted (s := { s with works := _ }) (inv_works hs ?_ ?_ ?_) hjob hlistens
    · intro number work hwork
      obtain ⟨decoder, heq, -⟩ := hkilled work
      refine ⟨{ work with decoder := decoder }, ?_, rfl, rfl⟩
      rw [List.getElem?_map, hwork, Option.map_some, heq]
    · intro work hwork hunsettled
      obtain ⟨old, hold, rfl⟩ := List.mem_map.mp hwork
      obtain ⟨decoder, heq, -⟩ := hkilled old
      rw [heq] at hunsettled ⊢
      exact ⟨old, hold, hunsettled, rfl⟩
    · intro work hwork hdecoder
      obtain ⟨old, hold, rfl⟩ := List.mem_map.mp hwork
      obtain ⟨decoder, heq, hne⟩ := hkilled old
      rw [heq] at hdecoder ⊢
      exact hs.base.children old hold (hne hdecoder)

theorem inv_disconnect :
    (s.disconnect request job).Inv := by
  have hclosed : (s.put request { job with response := .destroyed }).Inv := inv_same hs hjob rfl rfl
  unfold disconnect
  split
  · exact hs
  · simp only
    split
    · next hlistens =>
      refine inv_abort hclosed ?_ hlistens
      exact getElem?_put_self (List.getElem?_eq_some_iff.mp hjob).1
    · exact hclosed

theorem inv_release (hstage : job.stage = .draining) : (s.release request job).Inv := by
  have hslot := hs.slot_of hjob (by rw [hstage]; simp)
  have hput : (s.put request { job with stage := .ended }).Base := hs.base.put _
  have hjobs : ∀ found ∈ (s.put request { job with stage := .ended }).jobs, found.stage = .ended := by
    intro found hfound
    obtain ⟨other, hother⟩ := List.getElem?_of_mem hfound
    rcases getElem?_put hother with ⟨-, rfl⟩ | ⟨hne, hold⟩
    · rfl
    · by_contra hended
      exact hne (hslot.jobs other found hold hended)
  unfold release
  simp only
  split
  · refine ⟨⟨?_, hput.children, ?_⟩, Or.inr ?_, nofun, ?_⟩
    · exact iff_of_true rfl ⟨request, List.mem_cons_self⟩
    · intro other hother
      exact hput.fresh other ((List.mem_cons.mp hother).resolve_left (by simp))
    · exact ⟨rfl, hjobs, nofun⟩
    · exact Idle.stages ⟨rfl, hjobs, nofun⟩
  · next hleft =>
    have hidle : ({ s with occupied := false }.put request { job with stage := .ended }).Idle := by
      refine ⟨rfl, hjobs, fun _ work hwork hunsettled => ?_⟩
      apply hleft
      unfold hasUnsettled
      rw [List.any_eq_true]
      refine ⟨work, hwork, ?_⟩
      rw [hslot.works work hwork hunsettled, hunsettled]
      simp
    exact ⟨⟨hput.retired, hput.children, hput.fresh⟩, Or.inr hidle, nofun,
      hidle.stages⟩

end

/-! ## The log -/

theorem lawful_reply (hs : s.LawfulLog) (job : Job) {status : Nat} (bytes : Nat)
    {call : Option (String × String)}
    (hretired : (∃ other, .retired other ∈ s.log) → status = 503)
    (hstatus : status = 200 → Earned request call s.log) :
    (s.reply config request job status bytes call).LawfulLog := by
  obtain ⟨response, log, heq, hlog⟩ := reply_cases config s request job status bytes call
  rw [heq]
  unfold LawfulLog
  rcases hlog with rfl | rfl | rfl
  · exact hs
  · exact throughout_cons.mpr ⟨⟨fun _ => rfl, nofun⟩, hs⟩
  · exact throughout_cons.mpr ⟨⟨hretired, hstatus⟩, hs⟩

section

variable (hbase : s.Base) (h : s.Slot request) (hs : s.LawfulLog)
include hbase h hs

theorem lawful_finish (job : Job) (status bytes : Nat) (call : Option (String × String))
    (hstatus : status = 200 → Earned request call s.log) :
    ((s.reply config request job status bytes call).settle request).LawfulLog := by
  unfold LawfulLog
  rw [log_settle]
  exact lawful_reply hs job bytes (fun hretired => absurd hretired (h.unretired_log hbase)) hstatus

theorem lawful_fail (job : Job)
    {status : Nat} (hne : status ≠ 200) : (s.fail config request job status).LawfulLog :=
  lawful_finish hbase h hs job status _ none fun heq => absurd heq hne

theorem lawful_store (binding : Binding) (decoding : Option DecoderResult) (reading : Reading) :
    (s.store config request job binding decoding reading).LawfulLog := by
  unfold store
  split
  · exact lawful_fail hbase h hs job (by decide)
  · exact hs

end

theorem status_ne (refusal : BindRefusal) : refusal.status ≠ 200 := by
  cases refusal <;> decide

section

variable (hbase : s.Base) (h : s.Slot request)
include hbase h

theorem lawful_bind (hs : s.LawfulLog) (bytes : List UInt8) (reading : Reading) :
    (s.bind config request job bytes reading).LawfulLog := by
  unfold bind
  split
  · exact lawful_fail hbase h hs job (by decide)
  split
  · exact lawful_fail hbase h hs job (by decide)
  split
  · exact lawful_fail hbase h hs job (status_ne _)
  split
  · exact lawful_fail hbase h hs job (by decide)
  split
  · exact hs
  · exact lawful_store hbase h hs _ _ _

theorem lawful_proceed (hs : s.LawfulLog)
    (haborted : .aborted request ∉ s.log) (hprogress : Progress s.log request kind)
    (hresolved : .resolved request kind ∈ s.log) (decoding : Option DecoderResult)
    (reading : Reading) : (s.proceed config request job decoding reading kind).LawfulLog := by
  cases kind with
  | token => exact hs
  | containment => exact hs
  | measure binding => exact lawful_store hbase h hs binding decoding reading
  | receipt receipt => exact hs
  | recheck receipt =>
    apply lawful_finish hbase h hs
    intro _
    exact ⟨receipt, rfl, hprogress.1, hprogress.2, hresolved, haborted⟩

theorem lawful_refusal (hs : s.LawfulLog) (job : Job) :
    (s.fail config request job (if job.aborted then 503 else 401)).LawfulLog := by
  apply lawful_fail hbase h hs
  split <;> decide

theorem resume_lawful {race : Settled} (haborted : job.aborted = false → .aborted request ∉ s.log)
    (hprogress : Progress s.log request kind)
    (hresolved : ∀ decoding, race = .resolved decoding → .resolved request kind ∈ s.log)
    (hs : s.LawfulLog) (reading : Reading) :
    (s.resume config request job kind race reading).LawfulLog
      ↔ ¬ ((∃ status, race = .rejected status ∧ failureStatus status = 200)
        ∧ kind.checksToken = false ∧ job.response = .writable
        ∧ errorBytes "provider request refused" ≤ config.responseBytes) := by
  cases race with
  | resolved decoding =>
    refine iff_of_true ?_ (fun ⟨⟨_, hforged, _⟩, _⟩ => by cases hforged)
    unfold resume
    simp only
    split
    · exact lawful_fail hbase h hs job (by decide)
    · next hcheck =>
      have hopen : job.aborted = false := by
        unfold check at hcheck
        cases hjob : job.aborted with
        | false => rfl
        | true => simp [hjob] at hcheck
      exact lawful_proceed hbase h hs (haborted hopen) hprogress (hresolved decoding rfl) decoding
        reading
  | rejected status =>
    cases htoken : kind.checksToken with
    | true =>
      refine iff_of_true ?_ (fun hforged => by cases hforged.2.1)
      cases kind with
      | token => exact lawful_refusal hbase h hs job
      | recheck receipt => exact lawful_refusal hbase h hs job
      | _ => cases htoken
    | false =>
      have hresume : s.resume config request job kind (.rejected status) reading
          = s.fail config request job (failureStatus status) := by
        cases kind with
        | token => cases htoken
        | recheck receipt => cases htoken
        | _ => rfl
      rw [hresume]
      by_cases hforged : failureStatus status = 200
      · have hunretired := h.unretired_log hbase
        unfold fail LawfulLog
        rw [log_settle, hforged]
        unfold reply
        split
        · next hclosed =>
          refine iff_of_true hs (fun hforged => ?_)
          simp [hforged.2.2.1] at hclosed
        · next hwritable =>
          split
          · next hlong =>
            refine iff_of_true ?_ (fun hforged => absurd hforged.2.2.2 (Nat.not_le.mpr hlong))
            refine throughout_cons.mpr ⟨⟨fun hretired => ?_, nofun⟩, hs⟩
            exact absurd hretired hunretired
          · next hshort =>
            refine iff_of_false ?_ (fun hgenuine => hgenuine ⟨⟨status, rfl, hforged⟩, rfl, ?_, ?_⟩)
            · intro hlawful
              obtain ⟨⟨-, hearned⟩, -⟩ := throughout_cons.mp hlawful
              obtain ⟨receipt, hcall, -⟩ := hearned rfl
              cases hcall
            · simpa using hwritable
            · exact Nat.le_of_not_lt hshort
      · refine iff_of_true (lawful_fail hbase h hs job hforged) ?_
        rintro ⟨⟨other, hother, hcode⟩, -⟩
        exact hforged (Settled.rejected.inj hother ▸ hcode)

theorem lawful_receive (hs : s.LawfulLog) (body chunk : List UInt8) (now : Rat) :
    (s.receive config request job body chunk now).LawfulLog := by
  unfold receive
  split
  · exact lawful_fail hbase h hs job (by decide)
  split
  · exact lawful_fail hbase h hs job (by decide)
  · exact hs

end

theorem checkHead_status {head : RequestHead} {status : Nat}
    (h : checkHead config head = .error status) : status ≠ 200 := by
  intro heq
  subst heq
  unfold checkHead at h
  split at h
  · cases h
  split at h
  · cases h
  · split at h <;> cases h

theorem lawful_arrive (hs : s.Inv) (hlog : s.LawfulLog) (head : RequestHead) (now : Rat)
    (response : ResponseState) : (s.arrive config head now response).LawfulLog := by
  have harrived : ({ s with
      jobs := s.jobs ++ [⟨now + config.deadlineMillis, false, response, .ended⟩]
      log := .arrived s.jobs.length :: s.log } : ProviderHandler).LawfulLog :=
    throughout_cons.mpr ⟨trivial, hlog⟩
  unfold arrive logged
  simp only
  split
  · exact lawful_reply harrived _ _ (fun _ => rfl) nofun
  · next hunretired =>
    have hopen : ¬ ∃ other, .retired other ∈ .arrived s.jobs.length :: s.log := by
      intro ⟨other, hother⟩
      exact hunretired (hs.base.retired.mpr
        ⟨other, (List.mem_cons.mp hother).resolve_left (by simp)⟩)
    split
    · exact lawful_reply harrived _ _ (fun h => absurd h hopen) nofun
    split
    · next status hstatus =>
      unfold fail LawfulLog
      rw [log_settle]
      refine lawful_reply ?_ _ _ (fun h => absurd h hopen)
        (fun h => absurd h (checkHead_status hstatus))
      exact harrived
    · exact harrived

/-! ## Runs -/

theorem log_win (s : ProviderHandler) (request number : Nat) (settled : Settled) :
    (s.win request number settled).log = s.log := by
  unfold win
  split
  · rfl
  · split <;> rfl

theorem lawful_settleWork (hs : s.LawfulLog) (number : Nat) (work : Work) (settled : Settled) :
    (s.settleWork number work settled).LawfulLog := by
  unfold settleWork LawfulLog
  cases settled with
  | resolved decoding =>
    simp only
    rw [log_win]
    exact throughout_cons.mpr ⟨trivial, hs⟩
  | rejected status =>
    simp only
    rw [log_win]
    exact hs

theorem lawful_abort (hs : s.LawfulLog) (request : Nat) (job : Job) :
    (s.abort request job).LawfulLog := by
  unfold abort
  split
  · exact hs
  · exact throughout_cons.mpr ⟨trivial, hs⟩

theorem lawful_disconnect (hs : s.LawfulLog) (request : Nat) (job : Job) :
    (s.disconnect request job).LawfulLog := by
  unfold disconnect
  split
  · exact hs
  · simp only
    split
    · refine lawful_abort ?_ _ _
      exact hs
    · exact hs

theorem lawful_release (hs : s.LawfulLog) (request : Nat) (job : Job) :
    (s.release request job).LawfulLog := by
  unfold release
  simp only
  split
  · exact throughout_cons.mpr ⟨trivial, hs⟩
  · exact hs

theorem Inv.reading (hs : s.Inv) (hjob : s.jobs[request]? = some job) {body : List UInt8}
    (hstage : job.stage = .reading body) : s.Slot request
      ∧ (job.aborted = false → .aborted request ∉ s.log) ∧ .resolved request .token ∈ s.log := by
  have hstages := hs.stages request job hjob
  unfold StageInv at hstages
  rw [hstage] at hstages
  exact ⟨hs.slot_of hjob (by rw [hstage]; simp), hstages⟩

theorem Inv.waiting (hs : s.Inv) (hjob : s.jobs[request]? = some job) {number : Nat}
    {race : Option Settled} (hstage : job.stage = .waiting number race) {work : Work}
    (hwork : s.works[number]? = some work) : s.Slot request
      ∧ (job.aborted = false → .aborted request ∉ s.log) ∧ Progress s.log request work.kind
      ∧ ∀ decoding, race = some (.resolved decoding) → .resolved request work.kind ∈ s.log := by
  have hstages := hs.stages request job hjob
  unfold StageInv at hstages
  rw [hstage] at hstages
  obtain ⟨haborted, found, hfound, -, hprogress, hresolved⟩ := hstages
  obtain rfl := Option.some.inj (hwork.symm.trans hfound)
  exact ⟨hs.slot_of hjob (by rw [hstage]; simp), haborted, hprogress, hresolved⟩

theorem step_resume {reading : Reading} (h : s.step config (.resume request reading) = some t) :
    ∃ job number race work, s.jobs[request]? = some job
      ∧ job.stage = .waiting number (some race) ∧ s.works[number]? = some work
      ∧ t = s.resume config request job work.kind race reading := by
  obtain ⟨job, hjob, h⟩ := Option.bind_eq_some_iff.mp h
  split at h
  · next number race hstage =>
    obtain ⟨work, hwork, h⟩ := Option.bind_eq_some_iff.mp h
    exact ⟨job, number, race, work, hjob, hstage, hwork, (Option.some.inj h).symm⟩
  · cases h

theorem judged_step (hs : s.Inv) {event : Event} (h : s.step config event = some t) :
    t.Inv ∧ (s.LawfulLog → (t.LawfulLog ↔ Genuine config s event)) := by
  cases event with
  | arrive head now response =>
    cases h
    exact ⟨inv_arrive hs head now response,
      fun hlog => iff_of_true (lawful_arrive hs hlog head now response) trivial⟩
  | settle number settled =>
    obtain ⟨work, hwork, h⟩ := Option.bind_eq_some_iff.mp h
    split at h
    · cases h
      exact ⟨inv_settleWork hs hwork settled,
        fun hlog => iff_of_true (lawful_settleWork hlog number work settled) trivial⟩
    · cases h
  | decoder number event =>
    obtain ⟨work, hwork, h⟩ := Option.bind_eq_some_iff.mp h
    obtain ⟨child, hchild, h⟩ := Option.bind_eq_some_iff.mp h
    cases h
    refine ⟨inv_setWork hs hwork rfl rfl (fun h => h) fun _ => ?_,
      fun hlog => iff_of_true hlog trivial⟩
    exact hs.base.children work (List.mem_of_getElem? hwork) (by rw [hchild]; simp)
  | close number code =>
    obtain ⟨work, hwork, h⟩ := Option.bind_eq_some_iff.mp h
    obtain ⟨child, hchild, h⟩ := Option.bind_eq_some_iff.mp h
    cases h
    exact ⟨inv_settleWork hs hwork _,
      fun hlog => iff_of_true (lawful_settleWork hlog number work _) trivial⟩
  | resume request reading =>
    obtain ⟨job, number, race, work, hjob, hstage, hwork, rfl⟩ := step_resume h
    obtain ⟨hslot, haborted, hprogress, hresolved⟩ := hs.waiting hjob hstage hwork
    have hrace : ∀ decoding, race = .resolved decoding → .resolved request work.kind ∈ s.log :=
      fun decoding hrace => hresolved decoding (congrArg some hrace)
    refine ⟨inv_resume hs.base hslot haborted hprogress hrace reading, fun hlog =>
      (resume_lawful hs.base hslot haborted hprogress hrace hlog reading).trans (not_congr ?_)⟩
    constructor
    · intro ⟨⟨status, hrace, hcode⟩, hkind, hwritable, hshort⟩
      exact ⟨job, number, work, status, hjob, hrace ▸ hstage, hcode, hwork, hkind, hwritable, hshort⟩
    · intro ⟨other, place, found, status, hother, hplace, hcode, hfound, hkind, hwritable, hshort⟩
      obtain rfl := Option.some.inj (hjob.symm.trans hother)
      obtain ⟨rfl, hrace⟩ := Stage.waiting.inj (hstage.symm.trans hplace)
      obtain rfl := Option.some.inj (hwork.symm.trans hfound)
      exact ⟨⟨status, Option.some.inj hrace, hcode⟩, hkind, hwritable, hshort⟩
  | chunk request bytes now =>
    obtain ⟨job, hjob, h⟩ := Option.bind_eq_some_iff.mp h
    split at h
    · next body hstage =>
      obtain ⟨hslot, haborted, htoken⟩ := hs.reading hjob hstage
      cases h
      exact ⟨inv_receive hs.base hslot haborted htoken body bytes now,
        fun hlog => iff_of_true (lawful_receive hs.base hslot hlog body bytes now) trivial⟩
    · cases h
  | endBody request reading =>
    obtain ⟨job, hjob, h⟩ := Option.bind_eq_some_iff.mp h
    split at h
    · next body hstage =>
      obtain ⟨hslot, haborted, htoken⟩ := hs.reading hjob hstage
      cases h
      exact ⟨inv_bind hs.base hslot haborted htoken body reading,
        fun hlog => iff_of_true (lawful_bind hs.base hslot hlog body reading) trivial⟩
    · cases h
  | streamFailed request =>
    obtain ⟨job, hjob, h⟩ := Option.bind_eq_some_iff.mp h
    split at h
    · next body hstage =>
      have hslot := (hs.reading hjob hstage).1
      cases h
      exact ⟨inv_finish hs.base hslot job _ _ _,
        fun hlog => iff_of_true (lawful_fail hs.base hslot hlog job (by decide)) trivial⟩
    · cases h
  | abort request =>
    obtain ⟨job, hjob, h⟩ := Option.bind_eq_some_iff.mp h
    split at h
    · next hlistens =>
      cases h
      exact ⟨inv_abort hs hjob hlistens,
        fun hlog => iff_of_true (lawful_abort hlog request job) trivial⟩
    · cases h
  | disconnect request =>
    obtain ⟨job, hjob, h⟩ := Option.bind_eq_some_iff.mp h
    cases h
    exact ⟨inv_disconnect hs hjob,
      fun hlog => iff_of_true (lawful_disconnect hlog request job) trivial⟩
  | drained request =>
    obtain ⟨job, hjob, h⟩ := Option.bind_eq_some_iff.mp h
    split at h
    · next hdrained =>
      have hstage := of_decide_eq_true (Bool.and_eq_true_iff.mp hdrained).1
      cases h
      exact ⟨inv_release hs hjob hstage,
        fun hlog => iff_of_true (lawful_release hlog request job) trivial⟩
    · cases h
  | grace request =>
    obtain ⟨job, hjob, h⟩ := Option.bind_eq_some_iff.mp h
    split at h
    · next hstage =>
      cases h
      exact ⟨inv_release hs hjob hstage,
        fun hlog => iff_of_true (lawful_release hlog request job) trivial⟩
    · cases h

theorem refuses_of_inv (config : ProviderConfig Body) (hs : s.Inv)
    (hretired : ∃ request, .retired request ∈ s.log) (head : RequestHead) (now : Rat) :
    (s.arrive config head now .writable).log
      = .replied s.jobs.length 503 none :: .arrived s.jobs.length :: s.log := by
  have hquarantined := hs.base.retired.mpr hretired
  unfold arrive reply logged
  simp only [hquarantined, if_true]
  split
  · next hclosed => simp at hclosed
  split
  · rfl
  · rfl

theorem oneJob_of_inv (config : ProviderConfig Body) (hs : s.Inv) : s.OneJob config where
  others request job hjob hne := (hs.slot_of hjob hne).works
  children := hs.base.children
  retires work hwork hunsettled job hjob hended := by
    apply hs.base.retired.mp
    rcases hs.slot with ⟨other, hslot⟩ | hidle
    · obtain ⟨active, hactive, hne⟩ := hs.busy hslot.occupied
      obtain ⟨number, hnumber⟩ := List.getElem?_of_mem hactive
      obtain rfl := hslot.jobs number active hnumber hne
      rw [hslot.works work hwork hunsettled, hnumber] at hjob
      exact absurd ((Option.some.inj hjob) ▸ hended) hne
    · by_contra hunretired
      exact hidle.works (by simpa using hunretired) work hwork hunsettled
  refuses := refuses_of_inv config hs

theorem inv_created : Inv created where
  base := ⟨by simp [created], fun _ h => absurd h List.not_mem_nil, fun _ h => absurd h List.not_mem_nil⟩
  slot := Or.inr ⟨rfl, fun _ h => absurd h List.not_mem_nil, fun _ _ h => absurd h List.not_mem_nil⟩
  busy := fun h => by cases h
  stages := fun _ _ h => by cases h

/-- In every run one job is served at a time, and every result is earned exactly where no request
fails with the status of a result. -/
theorem one_job {events : List Event} {states : List ProviderHandler}
    (h : statesOf (step config) created events = some states) :
    (∀ reached ∈ states, reached.OneJob config ∧ reached.LawfulLog)
      ↔ EveryStep (step config) (Genuine config) created events := by
  have hinv := statesOf_invariant (J := Inv) (P := fun _ _ => True)
    (fun _ _ _ hs _ hstep => (judged_step hs hstep).1) inv_created
    (everyStep_of_forall fun _ _ _ => trivial) h
  have hlawful := statesOf_good_iff (J := Inv) (P := Genuine config)
    (fun _ _ _ hs hstep => (judged_step hs hstep).1)
    (fun _ _ _ hs hgood hstep => (judged_step hs hstep).2 hgood) inv_created throughout_nil h
  rw [← hlawful]
  constructor
  · exact fun hall reached hreached => (hall reached hreached).2
  · exact fun hall reached hreached =>
      ⟨oneJob_of_inv config (hinv reached hreached), hall reached hreached⟩

section Sample

def sampleBinding : Binding := ⟨"sha256:r", "sha256:c", "sha256:q", "sha256:d", true⟩

def sampleConfig : ProviderConfig Unit where
  endpointPath := "/resolve"
  responseBytes := 4096
  requestBytes := 1024
  deadlineMillis := 1000
  parseDocument _ := some ()
  bindRequest _ _ := .ok sampleBinding
  parsesJson _ := true

def sampleHead : RequestHead :=
  ⟨"POST", "/resolve", some "application/json", 1, some "Bearer token", none⟩

def sampleReading : Reading := ⟨10, 11, 12, 13, 0, 0, true, 512⟩

/-- A request comes as far as its receipt, with a photo that a child decodes. -/
def toReceipt : List Event :=
  [.arrive sampleHead 0 .writable, .settle 0 (.resolved none), .resume 0 sampleReading,
    .settle 1 (.resolved none), .resume 0 sampleReading, .chunk 0 [1, 2] 5,
    .endBody 0 sampleReading, .decoder 2 (.data "\x7b\x7d"), .close 2 (some 0),
    .resume 0 sampleReading]

/-- A second request finds the handler busy; the first is answered; a third is aborted, and its token
check is left behind, so that the fourth is refused. -/
def served : List Event :=
  toReceipt ++ [.arrive sampleHead 14 .writable, .settle 3 (.resolved none), .resume 0 sampleReading,
    .settle 4 (.resolved none), .resume 0 sampleReading, .arrive sampleHead 20 .writable, .abort 2,
    .resume 2 sampleReading, .grace 2, .arrive sampleHead 30 .writable]

def failedStore : List Event :=
  toReceipt ++ [.settle 3 (.rejected (some 200)), .resume 0 sampleReading]

/-- The statuses that were replied, newest first. -/
def statuses (s : ProviderHandler) : List (Nat × Nat) :=
  s.log.filterMap fun
    | .replied request status _ => some (request, status)
    | _ => none

theorem one_job_served :
    ∃ states last, statesOf (step sampleConfig) created served = some states
      ∧ states.getLast? = some last ∧ last.statuses = [(3, 503), (2, 503), (0, 200), (1, 429)]
      ∧ ((∀ reached ∈ states, reached.OneJob sampleConfig ∧ reached.LawfulLog)
        ↔ EveryStep (step sampleConfig) (Genuine sampleConfig) created served) := by
  have hrun : ((statesOf (step sampleConfig) created served).bind fun states =>
      states.getLast?.map statuses) = some [(3, 503), (2, 503), (0, 200), (1, 429)] := by
    decide +kernel
  obtain ⟨states, hstates, hread⟩ := Option.bind_eq_some_iff.mp hrun
  obtain ⟨last, hlast, hstatuses⟩ := Option.map_eq_some_iff.mp hread
  exact ⟨states, last, hstates, hlast, hstatuses, one_job hstates⟩

theorem failed_store_replies :
    ∃ s, failedStore.foldlM (step sampleConfig) created = some s
      ∧ .replied 0 200 none ∈ s.log
      ∧ (∀ receipt, .resolved 0 (.receipt receipt) ∉ s.log) ∧ ¬ s.LawfulLog := by
  have hrun : (failedStore.foldlM (step sampleConfig) created).map (·.log) = some
      [.replied 0 200 none, .resolved 0 (.measure sampleBinding), .resolved 0 .containment,
        .resolved 0 .token, .arrived 0] := by
    decide +kernel
  obtain ⟨s, hs, hlog⟩ := Option.map_eq_some_iff.mp hrun
  refine ⟨s, hs, ?_, ?_, ?_⟩
  · rw [hlog]
    simp
  · rw [hlog]
    simp
  · intro hlawful
    unfold LawfulLog at hlawful
    rw [hlog] at hlawful
    obtain ⟨⟨-, hearned⟩, -⟩ := throughout_cons.mp hlawful
    obtain ⟨receipt, hcall, -⟩ := hearned rfl
    cases hcall

end Sample

end ProviderHandler

end FormspecWeb.Photo
