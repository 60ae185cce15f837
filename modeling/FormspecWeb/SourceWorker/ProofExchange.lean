import FormspecWeb.Async.History
import FormspecWeb.SourceWorker.ReaderRuns

/-!
# The exchange with the proof worker

The client posts a command to the worker and listens, for each of its commands, to everything the
worker posts until the command has its outcome. The worker initializes once, and answers what it is
asked while it is ready. Commands and replies are queued on their way.
-/

namespace FormspecWeb.SourceWorker

open Async Shared

/-! ## Commands and replies -/

/-- What the worker is asked when it is ready. -/
inductive ProofWork where
  | index (referencesBytes : Bytes)
  | verify (inputs : MixedProofInputs)

inductive ProofRequest where
  | initialization
  | work (work : ProofWork)

structure MixedProofCommand where
  id : Nat
  request : ProofRequest

inductive ProofWorkerReply where
  | ready (id : Nat)
  | result (id : Nat) (bytes : Bytes)
  | refused (id : Nat) (code : String)

def ProofWorkerReply.id : ProofWorkerReply → Nat
  | .ready id | .result id _ | .refused id _ => id

def sourceRefusals : List String :=
  ["input-cap", "input-json", "schema", "input-wire", "unsupported-scope", "binding", "clock",
    "receipt", "native-proof", "image-proof", "mixed-proof", "unsupported-number", "output",
    "output-cap", "init-input", "already-initialized", "init-export", "init-failed",
    "not-initialized", "input-type", "verification-failed"]

def sourceFailureCode (message : String) : String :=
  if sourceRefusals.contains message then message else "verification-failed"

structure SourceMixedProofApi where
  verifyMixedProof : MixedProofInputs → Except String Bytes
  indexMixedProofObjects : Bytes → Except String Bytes

namespace SourceMixedProofApi

variable (source : SourceMixedProofApi)

def compute : ProofWork → Except String Bytes
  | .index referencesBytes =>
    match snapshotInput referencesBytes smallCap with
    | none => .error "input-cap"
    | some references => source.indexMixedProofObjects references
  | .verify inputs =>
    match snapshotMixedInputs inputs with
    | none => .error "input-cap"
    | some inputs => source.verifyMixedProof inputs

/-- What a ready worker comes to for its work. -/
def answer (work : ProofWork) : Except String Bytes := do
  let bytes ← source.compute work
  match snapshotInput bytes smallCap with
  | none => .error "input-cap"
  | some output => .ok output

end SourceMixedProofApi

/-- A command with its promise: none is pending. -/
structure ProofExchange where
  command : MixedProofCommand
  outcome : Option (Except String (Option Bytes))

namespace ProofExchange

def finish (exchange : ProofExchange) (outcome : Except String (Option Bytes)) : ProofExchange :=
  if exchange.outcome.isSome then exchange else { exchange with outcome := some outcome }

/-- What a reply to a request comes to. -/
def outcomeOf : ProofRequest → ProofWorkerReply → Except String (Option Bytes)
  | _, .refused _ code =>
    .error (if sourceRefusals.contains code then code else "verification-failed")
  | .initialization, .ready _ => .ok none
  | .work _, .result _ bytes =>
    match snapshotInput bytes smallCap with
    | none => .error "input-cap"
    | some bytes => .ok (some bytes)
  | _, _ => .error "worker-protocol"

/-- The listener of a command; `failure` is what `check` throws. -/
def onMessage (reply : ProofWorkerReply) (failure : Option String) (exchange : ProofExchange) :
    ProofExchange :=
  match failure with
  | some failure => exchange.finish (.error failure)
  | none =>
    if reply.id != exchange.command.id then exchange
    else exchange.finish (outcomeOf exchange.command.request reply)

end ProofExchange

/-! ## The worker -/

inductive WorkerStage where
  | new
  | initializing
  | ready
  | closed
deriving DecidableEq

/-- The worker, the messages on their way and the client's exchanges, by number. -/
structure ProofWorkerLink where
  stage : WorkerStage
  /-- The command whose initialization the worker awaits. -/
  awaited : Option Nat
  toWorker : List MixedProofCommand
  toClient : List ProofWorkerReply
  /-- All that the worker posted. -/
  posted : List ProofWorkerReply
  exchanges : List ProofExchange

namespace ProofWorkerLink

def opened : ProofWorkerLink := ⟨.new, none, [], [], [], []⟩

def post (s : ProofWorkerLink) (reply : ProofWorkerReply) : ProofWorkerLink :=
  { s with toClient := s.toClient ++ [reply], posted := s.posted ++ [reply] }

/-- `handle(event.data)`, up to the initialization. -/
def handle (source : SourceMixedProofApi) (s : ProofWorkerLink) (command : MixedProofCommand) :
    ProofWorkerLink :=
  if s.stage == .closed || command.id < 1 || !isSafeInteger command.id then s
  else
    match command.request with
    | .initialization =>
      if s.stage != .new then
        s.post (.refused command.id (sourceFailureCode "already-initialized"))
      else { s with stage := .initializing, awaited := some command.id }
    | .work work =>
      if s.stage != .ready then
        s.post (.refused command.id (sourceFailureCode "not-initialized"))
      else
        match source.answer work with
        | .ok bytes => s.post (.result command.id bytes)
        | .error message => s.post (.refused command.id (sourceFailureCode message))

/-- Behind the initialization, which may have failed. -/
def initialized (s : ProofWorkerLink) (id : Nat) (failure : Option String) : ProofWorkerLink :=
  if s.stage == .closed then s
  else
    match failure with
    | none => { s with stage := .ready }.post (.ready id)
    | some message => s.post (.refused id (sourceFailureCode message))

inductive ExchangeEvent where
  /-- A command is posted, unless `check` or `postMessage` throws. -/
  | exchange (request : ProofRequest) (failure : Option String)
  /-- The next command reaches the worker. -/
  | receive
  | initialized (failure : Option String)
  /-- The next reply reaches the client, with what the checks of its listeners throw. -/
  | deliver (failures : Nat → Option String)
  /-- `error` or `messageerror`. -/
  | failed
  /-- The signal of an exchange is aborted. -/
  | aborted (number : Nat)
  /-- The worker's listener is taken off. -/
  | close
  | terminate

def step (source : SourceMixedProofApi) (s : ProofWorkerLink) :
    ExchangeEvent → Option ProofWorkerLink
  | .exchange request failure =>
    let command := ⟨s.exchanges.length + 1, request⟩
    some { s with
      exchanges := s.exchanges ++ [⟨command, failure.map .error⟩]
      toWorker := if failure.isSome then s.toWorker else s.toWorker ++ [command] }
  | .receive =>
    match s.toWorker with
    | [] => none
    | command :: rest => some ({ s with toWorker := rest }.handle source command)
  | .initialized failure =>
    s.awaited.map fun id => { s with awaited := none }.initialized id failure
  | .deliver failures =>
    match s.toClient with
    | [] => none
    | reply :: rest =>
      some { s with
        toClient := rest
        exchanges := s.exchanges.mapIdx fun number => (·.onMessage reply (failures number)) }
  | .failed =>
    some { s with exchanges := s.exchanges.map (·.finish (.error "verification-failed")) }
  | .aborted number =>
    s.exchanges[number]?.map fun exchange =>
      { s with exchanges := s.exchanges.set number (exchange.finish (.error "worker-aborted")) }
  | .close => some { s with stage := .closed }
  | .terminate => some { s with stage := .closed, awaited := none, toWorker := [], toClient := [] }

/-! ## What the exchanges keep -/

variable (source : SourceMixedProofApi) (s : ProofWorkerLink)

def commands : List MixedProofCommand := s.exchanges.map (·.command)

/-- What a reply says of the request it answers. -/
def Answers (request : ProofRequest) : ProofWorkerReply → Prop
  | .ready _ => request = .initialization
  | .result _ bytes => ∃ work, request = .work work ∧ source.answer work = .ok bytes
  | .refused _ _ => True

/-- The worker has come to be ready. -/
def Started : Prop := ∃ id, .ready id ∈ s.posted

/-- How often a command is queued, awaited or answered. -/
def count (id : Nat) : Nat :=
  (s.toWorker.map (·.id)).count id + s.awaited.toList.count id + (s.posted.map (·.id)).count id

/-- A value of an exchange is what its own request comes to. -/
def Agrees (exchange : ProofExchange) : Prop :=
  ∀ value, exchange.outcome = some (.ok value) → s.Started ∧
    match exchange.command.request with
    | .initialization => value = none
    | .work work => ∃ bytes, value = some bytes ∧ source.answer work = .ok bytes

structure Inv : Prop where
  numbered : ∀ n command, s.commands[n]? = some command → command.id = n + 1
  queued : ∀ command ∈ s.toWorker, command ∈ s.commands
  awaited : ∀ id, s.awaited = some id → ⟨id, .initialization⟩ ∈ s.commands
  once : ∀ id, s.count id ≤ 1
  answered : ∀ reply ∈ s.posted, ∃ command ∈ s.commands,
    command.id = reply.id ∧ Answers source command.request reply
  ready : s.stage = .ready → s.Started
  computed : ∀ id bytes, .result id bytes ∈ s.posted → s.Started
  delivered : s.toClient <:+ s.posted
  agrees : ∀ exchange ∈ s.exchanges, s.Agrees source exchange

variable {source} {s}

theorem inv_opened : opened.Inv source where
  numbered _ _ h := by cases h
  queued _ h := by cases h
  awaited _ h := by cases h
  once _ := Nat.zero_le 1
  answered _ h := by cases h
  ready h := by cases h
  computed _ _ h := by cases h
  delivered := List.suffix_refl []
  agrees _ h := by cases h

variable {command : MixedProofCommand}

theorem Inv.id_bounds (hs : s.Inv source)
    (h : command ∈ s.commands) : 1 ≤ command.id ∧ command.id ≤ s.commands.length := by
  obtain ⟨n, hn⟩ := List.getElem?_of_mem h
  have hid := hs.numbered n command hn
  have hlt := (List.getElem?_eq_some_iff.mp hn).1
  omega

theorem Inv.id_unique (hs : s.Inv source) {first second : MixedProofCommand}
    (hfirst : first ∈ s.commands) (hsecond : second ∈ s.commands) (h : first.id = second.id) :
    first = second := by
  obtain ⟨n, hn⟩ := List.getElem?_of_mem hfirst
  obtain ⟨m, hm⟩ := List.getElem?_of_mem hsecond
  have hid := hs.numbered n first hn
  have hid' := hs.numbered m second hm
  obtain rfl : n = m := by omega
  exact Option.some.inj (hn.symm.trans hm)

/-- A number no command has. -/
theorem Inv.count_new (hs : s.Inv source) : s.count (s.commands.length + 1) = 0 := by
  have hne : ∀ command ∈ s.commands, command.id ≠ s.commands.length + 1 := fun command h heq => by
    have hle := (hs.id_bounds h).2
    omega
  have hqueued : (s.toWorker.map (·.id)).count (s.commands.length + 1) = 0 := by
    rw [List.count_eq_zero, List.mem_map]
    rintro ⟨command, hmem, heq⟩
    exact hne command (hs.queued command hmem) heq
  have hawaited : s.awaited.toList.count (s.commands.length + 1) = 0 := by
    rw [List.count_eq_zero, Option.mem_toList]
    exact fun h => hne _ (hs.awaited _ h) rfl
  have hposted : (s.posted.map (·.id)).count (s.commands.length + 1) = 0 := by
    rw [List.count_eq_zero, List.mem_map]
    rintro ⟨reply, hmem, heq⟩
    obtain ⟨command, hcommand, hid, -⟩ := hs.answered reply hmem
    exact hne command hcommand (hid.trans heq)
  rw [count, hqueued, hawaited, hposted]

/-- Commands leave the queue or come to be awaited. -/
theorem inv_move (hs : s.Inv source) {stage : WorkerStage} {awaited : Option Nat}
    {toWorker : List MixedProofCommand} (hready : stage = .ready → s.Started)
    (hqueued : ∀ command ∈ toWorker, command ∈ s.commands)
    (hawaited : ∀ id, awaited = some id → ⟨id, .initialization⟩ ∈ s.commands)
    (hcount : ∀ id, (toWorker.map (·.id)).count id + awaited.toList.count id
      ≤ (s.toWorker.map (·.id)).count id + s.awaited.toList.count id) :
    { s with stage := stage, awaited := awaited, toWorker := toWorker }.Inv source :=
  { hs with
    queued := hqueued
    awaited := hawaited
    once := fun id => (Nat.add_le_add_right (hcount id) _).trans (hs.once id)
    ready := hready }

variable {reply : ProofWorkerReply}

theorem inv_post (hs : s.Inv source) (hroom : s.count reply.id = 0)
    (hanswers : ∃ command ∈ s.commands, command.id = reply.id
      ∧ Answers source command.request reply)
    (hcomputed : ∀ id bytes, reply = .result id bytes → s.Started) :
    (s.post reply).Inv source where
  numbered := hs.numbered
  queued := hs.queued
  awaited := hs.awaited
  once id := by
    have hone := hs.once id
    simp only [count, post, List.map_append, List.count_append, List.map_singleton,
      List.count_singleton] at hone hroom ⊢
    split
    · next heq =>
      obtain rfl := beq_iff_eq.mp heq
      omega
    · omega
  answered other hother := by
    rcases List.mem_append.mp hother with hold | hnew
    · exact hs.answered other hold
    · exact List.mem_singleton.mp hnew ▸ hanswers
  ready h := (hs.ready h).imp fun _ => List.mem_append_left _
  computed id bytes h := by
    have hstarted : s.Started := by
      rcases List.mem_append.mp h with hold | hnew
      · exact hs.computed id bytes hold
      · exact hcomputed id bytes (List.mem_singleton.mp hnew).symm
    exact hstarted.imp fun _ => List.mem_append_left _
  delivered := by
    obtain ⟨before, hbefore⟩ := hs.delivered
    exact ⟨before, by rw [post, ← hbefore, List.append_assoc]⟩
  agrees exchange h value hvalue :=
    (hs.agrees exchange h value hvalue).imp_left fun hstarted =>
      hstarted.imp fun _ => List.mem_append_left _

/-- Exchanges come to their outcomes. -/
theorem inv_settle (hs : s.Inv source) {toClient : List ProofWorkerReply}
    {exchanges : List ProofExchange} (hclient : toClient <:+ s.toClient)
    (hcommands : exchanges.map (·.command) = s.commands)
    (hagrees : ∀ exchange ∈ exchanges, s.Agrees source exchange) :
    { s with toClient := toClient, exchanges := exchanges }.Inv source := by
  refine ⟨?_, ?_, ?_, hs.once, ?_, hs.ready, hs.computed, hclient.trans hs.delivered, hagrees⟩
  all_goals rw [commands, hcommands]
  exacts [hs.numbered, hs.queued, hs.awaited, hs.answered]

theorem finish_command (exchange : ProofExchange) (outcome : Except String (Option Bytes)) :
    (exchange.finish outcome).command = exchange.command := by
  rw [ProofExchange.finish]
  split <;> rfl

theorem finish_settled (exchange : ProofExchange) (outcome : Except String (Option Bytes)) :
    (exchange.finish outcome).outcome ≠ none := by
  rw [ProofExchange.finish]
  split
  · next h => exact fun hnone => by simp [hnone] at h
  · simp

theorem onMessage_command (reply : ProofWorkerReply) (failure : Option String)
    (exchange : ProofExchange) :
    (exchange.onMessage reply failure).command = exchange.command := by
  cases failure with
  | some failure => exact finish_command exchange _
  | none =>
    rw [ProofExchange.onMessage]
    split
    · rfl
    · exact finish_command exchange _

theorem handle_exchanges (command : MixedProofCommand) :
    (s.handle source command).exchanges = s.exchanges := by
  rw [handle]
  repeat' split
  all_goals rfl

theorem initialized_exchanges (id : Nat) (failure : Option String) :
    (s.initialized id failure).exchanges = s.exchanges := by
  rw [ProofWorkerLink.initialized.eq_def]
  repeat' split
  all_goals rfl

variable {exchange : ProofExchange}

theorem agrees_finish (h : s.Agrees source exchange) (message : String) :
    s.Agrees source (exchange.finish (.error message)) := by
  rw [ProofExchange.finish]
  split
  · exact h
  · intro value hvalue
    cases hvalue

/-- An exchange that settles on a reply settles on its own. -/
theorem agrees_onMessage (hs : s.Inv source)
    (hmem : exchange ∈ s.exchanges) (hreply : reply ∈ s.posted)
    (failure : Option String) : s.Agrees source (exchange.onMessage reply failure) := by
  have hold := hs.agrees exchange hmem
  cases failure with
  | some failure => exact agrees_finish hold failure
  | none =>
    rw [ProofExchange.onMessage]
    split
    · exact hold
    · next hid =>
      obtain ⟨command, hcommand, heq, hanswers⟩ := hs.answered reply hreply
      have hown : command = exchange.command := by
        refine hs.id_unique hcommand (List.mem_map_of_mem hmem) ?_
        simpa using heq.trans (bne_eq_false_iff_eq.mp (Bool.not_eq_true _ ▸ hid))
      rw [hown] at hanswers
      rw [ProofExchange.finish]
      split
      · exact hold
      · intro value hvalue
        have hvalue := Option.some.inj hvalue
        cases reply with
        | refused id code => cases hvalue
        | ready id =>
          have hrequest : exchange.command.request = .initialization := hanswers
          simp only [hrequest, ProofExchange.outcomeOf] at hvalue ⊢
          exact ⟨⟨id, hreply⟩, (Except.ok.inj hvalue).symm⟩
        | result id bytes =>
          obtain ⟨work, hrequest, hanswer⟩ := hanswers
          simp only [hrequest, ProofExchange.outcomeOf] at hvalue ⊢
          refine ⟨hs.computed id bytes hreply, bytes, ?_, hanswer⟩
          split at hvalue
          · cases hvalue
          · next hinput =>
            rw [← Except.ok.inj hvalue, (snapshotInput_some hinput).1]

variable {t : ProofWorkerLink}

variable {failure : Option String}

theorem inv_exchange (hs : s.Inv source) {request : ProofRequest}
    (h : step source s (.exchange request failure) = some t) :
    t.Inv source := by
  cases h
  have hlength : s.commands.length = s.exchanges.length := List.length_map _
  have hcommands (exchange : ProofExchange) :
      (s.exchanges ++ [exchange]).map (·.command) = s.commands ++ [exchange.command] := by
    rw [List.map_append]
    rfl
  refine ⟨?_, ?_, ?_, fun id => ?_, ?_, hs.ready, hs.computed, hs.delivered, ?_⟩
  · rw [commands, hcommands]
    intro n command h
    rcases of_getElem?_concat h with hold | ⟨rfl, rfl⟩
    · exact hs.numbered n command hold
    · exact congrArg (· + 1) hlength.symm
  · rw [commands, hcommands]
    intro command h
    have hcase : command ∈ s.toWorker ∨ command = ⟨s.exchanges.length + 1, request⟩ := by
      split at h
      · exact Or.inl h
      · simpa using h
    rcases hcase with hold | rfl
    · exact List.mem_append_left _ (hs.queued command hold)
    · exact List.mem_append_right _ List.mem_cons_self
  · rw [commands, hcommands]
    exact fun id h => List.mem_append_left _ (hs.awaited id h)
  · have hone := hs.once id
    have hnew := hs.count_new
    rw [hlength] at hnew
    simp only [count] at hone hnew ⊢
    split
    · exact hone
    · rw [List.map_append, List.count_append, List.map_singleton, List.count_singleton]
      split
      · next heq =>
        obtain rfl : s.exchanges.length + 1 = id := beq_iff_eq.mp heq
        omega
      · omega
  · rw [commands, hcommands]
    intro reply h
    obtain ⟨command, hcommand, hanswers⟩ := hs.answered reply h
    exact ⟨command, List.mem_append_left _ hcommand, hanswers⟩
  · intro exchange h
    rcases List.mem_append.mp h with hold | hnew
    · exact hs.agrees exchange hold
    · obtain rfl := List.mem_singleton.mp hnew
      intro value hvalue
      cases failure <;> cases hvalue

/-- What handling a command comes to. It is left unanswered by a worker that is closed, and for its
number. -/
theorem handle_cases (source : SourceMixedProofApi) (s : ProofWorkerLink)
    (command : MixedProofCommand) :
    (s.handle source command = s
        ∧ (s.stage = .closed ∨ command.id < 1 ∨ isSafeInteger command.id = false))
      ∨ (∃ reply, s.handle source command = s.post reply ∧ reply.id = command.id
        ∧ Answers source command.request reply ∧ ∀ id bytes, reply = .result id bytes → s.stage = .ready)
      ∨ s.handle source command = { s with stage := .initializing, awaited := some command.id }
        ∧ s.stage = .new ∧ command.request = .initialization := by
  have hrefused (code : String) : Answers source command.request (.refused command.id code)
      ∧ ∀ id bytes, ProofWorkerReply.refused command.id code = .result id bytes → s.stage = .ready :=
    ⟨trivial, nofun⟩
  rw [handle]
  split
  · next h => exact Or.inl ⟨rfl, by simpa [or_assoc] using h⟩
  split
  · next hrequest =>
    split
    · exact Or.inr (Or.inl ⟨_, rfl, rfl, hrequest ▸ hrefused _⟩)
    · next hnew => exact Or.inr (Or.inr ⟨rfl, by simpa using hnew, hrequest⟩)
  · next work hrequest =>
    split
    · exact Or.inr (Or.inl ⟨_, rfl, rfl, hrequest ▸ hrefused _⟩)
    · next hready =>
      split
      · next bytes hanswer =>
        refine Or.inr (Or.inl ⟨_, rfl, rfl, ⟨work, hrequest, hanswer⟩, fun _ _ _ => ?_⟩)
        simpa using hready
      · exact Or.inr (Or.inl ⟨_, rfl, rfl, hrequest ▸ hrefused _⟩)

theorem initialized_cases (source : SourceMixedProofApi) (s : ProofWorkerLink) (id : Nat)
    (failure : Option String) :
    (s.initialized id failure = s ∧ s.stage = .closed)
      ∨ s.stage ≠ .closed ∧ ∃ stage reply, s.initialized id failure = { s.post reply with stage := stage }
        ∧ reply.id = id ∧ stage ≠ .closed ∧ Answers source .initialization reply
        ∧ (∀ id bytes, reply ≠ .result id bytes) ∧ (stage = .ready → s.stage = .ready ∨ reply = .ready id) := by
  rw [ProofWorkerLink.initialized.eq_def]
  split
  · next h => exact Or.inl ⟨rfl, by simpa using h⟩
  · next h =>
    have hopen : s.stage ≠ .closed := by simpa using h
    refine Or.inr ⟨hopen, ?_⟩
    split
    · exact ⟨.ready, _, rfl, rfl, WorkerStage.noConfusion, rfl, nofun,
        fun _ => Or.inr rfl⟩
    · exact ⟨s.stage, _, rfl, rfl, hopen, trivial, nofun, Or.inl⟩

theorem inv_receive (hs : s.Inv source)
    {rest : List MixedProofCommand} (hqueue : s.toWorker = command :: rest) :
    ({ s with toWorker := rest }.handle source command).Inv source := by
  have hcommand : command ∈ s.commands := hs.queued command (hqueue ▸ List.mem_cons_self)
  have hrest : ∀ other ∈ rest, other ∈ s.commands := fun other h =>
    hs.queued other (hqueue ▸ List.mem_cons_of_mem _ h)
  have hcount : ∀ id, (s.toWorker.map (·.id)).count id
      = (rest.map (·.id)).count id + if command.id = id then 1 else 0 := fun id => by
    rw [hqueue, List.map_cons, List.count_cons]
    simp only [beq_iff_eq]
  have hmoved : { s with toWorker := rest }.Inv source :=
    inv_move hs hs.ready hrest hs.awaited fun id => by
      rw [hcount]
      omega
  have hroom : { s with toWorker := rest }.count command.id = 0 := by
    have hone := hs.once command.id
    rw [count, hcount, if_pos rfl] at hone
    simp only [count]
    omega
  rcases handle_cases source { s with toWorker := rest } command with
    ⟨heq, -⟩ | ⟨reply, heq, hid, hanswers, hready⟩ | ⟨heq, -, hrequest⟩
  all_goals rw [heq]
  · exact hmoved
  · refine inv_post hmoved (hid ▸ hroom) ⟨command, hcommand, hid.symm, hanswers⟩ fun id bytes h => ?_
    exact hs.ready (hready id bytes h)
  · refine inv_move hs nofun hrest (fun id h => ?_) fun id => ?_
    · cases h
      exact hrequest ▸ hcommand
    · rw [hcount, Option.toList_some, List.count_singleton]
      simp only [beq_iff_eq]
      omega

theorem inv_initialized (hs : s.Inv source) {id : Nat} (hawaited : s.awaited = some id)
    (failure : Option String) :
    ({ s with awaited := none }.initialized id failure).Inv source := by
  have hmoved : { s with awaited := none }.Inv source :=
    inv_move hs hs.ready hs.queued nofun fun other => by
      rw [Option.toList_none, List.count_nil]
      omega
  have hroom : { s with awaited := none }.count id = 0 := by
    have hone := hs.once id
    rw [count, hawaited, Option.toList_some, List.count_singleton_self] at hone
    simp only [count, Option.toList_none, List.count_nil]
    omega
  rcases initialized_cases source { s with awaited := none } id failure with
    ⟨heq, -⟩ | ⟨-, stage, reply, heq, hid, -, hanswers, hresult, hready⟩
  all_goals rw [heq]
  · exact hmoved
  · have hposted := inv_post hmoved (hid ▸ hroom) ⟨_, hs.awaited id hawaited, hid.symm, hanswers⟩
      fun id bytes h => absurd h (hresult id bytes)
    refine inv_move hposted (fun h => ?_) hposted.queued hposted.awaited fun _ => Nat.le_refl _
    rcases hready h with hold | rfl
    · exact hposted.ready hold
    · exact ⟨id, List.mem_append_right _ List.mem_cons_self⟩

variable {event : ExchangeEvent}

theorem inv_step (hs : s.Inv source) (h : step source s event = some t) : t.Inv source := by
  cases event with
  | exchange request failure => exact inv_exchange hs h
  | receive =>
    rw [step] at h
    split at h
    · cases h
    · next hqueue => exact Option.some.inj h ▸ inv_receive hs hqueue
  | initialized failure =>
    obtain ⟨id, hawaited, rfl⟩ := Option.map_eq_some_iff.mp h
    exact inv_initialized hs hawaited failure
  | deliver failures =>
    rw [step] at h
    split at h
    · cases h
    · next reply rest hclient =>
      cases h
      refine inv_settle hs (hclient ▸ List.suffix_cons reply rest) ?_ fun exchange hmem => ?_
      · refine List.ext_getElem? fun number => ?_
        rw [commands, List.getElem?_map, List.getElem?_map, List.getElem?_mapIdx, Option.map_map]
        exact Option.map_congr fun _ _ => onMessage_command _ _ _
      · obtain ⟨number, hnumber, rfl⟩ := List.mem_mapIdx.mp hmem
        refine agrees_onMessage hs (List.getElem_mem hnumber) ?_ _
        exact hs.delivered.mem (hclient ▸ List.mem_cons_self)
  | failed =>
    cases h
    refine inv_settle hs (List.suffix_refl _) ?_ fun exchange hmem => ?_
    · simp only [List.map_map, Function.comp_def, finish_command]
      rfl
    · obtain ⟨old, hold, rfl⟩ := List.mem_map.mp hmem
      exact agrees_finish (hs.agrees old hold) _
  | aborted number =>
    obtain ⟨exchange, hexchange, rfl⟩ := Option.map_eq_some_iff.mp h
    refine inv_settle hs (List.suffix_refl _) ?_ fun other hmem => ?_
    · obtain ⟨hlt, rfl⟩ := List.getElem?_eq_some_iff.mp hexchange
      refine List.ext_getElem? fun n => ?_
      rw [List.map_set, finish_command, commands, List.getElem?_set]
      split
      · next heq =>
        subst heq
        simp [hlt]
      · rfl
    · rcases List.mem_or_eq_of_mem_set hmem with hold | rfl
      · exact hs.agrees other hold
      · exact agrees_finish (hs.agrees exchange (List.mem_of_getElem? hexchange)) _
  | close =>
    cases h
    exact inv_move hs nofun hs.queued hs.awaited fun _ => Nat.le_refl _
  | terminate =>
    cases h
    have hmoved : { s with stage := .closed, awaited := none, toWorker := [] }.Inv source :=
      inv_move hs nofun nofun nofun
        fun _ => Nat.zero_le _
    exact inv_settle hmoved (List.nil_suffix) rfl hs.agrees

theorem settled_step {number : Nat}
    (hexchange : s.exchanges[number]? = some exchange) (hsettled : exchange.outcome.isSome)
    (h : step source s event = some t) :
    t.exchanges[number]? = some exchange := by
  have hfinish (other) : exchange.finish other = exchange := by
    rw [ProofExchange.finish, if_pos hsettled]
  have honMessage (reply failure) : exchange.onMessage reply failure = exchange := by
    rw [ProofExchange.onMessage.eq_def]
    split
    · exact hfinish _
    · rw [hfinish, ite_self]
  cases event with
  | exchange request failure =>
    cases h
    exact getElem?_concat_of hexchange
  | receive =>
    rw [step] at h
    split at h
    · cases h
    · rw [← Option.some.inj h, handle_exchanges]
      exact hexchange
  | initialized failure =>
    obtain ⟨id, -, rfl⟩ := Option.map_eq_some_iff.mp h
    rw [initialized_exchanges]
    exact hexchange
  | deliver failures =>
    rw [step] at h
    split at h
    · cases h
    · cases h
      rw [List.getElem?_mapIdx, hexchange, Option.map_some, honMessage]
  | failed =>
    cases h
    rw [List.getElem?_map, hexchange, Option.map_some, hfinish]
  | aborted other =>
    obtain ⟨aborted, haborted, rfl⟩ := Option.map_eq_some_iff.mp h
    rw [List.getElem?_set]
    split
    · next heq =>
      subst heq
      obtain rfl := Option.some.inj (haborted.symm.trans hexchange)
      rw [if_pos (List.getElem?_eq_some_iff.mp hexchange).1, hfinish]
    · exact hexchange
  | close => exact Option.some.inj h ▸ hexchange
  | terminate => exact Option.some.inj h ▸ hexchange

/-- An exchange that has its outcome keeps it, and a value is what its own request comes to. -/
theorem exchange_agrees {events : List ExchangeEvent}
    (hrun : events.foldlM (step source) opened = some s) :
    (∀ exchange ∈ s.exchanges, s.Agrees source exchange)
      ∧ ∀ (more : List ExchangeEvent) (t : ProofWorkerLink),
        more.foldlM (step source) s = some t → ∀ (number : Nat) (exchange : ProofExchange),
          s.exchanges[number]? = some exchange → exchange.outcome.isSome →
            t.exchanges[number]? = some exchange := by
  have hs : s.Inv source :=
    foldlM_invariant (fun _ _ _ hs hstep => inv_step hs hstep) inv_opened hrun
  refine ⟨hs.agrees, fun more t hmore number exchange hexchange hsettled => ?_⟩
  exact foldlM_invariant (J := fun t => t.exchanges[number]? = some exchange)
    (fun _ _ _ hold hstep => settled_step hold hsettled hstep) hexchange hmore

def sampleSource : SourceMixedProofApi where
  verifyMixedProof _ := .error "input-json"
  indexMixedProofObjects bytes := .ok bytes

/-- The worker comes to be ready, indexes the references and is asked to verify too much. -/
def sampleRun : List ExchangeEvent :=
  [.exchange .initialization none, .receive, .initialized none, .deliver fun _ => none,
    .exchange (.work (.index [91, 93])) none, .exchange (.work (.verify ⟨[], [], [], []⟩)) none,
    .receive, .receive, .deliver fun _ => none]

theorem exchange_agrees_sample : ∃ s, sampleRun.foldlM (step sampleSource) opened = some s
    ∧ s.exchanges.map (·.outcome.isSome) = [true, true, false]
    ∧ (∀ exchange ∈ s.exchanges, s.Agrees sampleSource exchange)
    ∧ ∀ t, [.failed].foldlM (step sampleSource) s = some t → t.exchanges[1]? = s.exchanges[1]? := by
  have hrun : sampleRun.foldlM (step sampleSource) opened = some _ := rfl
  obtain ⟨hagrees, hstays⟩ := exchange_agrees hrun
  exact ⟨_, rfl, rfl, hagrees, fun t h => hstays [.failed] t h 1 _ rfl rfl⟩

/-- A message arrives, or the worker comes behind its initialization. -/
def ExchangeEvent.Arrival : ExchangeEvent → Prop
  | .receive | .initialized _ | .deliver _ => True
  | _ => False

/-- A command or its reply is on its way. -/
def Underway (s : ProofWorkerLink) (id : Nat) : Prop :=
  id ∈ s.toWorker.map (·.id) ∨ s.awaited = some id ∨ id ∈ s.toClient.map (·.id)

/-- How many arrivals may lie ahead. -/
def owed (s : ProofWorkerLink) : Nat :=
  3 * s.toWorker.length + 2 * s.awaited.toList.length + s.toClient.length

/-- What is pending is underway, as long as the worker listens. -/
structure Waits (s : ProofWorkerLink) : Prop where
  fresh : s.stage = .new → s.awaited = none
  pending : s.stage ≠ .closed → ∀ exchange ∈ s.exchanges, exchange.outcome = none →
    isSafeInteger exchange.command.id → s.Underway exchange.command.id

theorem waits_opened : opened.Waits := ⟨fun _ => rfl, fun _ _ h => by cases h⟩

theorem waits_receive (hs : s.Inv source) (hw : s.Waits)
    {rest : List MixedProofCommand} (hqueue : s.toWorker = command :: rest) :
    ({ s with toWorker := rest }.handle source command).Waits := by
  have hunderway {id : Nat} (h : s.Underway id) :
      id = command.id ∨ { s with toWorker := rest }.Underway id := by
    rcases h with h | h | h
    · rw [hqueue, List.map_cons] at h
      exact (List.mem_cons.mp h).imp_right Or.inl
    · exact Or.inr (Or.inr (Or.inl h))
    · exact Or.inr (Or.inr (Or.inr h))
  rcases handle_cases source { s with toWorker := rest } command with
    ⟨heq, hunheard⟩ | ⟨reply, heq, hreply, -⟩ | ⟨heq, hnew, -⟩
  all_goals rw [heq]
  · refine ⟨hw.fresh, fun hopen exchange hmem hnone hsafe => ?_⟩
    refine (hunderway (hw.pending hopen exchange hmem hnone hsafe)).resolve_left fun hid => ?_
    rcases hunheard with hclosed | hzero | hunsafe
    · exact hopen hclosed
    · have hpos := (hs.id_bounds (List.mem_map_of_mem hmem)).1
      omega
    · rw [hid, hunsafe] at hsafe
      cases hsafe
  · refine ⟨hw.fresh, fun hopen exchange hmem hnone hsafe => ?_⟩
    rcases hunderway (hw.pending hopen exchange hmem hnone hsafe) with hid | h | h | h
    · exact Or.inr (Or.inr (by simp [post, hid, hreply]))
    · exact Or.inl h
    · exact Or.inr (Or.inl h)
    · exact Or.inr (Or.inr (by simpa [post] using Or.inl h))
  · have hopen : s.stage ≠ .closed := fun h => WorkerStage.noConfusion (hnew.symm.trans h)
    refine ⟨WorkerStage.noConfusion, fun _ exchange hmem hnone hsafe => ?_⟩
    rcases hunderway (hw.pending hopen exchange hmem hnone hsafe) with hid | h | h | h
    · exact Or.inr (Or.inl (congrArg some hid.symm))
    · exact Or.inl h
    · cases (hw.fresh hnew).symm.trans h
    · exact Or.inr (Or.inr h)

theorem waits_initialized (source : SourceMixedProofApi) (hw : s.Waits) {id : Nat} (hawaited : s.awaited = some id)
    (failure : Option String) : ({ s with awaited := none }.initialized id failure).Waits := by
  rcases initialized_cases source { s with awaited := none } id failure with
    ⟨heq, hclosed⟩ | ⟨hopen, stage, reply, heq, hreply, -⟩
  all_goals rw [heq]
  · exact ⟨fun _ => rfl, fun hopen => absurd hclosed hopen⟩
  · refine ⟨fun _ => rfl, fun _ exchange hmem hnone hsafe => ?_⟩
    rcases hw.pending hopen exchange hmem hnone hsafe with h | h | h
    · exact Or.inl h
    · obtain rfl := Option.some.inj (hawaited.symm.trans h)
      exact Or.inr (Or.inr (by simp [post, hreply]))
    · exact Or.inr (Or.inr (by simpa [post] using Or.inl h))

/-- An exchange that is still pending was so before, and the reply was another's. -/
theorem pending_onMessage
    (h : (exchange.onMessage reply failure).outcome = none) :
    exchange.onMessage reply failure = exchange ∧ reply.id ≠ exchange.command.id := by
  rw [ProofExchange.onMessage.eq_def] at h ⊢
  split at h
  · exact absurd h (finish_settled _ _)
  split at h
  · next hother => exact ⟨by rw [if_pos hother], by simpa using hother⟩
  · exact absurd h (finish_settled _ _)

theorem waits_deliver (hw : s.Waits) {rest : List ProofWorkerReply}
    (hclient : s.toClient = reply :: rest) (failures : Nat → Option String) :
    { s with toClient := rest
             exchanges := s.exchanges.mapIdx fun number =>
               ProofExchange.onMessage reply (failures number) }.Waits := by
  refine ⟨hw.fresh, fun hopen exchange hmem hnone hsafe => ?_⟩
  obtain ⟨number, hnumber, rfl⟩ := List.mem_mapIdx.mp hmem
  obtain ⟨hsame, hother⟩ := pending_onMessage hnone
  rw [hsame] at hnone hsafe ⊢
  rcases hw.pending hopen _ (List.getElem_mem hnumber) hnone hsafe with h | h | h
  · exact Or.inl h
  · exact Or.inr (Or.inl h)
  · rw [hclient, List.map_cons] at h
    exact Or.inr (Or.inr ((List.mem_cons.mp h).resolve_left hother.symm))

/-- Exchanges only come to outcomes. -/
theorem waits_settle (hw : s.Waits) {exchanges : List ProofExchange}
    (h : ∀ exchange ∈ exchanges, exchange.outcome = none → exchange ∈ s.exchanges) :
    { s with exchanges := exchanges }.Waits :=
  ⟨hw.fresh, fun hopen exchange hmem hnone =>
    hw.pending hopen exchange (h exchange hmem hnone) hnone⟩

theorem waits_exchange (hw : s.Waits) {request : ProofRequest}
    (h : step source s (.exchange request failure) = some t) : t.Waits := by
  cases h
  refine ⟨hw.fresh, fun hopen exchange hmem hnone hsafe => ?_⟩
  rcases List.mem_append.mp hmem with hold | hnew
  · rcases hw.pending hopen exchange hold hnone hsafe with h | h
    · refine Or.inl ?_
      dsimp only
      split
      · exact h
      · rw [List.map_append]
        exact List.mem_append_left _ h
    · exact Or.inr h
  · obtain rfl := List.mem_singleton.mp hnew
    cases failure with
    | some failure => cases hnone
    | none => exact Or.inl (by simp)

theorem waits_step (hs : s.Inv source) (hw : s.Waits)
    (h : step source s event = some t) : t.Waits := by
  cases event with
  | exchange request failure => exact waits_exchange hw h
  | receive =>
    rw [step] at h
    split at h
    · cases h
    · next hqueue => exact Option.some.inj h ▸ waits_receive hs hw hqueue
  | initialized failure =>
    obtain ⟨id, hawaited, rfl⟩ := Option.map_eq_some_iff.mp h
    exact waits_initialized source hw hawaited failure
  | deliver failures =>
    rw [step] at h
    split at h
    · cases h
    · next hclient => exact Option.some.inj h ▸ waits_deliver hw hclient failures
  | failed =>
    cases h
    refine waits_settle hw fun exchange hmem hnone => ?_
    obtain ⟨old, -, rfl⟩ := List.mem_map.mp hmem
    exact absurd hnone (finish_settled old _)
  | aborted number =>
    obtain ⟨exchange, -, rfl⟩ := Option.map_eq_some_iff.mp h
    refine waits_settle hw fun other hmem hnone => ?_
    refine (List.mem_or_eq_of_mem_set hmem).resolve_right ?_
    rintro rfl
    exact finish_settled exchange _ hnone
  | close =>
    cases h
    exact ⟨WorkerStage.noConfusion, fun hopen => absurd rfl hopen⟩
  | terminate =>
    cases h
    exact ⟨fun _ => rfl, fun hopen => absurd rfl hopen⟩

/-- An arrival leaves less ahead, and the worker listening. -/
theorem owed_arrival (h : step source s event = some t) (harrival : event.Arrival) :
    t.owed < s.owed ∧ (s.stage ≠ .closed → t.stage ≠ .closed) := by
  cases event with
  | receive =>
    rw [step] at h
    split at h
    · cases h
    · next command rest hqueue =>
      cases h
      have howed : s.owed = { s with toWorker := rest }.owed + 3 := by
        simp only [owed, hqueue, List.length_cons]
        omega
      rcases handle_cases source { s with toWorker := rest } command with
        ⟨heq, -⟩ | ⟨reply, heq, -⟩ | ⟨heq, -⟩
      all_goals rw [heq, howed]
      · exact ⟨by omega, id⟩
      · exact ⟨by simp only [owed, post, List.length_append, List.length_singleton]; omega, id⟩
      · refine ⟨?_, fun _ => WorkerStage.noConfusion⟩
        simp only [owed, Option.toList_some, List.length_singleton]
        omega
  | initialized failure =>
    obtain ⟨id, hawaited, rfl⟩ := Option.map_eq_some_iff.mp h
    have howed : s.owed = { s with awaited := none }.owed + 2 := by
      simp only [owed, hawaited, Option.toList_some, Option.toList_none, List.length_singleton,
        List.length_nil]
      omega
    rcases initialized_cases source { s with awaited := none } id failure with
      ⟨heq, -⟩ | ⟨-, stage, reply, heq, -, hopen, -⟩
    all_goals rw [heq, howed]
    · exact ⟨by omega, fun h => h⟩
    · refine ⟨?_, fun _ => hopen⟩
      simp only [owed, post, List.length_append, List.length_singleton]
      omega
  | deliver failures =>
    rw [step] at h
    split at h
    · cases h
    · next reply rest hclient =>
      cases h
      refine ⟨?_, fun h => h⟩
      simp only [owed, hclient, List.length_cons]
      omega
  | _ => exact harrival.elim

theorem owed_run {events : List ExchangeEvent} (harrival : ∀ event ∈ events, event.Arrival)
    (h : events.foldlM (step source) s = some t) :
    events.length + t.owed ≤ s.owed ∧ (s.stage ≠ .closed → t.stage ≠ .closed) := by
  induction events generalizing s with
  | nil =>
    cases h
    exact ⟨Nat.le_of_eq (Nat.zero_add _), fun h => h⟩
  | cons event events ih =>
    obtain ⟨hevent, hevents⟩ := List.forall_mem_cons.mp harrival
    rw [List.foldlM_cons] at h
    obtain ⟨next, hnext, hrest⟩ := Option.bind_eq_some_iff.mp h
    obtain ⟨hlt, hopen⟩ := owed_arrival hnext hevent
    obtain ⟨hle, hlater⟩ := ih hevents hrest
    rw [List.length_cons]
    exact ⟨by omega, hlater ∘ hopen⟩

/-- Where nothing arrives any more, nothing is underway. -/
theorem not_underway (h : ∀ event : ExchangeEvent, event.Arrival → step source s event = none)
    (id : Nat) : ¬ s.Underway id := by
  have hqueue : s.toWorker = [] := by
    have hnone := h .receive trivial
    rw [step] at hnone
    split at hnone
    · assumption
    · cases hnone
  have hawaited : s.awaited = none := Option.map_eq_none_iff.mp (h (.initialized none) trivial)
  have hreplies : s.toClient = [] := by
    have hnone := h (.deliver fun _ => none) trivial
    rw [step] at hnone
    split at hnone
    · assumption
    · cases hnone
  simp [Underway, hqueue, hawaited, hreplies]

/-- While the worker listens, every order of arrivals ends, and then every exchange has its outcome.
What the worker posted answers a command, no two replies the same one. -/
theorem exchange_answered {events : List ExchangeEvent}
    (hrun : events.foldlM (step source) opened = some s) :
    (s.posted.map (·.id)).Nodup
      ∧ (∀ reply ∈ s.posted, ∃ exchange ∈ s.exchanges, exchange.command.id = reply.id
        ∧ Answers source exchange.command.request reply)
      ∧ (s.stage ≠ .closed → ∀ (arrivals : List ExchangeEvent) (t : ProofWorkerLink),
        (∀ event ∈ arrivals, event.Arrival) → arrivals.foldlM (step source) s = some t →
          arrivals.length ≤ s.owed
            ∧ ((∀ event : ExchangeEvent, event.Arrival → step source t event = none) →
              ∀ exchange ∈ t.exchanges, isSafeInteger exchange.command.id →
                exchange.outcome.isSome)) := by
  have hkept (r : ProofWorkerLink) (event : ExchangeEvent) (next : ProofWorkerLink)
      (h : r.Inv source ∧ r.Waits) (hnext : step source r event = some next) :
      next.Inv source ∧ next.Waits := ⟨inv_step h.1 hnext, waits_step h.1 h.2 hnext⟩
  have hboth := foldlM_invariant hkept ⟨inv_opened, waits_opened⟩ hrun
  have hs := hboth.1
  refine ⟨List.nodup_iff_count.mpr fun id => ?_, fun reply hreply => ?_, ?_⟩
  · have hone := hs.once id
    rw [count] at hone
    omega
  · obtain ⟨command, hcommand, hanswers⟩ := hs.answered reply hreply
    obtain ⟨exchange, hexchange, rfl⟩ := List.mem_map.mp hcommand
    exact ⟨exchange, hexchange, hanswers⟩
  · intro hopen arrivals t harrivals hmore
    obtain ⟨howed, hlater⟩ := owed_run harrivals hmore
    refine ⟨by omega, fun hended exchange hmem hsafe => ?_⟩
    have hwaits := (foldlM_invariant hkept hboth hmore).2
    refine Option.isSome_iff_ne_none.mpr fun hnone => ?_
    exact not_underway hended _ (hwaits.pending (hlater hopen) exchange hmem hnone hsafe)

theorem exchange_answered_sample : ∃ s t, sampleRun.foldlM (step sampleSource) opened = some s
    ∧ [.deliver fun _ => none].foldlM (step sampleSource) s = some t
    ∧ (s.posted.map (·.id)).Nodup
    ∧ ∀ exchange ∈ t.exchanges, isSafeInteger exchange.command.id → exchange.outcome.isSome := by
  have hrun : sampleRun.foldlM (step sampleSource) opened = some _ := rfl
  have h := exchange_answered hrun
  refine ⟨_, _, rfl, rfl, h.1, ?_⟩
  have hdelivered := h.2.2 WorkerStage.noConfusion [.deliver fun _ => none] _
    (List.forall_mem_singleton.mpr trivial) rfl
  refine hdelivered.2 fun event harrival => ?_
  cases event with
  | receive | initialized | deliver => rfl
  | _ => exact harrival.elim

end ProofWorkerLink

end FormspecWeb.SourceWorker
