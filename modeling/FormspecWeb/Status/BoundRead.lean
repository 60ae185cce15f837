import FormspecWeb.Status.HttpStatusReader

/-!
# A status read is bound to one session

What a read resolves with was asked for with the token of the state it selected, and that state was
the published one as the request was sent and as the read resolved. A state that is published in
between ends the read, and the read then asks for a sign-in.
-/

namespace FormspecWeb.Status

open Shared Identity Identity.Credentials Async

def Superseded (state : BrowserAuthSessionState) (credentials : Credentials) : Prop :=
  ∃ publication ∈ credentials.published, state.revision < publication.revision

structure Holds (config : HttpStatusReaderConfig) (state : BrowserAuthSessionState)
    (credentials : Credentials) (now : Rat) : Prop where
  published : credentials.published.head? = some ⟨state.revision, some state⟩
  unexpired : config.unexpired state now = true

def IsTokenOf (config : HttpStatusReaderConfig) (token : String) (state : BrowserAuthSessionState)
    (credentials : Credentials) : Prop :=
  ∃ user, credentials.user = some user ∧ user.accessToken = some token
    ∧ state = config.browserAuthSession.describe user state.revision

def StatusEntry.isEnd : StatusEntry → Bool
  | dispatched _ _ _ => false
  | _ => true

namespace StatusRead

/-- The steps of the call itself, of which none waits for the session or the server. -/
def Event.isOwn : Event → Bool
  | deliver _ _ | caught | interrupt => true
  | _ => false

structure BoundToSession (config : HttpStatusReaderConfig) (s : StatusRead) : Prop where
  resolves : ∀ value returned now, .resolved value returned now ∈ s.log →
    config.isDetail value = true ∧ ∃ state token sent sentAt,
      s.selected = some state ∧ state.issuer = config.issuer
        ∧ s.log = [.resolved value returned now, .dispatched ⟨config.path, token⟩ sent sentAt]
        ∧ IsTokenOf config token state sent
        ∧ Holds config state sent sentAt ∧ Holds config state returned now
  refuses : ∀ state failure returned, s.selected = some state → .rejected failure returned ∈ s.log →
    Superseded state returned → failure = .status .signInRequired
  withholds : ∀ state value returned now, s.selected = some state →
    .resolved value returned now ∈ s.log → ¬ Superseded state returned
  ends : ∀ state, s.selected = some state → s.stage ≠ .settled →
    Superseded state s.session.credentials →
    ∃ (events : List Event) (reached : StatusRead) (returned : Credentials),
      (∀ event ∈ events, event.isOwn = true) ∧ events.foldlM (step config) s = some reached
        ∧ .rejected (.status .signInRequired) returned ∈ reached.log

/-! ## The invariant -/

def Sent (config : HttpStatusReaderConfig) (selected : Option BrowserAuthSessionState)
    (log : List StatusEntry) : Prop :=
  ∃ state token sent sentAt, selected = some state
    ∧ log = [.dispatched ⟨config.path, token⟩ sent sentAt]
    ∧ IsTokenOf config token state sent ∧ Holds config state sent sentAt

def Open (config : HttpStatusReaderConfig) (s : StatusRead) : Prop :=
  s.subscribed = true ∧ ∃ state, s.selected = some state ∧ state.issuer = config.issuer

/-- Unless the call is retired, the token is the access token of the user that is admitted. -/
def Held (s : StatusRead) (token : String) : Prop :=
  s.retired = true ∨ ∃ user, s.session.credentials.user = some user ∧ user.accessToken = some token

inductive Ended (config : HttpStatusReaderConfig) (selected : Option BrowserAuthSessionState) :
    List StatusEntry → Prop where
  | rejected {failure : StatusFailure} {returned : Credentials} {log : List StatusEntry}
      (sent : log = [] ∨ Sent config selected log)
      (refused : ∀ state, selected = some state → Superseded state returned →
        failure = .status .signInRequired) : Ended config selected (.rejected failure returned :: log)
  | resolved {value : Value} {returned : Credentials} {now : Rat} {log : List StatusEntry}
      {state : BrowserAuthSessionState} (sent : Sent config selected log)
      (detail : config.isDetail value = true) (selects : selected = some state)
      (issuer : state.issuer = config.issuer) (holds : Holds config state returned now)
      (last : ¬ Superseded state returned) :
      Ended config selected (.resolved value returned now :: log)

def StageInv (config : HttpStatusReaderConfig) (s : StatusRead) : Prop :=
  match s.stage with
  | .idle | .selecting _ => s.subscribed = false ∧ s.selected = none ∧ s.log = []
  | .token _ => s.Open config ∧ s.log = []
  | .provided token => s.Open config ∧ s.log = [] ∧ ∀ text, token = some text → s.Held text
  | .authorized token => s.Open config ∧ s.log = [] ∧ s.Held token
  | .requested | .reading _ | .received _ => s.Open config ∧ Sent config s.selected s.log
  | .failing _ => s.Open config ∧ (s.log = [] ∨ Sent config s.selected s.log)
  | .settled => s.subscribed = false ∧ Ended config s.selected s.log

structure Tracks (config : HttpStatusReaderConfig) (s : StatusRead) : Prop where
  consistent : s.session.credentials.Consistent config.browserAuthSession
  /-- While the call listens, it goes by the published state, or is retired. -/
  follows : s.subscribed = true →
    s.retired = true ∨ s.session.credentials.state = s.selected
  stops : s.retired = true → s.lifetime.isSome = true

structure Inv (config : HttpStatusReaderConfig) (s : StatusRead) : Prop extends Tracks config s where
  stage : s.StageInv config

variable {config : HttpStatusReaderConfig} {s t : StatusRead} {state : BrowserAuthSessionState}
  {failure : StatusFailure} {guard : Option StatusFailure} {now : Rat}

theorem inv_opened : opened.Inv config where
  consistent := consistent_opened
  follows h := by cases h
  stops h := by cases h
  stage := ⟨rfl, rfl, rfl⟩

theorem not_superseded {credentials : Credentials}
    (hc : credentials.Consistent config.browserAuthSession)
    (hstate : credentials.state = some state) : ¬ Superseded state credentials := by
  rintro ⟨publication, hmem, hlt⟩
  have hle := hc.revision_le hstate publication hmem
  omega

theorem retired_of_superseded (h : s.Tracks config) (hsubscribed : s.subscribed = true)
    (hselected : s.selected = some state) (hsuperseded : Superseded state s.session.credentials) :
    s.retired = true := by
  rcases h.follows hsubscribed with hretired | hstate
  · exact hretired
  · exact absurd hsuperseded (not_superseded h.consistent (hstate.trans hselected))

theorem assertCurrent_ok (h : s.assertCurrent config guard now = .ok ()) :
    s.retired = false ∧ s.controller = false ∧ s.selected.any (config.unexpired · now) = true := by
  rw [assertCurrent] at h
  split at h
  · cases h
  split at h
  · cases h
  · next hopen =>
    split at h
    · cases h
    · next hcontroller => simp_all

theorem check_ok (h : s.check config guard now = .ok ()) :
    s.assertCurrent config guard now = .ok () := by
  rw [check] at h
  split at h
  · cases h
  · exact h

theorem holds_of_checked (h : s.Tracks config) (hsubscribed : s.subscribed = true)
    (hselected : s.selected = some state) (hchecked : s.assertCurrent config guard now = .ok ()) :
    s.session.credentials.state = some state ∧ Holds config state s.session.credentials now := by
  obtain ⟨hretired, -, hunexpired⟩ := assertCurrent_ok hchecked
  have hstate : s.session.credentials.state = some state := by
    rcases h.follows hsubscribed with htrue | hstate
    · rw [hretired] at htrue
      cases htrue
    · exact hstate.trans hselected
  refine ⟨hstate, ⟨(h.consistent.published_head hstate).1, ?_⟩⟩
  rw [hselected] at hunexpired
  exact hunexpired

theorem selected_observe (session : OidcBrowserAuthSession) :
    (s.observe session).selected = s.selected ∧ (s.observe session).subscribed = s.subscribed
      ∧ (s.observe session).stage = s.stage ∧ (s.observe session).log = s.log
      ∧ (s.observe session).session = session ∧ (s.observe session).signal = s.signal := by
  rw [observe]
  split <;> exact ⟨rfl, rfl, rfl, rfl, rfl, rfl⟩

variable {session : OidcBrowserAuthSession}

theorem retired_observe (h : s.retired = true) :
    (s.observe session).retired = true := by
  rw [observe]
  split
  · rfl
  · exact h

theorem observe_cases (h : s.Tracks config)
    (hmoves : Moves config.browserAuthSession s.session.credentials session.credentials)
    (hsubscribed : s.subscribed = true) (hselected : s.selected = some state) :
    (s.observe session).retired = true ∨ session.credentials.user = s.session.credentials.user
      ∧ session.credentials.state = s.session.credentials.state := by
  by_cases hretired : s.retired = true
  · exact Or.inl (retired_observe hretired)
  · rcases hmoves.publishes h.consistent with ⟨-, huser, hstate⟩ | ⟨first, rest, hnew, hlt⟩
    · exact Or.inr ⟨huser, hstate⟩
    · refine Or.inl ?_
      have hheld := ((h.follows hsubscribed).resolve_left hretired).trans hselected
      have hle := (h.consistent.published_head hheld).2
      have hmem : first ∈ session.credentials.published := by
        rw [hnew]
        exact List.mem_cons_self
      have hlistens : s.listens first.state = true := by
        rw [listens, hsubscribed, hselected, Bool.true_and, bne_iff_ne]
        exact (hmoves.consistent h.consistent).not_held hmem
          (Nat.lt_of_le_of_lt hle (hlt first List.mem_cons_self))
      have hany : (s.session.credentials.publishedSince session.credentials).any
          (fun publication => s.listens publication.state) = true := by
        rw [publishedSince_append hnew, List.any_cons, hlistens, Bool.true_or]
      rw [observe, if_pos hany]
      rfl

theorem stops_observe (h : s.retired = true → s.lifetime.isSome = true) :
    (s.observe session).retired = true → (s.observe session).lifetime.isSome = true := by
  rw [observe]
  split
  · intro _
    exact Option.isSome_or.trans (Bool.or_true _)
  · exact h

theorem held_observe {token : String} (h : s.Tracks config)
    (hmoves : Moves config.browserAuthSession s.session.credentials session.credentials)
    (hopen : s.Open config) (htoken : s.Held token) : (s.observe session).Held token := by
  obtain ⟨hsubscribed, state, hselected, -⟩ := hopen
  rcases htoken with hretired | ⟨user, huser, htoken⟩
  · exact Or.inl (retired_observe hretired)
  · rcases observe_cases h hmoves hsubscribed hselected with hretired | ⟨hsame, -⟩
    · exact Or.inl hretired
    · refine Or.inr ⟨user, ?_, htoken⟩
      rw [(selected_observe session).2.2.2.2.1, hsame]
      exact huser

theorem open_observe (h : s.Open config) :
    (s.observe session).Open config := by
  obtain ⟨hsel, hsub, -⟩ := selected_observe (s := s) session
  rw [Open, hsel, hsub]
  exact h

theorem stageInv_observe (h : s.Inv config)
    (hmoves : Moves config.browserAuthSession s.session.credentials session.credentials) :
    (s.observe session).StageInv config := by
  obtain ⟨hselected, hsubscribed, hstage, hlog, -⟩ := selected_observe (s := s) session
  have hinv := h.stage
  rw [StageInv] at hinv ⊢
  rw [hstage, hlog]
  cases heq : s.stage with
  | idle | selecting _ =>
    rw [heq] at hinv
    rw [hselected, hsubscribed]
    exact hinv
  | token _ =>
    rw [heq] at hinv
    exact ⟨open_observe hinv.1, hinv.2⟩
  | provided token =>
    rw [heq] at hinv
    exact ⟨open_observe hinv.1, hinv.2.1, fun text htext =>
      held_observe h.toTracks hmoves hinv.1 (hinv.2.2 text htext)⟩
  | authorized token =>
    rw [heq] at hinv
    exact ⟨open_observe hinv.1, hinv.2.1, held_observe h.toTracks hmoves hinv.1 hinv.2.2⟩
  | requested | reading _ | received _ =>
    rw [heq] at hinv
    rw [hselected]
    exact ⟨open_observe hinv.1, hinv.2⟩
  | failing _ =>
    rw [heq] at hinv
    rw [hselected]
    exact ⟨open_observe hinv.1, hinv.2⟩
  | settled =>
    rw [heq] at hinv
    rw [hselected, hsubscribed]
    exact hinv

theorem open_of_subscribed (h : s.StageInv config) (hsubscribed : s.subscribed = true) :
    s.Open config := by
  rw [StageInv] at h
  cases heq : s.stage with
  | idle | selecting _ | settled =>
    rw [heq, hsubscribed] at h
    cases h.1
  | token _ | provided _ | authorized _ | requested | reading _ | received _ | failing _ =>
    rw [heq] at h
    exact h.1

theorem tracks_observe (h : s.Tracks config)
    (hopen : s.subscribed = true → s.Open config)
    (hmoves : Moves config.browserAuthSession s.session.credentials session.credentials) :
    (s.observe session).Tracks config := by
  obtain ⟨hselected, hsubscribed, -, -, hsession, -⟩ := selected_observe (s := s) session
  refine ⟨?_, ?_, stops_observe h.stops⟩
  · rw [hsession]
    exact hmoves.consistent h.consistent
  · intro hlistens
    rw [hsubscribed] at hlistens
    obtain ⟨-, state, hstate, -⟩ := hopen hlistens
    rcases observe_cases h hmoves hlistens hstate with hretired | ⟨-, hsame⟩
    · exact Or.inl hretired
    · rcases h.follows hlistens with hretired | hfollows
      · exact Or.inl (retired_observe hretired)
      · refine Or.inr ?_
        rw [hsession, hselected, hsame]
        exact hfollows

theorem inv_observe (h : s.Inv config)
    (hmoves : Moves config.browserAuthSession s.session.credentials session.credentials) :
    (s.observe session).Inv config where
  toTracks := tracks_observe h.toTracks (open_of_subscribed h.stage) hmoves
  stage := stageInv_observe h hmoves

theorem rethrown_of_superseded (h : s.Tracks config) (hopen : s.Open config)
    (hselected : s.selected = some state) (hsuperseded : Superseded state s.session.credentials) :
    s.rethrown failure = .status .signInRequired := by
  unfold rethrown
  exact if_pos (retired_of_superseded h hopen.1 hselected hsuperseded)

theorem lifetime_abortController : s.abortController.lifetime.isSome = true :=
  Option.isSome_or.trans (Bool.or_true _)

section

variable (h : s.Tracks config)
include h

theorem inv_caught (hopen : s.Open config)
    (hsent : s.log = [] ∨ Sent config s.selected s.log) : (s.caught failure).Inv config where
  consistent := h.consistent
  follows hsubscribed := by cases hsubscribed
  stops _ := lifetime_abortController
  stage := ⟨rfl, .rejected hsent fun _ hselected hsuperseded =>
    rethrown_of_superseded h hopen hselected hsuperseded⟩

theorem inv_reject (hselected : s.selected = none) (hlog : s.log = []) :
    (s.reject failure).Inv config where
  __ := h
  follows hsubscribed := by cases hsubscribed
  stage := ⟨rfl, .rejected (Or.inl hlog) fun _ hsome => by
    rw [reject, hselected] at hsome
    cases hsome⟩

theorem inv_stage {stage : StatusStage}
    (hstage : ({ s with stage := stage } : StatusRead).StageInv config) :
    ({ s with stage := stage } : StatusRead).Inv config where
  __ := h
  stage := hstage

theorem inv_throws (hopen : s.Open config)
    (hsent : s.log = [] ∨ Sent config s.selected s.log) : (s.throws failure).Inv config :=
  inv_stage h ⟨hopen, hsent⟩

theorem inv_passing {checked : Except StatusFailure Unit}
    (hopen : s.Open config) (hsent : s.log = [] ∨ Sent config s.selected s.log)
    (hnext : checked = .ok () → t.Inv config) : (s.passing checked t).Inv config := by
  cases hchecked : checked with
  | ok => exact hnext hchecked
  | error failure => exact inv_throws h hopen hsent

theorem tracks_callSession (hopen : s.subscribed = true → s.Open config)
    (clock : Rat) : (s.callSession config clock).Tracks config :=
  tracks_observe h hopen (OidcBrowserAuthSession.effect_getSession clock).moves

end

theorem inv_readStatus (h : s.Inv config) (hstage : s.stage = .idle) (request : StatusRequest)
    (guard : Option StatusFailure) (clock : Rat) :
    (s.readStatus config request guard clock).Inv config := by
  have hinv := h.stage
  rw [StageInv, hstage] at hinv
  obtain ⟨hsubscribed, hselected, hlog⟩ := hinv
  rw [readStatus]
  split
  · exact inv_reject h.toTracks hselected hlog
  split
  · exact inv_reject h.toTracks hselected hlog
  · obtain ⟨hsel, hsub, -, hsame, -⟩ :=
      selected_observe (s := s) (s.session.getSession config.browserAuthSession clock)
    refine inv_stage (tracks_callSession h.toTracks (fun hlistens => ?_) clock) ⟨?_, ?_, ?_⟩
    · rw [hsubscribed] at hlistens
      cases hlistens
    · exact hsub.trans hsubscribed
    · exact hsel.trans hselected
    · exact hsame.trans hlog

theorem tracks_subscribe (h : s.Tracks config) (selected : BrowserAuthSessionState) :
    (s.subscribe selected).Tracks config := by
  rw [subscribe]
  split
  · exact {
      consistent := h.consistent
      follows := fun _ => Or.inl rfl
      stops := fun _ => lifetime_abortController }
  · next hsame =>
    refine ⟨h.consistent, fun _ => Or.inr ?_, h.stops⟩
    simpa [listens] using hsame

theorem subscribe_selected (selected : BrowserAuthSessionState) :
    (s.subscribe selected).selected = some selected ∧ (s.subscribe selected).subscribed = true
      ∧ (s.subscribe selected).log = s.log := by
  rw [subscribe]
  split <;> exact ⟨rfl, rfl, rfl⟩

theorem inv_getJson (h : s.Tracks config) (hopen : s.Open config) (hlog : s.log = [])
    (guards : Nat → Option StatusFailure) (now clock : Rat) :
    (s.getJson config guards now clock).Inv config := by
  obtain ⟨hsel, hsub, -, hsame, -⟩ :=
    selected_observe (s := s) (s.session.getSession config.browserAuthSession clock)
  refine inv_passing h hopen (Or.inl hlog) fun _ => inv_passing h hopen (Or.inl hlog) fun _ => ?_
  refine inv_stage (tracks_callSession h (fun _ => hopen) clock) ⟨?_, hsame.trans hlog⟩
  exact open_observe hopen

section

variable (h : s.Inv config)
include h

theorem inv_select {read : Nat} (hstage : s.stage = .selecting read)
    (answer : Option BrowserAuthSessionState) (guards : Nat → Option StatusFailure)
    (now clock : Rat) : (s.select config answer guards now clock).Inv config := by
  have hinv := h.stage
  rw [StageInv, hstage] at hinv
  obtain ⟨-, hselected, hlog⟩ := hinv
  rw [select]
  split
  · exact inv_reject h.toTracks hselected hlog
  · next selected hadmits =>
    have htracks := tracks_subscribe h.toTracks selected
    obtain ⟨hsel, hsub, hsame⟩ := subscribe_selected (s := s) selected
    have hadmitted := (Option.filter_eq_some_iff.mp hadmits).2
    rw [HttpStatusReaderConfig.admits, Bool.and_eq_true, beq_iff_eq] at hadmitted
    have hopen : (s.subscribe selected).Open config := ⟨hsub, selected, hsel, hadmitted.1⟩
    have hempty := hsame.trans hlog
    simp only
    split
    · exact inv_caught htracks hopen (Or.inl hempty)
    split
    · exact inv_caught htracks hopen (Or.inl hempty)
    · exact inv_getJson htracks hopen hempty guards now clock

theorem inv_readToken {read : Nat} (hstage : s.stage = .token read) (clock : Rat) :
    (s.readToken config clock).Inv config := by
  have hinv := h.stage
  rw [StageInv, hstage] at hinv
  obtain ⟨hopen, hlog⟩ := hinv
  have hmoves : Moves config.browserAuthSession s.session.credentials
      (s.session.accessToken config.browserAuthSession clock).1.credentials := moves_withdrawInvalid
  obtain ⟨-, -, -, hsame, hsession, -⟩ :=
    selected_observe (s := s) (s.session.accessToken config.browserAuthSession clock).1
  refine inv_stage (tracks_observe h.toTracks (fun _ => hopen) hmoves)
    ⟨open_observe hopen, hsame.trans hlog, fun text htext => Or.inr ?_⟩
  obtain ⟨-, -, hvalid, user, huser, htoken⟩ := OidcBrowserAuthSession.accessToken_some htext
  refine ⟨user, ?_, htoken⟩
  have hkept : (s.session.accessToken config.browserAuthSession clock).1.credentials
      = s.session.credentials := if_pos hvalid
  change (s.observe (s.session.accessToken config.browserAuthSession clock).1).session.credentials.user
    = some user
  rw [hsession, hkept]
  exact huser

theorem inv_provide {token : Option String} (hstage : s.stage = .provided token)
    (guard : Option StatusFailure) (now : Rat) : (s.provide config token guard now).Inv config := by
  have hinv := h.stage
  rw [StageInv, hstage] at hinv
  obtain ⟨hopen, hlog, hheld⟩ := hinv
  refine inv_passing h.toTracks hopen (Or.inl hlog) fun _ => ?_
  split
  · next text htext =>
    exact inv_stage h.toTracks ⟨hopen, hlog, hheld text (Option.filter_eq_some_iff.mp htext).1⟩
  · exact inv_throws h.toTracks hopen (Or.inl hlog)

theorem inv_dispatch {token : String} (hstage : s.stage = .authorized token)
    (guard : Option StatusFailure) (now : Rat) : (s.dispatch config token guard now).Inv config := by
  have hinv := h.stage
  rw [StageInv, hstage] at hinv
  obtain ⟨hopen, hlog, hheld⟩ := hinv
  refine inv_passing h.toTracks hopen (Or.inl hlog) fun hchecked => ?_
  have hcurrent := check_ok hchecked
  obtain ⟨hsubscribed, state, hselected, hissuer⟩ := hopen
  obtain ⟨hpublished, hholds⟩ := holds_of_checked h.toTracks hsubscribed hselected hcurrent
  obtain ⟨user, huser, htoken⟩ := hheld.resolve_left (by simp [(assertCurrent_ok hcurrent).1])
  have hdescribed : state
      = config.browserAuthSession.describe user s.session.credentials.revision :=
    Option.some.inj (hpublished.symm.trans (h.consistent.described user huser))
  have hrevision : state.revision = s.session.credentials.revision := by
    rw [hdescribed]
    rfl
  exact { h with
    stage := ⟨⟨hsubscribed, state, hselected, hissuer⟩, state, token, _, now, hselected, by rw [hlog],
      ⟨user, huser, htoken, hrevision ▸ hdescribed⟩, hholds⟩ }

theorem inv_reply (hstage : s.stage = .requested)
    (answer : Except StatusFailure StatusReply) (guard : Option StatusFailure) (now : Rat) :
    (s.reply config answer guard now).Inv config := by
  have hinv := h.stage
  rw [StageInv, hstage] at hinv
  obtain ⟨hopen, hsent⟩ := hinv
  cases answer with
  | error failure => exact inv_throws h.toTracks hopen (Or.inr hsent)
  | ok reply =>
    refine inv_passing h.toTracks hopen (Or.inr hsent) fun _ => ?_
    split
    · exact inv_stage h.toTracks ⟨hopen, hsent⟩
    · exact inv_throws h.toTracks hopen (Or.inr hsent)

theorem inv_body {status : Nat} (hstage : s.stage = .reading status)
    (payload : Except StatusFailure Value) (guard : Option StatusFailure) (now : Rat) :
    (s.body config status payload guard now).Inv config := by
  have hinv := h.stage
  rw [StageInv, hstage] at hinv
  obtain ⟨hopen, hsent⟩ := hinv
  cases payload with
  | error failure => exact inv_throws h.toTracks hopen (Or.inr hsent)
  | ok value =>
    refine inv_passing h.toTracks hopen (Or.inr hsent) fun _ => ?_
    split
    · exact inv_stage h.toTracks ⟨hopen, hsent⟩
    · exact inv_throws h.toTracks hopen (Or.inr hsent)

theorem inv_deliver {value : Value} (hstage : s.stage = .received value)
    (guard : Option StatusFailure) (now : Rat) : (s.deliver config value guard now).Inv config := by
  have hinv := h.stage
  rw [StageInv, hstage] at hinv
  obtain ⟨hopen, hsent⟩ := hinv
  rw [deliver]
  split
  · exact inv_caught h.toTracks hopen (Or.inr hsent)
  · next hchecked =>
    split
    · next hdetail =>
      obtain ⟨hsubscribed, state, hselected, hissuer⟩ := hopen
      obtain ⟨hpublished, hholds⟩ := holds_of_checked h.toTracks hsubscribed hselected hchecked
      exact {
        consistent := h.consistent
        follows := nofun
        stops := fun _ => lifetime_abortController
        stage := ⟨rfl, .resolved hsent hdetail hselected hissuer hholds
          (not_superseded h.consistent hpublished)⟩ }
    · exact inv_caught h.toTracks hopen (Or.inr hsent)

theorem inv_abort (reason : StatusFailure) : (s.abort reason).Inv config := by
  rw [abort]
  split
  · exact { h with
      stops := fun _ => lifetime_abortController
      stage := h.stage }
  · exact { h with
      stage := h.stage }

theorem inv_interrupt (hstep : s.interrupt = some t) : t.Inv config := by
  have hinv := h.stage
  rw [StageInv] at hinv
  rw [interrupt] at hstep
  cases hstage : s.stage with
  | selecting read =>
    rw [hstage] at hinv hstep
    obtain ⟨reason, -, rfl⟩ := Option.map_eq_some_iff.mp hstep
    exact inv_reject h.toTracks hinv.2.1 hinv.2.2
  | token read | provided token | authorized token =>
    rw [hstage] at hinv hstep
    obtain ⟨reason, -, rfl⟩ := Option.map_eq_some_iff.mp hstep
    first
      | exact inv_throws h.toTracks hinv.1 (Or.inl hinv.2.1)
      | exact inv_throws h.toTracks hinv.1 (Or.inl hinv.2)
  | requested | reading status =>
    rw [hstage] at hinv hstep
    obtain ⟨reason, -, rfl⟩ := Option.map_eq_some_iff.mp hstep
    exact inv_throws h.toTracks hinv.1 (Or.inr hinv.2)
  | idle | received _ | failing _ | settled =>
    rw [hstage] at hstep
    cases hstep

theorem inv_step {event : Event} (hstep : s.step config event = some t) :
    t.Inv config := by
  cases event with
  | session event =>
    obtain ⟨session, hsession, rfl⟩ := Option.map_eq_some_iff.mp hstep
    exact inv_observe h (OidcBrowserAuthSession.moves_step hsession)
  | readStatus request guard clock =>
    rw [step] at hstep
    split at hstep
    · next hstage => exact Option.some.inj hstep ▸ inv_readStatus h hstage request guard clock
    · cases hstep
  | select guards now clock =>
    rw [step] at hstep
    split at hstep
    · next hstage =>
      obtain ⟨answer, -, rfl⟩ := Option.map_eq_some_iff.mp hstep
      exact inv_select h hstage answer guards now clock
    · cases hstep
  | readToken clock =>
    rw [step] at hstep
    split at hstep
    · next hstage =>
      obtain ⟨_, -, rfl⟩ := Option.map_eq_some_iff.mp hstep
      exact inv_readToken h hstage clock
    · cases hstep
  | provide guard now =>
    rw [step] at hstep
    split at hstep
    · next hstage => exact Option.some.inj hstep ▸ inv_provide h hstage guard now
    · cases hstep
  | dispatch guard now =>
    rw [step] at hstep
    split at hstep
    · next hstage => exact Option.some.inj hstep ▸ inv_dispatch h hstage guard now
    · cases hstep
  | reply answer guard now =>
    rw [step] at hstep
    split at hstep
    · next hstage => exact Option.some.inj hstep ▸ inv_reply h hstage answer guard now
    · cases hstep
  | body payload guard now =>
    rw [step] at hstep
    split at hstep
    · next hstage => exact Option.some.inj hstep ▸ inv_body h hstage payload guard now
    · cases hstep
  | deliver guard now =>
    rw [step] at hstep
    split at hstep
    · next hstage => exact Option.some.inj hstep ▸ inv_deliver h hstage guard now
    · cases hstep
  | caught =>
    rw [step] at hstep
    split at hstep
    · next hstage =>
      have hinv := h.stage
      rw [StageInv, hstage] at hinv
      exact Option.some.inj hstep ▸ inv_caught h.toTracks hinv.1 hinv.2
    · cases hstep
  | abort reason =>
    rw [step] at hstep
    split at hstep
    · cases hstep
    · exact Option.some.inj hstep ▸ inv_abort h reason
  | timeout =>
    rw [step] at hstep
    split at hstep
    · rw [← Option.some.inj hstep]
      exact { h with
        stops := fun _ => Option.isSome_or.trans (Bool.or_true _)
        stage := h.stage }
    · cases hstep
  | interrupt => exact inv_interrupt h hstep

end

/-! ## What holds of every run -/

theorem ended_of_mem (h : s.StageInv config) {entry : StatusEntry} (hmem : entry ∈ s.log)
    (hends : entry.isEnd = true) : Ended config s.selected s.log := by
  have hempty : s.log ≠ [] := List.ne_nil_of_mem hmem
  have hunsent : ¬ Sent config s.selected s.log := by
    rintro ⟨_, _, _, _, -, hlog, -⟩
    rw [hlog, List.mem_singleton] at hmem
    rw [hmem] at hends
    cases hends
  rw [StageInv] at h
  cases hstage : s.stage with
  | idle | selecting _ =>
    rw [hstage] at h
    exact absurd h.2.2 hempty
  | token _ =>
    rw [hstage] at h
    exact absurd h.2 hempty
  | provided _ | authorized _ =>
    rw [hstage] at h
    exact absurd h.2.1 hempty
  | requested | reading _ | received _ =>
    rw [hstage] at h
    exact absurd h.2 hunsent
  | failing _ =>
    rw [hstage] at h
    exact absurd h.2 (not_or.mpr ⟨hempty, hunsent⟩)
  | settled =>
    rw [hstage] at h
    exact h.2

theorem open_of_selected (h : s.StageInv config) (hselected : s.selected = some state)
    (hstage : s.stage ≠ .settled) : s.Open config := by
  rw [StageInv] at h
  cases heq : s.stage with
  | idle | selecting _ =>
    rw [heq, hselected] at h
    cases h.2.1
  | token _ | provided _ | authorized _ | requested | reading _ | received _ | failing _ =>
    rw [heq] at h
    exact h.1
  | settled => exact absurd heq hstage

theorem log_caught (hretired : s.retired = true) :
    (s.caught failure).log = .rejected (.status .signInRequired) s.session.credentials :: s.log := by
  change StatusEntry.rejected (s.rethrown failure) _ :: _ = _
  have hrethrown : s.rethrown failure = .status .signInRequired := by
    unfold rethrown
    exact if_pos hretired
  rw [hrethrown]

theorem ends_of_retired (h : s.Inv config) (hopen : s.Open config) (hretired : s.retired = true)
    (hstage : s.stage ≠ .settled) :
    ∃ (events : List Event) (reached : StatusRead) (returned : Credentials),
      (∀ event ∈ events, event.isOwn = true) ∧ events.foldlM (step config) s = some reached
        ∧ .rejected (.status .signInRequired) returned ∈ reached.log := by
  obtain ⟨reason, hreason⟩ := Option.isSome_iff_exists.mp (h.stops hretired)
  have hinv := h.stage
  rw [StageInv] at hinv
  cases heq : s.stage with
  | idle | selecting _ =>
    rw [heq, hopen.1] at hinv
    cases hinv.1
  | token _ | provided _ | authorized _ | requested | reading _ =>
    have hinterrupt : s.interrupt = some (s.throws reason) := by
      rw [interrupt, heq]
      simp [StatusStage.inClient, hreason]
    refine ⟨[.interrupt, .caught], (s.throws reason).caught reason, s.session.credentials,
      by simp [Event.isOwn], ?_, ?_⟩
    · simp only [List.foldlM_cons, List.foldlM_nil, step, hinterrupt]
      rfl
    · rw [log_caught (s := s.throws reason) hretired]
      exact List.mem_cons_self
  | received value =>
    obtain ⟨error, herror⟩ : ∃ error, s.assertCurrent config none 0 = .error error := by
      rw [assertCurrent, Option.none_or]
      cases s.signal with
      | some error => exact ⟨error, rfl⟩
      | none => exact ⟨.status .signInRequired, if_pos (by simp [hretired])⟩
    refine ⟨[.deliver none 0], s.caught error, s.session.credentials, by simp [Event.isOwn], ?_, ?_⟩
    · simp only [List.foldlM_cons, List.foldlM_nil, step, heq, deliver, herror]
      rfl
    · rw [log_caught hretired]
      exact List.mem_cons_self
  | failing error =>
    refine ⟨[.caught], s.caught error, s.session.credentials, by simp [Event.isOwn], ?_, ?_⟩
    · simp only [List.foldlM_cons, List.foldlM_nil, step, heq]
      rfl
    · rw [log_caught hretired]
      exact List.mem_cons_self
  | settled => exact absurd heq hstage

theorem ended_cons (h : s.StageInv config) {entry : StatusEntry} (hmem : entry ∈ s.log)
    (hends : entry.isEnd = true) :
    ∃ log, s.log = entry :: log ∧ Ended config s.selected (entry :: log) := by
  have hended := ended_of_mem h hmem hends
  have hsent : ∀ log : List StatusEntry, Sent config s.selected log → entry ∉ log := by
    rintro _ ⟨_, _, _, _, -, rfl, -⟩ hentry
    rw [List.mem_singleton.mp hentry] at hends
    cases hends
  generalize s.log = log at hended hmem
  cases hended with
  | @rejected _ _ log sent refused =>
    rcases List.mem_cons.mp hmem with rfl | hrest
    · exact ⟨log, rfl, .rejected sent refused⟩
    · rcases sent with rfl | sent
      · cases hrest
      · exact absurd hrest (hsent log sent)
  | @resolved _ _ _ log _ sent detail selects issuer holds last =>
    rcases List.mem_cons.mp hmem with rfl | hrest
    · exact ⟨log, rfl, .resolved sent detail selects issuer holds last⟩
    · exact absurd hrest (hsent log sent)

theorem bound_of_inv (h : s.Inv config) : s.BoundToSession config where
  resolves value returned now hmem := by
    obtain ⟨log, hlog, hended⟩ := ended_cons h.stage hmem rfl
    cases hended with
    | resolved sent detail selects issuer holds last =>
      obtain ⟨sender, token, credentials, sentAt, hselected, rfl, htoken, hsent⟩ := sent
      obtain rfl := Option.some.inj (selects.symm.trans hselected)
      exact ⟨detail, _, token, credentials, sentAt, selects, issuer, hlog, htoken, hsent, holds⟩
  refuses state failure returned hselected hmem := by
    obtain ⟨log, -, hended⟩ := ended_cons h.stage hmem rfl
    cases hended with
    | rejected sent refused => exact refused state hselected
  withholds state value returned now hselected hmem := by
    obtain ⟨log, -, hended⟩ := ended_cons h.stage hmem rfl
    cases hended with
    | resolved sent detail selects issuer holds last =>
      obtain rfl := Option.some.inj (selects.symm.trans hselected)
      exact last
  ends state hselected hstage hsuperseded :=
    have hopen := open_of_selected h.stage hselected hstage
    ends_of_retired h hopen (retired_of_superseded h.toTracks hopen.1 hselected hsuperseded) hstage

/-- In every order of the session's steps, the expiries, the aborts, the guards and the replies. -/
theorem status_read_bound {events : List Event} {reached : StatusRead}
    (h : events.foldlM (step config) opened = some reached) : reached.BoundToSession config :=
  bound_of_inv (foldlM_invariant (fun _ _ _ hs hstep => inv_step hs hstep) inv_opened h)

def sampleUser (token : String) : OidcUserLike where
  accessToken := some token
  idToken := none
  profile := .object [("iss", .string "issuer"), ("sub", .string "person")]
  expiresMs := some 9

def sampleConfig : HttpStatusReaderConfig where
  caseLedgerId := "urn:wos:a"
  issuer := "issuer"
  browserAuthSession := ⟨"issuer", ⟨true, true, true, true, true, true⟩,
    fun user => user.accessToken.getD "", fun ms => if ms = 9 then "9" else ""⟩
  client := none
  validateApplicantCaseDetail := fun _ => true
  dateParse text := if text = "9" then some 9 else none

def sampleDetail : Value :=
  .object [("summary", .object [("id", .string "urn:wos:a"), ("actionNeeded", .bool false)]),
    ("openTasks", .array [])]

/-- The driver answers a read of the session with the user that signed in. -/
def sampleReads (read : Nat) : Event := .session (.readUser read (some (some (sampleUser "t"))) 1)

def sampleRun : List Event :=
  [.session (.getSession 1), sampleReads 0, .readStatus ⟨"urn:wos:a", ["resourceRef"]⟩ none 1,
    sampleReads 1, .select (fun _ => none) 1 1, sampleReads 2, .readToken 1, .provide none 1,
    .dispatch none 1, .reply (.ok ⟨200, true⟩) none 1, .body (.ok sampleDetail) none 1,
    .deliver none 1]

theorem status_read_bound_sample : ∃ reached returned,
    sampleRun.foldlM (step sampleConfig) opened = some reached
      ∧ .resolved sampleDetail returned 1 ∈ reached.log ∧ reached.BoundToSession sampleConfig := by
  refine ⟨_, _, rfl, List.mem_cons_self, ?_⟩
  have hrun : sampleRun.foldlM (step sampleConfig) opened = some _ := rfl
  exact status_read_bound hrun

end StatusRead

end FormspecWeb.Status
