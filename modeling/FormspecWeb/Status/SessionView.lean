import FormspecWeb.Status.BoundRead
import FormspecWeb.Status.StatusRuntime

/-!
# The status view follows the sign-in session

A case is shown only while the state it was read under is published and has not expired; behind the
expiry it stays until the timer's callback, due by then, withdraws it. A view whose subscription
replayed a state asks for a sign-in only where that state is published no more or has expired, or where
the status read was itself refused for want of a sign-in.
-/

namespace FormspecWeb.Status

open Shared Identity Identity.Credentials Identity.OidcBrowserAuthSession Policy Async

namespace StatusRuntime

def first (s : StatusRuntime) : Option BrowserAuthSessionState :=
  (s.heard.reverse.filterMap id).head?

def replayed (s : StatusRuntime) : Option BrowserAuthSessionState := s.heard.getLast?.join

/-- The state has expired, by the clock of the view or by the session's own. -/
def Expired (config : StatusRuntimeConfig) (s : StatusRuntime) (state : BrowserAuthSessionState) :
    Prop :=
  config.unexpired state s.now = false
    ∨ s.session.credentials.userValid config.browserAuthSession s.clock = false

/-- A state that was published is superseded, or one of the clocks has passed its expiry. -/
def Past (config : StatusRuntimeConfig) (s : StatusRuntime) (state : BrowserAuthSessionState) : Prop :=
  Superseded state s.session.credentials ∨ s.Expired config state

/-- The view goes by the published state, and its timer is due by the time the state expires. -/
def Live (config : StatusRuntimeConfig) (s : StatusRuntime) : Prop :=
  ∃ state expires due, s.selectedSession = some state ∧ s.session.credentials.state = some state
    ∧ s.replayed = some state ∧ config.expires state = some expires
    ∧ s.expiryTimer = some ⟨expires, due⟩ ∧ due ≤ expires

structure Unused (s : StatusRuntime) : Prop where
  mounted : s.mounted = false
  subscribed : s.subscribed = false
  cancelled : s.cancelled = false
  selected : s.selectedSession = none
  timer : s.expiryTimer = none
  heard : s.heard = []
  view : s.view = .loading

structure Core (config : StatusRuntimeConfig) (s : StatusRuntime) : Prop where
  consistent : s.session.credentials.Consistent config.browserAuthSession
  closed : s.session.Sealed
  unused : s.stage = .idle → s.Unused
  heard : s.subscribed = true → s.heard ≠ []
  unheard : s.subscribed = false → s.expiryTimer = none ∧ (s.mounted = true → s.heard = [])
  known : ∀ state, s.replayed = some state → state.revision ≤ s.session.credentials.revision
  loads : s.cancelled = false → s.stage.isDone = false → s.stage ≠ .idle → s.subscribed = true
  shows : s.mounted = true → s.view.isLoaded = true →
    s.subscribed = true ∧ s.cancelled = false ∧ s.readUnder = s.selectedSession
  reads : ∀ profile status lifecycle, s.stage = .reading profile status lifecycle →
    s.cancelled = false → s.readUnder = s.selectedSession
  selects : ∀ profile read, s.stage = .selecting profile read → s.cancelled = false →
    s.session.reads[read]? = some (.returned none) →
    s.session.credentials.userValid config.browserAuthSession s.clock = false
  asks : s.mounted = true → s.view.asksForSignIn = true → ∀ state, s.replayed = some state →
    s.Past config state ∨ s.stage.isRefused = true

structure Inv (config : StatusRuntimeConfig) (s : StatusRuntime) : Prop extends Core config s where
  live : s.subscribed = true → s.cancelled = false → s.Live config

variable {config : StatusRuntimeConfig} {s t : StatusRuntime} {state : BrowserAuthSessionState}

theorem sealed_opened : OidcBrowserAuthSession.opened.Sealed := fun _ => rfl

theorem inv_opened : opened.Inv config where
  consistent := consistent_opened
  closed := sealed_opened
  unused _ := ⟨rfl, rfl, rfl, rfl, rfl, rfl, rfl⟩
  live h := by cases h
  heard h := by cases h
  unheard _ := ⟨rfl, nofun⟩
  known _ h := by cases h
  loads _ _ h := absurd rfl h
  shows h := by cases h
  reads _ _ _ h := by cases h
  selects _ _ h := by cases h
  asks h := by cases h

theorem superseded_of_moves {credentials next : Credentials} {session : OidcBrowserAuthSessionConfig}
    (hmoves : Moves session credentials next) (hc : credentials.Consistent session)
    (h : Superseded state credentials) : Superseded state next := by
  obtain ⟨publication, hmem, hlt⟩ := h
  refine ⟨publication, ?_, hlt⟩
  rcases hmoves.publishes hc with ⟨hsame, -, -⟩ | ⟨newest, rest, hnew, -⟩
  · rw [hsame]
    exact hmem
  · rw [hnew]
    exact List.mem_append_right _ hmem

theorem past_of_moves {session : OidcBrowserAuthSession}
    (hc : s.session.credentials.Consistent config.browserAuthSession)
    (hmoves : Moves config.browserAuthSession s.session.credentials session.credentials)
    (hknown : state.revision ≤ s.session.credentials.revision) (hpast : s.Past config state)
    (hsession : t.session = session) (hnow : t.now = s.now) (hclock : t.clock = s.clock) :
    t.Past config state := by
  rw [Past, Expired, hsession, hnow, hclock]
  rcases hpast with hsuperseded | hexpired | hinvalid
  · exact Or.inl (superseded_of_moves hmoves hc hsuperseded)
  · exact Or.inr (Or.inl hexpired)
  · rcases hmoves.publishes hc with ⟨-, huser, -⟩ | ⟨newest, rest, hnew, hlt⟩
    · refine Or.inr (Or.inr ?_)
      rw [userValid] at hinvalid ⊢
      rw [huser]
      exact hinvalid
    · refine Or.inl ⟨newest, ?_, Nat.lt_of_le_of_lt hknown (hlt newest List.mem_cons_self)⟩
      rw [hnew]
      exact List.mem_cons_self

theorem userValid_later {session : OidcBrowserAuthSessionConfig} {credentials : Credentials}
    {clock later : Rat} (hle : clock ≤ later) (h : credentials.userValid session clock = false) :
    credentials.userValid session later = false := by
  by_contra hvalid
  rw [Bool.not_eq_false] at hvalid
  obtain ⟨user, huser, hlater⟩ := (Option.any_eq_true _ _).mp hvalid
  rw [OidcBrowserAuthSessionConfig.valid, Bool.and_eq_true] at hlater
  obtain ⟨ms, hms, hexpires⟩ := (Option.any_eq_true _ _).mp hlater.2
  rw [Bool.and_eq_true, decide_eq_true_eq, decide_eq_true_eq] at hexpires
  have hearlier : session.valid user clock = true := by
    rw [OidcBrowserAuthSessionConfig.valid, Bool.and_eq_true]
    refine ⟨hlater.1, (Option.any_eq_true _ _).mpr ⟨ms, hms, ?_⟩⟩
    rw [Bool.and_eq_true, decide_eq_true_eq, decide_eq_true_eq]
    exact ⟨hexpires.1, lt_of_le_of_lt hle hexpires.2⟩
  rw [userValid, huser, Option.any_some, hearlier] at h
  cases h

theorem unexpired_later {now later : Int} (hle : now ≤ later)
    (h : config.unexpired state now = false) : config.unexpired state later = false := by
  rw [StatusRuntimeConfig.unexpired] at h ⊢
  cases hexpires : config.expires state with
  | none => rfl
  | some expires =>
    rw [hexpires, Option.any_some, decide_eq_false_iff_not] at h
    rw [Option.any_some, decide_eq_false_iff_not]
    omega

theorem receive_cancelled (h : s.cancelled = true) (heard : Option BrowserAuthSessionState) :
    s.receive config heard = { s with heard := heard :: s.heard } := by
  unfold receive listen
  exact if_pos h

theorem receive_other (hcancelled : s.cancelled = false) (hselected : s.selectedSession = some state)
    {heard : Option BrowserAuthSessionState} (hne : heard ≠ some state) :
    s.receive config heard
      = { s with heard := heard :: s.heard, cancelled := true, view := .signInRequired } := by
  have hretire : ({ s with heard := heard :: s.heard } : StatusRuntime).retire
      = { s with heard := heard :: s.heard, cancelled := true, view := .signInRequired } := by
    rw [retire]
    exact if_neg (by simp [hcancelled])
  unfold receive listen
  rw [if_neg (by simp [hcancelled]), ← hretire]
  split
  · next other expires hother =>
    split
    · rfl
    · rw [if_pos]
      simp only [hselected, Option.any_some, bne_iff_ne]
      rintro rfl
      exact hne rfl
  · rfl

theorem receives_cancelled (published : List Publication) (h : s.cancelled = true) :
    published.foldr (fun publication s => s.receive config publication.state) s
      = { s with heard := published.map Publication.state ++ s.heard } := by
  induction published with
  | nil => rfl
  | cons publication published ih =>
    rw [List.foldr_cons, ih]
    exact receive_cancelled (s := { s with heard := published.map Publication.state ++ s.heard }) h _

theorem receives_other (published : List Publication) (hpublished : published ≠ [])
    (hcancelled : s.cancelled = false) (hselected : s.selectedSession = some state)
    (hne : ∀ publication ∈ published, publication.state ≠ some state) :
    published.foldr (fun publication s => s.receive config publication.state) s
      = { s with
          heard := published.map Publication.state ++ s.heard
          cancelled := true
          view := .signInRequired } := by
  induction published with
  | nil => exact absurd rfl hpublished
  | cons publication published ih =>
    obtain ⟨hfirst, hrest⟩ := List.forall_mem_cons.mp hne
    rw [List.foldr_cons]
    cases published with
    | nil => exact receive_other hcancelled hselected hfirst
    | cons next published =>
      rw [ih (List.cons_ne_nil _ _) hrest]
      exact receive_cancelled rfl _

section Session

variable {session : OidcBrowserAuthSession} {clock : Option Rat}

theorem replayed_append (new : List (Option BrowserAuthSessionState)) (h : s.heard ≠ [])
    (ht : t.heard = new ++ s.heard) : t.replayed = s.replayed := by
  rw [replayed, replayed, ht, List.getLast?_append_of_ne_nil _ h]

section

variable (h : s.Inv config) (heffect : Effect config.browserAuthSession s.session clock session)
include h heffect

theorem inv_session (hclock : ∀ now, clock = some now → now = s.clock)
    (hquiet : s.subscribed = true → session.credentials.user = s.session.credentials.user
      ∧ session.credentials.state = s.session.credentials.state) :
    ({ s with session := session } : StatusRuntime).Inv config where
  consistent := heffect.moves.consistent h.consistent
  closed := heffect.closed h.closed
  unused hstage := by
    obtain ⟨hmounted, hsubscribed, hcancelled, hselected, htimer, hheard, hview⟩ := h.unused hstage
    exact ⟨hmounted, hsubscribed, hcancelled, hselected, htimer, hheard, hview⟩
  live hsubscribed hcancelled := by
    obtain ⟨state, expires, due, hselected, hstate, hrest⟩ := h.live hsubscribed hcancelled
    exact ⟨state, expires, due, hselected, (hquiet hsubscribed).2.trans hstate, hrest⟩
  __ := h
  known state hreplayed := Nat.le_trans (h.known state hreplayed) heffect.moves.revision_le
  selects profile read hstage hcancelled hread := by
    have hstage : s.stage = .selecting profile read := hstage
    have hsubscribed := h.loads hcancelled (by rw [hstage]; rfl) (by rw [hstage]; simp)
    rcases heffect.refuses h.consistent h.closed read hread with hold | ⟨now, hnow, hinvalid⟩
    · have hinvalid := h.selects profile read hstage hcancelled hold
      rw [userValid] at hinvalid ⊢
      rw [(hquiet hsubscribed).1]
      exact hinvalid
    · exact hclock now hnow ▸ hinvalid
  asks hmounted hasks state hreplayed := by
    rcases h.asks hmounted hasks state hreplayed with hpast | hrefused
    · exact Or.inl (past_of_moves h.consistent heffect.moves (h.known state hreplayed) hpast rfl rfl rfl)
    · exact Or.inr hrefused

theorem inv_retired {view : StatusViewState} {new : List (Option BrowserAuthSessionState)}
    (hsubscribed : s.subscribed = true)
    (hview : s.mounted = true → view.isLoaded = false)
    (hasks : s.mounted = true → view.asksForSignIn = true → ∀ state, s.replayed = some state →
      ({ s with session := session } : StatusRuntime).Past config state ∨ s.stage.isRefused = true) :
    ({ s with session := session, heard := new ++ s.heard, cancelled := true, view := view } :
      StatusRuntime).Inv config := by
  have hreplayed : ∀ u : StatusRuntime, u.heard = new ++ s.heard → u.replayed = s.replayed :=
    fun u hu => replayed_append new (h.heard hsubscribed) hu
  exact {
    consistent := heffect.moves.consistent h.consistent
    closed := heffect.closed h.closed
    unused := fun hstage => absurd ((h.unused hstage).subscribed.symm.trans hsubscribed) (by simp)
    live := fun _ hcancelled => by cases hcancelled
    heard := fun _ hempty => h.heard hsubscribed (List.append_eq_nil_iff.mp hempty).2
    unheard := fun hfalse => absurd (hfalse.symm.trans hsubscribed) (by simp)
    known := fun state hstate => Nat.le_trans
      (h.known state ((hreplayed _ rfl).symm.trans hstate)) heffect.moves.revision_le
    loads := fun hcancelled => by cases hcancelled
    shows := fun hmounted hloaded => absurd ((hview hmounted).symm.trans hloaded) (by simp)
    reads := fun _ _ _ _ hcancelled => by cases hcancelled
    selects := fun _ _ _ hcancelled => by cases hcancelled
    asks := fun hmounted hsign state hstate =>
      hasks hmounted hsign state ((hreplayed _ rfl).symm.trans hstate) }

theorem inv_observe
    (hclock : ∀ now, clock = some now → now = s.clock) : (s.observe config session).Inv config := by
  rw [observe]
  by_cases hsubscribed : s.subscribed = true
  · rw [if_pos hsubscribed]
    by_cases hcancelled : s.cancelled = true
    · rw [receives_cancelled (s := { s with session := session }) _ hcancelled]
      have hsame : ({ s with session := session, heard := (s.session.credentials.publishedSince
          session.credentials).map Publication.state ++ s.heard } : StatusRuntime)
          = { s with
              session := session
              heard := (s.session.credentials.publishedSince session.credentials).map Publication.state
                ++ s.heard
              cancelled := true
              view := s.view } := by
        rw [← hcancelled]
      refine hsame ▸ inv_retired h heffect hsubscribed ?_ ?_
      · intro hmounted
        by_contra hloaded
        have hopen := (h.shows hmounted (by simpa using hloaded)).2.1
        rw [hcancelled] at hopen
        cases hopen
      · intro hmounted hasks state hreplayed
        rcases h.asks hmounted hasks state hreplayed with hpast | hrefused
        · exact Or.inl (past_of_moves h.consistent heffect.moves (h.known state hreplayed) hpast rfl rfl rfl)
        · exact Or.inr hrefused
    · have hopen : s.cancelled = false := by simpa using hcancelled
      obtain ⟨state, _, _, hselected, hstate, hreplayed, -⟩ := h.live hsubscribed hopen
      rcases heffect.moves.publishes h.consistent with ⟨hpublished, huser, hsame⟩ | ⟨first, rest, hnew, hlt⟩
      · rw [publishedSince_append (hpublished.trans (List.nil_append _).symm)]
        exact inv_session h heffect hclock fun _ => ⟨huser, hsame⟩
      · have hle := (h.consistent.published_head hstate).2
        have hafter : ∀ publication ∈ first :: rest, publication.state ≠ some state := by
          intro publication hmem
          refine (heffect.moves.consistent h.consistent).not_held ?_
            (Nat.lt_of_le_of_lt hle (hlt publication hmem))
          rw [hnew]
          exact List.mem_append_left _ hmem
        rw [publishedSince_append hnew,
          receives_other (s := { s with session := session }) _ (List.cons_ne_nil _ _) hopen hselected hafter]
        refine inv_retired (s := s) h heffect hsubscribed (fun _ => rfl) fun _ _ other hother => ?_
        obtain rfl := Option.some.inj (hreplayed.symm.trans hother)
        have hnewer := Nat.lt_of_le_of_lt hle (hlt first List.mem_cons_self)
        refine Or.inl (Or.inl ⟨first, ?_, hnewer⟩)
        change first ∈ session.credentials.published
        rw [hnew]
        exact List.mem_cons_self
  · rw [if_neg hsubscribed]
    exact inv_session h heffect hclock fun htrue => absurd htrue hsubscribed

end

end Session

theorem past_later {now : Int} {clock : Rat} (hnow : s.now ≤ now) (hclock : s.clock ≤ clock)
    (h : s.Past config state) :
    ({ s with now := now, clock := clock } : StatusRuntime).Past config state := by
  rcases h with hsuperseded | hexpired | hinvalid
  · exact Or.inl hsuperseded
  · exact Or.inr (Or.inl (unexpired_later hnow hexpired))
  · exact Or.inr (Or.inr (userValid_later hclock hinvalid))

theorem core_time {now : Int} {clock : Rat} (h : s.Core config) (hnow : s.now ≤ now)
    (hclock : s.clock ≤ clock) :
    ({ s with now := now, clock := clock } : StatusRuntime).Core config where
  __ := h
  unused hstage := by
    obtain ⟨hmounted, hsubscribed, hcancelled, hselected, htimer, hheard, hview⟩ := h.unused hstage
    exact ⟨hmounted, hsubscribed, hcancelled, hselected, htimer, hheard, hview⟩
  selects profile read hstage hcancelled hread :=
    userValid_later hclock (h.selects profile read hstage hcancelled hread)
  asks hmounted hasks state hreplayed := by
    rcases h.asks hmounted hasks state hreplayed with hpast | hrefused
    · exact Or.inl (past_later hnow hclock hpast)
    · exact Or.inr hrefused

theorem core_timer {timer : Option ExpiryTimer} (h : s.Core config) (hsubscribed : s.subscribed = true) :
    ({ s with expiryTimer := timer } : StatusRuntime).Core config where
  __ := h
  unused hstage := absurd ((h.unused hstage).subscribed.symm.trans hsubscribed) (by simp)
  unheard hfalse := absurd (hfalse.symm.trans hsubscribed) (by simp)

theorem inv_retire (h : s.Core config) (hstage : s.stage ≠ .idle) (hcancelled : s.cancelled = false)
    (hpast : ∀ state, s.replayed = some state → s.Past config state) : s.retire.Inv config := by
  rw [retire, if_neg (by simp [hcancelled])]
  exact { h with
    unused := fun hidle => absurd hidle hstage
    live := fun _ hfalse => by cases hfalse
    loads := fun hfalse => by cases hfalse
    shows := fun _ hloaded => by cases hloaded
    reads := fun _ _ _ _ hfalse => by cases hfalse
    selects := fun _ _ _ hfalse => by cases hfalse
    asks := fun _ _ state hstate => Or.inl (hpast state hstate) }

theorem stage_of_subscribed (h : s.Core config) (hsubscribed : s.subscribed = true) :
    s.stage ≠ .idle := by
  intro hidle
  rw [(h.unused hidle).subscribed] at hsubscribed
  cases hsubscribed

theorem inv_checkExpiry {expires : Int} (h : s.Core config) (hsubscribed : s.subscribed = true)
    (hcancelled : s.cancelled = false) (hselected : s.selectedSession = some state)
    (hstate : s.session.credentials.state = some state) (hreplayed : s.replayed = some state)
    (hexpires : config.expires state = some expires) : (s.checkExpiry expires).Inv config := by
  rw [checkExpiry, if_neg (by simp [hcancelled])]
  split
  · next hle =>
    refine inv_retire h (stage_of_subscribed h hsubscribed) hcancelled fun other hother => ?_
    obtain rfl := Option.some.inj (hreplayed.symm.trans hother)
    refine Or.inr (Or.inl ?_)
    rw [StatusRuntimeConfig.unexpired, hexpires, Option.any_some, decide_eq_false_iff_not]
    omega
  · next hlt =>
    exact {
      toCore := core_timer h hsubscribed
      live := fun _ _ => ⟨state, expires, _, hselected, hstate, hreplayed, hexpires, rfl, by omega⟩ }

section

variable (h : s.Inv config)
include h

theorem inv_tick {now : Int} {clock : Rat} (hnow : s.now ≤ now)
    (hclock : s.clock ≤ clock) : (s.tick now clock).Inv config :=
  ⟨core_time h.toCore hnow hclock, h.live⟩

theorem inv_expire {timer : ExpiryTimer} (htimer : s.expiryTimer = some timer) :
    (s.expire timer).Inv config := by
  have hsubscribed : s.subscribed = true := by
    by_contra hfalse
    have hnone := (h.unheard (by simpa using hfalse)).1
    rw [hnone] at htimer
    cases htimer
  have hcore : ({ s with expiryTimer := none } : StatusRuntime).Core config :=
    core_timer h.toCore hsubscribed
  rw [expire]
  by_cases hcancelled : s.cancelled = true
  · rw [checkExpiry, if_pos hcancelled]
    exact ⟨hcore, fun _ hfalse => absurd (hfalse.symm.trans hcancelled) (by simp)⟩
  · have hopen : s.cancelled = false := by simpa using hcancelled
    obtain ⟨state, expires, due, hselected, hstate, hreplayed, hexpires, hsame, -⟩ :=
      h.live hsubscribed hopen
    rw [hsame] at htimer
    cases htimer
    exact inv_checkExpiry hcore hsubscribed hopen hselected hstate hreplayed hexpires

theorem inv_callSession : (s.callSession config).Inv config :=
  inv_observe h (effect_getSession s.clock) fun _ hnow => (Option.some.inj hnow).symm

theorem inv_unloaded {view : StatusViewState} (hstage : s.stage = .idle)
    (hloaded : view.isLoaded = false) (hasks : view.asksForSignIn = false) :
    ({ s with mounted := true, view := view, stage := .done none } : StatusRuntime).Inv config := by
  obtain ⟨-, hsubscribed, -, -, htimer, hheard, -⟩ := h.unused hstage
  exact { h with
    unused := fun hidle => by cases hidle
    live := fun htrue => absurd (hsubscribed.symm.trans htrue) (by simp)
    heard := fun htrue => absurd (hsubscribed.symm.trans htrue) (by simp)
    unheard := fun _ => ⟨htimer, fun _ => hheard⟩
    loads := fun _ hdone => by cases hdone
    shows := fun _ htrue => absurd (hloaded.symm.trans htrue) (by simp)
    reads := fun _ _ _ hreading => by cases hreading
    selects := fun _ _ hselecting => by cases hselecting
    asks := fun _ htrue => absurd (hasks.symm.trans htrue) (by simp) }

theorem core_replayed (hstage : s.stage = .idle) (profile : ResolvedRuntimeProfile)
    (selected : Option BrowserAuthSessionState) :
    ({ s with
        mounted := true
        subscribed := true
        stage := .selecting profile s.session.reads.length
        selectedSession := selected
        heard := [s.session.credentials.state] } : StatusRuntime).Core config where
  __ := h
  unused hidle := by cases hidle
  heard _ := List.cons_ne_nil _ _
  unheard hfalse := by cases hfalse
  known state hreplayed := (h.consistent.published_head hreplayed).2
  loads _ _ _ := rfl
  shows _ hloaded := by
    rw [(h.unused hstage).view] at hloaded
    cases hloaded
  reads _ _ _ hreading := by cases hreading
  selects _ _ hselecting _ hread := by
    cases hselecting
    rw [List.getElem?_eq_none (Nat.le_refl _)] at hread
    cases hread
  asks _ hasks := by
    rw [(h.unused hstage).view] at hasks
    cases hasks

theorem inv_replay (hstage : s.stage = .idle) (profile : ResolvedRuntimeProfile) :
    (({ s with
        mounted := true
        subscribed := true
        stage := .selecting profile s.session.reads.length } : StatusRuntime).receive config
          s.session.credentials.state).Inv config := by
  have hunused := h.unused hstage
  have hcore := core_replayed h hstage profile
  have hidle : LoadStage.selecting profile s.session.reads.length ≠ .idle := by simp
  have hbase : ({ s with
        mounted := true
        subscribed := true
        stage := .selecting profile s.session.reads.length
        heard := s.session.credentials.state :: s.heard } : StatusRuntime)
      = { s with
        mounted := true
        subscribed := true
        stage := .selecting profile s.session.reads.length
        selectedSession := none
        heard := [s.session.credentials.state] } := by
    rw [hunused.heard, ← hunused.selected]
  rw [receive, hbase]
  unfold listen
  rw [if_neg (by simp [hunused.cancelled])]
  split
  · next state expires hstate hexpires =>
    have hexpires : config.expires state = some expires := by rw [hstate] at hexpires; exact hexpires
    split
    · next hle =>
      refine inv_retire (hcore none) hidle hunused.cancelled fun other hother => ?_
      obtain rfl : state = other := Option.some.inj (hstate.symm.trans hother)
      refine Or.inr (Or.inl ?_)
      rw [StatusRuntimeConfig.unexpired, hexpires, Option.any_some, decide_eq_false_iff_not]
      exact not_lt.mpr hle
    · rw [if_neg (by simp)]
      exact inv_checkExpiry (hcore (some state)) rfl hunused.cancelled rfl hstate hstate hexpires
  · next hnone =>
    refine inv_retire (hcore none) hidle hunused.cancelled fun other hother => ?_
    refine Or.inr (Or.inl ?_)
    have hstate : s.session.credentials.state = some other := hother
    rw [StatusRuntimeConfig.unexpired]
    cases hexpires : config.expires other with
    | none => rfl
    | some expires => exact absurd (by rw [hstate]; exact hexpires) (hnone other expires hstate)

theorem inv_mount (hstage : s.stage = .idle) : (s.mount config).Inv config := by
  rw [mount]
  simp only
  split
  · exact inv_unloaded h hstage rfl rfl
  split
  · exact inv_unloaded h hstage rfl rfl
  · exact inv_callSession (inv_replay h hstage _)

theorem inv_done (hrefused : s.stage.isRefused = false) :
    ({ s with stage := .done none } : StatusRuntime).Inv config where
  __ := h
  unused hidle := by cases hidle
  loads _ hdone := by cases hdone
  reads _ _ _ hreading := by cases hreading
  selects _ _ hselecting := by cases hselecting
  asks hmounted hasks state hreplayed :=
    Or.inl ((h.asks hmounted hasks state hreplayed).resolve_right (by simp [hrefused]))

theorem inv_reads {stage : LoadStage} (hcancelled : s.cancelled = false)
    (hsubscribed : s.subscribed = true) (hrefused : s.stage.isRefused = false)
    (hidle : stage ≠ .idle) (hselecting : ∀ profile read, stage ≠ .selecting profile read) :
    ({ s with stage := stage, readUnder := s.session.credentials.state } : StatusRuntime).Inv
      config := by
  obtain ⟨state, _, _, hselected, hstate, -⟩ := h.live hsubscribed hcancelled
  have hunder : s.session.credentials.state = s.selectedSession := hstate.trans hselected.symm
  exact { h with
    unused := fun heq => absurd heq hidle
    loads := fun _ _ _ => hsubscribed
    shows := fun _ _ => ⟨hsubscribed, hcancelled, hunder⟩
    reads := fun _ _ _ _ _ => hunder
    selects := fun profile read heq => absurd heq (hselecting profile read)
    asks := fun hmounted hasks state hreplayed =>
      Or.inl ((h.asks hmounted hasks state hreplayed).resolve_right (by simp [hrefused])) }

end

variable {profile : ResolvedRuntimeProfile}

theorem inv_resume (h : s.Inv config) {read : Nat}
    (hstage : s.stage = .selecting profile read) {answer : Option BrowserAuthSessionState}
    (hanswer : s.session.reads[read]? = some (.returned answer)) (throws : Bool) :
    (s.resume profile answer throws).Inv config := by
  have hrefused : s.stage.isRefused = false := by rw [hstage]; rfl
  have hidle : s.stage ≠ .idle := by rw [hstage]; simp
  rw [resume]
  split
  · next hnone =>
    obtain rfl := Option.isNone_iff_eq_none.mp hnone
    by_cases hcancelled : s.cancelled = true
    · rw [retire, if_pos hcancelled]
      exact inv_done h hrefused
    · have hopen : s.cancelled = false := by simpa using hcancelled
      have hinvalid := h.selects profile read hstage hopen hanswer
      have hretired := inv_retire h.toCore hidle hopen fun _ _ => Or.inr (Or.inr hinvalid)
      refine inv_done hretired ?_
      rw [retire, if_neg hcancelled]
      exact hrefused
  split
  · exact inv_done h hrefused
  · next hcancelled =>
    have hopen : s.cancelled = false := by simpa using hcancelled
    have hsubscribed := h.loads hopen (by rw [hstage]; rfl) hidle
    split
    · exact inv_reads h hopen hsubscribed hrefused (by simp) (by simp)
    · exact inv_reads h hopen hsubscribed hrefused (by simp) (by simp)

theorem inv_settled {status newStatus : Option StatusResult}
    {lifecycle newLifecycle : Option LifecycleResult} (h : s.Inv config)
    (hstage : s.stage = .reading profile status lifecycle) :
    ({ s with stage := .reading profile newStatus newLifecycle } : StatusRuntime).Inv config where
  __ := h
  unused hidle := by cases hidle
  loads hcancelled _ _ := h.loads hcancelled (by rw [hstage]; rfl) (by rw [hstage]; simp)
  reads _ _ _ _ := h.reads profile status lifecycle hstage
  selects _ _ hselecting := by cases hselecting
  asks hmounted hasks state hreplayed := Or.inl
    ((h.asks hmounted hasks state hreplayed).resolve_right (by simp [hstage, LoadStage.isRefused]))

theorem refused_of_landedView {status : StatusResult}
    {lifecycle : LifecycleResult} (h : (landedView profile status lifecycle).asksForSignIn = true) :
    (LoadStage.done (some status)).isRefused = true := by
  cases status with
  | error failure =>
    have h : (refusedView failure).asksForSignIn = true := h
    unfold refusedView at h
    split at h
    · rfl
    · cases h
    · cases h
  | ok resource =>
    cases resource with
    | none => cases h
    | some resource =>
      simp only [landedView] at h
      by_cases hdetail : isApplicantCaseDetail resource = true
      · rw [if_pos hdetail] at h
        cases h
      · rw [if_neg hdetail] at h
        cases h

theorem inv_drawn {view : StatusViewState} {status : Option StatusResult} (h : s.Inv config)
    (hcancelled : s.cancelled = false) (hstage : s.stage.isDone = false) (hidle : s.stage ≠ .idle)
    (hunder : view.isLoaded = true → s.readUnder = s.selectedSession)
    (hasks : view.asksForSignIn = true → (LoadStage.done status).isRefused = true) :
    ({ s with view := view, stage := .done status } : StatusRuntime).Inv config where
  __ := h
  unused hfalse := by cases hfalse
  loads _ hdone := by cases hdone
  shows _ hloaded := ⟨h.loads hcancelled hstage hidle, hcancelled, hunder hloaded⟩
  reads _ _ _ hreading := by cases hreading
  selects _ _ hselecting := by cases hselecting
  asks _ hsign _ _ := Or.inr (hasks hsign)

theorem inv_land (h : s.Inv config) {status : StatusResult}
    {lifecycle : LifecycleResult}
    (hstage : s.stage = .reading profile (some status) (some lifecycle)) :
    (s.land profile status lifecycle).Inv config := by
  rw [land]
  split
  · exact inv_done h (by rw [hstage]; rfl)
  · next hcancelled =>
    have hopen : s.cancelled = false := by simpa using hcancelled
    exact inv_drawn h hopen (by rw [hstage]; rfl) (by rw [hstage]; simp)
      (fun _ => h.reads _ _ _ hstage hopen) refused_of_landedView

theorem inv_caught (h : s.Inv config) (hstage : s.stage = .failing) : s.caught.Inv config := by
  rw [caught]
  split
  · exact inv_done h (by rw [hstage]; rfl)
  · next hcancelled =>
    exact inv_drawn h (by simpa using hcancelled) (by rw [hstage]; rfl) (by rw [hstage]; simp)
      nofun nofun

theorem inv_unmount (h : s.Inv config) (hmounted : s.mounted = true) : s.unmount.Inv config where
  __ := h
  unused hidle := absurd ((h.unused hidle).mounted.symm.trans hmounted) (by simp)
  live hfalse := by cases hfalse
  heard hfalse := by cases hfalse
  unheard _ := ⟨rfl, nofun⟩
  loads hfalse := by cases hfalse
  shows hfalse := by cases hfalse
  reads _ _ _ _ hfalse := by cases hfalse
  selects _ _ _ hfalse := by cases hfalse
  asks hfalse := by cases hfalse

/-! ## What holds of every run -/

theorem inv_step (h : s.Inv config) {event : Event} (hstep : s.step config event = some t) :
    t.Inv config := by
  cases event with
  | session event =>
    rw [step] at hstep
    split at hstep
    · next hclock =>
      obtain ⟨session, hsession, rfl⟩ := Option.map_eq_some_iff.mp hstep
      refine inv_observe h (effect_step hsession) fun now hnow => ?_
      rw [hnow, Option.all_some, beq_iff_eq] at hclock
      exact hclock
    · cases hstep
  | tick now clock =>
    rw [step] at hstep
    split at hstep
    · next hle => exact Option.some.inj hstep ▸ inv_tick h hle.1 hle.2
    · cases hstep
  | expire =>
    rw [step] at hstep
    split at hstep
    · next timer htimer =>
      split at hstep
      · exact Option.some.inj hstep ▸ inv_expire h htimer
      · cases hstep
    · cases hstep
  | mount =>
    rw [step] at hstep
    split at hstep
    · next hstage _ => exact Option.some.inj hstep ▸ inv_mount h hstage
    · cases hstep
  | resume throws =>
    rw [step] at hstep
    split at hstep
    · next profile read hstage =>
      split at hstep
      · next answer hanswer => exact Option.some.inj hstep ▸ inv_resume h hstage hanswer throws
      · cases hstep
    · cases hstep
  | statusSettled result =>
    rw [step] at hstep
    split at hstep
    · next hstage => exact Option.some.inj hstep ▸ inv_settled h hstage
    · cases hstep
  | lifecycleSettled result =>
    rw [step] at hstep
    split at hstep
    · next hstage => exact Option.some.inj hstep ▸ inv_settled h hstage
    · cases hstep
  | land =>
    rw [step] at hstep
    split at hstep
    · next hstage => exact Option.some.inj hstep ▸ inv_land h hstage
    · cases hstep
  | caught =>
    rw [step] at hstep
    split at hstep
    · next hstage => exact Option.some.inj hstep ▸ inv_caught h hstage
    · cases hstep
  | unmount =>
    rw [step] at hstep
    split at hstep
    · next hmounted => exact Option.some.inj hstep ▸ inv_unmount h hmounted
    · cases hstep

theorem view_of_cancelled {event : Event} (hcancelled : s.cancelled = true) (hidle : s.stage ≠ .idle)
    (hstep : s.step config event = some t) :
    t.cancelled = true ∧ t.stage ≠ .idle ∧ t.view = s.view := by
  cases event with
  | session event =>
    rw [step] at hstep
    split at hstep
    · obtain ⟨session, -, rfl⟩ := Option.map_eq_some_iff.mp hstep
      rw [observe]
      split
      · rw [receives_cancelled (s := { s with session := session }) _ hcancelled]
        exact ⟨hcancelled, hidle, rfl⟩
      · exact ⟨hcancelled, hidle, rfl⟩
    · cases hstep
  | tick now clock =>
    rw [step] at hstep
    split at hstep
    · exact Option.some.inj hstep ▸ ⟨hcancelled, hidle, rfl⟩
    · cases hstep
  | expire =>
    rw [step] at hstep
    split at hstep
    · split at hstep
      · rw [← Option.some.inj hstep, expire, checkExpiry, if_pos hcancelled]
        exact ⟨hcancelled, hidle, rfl⟩
      · cases hstep
    · cases hstep
  | mount =>
    rw [step] at hstep
    split at hstep
    · next hstage _ => exact absurd hstage hidle
    · cases hstep
  | resume throws =>
    rw [step] at hstep
    split at hstep
    · split at hstep
      · rw [← Option.some.inj hstep, resume]
        split
        · rw [retire, if_pos hcancelled]
          exact ⟨hcancelled, by simp, rfl⟩
        · exact ⟨hcancelled, by simp, rfl⟩
      · cases hstep
    · cases hstep
  | statusSettled result =>
    rw [step] at hstep
    split at hstep
    · exact Option.some.inj hstep ▸ ⟨hcancelled, by simp, rfl⟩
    · cases hstep
  | lifecycleSettled result =>
    rw [step] at hstep
    split at hstep
    · exact Option.some.inj hstep ▸ ⟨hcancelled, by simp, rfl⟩
    · cases hstep
  | land =>
    rw [step] at hstep
    split at hstep
    · rw [← Option.some.inj hstep, land, if_pos hcancelled]
      exact ⟨hcancelled, by simp, rfl⟩
    · cases hstep
  | caught =>
    rw [step] at hstep
    split at hstep
    · rw [← Option.some.inj hstep, caught, if_pos hcancelled]
      exact ⟨hcancelled, by simp, rfl⟩
    · cases hstep
  | unmount =>
    rw [step] at hstep
    split at hstep
    · exact Option.some.inj hstep ▸ ⟨rfl, hidle, rfl⟩
    · cases hstep

theorem asks_of_null_replay {events : List Event}
    (hcancelled : s.cancelled = false) (hprofile : config.profile = .ok profile)
    (hstatus : profile.enabled.contains .status = true)
    (hstate : s.session.credentials.state = none)
    (hrun : events.foldlM (step config) (s.mount config) = some t) :
    t.view = .signInRequired := by
  have hmounted : (s.mount config).cancelled = true ∧ (s.mount config).stage ≠ .idle
      ∧ (s.mount config).view = .signInRequired := by
    have hreplayed : ∀ u : StatusRuntime, u.cancelled = false → u.receive config none
        = { u with heard := none :: u.heard, cancelled := true, view := .signInRequired } := by
      intro u hu
      unfold receive listen
      rw [if_neg (by simp [hu]), retire]
      exact if_neg (by simp [hu])
    simp only [mount, hprofile, hstatus, hstate, Bool.not_true]
    rw [if_neg (by simp), hreplayed { s with
        mounted := true
        subscribed := true
        stage := .selecting profile s.session.reads.length } hcancelled, callSession, observe]
    split
    · rw [receives_cancelled _ rfl]
      exact ⟨rfl, by simp, rfl⟩
    · exact ⟨rfl, by simp, rfl⟩
  have hinv := foldlM_invariant
    (J := fun u => u.cancelled = true ∧ u.stage ≠ .idle ∧ u.view = .signInRequired)
    (fun u event next hu hstep => by
      obtain ⟨hnext, hstage, hview⟩ := view_of_cancelled hu.1 hu.2.1 hstep
      exact ⟨hnext, hstage, hview.trans hu.2.2⟩) hmounted hrun
  exact hinv.2.2

def sampleConfig : StatusRuntimeConfig where
  mode := .production
  instanceCapabilities := fun
    | .status => .available
    | _ => .unavailable
  orgRuntimePolicy := ⟨[("status", some .defaultOn)], fun _ => none, none⟩
  urlOrigin := fun _ => none
  browserAuthSession := StatusRead.sampleConfig.browserAuthSession
  dateParse text := if text = "9" then some 9 else none

def sampleReads (read : Nat) : Event :=
  .session (.readUser read (some (some (StatusRead.sampleUser "t"))) 1)

def sampleRun (result : StatusResult) : List Event :=
  [.tick 1 1, .session (.getSession 1), sampleReads 0, .mount, sampleReads 1, .resume false,
    .statusSettled result, .land]

def sampleDetail : Value :=
  .object [("summary", .object []), ("openTasks", .array []), ("statusTimeline", .array [])]

end StatusRuntime

end FormspecWeb.Status
