import FormspecWeb.Async.History
import FormspecWeb.Identity.OidcBrowserSession

/-!
# The published state of the session

A token that is handed out is the admitted user's: of the issuer, not expired at that moment, and the
one the state published last describes. Every publication has a greater revision than the ones
before.
-/

namespace FormspecWeb.Identity

namespace Credentials

variable {config : OidcBrowserAuthSessionConfig} {c : Credentials} {user : OidcUserLike} {now : Rat}

/-- The state describes the user, and is the last one that was published. -/
structure Consistent (config : OidcBrowserAuthSessionConfig) (c : Credentials) : Prop where
  issuer : ∀ user ∈ c.user, user.iss = some config.issuer
  described : ∀ user ∈ c.user, c.state = some (config.describe user c.revision)
  shown : (c.published.head?.bind Publication.state) = c.state
  revision : ∀ publication ∈ c.published, publication.revision ≤ c.revision
  numbered : ∀ publication ∈ c.published, ∀ state ∈ publication.state,
    state.revision = publication.revision
  increasing : (c.published.map Publication.revision).Pairwise (· > ·)

theorem consistent_opened : Credentials.opened.Consistent config := by
  constructor <;> simp [Credentials.opened]

variable {state : BrowserAuthSessionState}

theorem Consistent.published_head (hc : c.Consistent config) (hstate : c.state = some state) :
    c.published.head? = some ⟨state.revision, some state⟩ ∧ state.revision ≤ c.revision := by
  obtain ⟨⟨number, shown⟩, hhead, hpublished⟩ := Option.bind_eq_some_iff.mp (hc.shown.trans hstate)
  have hmem := List.mem_of_mem_head? hhead
  have hnumber : state.revision = number := hc.numbered _ hmem state hpublished
  have hshown : shown = some state := hpublished
  rw [hhead, hnumber, hshown]
  exact ⟨rfl, hc.revision _ hmem⟩

theorem Consistent.revision_le (hc : c.Consistent config)
    (hstate : c.state = some state) : ∀ publication ∈ c.published,
      publication.revision ≤ state.revision := by
  obtain ⟨hhead, -⟩ := hc.published_head hstate
  obtain ⟨older, heq⟩ := List.head?_eq_some_iff.mp hhead
  have hincreasing := hc.increasing
  rw [heq, List.map_cons, List.pairwise_cons] at hincreasing
  rw [heq]
  refine List.forall_mem_cons.mpr ⟨Nat.le_refl _, fun publication hmem => ?_⟩
  exact Nat.le_of_lt (hincreasing.1 _ (List.mem_map_of_mem hmem))

theorem consistent_withdraw (hc : c.Consistent config) : c.withdraw.Consistent config := by
  rw [withdraw]
  split
  · exact {
      issuer := fun _ h => by cases h
      described := fun _ h => by cases h
      shown := rfl
      revision := List.forall_mem_cons.mpr
        ⟨Nat.le_refl _, fun _ h => Nat.le_succ_of_le (hc.revision _ h)⟩
      numbered := List.forall_mem_cons.mpr ⟨fun _ h => (by cases h), hc.numbered⟩
      increasing := List.pairwise_cons.mpr
        ⟨List.forall_mem_map.mpr fun _ h => Nat.lt_succ_of_le (hc.revision _ h), hc.increasing⟩ }
  · next hstate =>
    have hnone : c.state = none := by simpa using hstate
    exact { hc with
      issuer := fun _ h => by cases h
      described := fun _ h => by cases h
      shown := hc.shown.trans hnone
      increasing := hc.increasing }

theorem consistent_take (hc : c.Consistent config) (hvalid : config.valid user now = true) :
    (c.take config user).Consistent config where
  issuer := by
    rintro _ ⟨⟩
    simp only [OidcBrowserAuthSessionConfig.valid, Bool.and_eq_true, beq_iff_eq] at hvalid
    exact hvalid.1.1.2
  described := by
    rintro _ ⟨⟩
    rfl
  shown := rfl
  revision := List.forall_mem_cons.mpr
    ⟨Nat.le_refl _, fun _ h => Nat.le_succ_of_le (hc.revision _ h)⟩
  numbered := List.forall_mem_cons.mpr ⟨fun _ h => Option.some.inj h ▸ rfl, hc.numbered⟩
  increasing := List.pairwise_cons.mpr
    ⟨List.forall_mem_map.mpr fun _ h => Nat.lt_succ_of_le (hc.revision _ h), hc.increasing⟩

@[simp] theorem state_withdraw : c.withdraw.state = none := by
  rw [withdraw]
  split <;> rfl

@[simp] theorem user_withdraw : c.withdraw.user = none := by
  rw [withdraw]
  split <;> rfl

theorem userValid_of_user (h : c.user = none) : c.userValid config now = false := by
  rw [userValid, h]
  rfl

theorem Consistent.user_of_state (hc : c.Consistent config) (h : c.state = none) : c.user = none := by
  refine Option.eq_none_iff_forall_ne_some.mpr fun user huser => ?_
  rw [hc.described user huser] at h
  cases h

theorem Consistent.invalid_of_state (hc : c.Consistent config) (h : c.state = none) :
    c.userValid config now = false :=
  userValid_of_user (hc.user_of_state h)

theorem withdraw_withdraw : c.withdraw.withdraw = c.withdraw := by
  cases hstate : c.state with
  | none => simp [withdraw, hstate]
  | some state => simp [withdraw, hstate]

/-- What a step does to the credentials: nothing, or it withdraws them, and may admit a valid user
behind that. -/
inductive Moves (config : OidcBrowserAuthSessionConfig) (c : Credentials) : Credentials → Prop where
  | kept : Moves config c c
  | withdrawn : Moves config c c.withdraw
  | taken {user : OidcUserLike} {now : Rat} (valid : config.valid user now = true) :
      Moves config c (c.withdraw.take config user)

variable {d : Credentials}

theorem Moves.consistent (h : Moves config c d) (hc : c.Consistent config) :
    d.Consistent config := by
  cases h with
  | kept => exact hc
  | withdrawn => exact consistent_withdraw hc
  | taken valid => exact consistent_take (consistent_withdraw hc) valid

theorem published_withdraw (hc : c.Consistent config) :
    (c.withdraw.published = c.published ∧ c.withdraw.user = c.user ∧ c.withdraw.state = c.state)
      ∨ c.withdraw.published = ⟨c.revision + 1, none⟩ :: c.published := by
  cases hstate : c.state with
  | none =>
    have huser : c.user = none := hc.user_of_state hstate
    refine Or.inl ⟨?_, ?_, state_withdraw⟩
    · simp [withdraw, hstate]
    · simp [withdraw, hstate, huser]
  | some state => exact Or.inr (by simp [withdraw, hstate])

theorem revision_le_withdraw : c.revision ≤ c.withdraw.revision := by
  rw [withdraw]
  split
  · exact Nat.le_succ _
  · exact Nat.le_refl _

theorem Consistent.not_held (hd : d.Consistent config)
    {publication : Publication} (hmem : publication ∈ d.published)
    (hlt : state.revision < publication.revision) : publication.state ≠ some state := by
  intro heq
  have hnumber := hd.numbered publication hmem state heq
  omega

theorem Moves.revision_le (h : Moves config c d) : c.revision ≤ d.revision := by
  cases h with
  | kept => exact Nat.le_refl _
  | withdrawn => exact revision_le_withdraw
  | taken valid => exact Nat.le_succ_of_le revision_le_withdraw

theorem Moves.publishes (h : Moves config c d) (hc : c.Consistent config) :
    (d.published = c.published ∧ d.user = c.user ∧ d.state = c.state)
      ∨ ∃ first rest, d.published = first :: rest ++ c.published
        ∧ ∀ publication ∈ first :: rest, c.revision < publication.revision := by
  cases h with
  | kept => exact Or.inl ⟨rfl, rfl, rfl⟩
  | withdrawn =>
    rcases published_withdraw hc with hkept | hnew
    · exact Or.inl hkept
    · exact Or.inr ⟨_, [], hnew, List.forall_mem_singleton.mpr (Nat.lt_succ_self _)⟩
  | @taken user now valid =>
    refine Or.inr ⟨⟨c.withdraw.revision + 1, some (config.describe user (c.withdraw.revision + 1))⟩, ?_⟩
    have hlt : c.revision < c.withdraw.revision + 1 := Nat.lt_succ_of_le revision_le_withdraw
    rcases published_withdraw hc with ⟨hkept, -, -⟩ | hnew
    · exact ⟨[], by rw [take, hkept]; rfl, List.forall_mem_singleton.mpr hlt⟩
    · refine ⟨[⟨c.revision + 1, none⟩], by rw [take, hnew]; rfl, List.forall_mem_cons.mpr ⟨hlt, ?_⟩⟩
      exact List.forall_mem_singleton.mpr (Nat.lt_succ_self _)

/-- What was published since, newest first. -/
def publishedSince (before after : Credentials) : List Publication :=
  after.published.take (after.published.length - before.published.length)

theorem publishedSince_append {new : List Publication}
    (h : d.published = new ++ c.published) : c.publishedSince d = new := by
  rw [publishedSince, h, List.length_append, Nat.add_sub_cancel, List.take_left]

theorem moves_withdrawInvalid : Moves config c (c.withdrawInvalid config now) := by
  rw [withdrawInvalid]
  split
  · exact .kept
  · exact .withdrawn

theorem valid_of_withdrawInvalid (h : (c.withdrawInvalid config now).state.isSome = true) :
    c.withdrawInvalid config now = c ∧ c.userValid config now = true := by
  rw [withdrawInvalid] at h ⊢
  by_cases hvalid : c.userValid config now = true
  · exact ⟨if_pos hvalid, hvalid⟩
  · rw [if_neg hvalid, state_withdraw] at h
    cases h

end Credentials

namespace OidcBrowserAuthSession

variable {config : OidcBrowserAuthSessionConfig} {s t : OidcBrowserAuthSession} {user : OidcUserLike}
  {now : Rat} {token : String}

open Credentials

/-! ## What a step does -/

def Sealed (s : OidcBrowserAuthSession) : Prop := s.available = false → s.credentials.user = none

/-- What a step does: it moves the credentials, a session that stays unavailable admits nobody, and a
read that returns nothing leaves no valid user. -/
structure Effect (config : OidcBrowserAuthSessionConfig) (s : OidcBrowserAuthSession)
    (clock : Option Rat) (t : OidcBrowserAuthSession) : Prop where
  moves : Moves config s.credentials t.credentials
  closed : s.Sealed → t.Sealed
  refuses : s.credentials.Consistent config → s.Sealed → ∀ read : Nat,
    t.reads[read]? = some (.returned none) → s.reads[read]? = some (.returned none)
      ∨ ∃ now, clock = some now ∧ t.credentials.userValid config now = false

variable {clock : Option Rat}

theorem effect_quiet (hcredentials : t.credentials = s.credentials)
    (havailable : t.available = false → s.available = false) (hreads : t.reads = s.reads) :
    Effect config s clock t where
  moves := hcredentials ▸ .kept
  closed hs ht := by
    rw [hcredentials]
    exact hs (havailable ht)
  refuses _ _ _ hread := Or.inl (hreads ▸ hread)

theorem effect_withdrawn (hcredentials : t.credentials = s.credentials.withdraw)
    (hreads : t.reads = s.reads) : Effect config s clock t where
  moves := hcredentials ▸ .withdrawn
  closed _ _ := by rw [hcredentials, user_withdraw]
  refuses _ _ _ hread := Or.inl (hreads ▸ hread)

theorem effect_withdrawInvalid (hcredentials : t.credentials = s.credentials.withdrawInvalid config now)
    (havailable : t.available = false → s.available = false) (hreads : t.reads = s.reads) :
    Effect config s clock t := by
  rw [Credentials.withdrawInvalid] at hcredentials
  split at hcredentials
  · exact effect_quiet hcredentials havailable hreads
  · exact effect_withdrawn hcredentials hreads

theorem Effect.and_reads {u : OidcBrowserAuthSession} (h : Effect config s clock t)
    (hcredentials : u.credentials = t.credentials)
    (havailable : u.available = false → t.available = false)
    (hreads : s.credentials.Consistent config → s.Sealed → ∀ read : Nat,
      u.reads[read]? = some (.returned none) → t.reads[read]? = some (.returned none)
        ∨ ∃ now, clock = some now ∧ t.credentials.userValid config now = false) :
    Effect config s clock u where
  moves := hcredentials ▸ h.moves
  closed hs hu := by
    rw [hcredentials]
    exact h.closed hs (havailable hu)
  refuses hc hs read hread := by
    rw [hcredentials]
    rcases hreads hc hs read hread with hold | hnew
    · exact h.refuses hc hs read hold
    · exact Or.inr hnew

theorem Effect.and_quiet {u : OidcBrowserAuthSession} (h : Effect config s clock t)
    (hcredentials : u.credentials = t.credentials)
    (havailable : u.available = false → t.available = false) (hreads : u.reads = t.reads) :
    Effect config s clock u :=
  h.and_reads hcredentials havailable fun _ _ _ hread => Or.inl (hreads ▸ hread)

theorem effect_emptied (hcredentials : t.credentials = s.credentials.withdraw) :
    Effect config s (some now) t where
  moves := hcredentials ▸ .withdrawn
  closed _ _ := by rw [hcredentials, user_withdraw]
  refuses _ _ _ _ := Or.inr ⟨now, rfl, userValid_of_user (by rw [hcredentials, user_withdraw])⟩

theorem effect_signOut : Effect config s clock (s.logged .signedOut).cleanup := by
  rw [cleanup]
  split
  · exact effect_quiet rfl id rfl
  · exact effect_withdrawn rfl rfl

theorem effect_mutate (kind : MutationKind) : Effect config s clock (s.mutate kind) := by
  rw [mutate]
  split <;> exact effect_quiet rfl id rfl

theorem effect_admitUser (user : Option OidcUserLike) (now : Rat) :
    Effect config s clock (s.admitUser config user now).1 := by
  rw [admitUser]
  split
  · exact effect_quiet rfl id rfl
  · next havailable =>
    split
    · exact effect_withdrawn rfl rfl
    · next user hvalid =>
      split
      · exact effect_quiet rfl id rfl
      · exact {
          moves := .taken (Option.filter_eq_some_iff.mp hvalid).2
          closed := fun _ hclosed => absurd hclosed (by simpa [available] using havailable)
          refuses := fun _ _ _ hread => Or.inl hread }

theorem admitUser_error {user : Option OidcUserLike} {error : BrowserAuthSessionErrorCode}
    (havailable : s.available = true) (h : s.admitUser config user now = (t, .error error)) :
    t.credentials = s.credentials.withdraw ∧ t.reads = s.reads := by
  rw [admitUser, if_neg (by simp [havailable])] at h
  split at h
  · cases h
    exact ⟨rfl, rfl⟩
  · split at h <;> cases (Prod.mk.inj h).2

theorem admitUser_ok {user : Option OidcUserLike} {state : Option BrowserAuthSessionState}
    (h : s.admitUser config user now = (t, .ok state)) : state ≠ none := by
  rw [admitUser] at h
  split at h
  · cases (Prod.mk.inj h).2
  split at h
  · cases (Prod.mk.inj h).2
  split at h
  · next hholds =>
    rw [← Except.ok.inj (Prod.mk.inj h).2]
    rw [holds, Bool.and_eq_true] at hholds
    exact Option.isSome_iff_ne_none.mp hholds.1
  · rw [← Except.ok.inj (Prod.mk.inj h).2]
    exact Option.some_ne_none _

theorem effect_returnRead (h : Effect config s clock t) (read : Nat)
    (state : Option BrowserAuthSessionState)
    (hstate : s.credentials.Consistent config → s.Sealed → state = none →
      ∃ now, clock = some now ∧ t.credentials.userValid config now = false) :
    Effect config s clock (t.returnRead read state) := by
  refine h.and_reads rfl id fun hc hs other hread => ?_
  rcases Async.of_getElem?_set hread with ⟨-, hsame⟩ | ⟨-, hold⟩
  · exact Or.inr (hstate hc hs (ReadStage.returned.inj hsame).symm)
  · exact Or.inl hold

theorem effect_getSession (now : Rat) : Effect config s (some now) (s.getSession config now) := by
  have hquiet : Effect config s (some now) s := effect_quiet rfl id rfl
  rw [getSession]
  split
  · next hclosed =>
    refine hquiet.and_reads rfl id fun _ hs read hread => ?_
    rcases Async.of_getElem?_concat hread with hold | -
    · exact Or.inl hold
    · exact Or.inr ⟨now, rfl, userValid_of_user (hs (by simpa using hclosed))⟩
  split
  · have hwithdrawn : Effect config s (some now) (s.withdrawInvalid config now) :=
      effect_withdrawInvalid rfl id rfl
    refine hwithdrawn.and_reads rfl id fun hc _ read hread => ?_
    rcases Async.of_getElem?_concat hread with hold | ⟨-, hstate⟩
    · exact Or.inl hold
    · refine Or.inr ⟨now, rfl, (hwithdrawn.moves.consistent hc).invalid_of_state ?_⟩
      exact (ReadStage.returned.inj hstate).symm
  · refine hquiet.and_reads rfl id fun _ _ read hread => ?_
    rcases Async.of_getElem?_concat hread with hold | ⟨-, hstate⟩
    · exact Or.inl hold
    · cases hstate

theorem credentials_failRead (read epoch : Nat) (now : Rat) :
    (s.failRead config read epoch now).credentials = s.credentials
      ∨ (s.failRead config read epoch now).credentials = s.credentials.withdraw := by
  rw [failRead]
  split
  · exact Or.inl rfl
  split
  · exact Or.inl rfl
  · exact Or.inr rfl

theorem effect_failRead (read epoch : Nat) (now : Rat) :
    Effect config s (some now) (s.failRead config read epoch now) := by
  have hquiet : Effect config s (some now) s := effect_quiet rfl id rfl
  rw [failRead]
  split
  · next hclosed =>
    refine effect_returnRead hquiet read none fun _ hs _ => ⟨now, rfl, userValid_of_user (hs ?_)⟩
    simpa using hclosed
  split
  · exact effect_returnRead hquiet read _ fun hc _ hstate => ⟨now, rfl, hc.invalid_of_state hstate⟩
  · exact effect_emptied rfl

theorem effect_readUser {read : Nat} {answer : Option (Option OidcUserLike)}
    (h : s.readUser config read answer now = some t) : Effect config s (some now) t := by
  have hquiet : Effect config s (some now) s := effect_quiet rfl id rfl
  rw [readUser] at h
  split at h
  · next epoch _ =>
    split at h
    · exact Option.some.inj h ▸ effect_failRead read epoch now
    · next user =>
      split at h
      · next hclosed =>
        rw [← Option.some.inj h]
        refine effect_returnRead hquiet read none fun _ hs _ => ⟨now, rfl, userValid_of_user (hs ?_)⟩
        simpa using hclosed
      · next hopen =>
        have havailable : s.available = true := by simpa using hopen
        split at h
        · rw [← Option.some.inj h]
          refine effect_returnRead hquiet read _ fun hc _ hstate => ⟨now, rfl, ?_⟩
          split at hstate
          · exact hc.invalid_of_state hstate
          · next hinvalid => exact Bool.eq_false_iff.mpr hinvalid
        split at h
        · exact Option.some.inj h ▸ effect_emptied rfl
        split at h
        · next admitted state heq =>
          rw [← Option.some.inj h]
          have hadmit : Effect config s (some now) (s.admitUser config user now).1 :=
            effect_admitUser user now
          rw [heq] at hadmit
          exact effect_returnRead hadmit read state fun _ _ hstate =>
            absurd hstate (admitUser_ok heq)
        · next refused error heq =>
          rw [← Option.some.inj h]
          have hwithdrawn := (admitUser_error havailable heq).1
          refine effect_emptied ?_
          have hfailed : (refused.failRead config read epoch now).credentials = refused.credentials
              ∨ (refused.failRead config read epoch now).credentials
                = refused.credentials.withdraw := credentials_failRead read epoch now
          rcases hfailed with hkept | hagain
          · exact hkept.trans hwithdrawn
          · rw [hagain, hwithdrawn, withdraw_withdraw]
  · cases h

theorem effect_catchMutation (m : Nat) (mutation : Mutation) (error : BrowserAuthSessionErrorCode) :
    Effect config s clock (s.catchMutation config m mutation error) := by
  rw [catchMutation]
  split <;> exact effect_withdrawn rfl rfl

theorem effect_land {m : Nat} (h : s.land config m now = some t) : Effect config s (some now) t := by
  rw [land] at h
  split at h
  · next user _ =>
    have hadmit : Effect config s (some now) (s.admitUser config user now).1 :=
      effect_admitUser user now
    split at h
    · next heq =>
      rw [heq] at hadmit
      exact Option.some.inj h ▸ hadmit.and_quiet rfl id rfl
    · next heq =>
      rw [heq] at hadmit
      exact Option.some.inj h ▸ hadmit.and_quiet rfl id rfl
  · cases h

theorem effect_loaded (user : OidcUserLike) (now : Rat) :
    Effect config s (some now) (s.loaded config user now) := by
  rw [loaded]
  split
  · exact effect_quiet rfl id rfl
  · next hopen =>
    have havailable : s.available = true := by
      simp only [Bool.or_eq_true, not_or] at hopen
      simpa using hopen.1
    have hadmit : Effect config s (some now) (s.admitUser config (some user) now).1 :=
      effect_admitUser (some user) now
    split
    · next heq =>
      rw [heq] at hadmit
      exact hadmit
    · next heq =>
      refine effect_emptied ?_
      rw [withdraw, (admitUser_error havailable heq).1]
      exact withdraw_withdraw

theorem effect_startBegin (begun : Nat) : Effect config s clock (s.startBegin config begun) := by
  rw [startBegin]
  split
  · exact effect_quiet rfl id rfl
  · next hdisposed =>
    have hclosed : ∀ u : OidcBrowserAuthSession, u.disposed = s.disposed → u.blocked = false →
        u.available = false → s.available = false := by
      intro u hsame hblocked hunavailable
      simp [available, hsame, hblocked, hdisposed] at hunavailable
    simp only
    split
    · exact effect_quiet rfl (hclosed _ rfl rfl) rfl
    · have hopened : Effect config s clock ({ s with blocked := false }.logged (.beginStarted begun)) :=
        effect_quiet rfl (hclosed _ rfl rfl) rfl
      rw [mutate]
      split
      · exact hopened.and_quiet rfl id rfl
      · exact hopened.and_quiet rfl id rfl

theorem effect_awaitCleaning (begun : Nat) : Effect config s clock (s.awaitCleaning config begun) := by
  rw [awaitCleaning]
  split
  · exact effect_quiet rfl id rfl
  · exact effect_startBegin begun

theorem effect_step {event : Event} (h : s.step config event = some t) :
    Effect config s event.now? t := by
  cases event with
  | loaded user now => exact Option.some.inj h ▸ effect_loaded user now
  | expired =>
    rw [← Option.some.inj h, expired]
    split
    · exact effect_withdrawn rfl rfl
    · exact effect_quiet rfl id rfl
  | signedOut =>
    rw [← Option.some.inj h, signedOut]
    split
    · exact effect_signOut
    · exact effect_quiet rfl id rfl
  | getSession now => exact Option.some.inj h ▸ effect_getSession now
  | readUser read answer now => exact effect_readUser h
  | accessToken read now =>
    rw [step] at h
    split at h
    · exact Option.some.inj h ▸ effect_withdrawInvalid rfl id rfl
    · cases h
  | admittedUser now =>
    rw [← Option.some.inj h, admittedUser]
    split
    · exact effect_quiet rfl id rfl
    · exact effect_withdrawn rfl rfl
  | expire now =>
    rw [step, expire] at h
    split at h
    · split at h
      · exact Option.some.inj h ▸ effect_quiet rfl id rfl
      · exact Option.some.inj h ▸ effect_withdrawn rfl rfl
    · cases h
  | begin =>
    rw [← Option.some.inj h, begin]
    split
    · exact effect_quiet rfl id rfl
    · have hawaits : Effect config s.enterBegin Event.begin.now?
          (s.enterBegin.awaitCleaning config s.begins.length) := effect_awaitCleaning s.begins.length
      exact ⟨hawaits.moves, hawaits.closed, hawaits.refuses⟩
  | goOnBegin begun =>
    rw [step, goOnBegin] at h
    split at h
    · split at h
      · exact Option.some.inj h ▸ effect_awaitCleaning begun
      · exact Option.some.inj h ▸ effect_quiet rfl id rfl
      · cases h
    · split at h
      · exact Option.some.inj h ▸ effect_startBegin begun
      · exact Option.some.inj h ▸ effect_quiet rfl id rfl
      · cases h
    · cases h
  | completeCallback =>
    rw [← Option.some.inj h, completeCallback]
    split
    · exact effect_mutate _
    · exact effect_quiet rfl id rfl
  | completeSilentCallback =>
    rw [← Option.some.inj h, completeSilentCallback]
    split
    · exact effect_mutate _
    · exact effect_quiet rfl id rfl
  | renew =>
    rw [← Option.some.inj h, renew]
    split
    · exact effect_quiet rfl id rfl
    split
    · exact (effect_mutate .renewal).and_quiet rfl id rfl
    · exact effect_quiet rfl id rfl
  | answerMutation m answer =>
    rw [step, answerMutation] at h
    split at h
    · split at h
      · exact Option.some.inj h ▸ effect_catchMutation _ _ _
      split at h
      · split at h
        · exact Option.some.inj h ▸ effect_quiet rfl id rfl
        · exact Option.some.inj h ▸ effect_catchMutation _ _ _
      · exact Option.some.inj h ▸ effect_quiet rfl id rfl
    · cases h
  | removedByMutation m removed =>
    rw [step, removedByMutation] at h
    split at h
    · exact Option.some.inj h ▸ effect_catchMutation _ _ _
    · exact Option.some.inj h ▸ effect_quiet rfl id rfl
    · cases h
  | settleMutation m =>
    rw [step, settleMutation] at h
    split at h <;> first | exact Option.some.inj h ▸ effect_quiet rfl id rfl | cases h
  | land m now => exact effect_land h
  | finishRenewal =>
    rw [step, finishRenewal] at h
    split at h
    · exact Option.some.inj h ▸ effect_quiet rfl id rfl
    · cases h
  | logout =>
    rw [← Option.some.inj h, logout]
    split
    · exact effect_quiet rfl id rfl
    · simp only
      split
      · exact effect_quiet rfl id rfl
      · exact effect_signOut.and_quiet rfl id rfl
  | completeLogoutCallback =>
    rw [← Option.some.inj h, completeLogoutCallback]
    split
    · exact effect_quiet rfl id rfl
    · exact effect_signOut
  | drain k =>
    rw [step, drain] at h
    split at h
    · split at h
      · cases h
      · split at h <;> exact Option.some.inj h ▸ effect_quiet rfl id rfl
    · cases h
  | finishCleaning k removed =>
    rw [step, finishCleaning] at h
    split at h
    · exact Option.some.inj h ▸ effect_quiet rfl id rfl
    · cases h
  | redirectEnding e =>
    rw [step, redirectEnding] at h
    split at h
    · split at h
      · exact Option.some.inj h ▸ effect_quiet rfl id rfl
      · split at h <;> exact Option.some.inj h ▸ effect_quiet rfl id rfl
      · cases h
    · cases h
  | finishEnding e redirected =>
    rw [step, finishEnding] at h
    split at h
    · exact Option.some.inj h ▸ effect_quiet rfl id rfl
    · cases h
  | dispose =>
    rw [← Option.some.inj h, dispose]
    split
    · exact effect_quiet rfl id rfl
    · exact effect_withdrawn rfl rfl

theorem moves_step {event : Event} (h : s.step config event = some t) :
    Moves config s.credentials t.credentials :=
  (effect_step h).moves

theorem consistent_step (hs : s.credentials.Consistent config) {event : Event}
    (h : s.step config event = some t) : t.credentials.Consistent config :=
  (moves_step h).consistent hs

/-- The user is the one that is admitted: of the issuer, not expired at this moment, and described by
the state that was published last. -/
structure Admitted (config : OidcBrowserAuthSessionConfig) (s : OidcBrowserAuthSession) (now : Rat)
    (user : OidcUserLike) : Prop where
  held : s.credentials.user = some user
  issuer : user.iss = some config.issuer
  unexpired : ∃ ms, user.expiresMs = some ms ∧ now < ms
  published : s.credentials.published.head?
    = some ⟨s.credentials.revision, some (config.describe user s.credentials.revision)⟩

/-- What is handed out is the admitted user's, and every publication has a greater revision than the
ones before. -/
structure Describes (config : OidcBrowserAuthSessionConfig) (s : OidcBrowserAuthSession) : Prop where
  token : ∀ now token, (s.accessToken config now).2 = some token →
    ∃ user, user.accessToken = some token ∧ s.Admitted config now user
  user : ∀ now user, (s.admittedUser config now).2 = some user → s.Admitted config now user
  revisions : (s.credentials.published.map Publication.revision).Pairwise (· > ·)
  numbered : ∀ publication ∈ s.credentials.published, ∀ state ∈ publication.state,
    state.revision = publication.revision

theorem admitted_of_valid (hs : s.credentials.Consistent config) {user : OidcUserLike}
    (huser : s.credentials.user = some user) (hvalid : s.credentials.userValid config now = true) :
    s.Admitted config now user := by
  obtain ⟨hhead, -⟩ := hs.published_head (hs.described user huser)
  rw [Credentials.userValid, huser, Option.any_some, OidcBrowserAuthSessionConfig.valid,
    Bool.and_eq_true] at hvalid
  obtain ⟨ms, hms, hexpires⟩ := (Option.any_eq_true _ _).mp hvalid.2
  exact {
    held := huser
    issuer := hs.issuer user huser
    unexpired := ⟨ms, hms, of_decide_eq_true (Bool.and_eq_true_iff.mp hexpires).2⟩
    published := hhead }

theorem accessToken_some (h : (s.accessToken config now).2 = some token) :
    s.available = true ∧ s.credentials.state.isSome = true
      ∧ s.credentials.userValid config now = true
      ∧ ∃ user, s.credentials.user = some user ∧ user.accessToken = some token := by
  simp only [accessToken] at h
  split at h
  · next hopen =>
    obtain ⟨hstate, havailable⟩ := Bool.and_eq_true_iff.mp hopen
    have havailable : s.available = true := havailable
    obtain ⟨heq, hvalid⟩ := Credentials.valid_of_withdrawInvalid hstate
    rw [withdrawInvalid, heq] at h hstate
    exact ⟨havailable, hstate, hvalid, Option.bind_eq_some_iff.mp h⟩
  · cases h

theorem admittedUser_some {user : OidcUserLike} (h : (s.admittedUser config now).2 = some user) :
    s.available = true ∧ s.credentials.state.isSome = true
      ∧ s.credentials.userValid config now = true ∧ s.credentials.user = some user := by
  rw [admittedUser] at h
  split at h
  · next hopen =>
    simp only [Bool.and_eq_true] at hopen
    exact ⟨hopen.1.2, hopen.1.1, hopen.2, h⟩
  · cases h

theorem describes_of_consistent (hs : s.credentials.Consistent config) : s.Describes config where
  token now token h := by
    obtain ⟨-, -, hvalid, user, huser, htoken⟩ := accessToken_some h
    exact ⟨user, htoken, admitted_of_valid hs huser hvalid⟩
  user now user h := by
    obtain ⟨-, -, hvalid, huser⟩ := admittedUser_some h
    exact admitted_of_valid hs huser hvalid
  revisions := hs.increasing
  numbered := hs.numbered

end OidcBrowserAuthSession

end FormspecWeb.Identity
