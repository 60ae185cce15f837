import FormspecWeb.Identity.PublishedSession

/-!
# When the session hands out a token

After a sign-out no token is handed out before a later begin has completed, in the runs in which a
begin only lifts the block where its redirect can be the only thing under way.
-/

namespace FormspecWeb.Identity

open Async

/-! ## What the log says -/

def since (entry : SessionEntry) (log : List SessionEntry) : List SessionEntry :=
  log.takeWhile (· != entry)

def CalledSinceSignOut (log : List SessionEntry) (id : Nat) : Prop :=
  .signedOut ∈ log → .beginCalled id ∈ since .signedOut log

instance (log : List SessionEntry) (id : Nat) : Decidable (CalledSinceSignOut log id) :=
  inferInstanceAs (Decidable (_ → _))

/-- Since every sign-out a begin was called and has completed, and since every sign-out that met a
blocked session a begin has started and completed. -/
structure Reopened (log : List SessionEntry) : Prop where
  not_disposed : .disposed ∉ log
  signedOut : .signedOut ∈ log →
    ∃ id, .beginCalled id ∈ since .signedOut log ∧ .beginCompleted id ∈ since .signedOut log
  signedOutBlocked : .signedOutBlocked ∈ log →
    ∃ id, .beginStarted id ∈ since .signedOutBlocked log
      ∧ .beginCompleted id ∈ since .signedOutBlocked log

structure Fresh (log : List SessionEntry) (id : Nat) : Prop where
  not_disposed : .disposed ∉ log
  signedOut : CalledSinceSignOut log id
  signedOutBlocked : .signedOutBlocked ∈ log → .beginStarted id ∈ since .signedOutBlocked log

section Log

variable {log : List SessionEntry} {entry other : SessionEntry} {id : Nat}

theorem since_cons (h : entry ≠ other) : since other (entry :: log) = entry :: since other log := by
  rw [since, List.takeWhile_cons_of_pos (by simpa using h), since]

theorem mem_of_mem_cons (h : entry ≠ other) (hmem : other ∈ entry :: log) : other ∈ log :=
  (List.mem_cons.mp hmem).resolve_left (Ne.symm h)

def SessionEntry.isBegin : SessionEntry → Bool
  | beginCalled _ | beginStarted _ | beginCompleted _ => true
  | _ => false

theorem ne_of_isBegin (hentry : entry.isBegin = true) (hother : other.isBegin = false) :
    entry ≠ other := by
  rintro rfl
  rw [hentry] at hother
  cases hother

theorem Reopened.cons (h : Reopened log) (hentry : entry.isBegin = true) :
    Reopened (entry :: log) where
  not_disposed hmem := h.not_disposed (mem_of_mem_cons (ne_of_isBegin hentry rfl) hmem)
  signedOut hmem := by
    obtain ⟨id, hcalled, hcompleted⟩ := h.signedOut (mem_of_mem_cons (ne_of_isBegin hentry rfl) hmem)
    rw [since_cons (ne_of_isBegin hentry rfl)]
    exact ⟨id, List.mem_cons_of_mem _ hcalled, List.mem_cons_of_mem _ hcompleted⟩
  signedOutBlocked hmem := by
    obtain ⟨id, hstarted, hcompleted⟩ :=
      h.signedOutBlocked (mem_of_mem_cons (ne_of_isBegin hentry rfl) hmem)
    rw [since_cons (ne_of_isBegin hentry rfl)]
    exact ⟨id, List.mem_cons_of_mem _ hstarted, List.mem_cons_of_mem _ hcompleted⟩

theorem CalledSinceSignOut.cons (h : CalledSinceSignOut log id) (hentry : entry.isBegin = true) :
    CalledSinceSignOut (entry :: log) id := by
  intro hmem
  rw [since_cons (ne_of_isBegin hentry rfl)]
  exact List.mem_cons_of_mem _ (h (mem_of_mem_cons (ne_of_isBegin hentry rfl) hmem))

theorem calledSinceSignOut_called : CalledSinceSignOut (.beginCalled id :: log) id := by
  intro _
  rw [since_cons (by simp)]
  exact List.mem_cons_self

theorem Fresh.cons (h : Fresh log id) (hentry : entry.isBegin = true) : Fresh (entry :: log) id where
  not_disposed hmem := h.not_disposed (mem_of_mem_cons (ne_of_isBegin hentry rfl) hmem)
  signedOut := h.signedOut.cons hentry
  signedOutBlocked hmem := by
    rw [since_cons (ne_of_isBegin hentry rfl)]
    exact List.mem_cons_of_mem _
      (h.signedOutBlocked (mem_of_mem_cons (ne_of_isBegin hentry rfl) hmem))

theorem fresh_started (hdisposed : .disposed ∉ log) (hcalled : CalledSinceSignOut log id) :
    Fresh (.beginStarted id :: log) id where
  not_disposed hmem := hdisposed (mem_of_mem_cons (by simp) hmem)
  signedOut := hcalled.cons rfl
  signedOutBlocked _ := by
    rw [since_cons (by simp)]
    exact List.mem_cons_self

theorem Fresh.completed (h : Fresh log id) : Reopened (.beginCompleted id :: log) where
  not_disposed hmem := h.not_disposed (mem_of_mem_cons (by simp) hmem)
  signedOut hmem := by
    have hcalled := h.signedOut (mem_of_mem_cons (by simp) hmem)
    rw [since_cons (by simp)]
    exact ⟨id, List.mem_cons_of_mem _ hcalled, List.mem_cons_self⟩
  signedOutBlocked hmem := by
    have hstarted := h.signedOutBlocked (mem_of_mem_cons (by simp) hmem)
    rw [since_cons (by simp)]
    exact ⟨id, List.mem_cons_of_mem _ hstarted, List.mem_cons_self⟩

theorem reopened_nil : Reopened [] :=
  ⟨List.not_mem_nil, fun h => absurd h List.not_mem_nil, fun h => absurd h List.not_mem_nil⟩

end Log

def MutationStage.isLanding : MutationStage → Bool
  | landing _ => true
  | _ => false

namespace OidcBrowserAuthSession

variable {s : OidcBrowserAuthSession}

/-! ## When a begin lifts the block -/

/-- No other thing is under way where a begin redirects, and the driver can redirect. -/
def ready (config : OidcBrowserAuthSessionConfig) (s : OidcBrowserAuthSession) : Bool :=
  config.driver.signinRedirect && s.pending.isEmpty
    && s.mutations.all (fun mutation => !mutation.stage.isLanding)
    && s.cleaning.isNone && s.ending.isNone

def mayStart (config : OidcBrowserAuthSessionConfig) (s : OidcBrowserAuthSession) : Bool :=
  !s.blocked || s.disposed || s.ready config

def waitsNoMore (s : OidcBrowserAuthSession) (id : Nat) : Bool :=
  match s.begins[id]? with
  | some (.waitingEnding e) =>
    match s.endings[e]? with
    | some (.settled none) => s.cleaning.isNone
    | _ => false
  | some (.waitingCleaning k) =>
    match s.cleanings[k]? with
    | some (.settled none) => true
    | _ => false
  | _ => false

/-- A begin that starts in this step may start, and nothing was signed out since it was called. -/
def undisturbed (config : OidcBrowserAuthSessionConfig) (s : OidcBrowserAuthSession) : Event → Bool
  | .begin => s.ending.isSome || s.cleaning.isSome || s.mayStart config
  | .goOnBegin id => !s.waitsNoMore id || (s.mayStart config && CalledSinceSignOut s.log id)
  | _ => true

def Undisturbed (config : OidcBrowserAuthSessionConfig) (s : OidcBrowserAuthSession)
    (event : Event) : Prop :=
  s.undisturbed config event = true

instance (event : Event) : Decidable (s.Undisturbed config event) :=
  inferInstanceAs (Decidable (_ = true))

end OidcBrowserAuthSession

def MutationStage.isOpen : MutationStage → Bool
  | landing _ | settled _ => false
  | _ => true

namespace OidcBrowserAuthSession

variable {config : OidcBrowserAuthSessionConfig} {s t : OidcBrowserAuthSession} {now : Rat}
  {entry : SessionEntry}

def Shut (s : OidcBrowserAuthSession) : Prop :=
  s.credentials.state = none ∧ ∀ epoch, .reading epoch ∈ s.reads → epoch < s.epoch

/-- The one thing under way is the redirect of a begin with nothing signed out since it started. -/
def AwaitsBegin (s : OidcBrowserAuthSession) : Prop :=
  (∃ m id stage, s.pending = [m] ∧ s.mutations[m]? = some ⟨.begin id, s.epoch, stage⟩
      ∧ (stage = .running ∨ ∃ user, stage = .passed user) ∧ Fresh s.log id)
    ∧ ∀ mutation ∈ s.mutations, mutation.stage.isLanding = false

structure Inv (s : OidcBrowserAuthSession) : Prop where
  shut : s.blocked = true → s.Shut
  disposed : s.disposed = true → s.blocked = true
  logged : .disposed ∈ s.log → s.disposed = true
  cleaning : s.cleaning.isSome = true → s.blocked = true
  ending : s.ending.isSome = true → s.blocked = true
  reads : ∀ epoch, .reading epoch ∈ s.reads → epoch ≤ s.epoch
  pending : ∀ m mutation, s.mutations[m]? = some mutation → mutation.stage.isOpen = true →
    m ∈ s.pending
  law : Reopened s.log ∨ s.Shut ∧ (s.blocked = true ∨ s.AwaitsBegin)

theorem inv_opened : opened.Inv where
  shut h := by cases h
  disposed h := by cases h
  logged h := absurd h List.not_mem_nil
  cleaning h := by cases h
  ending h := by cases h
  reads _ h := absurd h List.not_mem_nil
  pending _ _ h := by cases h
  law := Or.inl reopened_nil

theorem Inv.available (hs : s.Inv) (h : s.blocked = false) : s.available = true := by
  have hdisposed : s.disposed = false := by
    rw [← Bool.not_eq_true]
    intro hdisposed
    rw [hs.disposed hdisposed] at h
    cases h
  rw [OidcBrowserAuthSession.available, hdisposed, h]
  rfl

theorem not_blocked (h : s.available = true) : ¬ s.blocked = true := by
  rw [OidcBrowserAuthSession.available, Bool.and_eq_true] at h
  simpa using h.2

theorem Inv.blocked_of_unavailable (hs : s.Inv) (h : s.available = false) : s.blocked = true := by
  by_contra hblocked
  rw [hs.available (by simpa using hblocked)] at h
  cases h

theorem Inv.law_of_available (hs : s.Inv) (h : s.available = true) :
    Reopened s.log ∨ s.Shut ∧ s.AwaitsBegin :=
  hs.law.imp_right fun ⟨hshut, hopen⟩ => ⟨hshut, hopen.resolve_left (not_blocked h)⟩

theorem Inv.reopened_unless (hs : s.Inv) (havailable : s.available = true) (h : ¬ s.AwaitsBegin) :
    Reopened s.log :=
  (hs.law_of_available havailable).resolve_right fun hshut => h hshut.2

theorem not_awaitsBegin (hpending : s.pending = []) : ¬ s.AwaitsBegin := by
  intro hawaits
  obtain ⟨m, id, stage, hm, -⟩ := hawaits.1
  rw [hpending] at hm
  cases hm

variable {mutation : Mutation}

variable {m : Nat}

theorem AwaitsBegin.only (h : s.AwaitsBegin) (hs : s.Inv)
    (hm : s.mutations[m]? = some mutation) (hopen : mutation.stage.isOpen = true) :
    ∃ id, s.pending = [m] ∧ mutation.kind = .begin id ∧ mutation.epoch = s.epoch
      ∧ (mutation.stage = .running ∨ ∃ user, mutation.stage = .passed user) ∧ Fresh s.log id := by
  obtain ⟨m', id, stage, hpending, hm', hstage, hfresh⟩ := h.1
  have hmem := hs.pending m mutation hm hopen
  rw [hpending, List.mem_singleton] at hmem
  subst hmem
  obtain rfl := Option.some.inj (hm.symm.trans hm')
  exact ⟨id, hpending, rfl, rfl, hstage, hfresh⟩

section

variable (hs : s.Inv)
include hs

theorem inv_quiet (credentials : Credentials) (reads : List ReadStage)
    (hstate : credentials.state = none ∨ credentials.state = s.credentials.state)
    (hreads : ∀ epoch, .reading epoch ∈ reads → .reading epoch ∈ s.reads) :
    Inv { s with credentials := credentials, reads := reads } := by
  have hshut : s.Shut → Shut { s with credentials := credentials, reads := reads } := fun h =>
    ⟨hstate.elim id fun heq => heq.trans h.1, fun epoch hread => h.2 epoch (hreads epoch hread)⟩
  exact { hs with
    shut := fun h => hshut (hs.shut h)
    reads := fun epoch h => hs.reads epoch (hreads epoch h)
    law := hs.law.imp_right fun ⟨h, hopen⟩ => ⟨hshut h, hopen⟩ }

theorem inv_withdraw : s.withdraw.Inv :=
  inv_quiet hs s.credentials.withdraw s.reads (Or.inl Credentials.state_withdraw) fun _ h => h

theorem inv_withdrawInvalid (now : Rat) : (s.withdrawInvalid config now).Inv := by
  apply inv_quiet hs (s.credentials.withdrawInvalid config now) s.reads ?_ fun _ h => h
  rw [Credentials.withdrawInvalid]
  split
  · exact Or.inr rfl
  · exact Or.inl Credentials.state_withdraw

theorem inv_returnRead (read : Nat) (state : Option BrowserAuthSessionState) :
    (s.returnRead read state).Inv :=
  inv_quiet hs s.credentials _ (Or.inr rfl) fun _ h =>
    (List.mem_or_eq_of_mem_set h).resolve_right (by simp)

theorem inv_getSession (now : Rat) : (s.getSession config now).Inv := by
  have hreturned (s : OidcBrowserAuthSession) (state : Option BrowserAuthSessionState) :
      ∀ epoch, .reading epoch ∈ s.reads ++ [.returned state] → .reading epoch ∈ s.reads := by
    intro epoch h
    exact (List.mem_append.mp h).resolve_right (by simp)
  rw [getSession]
  split
  · exact inv_quiet hs s.credentials _ (Or.inr rfl) (hreturned s none)
  · next havailable =>
    split
    · exact inv_quiet (inv_withdrawInvalid hs now) _ _ (Or.inr rfl) (hreturned _ _)
    · next hpending =>
      have havailable : s.available = true := by simpa using havailable
      exact { hs with
        shut := fun h => absurd h (not_blocked havailable)
        reads := by
          intro epoch h
          rcases List.mem_append.mp h with hold | hnew
          · exact hs.reads epoch hold
          · obtain rfl := ReadStage.reading.inj (List.mem_singleton.mp hnew)
            exact Nat.le_refl _
        law := by
          have hpending : s.pending = [] := by simpa using hpending
          exact Or.inl (hs.reopened_unless havailable (not_awaitsBegin hpending)) }

theorem inv_admitUser (hlaw : s.available = true → Reopened s.log)
    (user : Option OidcUserLike) (now : Rat) : (s.admitUser config user now).1.Inv := by
  have hadmitted (havailable : s.available = true) (credentials : Credentials) :
      Inv { s with epoch := s.epoch + 1, credentials := credentials } := { hs with
    shut := fun h => absurd h (not_blocked havailable)
    reads := fun epoch h => Nat.le_succ_of_le (hs.reads epoch h)
    law := Or.inl (hlaw havailable) }
  rw [admitUser]
  split
  · exact hs
  · next havailable =>
    have havailable : s.available = true := by simpa using havailable
    split
    · exact hadmitted havailable _
    split
    · exact hs
    · exact hadmitted havailable _

theorem inv_failRead (read epoch : Nat) (now : Rat) :
    (s.failRead config read epoch now).Inv := by
  rw [failRead]
  split
  · exact inv_returnRead hs _ _
  split
  · exact inv_returnRead hs _ _
  · exact inv_returnRead (inv_withdraw hs) _ _

theorem Inv.reopened_of_read (havailable : s.available = true)
    (hread : .reading s.epoch ∈ s.reads) : Reopened s.log := by
  refine (hs.law_of_available havailable).resolve_right fun ⟨hshut, _⟩ => ?_
  have hlt := hshut.2 s.epoch hread
  omega

theorem inv_readUser {read : Nat} {answer : Option (Option OidcUserLike)}
    (h : s.readUser config read answer now = some t) : t.Inv := by
  rw [readUser] at h
  split at h
  · next epoch hread =>
    split at h
    · exact Option.some.inj h ▸ inv_failRead hs _ _ _
    · next user =>
      split at h
      · exact Option.some.inj h ▸ inv_returnRead hs _ _
      · next havailable =>
        split at h
        · exact Option.some.inj h ▸ inv_returnRead hs _ _
        · next hepoch =>
          obtain rfl : epoch = s.epoch := by simpa using hepoch
          have hadmit : (s.admitUser config user now).1.Inv := inv_admitUser hs
            (fun h => hs.reopened_of_read h (List.mem_of_getElem? hread)) user now
          split at h
          · exact Option.some.inj h ▸ inv_returnRead (inv_withdraw hs) _ _
          split at h
          · next heq =>
            rw [heq] at hadmit
            exact Option.some.inj h ▸ inv_returnRead hadmit _ _
          · next heq =>
            rw [heq] at hadmit
            exact Option.some.inj h ▸ inv_failRead hadmit _ _ _
  · cases h

theorem inv_loaded (user : OidcUserLike) (now : Rat) :
    (s.loaded config user now).Inv := by
  rw [loaded]
  split
  · exact hs
  · next hquiet =>
    have hquiet : s.available = true ∧ s.pending = [] := by simpa using hquiet
    have hadmit : (s.admitUser config (some user) now).1.Inv := by
      refine inv_admitUser hs (fun havailable => ?_) _ _
      exact hs.reopened_unless havailable (not_awaitsBegin hquiet.2)
    split
    · next heq =>
      rw [heq] at hadmit
      exact hadmit
    · next heq =>
      rw [heq] at hadmit
      exact inv_withdraw hadmit

theorem inv_mutate (havailable : s.available = true) (kind : MutationKind) :
    (s.mutate kind).Inv := by
  rw [mutate]
  split
  · next hpending =>
    exact { hs with
      pending := by
        intro m mutation hm hopen
        rcases of_getElem?_concat hm with hold | ⟨rfl, rfl⟩
        · exact hs.pending m mutation hold hopen
        · cases hopen
      law := by
        refine hs.law.imp_right fun hlaw => ⟨hlaw.1, hlaw.2.imp_right ?_⟩
        rintro ⟨⟨m, id, stage, hm, hfound, hstage, hfresh⟩, hlanding⟩
        refine ⟨⟨m, id, stage, hm, ?_, hstage, hfresh⟩, ?_⟩
        · exact getElem?_concat_of hfound
        · intro mutation hmem
          rcases List.mem_append.mp hmem with hold | hnew
          · exact hlanding mutation hold
          · rw [List.mem_singleton.mp hnew]
            rfl }
  · next hpending =>
    have hpending : s.pending = [] := by simpa using hpending
    exact { hs with
      shut := fun h => absurd h (not_blocked havailable)
      pending := by
        intro m mutation hm hopen
        rcases of_getElem?_concat hm with hold | ⟨rfl, -⟩
        · exact List.mem_append_left _ (hs.pending m mutation hold hopen)
        · exact List.mem_append_right _ List.mem_cons_self
      law := Or.inl (hs.reopened_unless havailable (not_awaitsBegin hpending)) }

theorem inv_setStage {stage : MutationStage} (hm : s.mutations[m]? = some mutation)
    (hopen : stage.isOpen = true → mutation.stage.isOpen = true)
    (hawaits : s.blocked = false → s.AwaitsBegin → (s.setStage m mutation stage).AwaitsBegin) :
    (s.setStage m mutation stage).Inv where
  __ := hs
  pending := by
    intro other found hfound h
    simp only [setStage, List.getElem?_set] at hfound
    split at hfound
    · next heq =>
      subst heq
      split at hfound
      · cases hfound
        exact hs.pending m mutation hm (hopen h)
      · cases hfound
    · exact hs.pending other found hfound h
  law := by
    refine hs.law.imp_right fun ⟨hshut, h⟩ => ⟨hshut, ?_⟩
    cases hblocked : s.blocked with
    | true => exact Or.inl hblocked
    | false =>
      refine Or.inr (hawaits hblocked (h.resolve_left ?_))
      rw [hblocked]
      simp

theorem inv_block {mutations : List Mutation}
    (hpending : ∀ m mutation, mutations[m]? = some mutation → mutation.stage.isOpen = true →
      m ∈ s.pending) :
    Inv { s.withdraw with blocked := true, epoch := s.epoch + 1, mutations := mutations } := by
  have hshut : Shut { s.withdraw with
      blocked := true, epoch := s.epoch + 1, mutations := mutations } :=
    ⟨Credentials.state_withdraw, fun epoch h => Nat.lt_succ_of_le (hs.reads epoch h)⟩
  exact {
    shut := fun _ => hshut
    disposed := fun _ => rfl
    logged := hs.logged
    cleaning := fun _ => rfl
    ending := fun _ => rfl
    reads := fun epoch h => Nat.le_succ_of_le (hs.reads epoch h)
    pending := hpending
    law := Or.inr ⟨hshut, Or.inl rfl⟩ }

theorem inv_catchMutation
    (hm : s.mutations[m]? = some mutation) (hopen : mutation.stage.isOpen = true)
    (error : BrowserAuthSessionErrorCode) : (s.catchMutation config m mutation error).Inv := by
  rw [catchMutation]
  split
  · refine inv_setStage (inv_block hs hs.pending) hm (fun _ => hopen) fun h => by cases h
  · next hepoch =>
    refine inv_setStage (inv_withdraw hs) hm (fun _ => hopen) fun _ hawaits => ?_
    obtain ⟨_, _, _, heq, _⟩ := hawaits.only (inv_withdraw hs) hm hopen
    exact absurd heq hepoch

theorem inv_answerMutation {answer : Except BrowserAuthSessionErrorCode (Option OidcUserLike)}
    (h : s.answerMutation config m answer = some t) : t.Inv := by
  rw [answerMutation] at h
  split at h
  · next kind epoch hm =>
    split at h
    · exact Option.some.inj h ▸ inv_catchMutation hs hm rfl _
    · next user =>
      split at h
      · next hstale =>
        split at h
        · refine Option.some.inj h ▸ inv_setStage hs hm (fun _ => rfl) fun hblocked hawaits => ?_
          obtain ⟨_, _, _, heq, _⟩ := hawaits.only hs hm rfl
          have havailable := hs.available hblocked
          simp_all
        · exact Option.some.inj h ▸ inv_catchMutation hs hm rfl _
      · refine Option.some.inj h ▸ inv_setStage hs hm (fun _ => rfl) fun _ hawaits => ?_
        obtain ⟨id, hpending, rfl, rfl, _, hfresh⟩ := hawaits.only hs hm rfl
        refine ⟨⟨m, id, .passed user, hpending, ?_, Or.inr ⟨user, rfl⟩, hfresh⟩, ?_⟩
        · exact List.getElem?_set_self (List.getElem?_eq_some_iff.mp hm).1
        · intro mutation hmem
          rcases List.mem_or_eq_of_mem_set hmem with hold | rfl
          · exact hawaits.2 mutation hold
          · rfl
  · cases h

theorem inv_removedByMutation {removed : Bool}
    (h : s.removedByMutation config m removed = some t) : t.Inv := by
  rw [removedByMutation] at h
  split at h
  · next hm => exact Option.some.inj h ▸ inv_catchMutation hs hm rfl _
  · next hm =>
    refine Option.some.inj h ▸ inv_setStage hs hm (fun _ => rfl) fun _ hawaits => ?_
    obtain ⟨_, _, _, _, hstage, _⟩ := hawaits.only hs hm rfl
    rcases hstage with hstage | ⟨_, hstage⟩ <;> cases hstage
  · cases h

theorem inv_freed {stage : MutationStage} {begins : List BeginStage} {log : List SessionEntry}
    (hclosed : stage.isOpen = false) (hdisposed : .disposed ∈ log → .disposed ∈ s.log)
    (hlog : Reopened s.log → Reopened log)
    (hawaits : s.AwaitsBegin → Reopened log) :
    Inv { s with
      pending := s.pending.erase m
      mutations := s.mutations.set m { mutation with stage := stage }
      begins := begins
      log := log } where
  __ := hs
  logged h := hs.logged (hdisposed h)
  pending := by
    intro other found hfound h
    rw [List.getElem?_set] at hfound
    split at hfound
    · split at hfound
      · cases hfound
        rw [hclosed] at h
        cases h
      · cases hfound
    · next hne => exact (List.mem_erase_of_ne (Ne.symm hne)).mpr (hs.pending other found hfound h)
  law := by
    rcases hs.law with h | ⟨hshut, hblocked | h⟩
    · exact Or.inl (hlog h)
    · exact Or.inr ⟨hshut, Or.inl hblocked⟩
    · exact Or.inl (hawaits h)

theorem inv_settleMutation (h : s.settleMutation m = some t) : t.Inv := by
  rw [settleMutation] at h
  split at h
  · next id epoch user hm =>
    refine Option.some.inj h ▸ inv_freed hs rfl (mem_of_mem_cons (by simp)) (·.cons rfl) fun hawaits => ?_
    obtain ⟨id', _, hkind, _, _, hfresh⟩ := hawaits.only hs hm rfl
    cases hkind
    exact hfresh.completed
  · next hm =>
    refine Option.some.inj h ▸ inv_freed hs rfl id id fun hawaits => ?_
    obtain ⟨_, _, hkind, _⟩ := hawaits.only hs hm rfl
    cases hkind
  · next kind _ _ hbegin _ hm =>
    refine Option.some.inj h ▸ inv_freed hs rfl id id fun hawaits => ?_
    obtain ⟨id, _, rfl, _⟩ := hawaits.only hs hm rfl
    exact absurd rfl (hbegin id)
  · next hm =>
    refine Option.some.inj h ▸ inv_freed hs rfl id id fun hawaits => ?_
    obtain ⟨_, _, _, _, hstage, _⟩ := hawaits.only hs hm rfl
    rcases hstage with hstage | ⟨_, hstage⟩ <;> cases hstage
  · next hm =>
    refine Option.some.inj h ▸ inv_freed hs rfl id id fun hawaits => ?_
    obtain ⟨_, _, _, _, hstage, _⟩ := hawaits.only hs hm rfl
    rcases hstage with hstage | ⟨_, hstage⟩ <;> cases hstage
  · cases h

end

theorem mutations_admitUser (user : Option OidcUserLike) :
    (s.admitUser config user now).1.mutations = s.mutations := by
  rw [admitUser]
  split
  · rfl
  split
  · rfl
  · split <;> rfl

theorem inv_landed (hs : s.Inv)
    (hm : s.mutations[m]? = some mutation) (hstage : mutation.stage.isLanding = true)
    (error : Option BrowserAuthSessionErrorCode) :
    (s.setStage m mutation (.settled error)).Inv :=
  inv_setStage hs hm nofun fun _ hawaits =>
    absurd (hstage.symm.trans (hawaits.2 mutation (List.mem_of_getElem? hm))) (by simp)

theorem inv_land (hs : s.Inv) (h : s.land config m now = some t) : t.Inv := by
  rw [land] at h
  split at h
  · next kind epoch user hm =>
    have hadmit : (s.admitUser config user now).1.Inv := by
      refine inv_admitUser hs (fun havailable => ?_) user now
      refine hs.reopened_unless havailable fun hawaits => ?_
      cases hawaits.2 _ (List.mem_of_getElem? hm)
    have hmutations : (s.admitUser config user now).1.mutations[m]?
        = some ⟨kind, epoch, .landing user⟩ := (congrArg (·[m]?) (mutations_admitUser user)).trans hm
    split at h
    · next heq =>
      rw [heq] at hadmit hmutations
      exact Option.some.inj h ▸ inv_landed hadmit hmutations rfl _
    · next heq =>
      rw [heq] at hadmit hmutations
      exact Option.some.inj h ▸ inv_landed hadmit hmutations rfl _
  · cases h

theorem inv_waits (hs : s.Inv) {renewing : Option Nat} {cleanings : List CleaningStage}
    {endings : List EndingStage} {begins : List BeginStage} :
    Inv { s with
      renewing := renewing, cleanings := cleanings, endings := endings, begins := begins } :=
  ⟨hs.shut, hs.disposed, hs.logged, hs.cleaning, hs.ending, hs.reads, hs.pending, hs.law⟩

theorem inv_completeCallback (hs : s.Inv) : (s.completeCallback config).Inv := by
  rw [completeCallback]
  split
  · next havailable => exact inv_mutate hs (Bool.and_eq_true_iff.mp havailable).1 _
  · exact hs

theorem inv_completeSilentCallback (hs : s.Inv) : (s.completeSilentCallback config).Inv := by
  rw [completeSilentCallback]
  split
  · next havailable => exact inv_mutate hs (Bool.and_eq_true_iff.mp havailable).1 _
  · exact hs

theorem inv_renew (hs : s.Inv) : (s.renew config).Inv := by
  rw [renew]
  split
  · exact hs
  split
  · next havailable => exact inv_waits (inv_mutate hs (Bool.and_eq_true_iff.mp havailable).1 _)
  · exact hs

theorem inv_finishRenewal (hs : s.Inv) (h : s.finishRenewal = some t) : t.Inv := by
  rw [finishRenewal] at h
  split at h
  · exact Option.some.inj h ▸ inv_waits hs
  · cases h

theorem inv_logged (hs : s.Inv) (hblocked : s.blocked = true) (hentry : entry ≠ .disposed) :
    (s.logged entry).Inv where
  __ := hs
  logged h := hs.logged (mem_of_mem_cons hentry h)
  law := Or.inr ⟨hs.shut hblocked, Or.inl hblocked⟩

theorem blocked_cleanup (hs : s.cleaning.isSome = true → s.blocked = true) :
    s.cleanup.blocked = true := by
  rw [cleanup]
  split
  · next hcleaning => exact hs hcleaning
  · rfl

section

variable (hs : s.Inv)
include hs

theorem inv_cleanup : (s.logged .signedOut).cleanup.Inv := by
  have hshut : Shut { s.withdraw with epoch := s.epoch + 1 } :=
    ⟨Credentials.state_withdraw, fun epoch h => Nat.lt_succ_of_le (hs.reads epoch h)⟩
  rw [cleanup]
  split
  · next hcleaning => exact inv_logged hs (hs.cleaning hcleaning) (by simp)
  · exact {
      shut := fun _ => hshut
      disposed := fun _ => rfl
      logged := fun h => hs.logged (mem_of_mem_cons (by simp) h)
      cleaning := fun _ => rfl
      ending := fun _ => rfl
      reads := fun epoch h => Nat.le_succ_of_le (hs.reads epoch h)
      pending := hs.pending
      law := Or.inr ⟨hshut, Or.inl rfl⟩ }

theorem inv_signedOut : s.signedOut.Inv := by
  rw [signedOut]
  split
  · exact inv_cleanup hs
  · next havailable =>
    exact inv_logged hs (hs.blocked_of_unavailable (by simpa using havailable)) (by simp)

theorem inv_completeLogoutCallback : s.completeLogoutCallback.Inv := by
  rw [completeLogoutCallback]
  split
  · exact hs
  · exact inv_cleanup hs

theorem inv_logout : s.logout.Inv := by
  rw [logout]
  split
  · exact hs
  · simp only
    split
    · next hending => exact inv_logged hs (hs.ending hending) (by simp)
    · have hblocked : (s.logged .signedOut).cleanup.blocked = true := blocked_cleanup hs.cleaning
      have hcleanup := inv_cleanup hs
      exact ⟨hcleanup.shut, hcleanup.disposed, hcleanup.logged, hcleanup.cleaning,
        fun _ => hblocked, hcleanup.reads, hcleanup.pending, hcleanup.law⟩

theorem inv_settleCleaning (k : Nat) (error : Option BrowserAuthSessionErrorCode) :
    (s.settleCleaning k error).Inv :=
  ⟨hs.shut, hs.disposed, hs.logged, fun h => (by cases h), hs.ending, hs.reads, hs.pending, hs.law⟩

theorem inv_settleEnding (e : Nat) (error : Option BrowserAuthSessionErrorCode) :
    (s.settleEnding e error).Inv :=
  ⟨hs.shut, hs.disposed, hs.logged, hs.cleaning, fun h => (by cases h), hs.reads, hs.pending, hs.law⟩

theorem inv_drain {k : Nat} (h : s.drain config k = some t) : t.Inv := by
  rw [drain] at h
  split at h
  · split at h
    · cases h
    split at h
    · exact Option.some.inj h ▸ inv_waits hs
    · exact Option.some.inj h ▸ inv_settleCleaning hs _ _
  · cases h

theorem inv_finishCleaning {k : Nat} {removed : Bool}
    (h : s.finishCleaning k removed = some t) : t.Inv := by
  rw [finishCleaning] at h
  split at h
  · exact Option.some.inj h ▸ inv_settleCleaning hs _ _
  · cases h

theorem inv_redirectEnding {e : Nat} (h : s.redirectEnding config e = some t) :
    t.Inv := by
  rw [redirectEnding] at h
  split at h
  · split at h
    · exact Option.some.inj h ▸ inv_settleEnding hs _ _
    · split at h
      · exact Option.some.inj h ▸ inv_waits hs
      · exact Option.some.inj h ▸ inv_settleEnding hs _ _
    · cases h
  · cases h

theorem inv_finishEnding {e : Nat} {redirected : Bool}
    (h : s.finishEnding e redirected = some t) : t.Inv := by
  rw [finishEnding] at h
  split at h
  · exact Option.some.inj h ▸ inv_settleEnding hs _ _
  · cases h

theorem inv_dispose : s.dispose.Inv := by
  rw [dispose]
  split
  · exact hs
  · have hshut : Shut { s.withdraw with epoch := s.epoch + 1 } :=
      ⟨Credentials.state_withdraw, fun epoch h => Nat.lt_succ_of_le (hs.reads epoch h)⟩
    exact {
      shut := fun _ => hshut
      disposed := fun _ => rfl
      logged := fun _ => rfl
      cleaning := fun _ => rfl
      ending := fun _ => rfl
      reads := fun epoch h => Nat.le_succ_of_le (hs.reads epoch h)
      pending := hs.pending
      law := Or.inr ⟨hshut, Or.inl rfl⟩ }

theorem inv_logged_begin (hentry : entry.isBegin = true) : (s.logged entry).Inv where
  __ := hs
  logged h := hs.logged (mem_of_mem_cons (ne_of_isBegin hentry rfl) h)
  law := by
    refine hs.law.imp (·.cons hentry) fun ⟨hshut, h⟩ => ⟨hshut, h.imp_right ?_⟩
    rintro ⟨⟨m, id, stage, hpending, hm, hstage, hfresh⟩, hlanding⟩
    exact ⟨⟨m, id, stage, hpending, hm, hstage, hfresh.cons hentry⟩, hlanding⟩

theorem inv_startBegin {id : Nat} (hstart : s.mayStart config = true)
    (hcalled : CalledSinceSignOut s.log id) : (s.startBegin config id).Inv := by
  rw [startBegin]
  split
  · exact inv_waits hs
  · next hdisposed =>
    have hdisposed : s.disposed = false := by simpa using hdisposed
    have hlogged : .disposed ∉ s.log := fun h => by
      rw [hs.logged h] at hdisposed
      cases hdisposed
    cases hblocked : s.blocked with
    | false =>
      have hlifted : { s with blocked := false }.Inv := by
        rw [← hblocked]
        exact hs
      have hbegin : (SessionEntry.beginStarted id).isBegin = true := rfl
      have hstarted := inv_logged_begin hlifted hbegin
      simp only
      split
      · exact inv_waits hstarted
      · exact inv_waits (inv_mutate hstarted (hstarted.available rfl) _)
    | true =>
      simp only [mayStart, hblocked, hdisposed, ready, Bool.not_true, Bool.false_or, Bool.and_eq_true,
        List.isEmpty_iff, List.all_eq_true, Bool.not_eq_true', Option.isNone_iff_eq_none] at hstart
      obtain ⟨⟨⟨⟨hredirect, hpending⟩, hlanding⟩, hcleaning⟩, hending⟩ := hstart
      have hshut := hs.shut hblocked
      simp only [hredirect, mutate, logged, hpending]
      exact {
        shut := fun h => by cases h
        disposed := fun h => absurd (hdisposed.symm.trans h) (by simp)
        logged := fun h => absurd (mem_of_mem_cons (by simp) h) hlogged
        cleaning := fun h => by
          rw [hcleaning] at h
          cases h
        ending := fun h => by
          rw [hending] at h
          cases h
        reads := hs.reads
        pending := by
          intro m mutation hm hopen
          rcases of_getElem?_concat hm with hold | ⟨rfl, -⟩
          · have hmem := hs.pending m mutation hold hopen
            rw [hpending] at hmem
            cases hmem
          · exact List.mem_cons_self
        law := by
          refine Or.inr ⟨hshut, Or.inr ⟨⟨s.mutations.length, id, .running, rfl, ?_, Or.inl rfl,
            fresh_started hlogged hcalled⟩, ?_⟩⟩
          · exact List.getElem?_concat_length
          · intro mutation hmem
            rcases List.mem_append.mp hmem with hold | hnew
            · exact hlanding mutation hold
            · rw [List.mem_singleton.mp hnew]
              rfl }

theorem inv_awaitCleaning {id : Nat}
    (hstart : s.cleaning = none → s.mayStart config = true ∧ CalledSinceSignOut s.log id) :
    (s.awaitCleaning config id).Inv := by
  rw [awaitCleaning]
  split
  · exact inv_waits hs
  · next hcleaning =>
    obtain ⟨hstart, hcalled⟩ := hstart hcleaning
    exact inv_startBegin hs hstart hcalled

theorem inv_begin (hstart : s.Undisturbed config .begin) : (s.begin config).Inv := by
  have hentered : s.enterBegin.Inv := inv_logged_begin (inv_waits hs) rfl
  rw [begin]
  split
  · exact inv_waits hentered
  · next hending =>
    refine inv_awaitCleaning hentered fun hcleaning => ⟨?_, calledSinceSignOut_called⟩
    have hcleaning : s.cleaning = none := hcleaning
    rw [Undisturbed, undisturbed, hending, hcleaning] at hstart
    exact hstart

theorem inv_goOnBegin {id : Nat} (hstart : s.Undisturbed config (.goOnBegin id))
    (h : s.goOnBegin config id = some t) : t.Inv := by
  have hstart : s.waitsNoMore id = true → s.mayStart config = true ∧ CalledSinceSignOut s.log id := by
    intro hwaits
    simpa [Undisturbed, undisturbed, hwaits] using hstart
  rw [goOnBegin] at h
  split at h
  · next ending hbegin =>
    split at h
    · next hending =>
      refine Option.some.inj h ▸ inv_awaitCleaning hs fun hcleaning => ?_
      exact hstart (by simp [waitsNoMore, hbegin, hending, hcleaning])
    · exact Option.some.inj h ▸ inv_waits hs
    · cases h
  · next cleaning hbegin =>
    split at h
    · next hcleaning =>
      obtain ⟨hstart, hcalled⟩ := hstart (by simp [waitsNoMore, hbegin, hcleaning])
      exact Option.some.inj h ▸ inv_startBegin hs hstart hcalled
    · exact Option.some.inj h ▸ inv_waits hs
    · cases h
  · cases h

theorem inv_admittedUser (now : Rat) : (s.admittedUser config now).1.Inv := by
  rw [admittedUser]
  split
  · exact hs
  · exact inv_withdraw hs

theorem inv_expire (now : Rat) : (s.expire config now).Inv := by
  rw [expire]
  split
  · exact hs
  · exact inv_withdraw hs

theorem inv_step {event : Event} (hevent : s.Undisturbed config event)
    (h : s.step config event = some t) : t.Inv := by
  cases event with
  | loaded user now => exact Option.some.inj h ▸ inv_loaded hs user now
  | expired =>
    refine Option.some.inj h ▸ ?_
    rw [expired]
    split
    · exact inv_withdraw hs
    · exact hs
  | signedOut => exact Option.some.inj h ▸ inv_signedOut hs
  | getSession now => exact Option.some.inj h ▸ inv_getSession hs now
  | readUser read answer now => exact inv_readUser hs h
  | accessToken read now =>
    rw [step] at h
    split at h
    · exact Option.some.inj h ▸ inv_withdrawInvalid hs now
    · cases h
  | admittedUser now => exact Option.some.inj h ▸ inv_admittedUser hs now
  | expire now =>
    rw [step] at h
    split at h
    · exact Option.some.inj h ▸ inv_expire hs now
    · cases h
  | begin => exact Option.some.inj h ▸ inv_begin hs hevent
  | goOnBegin id => exact inv_goOnBegin hs hevent h
  | completeCallback => exact Option.some.inj h ▸ inv_completeCallback hs
  | completeSilentCallback => exact Option.some.inj h ▸ inv_completeSilentCallback hs
  | renew => exact Option.some.inj h ▸ inv_renew hs
  | answerMutation m answer => exact inv_answerMutation hs h
  | removedByMutation m removed => exact inv_removedByMutation hs h
  | settleMutation m => exact inv_settleMutation hs h
  | land m now => exact inv_land hs h
  | finishRenewal => exact inv_finishRenewal hs h
  | logout => exact Option.some.inj h ▸ inv_logout hs
  | completeLogoutCallback => exact Option.some.inj h ▸ inv_completeLogoutCallback hs
  | drain k => exact inv_drain hs h
  | finishCleaning k removed => exact inv_finishCleaning hs h
  | redirectEnding e => exact inv_redirectEnding hs h
  | finishEnding e redirected => exact inv_finishEnding hs h
  | dispose => exact Option.some.inj h ▸ inv_dispose hs

end

/-! ## What is handed out -/

structure Retires (config : OidcBrowserAuthSessionConfig) (s : OidcBrowserAuthSession) : Prop where
  token : ∀ now token, (s.accessToken config now).2 = some token → Reopened s.log
  user : ∀ now user, (s.admittedUser config now).2 = some user → Reopened s.log

theorem Inv.reopened (hs : s.Inv) (havailable : s.available = true)
    (hstate : s.credentials.state.isSome = true) : Reopened s.log := by
  refine (hs.law_of_available havailable).resolve_right fun ⟨hshut, _⟩ => ?_
  rw [hshut.1] at hstate
  cases hstate

theorem Inv.retires (hs : s.Inv) : s.Retires config where
  token _ _ h := by
    obtain ⟨havailable, hstate, -⟩ := accessToken_some h
    exact hs.reopened havailable hstate
  user _ _ h := by
    obtain ⟨havailable, hstate, -⟩ := admittedUser_some h
    exact hs.reopened havailable hstate

/-- In every run what is handed out is the admitted user's; in an undisturbed run it is handed out
behind a completed begin. -/
theorem admission_run {events : List Event} {states : List OidcBrowserAuthSession}
    (h : statesOf (step config) opened events = some states) :
    (∀ reached ∈ states, reached.Describes config)
      ∧ (EveryStep (step config) (Undisturbed config) opened events →
        ∀ reached ∈ states, reached.Retires config) := by
  constructor
  · intro reached hreached
    have hconsistent := statesOf_invariant (P := fun _ _ => True)
      (J := fun s : OidcBrowserAuthSession => s.credentials.Consistent config)
      (fun _ _ _ hs _ hnext => consistent_step hs hnext) Credentials.consistent_opened
      (everyStep_of_forall fun _ _ _ => trivial) h
    exact describes_of_consistent (hconsistent reached hreached)
  · intro hundisturbed reached hreached
    have hinv := statesOf_invariant (J := Inv)
      (fun _ _ _ hs hevent hnext => inv_step hs hevent hnext) inv_opened hundisturbed h
    exact (hinv reached hreached).retires

section Sample

def sampleConfig : OidcBrowserAuthSessionConfig where
  issuer := "https://issuer.test/realms/dev"
  driver := ⟨true, true, true, true, true, true⟩
  stringify user := user.accessToken.getD ""
  toISOString ms := if ms = 2000000 then "1970-01-01T00:33:20.000Z" else ""

def sampleUser (token : String) : OidcUserLike where
  accessToken := some token
  idToken := some "private-hint"
  profile := .object [("iss", .string "https://issuer.test/realms/dev"), ("sub", .string "person")]
  expiresMs := some 2000000

def signIn (read : Nat) (token : String) : List Event :=
  [.getSession 1000000, .readUser read (some (some (sampleUser token))) 1000000]

/-- A sign-in, a logout, and a begin whose redirect comes back with another user. -/
def signedInAgain : List Event :=
  signIn 0 "access-a"
    ++ [.logout, .drain 0, .finishCleaning 0 true, .redirectEnding 0, .finishEnding 0 true, .begin,
      .answerMutation 0 (.ok none), .settleMutation 0]
    ++ signIn 1 "access-b"

/-- A logout whose removal fails, a begin whose redirect fails, and another begin while the first
still removes the stored user. -/
def rejectedBegin : List Event :=
  signIn 0 "access-a"
    ++ [.logout, .drain 0, .finishCleaning 0 false, .redirectEnding 0, .begin,
      .answerMutation 0 (.error .providerError), .begin, .removedByMutation 0 false,
      .settleMutation 0]
    ++ signIn 1 "access-a"

theorem admission_run_signedInAgain :
    ∃ states last, statesOf (step sampleConfig) opened signedInAgain = some states
      ∧ states.getLast? = some last
      ∧ (last.accessToken sampleConfig 1000000).2 = some "access-b"
      ∧ .signedOut ∈ last.log
      ∧ ∀ reached ∈ states, reached.Describes sampleConfig ∧ reached.Retires sampleConfig := by
  have hrun : (statesOf (step sampleConfig) opened signedInAgain).bind
      (fun states => states.getLast?.map fun last => ((last.accessToken sampleConfig 1000000).2, last.log))
      = some (some "access-b", [.beginCompleted 0, .beginStarted 0, .beginCalled 0, .signedOut]) := by
    decide +kernel
  obtain ⟨states, hstates, hread⟩ := Option.bind_eq_some_iff.mp hrun
  obtain ⟨last, hlast, hfound⟩ := Option.map_eq_some_iff.mp hread
  obtain ⟨htoken, hlog⟩ := Prod.mk.inj hfound
  obtain ⟨hdescribes, hretires⟩ := admission_run hstates
  have hundisturbed : EveryStep (step sampleConfig) (Undisturbed sampleConfig) opened signedInAgain := by
    decide +kernel
  exact ⟨states, last, hstates, hlast, htoken, by simp [hlog], fun reached hreached =>
    ⟨hdescribes reached hreached, hretires hundisturbed reached hreached⟩⟩

/-- The token of the user that was signed out is handed out again, and no begin has completed. -/
theorem rejected_begin_reopens :
    ∃ states last, statesOf (step sampleConfig) opened rejectedBegin = some states
      ∧ states.getLast? = some last
      ∧ (last.accessToken sampleConfig 1000000).2 = some "access-a"
      ∧ .signedOut ∈ last.log
      ∧ (∀ id, .beginCompleted id ∉ last.log)
      ∧ ¬ last.Retires sampleConfig := by
  have hrun : (statesOf (step sampleConfig) opened rejectedBegin).bind
      (fun states => states.getLast?.map fun last => ((last.accessToken sampleConfig 1000000).2, last.log))
      = some (some "access-a", [.beginStarted 1, .beginCalled 1, .beginStarted 0, .beginCalled 0,
        .signedOut]) := by
    decide +kernel
  obtain ⟨states, hstates, hread⟩ := Option.bind_eq_some_iff.mp hrun
  obtain ⟨last, hlast, hfound⟩ := Option.map_eq_some_iff.mp hread
  obtain ⟨htoken, hlog⟩ := Prod.mk.inj hfound
  have hcompleted : ∀ id, .beginCompleted id ∉ last.log := by simp [hlog]
  refine ⟨states, last, hstates, hlast, htoken, by simp [hlog], hcompleted, fun hretires => ?_⟩
  have hreopened := hretires.token 1000000 "access-a" htoken
  obtain ⟨id, -, hid⟩ := hreopened.signedOut (by simp [hlog])
  exact hcompleted id (List.takeWhile_subset _ hid)

end Sample

end OidcBrowserAuthSession

end FormspecWeb.Identity
