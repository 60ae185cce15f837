import FormspecWeb.Async.History
import FormspecWeb.Screener.HttpScreenerRetention

/-!
# The chain of retained runs

A chain of refreshed and loaded views stays with one run: its owner, scope and answers do not
change, its revision and its evaluation do not go back, and one revision has one evidence. The last
is not checked of a loaded view, dates are compared as `Date.parse` reads them, and from `2 ^ 53` on
the next revision may be the same number, so that all hold of replies that repeat no revision with
other evidence, whose dates parse and which refresh smaller revisions.
-/

namespace FormspecWeb.Screener.Retention

open Async Ports Shared

variable {config : HttpScreenerRetentionConfig}

/-- A ready view was checked behind its evaluation and while it was valid. -/
def Timely (config : HttpScreenerRetentionConfig) (view : RunView) : Prop :=
  ∀ acceptance, view.acceptance = some acceptance → acceptance.qualification.isReady = true →
    ∃ evaluated checked, config.parse view.run.evaluatedAt = some evaluated
      ∧ config.parse acceptance.checkedAt = some checked ∧ evaluated ≤ checked
      ∧ ∀ text, view.run.determination.validUntil = some text →
        ∃ limit, config.parse text = some limit ∧ checked < limit

def OwnedBy (view : RunView) (identity : Identity) : Prop :=
  view.run.owner.authenticated.issuer = identity.issuer
    ∧ view.run.owner.authenticated.subject = identity.subject
    ∧ view.run.owner.authenticated.clientId = identity.clientId

/-- What an issued view says of the configuration, its caller and itself. -/
structure ViewLaw (config : HttpScreenerRetentionConfig) (found : Issued) : Prop where
  selection : found.view.selection = config.selection
  scope : found.view.run.scope = config.selection.evaluationSelection.scope
  selectionHash : found.view.run.selectionHash = config.selectionHash
  owner : OwnedBy found.view found.identity
  answersHash : found.view.run.answersHash = config.digest.answers found.view.run.answers
  determinationHash :
    found.view.run.determinationHash = config.digest.determination found.view.run.determination
  evidenceHash : found.view.evidenceHash = config.digest.evidence found.view.run
  timely : Timely config found.view

/-- A later view of a chain is one of the same run, which did not go back. -/
structure Follows (config : HttpScreenerRetentionConfig) (first last : RunView) : Prop where
  runId : last.run.runId = first.run.runId
  owner : last.run.owner = first.run.owner
  scope : last.run.scope = first.run.scope
  answers : last.run.answers = first.run.answers
  revision : first.run.revision ≤ last.run.revision
  evidence : last.run.revision = first.run.revision →
    last.run = first.run ∧ last.evidenceHash = first.evidenceHash
  evaluated : ∃ before now, config.parse first.run.evaluatedAt = some before
    ∧ config.parse last.run.evaluatedAt = some now ∧ before ≤ now

def Origin.ofPrevious (origin : Origin) (previous : Nat) : Prop :=
  origin = .refreshed previous ∨ origin = .loaded previous

inductive Descends (issued : List Issued) : Nat → Nat → Prop where
  | refl (number : Nat) : Descends issued number number
  | step {first previous number : Nat} {found : Issued} (before : Descends issued first previous)
      (member : issued[number]? = some found) (link : found.origin.ofPrevious previous) :
      Descends issued first number

theorem Follows.refl {view : RunView} (hdates : (config.parse view.run.evaluatedAt).isSome) :
    Follows config view view := by
  obtain ⟨evaluated, hevaluated⟩ := Option.isSome_iff_exists.mp hdates
  exact ⟨rfl, rfl, rfl, rfl, Nat.le_refl _, fun _ => ⟨rfl, rfl⟩,
    evaluated, evaluated, hevaluated, hevaluated, Int.le_refl _⟩

theorem Follows.trans {first middle last : RunView} (h : Follows config first middle)
    (h' : Follows config middle last) : Follows config first last where
  runId := h'.runId.trans h.runId
  owner := h'.owner.trans h.owner
  scope := h'.scope.trans h.scope
  answers := h'.answers.trans h.answers
  revision := h.revision.trans h'.revision
  evidence := by
    intro hsame
    have hmiddle : middle.run.revision = first.run.revision := by
      have := h.revision
      have := h'.revision
      omega
    obtain ⟨hrun, hhash⟩ := h.evidence hmiddle
    obtain ⟨hrun', hhash'⟩ := h'.evidence (hsame.trans hmiddle.symm)
    exact ⟨hrun'.trans hrun, hhash'.trans hhash⟩
  evaluated := by
    obtain ⟨before, between, hbefore, hbetween, hle⟩ := h.evaluated
    obtain ⟨between', now, hbetween', hnow, hle'⟩ := h'.evaluated
    obtain rfl := Option.some.inj (hbetween.symm.trans hbetween')
    exact ⟨before, now, hbefore, hnow, hle.trans hle'⟩

namespace HttpScreenerRetention

variable {s t : HttpScreenerRetention}

structure Lawful (config : HttpScreenerRetentionConfig) (s : HttpScreenerRetention) : Prop where
  views : ∀ found ∈ s.issued, ViewLaw config found
  refreshed : ∀ found ∈ s.issued, ∀ previous, found.origin = .refreshed previous →
    ∃ before, s.issued[previous]? = some before
      ∧ found.view.run.revision = before.view.run.revision + 1
  chains : ∀ first last before after, Descends s.issued first last →
    s.issued[first]? = some before → s.issued[last]? = some after →
    Follows config before.view after.view
  associations : ∀ number ∈ s.associations, ∃ found, s.issued[number]? = some found
    ∧ isReady found.view = true

def DatesParse (config : HttpScreenerRetentionConfig) (view : RunView) : Prop :=
  (config.parse view.run.evaluatedAt).isSome
    ∧ ∀ acceptance, view.acceptance = some acceptance → acceptance.qualification.isReady = true →
      (config.parse acceptance.checkedAt).isSome
        ∧ ∀ text, view.run.determination.validUntil = some text → (config.parse text).isSome

/-- The dates of a reply that passes its checks parse, a loaded one repeats no revision with other
evidence, and a refreshed one is for a revision whose successor is a double. -/
def SoundReply (config : HttpScreenerRetentionConfig) (s : HttpScreenerRetention) :
    Pending → Reply → Prop
  | .retain request identity, .view view =>
    retains config request identity view = true → DatesParse config view
  | .recover saved identity, .recovery recovered =>
    ∀ history, recovers config saved identity recovered = some history → DatesParse config history
  | .refresh previous identity, .view view => ∀ found, s.issued[previous]? = some found →
      succeeds config found.view identity true view = true → DatesParse config view
        ∧ found.view.run.revision < 2 ^ 53
  | .load previous identity, .view view => ∀ found, s.issued[previous]? = some found →
      succeeds config found.view identity false view = true → DatesParse config view
        ∧ (view.run.revision = found.view.run.revision → view.run = found.view.run)
  | _, _ => True

def Sound (config : HttpScreenerRetentionConfig) (s : HttpScreenerRetention) : Event → Prop
  | .reply call reply true =>
    ∀ pending, s.calls[call]? = some (some pending) → SoundReply config s pending reply
  | _ => True

instance decidableForallSome {α : Type} (found : Option α) (P : α → Prop) [DecidablePred P] :
    Decidable (∀ value, found = some value → P value) :=
  match found with
  | none => isTrue nofun
  | some value => decidable_of_iff (P value) ⟨fun h _ heq => Option.some.inj heq ▸ h, fun h => h _ rfl⟩

instance decidableDatesParse (view : RunView) : Decidable (DatesParse config view) :=
  inferInstanceAs (Decidable (_ ∧ _))

instance decidableSoundReply :
    ∀ (pending : Pending) (reply : Reply), Decidable (SoundReply config s pending reply)
  | .retain request identity, .view view =>
    inferInstanceAs (Decidable (retains config request identity view = true → DatesParse config view))
  | .recover saved identity, .recovery recovered =>
    inferInstanceAs (Decidable (∀ history, recovers config saved identity recovered = some history →
      DatesParse config history))
  | .refresh previous identity, .view view =>
    inferInstanceAs (Decidable (∀ found, s.issued[previous]? = some found →
      succeeds config found.view identity true view = true → DatesParse config view
        ∧ found.view.run.revision < 2 ^ 53))
  | .load previous identity, .view view =>
    inferInstanceAs (Decidable (∀ found, s.issued[previous]? = some found →
      succeeds config found.view identity false view = true → DatesParse config view
        ∧ (view.run.revision = found.view.run.revision → view.run = found.view.run)))
  | .retain _ _, .recovery _ | .retain _ _, .association _ | .retain _ _, .failed
  | .recover _ _, .view _ | .recover _ _, .association _ | .recover _ _, .failed
  | .refresh _ _, .recovery _ | .refresh _ _, .association _ | .refresh _ _, .failed
  | .load _ _, .recovery _ | .load _ _, .association _ | .load _ _, .failed
  | .associate _ _ _, _ => isTrue trivial

instance decidableSound : ∀ event : Event, Decidable (Sound config s event)
  | .reply call reply true =>
    match hcall : s.calls[call]? with
    | some (some pending) =>
      decidable_of_iff (SoundReply config s pending reply)
        ⟨fun h other heq => by
          obtain rfl := Option.some.inj (Option.some.inj (hcall.symm.trans heq))
          exact h, fun h => h pending hcall⟩
    | some none => isTrue fun _ h => by
        rw [hcall] at h
        cases h
    | none => isTrue fun _ h => by
        rw [hcall] at h
        cases h
  | .reply _ _ false | .retain _ _ _ | .recover _ _ _ | .refresh _ _ _ | .load _ _ _
  | .associate _ _ _ _ => isTrue trivial

/-! ## Checks -/

variable {identity : Identity} {view : RunView}

theorem owned_of_hasIdentity
    (h : hasIdentity view identity = true) : OwnedBy view identity := by
  unfold hasIdentity at h
  simp only [Bool.and_eq_true, beq_iff_eq] at h
  exact ⟨h.1.1.1.1, h.1.1.1.2, h.1.1.2⟩

theorem le_of_not_parsedBefore {left right : String} (h : parsedBefore config left right = false)
    (hleft : (config.parse left).isSome) (hright : (config.parse right).isSome) :
    ∃ before now, config.parse right = some before ∧ config.parse left = some now
      ∧ before ≤ now := by
  obtain ⟨now, hnow⟩ := Option.isSome_iff_exists.mp hleft
  obtain ⟨before, hbefore⟩ := Option.isSome_iff_exists.mp hright
  refine ⟨before, now, hbefore, hnow, ?_⟩
  unfold parsedBefore at h
  rw [hnow, hbefore] at h
  exact Int.not_lt.mp (of_decide_eq_false h)

theorem timely_of_checks {targetOk : String → Bool}
    (hready : readyChecks config view targetOk = true) (hbehind : checkedBehind config view = true)
    (hdates : DatesParse config view) : Timely config view := by
  intro acceptance hacceptance hisReady
  obtain ⟨hchecked, huntil⟩ := hdates.2 acceptance hacceptance hisReady
  unfold checkedBehind at hbehind
  rw [hacceptance, Option.all_some, Bool.not_eq_true'] at hbehind
  obtain ⟨evaluated, checked, hevaluated, hat, hle⟩ :=
    le_of_not_parsedBefore hbehind hchecked hdates.1
  refine ⟨evaluated, checked, hevaluated, hat, hle, fun text htext => ?_⟩
  obtain ⟨limit, hlimit⟩ := Option.isSome_iff_exists.mp (huntil text htext)
  refine ⟨limit, hlimit, ?_⟩
  unfold readyChecks at hready
  rw [hacceptance] at hready
  cases hqualification : acceptance.qualification with
  | pending reason =>
    rw [hqualification] at hisReady
    cases hisReady
  | ready target =>
    simp only [hqualification, Bool.and_eq_true, Bool.not_eq_true'] at hready
    have houtlived := hready.2
    unfold outlived at houtlived
    rw [htext] at houtlived
    simp only [hat, hlimit] at houtlived
    exact Int.not_le.mp (of_decide_eq_false houtlived)

theorem hashes_of_check (h : hashesItself config view = true) :
    view.run.answersHash = config.digest.answers view.run.answers
      ∧ view.run.determinationHash = config.digest.determination view.run.determination
      ∧ view.evidenceHash = config.digest.evidence view.run := by
  unfold hashesItself at h
  simp only [Bool.and_eq_true, beq_iff_eq] at h
  exact ⟨h.1.1.1.1, h.1.1.1.2, h.1.1.2⟩

theorem viewLaw_of_retains {request : RetainRequest}
    (h : retains config request identity view = true) (hdates : DatesParse config view) :
    ViewLaw config ⟨view, identity, .retained⟩ := by
  unfold retains at h
  simp only [Bool.and_eq_true, beq_iff_eq] at h
  obtain ⟨⟨⟨⟨⟨⟨⟨⟨⟨hidentity, hselection⟩, hscope⟩, hselectionHash⟩, -⟩, hhashes⟩, -⟩, -⟩, hbehind⟩,
    hready⟩ := h
  obtain ⟨hanswers, hdetermination, hevidence⟩ := hashes_of_check hhashes
  exact ⟨hselection, hscope, hselectionHash, owned_of_hasIdentity hidentity, hanswers, hdetermination,
    hevidence, timely_of_checks hready hbehind hdates⟩

theorem viewLaw_of_recovers {saved : SavedResponseDraft}
    {recovered : RecoveryView} {history : RunView}
    (h : recovers config saved identity recovered = some history) :
    ViewLaw config ⟨history, identity, .recovered⟩ := by
  unfold recovers at h
  split at h
  · cases h
  · next current association found _ =>
    split at h
    · next hchecks =>
      cases h
      have hhistory := (Bool.and_eq_true_iff.mp hchecks).2
      unfold historyMatches at hhistory
      simp only [Bool.and_eq_true, beq_iff_eq, Option.isNone_iff_eq_none] at hhistory
      obtain ⟨⟨⟨⟨⟨⟨⟨hidentity, hselection⟩, hacceptance⟩, hscope⟩, -⟩, hselectionHash⟩, hhashes⟩, -⟩ :=
        hhistory
      obtain ⟨hanswers, hdetermination, hevidence⟩ := hashes_of_check hhashes
      refine ⟨hselection, hscope, hselectionHash, owned_of_hasIdentity hidentity, hanswers,
        hdetermination, hevidence, ?_⟩
      intro acceptance hsome
      rw [hacceptance] at hsome
      cases hsome
    · cases h

structure Successor (config : HttpScreenerRetentionConfig) (previous : RunView) (appended : Bool)
    (view : RunView) : Prop where
  scope : view.run.scope = previous.run.scope
  owner : view.run.owner = previous.run.owner
  runId : view.run.runId = previous.run.runId
  answers : view.run.answers = previous.run.answers
  revision : if appended then view.run.revision = Doubles.toDouble (previous.run.revision + 1)
    else previous.run.revision ≤ view.run.revision
  evaluated : parsedBefore config view.run.evaluatedAt previous.run.evaluatedAt = false

theorem successor_of_succeeds {previous : RunView} {appended : Bool}
    (h : succeeds config previous identity appended view = true) :
    Successor config previous appended view := by
  unfold succeeds at h
  simp only [Bool.and_eq_true, beq_iff_eq, Bool.not_eq_true'] at h
  obtain ⟨⟨⟨⟨⟨⟨⟨⟨⟨⟨⟨⟨⟨-, -⟩, hscope⟩, howner⟩, -⟩, hrunId⟩, hrevision⟩, hanswers⟩, -⟩, -⟩, hevaluated⟩, -⟩,
    -⟩, -⟩ := h
  refine ⟨hscope, howner, hrunId, hanswers, ?_, hevaluated⟩
  cases appended with
  | true => exact of_decide_eq_true hrevision
  | false => exact of_decide_eq_true hrevision

theorem viewLaw_of_succeeds {previous : Issued} {appended : Bool}
    {origin : Origin} (hprevious : ViewLaw config previous)
    (h : succeeds config previous.view identity appended view = true)
    (hdates : DatesParse config view) : ViewLaw config ⟨view, identity, origin⟩ := by
  have hscope := (successor_of_succeeds h).scope
  unfold succeeds at h
  simp only [Bool.and_eq_true, beq_iff_eq, Bool.not_eq_true'] at h
  obtain ⟨⟨⟨⟨⟨⟨⟨⟨⟨⟨⟨⟨⟨hidentity, hselection⟩, -⟩, -⟩, hselectionHash⟩, -⟩, -⟩, -⟩, hhashes⟩, -⟩, -⟩, -⟩,
    hbehind⟩, hready⟩ := h
  obtain ⟨hanswers, hdetermination, hevidence⟩ := hashes_of_check hhashes
  exact ⟨hselection, hscope.trans hprevious.scope, hselectionHash, owned_of_hasIdentity hidentity,
    hanswers, hdetermination, hevidence, timely_of_checks hready hbehind hdates⟩

variable {previous view : RunView}

theorem Successor.revision_succ (h : Successor config previous true view)
    (hdouble : previous.run.revision < 2 ^ 53) : view.run.revision = previous.run.revision + 1 := by
  have hsum : (view.run.revision : Rat) = Doubles.toDouble (previous.run.revision + 1) := by
    simpa using h.revision
  rw [← Nat.cast_succ, Doubles.toDouble_natCast hdouble] at hsum
  exact_mod_cast hsum

theorem follows_refreshed (h : Successor config previous true view)
    (hrevision : view.run.revision = previous.run.revision + 1)
    (hprevious : (config.parse previous.run.evaluatedAt).isSome)
    (hview : (config.parse view.run.evaluatedAt).isSome) : Follows config previous view := by
  refine ⟨h.runId, h.owner, h.scope, h.answers, by omega, fun hsame => ?_,
    le_of_not_parsedBefore h.evaluated hview hprevious⟩
  omega

theorem follows_loaded (h : Successor config previous false view)
    (hprevious : (config.parse previous.run.evaluatedAt).isSome)
    (hview : (config.parse view.run.evaluatedAt).isSome)
    (hsame : view.run.revision = previous.run.revision → view.run = previous.run
      ∧ view.evidenceHash = previous.evidenceHash) : Follows config previous view := by
  have hrevision : previous.run.revision ≤ view.run.revision := by simpa using h.revision
  exact ⟨h.runId, h.owner, h.scope, h.answers, hrevision, hsame,
    le_of_not_parsedBefore h.evaluated hview hprevious⟩

/-! ## The invariant -/

structure Inv (config : HttpScreenerRetentionConfig) (s : HttpScreenerRetention) : Prop where
  views : ∀ found ∈ s.issued, ViewLaw config found
  dates : ∀ found ∈ s.issued, (config.parse found.view.run.evaluatedAt).isSome
  refreshed : ∀ found ∈ s.issued, ∀ previous, found.origin = .refreshed previous →
    ∃ before, s.issued[previous]? = some before
      ∧ found.view.run.revision = before.view.run.revision + 1
  links : ∀ found ∈ s.issued, ∀ previous, found.origin.ofPrevious previous →
    ∃ before, s.issued[previous]? = some before ∧ Follows config before.view found.view
  associations : ∀ number ∈ s.associations, ∃ found, s.issued[number]? = some found
    ∧ isReady found.view = true

section

variable (hs : s.Inv config)
include hs

theorem Inv.chains {first last : Nat} (h : Descends s.issued first last) :
    ∀ before after, s.issued[first]? = some before → s.issued[last]? = some after →
      Follows config before.view after.view := by
  induction h with
  | refl =>
    intro before after hbefore hafter
    obtain rfl := Option.some.inj (hbefore.symm.trans hafter)
    exact Follows.refl (hs.dates before (List.mem_of_getElem? hbefore))
  | step _ hmember hlink ih =>
    intro before after hbefore hafter
    obtain rfl := Option.some.inj (hmember.symm.trans hafter)
    obtain ⟨between, hbetween, hfollows⟩ :=
      hs.links _ (List.mem_of_getElem? hmember) _ hlink
    exact (ih before between hbefore hbetween).trans hfollows

theorem lawful_of_inv : s.Lawful config where
  __ := hs
  chains := fun _ _ before after h hbefore hafter => hs.chains h before after hbefore hafter

theorem inv_calls (calls : List (Option Pending)) (associated : List Nat) :
    ({ s with calls := calls, associated := associated } : HttpScreenerRetention).Inv config :=
  ⟨hs.views, hs.dates, hs.refreshed, hs.links, hs.associations⟩

theorem inv_issue {origin : Origin} (hlaw : ViewLaw config ⟨view, identity, origin⟩)
    (hdates : (config.parse view.run.evaluatedAt).isSome)
    (hrefreshed : ∀ previous, origin = .refreshed previous → ∃ before,
      s.issued[previous]? = some before ∧ view.run.revision = before.view.run.revision + 1)
    (hlink : ∀ previous, origin.ofPrevious previous → ∃ before, s.issued[previous]? = some before
      ∧ Follows config before.view view) : (s.issue view identity origin).Inv config where
  views := by
    intro found hfound
    rcases List.mem_append.mp hfound with hold | hnew
    · exact hs.views found hold
    · exact List.mem_singleton.mp hnew ▸ hlaw
  dates := by
    intro found hfound
    rcases List.mem_append.mp hfound with hold | hnew
    · exact hs.dates found hold
    · exact List.mem_singleton.mp hnew ▸ hdates
  refreshed := by
    intro found hfound previous horigin
    rcases List.mem_append.mp hfound with hold | hnew
    · obtain ⟨before, hbefore, hrevision⟩ := hs.refreshed found hold previous horigin
      exact ⟨before, getElem?_concat_of hbefore, hrevision⟩
    · obtain rfl := List.mem_singleton.mp hnew
      obtain ⟨before, hbefore, hrevision⟩ := hrefreshed previous horigin
      exact ⟨before, getElem?_concat_of hbefore, hrevision⟩
  links := by
    intro found hfound previous horigin
    rcases List.mem_append.mp hfound with hold | hnew
    · obtain ⟨before, hbefore, hfollows⟩ := hs.links found hold previous horigin
      exact ⟨before, getElem?_concat_of hbefore, hfollows⟩
    · obtain rfl := List.mem_singleton.mp hnew
      obtain ⟨before, hbefore, hfollows⟩ := hlink previous horigin
      exact ⟨before, getElem?_concat_of hbefore, hfollows⟩
  associations := by
    intro number hnumber
    obtain ⟨found, hfound, hready⟩ := hs.associations number hnumber
    exact ⟨found, getElem?_concat_of hfound, hready⟩

theorem inv_callSuccessor (run : RunHandle) (identity : Identity)
    (current appended : Bool) : (s.callSuccessor config run identity current appended).Inv config := by
  unfold callSuccessor
  split
  · exact inv_calls hs _ _
  · exact inv_calls hs _ _

theorem inv_callAssociate (run : RunHandle) (saved : SavedResponseDraft)
    (identity : Identity) (current : Bool) :
    (s.callAssociate config run saved identity current).Inv config := by
  unfold callAssociate
  split
  · exact inv_calls hs _ _
  · next number view hfind =>
    split
    · next hpins =>
      refine ⟨hs.views, hs.dates, hs.refreshed, hs.links, ?_⟩
      intro asked hasked
      rcases List.mem_cons.mp hasked with rfl | hold
      · cases run with
        | foreign view => cases hfind
        | issued other =>
          obtain ⟨found, hfound, heq⟩ := Option.map_eq_some_iff.mp hfind
          cases heq
          have hready := (Bool.and_eq_true_iff.mp (Bool.and_eq_true_iff.mp hpins).1).2
          exact ⟨found, hfound, hready⟩
      · exact hs.associations asked hold
    · exact inv_calls hs _ _

theorem inv_settle (call : Nat) : (s.settle call).Inv config :=
  inv_calls hs _ _

theorem inv_refreshed {previous : Nat} {found : Issued} (hfound : s.issued[previous]? = some found)
    (hsucceeds : succeeds config found.view identity true view = true)
    (hdates : DatesParse config view) (hdouble : found.view.run.revision < 2 ^ 53) :
    (s.issue view identity (.refreshed previous)).Inv config := by
  have hmem := List.mem_of_getElem? hfound
  have hsuccessor := successor_of_succeeds hsucceeds
  have hrevision := hsuccessor.revision_succ hdouble
  apply inv_issue hs (viewLaw_of_succeeds (hs.views found hmem) hsucceeds hdates) hdates.1
  · intro other horigin
    cases horigin
    exact ⟨found, hfound, hrevision⟩
  · intro other horigin
    obtain rfl : previous = other := by
      rcases horigin with h | h
      · exact Origin.refreshed.inj h
      · cases h
    exact ⟨found, hfound, follows_refreshed hsuccessor hrevision (hs.dates found hmem) hdates.1⟩

theorem inv_loaded {previous : Nat} {found : Issued} (hfound : s.issued[previous]? = some found)
    (hsucceeds : succeeds config found.view identity false view = true)
    (hdates : DatesParse config view)
    (hsame : view.run.revision = found.view.run.revision → view.run = found.view.run) :
    (s.issue view identity (.loaded previous)).Inv config := by
  have hmem := List.mem_of_getElem? hfound
  have hlaw := hs.views found hmem
  have hview : ViewLaw config ⟨view, identity, .loaded previous⟩ :=
    viewLaw_of_succeeds hlaw hsucceeds hdates
  apply inv_issue hs hview hdates.1
  · intro other horigin
    cases horigin
  · intro other horigin
    obtain rfl : previous = other := by
      rcases horigin with h | h
      · cases h
      · exact Origin.loaded.inj h
    refine ⟨found, hfound, follows_loaded (successor_of_succeeds hsucceeds) (hs.dates found hmem)
      hdates.1 fun hrevision => ?_⟩
    have hrun := hsame hrevision
    refine ⟨hrun, ?_⟩
    -- One run has one evidence hash, which both views recompute.
    exact hview.evidenceHash.trans (hrun ▸ hlaw.evidenceHash.symm)

theorem inv_takeUp (call : Nat) (pending : Pending) (reply : Reply)
    (hsound : SoundReply config s pending reply) : (s.takeUp config call pending reply).Inv config := by
  have hsettled := inv_settle hs call
  unfold takeUp
  split
  · split
    · next request identity view hretains =>
      have hdates := hsound hretains
      apply inv_issue hsettled (viewLaw_of_retains hretains hdates) hdates.1
      · exact nofun
      · rintro _ (h | h) <;> cases h
    · exact hsettled
  · split
    · exact hsettled
    · next saved identity recovered history hrecovers =>
      apply inv_issue hsettled (viewLaw_of_recovers hrecovers) (hsound history hrecovers).1
      · exact nofun
      · rintro _ (h | h) <;> cases h
  · split
    · next previous identity view hany =>
      obtain ⟨found, hfound, hsucceeds⟩ := (Option.any_eq_true _ _).mp hany
      obtain ⟨hdates, hdouble⟩ := hsound found hfound hsucceeds
      exact inv_refreshed hsettled hfound hsucceeds hdates hdouble
    · exact hsettled
  · split
    · next previous identity view hany =>
      obtain ⟨found, hfound, hsucceeds⟩ := (Option.any_eq_true _ _).mp hany
      obtain ⟨hdates, hsame⟩ := hsound found hfound hsucceeds
      exact inv_loaded hsettled hfound hsucceeds hdates hsame
    · exact hsettled
  · split
    · exact inv_calls hs _ _
    · exact hsettled
  · exact hsettled

theorem inv_step {event : Event} (hsound : Sound config s event)
    (h : s.step config event = some t) : t.Inv config := by
  cases event with
  | retain request identity current => exact Option.some.inj h ▸ inv_calls hs _ _
  | recover saved identity current => exact Option.some.inj h ▸ inv_calls hs _ _
  | refresh run identity current =>
    exact Option.some.inj h ▸ inv_callSuccessor hs run identity current true
  | load run identity current =>
    exact Option.some.inj h ▸ inv_callSuccessor hs run identity current false
  | associate run saved identity current =>
    exact Option.some.inj h ▸ inv_callAssociate hs run saved identity current
  | reply call reply current =>
    simp only [step] at h
    split at h
    · next pending hpending =>
      cases current with
      | true => exact Option.some.inj h ▸ inv_takeUp hs call pending reply (hsound pending hpending)
      | false => exact Option.some.inj h ▸ inv_settle hs call
    · cases h

end

theorem inv_created : Inv config created where
  views := fun _ h => absurd h List.not_mem_nil
  dates := fun _ h => absurd h List.not_mem_nil
  refreshed := fun _ h => absurd h List.not_mem_nil
  links := fun _ h => absurd h List.not_mem_nil
  associations := fun _ h => absurd h List.not_mem_nil

/-- In every run whose replies are sound, the issued views are those of the configuration and their
callers, their chains stay with one run, and only ready ones are associated. -/
theorem retention_chain {events : List Event} {states : List HttpScreenerRetention}
    (hsound : EveryStep (step config) (Sound config) created events)
    (h : statesOf (step config) created events = some states) :
    ∀ reached ∈ states, reached.Lawful config := by
  have hinv := statesOf_invariant (J := Inv config) (P := Sound config)
    (fun _ _ _ hs hP hstep => inv_step hs hP hstep) inv_created hsound h
  exact fun reached hreached => lawful_of_inv (hinv reached hreached)

section Sample

def sampleSelection : Selection :=
  ⟨⟨"scope", "form", "form-1", "urn:form", "1.0.0", "sha256:form", ["urn:source"]⟩, "sha256:version",
    "urn:source", "urn:screener", "1", "sha256:raw", "sha256:screener", ["urn:target"], none⟩

def sampleConfig : HttpScreenerRetentionConfig where
  selection := sampleSelection
  selectionHash := "sha256:selection"
  digest := ⟨fun _ => "sha256:selection", fun _ => "sha256:screener", fun _ => "sha256:answers",
    fun determination => determination.rest.canonical, fun run => run.determinationHash,
    fun _ => "sha256:response"⟩
  parse text := if text = "2026-10-09T12:00:00Z" then some 0
    else if text = "2026-10-09T12:00:01Z" then some 1000
    else if text = "2026-10-09T13:00:00Z" then some 3600000 else none
  answersBytes _ := 64
  admitsCreate _ := true
  admitsUpdate _ := true

def sampleIdentity : Identity := ⟨"issuer", "applicant", none⟩

def sampleOwner : Owner :=
  ⟨"session", "subject", ⟨"issuer", "applicant", "principal", "profile", "actor", "subject", "session",
    none⟩⟩

def sampleRequest : RetainRequest :=
  ⟨"act", ⟨some "urn:screener", some "1", ⟨"\x7b\x7d"⟩⟩, ⟨"urn:screener", "1"⟩,
    [("flag", .boolean false)], "urn:target"⟩

def sampleRun (revision : Nat) (evaluatedAt determination : String) : RunEvidence where
  scope := "scope"
  runId := "run"
  revision := revision
  selectionHash := "sha256:selection"
  owner := sampleOwner
  answers := [("flag", .answered (.boolean false))]
  answersHash := "sha256:answers"
  evaluatedAt := evaluatedAt
  determination := ⟨⟨"urn:screener", "1"⟩, evaluatedAt, "completed", some "2026-10-09T13:00:00Z",
    ⟨determination⟩⟩
  determinationHash := determination
  qualification := .ready "urn:target"
  evidenceRef := s!"urn:formspec:source:screener:run:revision:{revision}"

def sampleView (revision : Nat) (evaluatedAt determination : String) (checkedAt : Option String) :
    RunView :=
  ⟨sampleSelection, sampleRun revision evaluatedAt determination, determination,
    checkedAt.map fun checkedAt => ⟨checkedAt, .ready "urn:target"⟩⟩

def retained : List Event :=
  [.retain sampleRequest sampleIdentity true,
    .reply 0 (.view (sampleView 1 "2026-10-09T12:00:00Z" "first" (some "2026-10-09T12:00:00Z"))) true]

def refreshedAndLoaded : List Event :=
  retained ++ [.refresh (.issued 0) sampleIdentity true,
    .reply 1 (.view (sampleView 2 "2026-10-09T12:00:01Z" "second" (some "2026-10-09T12:00:01Z"))) true,
    .load (.issued 1) sampleIdentity true,
    .reply 2 (.view (sampleView 2 "2026-10-09T12:00:01Z" "second" none)) true]

def loadedOther : List Event :=
  retained ++ [.load (.issued 0) sampleIdentity true,
    .reply 1 (.view (sampleView 1 "2026-10-09T12:00:00Z" "other" none)) true]

theorem retention_chain_refreshedAndLoaded :
    ∃ states last, statesOf (step sampleConfig) created refreshedAndLoaded = some states
      ∧ states.getLast? = some last ∧ last.issued.map (·.view.run.revision) = [1, 2, 2]
      ∧ ∀ reached ∈ states, reached.Lawful sampleConfig := by
  have hrun : ((statesOf (step sampleConfig) created refreshedAndLoaded).bind fun states =>
      states.getLast?.map fun last => last.issued.map (·.view.run.revision)) = some [1, 2, 2] := by
    decide +kernel
  obtain ⟨states, hstates, hread⟩ := Option.bind_eq_some_iff.mp hrun
  obtain ⟨last, hlast, hrevisions⟩ := Option.map_eq_some_iff.mp hread
  exact ⟨states, last, hstates, hlast, hrevisions, retention_chain (by decide +kernel) hstates⟩

def sampleRetained : Issued :=
  ⟨sampleView 1 "2026-10-09T12:00:00Z" "first" (some "2026-10-09T12:00:00Z"), sampleIdentity, .retained⟩

def sampleLoaded : Issued :=
  ⟨sampleView 1 "2026-10-09T12:00:00Z" "other" none, sampleIdentity, .loaded 0⟩

/-- A loaded view repeats the revision of the retained one, with other evidence. -/
theorem loaded_other_evidence :
    ∃ s, loadedOther.foldlM (step sampleConfig) created = some s ∧ ¬ s.Lawful sampleConfig := by
  have hrun : (loadedOther.foldlM (step sampleConfig) created).map (·.issued)
      = some [sampleRetained, sampleLoaded] := by
    decide +kernel
  obtain ⟨s, hs, hissued⟩ := Option.map_eq_some_iff.mp hrun
  refine ⟨s, hs, fun hlawful => ?_⟩
  have hfirst : s.issued[0]? = some sampleRetained := by rw [hissued]; rfl
  have hlast : s.issued[1]? = some sampleLoaded := by rw [hissued]; rfl
  have hfollows := hlawful.chains 0 1 _ _ (.step (.refl 0) hlast (Or.inr rfl)) hfirst hlast
  exact absurd (hfollows.evidence rfl).2 (by decide)

end Sample

end HttpScreenerRetention

end FormspecWeb.Screener.Retention
