import FormspecWeb.Host.VisitFence

/-!
# Runs of the visits

What the log says of the visits is what their tickets say, over all steps; so a visit that passes
`assertVisit` is the one the log calls active.
-/

namespace FormspecWeb.Host

open Shared

namespace VisitState

variable {policy : VisitPolicy} {s : VisitState} {visit : SurfaceVisit} {request : LoadRequest}
  {call i : Nat} {awaiting : Awaiting} {entry : VisitEntry} {log : List VisitEntry}

structure VisitInv (log : List VisitEntry) (visitEpoch i : Nat) (visit : SurfaceVisit) : Prop where
  ticket_le : ∀ ticket, visit.ticket = some ticket → ticket ≤ visitEpoch
  last : visit.ticket = some visitEpoch ↔ lastActive log = some i
  created : .created i visit.marker visit.sessionGeneration ∈ log

structure Inv (policy : VisitPolicy) (s : VisitState) : Prop where
  proper : Async.Throughout (Proper policy) s.log
  sessions : sessionsEnded s.log = s.authorityGeneration
  closed : isClosed s.log = (s.disposed || s.cleared)
  active_lt : ∀ i, lastActive s.log = some i → i < s.visits.length
  created_lt : ∀ i marker sessionGeneration,
    .created i marker sessionGeneration ∈ s.log → i < s.visits.length
  began_lt : ∀ call i, .began call i ∈ s.log → call < s.calls.length
  visit : ∀ i visit, s.visits[i]? = some visit → VisitInv s.log s.visitEpoch i visit
  runtime : Admitted policy s
  call_lt : ∀ (call i : Nat) (awaiting : Awaiting), s.calls[call]? = some ⟨i, awaiting⟩ → i < s.visits.length
  granted : ∀ call i awaiting request, s.calls[call]? = some ⟨i, awaiting⟩ →
    awaiting = .admission request ∨ awaiting = .value request → .granted call request ∈ s.log
  /-- A visit that is current has not been retired since a call that is pending began. -/
  undisturbed : ∀ call i awaiting visit, s.calls[call]? = some ⟨i, awaiting⟩ →
    isPending awaiting = true → s.visits[i]? = some visit →
    visit.sessionGeneration ≤ s.authorityGeneration
      ∧ (visit.ticket = some s.visitEpoch → visit.sessionGeneration = s.authorityGeneration →
          Undisturbed call i s.log)

theorem inv_opened : Inv policy opened where
  proper := Async.throughout_nil
  sessions := rfl
  closed := rfl
  active_lt := by
    intro i h
    cases h
  created_lt := by
    intro i marker sessionGeneration h
    cases h
  began_lt := by
    intro call i h
    cases h
  visit := by
    intro i visit h
    cases h
  runtime := by
    intro runtime h
    cases h
  call_lt := by
    intro call i awaiting h
    cases h
  granted := by
    intro call i awaiting request h
    cases h
  undisturbed := by
    intro call i awaiting visit h
    cases h

theorem Inv.active (h : Inv policy s) (hvisit : s.visits[i]? = some visit)
    (hcurrent : s.isCurrent visit = true) : Active s.log i visit.marker := by
  obtain ⟨hdisposed, hcleared, hticket, hsession⟩ := isCurrent_iff.mp hcurrent
  have hinv := h.visit i visit hvisit
  refine ⟨hinv.last.mp hticket, ?_, ?_⟩
  · rw [h.sessions, ← hsession]
    exact hinv.created
  · rw [h.closed, hdisposed, hcleared]
    rfl

theorem Inv.asks (h : Inv policy s) (hvisit : s.visits[i]? = some visit)
    (hcurrent : s.isCurrent visit = true)
    (hmarker : request.context.sessionGeneration = .marker visit.marker) : Asks s.log i request :=
  ⟨visit.marker, h.active hvisit hcurrent, hmarker⟩

theorem Inv.undisturbed_current (h : Inv policy s) (hcall : s.calls[call]? = some ⟨i, awaiting⟩)
    (hpending : isPending awaiting = true) (hvisit : s.visits[i]? = some visit)
    (hcurrent : s.isCurrent visit = true) : Undisturbed call i s.log := by
  obtain ⟨-, -, hticket, hsession⟩ := isCurrent_iff.mp hcurrent
  exact (h.undisturbed call i awaiting visit hcall hpending hvisit).2 hticket hsession

variable {t : VisitState}

theorem Inv.extend (h : Inv policy s) (hlog : t.log = entry :: s.log)
    (hproper : Proper policy entry s.log) (hruntime : t.runtime = s.runtime)
    (hcalls : t.calls = s.calls) (hbegan : ∀ call i, entry ≠ .began call i)
    (hlength : s.visits.length ≤ t.visits.length)
    (hcreated : ∀ i marker g, entry = .created i marker g → i < t.visits.length)
    (hsessions : sessionsEnded (entry :: s.log) = t.authorityGeneration)
    (hclosed : isClosed (entry :: s.log) = (t.disposed || t.cleared))
    (hactive : ∀ i, lastActive (entry :: s.log) = some i → i < t.visits.length)
    (hvisit : ∀ i visit, t.visits[i]? = some visit →
      (∀ ticket, visit.ticket = some ticket → ticket ≤ t.visitEpoch)
        ∧ (visit.ticket = some t.visitEpoch ↔ lastActive (entry :: s.log) = some i)
        ∧ .created i visit.marker visit.sessionGeneration ∈ entry :: s.log)
    (hundisturbed : ∀ call i awaiting visit, s.calls[call]? = some ⟨i, awaiting⟩ →
      isPending awaiting = true → t.visits[i]? = some visit →
      visit.sessionGeneration ≤ t.authorityGeneration
        ∧ (visit.ticket = some t.visitEpoch → visit.sessionGeneration = t.authorityGeneration →
            Undisturbed call i (entry :: s.log))) :
    Inv policy t where
  proper := hlog ▸ Async.throughout_cons.mpr ⟨hproper, h.proper⟩
  sessions := hlog ▸ hsessions
  closed := hlog ▸ hclosed
  active_lt := hlog ▸ hactive
  created_lt := by
    intro i marker g hmem
    rcases List.mem_cons.mp (hlog ▸ hmem) with heq | hmem
    · exact hcreated i marker g heq.symm
    · exact Nat.lt_of_lt_of_le (h.created_lt i marker g hmem) hlength
  began_lt := by
    intro call i hmem
    rcases List.mem_cons.mp (hlog ▸ hmem) with heq | hmem
    · exact absurd heq.symm (hbegan call i)
    · exact hcalls ▸ h.began_lt call i hmem
  visit := by
    intro i visit hfound
    obtain ⟨hle, hlast, hmem⟩ := hvisit i visit hfound
    exact ⟨hle, hlog ▸ hlast, hlog ▸ hmem⟩
  runtime := fun runtime hsome => h.runtime runtime (hruntime ▸ hsome)
  call_lt := fun call i awaiting hcall =>
    Nat.lt_of_lt_of_le (h.call_lt call i awaiting (hcalls ▸ hcall)) hlength
  granted := fun call i awaiting request hcall hawaiting =>
    hlog ▸ List.mem_cons_of_mem _ (h.granted call i awaiting request (hcalls ▸ hcall) hawaiting)
  undisturbed := fun call i awaiting visit hcall hpending hfound =>
    hlog ▸ hundisturbed call i awaiting visit (hcalls ▸ hcall) hpending hfound

def Quiet : VisitEntry → Prop
  | .granted _ _ | .authorized _ _ | .loaded _ _ _ | .passed _ _ | .delivered _ _ => True
  | _ => False

section

variable (h : Inv policy s)
include h

theorem inv_note (hquiet : Quiet entry) (hproper : Proper policy entry s.log) :
    Inv policy (s.note entry) := by
  have hlast : lastActive (entry :: s.log) = lastActive s.log := by
    cases entry <;> first | rfl | cases hquiet
  have hsessions : sessionsEnded (entry :: s.log) = sessionsEnded s.log := by
    cases entry <;> first | rfl | cases hquiet
  have hclosed : isClosed (entry :: s.log) = isClosed s.log := by
    cases entry <;> first | rfl | cases hquiet
  have hretires : ∀ i, ¬ Retires i entry := by
    intro i
    cases entry <;> first | exact id | cases hquiet
  refine h.extend rfl hproper rfl rfl ?_ (Nat.le_refl _) ?_ (hsessions.trans h.sessions)
    (hclosed.trans h.closed) (fun i hi => h.active_lt i (hlast ▸ hi)) ?_ ?_
  · rintro call i rfl
    cases hquiet
  · rintro i marker g rfl
    cases hquiet
  · intro i visit hvisit
    have hinv := h.visit i visit hvisit
    exact ⟨hinv.ticket_le, hlast.symm ▸ hinv.last, List.mem_cons_of_mem _ hinv.created⟩
  · intro call i awaiting visit hcall hpending hvisit
    obtain ⟨hle, hsince⟩ := h.undisturbed call i awaiting visit hcall hpending hvisit
    exact ⟨hle, fun hticket hsession => Or.inr ⟨hretires i, hsince hticket hsession⟩⟩

theorem inv_runtime {generation : Nat} {runtime : Option FrozenRuntime}
    (hruntime : ∀ other, runtime = some other → ∀ entry ∈ other.entries, entry.1 ∈ policy.entries) :
    Inv policy { s with generation := generation, runtime := runtime } :=
  { h with runtime := hruntime }

theorem inv_fence : Inv policy s.fence :=
  inv_runtime h (by intro other hsome; cases hsome)

theorem inv_retireNative : Inv policy (s.retireNative policy) := by
  unfold retireNative
  split
  · exact inv_fence h
  · exact h

theorem inv_rebuildRuntime {values : List Value} {recordId : String} {revision : Int} : Inv policy (s.rebuildRuntime policy values recordId revision) := by
  apply inv_runtime h
  intro runtime hruntime entry hentry
  unfold FrozenRuntime.create at hruntime
  dsimp only at hruntime
  split at hruntime
  · cases hruntime
  split at hruntime
  · cases hruntime
  split at hruntime
  · cases hruntime
    exact (List.of_mem_zip hentry).1
  · cases hruntime

theorem inv_stop : Inv policy (s.stop policy) := by
  have hfenced := inv_fence (inv_retireNative h)
  unfold stop
  generalize (s.retireNative policy).fence = t at hfenced
  dsimp only
  refine hfenced.extend rfl trivial rfl rfl (by simp) (Nat.le_refl _) (by simp)
    (congrArg (· + 1) hfenced.sessions) hfenced.closed hfenced.active_lt ?_ ?_
  · intro i visit hvisit
    have hinv := hfenced.visit i visit hvisit
    exact ⟨hinv.ticket_le, hinv.last, List.mem_cons_of_mem _ hinv.created⟩
  · intro call i awaiting visit hcall hpending hvisit
    have hle := (hfenced.undisturbed call i awaiting visit hcall hpending hvisit).1
    refine ⟨Nat.le_succ_of_le hle, fun _ hsession => ?_⟩
    have heq : visit.sessionGeneration = t.authorityGeneration + 1 := hsession
    omega

theorem inv_selectLocale : Inv policy (s.selectLocale policy) := by
  unfold selectLocale
  split
  · exact h
  · exact inv_stop h

theorem inv_close {disposed cleared : Bool} {status : Option Value}
    (hclosed : (disposed || cleared) = true) :
    Inv policy (VisitState.note { s with
      disposed := disposed
      cleared := cleared
      applicantStatus := status } .closed) := by
  refine h.extend rfl trivial rfl rfl (by simp) (Nat.le_refl _) (by simp) h.sessions hclosed.symm
    h.active_lt ?_ ?_
  · intro i visit hvisit
    have hinv := h.visit i visit hvisit
    exact ⟨hinv.ticket_le, hinv.last, List.mem_cons_of_mem _ hinv.created⟩
  · intro call i awaiting visit hcall hpending hvisit
    obtain ⟨hle, hsince⟩ := h.undisturbed call i awaiting visit hcall hpending hvisit
    exact ⟨hle, fun hticket hsession => Or.inr ⟨id, hsince hticket hsession⟩⟩

theorem inv_clearDraftAccess (status : Option Value) :
    Inv policy (s.clearDraftAccess policy status) := by
  unfold clearDraftAccess
  split
  · exact h
  · exact inv_close (inv_stop h) (by simp)

theorem inv_dispose : Inv policy (s.dispose policy) := by
  unfold dispose
  split
  · exact h
  · exact inv_close (inv_stop h) (by simp)

end

/-! ## The life of a visit -/

theorem inv_createSurfaceVisit {marker : String} {sessionGeneration : Nat} (h : Inv policy s) :
    Inv policy (s.createSurfaceVisit marker sessionGeneration) := by
  unfold createSurfaceVisit
  split
  · exact h
  have hnew : ∀ marker g, .created s.visits.length marker g ∉ s.log := by
    intro marker g hmem
    exact absurd (h.created_lt _ marker g hmem) (Nat.lt_irrefl _)
  have hlength : (s.visits ++ [SurfaceVisit.mk marker sessionGeneration none false]).length
      = s.visits.length + 1 := by
    rw [List.length_append, List.length_singleton]
  refine h.extend rfl hnew rfl rfl (by simp) (hlength ▸ Nat.le_succ _) ?_ h.sessions h.closed ?_ ?_ ?_
  · intro i marker' g heq
    cases heq
    exact hlength ▸ Nat.lt_succ_self _
  · intro i hi
    exact hlength ▸ Nat.lt_succ_of_lt (h.active_lt i hi)
  · intro i visit hvisit
    rcases Async.of_getElem?_concat hvisit with hvisit | ⟨rfl, rfl⟩
    · have hinv := h.visit i visit hvisit
      exact ⟨hinv.ticket_le, hinv.last, List.mem_cons_of_mem _ hinv.created⟩
    · refine ⟨nofun, ?_, List.mem_cons_self⟩
      have hlast : lastActive s.log ≠ some s.visits.length := fun heq =>
        absurd (h.active_lt _ heq) (Nat.lt_irrefl _)
      exact iff_of_false nofun hlast
  · intro call i awaiting visit hcall hpending hvisit
    rcases Async.of_getElem?_concat hvisit with hvisit | ⟨rfl, -⟩
    · obtain ⟨hle, hsince⟩ := h.undisturbed call i awaiting visit hcall hpending hvisit
      exact ⟨hle, fun hticket hsession => Or.inr ⟨id, hsince hticket hsession⟩⟩
    · exact absurd (h.call_lt call _ awaiting hcall) (Nat.lt_irrefl _)

theorem retireNative_eq (policy : VisitPolicy) (s : VisitState) : ∃ generation runtime,
    (∀ other, runtime = some other → s.runtime = some other)
      ∧ s.retireNative policy = { s with generation := generation, runtime := runtime } := by
  unfold retireNative
  split
  · exact ⟨_, none, nofun, rfl⟩
  · exact ⟨s.generation, s.runtime, fun _ hsome => hsome, rfl⟩

theorem inv_activated (h : Inv policy s) (hvisit : s.visits[i]? = some visit)
    (hrenewed : s.isCurrent visit = true
      ∨ ∀ call ∈ s.calls, call.visit = i → isPending call.awaiting = false) :
    Inv policy ((({ s with visitEpoch := s.visitEpoch + 1 }).setVisit i
      { visit with ticket := some (s.visitEpoch + 1) }).note (.activated i)) := by
  refine h.extend rfl trivial rfl rfl (by simp) (Nat.le_of_eq List.length_set.symm) (by simp) h.sessions
    h.closed ?_ ?_ ?_
  · intro j hj
    cases hj
    exact List.length_set.symm ▸ (List.getElem?_eq_some_iff.mp hvisit).1
  · intro j other hother
    rcases Async.of_getElem?_set hother with ⟨rfl, rfl⟩ | ⟨hne, hother⟩
    · have hcreated := (h.visit j visit hvisit).created
      refine ⟨fun ticket hticket => ?_, iff_of_true rfl rfl, List.mem_cons_of_mem _ hcreated⟩
      exact Nat.le_of_eq (Option.some.inj hticket).symm
    · have hinv := h.visit j other hother
      refine ⟨fun ticket hticket => Nat.le_succ_of_le (hinv.ticket_le ticket hticket), ?_,
        List.mem_cons_of_mem _ hinv.created⟩
      apply iff_of_false
      · intro hticket
        exact absurd (hinv.ticket_le _ hticket) (Nat.not_succ_le_self _)
      · intro hlast
        exact hne (Option.some.inj hlast).symm
  · intro call j awaiting other hcall hpending hother
    rcases Async.of_getElem?_set hother with ⟨rfl, rfl⟩ | ⟨hne, hother⟩
    · refine ⟨(h.undisturbed call j awaiting visit hcall hpending hvisit).1, fun _ _ => ?_⟩
      rcases hrenewed with hcurrent | hsettled
      · exact Or.inr ⟨fun hne => hne rfl, h.undisturbed_current hcall hpending hvisit hcurrent⟩
      · have hnot := hsettled ⟨j, awaiting⟩ (List.mem_of_getElem? hcall) rfl
        rw [hpending] at hnot
        cases hnot
    · refine ⟨(h.undisturbed call j awaiting other hcall hpending hother).1, fun hticket => ?_⟩
      exact absurd ((h.visit j other hother).ticket_le _ hticket) (Nat.not_succ_le_self _)

theorem inv_activate (h : Inv policy s) (hbenign : NotRenewed s (.activate i))
    (hstep : s.activate policy i = some t) : Inv policy t := by
  unfold activate at hstep
  obtain ⟨visit, hvisit, hstep⟩ := Option.bind_eq_some_iff.mp hstep
  split at hstep
  · cases hstep
    exact h
  · next hadmitted =>
    have hcan : s.canActivate visit = true := by
      unfold canActivate
      simpa [and_assoc] using hadmitted
    have hinv := inv_activated h hvisit (hbenign visit hvisit hcan)
    obtain ⟨generation, runtime, hruntime, heq⟩ := retireNative_eq policy (({ s with visitEpoch := s.visitEpoch + 1 }).setVisit i
        { visit with ticket := some (s.visitEpoch + 1) })
    cases hstep
    dsimp only
    rw [heq]
    exact inv_runtime hinv fun other hother => hinv.runtime other (hruntime other hother)

theorem inv_left_current (h : Inv policy s) (hvisit : s.visits[i]? = some visit)
    (hticket : visit.ticket = some s.visitEpoch) :
    Inv policy ((({ s with visitEpoch := s.visitEpoch + 1 }).setVisit i
      { visit with ticket := none }).note (.left i)) := by
  have hlast : lastActive (.left i :: s.log) = none := by
    rw [lastActive, if_pos ((h.visit i visit hvisit).last.mp hticket)]
  have hpast : ∀ (j : Nat) (other : SurfaceVisit), s.visits[j]? = some other →
      other.ticket ≠ some (s.visitEpoch + 1) := by
    intro j other hother heq
    exact absurd ((h.visit j other hother).ticket_le _ heq) (Nat.not_succ_le_self _)
  refine h.extend rfl trivial rfl rfl (by simp) (Nat.le_of_eq List.length_set.symm) (by simp) h.sessions
    h.closed ?_ ?_ ?_
  · intro j hj
    cases hlast.symm.trans hj
  · intro j other hother
    have hnone : lastActive (.left i :: s.log) ≠ some j := by
      rw [hlast]
      intro hnever
      cases hnever
    rcases Async.of_getElem?_set hother with ⟨rfl, rfl⟩ | ⟨hne, hother⟩
    · refine ⟨fun ticket hnever => ?_, ?_, List.mem_cons_of_mem _ (h.visit j visit hvisit).created⟩
      · cases hnever
      · exact iff_of_false nofun hnone
    · have hinv := h.visit j other hother
      exact ⟨fun ticket hle => Nat.le_succ_of_le (hinv.ticket_le ticket hle),
        iff_of_false (hpast j other hother) hnone, List.mem_cons_of_mem _ hinv.created⟩
  · intro call j awaiting other hcall hpending hother
    rcases Async.of_getElem?_set hother with ⟨rfl, rfl⟩ | ⟨hne, hother⟩
    · refine ⟨(h.undisturbed call j awaiting visit hcall hpending hvisit).1, fun hnever => ?_⟩
      cases hnever
    · refine ⟨(h.undisturbed call j awaiting other hcall hpending hother).1, fun hcurrent => ?_⟩
      exact absurd hcurrent (hpast j other hother)

theorem inv_left_other (h : Inv policy s) (hvisit : s.visits[i]? = some visit)
    (hticket : visit.ticket ≠ some s.visitEpoch) :
    Inv policy ((s.setVisit i { visit with ticket := none }).note (.left i)) := by
  have hother : lastActive s.log ≠ some i := fun hlast =>
    hticket ((h.visit i visit hvisit).last.mpr hlast)
  have hlast : lastActive (.left i :: s.log) = lastActive s.log := by
    rw [lastActive, if_neg hother]
  refine h.extend rfl trivial rfl rfl (by simp) (Nat.le_of_eq List.length_set.symm) (by simp) h.sessions
    h.closed (fun j hj => List.length_set.symm ▸ h.active_lt j (hlast.symm.trans hj)) ?_ ?_
  · intro j found hfound
    rcases Async.of_getElem?_set hfound with ⟨rfl, rfl⟩ | ⟨hne, hfound⟩
    · refine ⟨fun ticket hnever => ?_, ?_, List.mem_cons_of_mem _ (h.visit j visit hvisit).created⟩
      · cases hnever
      · exact iff_of_false nofun fun heq => hother (hlast.symm.trans heq)
    · have hinv := h.visit j found hfound
      exact ⟨hinv.ticket_le, hlast.symm ▸ hinv.last, List.mem_cons_of_mem _ hinv.created⟩
  · intro call j awaiting found hcall hpending hfound
    rcases Async.of_getElem?_set hfound with ⟨rfl, rfl⟩ | ⟨hne, hfound⟩
    · refine ⟨(h.undisturbed call j awaiting visit hcall hpending hvisit).1, fun hnever => ?_⟩
      cases hnever
    · obtain ⟨hle, hsince⟩ := h.undisturbed call j awaiting found hcall hpending hfound
      exact ⟨hle, fun hcurrent hsession =>
        Or.inr ⟨fun heq => hne heq.symm, hsince hcurrent hsession⟩⟩

theorem inv_leave (h : Inv policy s) (hstep : s.leave policy i = some t) :
    Inv policy t := by
  unfold leave at hstep
  obtain ⟨visit, hvisit, hstep⟩ := Option.bind_eq_some_iff.mp hstep
  dsimp only at hstep
  cases hstep
  split
  · next hticket =>
    have hinv := inv_left_current h hvisit (by simpa using hticket)
    obtain ⟨generation, runtime, hruntime, heq⟩ := retireNative_eq policy { s with visitEpoch := s.visitEpoch + 1 }
    rw [heq]
    exact inv_runtime hinv fun other hother => hinv.runtime other (hruntime other hother)
  · next hticket => exact inv_left_other h hvisit (by simpa using hticket)

/-! ## The calls -/

theorem inv_ports (h : Inv policy s) (hvisit : s.visits[i]? = some visit) :
    Inv policy (s.setVisit i { visit with ports := true }) where
  __ := h
  active_lt := fun j hj => List.length_set.symm ▸ h.active_lt j hj
  created_lt := fun j marker g hmem => List.length_set.symm ▸ h.created_lt j marker g hmem
  visit := by
    intro j found hfound
    rcases Async.of_getElem?_set hfound with ⟨rfl, rfl⟩ | ⟨-, hfound⟩
    · have hinv := h.visit j visit hvisit
      exact ⟨hinv.ticket_le, hinv.last, hinv.created⟩
    · exact h.visit j found hfound
  call_lt := fun call j awaiting hcall => List.length_set.symm ▸ h.call_lt call j awaiting hcall
  undisturbed := by
    intro call j awaiting found hcall hpending hfound
    rcases Async.of_getElem?_set hfound with ⟨rfl, rfl⟩ | ⟨-, hfound⟩
    · exact h.undisturbed call j awaiting visit hcall hpending hvisit
    · exact h.undisturbed call j awaiting found hcall hpending hfound

theorem inv_addCall (h : Inv policy s) (hvisit : s.visits[i]? = some visit)
    (hcurrent : s.isCurrent visit = true)
    (hawaiting : ∀ request, awaiting ≠ .admission request ∧ awaiting ≠ .value request) :
    Inv policy (s.addCall i awaiting) := by
  have hnew : ∀ j, .began s.calls.length j ∉ s.log := by
    intro j hmem
    exact absurd (h.began_lt _ j hmem) (Nat.lt_irrefl _)
  have hlength : (s.calls ++ [VisitCall.mk i awaiting]).length = s.calls.length + 1 := by
    rw [List.length_append, List.length_singleton]
  exact { h with
    proper := Async.throughout_cons.mpr ⟨hnew, h.proper⟩
    created_lt := by
      intro j marker g hmem
      exact h.created_lt j marker g (List.mem_of_ne_of_mem (by intro heq; cases heq) hmem)
    began_lt := by
      intro call j hmem
      rcases List.mem_cons.mp hmem with heq | hmem
      · cases heq
        exact hlength ▸ Nat.lt_succ_self _
      · exact hlength ▸ Nat.lt_succ_of_lt (h.began_lt call j hmem)
    visit := by
      intro j found hfound
      have hinv := h.visit j found hfound
      exact ⟨hinv.ticket_le, hinv.last, List.mem_cons_of_mem _ hinv.created⟩
    call_lt := by
      intro call j found hcall
      rcases Async.of_getElem?_concat hcall with hcall | ⟨-, heq⟩
      · exact h.call_lt call j found hcall
      · cases heq
        exact (List.getElem?_eq_some_iff.mp hvisit).1
    granted := by
      intro call j found request hcall hfound
      rcases Async.of_getElem?_concat hcall with hcall | ⟨-, heq⟩
      · exact List.mem_cons_of_mem _ (h.granted call j found request hcall hfound)
      · cases heq
        rcases hfound with hfound | hfound
        · exact absurd hfound (hawaiting request).1
        · exact absurd hfound (hawaiting request).2
    undisturbed := by
      intro call j found other hcall hpending hother
      rcases Async.of_getElem?_concat hcall with hcall | ⟨rfl, heq⟩
      · obtain ⟨hle, hsince⟩ := h.undisturbed call j found other hcall hpending hother
        exact ⟨hle, fun hticket hsession => Or.inr ⟨id, hsince hticket hsession⟩⟩
      · cases heq
        obtain rfl := Option.some.inj (hvisit.symm.trans hother)
        exact ⟨Nat.le_of_eq (isCurrent_iff.mp hcurrent).2.2.2, fun _ _ => Or.inl rfl⟩ }

theorem inv_setCall {next : Awaiting} (h : Inv policy s) (hcall : s.calls[call]? = some ⟨i, awaiting⟩)
    (hgranted : ∀ request, next = .admission request ∨ next = .value request →
      .granted call request ∈ s.log)
    (hpending : isPending next = true → isPending awaiting = true) :
    Inv policy (s.setCall call i next) :=
  { h with
    began_lt := fun other j hmem => List.length_set.symm ▸ h.began_lt other j hmem
    call_lt := by
      intro other j found hother
      rcases Async.of_getElem?_set hother with ⟨-, heq⟩ | ⟨-, hother⟩
      · obtain ⟨rfl, -⟩ := VisitCall.mk.inj heq
        exact h.call_lt call j awaiting hcall
      · exact h.call_lt other j found hother
    granted := by
      intro other j found request hother hfound
      rcases Async.of_getElem?_set hother with ⟨rfl, heq⟩ | ⟨-, hother⟩
      · cases heq
        exact hgranted request hfound
      · exact h.granted other j found request hother hfound
    undisturbed := by
      intro other j found visit hother hfound hvisit
      rcases Async.of_getElem?_set hother with ⟨rfl, heq⟩ | ⟨-, hother⟩
      · obtain ⟨rfl, rfl⟩ := VisitCall.mk.inj heq
        exact h.undisturbed other j awaiting visit hcall (hpending hfound) hvisit
      · exact h.undisturbed other j found visit hother hfound hvisit }

theorem inv_settle (h : Inv policy s) (hcall : s.calls[call]? = some ⟨i, awaiting⟩) :
    Inv policy (s.setCall call i .nothing) := by
  apply inv_setCall h hcall
  · intro request hnever
    rcases hnever with hnever | hnever
    · cases hnever
    · cases hnever
  · intro hnever
    cases hnever

/-! ## Requests -/

section

variable (h : Inv policy s)
include h

theorem inv_askProvider {loads provides : Bool} (hvisit : s.visits[i]? = some visit) :
    Inv policy (s.askProvider policy i visit request loads provides) := by
  unfold askProvider
  split
  · next hcheck =>
    have hlt := (List.getElem?_eq_some_iff.mp hvisit).1
    apply inv_addCall (inv_ports h hvisit) (List.getElem?_set_self hlt)
    · exact (formRequest_of_check hcheck).1
    · intro other
      exact ⟨nofun, nofun⟩
  · exact h

theorem inv_authorize {provides : Bool}
    (hstep : s.authorize policy i request provides = some t) : Inv policy t := by
  unfold authorize at hstep
  obtain ⟨visit, hvisit, hstep⟩ := Option.bind_eq_some_iff.mp hstep
  split at hstep
  · cases hstep
    exact inv_askProvider h hvisit
  split at hstep
  · next hauthorized =>
    obtain ⟨hcurrent, hmarker, hhost⟩ := of_authorizeDataSource h.runtime hauthorized
    cases hstep
    exact inv_note h trivial ⟨h.asks hvisit hcurrent hmarker, Or.inr hhost⟩
  · cases hstep
    exact h

theorem inv_load {provides : Bool}
    (hstep : s.load policy i request provides = some t) : Inv policy t := by
  unfold load at hstep
  obtain ⟨visit, hvisit, hstep⟩ := Option.bind_eq_some_iff.mp hstep
  split at hstep
  · cases hstep
    exact inv_askProvider h hvisit
  split at hstep
  · next hloaded =>
    obtain ⟨hcurrent, hmarker, hhost⟩ :=
      of_authorizeDataSource h.runtime (isAuthorized_of_isLoaded hloaded)
    cases hstep
    exact inv_note h trivial ⟨h.asks hvisit hcurrent hmarker, hhost⟩
  · cases hstep
    exact h

theorem inv_answered {authorized : Bool}
    (hstep : s.answered policy call authorized = some t) : Inv policy t := by
  unfold answered at hstep
  obtain ⟨⟨i, awaiting⟩, hcall, hstep⟩ := Option.bind_eq_some_iff.mp hstep
  cases awaiting with
  | authorization request loads =>
    obtain ⟨visit, hvisit, hstep⟩ := Option.bind_eq_some_iff.mp hstep
    split at hstep
    · cases hstep
      exact inv_settle h hcall
    · next hadmitted =>
      have hcheck : s.check policy visit request false = true := by
        by_contra hnot
        exact hadmitted (by simp [hnot])
      obtain ⟨hcurrent, hmarker, hform⟩ := formRequest_of_check hcheck
      split at hstep
      · next hloads =>
        cases hstep
        have hnoted : Inv policy (s.note (.granted call request)) := inv_note h trivial trivial
        apply inv_setCall hnoted hcall
        · intro other hother
          rcases hother with hother | hother
          · cases hother
            exact List.mem_cons_self
          · cases hother
        · intro _
          exact hloads
      · cases hstep
        exact inv_note (inv_settle h hcall) trivial
          ⟨h.asks hvisit hcurrent hmarker, Or.inl hform⟩
  | _ => cases hstep

theorem inv_resumed (hstep : s.resumed policy call = some t) : Inv policy t := by
  unfold resumed at hstep
  obtain ⟨⟨i, awaiting⟩, hcall, hstep⟩ := Option.bind_eq_some_iff.mp hstep
  cases awaiting with
  | admission request =>
    obtain ⟨visit, hvisit, hstep⟩ := Option.bind_eq_some_iff.mp hstep
    split at hstep
    · cases hstep
      apply inv_setCall h hcall
      · intro other hother
        rcases hother with hother | hother
        · cases hother
        · cases hother
          exact h.granted call i _ request hcall (Or.inl rfl)
      · intro _
        rfl
    · cases hstep
      exact inv_settle h hcall
  | _ => cases hstep

theorem inv_provided {value : Bool}
    (hstep : s.provided policy call value = some t) : Inv policy t := by
  unfold provided at hstep
  obtain ⟨⟨i, awaiting⟩, hcall, hstep⟩ := Option.bind_eq_some_iff.mp hstep
  cases awaiting with
  | value request =>
    obtain ⟨visit, hvisit, hstep⟩ := Option.bind_eq_some_iff.mp hstep
    split at hstep
    · cases hstep
      exact inv_settle h hcall
    · next hadmitted =>
      have hcheck : s.check policy visit request false = true := by
        by_contra hnot
        exact hadmitted (by simp [hnot])
      obtain ⟨hcurrent, hmarker, hform⟩ := formRequest_of_check hcheck
      cases hstep
      have hgranted := h.granted call i _ request hcall (Or.inr rfl)
      have hsince := h.undisturbed_current hcall rfl hvisit hcurrent
      exact inv_note (inv_settle h hcall) trivial
        ⟨h.asks hvisit hcurrent hmarker, hform, hgranted, hsince⟩
  | _ => cases hstep

theorem inv_execute {source : ActionSource}
    (hstep : s.execute policy i source = some t) : Inv policy t := by
  unfold execute at hstep
  obtain ⟨visit, hvisit, hstep⟩ := Option.bind_eq_some_iff.mp hstep
  split at hstep
  · cases hstep
    exact h
  · next hadmitted =>
    simp only [Bool.or_eq_true, Bool.not_eq_true', not_or, Bool.not_eq_false] at hadmitted
    obtain ⟨⟨hcurrent, -⟩, haction⟩ := hadmitted
    cases hstep
    have hadded : Inv policy (s.addCall i .action) :=
      inv_addCall h hvisit hcurrent fun other =>
        ⟨nofun, nofun⟩
    exact inv_note hadded trivial ⟨⟨visit.marker, hadded.active hvisit hcurrent⟩, haction⟩

theorem inv_settled {result : Bool} (hstep : s.settled call result = some t) : Inv policy t := by
  unfold settled at hstep
  obtain ⟨⟨i, awaiting⟩, hcall, hstep⟩ := Option.bind_eq_some_iff.mp hstep
  cases awaiting with
  | action =>
    obtain ⟨visit, hvisit, hstep⟩ := Option.bind_eq_some_iff.mp hstep
    split at hstep
    · cases hstep
      exact inv_settle h hcall
    · next hadmitted =>
      have hcurrent : s.isCurrent visit = true := by
        by_contra hnot
        exact hadmitted (by simp [hnot])
      cases hstep
      have hsince := h.undisturbed_current hcall rfl hvisit hcurrent
      exact inv_note (inv_settle h hcall) trivial
        ⟨⟨visit.marker, h.active hvisit hcurrent⟩, hsince⟩
  | _ => cases hstep

end

/-! ## Runs -/

theorem inv_step {event : Event} (h : Inv policy s) (hbenign : NotRenewed s event)
    (hstep : s.step policy event = some t) : Inv policy t := by
  cases event with
  | allocateSurfaceSessionMarker sessionGeneration =>
    obtain ⟨⟨marker, allocated⟩, hallocated, rfl⟩ := Option.map_eq_some_iff.mp hstep
    unfold allocateSurfaceSessionMarker at hallocated
    split at hallocated
    · cases hallocated
    · cases hallocated
      exact { h with }
  | createSurfaceVisit marker sessionGeneration =>
    exact Option.some.inj hstep ▸ inv_createSurfaceVisit h
  | activate i => exact inv_activate h hbenign hstep
  | leave i => exact inv_leave h hstep
  | edit => exact Option.some.inj hstep ▸ inv_stop h
  | selectLocale => exact Option.some.inj hstep ▸ inv_selectLocale h
  | clearDraftAccess status => exact Option.some.inj hstep ▸ inv_clearDraftAccess h status
  | dispose => exact Option.some.inj hstep ▸ inv_dispose h
  | fence => exact Option.some.inj hstep ▸ inv_fence h
  | rebuildRuntime values recordId revision =>
    exact Option.some.inj hstep ▸ inv_rebuildRuntime h
  | setApplicantStatus status recordId revision =>
    cases hstep
    unfold setApplicantStatus
    split
    · exact h
    · exact { h with }
  | setOwner admitted =>
    cases hstep
    exact { h with }
  | setController started =>
    cases hstep
    exact { h with }
  | authorize i request provides => exact inv_authorize h hstep
  | load i request provides => exact inv_load h hstep
  | answered call authorized => exact inv_answered h hstep
  | resumed call => exact inv_resumed h hstep
  | provided call value => exact inv_provided h hstep
  | execute i source => exact inv_execute h hstep
  | settled call result => exact inv_settled h hstep

/-- In every run in which no visit is activated again while a load or a widget action, that was
pending when it was retired, still is, all states satisfy the law of the visits. -/
theorem visits_fenced {events : List Event} {states : List VisitState}
    (hbenign : Async.EveryStep (step policy) NotRenewed opened events)
    (h : Async.statesOf (step policy) opened events = some states) :
    ∀ reached ∈ states, Fenced policy reached := by
  have hinv := Async.statesOf_invariant (J := Inv policy)
    (fun s event next hinv hnot hstep => inv_step hinv hnot hstep) inv_opened hbenign h
  intro reached hreached
  exact ⟨(hinv reached hreached).proper, fun visit request hloaded => isAuthorized_of_isLoaded hloaded⟩

def sampleSource : Descriptor := ⟨"urn:sources", "profile", some "profiles", false, ""⟩

def samplePolicy : VisitPolicy where
  surface :=
    { resolve := fun _ _ => none
      availableToWidget := fun _ _ => true
      availableToDefinitionForm := fun _ _ => true
      reviewWidget := "responseReview"
      ceremonyWidget := "signingCeremony" }
  moduleId := "x-signing"
  signingScope := none
  entries := []
  initialDataSites := [⟨sampleSource, "application", none, "start", "form", some "urn:form"⟩]
  sites_apart := by
    intro site _ entry hentry
    cases hentry
  statusModuleId := "x-case-file-review"
  statusSlotId := "applicant-case-status"
  statusSourceRef := statusSource
  native := false

def sampleRequest : LoadRequest where
  descriptor := sampleSource
  context := ⟨"application", none, "start", "form", some "urn:form", none, none,
    .marker "native-visit:0:1"⟩

/-- The load of initial data, with the visit leaving while the provider is asked. -/
def leftWhileLoading : List Event :=
  [.createSurfaceVisit "native-visit:0:1" 0, .activate 0, .load 0 sampleRequest true, .leave 0]

def answers : List Event := [.answered 0 true, .resumed 0, .provided 0 true]

theorem visits_fenced_leftWhileLoading :
    ∃ states, Async.statesOf (step samplePolicy) opened (leftWhileLoading ++ [.answered 0 true])
        = some states ∧ ∀ reached ∈ states, Fenced samplePolicy reached := by
  have hrun : (Async.statesOf (step samplePolicy) opened
      (leftWhileLoading ++ [.answered 0 true])).isSome = true := by
    decide +kernel
  obtain ⟨states, hstates⟩ := Option.isSome_iff_exists.mp hrun
  refine ⟨states, hstates, visits_fenced ?_ hstates⟩
  -- The one activation is of a visit that has not asked for anything.
  refine ⟨trivial, fun created hcreated => ⟨?_, fun activated _ => ?_⟩⟩
  · cases hcreated
    intro visit _ _
    exact Or.inr fun call hcall => by cases hcall
  · apply Async.everyStep_of_forall
    intro event hevent reached
    change event ∈ [.load 0 sampleRequest true, .leave 0, .answered 0 true] at hevent
    simp only [List.mem_cons, List.not_mem_nil, or_false] at hevent
    rcases hevent with rfl | rfl | rfl
    · trivial
    · trivial
    · trivial

/-- The log of the same load, where the visit is activated again before the provider answers. -/
def renewedLog : List VisitEntry :=
  [.loaded 0 sampleRequest (some 0), .granted 0 sampleRequest, .activated 0, .left 0, .began 0 0,
    .activated 0, .created 0 "native-visit:0:1" 0]

/-- What was pending when a visit was retired is delivered to it, once it is activated again. -/
theorem delivered_to_renewed : ¬ ∀ (events : List Event) (states : List VisitState),
    Async.statesOf (step samplePolicy) opened events = some states →
      ∀ reached ∈ states, Fenced samplePolicy reached := by
  intro hall
  have hrun : (Async.statesOf (step samplePolicy) opened
      (leftWhileLoading ++ .activate 0 :: answers)).any (fun states =>
        states.any fun reached => reached.log == renewedLog) = true := by
    decide +kernel
  obtain ⟨states, hstates, hany⟩ := (Option.any_eq_true _ _).mp hrun
  obtain ⟨reached, hreached, hlog⟩ := List.any_eq_true.mp hany
  have hproper := (hall _ states hstates reached hreached).proper
  rw [beq_iff_eq.mp hlog, renewedLog, Async.throughout_cons] at hproper
  obtain ⟨⟨-, -, -, hsince⟩, -⟩ := hproper
  -- The visit has left since the load began.
  simp [Undisturbed, Retires] at hsince

end VisitState

end FormspecWeb.Host
