import FormspecWeb.Signing.FenceProgress
import FormspecWeb.Signing.SaveDraft
import Mathlib.Data.List.Basic

/-!
# Create markers

Which saves leave a create marker behind. A marker stays where the save that wrote it found no
binding, passed its checks and did not confirm the draft; a confirmed draft and a clear take it off.
What a save of another scope listed before that, it writes back.
-/

namespace FormspecWeb.Signing

open Shared DraftStore Async

inductive Accounted (config : SaveConfig) (marker : CreateMarker) : List CreateEntry → Prop where
  | wrote {id : RunId} {input : SaveInput} {older : List CreateEntry}
      (hmarker : marker = config.markerOf id.scope input) :
      Accounted config marker (.wrote id input :: older)
  | kept {entry : CreateEntry} {older : List CreateEntry}
      (hkept : entry.removes marker.scope = false) (holder : Accounted config marker older) :
      Accounted config marker (entry :: older)
  /-- A save of another scope, which had listed it, has written it back. -/
  | carried {id : RunId} {input : SaveInput} {newer older : List CreateEntry}
      (hother : id.scope ≠ marker.scope) (holder : Accounted config marker older) :
      Accounted config marker (.wrote id input :: (newer ++ .listed id :: older))

/-- What a save has passed when it writes a marker, beside finding no binding. -/
structure Admitted (config : SaveConfig) (input : SaveInput) : Prop where
  configured : input.isConfigured config = true
  unsigned : input.isUnsigned = true
  qualified : config.qualifySaveAction input none = true

namespace SaveState

variable {config : SaveConfig}

def Resolved (s : SaveState) (id : RunId) : Prop :=
  ∃ run value, s.runOf id = some run ∧ run.phase = .settled (.ok value)

/-- A save or a read that is called now passes the fence, and then `refuseUnresolved`. -/
def accepts (s : SaveState) (scope : String) : Bool :=
  !(s.fences.get scope).clearing && (s.fences.get scope).pending.isNone
    && !s.refuseUnresolved scope

structure Tracked (config : SaveConfig) (s : SaveState) : Prop where
  accounted : ∀ marker ∈ s.remaining, Accounted config marker s.log
  admitted : ∀ id input, .wrote id input ∈ s.log → Admitted config input
  confirmed : ∀ newer id input older, s.log = newer ++ .wrote id input :: older →
    s.Resolved id → .confirmed id ∈ newer
  accepted : (∀ id input, .wrote id input ∈ s.log →
      (config.markerOf id.scope input).isReadable = true) →
    ∀ scope, (s.fences.get scope).isIdle = true → (∀ marker ∈ s.remaining, marker.scope ≠ scope) →
      s.accepts scope = true

/-- Where a scope is idle, its marker is of a create whose outcome is unknown: the request was
dispatched, and no definitive reply came. -/
def OnlyUnknown (s : SaveState) : Prop :=
  ∀ scope, (s.fences.get scope).isIdle = true → ∀ marker ∈ s.remaining, marker.scope = scope →
    ∃ id, id.scope = scope ∧ .dispatched id true ∈ s.log
      ∧ ∀ reply, .answered id reply ∈ s.log → reply.definitive = false

/-! ## The invariant -/

def progress (s : SaveState) (id : RunId) : Option Progress :=
  (s.fences.get id.scope).progress id.run

end SaveState

def SaveStage.unbound : SaveStage → Bool
  | .hashing _ | .admitting none _ | .writing none _ | .readback none _ | .evidence none _ _ => true
  | _ => false

/-- The save has passed the checks before `validateResponse`. -/
def SaveStage.started : SaveStage → Bool
  | .queued => false
  | _ => true

/-- What a save has listed was accounted for then, and no draft of its scope was confirmed or
cleared since. -/
def Listing (config : SaveConfig) (log : List CreateEntry) (id : RunId)
    (listed : List CreateMarker) : Prop :=
  ∃ newer older, log = newer ++ .listed id :: older
    ∧ (∀ marker ∈ listed, Accounted config marker older)
    ∧ ∀ entry ∈ newer, entry.removes id.scope = false

namespace SaveState

variable {config : SaveConfig} {s t : SaveState}

/-- How far the save of a marker is; `newer` is what was logged since it wrote the marker. -/
inductive Since (s : SaveState) (id : RunId) (newer : List CreateEntry) : Prop where
  | executing (input : SaveInput) (stage : SaveStage) (hprogress : s.progress id = some .executing)
      (hwork : s.work id = some (.save input stage)) (hunbound : stage.unbound = true)
  | failed (hprogress : s.progress id = some .failed)
  | returned (hprogress : s.progress id = some .returned) (hconfirmed : .confirmed id ∈ newer)

structure Inv (config : SaveConfig) (s : SaveState) : Prop where
  fenced : ∀ scope, (s.fences.get scope).Inv
  held : ∀ scope, (s.fences.get scope).Held
  slot : ∃ markers, s.createSlot = writeCreateMarkers markers
    ∧ ∀ marker ∈ markers, Accounted config marker s.log
  passed : ∀ id input stage, s.work id = some (.save input stage) → stage.started = true →
    input.isConfigured config = true ∧ input.isUnsigned = true
  listing : ∀ id input listed, s.work id = some (.save input (.hashing listed)) →
    s.progress id = some .executing ∧ config.qualifySaveAction input none = true
      ∧ Listing config s.log id listed
  admitted : ∀ id input, .wrote id input ∈ s.log → Admitted config input
  since : ∀ newer id input older, s.log = newer ++ .wrote id input :: older → s.Since id newer

theorem inv_opened (bindings : List Binding) : Inv config (opened bindings) where
  fenced _ := Scoped.inv_initial
  held _ := Scoped.held_initial
  slot := ⟨[], rfl, by simp⟩
  passed _ _ _ h := by cases h
  listing _ _ _ h := by cases h
  admitted _ _ h := by cases h
  since newer id input older h := by
    cases newer <;> cases h

theorem remaining_accounted (hs : s.Inv config) :
    ∀ marker ∈ s.remaining, Accounted config marker s.log := by
  intro marker hmarker
  obtain ⟨markers, hslot, hall⟩ := hs.slot
  rw [remaining, hslot] at hmarker
  cases hread : readCreateMarkers (writeCreateMarkers markers) with
  | none =>
    rw [hread] at hmarker
    cases hmarker
  | some found =>
    rw [hread, readCreateMarkers_of_writeCreateMarkers hread] at hmarker
    exact hall marker hmarker

theorem accounted_source {marker : CreateMarker}
    {log : List CreateEntry} (h : Accounted config marker log) :
    ∃ id input, .wrote id input ∈ log ∧ marker = config.markerOf id.scope input := by
  induction h with
  | @wrote id input older hmarker => exact ⟨id, input, List.mem_cons_self, hmarker⟩
  | kept hkept holder ih =>
    obtain ⟨id, input, hmem, hmarker⟩ := ih
    exact ⟨id, input, List.mem_cons_of_mem _ hmem, hmarker⟩
  | carried hother holder ih =>
    obtain ⟨id, input, hmem, hmarker⟩ := ih
    exact ⟨id, input, by simp [hmem], hmarker⟩

theorem Since.next {id : RunId} {newer : List CreateEntry} (h : s.Since id newer)
    (hprogress : Scoped.Follows (s.progress id) (t.progress id))
    (hwork : ∀ input stage, s.work id = some (.save input stage) → stage.unbound = true →
      ∃ next, t.work id = some (.save input next) ∧ next.unbound = true) : t.Since id newer := by
  rcases hprogress with hsame | ⟨hbefore, hafter⟩
  · cases h with
    | executing input stage hexecuting hsave hunbound =>
      obtain ⟨next, hnext, hnextUnbound⟩ := hwork input stage hsave hunbound
      exact .executing input next (hsame.trans hexecuting) hnext hnextUnbound
    | failed hfailed => exact .failed (hsame.trans hfailed)
    | returned hreturned hconfirmed => exact .returned (hsame.trans hreturned) hconfirmed
  · exact .failed hafter

theorem Since.mono {id : RunId} {newer : List CreateEntry} (entry : CreateEntry)
    (h : s.Since id newer) : s.Since id (entry :: newer) := by
  cases h with
  | executing input stage hexecuting hsave hunbound =>
    exact .executing input stage hexecuting hsave hunbound
  | failed hfailed => exact .failed hfailed
  | returned hreturned hconfirmed => exact .returned hreturned (List.mem_cons_of_mem _ hconfirmed)

theorem Inv.moved (hs : s.Inv config) (hslot : t.createSlot = s.createSlot) (hlog : t.log = s.log)
    (hfenced : ∀ scope, (t.fences.get scope).Inv) (hheld : ∀ scope, (t.fences.get scope).Held)
    (hpassed : ∀ id input stage, t.work id = some (.save input stage) → stage.started = true →
      input.isConfigured config = true ∧ input.isUnsigned = true)
    (hlisting : ∀ id input listed, t.work id = some (.save input (.hashing listed)) →
      t.progress id = some .executing ∧ config.qualifySaveAction input none = true
        ∧ Listing config s.log id listed)
    (hsince : ∀ newer id input older, s.log = newer ++ .wrote id input :: older →
      s.Since id newer → t.Since id newer) : t.Inv config where
  fenced := hfenced
  held := hheld
  slot := by
    rw [hslot, hlog]
    exact hs.slot
  passed := hpassed
  listing := by
    rw [hlog]
    exact hlisting
  admitted := by
    rw [hlog]
    exact hs.admitted
  since newer id input older h := by
    rw [hlog] at h
    exact hsince newer id input older h (hs.since newer id input older h)

theorem Inv.congr (hs : s.Inv config) (hfences : t.fences = s.fences) (hwork : t.work = s.work)
    (hslot : t.createSlot = s.createSlot) (hlog : t.log = s.log) : t.Inv config := by
  have hprogress : ∀ id, t.progress id = s.progress id := by
    intro id
    rw [progress, progress, hfences]
  apply hs.moved hslot hlog
  · rw [hfences]
    exact hs.fenced
  · rw [hfences]
    exact hs.held
  · rw [hwork]
    exact hs.passed
  · intro id input listed h
    rw [hprogress]
    exact hs.listing id input listed (hwork ▸ h)
  · intro newer id input older _ h
    apply h.next (Or.inl (hprogress id))
    intro input stage hsave hunbound
    exact ⟨stage, hwork ▸ hsave, hunbound⟩

section Fence

variable {scope : String} {act : Scoped.Act (Option OwnedDraft)}

theorem fence_eq (h : s.fence scope act = some t) :
    ∃ entries, (s.fences.get scope).step act = some entries
      ∧ t = { s with fences := s.fences.set scope entries } := by
  obtain ⟨entries, hentries, rfl⟩ := Option.map_eq_some_iff.mp h
  exact ⟨entries, hentries, rfl⟩

theorem fenced_set (scope : String) {entries : Scoped (Option OwnedDraft)} (hs : s.Inv config) (hinv : entries.Inv)
    (hheld : entries.Held) (other : String) :
    ((s.fences.set scope entries).get other).Inv ∧ ((s.fences.set scope entries).get other).Held := by
  by_cases hother : other = scope
  · rw [hother, ScopeFence.get_set_self]
    exact ⟨hinv, hheld⟩
  · rw [ScopeFence.get_set_ne _ hother]
    exact ⟨hs.fenced other, hs.held other⟩

theorem fenced_step (hs : s.Inv config) (h : s.fence scope act = some t) (other : String) :
    (t.fences.get other).Inv ∧ (t.fences.get other).Held := by
  obtain ⟨entries, hentries, rfl⟩ := fence_eq h
  exact fenced_set scope hs (Scoped.inv_step (hs.fenced scope) hentries)
    (Scoped.held_step (hs.held scope) hentries) other

theorem progress_other (h : s.fence scope act = some t) {id : RunId} (hid : id.scope ≠ scope) :
    t.progress id = s.progress id := by
  obtain ⟨entries, -, rfl⟩ := fence_eq h
  rw [progress, progress, ScopeFence.get_set_ne _ hid]

theorem progress_fence (hquiet : act.quiet = true) (h : s.fence scope act = some t) (id : RunId) :
    Scoped.Follows (s.progress id) (t.progress id) := by
  by_cases hid : id.scope = scope
  · obtain ⟨entries, hentries, rfl⟩ := fence_eq h
    rw [progress, progress, hid, ScopeFence.get_set_self]
    exact Scoped.progress_quiet hquiet hentries id.run
  · exact Or.inl (progress_other h hid)

theorem inv_fence (hs : s.Inv config) (hquiet : act.quiet = true) (h : s.fence scope act = some t) :
    t.Inv config := by
  have hfenced := fenced_step hs h
  have hprogress := progress_fence hquiet h
  obtain ⟨entries, -, rfl⟩ := fence_eq h
  apply hs.moved
  · rfl
  · rfl
  · exact fun other => (hfenced other).1
  · exact fun other => (hfenced other).2
  · exact hs.passed
  · intro id input listed hwork
    obtain ⟨hexecuting, hlisted⟩ := hs.listing id input listed hwork
    refine ⟨?_, hlisted⟩
    rcases hprogress id with hsame | ⟨hreturned, -⟩
    · exact hsame.trans hexecuting
    · rw [hexecuting] at hreturned
      cases hreturned
  · intro newer id input older _ hsince
    exact hsince.next (hprogress id) fun input stage hsave hunbound => ⟨stage, hsave, hunbound⟩

end Fence

theorem work_setWork (s : SaveState) (id other : RunId) (work : Option Work) :
    (s.setWork id work).work other = if other = id then work else s.work other := by
  rw [setWork]
  exact Function.update_apply s.work id work other

/-- A run is executing this save; it has found no binding at most where `unbound` says so. -/
structure At (s : SaveState) (id : RunId) (input : SaveInput) (unbound : Bool) : Prop where
  executing : s.progress id = some .executing
  save : ∃ stage, s.work id = some (.save input stage) ∧ stage.started = true
    ∧ (stage.unbound = true → unbound = true)

variable {id : RunId} {input : SaveInput}

theorem At.congr {unbound : Bool} (h : s.At id input unbound)
    (hfences : t.fences = s.fences) (hwork : t.work = s.work) : t.At id input unbound := by
  constructor
  · rw [progress, hfences]
    exact h.executing
  · rw [hwork]
    exact h.save

theorem live_eq {work : Work} (h : s.live id = some work) :
    s.work id = some work ∧ s.progress id = some .executing := by
  unfold live at h
  split at h
  · next hexecuting =>
    have hprogress : s.progress id = (s.runOf id).map (·.phase.progress) := rfl
    rw [hprogress]
    cases hrun : s.runOf id with
    | none =>
      rw [hrun] at hexecuting
      cases hexecuting
    | some run =>
      rw [hrun, Option.any_some, Phase.isExecuting_iff] at hexecuting
      rw [Option.map_some, hexecuting]
      exact ⟨h, rfl⟩
  · cases h

theorem inv_enters (hs : s.Inv config) {before stage : SaveStage}
    (hbefore : s.work id = some (.save input before))
    (hpassed : stage.started = true →
      input.isConfigured config = true ∧ input.isUnsigned = true)
    (hlisting : ∀ listed, stage = .hashing listed → s.progress id = some .executing
      ∧ config.qualifySaveAction input none = true ∧ Listing config s.log id listed)
    (hunbound : before.unbound = true → stage.unbound = true) :
    (s.go id input stage).Inv config := by
  apply hs.moved
  · rfl
  · rfl
  · exact hs.fenced
  · exact hs.held
  · intro other input' stage' hwork hstarted
    rw [go, work_setWork] at hwork
    split at hwork
    · cases hwork
      exact hpassed hstarted
    · exact hs.passed other input' stage' hwork hstarted
  · intro other input' listed hwork
    rw [go, work_setWork] at hwork
    split at hwork
    · next hid =>
      obtain ⟨rfl, heq⟩ := Work.save.inj (Option.some.inj hwork)
      exact hid ▸ hlisting listed heq
    · exact hs.listing other input' listed hwork
  · intro newer other written older _ hsince
    refine hsince.next (Or.inl ?_) ?_
    · rfl
    · intro input' stage' hwork hunbound'
      rw [go, work_setWork]
      split
      · next hid =>
        subst hid
        obtain ⟨rfl, rfl⟩ := Work.save.inj (Option.some.inj (hbefore.symm.trans hwork))
        exact ⟨stage, rfl, hunbound hunbound'⟩
      · exact ⟨stage', hwork, hunbound'⟩

theorem inv_go (hs : s.Inv config) {unbound : Bool}
    (hat : s.At id input unbound) {stage : SaveStage} (hstage : ∀ listed, stage ≠ .hashing listed)
    (hunbound : unbound = true → stage.unbound = true) : (s.go id input stage).Inv config := by
  obtain ⟨before, hbefore, hstarted, hbound⟩ := hat.save
  apply inv_enters hs hbefore
  · exact fun _ => hs.passed id input before hbefore hstarted
  · exact fun listed heq => absurd heq (hstage listed)
  · exact fun h => hunbound (hbound h)

theorem inv_alone (hs : s.Inv config) (id : RunId) {entries : Scoped (Option OwnedDraft)}
    (work : Option Work) (hinv : entries.Inv) (hheld : entries.Held)
    (hafter : ∀ k, k ≠ id.run → entries.progress k = (s.fences.get id.scope).progress k)
    (hpassed : ∀ input stage, work = some (.save input stage) → stage.started = true →
      input.isConfigured config = true ∧ input.isUnsigned = true)
    (hhashing : ∀ input listed, work ≠ some (.save input (.hashing listed)))
    (hsince : ∀ newer input older, s.log = newer ++ .wrote id input :: older →
      Since { s.setWork id work with fences := s.fences.set id.scope entries } id newer) :
    Inv config { s.setWork id work with fences := s.fences.set id.scope entries } := by
  -- The other runs stay where they are.
  have hprogress : ∀ other : RunId, other ≠ id →
      ((s.fences.set id.scope entries).get other.scope).progress other.run = s.progress other := by
    intro other hother
    by_cases hscope : other.scope = id.scope
    · have hrun : other.run ≠ id.run := by
        intro hrun
        apply hother
        cases other
        cases id
        simp_all
      rw [hscope, ScopeFence.get_set_self, hafter other.run hrun, progress, hscope]
    · rw [ScopeFence.get_set_ne _ hscope, progress]
  have hfenced := fenced_set id.scope hs hinv hheld
  apply hs.moved
  · rfl
  · rfl
  · exact fun other => (hfenced other).1
  · exact fun other => (hfenced other).2
  · intro other input stage hwork hstarted
    rw [work_setWork] at hwork
    split at hwork
    · exact hpassed input stage hwork hstarted
    · exact hs.passed other input stage hwork hstarted
  · intro other input listed hwork
    rw [work_setWork] at hwork
    split at hwork
    · exact absurd hwork (hhashing input listed)
    · next hother =>
      obtain ⟨hexecuting, hlisted⟩ := hs.listing other input listed hwork
      exact ⟨(hprogress other hother).trans hexecuting, hlisted⟩
  · intro newer other input older hlog hbefore
    by_cases hother : other = id
    · subst hother
      exact hsince newer input older hlog
    · refine hbefore.next (Or.inl ?_) ?_
      · exact hprogress other hother
      · intro input stage hwork hunbound
        refine ⟨stage, ?_, hunbound⟩
        rw [work_setWork, if_neg hother]
        exact hwork

theorem inv_finish (hs : s.Inv config) {outcome : Except String (Option OwnedDraft)}
    (hconfirmed : ∀ value, outcome = .ok value → ∀ newer input older,
      s.log = newer ++ .wrote id input :: older → .confirmed id ∈ newer)
    (h : s.finish id outcome = some t) : t.Inv config := by
  unfold finish at h
  obtain ⟨entries, hentries, rfl⟩ := fence_eq h
  obtain ⟨-, hafter⟩ := Scoped.progress_finish hentries
  apply inv_alone hs id none
  · exact Scoped.inv_step (hs.fenced id.scope) hentries
  · exact Scoped.held_step (hs.held id.scope) hentries
  · intro k hk
    rw [hafter, if_neg hk]
    rfl
  · intro input stage hwork
    cases hwork
  · intro input listed hwork
    cases hwork
  · intro newer input older hlog
    have hself : ((s.fences.set id.scope entries).get id.scope).progress id.run
        = some (Phase.finished outcome).progress := by
      rw [ScopeFence.get_set_self, hafter, if_pos rfl]
    cases outcome with
    | error message => exact .failed hself
    | ok value => exact .returned hself (hconfirmed value rfl newer input older hlog)

theorem inv_reject (hs : s.Inv config) {message : String}
    (h : s.reject id message = some t) : t.Inv config :=
  inv_finish hs (fun value heq => by cases heq) h

variable {entry : CreateEntry}

theorem log_cons {log newer older : List CreateEntry}
    (h : entry :: log = newer ++ .wrote id input :: older) :
    newer = [] ∧ entry = .wrote id input
      ∨ ∃ rest, newer = entry :: rest ∧ log = rest ++ .wrote id input :: older := by
  rcases List.cons_eq_append_iff.mp h with ⟨hnil, heq⟩ | ⟨rest, hnewer, hlog⟩
  · exact Or.inl ⟨hnil, (List.cons.inj heq).1.symm⟩
  · exact Or.inr ⟨rest, hnewer, hlog⟩

variable {listed : List CreateMarker}

theorem listing_cons {log : List CreateEntry}
    (h : Listing config log id listed)
    (hremoves : entry.removes id.scope = false) : Listing config (entry :: log) id listed := by
  obtain ⟨newer, older, rfl, hlisted, hnewer⟩ := h
  exact ⟨entry :: newer, older, rfl, hlisted, List.forall_mem_cons.mpr ⟨hremoves, hnewer⟩⟩

theorem inv_noted (hs : s.Inv config) {slot : Option Value}
    (hentry : ∀ id input, entry ≠ .wrote id input)
    (hlisting : ∀ id input listed, s.work id = some (.save input (.hashing listed)) →
      entry.removes id.scope = false)
    (hslot : ∃ markers, slot = writeCreateMarkers markers
      ∧ ∀ marker ∈ markers, Accounted config marker (entry :: s.log)) :
    Inv config { s with createSlot := slot, log := entry :: s.log } where
  __ := hs
  slot := hslot
  listing id input listed h := by
    obtain ⟨hexecuting, hqualified, hlisted⟩ := hs.listing id input listed h
    exact ⟨hexecuting, hqualified, listing_cons hlisted (hlisting id input listed h)⟩
  admitted id input h := by
    rcases List.mem_cons.mp h with heq | hmem
    · exact absurd heq.symm (hentry id input)
    · exact hs.admitted id input hmem
  since newer id input older h := by
    rcases log_cons h with ⟨-, heq⟩ | ⟨rest, rfl, hlog⟩
    · exact absurd heq (hentry id input)
    · have hsince := (hs.since rest id input older hlog).mono entry
      refine hsince.next (Or.inl ?_) ?_
      · rfl
      · exact fun input stage hwork hunbound => ⟨stage, hwork, hunbound⟩

theorem inv_note (hs : s.Inv config) (entry : CreateEntry)
    (hentry : ∀ id input, entry ≠ .wrote id input)
    (hremoves : ∀ scope, entry.removes scope = false) : (s.note entry).Inv config := by
  obtain ⟨markers, hslot, hall⟩ := hs.slot
  exact inv_noted hs hentry (fun id _ _ _ => hremoves id.scope)
    ⟨markers, hslot, fun marker hmarker => .kept (hremoves _) (hall marker hmarker)⟩

theorem inv_filtered (hs : s.Inv config) (entry : CreateEntry) (scope : String)
    {markers : List CreateMarker} (hread : readCreateMarkers s.createSlot = some markers)
    (hentry : ∀ id input, entry ≠ .wrote id input)
    (hremoves : ∀ other, other ≠ scope → entry.removes other = false)
    (hhashing : ∀ id input listed, s.work id = some (.save input (.hashing listed)) →
      id.scope ≠ scope) :
    ((s.putCreateMarkers (markers.filter (·.scope != scope))).note entry).Inv config := by
  obtain ⟨written, hslot, hall⟩ := hs.slot
  rw [hslot] at hread
  obtain rfl := readCreateMarkers_of_writeCreateMarkers hread
  apply inv_noted hs hentry
  · exact fun id input listed h => hremoves id.scope (hhashing id input listed h)
  · refine ⟨_, rfl, fun marker hmarker => ?_⟩
    obtain ⟨hmem, hscope⟩ := List.mem_filter.mp hmarker
    exact .kept (hremoves _ (by simpa using hscope)) (hall marker hmem)

theorem accounted_listed {log : List CreateEntry}
    (h : Listing config log id listed) {marker : CreateMarker}
    (hmarker : marker ∈ listed) : Accounted config marker (.wrote id input :: log) := by
  obtain ⟨newer, older, rfl, hlisted, hnewer⟩ := h
  by_cases hscope : id.scope = marker.scope
  · -- Nothing took it off, as its scope was busy.
    apply Accounted.kept rfl
    induction newer with
    | nil => exact .kept rfl (hlisted marker hmarker)
    | cons entry newer ih =>
      obtain ⟨hentry, hrest⟩ := List.forall_mem_cons.mp hnewer
      exact .kept (hscope ▸ hentry) (ih hrest)
  · exact .carried hscope (hlisted marker hmarker)

theorem inv_wrote (hs : s.Inv config)
    (hwork : s.work id = some (.save input (.hashing listed))) :
    ((s.putCreateMarkers (listed ++ [config.markerOf id.scope input])).note
      (.wrote id input)).Inv config where
  __ := hs
  slot := by
    refine ⟨_, rfl, fun marker hmarker => ?_⟩
    rcases List.mem_append.mp hmarker with hlisted | hown
    · exact accounted_listed (hs.listing id input listed hwork).2.2 hlisted
    · exact .wrote (List.mem_singleton.mp hown)
  listing other input' listed' h := by
    obtain ⟨hexecuting, hqualified, hlisting⟩ := hs.listing other input' listed' h
    exact ⟨hexecuting, hqualified, listing_cons hlisting rfl⟩
  admitted other input' h := by
    rcases List.mem_cons.mp h with heq | hmem
    · obtain ⟨rfl, rfl⟩ := CreateEntry.wrote.inj heq
      obtain ⟨hconfigured, hunsigned⟩ := hs.passed other input' (.hashing listed) hwork rfl
      exact ⟨hconfigured, hunsigned, (hs.listing other input' listed hwork).2.1⟩
    · exact hs.admitted other input' hmem
  since newer other input' older h := by
    rcases log_cons h with ⟨-, heq⟩ | ⟨rest, rfl, hlog⟩
    · cases heq
      have hexecuting := (hs.listing id input listed hwork).1
      exact .executing input (.hashing listed) hexecuting hwork rfl
    · have hsince := (hs.since rest other input' older hlog).mono (.wrote id input)
      refine hsince.next (Or.inl ?_) ?_
      · rfl
      · exact fun input stage hwork hunbound => ⟨stage, hwork, hunbound⟩

theorem inv_putBinding (hs : s.Inv config) (key : DraftKey) (snapshot : DraftBindingSnapshot) :
    (s.putBinding key snapshot).Inv config :=
  hs.congr rfl rfl rfl rfl

variable {existing : Option OwnedDraft}

theorem inv_readSaved (hs : s.Inv config)
    (hat : s.At id input existing.isNone)
    (h : s.readSaved config id input existing = some t) : t.Inv config := by
  unfold readSaved at h
  split at h
  · exact inv_reject hs h
  split at h
  · exact inv_reject hs h
  · exact inv_reject hs h
  · cases h
    apply inv_go hs hat
    · intro listed heq
      cases heq
    · intro hnone
      rw [Option.isNone_iff_eq_none.mp hnone]
      rfl

theorem inv_storeFailed (hs : s.Inv config)
    (hat : s.At id input existing.isNone) {message : String}
    (h : s.storeFailed config id input existing message = some t) : t.Inv config := by
  unfold storeFailed at h
  split at h
  · exact inv_reject hs h
  split at h
  · exact inv_reject hs h
  · exact inv_readSaved hs hat h

theorem inv_enterStore (hs : s.Inv config)
    (hat : s.At id input existing.isNone)
    (h : s.enterStore config id input existing = some t) : t.Inv config := by
  unfold enterStore at h
  split at h
  · exact inv_storeFailed hs hat h
  split at h
  · exact inv_storeFailed hs hat h
  · cases h
    apply inv_go hs hat
    · intro listed heq
      cases heq
    · intro hnone
      rw [Option.isNone_iff_eq_none.mp hnone]
      rfl

theorem at_of_live {stage : SaveStage} {unbound : Bool}
    (h : s.live id = some (.save input stage)) (hstarted : stage.started = true)
    (hunbound : stage.unbound = true → unbound = true) : s.At id input unbound :=
  ⟨(live_eq h).2, stage, (live_eq h).1, hstarted, hunbound⟩

theorem inv_listMarkers (hs : s.Inv config)
    (hat : s.At id input false) (h : s.listMarkers config id input = some t) : t.Inv config := by
  unfold listMarkers at h
  split at h
  · exact inv_reject hs h
  · next hqualified =>
    split at h
    · exact inv_reject hs h
    split at h
    · exact inv_reject hs h
    · next markers hread =>
      cases h
      obtain ⟨written, hslot, hall⟩ := hs.slot
      rw [hslot] at hread
      obtain rfl := readCreateMarkers_of_writeCreateMarkers hread
      have hnoted := inv_note hs (.listed id) (fun _ _ heq => by cases heq)
        (fun _ => rfl)
      obtain ⟨stage, hwork, hstarted, hbound⟩ := hat.save
      apply inv_enters hnoted hwork
      · exact fun _ => hs.passed id input stage hwork hstarted
      · intro listed heq
        cases heq
        exact ⟨hat.executing, by simpa using hqualified, [], s.log, rfl, hall, by simp⟩
      · exact fun _ => rfl

theorem inv_preflight (hs : s.Inv config)
    (hwork : s.work id = some (.save input .queued)) (h : s.preflight config id input = some t) :
    t.Inv config := by
  unfold preflight at h
  split at h
  · exact inv_reject hs h
  split at h
  · exact inv_reject hs h
  · next hconfigured =>
    split at h
    · exact inv_reject hs h
    · next hunsigned =>
      cases h
      apply inv_enters hs hwork
      · exact fun _ => ⟨by simpa using hconfigured, by simpa using hunsigned⟩
      · intro listed heq
        cases heq
      · intro hunbound
        cases hunbound

theorem inv_finish_bound (hs : s.Inv config)
    {outcome : Except String (Option OwnedDraft)}
    (hbound : ∀ input stage, s.work id = some (.save input stage) → stage.unbound = false)
    (h : s.finish id outcome = some t) : t.Inv config := by
  apply inv_finish hs _ h
  intro value _ newer input older hlog
  have hexecuting : s.progress id = some .executing := by
    obtain ⟨entries, hentries, -⟩ := fence_eq h
    exact (Scoped.progress_finish hentries).1
  cases hs.since newer id input older hlog with
  | executing input stage hprogress hwork hunbound =>
    rw [hbound input stage hwork] at hunbound
    cases hunbound
  | failed hprogress => cases hexecuting.symm.trans hprogress
  | returned hprogress hconfirmed => exact hconfirmed

theorem inv_read (hs : s.Inv config) {key : DraftKey}
    {before after : Option DraftBindingSnapshot} (hwork : s.work id = some (.read key before)) :
    (s.setWork id (some (.read key after))).Inv config := by
  apply hs.moved
  · rfl
  · rfl
  · exact hs.fenced
  · exact hs.held
  · intro other input stage hsave
    rw [work_setWork] at hsave
    split at hsave
    · cases hsave
    · exact hs.passed other input stage hsave
  · intro other input listed hsave
    rw [work_setWork] at hsave
    split at hsave
    · cases hsave
    · exact hs.listing other input listed hsave
  · intro newer other input older _ hsince
    refine hsince.next (Or.inl ?_) ?_
    · rfl
    · intro input stage hsave hunbound
      rw [work_setWork]
      split
      · next hid =>
        subst hid
        cases hwork.symm.trans hsave
      · exact ⟨stage, hsave, hunbound⟩

theorem unwritten (hs : s.Inv config) (hnone : s.progress id = none
    ∨ s.progress id = some .waiting) {newer older : List CreateEntry}
    (hlog : s.log = newer ++ .wrote id input :: older) : False := by
  have hsince := hs.since newer id input older hlog
  rcases hnone with hnone | hnone
  all_goals
    cases hsince with
    | executing input stage hprogress => cases hnone.symm.trans hprogress
    | failed hprogress => cases hnone.symm.trans hprogress
    | returned hprogress => cases hnone.symm.trans hprogress

theorem setWork_self (s : SaveState) (id : RunId) : s.setWork id (s.work id) = s := by
  rw [setWork, Function.update_eq_self]

section

variable (hs : s.Inv config)
include hs

theorem inv_started
    (h : s.fence id.scope (.start id.run) = some t) : t.Inv config ∧ t.work = s.work := by
  obtain ⟨entries, hentries, rfl⟩ := fence_eq h
  obtain ⟨hwaiting, hafter⟩ := Scoped.progress_start hentries
  refine ⟨?_, rfl⟩
  have halone := inv_alone hs id (s.work id) (Scoped.inv_step (hs.fenced id.scope) hentries)
    (Scoped.held_step (hs.held id.scope) hentries)
    (fun k hk => by rw [hafter, if_neg hk]) (hs.passed id)
    (fun input listed hwork => by
      have hexecuting := (hs.listing id input listed hwork).1
      cases hexecuting.symm.trans hwaiting)
    (fun newer input older hlog => absurd hlog (unwritten hs (Or.inr hwaiting)))
  rw [setWork_self] at halone
  exact halone

theorem inv_start (h : s.start config id = some t) :
    t.Inv config := by
  obtain ⟨u, hfence, h⟩ := Option.bind_eq_some_iff.mp h
  obtain ⟨hu, -⟩ := inv_started hs hfence
  clear hs hfence
  split at h
  · next input hwork => exact inv_preflight hu hwork h
  · next key found hwork =>
    split at h
    · exact inv_reject hu h
    · apply inv_finish_bound hu _ h
      intro input stage hsave
      cases hwork.symm.trans hsave
    · cases h
      exact inv_read hu hwork
  · cases h

theorem inv_run (scope : String) (work : Work)
    (hwork : ∀ input stage, work = .save input stage → stage.started = false) :
    (s.run scope work).Inv config := by
  have hnone : s.progress ⟨scope, (s.fences.get scope).runs.length⟩ = none := by
    rw [progress, Scoped.progress, List.getElem?_eq_none (Nat.le_refl _)]
    rfl
  have hlater : ∀ k, k ≠ (s.fences.get scope).runs.length →
      (s.fences.get scope).run.progress k = (s.fences.get scope).progress k := by
    intro k hk
    rw [Scoped.progress_run, if_neg hk]
    split <;> rfl
  have halone : ∀ work : Option Work,
      (∀ input stage, work = some (.save input stage) → stage.started = true →
        input.isConfigured config = true ∧ input.isUnsigned = true) →
      (∀ input listed, work ≠ some (.save input (.hashing listed))) →
      Inv config { s.setWork ⟨scope, (s.fences.get scope).runs.length⟩ work with
        fences := s.fences.set scope (s.fences.get scope).run } := by
    intro work hpassed hhashing
    exact inv_alone hs ⟨scope, (s.fences.get scope).runs.length⟩ work
      (Scoped.inv_run (hs.fenced scope)) (Scoped.held_run (hs.held scope)) hlater hpassed hhashing
      (fun newer input older hlog => absurd hlog (unwritten hs (Or.inl hnone)))
  unfold run
  dsimp only
  split
  · have hself := halone (s.work ⟨scope, (s.fences.get scope).runs.length⟩) (hs.passed _) ?_
    · rw [setWork_self] at hself
      exact hself
    · intro input listed h
      cases hnone.symm.trans (hs.listing _ input listed h).1
  · apply halone (some work)
    · intro input stage h hstarted
      rw [hwork input stage (Option.some.inj h)] at hstarted
      cases hstarted
    · intro input listed h
      cases hwork input (.hashing listed) (Option.some.inj h)

theorem inv_saveDraft (input : SaveInput) (guard : Bool) :
    (s.saveDraft config input guard).Inv config := by
  unfold saveDraft
  dsimp only
  split
  · exact hs
  · have hrun := inv_run hs (config.scopeFor input.draftKey) (.save input .queued)
      (fun _ stage h => by
        cases h
        rfl)
    exact hrun.congr rfl rfl rfl rfl

theorem inv_validated {valid : Bool} (h : s.validated config id valid = some t) : t.Inv config := by
  unfold validated at h
  split at h
  · next input hlive =>
    have hat : s.At id input false := at_of_live hlive rfl fun h => h
    split at h
    · exact inv_reject hs h
    split at h
    · exact inv_reject hs h
    · exact inv_listMarkers hs hat h
    · cases h
      apply inv_go hs hat
      · intro listed heq
        cases heq
      · intro heq
        cases heq
  · cases h

variable {view : Except String OwnedDraft}

theorem inv_owned (h : s.owned config id view = some t) : t.Inv config := by
  unfold owned at h
  split at h
  · next input binding hlive =>
    split at h
    · exact inv_reject hs h
    split at h
    · exact inv_reject hs h
    · next existing =>
      have hat : s.At id input (some existing).isNone := at_of_live hlive rfl fun h => h
      split at h
      · exact inv_reject hs h
      split at h
      · exact inv_reject hs h
      · exact inv_enterStore hs hat h
  · cases h

theorem inv_hashed {retains : Bool} (h : s.hashed config id retains = some t) : t.Inv config := by
  unfold hashed at h
  split at h
  · next input listed hlive =>
    split at h
    · exact inv_reject hs h
    split at h
    · exact inv_reject hs h
    · dsimp only at h
      have hwrote := inv_wrote hs (live_eq hlive).1
      have hat : s.At id input (none : Option OwnedDraft).isNone :=
        at_of_live hlive rfl fun h => h
      split at h
      · exact inv_reject hwrote h
      · exact inv_enterStore hwrote (hat.congr rfl rfl) h
  · cases h

theorem inv_admitted {credentials guard : Except String Unit}
    (h : s.admitted config id credentials guard = some t) : t.Inv config := by
  unfold admitted at h
  split at h
  · next input existing target hlive =>
    have hat : s.At id input existing.isNone := at_of_live hlive rfl fun hunbound => by
      cases existing with
      | none => rfl
      | some existing => cases hunbound
    split at h
    · exact inv_storeFailed hs hat h
    split at h
    · exact inv_storeFailed hs hat h
    split at h
    · exact inv_reject hs h
    split at h
    · exact inv_reject hs h
    · cases h
      apply inv_note
      · apply inv_go hs hat
        · intro listed heq
          cases heq
        · intro hnone
          rw [Option.isNone_iff_eq_none.mp hnone]
          rfl
      · intro _ _ heq
        cases heq
      · exact fun _ => rfl
  · cases h

theorem inv_replied {reply : Reply} (h : s.replied config id reply = some t) : t.Inv config := by
  unfold replied at h
  split at h
  · next input existing target hlive =>
    have hat : s.At id input existing.isNone := at_of_live hlive rfl fun hunbound => by
      cases existing with
      | none => rfl
      | some existing => cases hunbound
    have hnoted : (s.note (.answered id reply)).Inv config :=
      inv_note hs _ (fun _ _ heq => by cases heq) fun _ => rfl
    cases reply with
    | accepted draftId draftVersion =>
      exact inv_readSaved (inv_putBinding hnoted _ _) (hat.congr rfl rfl) h
    | refused message => exact inv_storeFailed hnoted (hat.congr rfl rfl) h
    | lost message => exact inv_storeFailed hnoted (hat.congr rfl rfl) h
  · cases h

theorem inv_readBack
    {outputs : Bool} (h : s.readBack config id view outputs = some t) : t.Inv config := by
  unfold readBack at h
  split at h
  · next input existing binding hlive =>
    have hat : s.At id input existing.isNone := at_of_live hlive rfl fun hunbound => by
      cases existing with
      | none => rfl
      | some existing => cases hunbound
    split at h
    · exact inv_reject hs h
    split at h
    · exact inv_reject hs h
    split at h
    · exact inv_reject hs h
    split at h
    · exact inv_reject hs h
    · cases h
      apply inv_go hs hat
      · intro listed heq
        cases heq
      · intro hnone
        rw [Option.isNone_iff_eq_none.mp hnone]
        rfl
  · cases h

theorem hashing_elsewhere {stage : SaveStage}
    (hexecuting : s.progress id = some .executing) (hwork : s.work id = some (.save input stage))
    (hstage : ∀ listed, stage ≠ .hashing listed) {other : RunId} {otherInput : SaveInput}
    (hother : s.work other = some (.save otherInput (.hashing listed))) : other.scope ≠ id.scope := by
  intro hscope
  have hotherExecuting := (hs.listing other otherInput listed hother).1
  rw [progress, hscope] at hotherExecuting
  have hrun : other.run = id.run :=
    (hs.fenced id.scope).one_executing hotherExecuting hexecuting
  have hid : other = id := by
    cases other
    cases id
    simp_all
  subst hid
  obtain ⟨-, heq⟩ := Work.save.inj (Option.some.inj (hwork.symm.trans hother))
  exact hstage listed heq

theorem inv_confirm {stage : SaveStage}
    (hexecuting : s.progress id = some .executing) (hwork : s.work id = some (.save input stage))
    (hstage : ∀ listed, stage ≠ .hashing listed) {saved : OwnedDraft}
    (h : s.confirm id saved = some t) : t.Inv config := by
  unfold confirm at h
  split at h
  · exact inv_reject hs h
  · next markers hread =>
    have hfiltered := inv_filtered hs (.confirmed id) id.scope hread
      (fun _ _ heq => by cases heq) (fun other hother => by simpa [CreateEntry.removes] using hother.symm)
      (fun other _ _ hother => hashing_elsewhere hs hexecuting hwork hstage hother)
    apply inv_finish hfiltered _ h
    intro value _ newer input older hlog
    rcases log_cons hlog with ⟨-, heq⟩ | ⟨rest, rfl, -⟩
    · cases heq
    · exact List.mem_cons_self

theorem inv_evidenced {retains : Bool} (h : s.evidenced id retains = some t) : t.Inv config := by
  unfold evidenced at h
  split at h
  · next input existing binding saved hlive =>
    obtain ⟨hwork, hexecuting⟩ := live_eq hlive
    split at h
    · exact inv_reject hs h
    · have hput := inv_putBinding hs input.draftKey
        ⟨binding.draftId, .number saved.version, saved.response, .undefined⟩
      split at h
      · exact inv_reject hput h
      split at h
      · exact inv_confirm hput hexecuting hwork nofun h
      · next hbound =>
        apply inv_finish_bound hput _ h
        intro input' stage hsave
        obtain ⟨-, rfl⟩ := Work.save.inj (Option.some.inj (hwork.symm.trans hsave))
        cases existing with
        | none => exact absurd rfl hbound
        | some existing => rfl
  · cases h

theorem inv_stateRead (h : s.stateRead id view = some t) : t.Inv config := by
  unfold stateRead at h
  split at h
  · next key binding hlive =>
    split at h
    · exact inv_reject hs h
    split at h
    · exact inv_reject hs h
    split at h
    · exact inv_reject hs h
    · apply inv_finish_bound (inv_putBinding hs _ _) _ h
      intro input stage hsave
      cases (live_eq hlive).1.symm.trans hsave
  · cases h

theorem inv_wake {scope : String} {clear : Nat}
    (h : s.wake scope clear = some t) : t.Inv config := by
  obtain ⟨u, hfence, rfl⟩ := Option.map_eq_some_iff.mp h
  have hu := inv_fence hs rfl hfence
  exact hu.congr rfl rfl rfl rfl

theorem inv_clearScope {scope : String}
    (hhashing : ∀ id input listed, s.work id = some (.save input (.hashing listed)) →
      id.scope ≠ scope) : (s.clearScope config scope).Inv config := by
  have hforgotten : Inv config { s with saves := s.saves.filter (·.2 != scope) } :=
    hs.congr rfl rfl rfl rfl
  unfold clearScope
  dsimp only
  split
  · exact hforgotten
  · next markers hread =>
    split
    · exact inv_filtered hforgotten (.cleared scope) scope hread
        (fun _ _ heq => by cases heq) (fun other hother => by simpa [CreateEntry.removes] using hother.symm)
        hhashing
    · exact hforgotten

theorem inv_cleared {key : DraftKey} {clear : Nat} {ended : Bool}
    (h : s.cleared config key clear ended = some t) : t.Inv config := by
  obtain ⟨u, hfence, rfl⟩ := Option.map_eq_some_iff.mp h
  have hu := inv_fence hs rfl hfence
  have hdeleted : Inv config { u with
      clearing := u.clearing - 1
      bindings := (Registry.deleteScope config.registry key u.bindings).2 } :=
    hu.congr rfl rfl rfl rfl
  dsimp only
  split
  · apply inv_clearScope hdeleted
    -- The clear ran behind all operations of its scope.
    intro id input listed hwork hscope
    obtain ⟨entries, hentries, rfl⟩ := fence_eq hfence
    have hexecuting := (hs.listing id input listed hwork).1
    rw [progress, hscope] at hexecuting
    exact (hs.fenced _).quiet_clear hentries id.run hexecuting
  · exact hdeleted

theorem inv_step {event : Event} (h : s.step config event = some t) :
    t.Inv config := by
  cases event with
  | saveDraft input guard => exact Option.some.inj h ▸ inv_saveDraft hs input guard
  | readState key =>
    exact Option.some.inj h ▸ inv_run hs (config.scopeFor key) (.read key none) (fun _ _ heq => by cases heq)
  | start id => exact inv_start hs h
  | validated id valid => exact inv_validated hs h
  | owned id view => exact inv_owned hs h
  | hashed id retains => exact inv_hashed hs h
  | admitted id credentials guard => exact inv_admitted hs h
  | replied id reply => exact inv_replied hs h
  | readBack id view outputs => exact inv_readBack hs h
  | evidenced id retains => exact inv_evidenced hs h
  | stateRead id view => exact inv_stateRead hs h
  | settle id => exact inv_fence hs rfl h
  | release id => exact inv_fence hs rfl h
  | invalidate key => exact inv_fence hs rfl h
  | clear key => exact inv_fence hs rfl h
  | wake scope clear => exact inv_wake hs h
  | cleared key clear ended => exact inv_cleared hs h

theorem accepts_of_free (hreadable : ∀ id input, .wrote id input ∈ s.log →
      (config.markerOf id.scope input).isReadable = true) {scope : String}
    (hidle : (s.fences.get scope).isIdle = true)
    (hfree : ∀ marker ∈ s.remaining, marker.scope ≠ scope) : s.accepts scope = true := by
  obtain ⟨markers, hslot, hall⟩ := hs.slot
  have hread : readCreateMarkers s.createSlot = some markers := by
    rw [hslot]
    apply readCreateMarkers_writeCreateMarkers
    intro marker hmarker
    obtain ⟨id, input, hwrote, rfl⟩ := accounted_source (hall marker hmarker)
    exact hreadable id input hwrote
  have hopen : s.refuseUnresolved scope = false := by
    rw [refuseUnresolved, hread, Option.all_some, List.any_eq_false]
    intro marker hmarker
    have hmem : marker ∈ s.remaining := by
      rw [remaining, hread]
      exact hmarker
    simpa using hfree marker hmem
  obtain ⟨hpending, hclearing⟩ := (hs.held scope).free hidle
  rw [accepts, hpending, hclearing, hopen]
  rfl

theorem Inv.tracked : s.Tracked config where
  accounted := remaining_accounted hs
  admitted := hs.admitted
  confirmed newer id input older hlog hresolved := by
    obtain ⟨run, value, hrun, hphase⟩ := hresolved
    have hreturned : s.progress id = some .returned := by
      have hprogress : s.progress id = (s.runOf id).map (·.phase.progress) := rfl
      rw [hprogress, hrun, Option.map_some, hphase]
      rfl
    cases hs.since newer id input older hlog with
    | executing _ _ hexecuting => cases hreturned.symm.trans hexecuting
    | failed hfailed => cases hreturned.symm.trans hfailed
    | returned _ hconfirmed => exact hconfirmed
  accepted hreadable _ hidle hfree := accepts_of_free hs hreadable hidle hfree

end

/-- In every run, a marker is of a save that found no binding, passed its checks and did not confirm
its draft; and a scope without one takes the next save or read. -/
theorem creates_tracked {bindings : List Binding} {events : List Event}
    (h : events.foldlM (step config) (opened bindings) = some s) : s.Tracked config :=
  (foldlM_invariant (J := Inv config) (fun _ _ _ hs hstep => inv_step hs hstep)
    (inv_opened bindings) h).tracked

def sampleConfig : SaveConfig where
  scopeFor key := key.formUrl
  formIdFor _ := "intake"
  canonicalize value := if value.isTruthy then "truthy" else "falsy"
  handoffHash _ := String.ofList (List.replicate 64 'a')
  qualifySaveAction _ _ := true
  registry := ⟨fun formUrl _ => .ok formUrl, true⟩
  requireExistingBinding := false

def sampleInput : SaveInput where
  operationId := "01890a5d-ac96-774b-bcce-b302099a8057"
  formId := some "intake"
  draftKey := ⟨"urn:form", some "1", none, none⟩
  definitionUrl := "urn:form"
  definitionVersion := "1"
  formVersionId := "publication-1"
  response := .object [("id", .string "response-1"), ("definitionUrl", .string "urn:form"),
    ("definitionVersion", .string "1"), ("data", .object [])]
  action := .null

/-- The save that an edit of the form retires while its request is at the server. -/
def sampleRun : RunId := ⟨"urn:form", 0⟩

def createdWhileEdited : List Event :=
  [.saveDraft sampleInput true, .start sampleRun, .validated sampleRun true, .hashed sampleRun true,
    .admitted sampleRun (.ok ()) (.ok ()), .invalidate sampleInput.draftKey,
    .replied sampleRun (.accepted (.string "draft-1") (.number 1)), .settle sampleRun,
    .release sampleRun]

theorem creates_tracked_createdWhileEdited :
    ∃ s, createdWhileEdited.foldlM (step sampleConfig) (opened []) = some s
      ∧ s.Tracked sampleConfig := by
  have hrun : (createdWhileEdited.foldlM (step sampleConfig) (opened [])).isSome = true := by
    decide +kernel
  obtain ⟨s, hs⟩ := Option.isSome_iff_exists.mp hrun
  exact ⟨s, hs, creates_tracked hs⟩

def dispatcher : CreateEntry → Option RunId
  | .dispatched id true => some id
  | _ => none

def decided : CreateEntry → Option RunId
  | .answered id reply => if reply.definitive then some id else none
  | _ => none

/-- The marker of a draft that was created and bound outlives its save, which an edit retired. -/
theorem created_marker_remains :
    ¬ ∀ (events : List Event) (s : SaveState),
      events.foldlM (step sampleConfig) (opened []) = some s → s.OnlyUnknown := by
  intro hall
  have hrun : (createdWhileEdited.foldlM (step sampleConfig) (opened [])).any (fun s =>
      (s.fences.get "urn:form").isIdle && s.remaining.any (·.scope == "urn:form")
        && s.log.filterMap dispatcher == [sampleRun] && s.log.filterMap decided == [sampleRun])
      = true := by
    decide +kernel
  obtain ⟨s, hs, hend⟩ := (Option.any_eq_true _ _).mp hrun
  simp only [Bool.and_eq_true, beq_iff_eq] at hend
  obtain ⟨⟨⟨hidle, hremaining⟩, hdispatched⟩, hdecided⟩ := hend
  obtain ⟨marker, hmarker, hscope⟩ := List.any_eq_true.mp hremaining
  obtain ⟨id, -, hsent, hunknown⟩ :=
    hall createdWhileEdited s hs "urn:form" hidle marker hmarker (by simpa using hscope)
  -- There is one request, and it was decided.
  have hid : id ∈ s.log.filterMap dispatcher := List.mem_filterMap.mpr ⟨_, hsent, rfl⟩
  rw [hdispatched, List.mem_singleton] at hid
  have hmem : sampleRun ∈ s.log.filterMap decided := by
    rw [hdecided]
    exact List.mem_singleton_self _
  obtain ⟨entry, hentry, hof⟩ := List.mem_filterMap.mp hmem
  cases entry with
  | answered other reply =>
    rw [decided] at hof
    split at hof
    · next hdefinitive =>
      cases hof
      rw [hunknown reply (hid ▸ hentry)] at hdefinitive
      cases hdefinitive
    · cases hof
  | _ => cases hof

end SaveState

end FormspecWeb.Signing
