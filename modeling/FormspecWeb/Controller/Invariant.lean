import FormspecWeb.Controller.Protocol

/-!
# The moves keep the invariant

Every move of a call keeps the state well formed, and leaves to every other call
what that call relies on. Most moves change one variable; `Wellformed.of_frame`
covers those that leave the deliveries, the promises and the busy flag alone.
-/

namespace FormspecWeb.Controller

open Ports Engine Async

variable {config : ResponseActionControllerConfig} {F : Schedule} {t : Nat} {s s' : State config}

theorem note_frame (e : Entry config) (s : State config) : Frame s (s.note e) :=
  ⟨rfl, rfl, rfl, rfl, rfl, rfl, fun _ => rfl, rfl, Nat.le_refl _⟩

theorem publish_frame (phase : Phase) (reason : Option ResponseActionControllerReason)
    (s : State config) : Frame s (s.publish phase reason) :=
  ⟨rfl, rfl, rfl, rfl, rfl, rfl, fun _ => rfl, rfl, Nat.le_refl _⟩

theorem Frame.delivery (h : Frame s s') {id : String} {delivery : Delivery}
    (hd : s'.deliveries id = some delivery) :
    ∃ old, s.deliveries id = some old ∧ delivery.core = old.core := by
  have hcore := h.deliveries id
  rw [hd] at hcore
  cases hold : s.deliveries id with
  | none => simp [hold] at hcore
  | some old => exact ⟨old, rfl, by simpa [hold] using hcore⟩

theorem core_eq {a b : Delivery} (h : a.core = b.core) :
    a.identity = b.identity ∧ a.operationId = b.operationId ∧ a.pending = b.pending
      ∧ a.completionPreparation = b.completionPreparation ∧ a.completed = b.completed := by
  simp only [Delivery.core, Delivery.mk.injEq] at h
  exact ⟨h.1, h.2.1, h.2.2.1, h.2.2.2.1, h.2.2.2.2.2.2.2⟩

structure SameTrace (es es' : List (Entry config)) : Prop where
  kept : ∀ e ∈ es, e ∈ es'
  locked : lockedBy es' = lockedBy es
  invalid : invalidatedWith es' = invalidatedWith es
  acceptedOf : acceptedOf es' = acceptedOf es
  accepted : ∀ t id result, .accepted t id result ∈ es' → .accepted t id result ∈ es

theorem SameTrace.refl (es : List (Entry config)) : SameTrace es es :=
  ⟨fun _ h => h, rfl, rfl, rfl, fun _ _ _ h => h⟩

theorem Wellformed.of_frame (hw : Wellformed F s) (hframe : Frame s s')
    (htrace : SameTrace s.log s'.log) (hslots : s'.slots = slotsOf s'.log)
    (hexclusive : F.restoresAlone = true → Exclusive s'.log)
    (hascending : F.restoresAlone = true → Ascending s') : Wellformed F s' where
  epoch h := hframe.epoch.trans (hw.epoch (hframe.invalidated ▸ h))
  busy := by rw [hframe.busy, htrace.locked, hw.busy]
  key t operation h := hw.key t operation (htrace.locked ▸ h)
  slots := hslots
  invalid := by rw [hframe.invalidated, htrace.invalid, hw.invalid]
  completion := by
    rw [hframe.completionResult, hframe.invalidated, htrace.acceptedOf, hw.completion]
  confirmed := by
    rw [hframe.confirmedDelivery, hframe.invalidated, htrace.acceptedOf, hw.confirmed]
  once t id result h := htrace.acceptedOf.trans (hw.once t id result (htrace.accepted t id result h))
  cleared h := by
    obtain ⟨hsubmit, hdeliveries⟩ := hw.cleared (hframe.invalidated ▸ h)
    refine ⟨hframe.completedSubmit.trans hsubmit, fun id => ?_⟩
    have hcore := hframe.deliveries id
    rw [hdeliveries id] at hcore
    simpa using hcore
  completed id delivery outputs hd hrole hcompleted := by
    obtain ⟨old, hold, hcore⟩ := hframe.delivery hd
    obtain ⟨hidentity, -, -, -, hdone⟩ := core_eq hcore
    exact (hw.completed id old outputs hold (hidentity ▸ hrole) (hdone ▸ hcompleted)).mono
      htrace.kept
  retained identity result h := by
    obtain ⟨hstatus, hconfirms⟩ := hw.retained identity result (hframe.completedSubmit ▸ h)
    exact ⟨hstatus, hconfirms.mono htrace.kept⟩
  promised p promise outputs hp hrole houtcome :=
    (hw.promised p promise outputs (hframe.promises ▸ hp) hrole houtcome).mono htrace.kept
  pending id delivery p hd hpending := by
    obtain ⟨old, hold, hcore⟩ := hframe.delivery hd
    obtain ⟨hidentity, -, hp, -, -⟩ := core_eq hcore
    obtain ⟨promise, hpromise, hrole, hid⟩ := hw.pending id old p hold (hp ▸ hpending)
    exact ⟨promise, hframe.promises ▸ hpromise, hrole.trans (by rw [hidentity]), hid⟩
  fresh p hp := hframe.promises ▸ hw.fresh p (Nat.le_trans hframe.nextObject hp)
  delivers t role id delivery hlock hd := by
    obtain ⟨old, hold, hcore⟩ := hframe.delivery hd
    rw [(core_eq hcore).1]
    exact hw.delivers t role id old (htrace.locked ▸ hlock) hold
  exclusive := hexclusive
  ascending := hascending

/-! ## Entries a call logs on its own -/

theorem Exclusive.congr {es es' : List (Entry config)} (h : Exclusive es)
    (hopen : openOperations es' = openOperations es) (hlock : lockedBy es' = lockedBy es) :
    Exclusive es' := by
  cases h with
  | idle ho hl => exact .idle (hopen.trans ho) (hlock ▸ hl)
  | locked t operation ho hl => exact .locked t operation (hopen.trans ho) (hlock.trans hl)
  | restoring t operation ho hkey hl => exact .restoring t operation (hopen.trans ho) hkey (hlock ▸ hl)

variable {es : List (Entry config)}

theorem openOperations_opened {t : Nat} {operation : Operation}
    (h : operation ≠ .refreshApplication) :
    openOperations (.opened t operation :: es) = (t, operation) :: openOperations es := by
  cases operation <;> simp_all [openOperations]

theorem Exclusive.none_open (h : Exclusive es)
    (hfree : lockedBy es = none) (halone : restoreOpen es = false) : openOperations es = [] := by
  cases h with
  | idle ho _ => exact ho
  | locked t operation _ hl => rw [hfree] at hl; cases hl
  | restoring t operation ho hkey _ => simp [restoreOpen, ho, hkey] at halone

theorem Exclusive.closed (h : Exclusive es) {t : Nat} {operation : Operation}
    (hlock : lockedBy (.closed t operation :: es) = lockedBy es ∧ operation.busyKey = none
      ∨ lockedBy es = some (t, operation)) : Exclusive (.closed t operation :: es) := by
  have hopen : openOperations (.closed t operation :: es)
      = (openOperations es).filter (· ≠ (t, operation)) := rfl
  rcases hlock with ⟨hlock, hkey⟩ | hlock
  · cases h with
    | idle ho hl => exact .idle (by rw [hopen, ho]; rfl) (hlock ▸ hl)
    | locked u op ho hl =>
      by_cases hx : (u, op) = (t, operation)
      · exact .idle (by rw [hopen, ho]; simp [hx]) (by grind [lockedBy])
      · exact .locked u op (by rw [hopen, ho]; simp [hx]) (hlock.trans hl)
    | restoring u op ho hk hl =>
      by_cases hx : (u, op) = (t, operation)
      · exact .idle (by rw [hopen, ho]; simp [hx]) (hlock ▸ hl)
      · exact .restoring u op (by rw [hopen, ho]; simp [hx]) hk (hlock ▸ hl)
  · have hfree : lockedBy (.closed t operation :: es) = none := by simp [lockedBy, hlock]
    cases h with
    | idle ho hl => exact .idle (by rw [hopen, ho]; rfl) (by simp [hfree])
    | locked u op ho hl =>
      obtain ⟨rfl, rfl⟩ : u = t ∧ op = operation := by simpa [hl] using hlock
      exact .idle (by rw [hopen, ho]; simp) (by simp [hfree])
    | restoring u op ho hk hl =>
      have hrefresh : operation = .refreshApplication := hl t operation hlock
      have hx : (u, op) ≠ (t, operation) := by
        rintro ⟨⟩
        rw [hrefresh] at hk
        cases hk
      exact .restoring u op (by rw [hopen, ho]; simp [hx]) hk (by simp [hfree])

namespace Marks

variable {e : Entry config}

theorem slotsOf (h : Marks F t s e) :
    FormspecWeb.Controller.slotsOf (e :: s.log) = FormspecWeb.Controller.slotsOf s.log := by
  cases h <;> rfl

theorem shownVersions (h : Marks F t s e) :
    FormspecWeb.Controller.shownVersions (e :: s.log)
      = FormspecWeb.Controller.shownVersions s.log := by
  cases h <;> rfl

theorem lockedBy (h : Marks F t s e) (hw : Wellformed F s) :
    FormspecWeb.Controller.lockedBy (e :: s.log) = FormspecWeb.Controller.lockedBy s.log := by
  cases h with
  | opened operation hkey => simp [FormspecWeb.Controller.lockedBy, hkey]
  | closed operation hkey =>
    have hne : FormspecWeb.Controller.lockedBy s.log ≠ some (t, operation) := by
      intro hheld
      simpa [hkey] using hw.key t operation hheld
    simp [FormspecWeb.Controller.lockedBy, hne]
  | _ => rfl

theorem sameTrace (h : Marks F t s e) (hw : Wellformed F s) : SameTrace s.log (e :: s.log) where
  kept _ := List.mem_cons_of_mem e
  locked := h.lockedBy hw
  invalid := by cases h <;> rfl
  acceptedOf := by cases h <;> rfl
  accepted u id result hmem := by
    rcases List.mem_cons.mp hmem with rfl | hmem
    · cases h
    · exact hmem

theorem exclusive (h : Marks F t s e) (hw : Wellformed F s) (hF : F.restoresAlone = true) :
    Exclusive (e :: s.log) := by
  have hold := hw.exclusive hF
  cases h with
  | opened operation hkey hfree halone =>
    have hne : operation ≠ .refreshApplication := by rintro rfl; cases hkey
    have hnone : openOperations s.log = [] := hold.none_open hfree (halone hF)
    refine .restoring t operation (by rw [openOperations_opened hne, hnone]) hkey ?_
    simp [FormspecWeb.Controller.lockedBy, hkey, hfree]
  | closed operation hkey =>
    exact hold.closed (.inl ⟨(Marks.closed operation hkey).lockedBy hw, hkey⟩)
  | _ => exact hold.congr rfl rfl

end Marks

/-! ## Each move keeps the state well formed -/

theorem Ascending.congr (h : Ascending s) (hshown : shownVersions s'.log = shownVersions s.log)
    (hsaved : s'.saved = s.saved) (hinvalidated : s'.invalidated = s.invalidated) :
    Ascending s' where
  sorted := hshown ▸ h.sorted
  newest draft hdraft := hshown ▸ h.newest draft (hsaved ▸ hdraft)
  blank hnone hcurrent := hshown.trans (h.blank (hsaved ▸ hnone) (hinvalidated ▸ hcurrent))

theorem Ascending.publish (h : Ascending s) (phase : Phase)
    (reason : Option ResponseActionControllerReason) : Ascending (s.publish phase reason) := by
  have hshown : shownVersions (s.publish phase reason).log
      = (s.saved.map (·.draft.version)).toList ++ shownVersions s.log := rfl
  cases hsaved : s.saved with
  | none =>
    have hsame : shownVersions (s.publish phase reason).log = shownVersions s.log := by
      simp [hshown, hsaved]
    exact h.congr hsame rfl rfl
  | some draft =>
    have hnewest := h.newest draft hsaved
    rw [hsaved] at hshown
    refine ⟨?_, ?_, fun hnone => ?_⟩
    · simpa [hshown] using ⟨hnewest, h.sorted⟩
    · intro other hother version hversion
      obtain rfl : draft = other := Option.some.inj (hsaved.symm.trans hother)
      rcases List.mem_append.mp (hshown ▸ hversion) with hv | hv
      · simp_all
      · exact hnewest version hv
    · exact absurd (hsaved.symm.trans hnone) (by simp)

theorem Ascending.store (h : Ascending s) {draft : SavedResponseDraft}
    (hshown : shownVersions s'.log = shownVersions s.log) (hsaved : s'.saved = some draft)
    (hversion : ∀ version ∈ shownVersions s.log, version ≤ draft.draft.version) : Ascending s' where
  sorted := hshown ▸ h.sorted
  newest other hother version hmem := by
    obtain rfl : draft = other := Option.some.inj (hsaved.symm.trans hother)
    exact hversion version (hshown ▸ hmem)
  blank hnone := by rw [hsaved] at hnone; cases hnone

namespace Wellformed

theorem of_slots (hw : Wellformed F s) (hframe : Frame s s') (hlog : s'.log = s.log)
    (hslots : s'.slots = s.slots) : Wellformed F s' :=
  hw.of_frame hframe (hlog ▸ .refl s.log) (by rw [hslots, hlog, hw.slots])
    (fun hF => hlog ▸ hw.exclusive hF)
    (fun hF => (hw.ascending hF).congr (by rw [hlog]) (congrArg Slots.saved hslots)
      hframe.invalidated)

theorem publish (hw : Wellformed F s) (phase : Phase)
    (reason : Option ResponseActionControllerReason) : Wellformed F (s.publish phase reason) :=
  hw.of_frame (publish_frame phase reason s)
    ⟨fun _ => List.mem_cons_of_mem _, rfl, rfl, rfl, fun _ _ _ h => by simpa [State.publish] using h⟩
    hw.slots (fun hF => (hw.exclusive hF).congr rfl rfl)
    (fun hF => (hw.ascending hF).publish phase reason)

theorem note (hw : Wellformed F s) {e : Entry config} (h : Marks F t s e) :
    Wellformed F (s.note e) :=
  hw.of_frame (note_frame e s) (h.sameTrace hw) (hw.slots.trans h.slotsOf.symm)
    (fun hF => h.exclusive hw hF)
    (fun hF => (hw.ascending hF).congr h.shownVersions rfl rfl)

theorem store (hw : Wellformed F s) (h : Stores F t s s') : Wellformed F s' := by
  have htrace : SameTrace s.log s'.log := by
    rw [h.log]
    exact ⟨fun _ => List.mem_cons_of_mem _, rfl, rfl, rfl, fun _ _ _ h => by simpa using h⟩
  obtain ⟨draft, hdraft, -, hversion⟩ := h.saved
  refine hw.of_frame h.frame htrace (by rw [h.log]; rfl) (fun hF => ?_) (fun hF => ?_)
  · rw [h.log]
    exact (hw.exclusive hF).congr rfl rfl
  · exact (hw.ascending hF).store (by rw [h.log]; rfl) hdraft (hversion hF)

theorem storeUnchecked (hw : Wellformed F s) {draft : SavedResponseDraft}
    (hversion : F.restoresAlone = true → ∀ version ∈ shownVersions s.log,
      version ≤ draft.draft.version) : Wellformed F (s.storeUnchecked t draft) := by
  have hframe : Frame s (s.storeUnchecked t draft) :=
    ⟨rfl, rfl, rfl, rfl, rfl, rfl, fun _ => rfl, rfl, Nat.le_refl _⟩
  have hslots : (s.storeUnchecked t draft).slots = slotsOf (s.storeUnchecked t draft).log := by
    have hold := hw.slots
    simp only [State.slots] at hold
    simp [State.storeUnchecked, State.slots, slotsOf, ← hold]
  refine hw.of_frame hframe
    ⟨fun _ => List.mem_cons_of_mem _, rfl, rfl, rfl, fun _ _ _ h => by simpa [State.storeUnchecked] using h⟩
    hslots (fun hF => (hw.exclusive hF).congr rfl rfl) (fun hF => ?_)
  exact (hw.ascending hF).store rfl rfl (hversion hF)

variable {operation : Operation}

theorem exclusive_opened (hw : Wellformed F s)
    (hkey : operation.busyKey.isSome = true) (hfree : lockedBy s.log = none)
    (halone : F.restoresAlone = true → operation ≠ .refreshApplication → restoreOpen s.log = false)
    (hF : F.restoresAlone = true) : Exclusive (.opened t operation :: s.log) := by
  have hlock : lockedBy (.opened t operation :: s.log) = some (t, operation) := by
    simp [lockedBy, hkey]
  have hold := hw.exclusive hF
  by_cases hrefresh : operation = .refreshApplication
  · subst hrefresh
    have honly : ∀ u op, lockedBy (.opened t .refreshApplication :: s.log) = some (u, op) →
        op = .refreshApplication := by
      intro u op hu
      simp_all
    cases hold with
    | idle ho _ => exact .idle ho honly
    | locked u op _ hl => rw [hfree] at hl; cases hl
    | restoring u op ho hk _ => exact .restoring u op ho hk honly
  · have hnone := hold.none_open hfree (halone hF hrefresh)
    exact .locked t operation (by rw [openOperations_opened hrefresh, hnone]) hlock

theorem hold (hw : Wellformed F s)
    (hoperation : operation = .restoreSavedDraft ∨ operation = .refreshApplication)
    (hfree : lockedBy s.log = none)
    (halone : F.restoresAlone = true → operation = .restoreSavedDraft → restoreOpen s.log = false) :
    Wellformed F (s.hold t operation) := by
  obtain ⟨key, hkey, htruthy⟩ : ∃ key, operation.busyKey = some key ∧ Shared.truthy key = true := by
    rcases hoperation with rfl | rfl
    · exact ⟨_, rfl, by decide⟩
    · exact ⟨_, rfl, by decide⟩
  have hlock : lockedBy (s.hold t operation).log = some (t, operation) := by
    simp [State.hold, lockedBy, hkey]
  have hnoAction : ∀ role id, operation ≠ .action role id := by
    rcases hoperation with rfl | rfl <;> intro role id h <;> cases h
  exact
    { hw with
      busy := by rw [hlock]; rfl
      key := fun u op hu => by
        obtain ⟨rfl, rfl⟩ : t = u ∧ operation = op := by simpa [hlock] using hu
        simp [hkey, htruthy]
      once := fun u id result h => hw.once u id result (by simpa [State.hold] using h)
      completed := fun id d o hd hr hc => (hw.completed id d o hd hr hc).mono
        fun _ => List.mem_cons_of_mem _
      retained := fun i r h => ⟨(hw.retained i r h).1, (hw.retained i r h).2.mono
        fun _ => List.mem_cons_of_mem _⟩
      promised := fun p π o hp hr ho => (hw.promised p π o hp hr ho).mono
        fun _ => List.mem_cons_of_mem _
      delivers := fun u role id d hu _ => by
        rw [hlock, Option.some.injEq, Prod.mk.injEq] at hu
        exact absurd hu.2 (hnoAction role id)
      exclusive := hw.exclusive_opened (by simp [hkey]) hfree fun hF hne =>
        halone hF (hoperation.resolve_right hne)
      ascending := fun hF => (hw.ascending hF).congr rfl rfl rfl }

theorem locked_closed {es : List (Entry config)}
    (hheld : lockedBy es = some (t, operation)) : lockedBy (.closed t operation :: es) = none := by
  simp [lockedBy, hheld]

theorem unhold (hw : Wellformed F s)
    (hheld : lockedBy s.log = some (t, operation)) : Wellformed F (s.unhold t operation) := by
  have hfree : lockedBy (s.unhold t operation).log = none := locked_closed hheld
  exact
    { hw with
      busy := by rw [hfree]; rfl
      key := fun u op hu => by rw [hfree] at hu; cases hu
      once := fun u id result h => hw.once u id result (by simpa [State.unhold] using h)
      completed := fun id d o hd hr hc => (hw.completed id d o hd hr hc).mono
        fun _ => List.mem_cons_of_mem _
      retained := fun i r h => ⟨(hw.retained i r h).1, (hw.retained i r h).2.mono
        fun _ => List.mem_cons_of_mem _⟩
      promised := fun p π o hp hr ho => (hw.promised p π o hp hr ho).mono
        fun _ => List.mem_cons_of_mem _
      delivers := fun u role id d hu => by rw [hfree] at hu; cases hu
      exclusive := fun hF => (hw.exclusive hF).closed (.inr hheld)
      ascending := fun hF => (hw.ascending hF).congr rfl rfl rfl }

theorem updateDelivery_some {f : Delivery → Delivery} {id key : String} {delivery : Delivery}
    (h : (s.updateDelivery id f).deliveries key = some delivery) :
    ∃ old, s.deliveries key = some old ∧ (delivery = old ∨ key = id ∧ delivery = f old) := by
  simp only [State.updateDelivery, Function.update_apply] at h
  split at h
  · rename_i hkey
    subst hkey
    obtain ⟨old, hold, rfl⟩ := Option.map_eq_some_iff.mp h
    exact ⟨old, hold, .inr ⟨rfl, rfl⟩⟩
  · exact ⟨delivery, h, .inl rfl⟩

theorem updateDelivery_none {f : Delivery → Delivery} {id key : String}
    (h : s.deliveries key = none) : (s.updateDelivery id f).deliveries key = none := by
  simp only [State.updateDelivery, Function.update_apply]
  split
  · rename_i hkey
    simp [← hkey, h]
  · exact h

section

variable (hw : Wellformed F s)
include hw

theorem update {role : ResponseActionRole} {id : String}
    {f : Delivery → Delivery} (hheld : lockedBy s.log = some (t, .action role id))
    (h : Updates s role id f) : Wellformed F (s.updateDelivery id f) :=
  { hw with
    cleared := fun hinv => ⟨(hw.cleared hinv).1, fun key =>
      updateDelivery_none ((hw.cleared hinv).2 key)⟩
    completed := fun key delivery outputs hd hrole hcompleted => by
      obtain ⟨old, hold, rfl | ⟨rfl, rfl⟩⟩ := updateDelivery_some hd
      · exact hw.completed key _ outputs hold hrole hcompleted
      · rw [h.identity] at hrole
        have hsubmit : role = .submit := (hw.delivers t role key old hheld hold).symm.trans hrole
        rcases h.completed old outputs hsubmit hcompleted with hdone | hconfirms
        · exact hw.completed key old outputs hold hrole hdone
        · exact hconfirms
    pending := fun key delivery p hd hpending => by
      obtain ⟨old, hold, rfl | ⟨rfl, rfl⟩⟩ := updateDelivery_some hd
      · exact hw.pending key _ p hold hpending
      · rw [h.identity]
        exact hw.pending key old p hold (h.pending old ▸ hpending)
    delivers := fun u r key delivery hu hd => by
      obtain ⟨old, hold, rfl | ⟨rfl, rfl⟩⟩ := updateDelivery_some hd
      · exact hw.delivers u r key _ hu hold
      · rw [h.identity]
        exact hw.delivers u r key old hu hold
    ascending := fun hF => (hw.ascending hF).congr rfl rfl rfl }

theorem release {role : ResponseActionRole} {id : String}
    (hheld : lockedBy s.log = some (t, .action role id)) : Wellformed F (s.release t role id) := by
  have hfree : lockedBy (s.release t role id).log = none := locked_closed hheld
  have hbusy : s.busy = some id := by rw [hw.busy, hheld]; rfl
  exact
    { hw with
      busy := by rw [hfree]; simp [State.release, hbusy]
      key := fun u op hu => by rw [hfree] at hu; cases hu
      once := fun u key result h => hw.once u key result (by simpa [State.release] using h)
      cleared := fun hinv => ⟨(hw.cleared hinv).1, fun key =>
        updateDelivery_none ((hw.cleared hinv).2 key)⟩
      completed := fun key delivery outputs hd hrole hcompleted => by
        obtain ⟨old, hold, rfl | ⟨rfl, rfl⟩⟩ := updateDelivery_some hd
        · exact (hw.completed key _ outputs hold hrole hcompleted).mono
            fun _ => List.mem_cons_of_mem _
        · exact (hw.completed key old outputs hold hrole hcompleted).mono
            fun _ => List.mem_cons_of_mem _
      retained := fun i r h => ⟨(hw.retained i r h).1, (hw.retained i r h).2.mono
        fun _ => List.mem_cons_of_mem _⟩
      promised := fun p π o hp hr ho => (hw.promised p π o hp hr ho).mono
        fun _ => List.mem_cons_of_mem _
      pending := fun key delivery p hd hpending => by
        obtain ⟨old, hold, rfl | ⟨rfl, rfl⟩⟩ := updateDelivery_some hd
        · exact hw.pending key _ p hold hpending
        · cases hpending
      delivers := fun u r key delivery hu => by rw [hfree] at hu; cases hu
      exclusive := fun hF => (hw.exclusive hF).closed (.inr hheld)
      ascending := fun hF => (hw.ascending hF).congr rfl rfl rfl }

theorem accept {id : String} {result : ResponseCompletionResult}
    (hcurrent : s.invalidated = false) (hopen : s.completionResult = none) :
    Wellformed F (s.accept t id result) := by
  have hnone : acceptedOf s.log = none := by
    have hcompletion := hw.completion
    rw [hopen, hcurrent] at hcompletion
    simpa using hcompletion.symm
  exact
    { hw with
      completion := by simp [State.accept, hcurrent, acceptedOf]
      confirmed := by simp [State.accept, hcurrent, acceptedOf]
      once := fun u key other h => by
        rcases List.mem_cons.mp h with h | h
        · cases h
          rfl
        · have := hw.once u key other h
          rw [hnone] at this
          cases this
      cleared := fun hinv => by
        have : s.invalidated = true := hinv
        rw [hcurrent] at this
        cases this
      completed := fun key d o hd hr hc => (hw.completed key d o hd hr hc).mono
        fun _ => List.mem_cons_of_mem _
      retained := fun i r h => ⟨(hw.retained i r h).1, (hw.retained i r h).2.mono
        fun _ => List.mem_cons_of_mem _⟩
      promised := fun p π o hp hr ho => (hw.promised p π o hp hr ho).mono
        fun _ => List.mem_cons_of_mem _
      exclusive := fun hF => (hw.exclusive hF).congr rfl rfl
      ascending := fun hF => (hw.ascending hF).congr rfl rfl rfl }

theorem settle {p : Nat} {outcome : Except Failure Outputs}
    {promise : Promise} (hpromise : s.promises p = some promise)
    (hconfirms : ∀ outputs, promise.role = .submit → outcome = .ok outputs →
      Confirms s.log promise.deliveryId outputs) : Wellformed F (s.settle p outcome) := by
  have hsettled : (s.settle p outcome).promises
      = Function.update s.promises p (some { promise with outcome := some outcome }) := by
    simp [State.settle, hpromise]
  exact
    { hw with
      promised := fun q π outputs hq hrole houtcome => by
        rw [hsettled, Function.update_apply] at hq
        split at hq
        · cases hq
          exact hconfirms outputs hrole (Option.some.inj houtcome)
        · exact hw.promised q π outputs hq hrole houtcome
      pending := fun key delivery q hd hpending => by
        obtain ⟨old, hold, hrole, hid⟩ := hw.pending key delivery q hd hpending
        rw [hsettled, Function.update_apply]
        split
        · rename_i hq
          subst hq
          obtain rfl : promise = old := Option.some.inj (hpromise.symm.trans hold)
          exact ⟨_, rfl, hrole, hid⟩
        · exact ⟨old, hold, hrole, hid⟩
      fresh := fun q hq => by
        have hnone := hw.fresh q hq
        rw [hsettled, Function.update_apply]
        split
        · rename_i hqp
          subst hqp
          rw [hpromise] at hnone
          cases hnone
        · exact hnone
      ascending := fun hF => (hw.ascending hF).congr rfl rfl rfl }

theorem keep {identity : WidgetIdentity} {result : InvocationResult}
    (hcurrent : s.invalidated = false) (hstatus : result.status = .completed)
    (hconfirms : Confirms s.log result.invocationId result.transitionBindings) :
    Wellformed F (s.keepCompleted identity result) :=
  { hw with
    retained := fun i r h => by
      obtain ⟨rfl, rfl⟩ : identity = i ∧ result = r := by simpa [State.keepCompleted] using h
      exact ⟨hstatus, hconfirms⟩
    cleared := fun hinv => by
      have : s.invalidated = true := hinv
      rw [hcurrent] at this
      cases this
    ascending := fun hF => (hw.ascending hF).congr rfl rfl rfl }

theorem invalidate : Wellformed F s.invalidate :=
  { epoch := fun h => by cases h
    busy := hw.busy
    key := hw.key
    slots := rfl
    invalid := rfl
    completion := rfl
    confirmed := rfl
    once := fun u key result h => hw.once u key result (by simpa [State.invalidate] using h)
    cleared := fun _ => ⟨rfl, fun _ => rfl⟩
    completed := fun id d o hd => by cases hd
    retained := fun i r h => by cases h
    promised := fun p π o hp hr ho => (hw.promised p π o hp hr ho).mono
      fun _ => List.mem_cons_of_mem _
    pending := fun id d p hd => by cases hd
    fresh := hw.fresh
    delivers := fun u role id d _ hd => by cases hd
    exclusive := fun hF => (hw.exclusive hF).congr rfl rfl
    ascending := fun hF =>
      { sorted := (hw.ascending hF).sorted
        newest := fun _ h => by cases h
        blank := fun _ h => by cases h } }

end
variable {identity : OperationIdentity}

variable {hashed : HashedCall}

theorem admit_some {generatedKey key : String} {delivery : Delivery}
    (h : (s.admitCall t hashed identity generatedKey).deliveries key = some delivery) :
    (key = hashed.call.deliveryId ∧ delivery.core =
        Delivery.core { admittedDelivery s hashed identity generatedKey with pending := some s.nextObject })
      ∨ key ≠ hashed.call.deliveryId
        ∧ ∃ old, s.deliveries key = some old ∧ delivery.core = old.core := by
  simp only [State.admitCall] at h
  obtain ⟨old, hold, hdelivery⟩ := Option.map_eq_some_iff.mp h
  have hcore : delivery.core = old.core := by
    rw [← hdelivery]
    split <;> rfl
  rw [Function.update_apply] at hold
  split at hold
  · rename_i hkey
    cases hold
    exact .inl ⟨hkey, hcore⟩
  · rename_i hkey
    exact .inr ⟨hkey, old, hold, hcore⟩

theorem admittedDelivery_identity (generatedKey : String) (h : Admits F t s hashed identity) :
    (admittedDelivery s hashed identity generatedKey).identity = identity
      ∧ (admittedDelivery s hashed identity generatedKey).completed = none := by
  unfold admittedDelivery
  cases hd : s.deliveries hashed.call.deliveryId with
  | none => exact ⟨rfl, rfl⟩
  | some delivery => exact h.retained delivery hd

theorem admitCall (hw : Wellformed F s) {generatedKey : String} (h : Admits F t s hashed identity) :
    Wellformed F (s.admitCall t hashed identity generatedKey) := by
  have hlock : lockedBy (s.admitCall t hashed identity generatedKey).log
      = some (t, .action hashed.call.role hashed.call.deliveryId) := rfl
  obtain ⟨hidentity, hundone⟩ := admittedDelivery_identity generatedKey h
  exact
    { hw with
      busy := by rw [hlock]; rfl
      key := fun u op hu => by
        rw [hlock, Option.some.injEq, Prod.mk.injEq] at hu
        obtain ⟨-, rfl⟩ := hu
        exact h.key
      once := fun u key result hmem => hw.once u key result (by simpa [State.admitCall] using hmem)
      cleared := fun hinv => by
        have : s.invalidated = true := hinv
        rw [h.current] at this
        cases this
      completed := fun key delivery outputs hd hrole hcompleted => by
        rcases admit_some hd with ⟨rfl, hcore⟩ | ⟨-, old, hold, hcore⟩
        · obtain ⟨-, -, -, -, hdone⟩ := core_eq hcore
          rw [hdone] at hcompleted
          rw [show _ = none from hundone] at hcompleted
          cases hcompleted
        · obtain ⟨hid, -, -, -, hdone⟩ := core_eq hcore
          exact (hw.completed key old outputs hold (hid ▸ hrole) (hdone ▸ hcompleted)).mono
            fun _ => List.mem_cons_of_mem _
      retained := fun i r hr => ⟨(hw.retained i r hr).1, (hw.retained i r hr).2.mono
        fun _ => List.mem_cons_of_mem _⟩
      promised := fun p π outputs hp hrole houtcome => by
        have hp' : Function.update s.promises s.nextObject
            (some ⟨hashed.call.role, hashed.call.deliveryId, none⟩) p = some π := hp
        rw [Function.update_apply] at hp'
        split at hp'
        · cases hp'
          cases houtcome
        · exact (hw.promised p π outputs hp' hrole houtcome).mono fun _ => List.mem_cons_of_mem _
      pending := fun key delivery p hd hpending => by
        show ∃ promise, Function.update s.promises s.nextObject _ p = some promise ∧ _
        rcases admit_some hd with ⟨rfl, hcore⟩ | ⟨-, old, hold, hcore⟩
        · obtain ⟨hid, -, hp, -, -⟩ := core_eq hcore
          obtain rfl : s.nextObject = p := Option.some.inj (hp.symm.trans hpending)
          refine ⟨_, Function.update_self .., ?_, rfl⟩
          rw [hid]
          exact (h.role.symm.trans (congrArg OperationIdentity.role hidentity.symm))
        · obtain ⟨hid, -, hp, -, -⟩ := core_eq hcore
          obtain ⟨promise, hpromise, hrole, hdid⟩ := hw.pending key old p hold (hp ▸ hpending)
          have hne : p ≠ s.nextObject := by
            rintro rfl
            rw [hw.fresh _ (Nat.le_refl _)] at hpromise
            cases hpromise
          exact ⟨promise, by rw [Function.update_of_ne hne]; exact hpromise,
            hrole.trans (by rw [hid]), hdid⟩
      fresh := fun p hp => by
        have hp' : s.nextObject + 1 ≤ p := hp
        show Function.update s.promises s.nextObject _ p = none
        rw [Function.update_of_ne (by omega)]
        exact hw.fresh p (by omega)
      delivers := fun u role key delivery hu hd => by
        rw [hlock, Option.some.injEq, Prod.mk.injEq] at hu
        obtain ⟨-, hop⟩ := hu
        cases hop
        rcases admit_some hd with ⟨-, hcore⟩ | ⟨hne, -⟩
        · rw [(core_eq hcore).1]
          exact (congrArg OperationIdentity.role hidentity).trans h.role
        · exact absurd rfl hne
      exclusive := hw.exclusive_opened rfl h.free fun hF _ => h.alone hF
      ascending := fun hF => (hw.ascending hF).congr rfl rfl rfl }

end Wellformed

theorem Move.wellformed (h : Move F t s s') (hw : Wellformed F s) : Wellformed F s' := by
  cases h with
  | quiet hframe hlog hslots => exact hw.of_slots hframe hlog hslots
  | publish phase reason => exact hw.publish phase reason
  | mark e h => exact hw.note h
  | admitCall hashed identity key h => exact hw.admitCall h
  | hold operation hoperation hfree halone => exact hw.hold hoperation hfree halone
  | unhold operation hheld => exact hw.unhold hheld
  | release role id hheld => exact hw.release hheld
  | store h => exact hw.store h
  | storeUnchecked draft _ _ _ hversion => exact hw.storeUnchecked hversion
  | learn _ hframe hlog hslots => exact hw.of_slots hframe hlog hslots
  | accept id result hcurrent _ hopen => exact hw.accept hcurrent hopen
  | settle p outcome promise hpromise hconfirms _ => exact hw.settle hpromise hconfirms
  | update role id f hheld h => exact hw.update hheld h
  | keep identity result hcurrent hstatus hconfirms => exact hw.keep hcurrent hstatus hconfirms
  | invalidate => exact hw.invalidate

theorem wellformed_initial : Wellformed F (State.initial config) where
  epoch _ := rfl
  busy := rfl
  key _ _ h := by cases h
  slots := rfl
  invalid := rfl
  completion := rfl
  confirmed := rfl
  once _ _ _ h := by cases h
  cleared h := by cases h
  completed _ _ _ h := by cases h
  retained _ _ h := by cases h
  promised _ _ _ h := by cases h
  pending _ _ _ h := by cases h
  fresh _ _ := rfl
  delivers _ _ _ _ h := by cases h
  exclusive _ := .idle rfl fun _ _ h => by cases h
  ascending _ :=
    { sorted := .nil
      newest := fun _ h => by cases h
      blank := fun _ _ => rfl }

end FormspecWeb.Controller
