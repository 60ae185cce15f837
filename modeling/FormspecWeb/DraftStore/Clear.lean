import FormspecWeb.DraftStore.Rules

/-!
# Clearing is final

What the operations of the store keep about the clears of a run: the clears begun are the
generation, those that run are the counter, and a binding of a scope that was cleared was
made by operations begun later.
-/

namespace FormspecWeb.DraftStore

open Async

def Binding.MadeAfter (ticket : Nat) (binding : Binding) : Prop :=
  binding.writers ≠ [] ∧ ∀ writer ∈ binding.writers, ticket < writer

/-- Every clear that removed the bindings of this key's scope began before the operation. -/
def MayWrite (config : HttpDraftStoreConfig) (s : StoreState) (ticket : Nat) (key : DraftKey) : Prop :=
  ∀ entry ∈ s.cleared, Registry.sameScope config.toRegistryConfig key entry.2 = .ok true → entry.1 < ticket

structure Orderly (config : HttpDraftStoreConfig) (s : StoreState) : Prop where
  generation : s.generation = s.clears.length
  clearing : s.clearing = s.active.length
  nodup : s.active.Nodup
  sorted : s.settling.Pairwise (· < ·)
  clears_lt : ∀ n ∈ s.clears, n < s.owners.length
  active_lt : ∀ n ∈ s.active, n < s.owners.length
  settling_lt : ∀ n ∈ s.settling, n < s.owners.length
  cleared_clears : ∀ entry ∈ s.cleared, entry.1 ∈ s.clears
  deleted_cleared : ∀ entry ∈ s.deleted, entry ∈ s.cleared
  pending_after : ∀ n ∈ s.pendingSaves, ∀ entry ∈ s.cleared, entry.1 < n
  settling_after : ∀ n ∈ s.settling, ∀ entry ∈ s.cleared, entry.1 < n
  settled : s.cleared ≠ [] → s.registry.restored = true
    ∧ (config.resumeMetadata = true → s.registry.Written config.toRegistryConfig)
  clean : ∀ entry ∈ s.cleared, ∀ binding ∈ s.registry.entries,
    Registry.sameScope config.toRegistryConfig binding.key entry.2 = .ok true →
      binding.MadeAfter entry.1

/-- What an operation of thread `u` relies on: its marks stay, and while it clears no save is
added. -/
structure Rely (u : Nat) (s s' : StoreState) : Prop where
  owners : s.owners <+: s'.owners
  clears : s.clears <+: s'.clears
  cleared : ∀ entry ∈ s.cleared, entry ∈ s'.cleared
  pending : ∀ n, s.owners[n]? = some u → n ∈ s.pendingSaves → n ∈ s'.pendingSaves
  settling : ∀ n, s.owners[n]? = some u → n ∈ s.settling → n ∈ s'.settling
  active : ∀ n, s.owners[n]? = some u → n ∈ s.active → n ∈ s'.active
  drained : ∀ n, s.owners[n]? = some u → n ∈ s.active →
    ∀ save ∈ s'.pendingSaves, save ∈ s.pendingSaves

/-- What a write of thread `t` does. -/
structure Move (config : HttpDraftStoreConfig) (t : Nat) (s s' : StoreState) : Prop where
  orderly : Orderly config s'
  others : ∀ u, u ≠ t → Rely u s s'

/-- A create of an initialization is answered successfully only while the clears of its scope
that removed their bindings began before it. -/
def answersInTime (config : HttpDraftStoreConfig) (s : StoreState) : (l : Label) → Rep l → Bool
  | .reply ticket (.initialization key) _, .ok _ =>
    s.cleared.all fun entry =>
      decide (Registry.sameScope config.toRegistryConfig key entry.2 = .ok true → entry.1 < ticket)
  | _, _ => true

/-- Runs whose initializations are answered before the bindings of their scope are cleared. -/
def promptInitialization (config : HttpDraftStoreConfig) : Discipline StoreState StoreOp Rep where
  begins _ _ := True
  resumes s l answer := answersInTime config s l answer = true

/-- The contract of thread `t`. -/
abbrev keeping (config : HttpDraftStoreConfig) (t : Nat) : Contract StoreState Rep where
  inv := Orderly config
  rely := Rely t
  guar := Move config t
  admits s l answer := (promptInitialization config).resumes s l answer
    ∧ ∃ arrival, accept s l arrival = some answer

variable {config : HttpDraftStoreConfig} {t u n : Nat} {key : DraftKey} {s s' s'' : StoreState}
  {after : Registry} {α β : Type} {P : StoreState → Prop}

theorem Rely.of_eq (howners : s'.owners = s.owners) (hclears : s'.clears = s.clears)
    (hcleared : s'.cleared = s.cleared) (hpending : s'.pendingSaves = s.pendingSaves)
    (hsettling : s'.settling = s.settling) (hactive : s'.active = s.active) : Rely u s s' where
  owners := howners ▸ List.prefix_rfl
  clears := hclears ▸ List.prefix_rfl
  cleared _ h := hcleared ▸ h
  pending _ _ h := hpending ▸ h
  settling _ _ h := hsettling ▸ h
  active _ _ h := hactive ▸ h
  drained _ _ _ _ h := hpending ▸ h

theorem Rely.refl (u : Nat) (s : StoreState) : Rely u s s := .of_eq rfl rfl rfl rfl rfl rfl

theorem Rely.trans (h : Rely u s s') (h' : Rely u s' s'') : Rely u s s'' where
  owners := h.owners.trans h'.owners
  clears := h.clears.trans h'.clears
  cleared entry hentry := h'.cleared entry (h.cleared entry hentry)
  pending n hn hmem := h'.pending n (owner_mono h.owners hn) (h.pending n hn hmem)
  settling n hn hmem := h'.settling n (owner_mono h.owners hn) (h.settling n hn hmem)
  active n hn hmem := h'.active n (owner_mono h.owners hn) (h.active n hn hmem)
  drained n hn hmem save hsave := h.drained n hn hmem save
    (h'.drained n (owner_mono h.owners hn) (h.active n hn hmem) save hsave)

/-! ## Writes -/

def StoreState.core (s : StoreState) : StoreState :=
  { s with
    retirementGeneration := 0
    requests := []
    answers := []
    stored := []
    creating := []
    created := []
    saved := [] }

theorem Orderly.of_core (h : Orderly config s) (hcore : s'.core = s.core) : Orderly config s' := by
  have hfound : Orderly config s.core := { h with }
  rw [← hcore] at hfound
  exact { hfound with }

theorem Rely.of_core (hcore : s'.core = s.core) : Rely u s s' := by
  have hfound : Rely u s.core s'.core := hcore ▸ Rely.refl u s.core
  exact { hfound with }

theorem Move.of_core (h : Orderly config s) (hcore : s'.core = s.core) : Move config t s s' :=
  ⟨h.of_core hcore, fun _ _ => .of_core hcore⟩

theorem Rely.setRegistry : Rely u s (s.setRegistry after) := .of_eq rfl rfl rfl rfl rfl rfl

theorem Orderly.setRegistry (h : Orderly config s) {writes : Nat → DraftKey → Prop}
    (htidy : s.registry.restored = true →
      Registry.Tidy config.toRegistryConfig writes s.registry after)
    (hmay : ∀ writer key, writes writer key → MayWrite config s writer key) :
    Orderly config (s.setRegistry after) where
  __ := h
  settled hcleared := by
    obtain ⟨hrestored, hwritten⟩ := h.settled hcleared
    have hafter := htidy hrestored
    exact ⟨hafter.restored, fun hmetadata => hafter.written hmetadata (hwritten hmetadata)⟩
  clean entry hentry binding hbinding hscope := by
    have hrestored := (h.settled (List.ne_nil_of_mem hentry)).1
    rcases (htidy hrestored).entries binding hbinding with hold | ⟨hne, hwriters⟩
    · exact h.clean entry hentry binding hold hscope
    · refine ⟨hne, fun writer hwriter => ?_⟩
      rcases hwriters writer hwriter with ⟨old, hold, hkey, hwrote⟩ | hwrites
      · exact (h.clean entry hentry old hold (hkey ▸ hscope)).2 writer hwrote
      · exact hmay writer binding.key hwrites entry hentry hscope

structure Newest (t n : Nat) (s : StoreState) : Prop where
  owner : s.owners[n]? = some t
  clears : ∀ m ∈ s.clears, m < n
  active : ∀ m ∈ s.active, m < n
  settling : ∀ m ∈ s.settling, m < n

section

variable (h : Orderly config s)
include h

theorem Orderly.begin :
    Move config t s (s.begin t) ∧ Newest t s.owners.length (s.begin t) := by
  refine ⟨⟨{ h with
      clears_lt := fun m hm => lt_of_begin (h.clears_lt m hm)
      active_lt := fun m hm => lt_of_begin (h.active_lt m hm)
      settling_lt := fun m hm => lt_of_begin (h.settling_lt m hm) }, fun u _ => ?_⟩,
    ⟨owner_of_begin, h.clears_lt, h.active_lt, h.settling_lt⟩⟩
  exact { Rely.refl u s with owners := List.prefix_append _ _ }

theorem Move.addSave (hnew : Newest t n s) (hclearing : s.clearing = 0) :
    Move config t s { s with pendingSaves := s.pendingSaves ++ [n] } := by
  have hidle : s.active = [] := List.eq_nil_of_length_eq_zero (h.clearing.symm.trans hclearing)
  refine ⟨{ h with pending_after := fun m hm entry hentry => ?_ }, fun u _ => ?_⟩
  · rcases List.mem_append.mp hm with hold | hn
    · exact h.pending_after m hold entry hentry
    · rw [List.mem_singleton.mp hn]
      exact hnew.clears entry.1 (h.cleared_clears entry hentry)
  · exact { Rely.refl u s with
      pending := fun m _ hm => List.mem_append_left _ hm
      drained := fun m _ hm => by rw [hidle] at hm; cases hm }

theorem Move.removeSave (hn : s.owners[n]? = some t) :
    Move config t s { s with pendingSaves := s.pendingSaves.filter (· != n) } := by
  refine ⟨{ h with pending_after := fun m hm => ?_ }, fun u hne => ?_⟩
  · exact h.pending_after m (List.mem_filter.mp hm).1
  · exact { Rely.refl u s with
      pending := fun m hm hmem => List.mem_filter.mpr ⟨hmem, by simpa using owner_ne hn hm hne⟩
      drained := fun m _ _ save hsave => (List.mem_filter.mp hsave).1 }

theorem Move.beginClear (hnew : Newest t n s) :
    Move config t s (beginClear n s) := by
  have hlt : n < s.owners.length := owner_lt hnew.owner
  refine ⟨{ h with
    generation := ?_
    clearing := ?_
    nodup := ?_
    clears_lt := fun m hm => ?_
    active_lt := fun m hm => ?_
    cleared_clears := fun entry hentry => List.mem_append_left _ (h.cleared_clears entry hentry) },
    fun u _ => ?_⟩
  · show s.generation + 1 = (s.clears ++ [n]).length
    rw [List.length_append, h.generation, List.length_singleton]
  · show s.clearing + 1 = (s.active ++ [n]).length
    rw [List.length_append, h.clearing, List.length_singleton]
  · refine List.nodup_append.mpr ⟨h.nodup, List.pairwise_singleton _ n, fun m hm k hk => ?_⟩
    rw [List.mem_singleton.mp hk]
    exact Nat.ne_of_lt (hnew.active m hm)
  · rcases List.mem_append.mp hm with hold | hn
    · exact h.clears_lt m hold
    · exact List.mem_singleton.mp hn ▸ hlt
  · rcases List.mem_append.mp hm with hold | hn
    · exact h.active_lt m hold
    · exact List.mem_singleton.mp hn ▸ hlt
  · exact { Rely.refl u s with
      clears := List.prefix_append _ _
      active := fun m _ hm => List.mem_append_left _ hm }

theorem Move.endClear (hn : s.owners[n]? = some t) (hactive : n ∈ s.active) :
    Move config t s (endClear n s) := by
  refine ⟨{ h with clearing := ?_, nodup := h.nodup.filter _, active_lt := fun m hm => ?_ },
    fun u hne => ?_⟩
  · show s.clearing - 1 = (s.active.filter (· != n)).length
    rw [← h.nodup.erase_eq_filter, List.length_erase_of_mem hactive, h.clearing]
  · exact h.active_lt m (List.mem_filter.mp hm).1
  · exact { Rely.refl u s with
      active := fun m hm hmem => List.mem_filter.mpr ⟨hmem, by simpa using owner_ne hn hm hne⟩ }

theorem Move.addSettling (hn : s.owners[n]? = some t)
    (hlast : ∀ m ∈ s.settling, m < n) (hcleared : ∀ entry ∈ s.cleared, entry.1 < n) :
    Move config t s { s with settling := s.settling ++ [n] } := by
  refine ⟨{ h with
    sorted := ?_
    settling_lt := fun m hm => ?_
    settling_after := fun m hm => ?_ }, fun u _ => ?_⟩
  · refine List.pairwise_append.mpr ⟨h.sorted, List.pairwise_singleton _ n, fun m hm k hk => ?_⟩
    rw [List.mem_singleton.mp hk]
    exact hlast m hm
  · rcases List.mem_append.mp hm with hold | hmem
    · exact h.settling_lt m hold
    · rw [List.mem_singleton.mp hmem]
      exact owner_lt hn
  · rcases List.mem_append.mp hm with hold | hmem
    · exact h.settling_after m hold
    · exact List.mem_singleton.mp hmem ▸ hcleared
  · exact { Rely.refl u s with settling := fun m _ hm => List.mem_append_left _ hm }

theorem Move.removeSettling (hn : s.owners[n]? = some t) :
    Move config t s { s with settling := s.settling.filter (· != n) } := by
  refine ⟨{ h with
    sorted := h.sorted.filter _
    settling_lt := fun m hm => h.settling_lt m (List.mem_filter.mp hm).1
    settling_after := fun m hm => h.settling_after m (List.mem_filter.mp hm).1 }, fun u hne => ?_⟩
  exact { Rely.refl u s with
    settling := fun m hm hmem => List.mem_filter.mpr ⟨hmem, by simpa using owner_ne hn hm hne⟩ }

theorem Move.addCleared (hclears : n ∈ s.clears)
    (hpending : s.pendingSaves = []) (hsettling : ∀ m ∈ s.settling, n < m)
    (hrestored : s.registry.restored = true)
    (hwritten : config.resumeMetadata = true → s.registry.Written config.toRegistryConfig)
    (hempty : ∀ binding ∈ s.registry.entries,
      Registry.sameScope config.toRegistryConfig binding.key key ≠ .ok true) :
    Move config t s { s with cleared := s.cleared ++ [(n, key)] } := by
  refine ⟨{ h with
    cleared_clears := fun entry hentry => ?_
    deleted_cleared := fun entry hentry => List.mem_append_left _ (h.deleted_cleared entry hentry)
    pending_after := fun m hm => by rw [hpending] at hm; cases hm
    settling_after := fun m hm entry hentry => ?_
    settled := fun _ => ⟨hrestored, hwritten⟩
    clean := fun entry hentry binding hbinding hscope => ?_ }, fun u _ => ?_⟩
  · rcases List.mem_append.mp hentry with hold | hnew
    · exact h.cleared_clears entry hold
    · rw [List.mem_singleton.mp hnew]
      exact hclears
  · rcases List.mem_append.mp hentry with hold | hnew
    · exact h.settling_after m hm entry hold
    · rw [List.mem_singleton.mp hnew]
      exact hsettling m hm
  · rcases List.mem_append.mp hentry with hold | hnew
    · exact h.clean entry hold binding hbinding hscope
    · rw [List.mem_singleton.mp hnew] at hscope
      exact absurd hscope (hempty binding hbinding)
  · exact { Rely.refl u s with cleared := fun entry hentry => List.mem_append_left _ hentry }

theorem Move.addDeleted (hcleared : (n, key) ∈ s.cleared) :
    Move config t s { s with deleted := s.deleted ++ [(n, key)] } := by
  refine ⟨{ h with deleted_cleared := fun entry hentry => ?_ }, fun u _ => { Rely.refl u s with }⟩
  rcases List.mem_append.mp hentry with hold | hnew
  · exact h.deleted_cleared entry hold
  · rw [List.mem_singleton.mp hnew]
    exact hcleared

end

end FormspecWeb.DraftStore
