import FormspecWeb.DraftStore.Clear
import FormspecWeb.DraftStore.RoundTrip

/-!
# Every run keeps its clears

The programs of the store keep the clears of a run orderly, each followed from one await to
the next, and what that says of a deletion that resolved.
-/

namespace FormspecWeb.DraftStore

open Shared Async

variable {config : HttpDraftStoreConfig} {t n : Nat} {key : DraftKey} {s : StoreState} {α β : Type}
  {P : StoreState → Prop}

theorem onRegistry_keeps {f : MetadataStorage → Registry → Except DraftStoreError α × Registry}
    (writes : Nat → DraftKey → Prop) (h : Orderly config s)
    (htidy : ∀ storage, s.registry.restored = true →
      Registry.Tidy config.toRegistryConfig writes s.registry (f storage s.registry).2)
    (hmay : ∀ writer key, writes writer key → MayWrite config s writer key) :
    Safe (keeping config t) (onRegistry f)
      (fun result s' => Orderly config s' ∧ ∃ storage, s' = s.setRegistry (f storage s.registry).2
        ∧ result = (f storage s.registry).1) s := by
  refine onRegistry_safe fun storage => ?_
  have hafter := h.setRegistry (htidy storage) hmay
  exact ⟨⟨hafter, fun u _ => .setRegistry⟩, hafter, storage, rfl, rfl⟩

theorem getBinding_keeps (h : Orderly config s) :
    Safe (keeping config t) (getBinding config key)
      (fun _ s' => Orderly config s' ∧ ∃ after, s' = s.setRegistry after) s :=
  (onRegistry_keeps (fun _ _ => False) h (fun _ hrestored => Registry.get_tidy hrestored key)
    fun _ _ hwrites => hwrites.elim).mono fun _ _ ⟨hafter, _, heq, _⟩ => ⟨hafter, _, heq⟩

variable {snapshot : DraftBindingSnapshot}

theorem putBinding_keeps (h : Orderly config s) (hmay : MayWrite config s n key) :
    Safe (keeping config t) (putBinding config n key snapshot)
      (fun _ s' => Orderly config s' ∧ ∃ after, s' = s.setRegistry after) s := by
  refine (onRegistry_keeps (fun writer found => writer = n ∧ found = key) h
    (fun _ hrestored => Registry.put_tidy hrestored ⟨rfl, rfl⟩ snapshot) ?_).mono
    fun _ _ ⟨hafter, _, heq, _⟩ => ⟨hafter, _, heq⟩
  rintro _ _ ⟨rfl, rfl⟩
  exact hmay

theorem deleteBinding_keeps (h : Orderly config s) :
    Safe (keeping config t) (deleteBinding config key)
      (fun result s' => Orderly config s' ∧ ∃ storage,
        s' = s.setRegistry (s.registry.delete config.toRegistryConfig storage key).2
          ∧ result = (s.registry.delete config.toRegistryConfig storage key).1) s :=
  onRegistry_keeps (fun _ _ => False) h
    (fun _ hrestored => Registry.delete_tidy hrestored key) fun _ _ hwrites => hwrites.elim

/-! ## Reads -/

/-- What a read knows of the clears: those begun before its generation began before it. -/
structure Reading (n generation : Nat) (s : StoreState) : Prop where
  le : generation ≤ s.clears.length
  before : ∀ m ∈ s.clears.take generation, m < n

variable {generation : Nat}

theorem reading_stable : Stable (keeping config t) (Reading n generation) := by
  intro s s' hs hrely _
  obtain ⟨rest, hrest⟩ := hrely.clears
  refine ⟨?_, fun m hm => hs.before m ?_⟩
  · rw [← hrest, List.length_append]
    exact Nat.le_add_right_of_le hs.le
  · rwa [← hrest, List.take_append_of_le_length hs.le] at hm

theorem Reading.setRegistry (hs : Reading n generation s) (after : Registry) :
    Reading n generation (s.setRegistry after) := ⟨hs.le, hs.before⟩

theorem Reading.mayWrite (hs : Reading n generation s) (h : Orderly config s)
    (hgeneration : s.generation = generation) : MayWrite config s n key := by
  intro entry hentry _
  refine hs.before entry.1 ?_
  rw [← hgeneration, h.generation, List.take_length]
  exact h.cleared_clears entry hentry

variable {qualified : Bool}

theorem qualifyView_keeps {view : DraftView} (hP : Stable (keeping config t) P) (hs : P s) :
    Safe (keeping config t) (qualifyView qualified view) (fun _ s' => Orderly config s' ∧ P s') s := by
  unfold qualifyView
  split
  · exact awaiting_safe hP hs fun result s' hinv hs' _ => ⟨hinv, hs'⟩
  · exact awaiting_safe hP hs fun _ s' hinv hs' _ => ⟨hinv, hs'⟩

theorem currentBinding_keeps {selects : Bool} {previous : Option DraftBindingSnapshot}
    (h : Orderly config s) :
    Safe (keeping config t) (currentBinding config key selects previous)
      (fun _ s' => Orderly config s' ∧ ∃ after, s' = s.setRegistry after) s := by
  unfold currentBinding
  split
  · exact getBinding_keeps h
  · exact Safe.pure ⟨h, s.registry, rfl⟩

theorem readView_keeps {selection : Option OwnedDraftResumeSelection}
    {previous : Option DraftBindingSnapshot} {binding : DraftBindingSnapshot}
    (hs : Reading n generation s) :
    Safe (keeping config t) (readView config n key qualified selection previous binding generation)
      (fun _ s' => Orderly config s' ∧ Reading n generation s') s := by
  have hcurrent := readCurrent_guards generation
  refine Safe.bind (resolveAnonymousSessionToken_safe reading_stable hs) ?_ fun _ _ hs => hs
  rintro token s₁ ⟨h₁, hs₁⟩
  refine guard_safe hcurrent (fun _ => ?_) fun _ => ⟨h₁, hs₁⟩
  refine Safe.bind (requestJson_safe reading_stable reading_stable
    (fun s h hs => ⟨Move.of_core h rfl, h.of_core rfl, hs.1, hs.2⟩) hcurrent h₁ hs₁) ?_
    fun _ _ ⟨hinv, hor, _⟩ => ⟨hinv, hor.elim id id⟩
  rintro view s₂ ⟨h₂, hor, -⟩
  have hs₂ : Reading n generation s₂ := hor.elim id id
  refine guard_safe hcurrent (fun _ => ?_) fun _ => ⟨h₂, hs₂⟩
  refine guard_safe (ensure_guards _ _) (fun _ => ?_) fun _ => ⟨h₂, hs₂⟩
  refine guard_safe (ensure_guards _ _) (fun _ => ?_) fun _ => ⟨h₂, hs₂⟩
  refine awaiting_safe reading_stable hs₂ fun validation s₃ h₃ hs₃ _ => ?_
  refine Safe.check (fun isCanonical _ => ?_) fun _ _ => ⟨h₃, hs₃⟩
  refine guard_safe (ensure_guards _ _) (fun _ => ?_) fun _ => ⟨h₃, hs₃⟩
  refine guard_safe (ensure_guards _ _) (fun _ => ?_) fun _ => ⟨h₃, hs₃⟩
  refine guard_safe (ensure_guards _ _) (fun _ => ?_) fun _ => ⟨h₃, hs₃⟩
  refine guard_safe hcurrent (fun _ => ?_) fun _ => ⟨h₃, hs₃⟩
  refine Safe.bind (qualifyView_keeps reading_stable hs₃) ?_ fun _ _ hs => hs
  rintro result s₄ ⟨h₄, hs₄⟩
  -- From here on the generation is the current one up to the write.
  refine guard_safe hcurrent (fun hgeneration => ?_) fun _ => ⟨h₄, hs₄⟩
  refine Safe.bind (currentBinding_keeps h₄) ?_ fun _ _ ⟨hinv, after, heq⟩ =>
    ⟨hinv, heq ▸ hs₄.setRegistry _⟩
  rintro current _ ⟨h₅, after, rfl⟩
  have hs₅ := hs₄.setRegistry after
  refine guard_safe (ensure_guards _ _) (fun _ => ?_) fun _ => ⟨h₅, hs₅⟩
  have hmay : MayWrite config (s₄.setRegistry after) n key := hs₅.mayWrite h₅ hgeneration
  refine Safe.bind (putBinding_keeps h₅ hmay) ?_ fun _ _ ⟨hinv, after', heq⟩ => ⟨hinv, heq ▸ hs₅.setRegistry _⟩
  rintro ⟨⟩ _ ⟨h₆, after', rfl⟩
  exact Safe.pure ⟨h₆, hs₅.setRegistry _⟩

theorem recoverRead_keeps {error : DraftStoreError} (h : Orderly config s) :
    Safe (keeping config t) (recoverRead config key qualified generation error)
      (fun _ _ => True) s := by
  refine guard_safe (readCurrent_guards generation) (fun _ => ?_) fun _ => trivial
  split
  · exact Safe.bind (deleteBinding_keeps h) (fun _ _ _ => Safe.pure trivial) fun _ _ _ => trivial
  · exact Safe.throw trivial

theorem read_keeps {selection : Option OwnedDraftResumeSelection} (h : Orderly config s) :
    Safe (keeping config t) (read config t key qualified selection) (fun _ _ => True) s := by
  obtain ⟨hmove, hnew⟩ := h.begin (t := t)
  refine takeTicket_safe hmove (Safe.get ?_)
  have h₁ := hmove.orderly
  have hs₁ : Reading s.owners.length (s.begin t).generation (s.begin t) :=
    ⟨Nat.le_of_eq h₁.generation, fun m hm => hnew.clears m (List.mem_of_mem_take hm)⟩
  refine guard_safe (readCurrent_guards _) (fun _ => ?_) fun _ => trivial
  refine Safe.bind (getBinding_keeps h₁) ?_ fun _ _ _ => trivial
  rintro previous _ ⟨h₂, after, rfl⟩
  have hs₂ := hs₁.setRegistry after
  split
  · exact failed_safe trivial
  split
  · exact failed_safe trivial
  split
  · exact Safe.pure trivial
  · exact Safe.tryCatch (readView_keeps hs₂) (fun _ _ _ => trivial)
      fun _ _ ⟨hinv, _⟩ => recoverRead_keeps hinv

/-! ## Saves -/

structure Saving (t n : Nat) (s : StoreState) : Prop where
  owner : s.owners[n]? = some t
  pending : n ∈ s.pendingSaves

theorem saving_stable : Stable (keeping config t) (Saving t n) := fun _ _ hs hrely _ =>
  ⟨owner_mono hrely.owners hs.owner, hrely.pending n hs.owner hs.pending⟩

theorem Saving.mayWrite (hs : Saving t n s) (h : Orderly config s) : MayWrite config s n key :=
  fun entry hentry _ => h.pending_after n hs.pending entry hentry

theorem Saving.put (hs : Saving t n s) (h : Orderly config s) :
    Safe (keeping config t) (putBinding config n key snapshot)
      (fun _ s' => Orderly config s' ∧ Saving t n s') s :=
  (putBinding_keeps h (hs.mayWrite h)).mono fun _ _ ⟨hinv, _, heq⟩ =>
    ⟨hinv, heq ▸ ⟨hs.owner, hs.pending⟩⟩

theorem Saving.request {request : DraftRequest} (hs : Saving t n s)
    (h : Orderly config s) :
    Safe (keeping config t)
      (requestJson n .save request (saveCurrent generation) (·.assertBeforeDispatch))
      (fun _ s' => Orderly config s' ∧ Saving t n s') s :=
  (requestJson_safe saving_stable saving_stable
    (fun _ h hs => ⟨Move.of_core h rfl, h.of_core rfl, hs.owner, hs.pending⟩)
    (saveCurrent_guards generation) h hs).mono fun _ _ ⟨hinv, hor, _⟩ => ⟨hinv, hor.elim id id⟩

theorem bindCreated_keeps (h : Orderly config s) (hmay : MayWrite config s n key) :
    Safe (keeping config t) (bindCreated config n key snapshot)
      (fun _ s' => Orderly config s' ∧ s'.owners = s.owners ∧ s'.pendingSaves = s.pendingSaves) s := by
  refine Safe.ensuring (putBinding_keeps h hmay) fun _ s' hpost => ?_
  obtain ⟨hinv, after, rfl⟩ := hpost
  exact ⟨Move.of_core hinv rfl, hinv.of_core rfl, rfl, rfl⟩

variable {response : Value}

theorem createDraft_keeps {token : Option String}
    (h : Orderly config s) (hs : Saving t n s) :
    Safe (keeping config t) (createDraft config n key response token generation)
      (fun _ s' => Orderly config s' ∧ Saving t n s') s := by
  refine Safe.check (fun formId _ => ?_) fun _ _ => ⟨h, hs⟩
  refine Safe.bind (hs.request h) ?_ fun _ _ hs => hs
  rintro draft s₁ ⟨h₁, hs₁⟩
  refine guard_safe (saveCurrent_guards generation) (fun _ => ?_) fun _ => ⟨h₁, hs₁⟩
  refine (bindCreated_keeps h₁ (hs₁.mayWrite h₁)).mono fun _ s' ⟨hinv, howners, hpending⟩ => ?_
  exact ⟨hinv, howners ▸ hs₁.owner, hpending ▸ hs₁.pending⟩

theorem updateDraft_keeps {existing : DraftBindingSnapshot}
    {token : Option String} (h : Orderly config s) (hs : Saving t n s) :
    Safe (keeping config t) (updateDraft config n key existing response token generation)
      (fun _ s' => Orderly config s' ∧ Saving t n s') s := by
  refine Safe.bind (hs.request h) ?_ fun _ _ hs => hs
  rintro update s₁ ⟨h₁, hs₁⟩
  exact guard_safe (saveCurrent_guards generation) (fun _ => hs₁.put h₁) fun _ => ⟨h₁, hs₁⟩

theorem saveUnbound_keeps (h : Orderly config s)
    (hs : Saving t n s) :
    Safe (keeping config t) (saveUnbound config n key response generation)
      (fun _ s' => Orderly config s' ∧ Saving t n s') s := by
  unfold saveUnbound
  split
  · refine Safe.bind (anonymousToken_safe saving_stable h hs) ?_ fun _ _ hs => hs
    rintro token s₁ ⟨h₁, hs₁⟩
    exact guard_safe (saveCurrent_guards _) (fun _ => failed_safe ⟨h₁, hs₁⟩) fun _ => ⟨h₁, hs₁⟩
  · refine whileCreating_safe (R := fun _ s' => Orderly config s' ∧ Saving t n s')
      (Move.of_core h rfl) ?_ fun _ s' ⟨hinv, hsaving⟩ =>
        ⟨Move.of_core hinv rfl, hinv.of_core rfl, hsaving.owner, hsaving.pending⟩
    refine Safe.bind (anonymousToken_safe saving_stable (h.of_core rfl) ⟨hs.owner, hs.pending⟩) ?_
      fun _ _ hs => hs
    rintro token s₂ ⟨h₂, hs₂⟩
    exact guard_safe (saveCurrent_guards _) (fun _ => createDraft_keeps h₂ hs₂) fun _ => ⟨h₂, hs₂⟩

theorem saveOnce_keeps (h : Orderly config s) (hs : Saving t n s) :
    Safe (keeping config t) (saveOnce config n key response)
      (fun _ s' => Orderly config s' ∧ Saving t n s') s := by
  refine Safe.get (Safe.bind (getBinding_keeps h) ?_ fun _ _ ⟨hinv, after, heq⟩ =>
    ⟨hinv, heq ▸ ⟨hs.owner, hs.pending⟩⟩)
  rintro existing _ ⟨h₁, after, rfl⟩
  have hs₁ : Saving t n (s.setRegistry after) := ⟨hs.owner, hs.pending⟩
  cases existing with
  | none => exact saveUnbound_keeps h₁ hs₁
  | some existing =>
    refine Safe.bind (anonymousToken_safe saving_stable h₁ hs₁) ?_ fun _ _ hs => hs
    rintro token s₂ ⟨h₂, hs₂⟩
    exact guard_safe (saveCurrent_guards _) (fun _ => updateDraft_keeps h₂ hs₂) fun _ => ⟨h₂, hs₂⟩

theorem save_keeps (h : Orderly config s) :
    Safe (keeping config t) (save config t key response) (fun _ _ => True) s := by
  obtain ⟨hmove, hnew⟩ := h.begin (t := t)
  refine takeTicket_safe hmove (Safe.get ?_)
  split
  · exact failed_safe trivial
  · rename_i hclearing
    have hadd := Move.addSave hmove.orderly hnew (by simpa using hclearing)
    refine Safe.modify hadd (Safe.bind (P := fun _ s' => Orderly config s') ?_ ?_ fun _ _ _ => trivial)
    · refine Safe.ensuring (saveOnce_keeps hadd.orderly
        ⟨hnew.owner, List.mem_append_right _ List.mem_cons_self⟩) fun _ s' ⟨hinv, hsaving⟩ => ?_
      have hremove := Move.removeSave hinv hsaving.owner
      exact ⟨hremove, hremove.orderly⟩
    · intro _ s' hinv
      exact ⟨Move.of_core hinv rfl, trivial⟩

theorem initializeOnce_keeps {formVersionId : Option String} (h : Orderly config s) :
    Safe (keeping config t) (initializeOnce config n key formVersionId)
      (fun result s' => Orderly config s' ∧ (∀ draft, result = .ok draft → MayWrite config s' n key))
      s := by
  have hstable : Stable (keeping config t) fun _ => True := fun _ _ _ _ _ => trivial
  refine Safe.check (fun formId _ => ?_) fun _ _ => ⟨h, fun _ h => by cases h⟩
  refine Safe.bind (anonymousToken_safe hstable h trivial) ?_ fun _ _ hs => ⟨hs.1, fun _ h => by cases h⟩
  rintro token s₁ ⟨h₁, -⟩
  refine Safe.ask fun callbacks => ?_
  refine (requestJson_safe hstable hstable
    (fun _ h _ => ⟨Move.of_core h rfl, h.of_core rfl, trivial⟩) unguarded_guards h₁ trivial).mono ?_
  rintro result s₂ ⟨h₂, -, hanswer⟩
  refine ⟨h₂, fun draft hdraft entry hentry hscope => ?_⟩
  obtain ⟨-, -, hadmits, -⟩ := hanswer draft hdraft
  have hall := List.all_eq_true.mp hadmits entry hentry
  simpa [hscope] using hall

theorem initializeDraft_keeps {formVersionId : Option String} (h : Orderly config s) :
    Safe (keeping config t) (initializeDraft config t key formVersionId) (fun _ _ => True) s := by
  obtain ⟨hmove, -⟩ := h.begin (t := t)
  refine takeTicket_safe hmove (Safe.bind (getBinding_keeps hmove.orderly) ?_ fun _ _ _ => trivial)
  rintro existing _ ⟨h₁, after, rfl⟩
  cases existing with
  | some existing => exact Safe.pure trivial
  | none =>
    refine whileCreating_safe (R := fun _ s' => Orderly config s') (Move.of_core h₁ rfl) ?_
      fun _ s' hinv => ⟨Move.of_core hinv rfl, trivial⟩
    refine Safe.bind (initializeOnce_keeps (h₁.of_core rfl)) ?_ fun _ _ hs => hs.1
    rintro draft s₂ ⟨h₂, hmay⟩
    refine Safe.bind (bindCreated_keeps h₂ (hmay draft rfl)) ?_ fun _ _ hs => hs.1
    rintro ⟨⟩ s₃ ⟨h₃, -⟩
    exact Safe.pure h₃

/-! ## Clears -/

structure Clearing (t n : Nat) (s : StoreState) : Prop where
  owner : s.owners[n]? = some t
  active : n ∈ s.active
  clears : n ∈ s.clears

theorem Clearing.rely {s' : StoreState} (hs : Clearing t n s) (hrely : Rely t s s') : Clearing t n s' :=
  ⟨owner_mono hrely.owners hs.owner, hrely.active n hs.owner hs.active,
    hrely.clears.subset hs.clears⟩

structure Waiting (t n : Nat) (saves : List Nat) (s : StoreState) : Prop extends Clearing t n s where
  settling : n ∈ s.settling
  drained : ∀ save ∈ s.pendingSaves, save ∈ saves

theorem waiting_stable {saves : List Nat} : Stable (keeping config t) (Waiting t n saves) :=
  fun _ _ hs hrely _ => {
    hs.toClearing.rely hrely with
    settling := hrely.settling n hs.owner hs.settling
    drained := fun save hsave => hs.drained save (hrely.drained n hs.owner hs.active save hsave) }

/-- A clear has waited: no save is pending, and it is the first of those that waited. -/
structure Drained (t n : Nat) (s : StoreState) : Prop extends Clearing t n s where
  idle : s.pendingSaves = []
  first : ∀ m ∈ s.settling, n < m
  last : ∀ entry ∈ s.cleared, entry.1 < n

theorem Waiting.drain {saves : List Nat} (hs : Waiting t n saves s) (h : Orderly config s)
    (hsettled : isSettled s n saves = true) :
    Drained t n { s with settling := s.settling.filter (· != n) } := by
  obtain ⟨hsaves, hfirst⟩ := Bool.and_eq_true_iff.mp hsettled
  refine { hs.toClearing with
    idle := List.eq_nil_iff_forall_not_mem.mpr fun save hsave => ?_
    first := fun m hm => ?_
    last := h.settling_after n hs.settling }
  · have hnone := List.all_eq_true.mp hsaves save (hs.drained save hsave)
    simp [hsave] at hnone
  · obtain ⟨hmem, hne⟩ := List.mem_filter.mp hm
    obtain ⟨rest, hrest⟩ := List.head?_eq_some_iff.mp (by simpa using hfirst)
    have hsorted := h.sorted
    rw [hrest] at hmem hsorted
    rcases List.mem_cons.mp hmem with rfl | hlater
    · simp at hne
    · exact (List.pairwise_cons.mp hsorted).1 m hlater

theorem settleSaves_keeps (h : Orderly config s) (hs : Clearing t n s)
    (hwaits : ∀ m ∈ s.settling, m < n) (hlast : ∀ entry ∈ s.cleared, entry.1 < n) :
    Safe (keeping config t) (settleSaves n)
      (fun result s' => Orderly config s' ∧ result = .ok () ∧ Drained t n s') s := by
  have hadd := Move.addSettling h hs.owner hwaits hlast
  refine Safe.get (Safe.modify hadd ?_)
  have hwaiting : Waiting t n s.pendingSaves { s with settling := s.settling ++ [n] } :=
    { hs with settling := List.mem_append_right _ List.mem_cons_self, drained := fun _ hsave => hsave }
  refine awaiting_safe waiting_stable hwaiting fun _ s₁ h₁ hs₁ hadmits => ?_
  obtain ⟨-, arrival, haccept⟩ := hadmits
  have hsettled : isSettled s₁ n s.pendingSaves = true := by
    cases arrival with
    | settled =>
      by_contra hnot
      simp [accept, hnot] at haccept
    | _ => cases haccept
  have hremove := Move.removeSettling h₁ hs₁.owner
  exact ⟨hremove, hremove.orderly, rfl, hs₁.drain h₁ hsettled⟩

theorem clearBindings_keeps (key : DraftKey) (h : Orderly config s) (hs : Clearing t n s)
    (hwaits : ∀ m ∈ s.settling, m < n) (hlast : ∀ entry ∈ s.cleared, entry.1 < n) :
    Safe (keeping config t) (clearBindings config n key)
      (fun result s' => Orderly config s' ∧ Clearing t n s'
        ∧ (result = .ok () → (n, key) ∈ s'.cleared)) s := by
  refine Safe.bind (settleSaves_keeps h hs hwaits hlast) ?_ fun e s' ⟨_, hok, _⟩ => by cases hok
  rintro ⟨⟩ s₁ ⟨h₁, -, hs₁⟩
  refine Safe.bind (deleteBinding_keeps h₁) ?_ ?_
  · rintro ⟨⟩ _ ⟨h₂, storage, rfl, hdeleted⟩
    obtain ⟨hrestored, hwritten, hempty⟩ :=
      Registry.delete_ok (Prod.ext hdeleted.symm rfl : s₁.registry.delete config.toRegistryConfig
        storage key = (.ok (), (s₁.registry.delete config.toRegistryConfig storage key).2))
    have hclear := Move.addCleared (t := t) h₂ hs₁.clears hs₁.idle hs₁.first hrestored hwritten hempty
    refine Safe.modify hclear ?_
    have hstable : Stable (keeping config t) fun s => Clearing t n s ∧ (n, key) ∈ s.cleared :=
      fun _ _ hs hrely _ => ⟨hs.1.rely hrely, hrely.cleared _ hs.2⟩
    refine awaiting_safe hstable ⟨⟨hs₁.owner, hs₁.active, hs₁.clears⟩,
      List.mem_append_right _ List.mem_cons_self⟩ fun session s₃ h₃ hs₃ _ => ?_
    exact ⟨h₃, hs₃.1, fun _ => hs₃.2⟩
  · rintro e _ ⟨h₂, storage, rfl, -⟩
    exact ⟨h₂, ⟨hs₁.owner, hs₁.active, hs₁.clears⟩, nofun⟩

theorem beginClear_clearing (hn : s.owners[n]? = some t) : Clearing t n (beginClear n s) :=
  ⟨hn, List.mem_append_right _ List.mem_cons_self, List.mem_append_right _ List.mem_cons_self⟩

/-- Every clear that removed bindings began before the newest operation. -/
theorem Newest.cleared_lt (hnew : Newest t n s) (h : Orderly config s) :
    ∀ entry ∈ s.cleared, entry.1 < n :=
  fun entry hentry => hnew.clears entry.1 (h.cleared_clears entry hentry)

theorem delete_keeps (h : Orderly config s) :
    Safe (keeping config t) (delete config t key) (fun _ _ => True) s := by
  obtain ⟨hmove, hnew⟩ := h.begin (t := t)
  have hbegin := Move.beginClear hmove.orderly hnew
  refine takeTicket_safe hmove (Safe.modify hbegin ?_)
  have hclear := clearBindings_keeps key hbegin.orderly (beginClear_clearing hnew.owner)
    hnew.settling (hnew.cleared_lt hmove.orderly)
  refine Safe.bind (P := fun result s' => Orderly config s'
    ∧ (result = .ok () → (s.owners.length, key) ∈ s'.cleared)) ?_ ?_ fun _ _ _ => trivial
  · refine Safe.ensuring hclear fun result s' ⟨hinv, hclearing, hcleared⟩ => ?_
    have hend := Move.endClear hinv hclearing.owner hclearing.active
    exact ⟨hend, hend.orderly, hcleared⟩
  · rintro ⟨⟩ s' ⟨hinv, hcleared⟩
    exact ⟨Move.addDeleted hinv (hcleared rfl), trivial⟩

theorem retireEach_tidy {storage : MetadataStorage} {subject : String} {bindings : List Binding}
    {registry : Registry} (h : registry.restored = true) :
    Registry.Tidy config.toRegistryConfig (fun writer _ => writer = n) registry
      (retireEach config storage n subject bindings registry).2 := by
  induction bindings generalizing registry with
  | nil => exact .refl h
  | cons binding rest ih =>
    rw [retireEach]
    split
    · have hput : Registry.Tidy config.toRegistryConfig (fun writer _ => writer = n) registry
          (registry.put config.toRegistryConfig storage n binding.key
            (retiredSnapshot binding.snapshot)).2 := Registry.put_tidy h rfl _
      split
      · rename_i e after heq
        rw [heq] at hput
        exact hput
      · rename_i after heq
        rw [heq] at hput
        exact hput.trans (ih hput.restored)
    · exact ih h

theorem retireBindings_tidy {storage : MetadataStorage} {subject : String} {registry : Registry}
    (h : registry.restored = true) :
    Registry.Tidy config.toRegistryConfig (fun writer _ => writer = n) registry
      (retireBindings config n subject storage registry).2 := by
  rw [retireBindings, Registry.restore_of_restored h]
  exact retireEach_tidy h

theorem retireSubject_keeps {subject : String} (h : Orderly config s) :
    Safe (keeping config t) (retireSubject config t subject) (fun _ _ => True) s := by
  obtain ⟨hmove, hnew⟩ := h.begin (t := t)
  refine takeTicket_safe hmove (Safe.modify (Move.of_core hmove.orderly rfl) ?_)
  have h₁ : Orderly config { s.begin t with
      retirementGeneration := (s.begin t).retirementGeneration + 1 } := hmove.orderly.of_core rfl
  have hnew₁ : Newest t s.owners.length { s.begin t with
      retirementGeneration := (s.begin t).retirementGeneration + 1 } := { hnew with }
  have hbegin := Move.beginClear h₁ hnew₁
  refine Safe.modify hbegin ?_
  refine Safe.ensuring (P := fun _ s' => Orderly config s' ∧ Clearing t s.owners.length s') ?_
    fun _ s' ⟨hinv, hclearing⟩ => ⟨Move.endClear hinv hclearing.owner hclearing.active, trivial⟩
  refine Safe.bind (settleSaves_keeps hbegin.orderly (beginClear_clearing hnew.owner) hnew.settling
    (hnew.cleared_lt hmove.orderly)) ?_ fun e s' ⟨_, hok, _⟩ => by cases hok
  rintro ⟨⟩ s₂ ⟨h₂, -, hs₂⟩
  refine (onRegistry_keeps _ h₂ (fun _ => retireBindings_tidy) ?_).mono ?_
  · rintro _ _ rfl entry hentry -
    exact hs₂.last entry hentry
  · rintro _ _ ⟨h₃, storage, rfl, -⟩
    exact ⟨h₃, hs₂.owner, hs₂.active, hs₂.clears⟩

theorem serve_keeps {ticket : Nat} {answer : Except DraftStoreError DraftView} (h : Orderly config s) :
    Safe (keeping config t) (serve ticket answer) (fun _ _ => True) s := by
  refine Safe.get ?_
  split
  · exact Safe.pure trivial
  · exact ⟨Move.of_core h rfl, trivial⟩

theorem program_keeps {op : StoreOp} (h : Orderly config s) :
    Safe (keeping config t) (program config t op) (fun _ _ => True) s := by
  cases op with
  | read key qualified selection =>
    exact Safe.bind (read_keeps h) (fun _ _ _ => Safe.pure trivial) fun _ _ _ => trivial
  | save key response => exact save_keeps h
  | initializeDraft key formVersionId =>
    exact Safe.bind (initializeDraft_keeps h) (fun _ _ _ => Safe.pure trivial) fun _ _ _ => trivial
  | delete key => exact delete_keeps h
  | retireSubject subject => exact retireSubject_keeps h
  | serve ticket answer => exact serve_keeps h

def clearProtocol (config : HttpDraftStoreConfig) :
    Protocol (draftStore config) (promptInitialization config) where
  inv := Orderly config
  rely := Rely
  guar := Move config
  rely_refl := Rely.refl
  rely_trans _ _ _ _ := Rely.trans
  guar_rely _ u _ _ hne _ hmove := hmove.others u hne.symm
  guar_inv _ _ _ _ hmove := hmove.orderly
  safe _ _ _ h _ := program_keeps h

theorem orderly_initial (metadata : Option Value) : Orderly config (StoreState.initial metadata) where
  generation := rfl
  clearing := rfl
  nodup := List.nodup_nil
  sorted := List.Pairwise.nil
  clears_lt _ h := by cases h
  active_lt _ h := by cases h
  settling_lt _ h := by cases h
  cleared_clears _ h := by cases h
  deleted_cleared _ h := by cases h
  pending_after _ h := by cases h
  settling_after _ h := by cases h
  settled h := absurd rfl h
  clean _ h := by cases h

/-- A deletion that resolved is final: the bindings of its scope, in the registry and in the slot
of metadata, were made by operations begun later. -/
def ClearFinal (config : HttpDraftStoreConfig) (s : StoreState) : Prop :=
  ∀ entry ∈ s.deleted,
    (∀ binding ∈ s.registry.entries,
      Registry.sameScope config.toRegistryConfig binding.key entry.2 = .ok true →
        binding.MadeAfter entry.1)
    ∧ (config.resumeMetadata = true → s.registry.Written config.toRegistryConfig)

theorem Orderly.clearFinal (h : Orderly config s) : ClearFinal config s := by
  intro entry hentry
  have hcleared := h.deleted_cleared entry hentry
  exact ⟨h.clean entry hcleared, (h.settled (List.ne_nil_of_mem hcleared)).2⟩

/-- Clears are final in every run whose initializations are answered in time. -/
theorem clears_final (config : HttpDraftStoreConfig) (metadata : Option Value)
    (es : List (Event Callbacks StoreOp Arrival))
    (p : Pool StoreState Callbacks DraftStoreError Rep)
    (hmeets : (promptInitialization config).Meets (draftStore config)
      (Pool.initial (StoreState.initial metadata)) es)
    (hrun : (draftStore config).run (Pool.initial (StoreState.initial metadata)) es = some p) :
    ClearFinal config p.state :=
  (clearProtocol config).run_invariant (J := ClearFinal config)
    (fun _ _ _ _ hmove _ => hmove.orderly.clearFinal) (orderly_initial metadata)
    (orderly_initial metadata).clearFinal hmeets hrun

instance (s : StoreState) (op : StoreOp) : Decidable ((promptInitialization config).begins s op) :=
  inferInstanceAs (Decidable True)

instance (s : StoreState) (l : Label) (answer : Rep l) :
    Decidable ((promptInitialization config).resumes s l answer) :=
  inferInstanceAs (Decidable (answersInTime config s l answer = true))

def intakeStore : HttpDraftStoreConfig :=
  { intakeConfig with requireExistingBinding := false, canonicalize := fun _ => none }

def intakeCallbacks : Callbacks := ⟨.reliable, .ok (), .ok (), "00000000-0000-4000-8000-000000000000"⟩

def intakePool : Pool StoreState Callbacks DraftStoreError Rep := Pool.initial (StoreState.initial none)

def initializeServed : List (Event Callbacks StoreOp Arrival) :=
  [.begin (.initializeDraft intakeKey none) intakeCallbacks,
    .resume 0 (.credentials (.ok ())) intakeCallbacks,
    .begin (.serve 0 (.ok (intakeView (.number 1)))) intakeCallbacks]

def deleteAll : List (Event Callbacks StoreOp Arrival) :=
  [.begin (.delete intakeKey) intakeCallbacks, .resume 2 .settled intakeCallbacks,
    .resume 2 (.sessionCleared (.ok ())) intakeCallbacks]

def createAnswered : List (Event Callbacks StoreOp Arrival) := [.resume 0 .delivered intakeCallbacks]

theorem clears_final_answered :
    ∃ p, (draftStore intakeStore).run intakePool (initializeServed ++ createAnswered ++ deleteAll) = some p
      ∧ ClearFinal intakeStore p.state := by
  have hruns : ((draftStore intakeStore).run intakePool
      (initializeServed ++ createAnswered ++ deleteAll)).isSome = true := by decide +kernel
  obtain ⟨p, hp⟩ := Option.isSome_iff_exists.mp hruns
  exact ⟨p, hp, clears_final intakeStore none _ p (Discipline.meets_of_obeys (by decide +kernel)) hp⟩

/-- The binding of the key was written by the initialization, which began before the deletion
that resolved. -/
def overwritesCleared (s : StoreState) : Bool :=
  s.deleted == [(1, intakeKey)]
    && s.registry.bindings.any fun binding => binding.key == intakeKey && binding.writers == [0]

/-- The create is answered after the deletion resolved, and is bound. -/
theorem clear_undone :
    ∃ p, (draftStore intakeStore).run intakePool (initializeServed ++ deleteAll ++ createAnswered) = some p
      ∧ ¬ ClearFinal intakeStore p.state := by
  have hruns : ((draftStore intakeStore).run intakePool
      (initializeServed ++ deleteAll ++ createAnswered)).any (fun p => overwritesCleared p.state) = true := by
    decide +kernel
  obtain ⟨p, hp, hwrites⟩ := (Option.any_eq_true _ _).mp hruns
  refine ⟨p, hp, fun hfinal => ?_⟩
  obtain ⟨hdeleted, hbinding⟩ := Bool.and_eq_true_iff.mp hwrites
  obtain ⟨binding, hmem, hbinding⟩ := List.any_eq_true.mp hbinding
  obtain ⟨hkey, hwriters⟩ := Bool.and_eq_true_iff.mp hbinding
  have hentry : (1, intakeKey) ∈ p.state.deleted := by
    rw [eq_of_beq hdeleted]
    exact List.mem_singleton.mpr rfl
  have hscope : Registry.sameScope intakeStore.toRegistryConfig binding.key intakeKey = .ok true := by
    rw [eq_of_beq hkey]
    decide +kernel
  have hafter := (hfinal _ hentry).1 binding (List.mem_append_left _ hmem) hscope
  have hlate := hafter.2 0 (by rw [eq_of_beq hwriters]; exact List.mem_singleton.mpr rfl)
  exact absurd hlate (by decide)

end FormspecWeb.DraftStore
