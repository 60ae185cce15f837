import FormspecWeb.DraftStore.ClearFinal

/-!
# One draft for a key

What saves and initializations of one key keep while at most one of them creates a draft at
a time: the draft that was created stays the bound one, and what was saved is in it.
-/

namespace FormspecWeb.DraftStore

open Shared Async

def questionOf (answer : Nat × DraftRequest × Except DraftStoreError DraftView) : Nat × DraftRequest :=
  (answer.1, answer.2.1)

def StoreState.asked (s : StoreState) : List (Nat × DraftRequest) :=
  s.requests ++ s.answers.map questionOf

def StoreState.draftOf (s : StoreState) (key : DraftKey) : Option Value := s.registry.draftOf key

structure Single (key : DraftKey) (s : StoreState) : Prop where
  fresh : s.registry.restored = false → s.registry.bindings = []
  restored : s.creating ≠ [] → s.registry.restored = true
  creating_le : s.creating.length ≤ 1
  created_le : s.created.length ≤ 1
  asked_lt : ∀ question ∈ s.asked, question.1 < s.owners.length
  answered : ∀ answer ∈ s.answers, ∀ view, answer.2.2 = .ok view →
    ∀ entry ∈ storedFor answer.1 view answer.2.1, entry ∈ s.stored
  created : ∀ entry ∈ s.created, ∃ draftId response, s.draftOf key = some draftId
    ∧ (⟨draftId, entry.1, response⟩ : Stored) ∈ s.stored
  saved : ∀ entry ∈ s.saved, ∃ draftId, s.draftOf key = some draftId
    ∧ (⟨draftId, entry.1, entry.2.2⟩ : Stored) ∈ s.stored

/-- What an operation of thread `u` relies on: a bound draft stays the bound one, nobody asks
under its ticket, and nobody else binds a draft while it creates one. -/
structure SingleRely (key : DraftKey) (u : Nat) (s s' : StoreState) : Prop where
  owners : s.owners <+: s'.owners
  restored : s.registry.restored = true → s'.registry.restored = true
  draft : ∀ draftId, s.draftOf key = some draftId → s'.draftOf key = some draftId
  stored : ∀ entry ∈ s.stored, entry ∈ s'.stored
  asked : ∀ n, s.owners[n]? = some u → ∀ request, (n, request) ∈ s'.asked → (n, request) ∈ s.asked
  alone : ∀ n found, s.owners[n]? = some u → (n, found) ∈ s.creating → s'.creating = s.creating
    ∧ s'.created = s.created ∧ (s.draftOf key = none → s'.draftOf key = none)

/-- What a write of thread `t` does. -/
structure SingleMove (key : DraftKey) (t : Nat) (s s' : StoreState) : Prop where
  single : Single key s'
  others : ∀ u, u ≠ t → SingleRely key u s s'

/-- Operations of the key alone, of which one that may create a draft begins only when none does. -/
def createsAlone (config : HttpDraftStoreConfig) (key : DraftKey) (s : StoreState) : StoreOp → Bool
  | .save found _ => found == key && (s.creating.isEmpty || config.requireExistingBinding)
  | .initializeDraft found _ => found == key && s.creating.isEmpty
  | .serve _ _ => true
  | _ => false

def creatingAlone (config : HttpDraftStoreConfig) (key : DraftKey) : Discipline StoreState StoreOp Rep where
  begins s op := createsAlone config key s op = true
  resumes _ _ _ := True

/-- The contract of thread `t`. -/
abbrev keepingOne (config : HttpDraftStoreConfig) (key : DraftKey) (t : Nat) : Contract StoreState Rep where
  inv := Single key
  rely := SingleRely key t
  guar := SingleMove key t
  admits s l answer := (creatingAlone config key).resumes s l answer
    ∧ ∃ arrival, accept s l arrival = some answer

variable {config : HttpDraftStoreConfig} {t u n : Nat} {key : DraftKey} {s s' s'' : StoreState}
  {after : Registry} {α β : Type} {P : StoreState → Prop} {request : DraftRequest}

theorem SingleRely.of_eq (howners : s'.owners = s.owners) (hregistry : s'.registry = s.registry)
    (hstored : s'.stored = s.stored) (hasked : s'.asked = s.asked) (hcreating : s'.creating = s.creating)
    (hcreated : s'.created = s.created) : SingleRely key u s s' where
  owners := howners ▸ List.prefix_rfl
  restored h := hregistry ▸ h
  draft draftId h := by rw [StoreState.draftOf, hregistry]; exact h
  stored _ h := hstored ▸ h
  asked _ _ _ h := hasked ▸ h
  alone _ _ _ _ := ⟨hcreating, hcreated, fun h => by rw [StoreState.draftOf, hregistry]; exact h⟩

theorem SingleRely.refl (key : DraftKey) (u : Nat) (s : StoreState) : SingleRely key u s s :=
  .of_eq rfl rfl rfl rfl rfl rfl

theorem SingleRely.trans (h : SingleRely key u s s') (h' : SingleRely key u s' s'') :
    SingleRely key u s s'' where
  owners := h.owners.trans h'.owners
  restored hs := h'.restored (h.restored hs)
  draft draftId hs := h'.draft draftId (h.draft draftId hs)
  stored entry hs := h'.stored entry (h.stored entry hs)
  asked n hn request hs :=
    h.asked n hn request (h'.asked n (owner_mono h.owners hn) request hs)
  alone n found hn hmem := by
    obtain ⟨hcreating, hcreated, hnone⟩ := h.alone n found hn hmem
    obtain ⟨hcreating', hcreated', hnone'⟩ :=
      h'.alone n found (owner_mono h.owners hn) (hcreating ▸ hmem)
    exact ⟨hcreating'.trans hcreating, hcreated'.trans hcreated, fun hs => hnone' (hnone hs)⟩

/-! ## Writes -/

theorem Single.begin (h : Single key s) : SingleMove key t s (s.begin t) := by
  refine ⟨{ h with asked_lt := fun question hquestion => ?_ }, fun u _ => ?_⟩
  · exact lt_of_begin (h.asked_lt question hquestion)
  · exact { SingleRely.refl key u s with owners := List.prefix_append _ _ }

theorem Single.setRegistry (h : Single key s) (after : Registry)
    (hfresh : after.restored = false → after.bindings = [])
    (hrestored : s.registry.restored = true → after.restored = true)
    (hdraft : ∀ draftId, s.draftOf key = some draftId → after.draftOf key = some draftId) :
    Single key (s.setRegistry after) where
  __ := h
  fresh := hfresh
  restored hcreating := hrestored (h.restored hcreating)
  created entry hentry := by
    obtain ⟨draftId, response, hbound, hstored⟩ := h.created entry hentry
    exact ⟨draftId, response, hdraft draftId hbound, hstored⟩
  saved entry hentry := by
    obtain ⟨draftId, hbound, hstored⟩ := h.saved entry hentry
    exact ⟨draftId, hdraft draftId hbound, hstored⟩

theorem SingleRely.setRegistry (hrestored : s.registry.restored = true → after.restored = true)
    (hdraft : ∀ draftId, s.draftOf key = some draftId → after.draftOf key = some draftId)
    (halone : ∀ n found, s.owners[n]? = some u → (n, found) ∈ s.creating → s.draftOf key = none →
      after.draftOf key = none) : SingleRely key u s (s.setRegistry after) :=
  { SingleRely.refl key u s with
    restored := hrestored
    draft := hdraft
    alone := fun n found hn hmem => ⟨rfl, rfl, halone n found hn hmem⟩ }

theorem getBinding_single (h : Single key s) :
    Safe (keepingOne config key t) (getBinding config key)
      (fun result s' => Single key s' ∧ (∃ after, s' = s.setRegistry after)
        ∧ ∀ found, result = .ok found →
          s'.registry.restored = true ∧ s'.draftOf key = found.map (·.draftId)) s := by
  refine onRegistry_safe fun storage => ?_
  obtain ⟨hsame, hor, hfound⟩ :=
    Registry.get_draftOf config.toRegistryConfig storage s.registry key
  have hrestored : s.registry.restored = true →
      (s.registry.get config.toRegistryConfig storage key).2.restored = true :=
    fun hs => by rw [hsame hs]; exact hs
  have hunbound : ∀ draftId, s.draftOf key = some draftId → s.registry.restored = true := by
    intro draftId hbound
    by_contra hnot
    have hnone := h.fresh (by simpa using hnot)
    simp [StoreState.draftOf, Registry.draftOf, hnone] at hbound
  have hdraft : ∀ draftId, s.draftOf key = some draftId →
      (s.registry.get config.toRegistryConfig storage key).2.draftOf key = some draftId :=
    fun draftId hbound => by rw [hsame (hunbound draftId hbound)]; exact hbound
  have hsingle := h.setRegistry (s.registry.get config.toRegistryConfig storage key).2
    (fun hnot => by
      rcases hor with hyes | heq
      · rw [hyes] at hnot
        cases hnot
      · rw [heq] at hnot ⊢
        exact h.fresh hnot) hrestored hdraft
  refine ⟨⟨hsingle, fun u _ => .setRegistry hrestored hdraft fun n found _ hmem hnone => ?_⟩,
    hsingle, ⟨_, rfl⟩, hfound⟩
  rw [hsame (h.restored (List.ne_nil_of_mem hmem))]
  exact hnone

theorem putBinding_single {snapshot : DraftBindingSnapshot} (h : Single key s)
    (hn : s.owners[n]? = some t) (hrestored : s.registry.restored = true)
    (hmay : s.draftOf key = some snapshot.draftId
      ∨ s.creating = [(n, key)] ∧ s.draftOf key = none) :
    Safe (keepingOne config key t) (putBinding config n key snapshot)
      (fun _ s' => Single key s' ∧ ∃ after, s' = s.setRegistry after ∧ after.restored = true
        ∧ after.draftOf key = some snapshot.draftId) s := by
  refine onRegistry_safe fun storage => ?_
  obtain ⟨hafter, hbound⟩ :=
    Registry.put_draftOf config.toRegistryConfig storage hrestored n key snapshot
  have hdraft : ∀ draftId, s.draftOf key = some draftId →
      (s.registry.put config.toRegistryConfig storage n key snapshot).2.draftOf key = some draftId := by
    intro draftId hold
    rcases hmay with hsame | ⟨-, hnone⟩
    · rw [hbound, ← hsame, hold]
    · rw [hnone] at hold
      cases hold
  have hsingle := h.setRegistry (s.registry.put config.toRegistryConfig storage n key snapshot).2
    (fun hnot => by rw [hafter] at hnot; cases hnot) (fun _ => hafter) hdraft
  refine ⟨⟨hsingle, fun u hne => .setRegistry (fun _ => hafter) hdraft fun m found hm hmem hnone => ?_⟩,
    hsingle, _, rfl, hafter, hbound⟩
  -- No other operation creates a draft where this one writes.
  rcases hmay with hsame | ⟨hcreating, -⟩
  · rw [hsame] at hnone
    cases hnone
  · rw [hcreating] at hmem
    exact absurd (congrArg Prod.fst (List.mem_singleton.mp hmem)) (owner_ne hn hm hne)

theorem mem_asked_send {question : Nat × DraftRequest} :
    question ∈ (s.send n request).asked ↔ question ∈ s.asked ∨ question = (n, request) := by
  simp only [StoreState.asked, StoreState.send, List.mem_append, List.mem_singleton]
  tauto

theorem Single.send (h : Single key s) (hn : s.owners[n]? = some t) :
    SingleMove key t s (s.send n request) := by
  refine ⟨{ h with asked_lt := fun question hquestion => ?_ }, fun u hne => ?_⟩
  · rcases mem_asked_send.mp hquestion with hold | rfl
    · exact h.asked_lt question hold
    · exact owner_lt hn
  · refine { SingleRely.refl key u s with asked := fun m hm found hfound => ?_ }
    rcases mem_asked_send.mp hfound with hold | heq
    · exact hold
    · exact absurd (congrArg Prod.fst heq) (owner_ne hn hm hne)

theorem Single.addCreating (h : Single key s) (hidle : s.creating = [])
    (hrestored : s.registry.restored = true) :
    SingleMove key t s { s with creating := s.creating ++ [(n, key)] } := by
  refine ⟨{ h with restored := fun _ => hrestored, creating_le := ?_ }, fun u _ => ?_⟩
  · simp [hidle]
  · exact { SingleRely.refl key u s with
      alone := fun m found _ hmem => by rw [hidle] at hmem; cases hmem }

theorem Single.removeCreating (h : Single key s) (hn : s.owners[n]? = some t)
    (hcreating : s.creating = [(n, key)]) :
    SingleMove key t s { s with creating := s.creating.filter (·.1 != n) } := by
  refine ⟨{ h with restored := fun hne => ?_, creating_le := ?_ }, fun u hne => ?_⟩
  · simp [hcreating] at hne
  · simp [hcreating]
  · refine { SingleRely.refl key u s with alone := fun m found hm hmem => ?_ }
    rw [hcreating] at hmem
    exact absurd (congrArg Prod.fst (List.mem_singleton.mp hmem)) (owner_ne hn hm hne)

theorem Single.addCreated (h : Single key s) (hn : s.owners[n]? = some t)
    (hcreating : s.creating = [(n, key)]) (hnone : s.created = []) {draftId response : Value}
    (hbound : s.draftOf key = some draftId)
    (hstored : (⟨draftId, n, response⟩ : Stored) ∈ s.stored) :
    SingleMove key t s { s with created := s.created ++ [(n, key)] } := by
  refine ⟨{ h with created_le := ?_, created := fun entry hentry => ?_ }, fun u hne => ?_⟩
  · simp [hnone]
  · rw [hnone] at hentry
    rw [List.mem_singleton.mp hentry]
    exact ⟨draftId, response, hbound, hstored⟩
  · refine { SingleRely.refl key u s with alone := fun m found hm hmem => ?_ }
    rw [hcreating] at hmem
    exact absurd (congrArg Prod.fst (List.mem_singleton.mp hmem)) (owner_ne hn hm hne)

theorem Single.addSaved (h : Single key s) {draftId response : Value} {found : DraftKey}
    (hbound : s.draftOf key = some draftId)
    (hstored : (⟨draftId, n, response⟩ : Stored) ∈ s.stored) :
    SingleMove key t s { s with saved := s.saved ++ [(n, found, response)] } := by
  refine ⟨{ h with saved := fun entry hentry => ?_ }, fun u _ => { SingleRely.refl key u s with }⟩
  rcases List.mem_append.mp hentry with hold | hnew
  · exact h.saved entry hold
  · rw [List.mem_singleton.mp hnew]
    exact ⟨draftId, hbound, hstored⟩

theorem Single.answer_stored (h : Single key s) {purpose : Purpose} {view : DraftView}
    (hasked : ∀ found, (n, found) ∈ s.asked → found = request) {arrival : Arrival}
    (haccept : accept s (.reply n purpose request) arrival = some (.ok view)) :
    ∀ entry ∈ storedFor n view request, entry ∈ s.stored := by
  cases arrival with
  | delivered =>
    obtain ⟨⟨m, found, answer⟩, hfind, heq⟩ := Option.map_eq_some_iff.mp haccept
    have hmem := List.mem_of_find?_eq_some hfind
    obtain rfl : m = n := by simpa using List.find?_some hfind
    have hsame : found = request := hasked found
      (List.mem_append_right _ (List.mem_map.mpr ⟨_, hmem, rfl⟩))
    rw [← hsame]
    exact h.answered _ hmem view heq
  | lost error => cases haccept
  | _ => cases haccept

/-! ## Operations -/

structure Creating (key : DraftKey) (t n : Nat) (s : StoreState) : Prop where
  owner : s.owners[n]? = some t
  creating : s.creating = [(n, key)]
  created : s.created = []
  unbound : s.draftOf key = none
  restored : s.registry.restored = true

theorem creating_stable : Stable (keepingOne config key t) (Creating key t n) := by
  intro s s' hs hrely _
  have hmem : (n, key) ∈ s.creating := hs.creating ▸ List.mem_singleton.mpr rfl
  obtain ⟨hcreating, hcreated, hnone⟩ := hrely.alone n key hs.owner hmem
  exact ⟨owner_mono hrely.owners hs.owner, hcreating.trans hs.creating,
    hcreated.trans hs.created, hnone hs.unbound, hrely.restored hs.restored⟩

structure Bound (key : DraftKey) (draftId : Value) (t n : Nat) (s : StoreState) : Prop where
  owner : s.owners[n]? = some t
  bound : s.draftOf key = some draftId
  restored : s.registry.restored = true

theorem bound_stable {draftId : Value} :
    Stable (keepingOne config key t) (Bound key draftId t n) := fun _ _ hs hrely _ =>
  ⟨owner_mono hrely.owners hs.owner, hrely.draft draftId hs.bound, hrely.restored hs.restored⟩

def Asking (P : StoreState → Prop) (n : Nat) (requests : List DraftRequest) (s : StoreState) : Prop :=
  P s ∧ ∀ found, (n, found) ∈ s.asked → found ∈ requests

theorem asking_stable {requests : List DraftRequest} (hP : Stable (keepingOne config key t) P)
    (howner : ∀ s, P s → s.owners[n]? = some t) :
    Stable (keepingOne config key t) (Asking P n requests) := fun s _ hs hrely hinv =>
  ⟨hP _ _ hs.1 hrely hinv, fun found hfound => hs.2 found (hrely.asked n (howner s hs.1) found hfound)⟩

theorem creating_asking : Stable (keepingOne config key t) (Asking (Creating key t n) n []) :=
  asking_stable creating_stable fun _ hs => hs.owner

theorem bound_asking {draftId : Value} :
    Stable (keepingOne config key t) (Asking (Bound key draftId t n) n []) :=
  asking_stable bound_stable fun _ hs => hs.owner

theorem requestJson_single {purpose : Purpose} {current : Op Unit}
    {F : StoreState → Prop} {admission : Callbacks → Except DraftStoreError Unit}
    (hP : Stable (keepingOne config key t) P) (howner : ∀ s, P s → s.owners[n]? = some t)
    (hsend : ∀ s, P s → P (s.send n request)) (hcurrent : Guards F current) (h : Single key s)
    (hs : Asking P n [] s) :
    Safe (keepingOne config key t) (requestJson n purpose request current admission)
      (fun result s' => Single key s' ∧ P s' ∧ ∀ view, result = .ok view →
        ∀ entry ∈ storedFor n view request, entry ∈ s'.stored) s := by
  have hstable : ∀ requests, Stable (keepingOne config key t) (Asking P n requests) :=
    fun requests => asking_stable hP howner
  have hsent : ∀ s, Single key s → Asking P n [] s → SingleMove key t s (s.send n request)
      ∧ Single key (s.send n request) ∧ Asking P n [request] (s.send n request) := by
    intro s h hs
    have hmove : SingleMove key t s (s.send n request) := h.send (howner s hs.1)
    refine ⟨hmove, hmove.single, hsend s hs.1, fun found hfound => ?_⟩
    rcases mem_asked_send.mp hfound with hold | heq
    · exact absurd (hs.2 found hold) List.not_mem_nil
    · exact List.mem_singleton.mpr (congrArg Prod.snd heq)
  refine (requestJson_safe (hstable []) (hstable [request]) hsent hcurrent h hs).mono ?_
  rintro result s' ⟨h', hor, hanswer⟩
  refine ⟨h', hor.elim And.left And.left, fun view hview => ?_⟩
  obtain ⟨hasking, -, -, arrival, haccept⟩ := hanswer view hview
  exact h'.answer_stored (fun found hfound => List.mem_singleton.mp (hasking.2 found hfound)) haccept

/-- Such a value is stored in the draft the key is bound to, by this operation. -/
def Holds (key : DraftKey) (n : Nat) (R : Value → Prop) (s : StoreState) : Prop :=
  ∃ draftId response, R response ∧ s.draftOf key = some draftId
    ∧ (⟨draftId, n, response⟩ : Stored) ∈ s.stored

def Leaves (key : DraftKey) (t n : Nat) (R : Value → Prop) {α : Type} (result : Except DraftStoreError α)
    (s : StoreState) : Prop :=
  Single key s ∧ s.owners[n]? = some t ∧ s.creating = [(n, key)]
    ∧ ∀ a, result = .ok a → Holds key n R s

theorem Creating.leaves {R : Value → Prop} {e : DraftStoreError} (hs : Creating key t n s)
    (h : Single key s) : Leaves key t n R (.error e : Except DraftStoreError α) s :=
  ⟨h, hs.owner, hs.creating, nofun⟩

variable {response : Value}

section

variable (h : Single key s)
include h

theorem bindCreated_single {R : Value → Prop} {snapshot : DraftBindingSnapshot} (hs : Creating key t n s) (hresponse : R response) (hstored : (⟨snapshot.draftId, n, response⟩ : Stored) ∈ s.stored) :
    Safe (keepingOne config key t) (bindCreated config n key snapshot) (Leaves key t n R) s := by
  refine Safe.ensuring (putBinding_single h hs.owner hs.restored (.inr ⟨hs.creating, hs.unbound⟩))
    fun result s' hpost => ?_
  obtain ⟨h', after, rfl, -, hbound⟩ := hpost
  have hmove := h'.addCreated (t := t) hs.owner hs.creating hs.created hbound hstored
  exact ⟨hmove, hmove.single, hs.owner, hs.creating,
    fun _ _ => ⟨snapshot.draftId, response, hresponse, hbound, hstored⟩⟩

theorem createDraft_single {token : Option String} {generation : Nat} (hs : Asking (Creating key t n) n [] s) :
    Safe (keepingOne config key t) (createDraft config n key response token generation)
      (Leaves key t n (· = response)) s := by
  have hcurrent := saveCurrent_guards generation
  refine Safe.check (fun formId _ => ?_) fun _ _ => hs.1.leaves h
  refine Safe.bind (requestJson_single creating_stable (fun _ hs => hs.owner)
    (fun _ hs => { hs with }) hcurrent h hs) ?_ fun _ _ ⟨hinv, hcreating, _⟩ => hcreating.leaves hinv
  rintro draft s₁ ⟨h₁, hs₁, hstored⟩
  refine guard_safe hcurrent (fun _ => ?_) fun _ => hs₁.leaves h₁
  exact bindCreated_single h₁ hs₁ rfl (hstored draft rfl _ List.mem_cons_self)

theorem whileCreating_single {R : Value → Prop} {p : Op α}
    (hn : s.owners[n]? = some t) (hunasked : ∀ found, (n, found) ∉ s.asked) (hidle : s.creating = [])
    (hunbound : s.draftOf key = none) (hrestored : s.registry.restored = true)
    (hp : ∀ s, Single key s → Asking (Creating key t n) n [] s →
      Safe (keepingOne config key t) p (Leaves key t n R) s) :
    Safe (keepingOne config key t) (whileCreating n key p)
      (fun result s' => Single key s' ∧ s'.owners[n]? = some t
        ∧ ∀ a, result = .ok a → Holds key n R s') s := by
  have hcreated : s.created = [] := by
    refine List.eq_nil_iff_forall_not_mem.mpr fun entry hentry => ?_
    obtain ⟨draftId, -, hbound, -⟩ := h.created entry hentry
    rw [hunbound] at hbound
    cases hbound
  have hadd := h.addCreating (t := t) (n := n) hidle hrestored
  refine whileCreating_safe hadd (hp _ hadd.single ⟨?_, fun found hfound =>
    absurd hfound (hunasked found)⟩) fun result s' hpost => ?_
  · exact ⟨hn, by simp [hidle], hcreated, hunbound, hrestored⟩
  · obtain ⟨h', hn', hcreating, hholds⟩ := hpost
    have hremove := h'.removeCreating hn' hcreating
    exact ⟨hremove, hremove.single, hn', hholds⟩

theorem saveUnbound_single {generation : Nat}
    (hn : s.owners[n]? = some t) (hunasked : ∀ found, (n, found) ∉ s.asked)
    (hidle : s.creating = [] ∨ config.requireExistingBinding = true)
    (hunbound : s.draftOf key = none) (hrestored : s.registry.restored = true) :
    Safe (keepingOne config key t) (saveUnbound config n key response generation)
      (fun result s' => Single key s' ∧ s'.owners[n]? = some t
        ∧ ∀ a, result = .ok a → Holds key n (· = response) s') s := by
  have howner : Stable (keepingOne config key t) fun s => s.owners[n]? = some t :=
    fun _ _ hs hrely _ => owner_mono hrely.owners hs
  unfold saveUnbound
  split
  · refine Safe.bind (anonymousToken_safe howner h hn) ?_ fun _ _ hs => ⟨hs.1, hs.2, nofun⟩
    rintro token s₁ ⟨h₁, hn₁⟩
    exact guard_safe (saveCurrent_guards _) (fun _ => failed_safe ⟨h₁, hn₁, nofun⟩)
      fun _ => ⟨h₁, hn₁, nofun⟩
  · rename_i hcreates
    refine whileCreating_single h hn hunasked (hidle.resolve_right hcreates) hunbound hrestored ?_
    intro s h hs
    refine Safe.bind (anonymousToken_safe creating_asking h hs) ?_ fun _ _ hs => hs.2.1.leaves hs.1
    rintro token s₁ ⟨h₁, hs₁⟩
    exact guard_safe (saveCurrent_guards _) (fun _ => createDraft_single h₁ hs₁) fun _ => hs₁.1.leaves h₁

theorem updateDraft_single {existing : DraftBindingSnapshot}
    {token : Option String} {generation : Nat}
    (hs : Asking (Bound key existing.draftId t n) n [] s) :
    Safe (keepingOne config key t) (updateDraft config n key existing response token generation)
      (fun result s' => Single key s' ∧ s'.owners[n]? = some t
        ∧ ∀ a, result = .ok a → Holds key n (· = response) s') s := by
  have hcurrent := saveCurrent_guards generation
  refine Safe.bind (requestJson_single bound_stable (fun _ hs => hs.owner)
    (fun _ hs => { hs with }) hcurrent h hs) ?_ fun _ _ ⟨hinv, hbound, _⟩ =>
      ⟨hinv, hbound.owner, nofun⟩
  rintro update s₁ ⟨h₁, hs₁, hstored⟩
  refine guard_safe hcurrent (fun _ => ?_) fun _ => ⟨h₁, hs₁.owner, nofun⟩
  have hsame : s₁.draftOf key = some (DraftBindingSnapshot.mk existing.draftId update.draftVersion
      response .undefined).draftId := hs₁.bound
  refine (putBinding_single h₁ hs₁.owner hs₁.restored (.inl hsame)).mono ?_
  rintro result _ ⟨h₂, after, rfl, -, hbound⟩
  exact ⟨h₂, hs₁.owner, fun _ _ =>
    ⟨existing.draftId, response, rfl, hbound, hstored update rfl _ List.mem_cons_self⟩⟩

theorem saveOnce_single (hn : s.owners[n]? = some t) (hunasked : ∀ found, (n, found) ∉ s.asked)
    (hidle : s.creating = [] ∨ config.requireExistingBinding = true) :
    Safe (keepingOne config key t) (saveOnce config n key response)
      (fun result s' => Single key s' ∧ s'.owners[n]? = some t
        ∧ ∀ a, result = .ok a → Holds key n (· = response) s') s := by
  refine Safe.get (Safe.bind (getBinding_single h) ?_ ?_)
  · rintro existing _ ⟨h₁, ⟨after, rfl⟩, hfound⟩
    obtain ⟨hrestored, hdraft⟩ := hfound existing rfl
    cases existing with
    | none => exact saveUnbound_single h₁ hn hunasked hidle hdraft hrestored
    | some existing =>
      have hs₁ : Asking (Bound key existing.draftId t n) n [] (s.setRegistry after) :=
        ⟨⟨hn, hdraft, hrestored⟩, fun found hfound => absurd hfound (hunasked found)⟩
      refine Safe.bind (anonymousToken_safe bound_asking h₁ hs₁) ?_ fun _ _ ⟨hinv, hasking⟩ =>
        ⟨hinv, hasking.1.owner, nofun⟩
      rintro token s₂ ⟨h₂, hs₂⟩
      exact guard_safe (saveCurrent_guards _) (fun _ => updateDraft_single h₂ hs₂)
        fun _ => ⟨h₂, hs₂.1.owner, nofun⟩
  · rintro e _ ⟨h₁, ⟨after, rfl⟩, -⟩
    exact ⟨h₁, hn, nofun⟩

theorem Single.unasked (t : Nat) :
    ∀ found, (s.owners.length, found) ∉ (s.begin t).asked :=
  fun _ hfound => absurd (h.asked_lt _ hfound) (Nat.lt_irrefl _)

theorem save_single (hidle : s.creating = [] ∨ config.requireExistingBinding = true) :
    Safe (keepingOne config key t) (save config t key response) (fun _ _ => True) s := by
  have hbegin := h.begin (t := t)
  have hn : (s.begin t).owners[s.owners.length]? = some t := owner_of_begin
  refine takeTicket_safe hbegin (Safe.get ?_)
  split
  · exact failed_safe trivial
  · have hadd : SingleMove key t (s.begin t) { s.begin t with
        pendingSaves := (s.begin t).pendingSaves ++ [s.owners.length] } :=
      ⟨{ hbegin.single with }, fun u _ => .of_eq rfl rfl rfl rfl rfl rfl⟩
    refine Safe.modify hadd (Safe.bind (Safe.ensuring
      (Q := fun result s' => Single key s'
        ∧ ∀ a, result = .ok a → Holds key s.owners.length (· = response) s')
      (saveOnce_single hadd.single hn (h.unasked t) hidle) ?_) ?_ fun _ _ _ => trivial)
    · rintro result s' ⟨h', -, hholds⟩
      exact ⟨⟨{ h' with }, fun u _ => .of_eq rfl rfl rfl rfl rfl rfl⟩, { h' with }, hholds⟩
    · rintro ⟨⟩ s' ⟨h', hholds⟩
      obtain ⟨draftId, _, rfl, hbound, hstored⟩ := hholds () rfl
      exact ⟨h'.addSaved hbound hstored, trivial⟩

theorem initializeOnce_single {formVersionId : Option String}
    (hs : Asking (Creating key t n) n [] s) :
    Safe (keepingOne config key t) (initializeOnce config n key formVersionId)
      (fun result s' => Single key s' ∧ Creating key t n s' ∧ ∀ view, result = .ok view →
        ∃ response, (⟨view.draftId, n, response⟩ : Stored) ∈ s'.stored) s := by
  refine Safe.check (fun formId _ => ?_) fun _ _ => ⟨h, hs.1, fun _ h => by cases h⟩
  refine Safe.bind (anonymousToken_safe creating_asking h hs) ?_ fun _ _ hs =>
    ⟨hs.1, hs.2.1, fun _ h => by cases h⟩
  rintro token s₁ ⟨h₁, hs₁⟩
  refine Safe.ask fun callbacks => ?_
  refine (requestJson_single creating_stable (fun _ hs => hs.owner) (fun _ hs => { hs with })
    unguarded_guards h₁ hs₁).mono fun result s' ⟨hinv, hcreating, hstored⟩ => ?_
  exact ⟨hinv, hcreating, fun view hview => ⟨_, hstored view hview _ List.mem_cons_self⟩⟩

theorem initializeDraft_single {formVersionId : Option String} (hidle : s.creating = []) :
    Safe (keepingOne config key t) (initializeDraft config t key formVersionId) (fun _ _ => True) s := by
  have hbegin := h.begin (t := t)
  have hn : (s.begin t).owners[s.owners.length]? = some t := owner_of_begin
  refine takeTicket_safe hbegin (Safe.bind (getBinding_single hbegin.single) ?_ fun _ _ _ => trivial)
  rintro existing _ ⟨h₁, ⟨after, rfl⟩, hfound⟩
  obtain ⟨hrestored, hdraft⟩ := hfound existing rfl
  cases existing with
  | some existing => exact Safe.pure trivial
  | none =>
    refine (whileCreating_single (R := fun _ => True) h₁ hn (h.unasked t) hidle hdraft hrestored
      fun s h hs => ?_).mono fun _ _ _ => trivial
    refine Safe.bind (initializeOnce_single h hs) ?_ fun _ _ hs₁ => hs₁.2.1.leaves hs₁.1
    rintro draft s₂ ⟨h₂, hs₂, hstored⟩
    obtain ⟨response, hstored⟩ := hstored draft rfl
    refine Safe.bind (bindCreated_single (R := fun _ => True) h₂ hs₂ trivial hstored) ?_ fun _ _ hs =>
      ⟨hs.1, hs.2.1, hs.2.2.1, nofun⟩
    rintro ⟨⟩ s₃ ⟨h₃, hn₃, hcreating, hholds⟩
    exact Safe.pure ⟨h₃, hn₃, hcreating, fun _ _ => hholds () rfl⟩

theorem serve_single {ticket : Nat} {answer : Except DraftStoreError DraftView} :
    Safe (keepingOne config key t) (serve ticket answer) (fun _ _ => True) s := by
  refine Safe.get ?_
  split
  · exact Safe.pure trivial
  · rename_i m request hfind
    obtain rfl : m = ticket := by simpa using List.find?_some hfind
    let served : StoreState := { s with
      requests := s.requests.filter (·.1 != m)
      answers := s.answers ++ [(m, request, answer)]
      stored := s.stored ++ (answer.toOption.map fun view => storedFor m view request).getD [] }
    have hasked : ∀ question ∈ served.asked, question ∈ s.asked := by
      intro question hquestion
      rcases List.mem_append.mp hquestion with hmem | hmem
      · exact List.mem_append_left _ (List.mem_filter.mp hmem).1
      · rw [List.map_append] at hmem
        rcases List.mem_append.mp hmem with hold | hnew
        · exact List.mem_append_right _ hold
        · rw [List.mem_singleton.mp hnew]
          exact List.mem_append_left _ (List.mem_of_find?_eq_some hfind)
    refine ⟨(⟨{ h with
      asked_lt := fun question hquestion => h.asked_lt question (hasked question hquestion)
      answered := fun found hfound view hview entry hentry => ?_
      created := fun entry hentry => ?_
      saved := fun entry hentry => ?_ }, fun u _ => ?_⟩ : SingleMove key t s served), trivial⟩
    · rcases List.mem_append.mp hfound with hold | hnew
      · exact List.mem_append_left _ (h.answered found hold view hview entry hentry)
      · obtain rfl := List.mem_singleton.mp hnew
        obtain rfl : answer = .ok view := hview
        exact List.mem_append_right _ hentry
    · obtain ⟨draftId, response, hbound, hstored⟩ := h.created entry hentry
      exact ⟨draftId, response, hbound, List.mem_append_left _ hstored⟩
    · obtain ⟨draftId, hbound, hstored⟩ := h.saved entry hentry
      exact ⟨draftId, hbound, List.mem_append_left _ hstored⟩
    · exact { SingleRely.refl key u s with
        stored := fun entry hentry => List.mem_append_left _ hentry
        asked := fun n _ request hrequest => hasked (n, request) hrequest }

end

/-! ## Runs -/

theorem program_single {op : StoreOp} (h : Single key s)
    (hbegins : createsAlone config key s op = true) :
    Safe (keepingOne config key t) (program config t op) (fun _ _ => True) s := by
  cases op with
  | save found response =>
    obtain ⟨hkey, hidle⟩ := Bool.and_eq_true_iff.mp hbegins
    obtain rfl := eq_of_beq hkey
    exact save_single h (by simpa using hidle)
  | initializeDraft found formVersionId =>
    obtain ⟨hkey, hidle⟩ := Bool.and_eq_true_iff.mp hbegins
    obtain rfl := eq_of_beq hkey
    exact Safe.bind (initializeDraft_single h (by simpa using hidle)) (fun _ _ _ => Safe.pure trivial)
      fun _ _ _ => trivial
  | serve ticket answer => exact serve_single h
  | read found qualified selection => cases hbegins
  | delete found => cases hbegins
  | retireSubject subject => cases hbegins

def singleProtocol (config : HttpDraftStoreConfig) (key : DraftKey) :
    Protocol (draftStore config) (creatingAlone config key) where
  inv := Single key
  rely := SingleRely key
  guar := SingleMove key
  rely_refl := SingleRely.refl key
  rely_trans _ _ _ _ := SingleRely.trans
  guar_rely _ u _ _ hne _ hmove := hmove.others u hne.symm
  guar_inv _ _ _ _ hmove := hmove.single
  safe _ _ _ h hbegins := program_single h hbegins

theorem single_initial (metadata : Option Value) : Single key (StoreState.initial metadata) where
  fresh _ := rfl
  restored h := absurd rfl h
  creating_le := Nat.zero_le 1
  created_le := Nat.zero_le 1
  asked_lt _ h := by cases h
  answered _ h := by cases h
  created _ h := by cases h
  saved _ h := by cases h

/-- The value the server holds in a draft: nothing was stored there after it. -/
def Current (s : StoreState) (entry : Stored) : Prop :=
  ∃ older newer, s.stored = older ++ entry :: newer ∧ ∀ later ∈ newer, later.draftId ≠ entry.draftId

def Superseded (s : StoreState) (entry : Stored) : Prop :=
  ∃ older newer, s.stored = older ++ entry :: newer ∧ ∃ later ∈ newer, later.draftId = entry.draftId

/-- At most one create was answered and bound, its draft is the one the key is bound to, and every
saved value was stored in that draft, where it is the current one or was superseded. -/
structure OneDraft (key : DraftKey) (s : StoreState) : Prop where
  created_le : s.created.length ≤ 1
  created : ∀ entry ∈ s.created, ∃ draftId response, s.draftOf key = some draftId
    ∧ (⟨draftId, entry.1, response⟩ : Stored) ∈ s.stored
  saved : ∀ entry ∈ s.saved, ∃ draftId, s.draftOf key = some draftId
    ∧ (⟨draftId, entry.1, entry.2.2⟩ : Stored) ∈ s.stored
    ∧ (Current s ⟨draftId, entry.1, entry.2.2⟩ ∨ Superseded s ⟨draftId, entry.1, entry.2.2⟩)

theorem current_or_superseded {entry : Stored} (h : entry ∈ s.stored) :
    Current s entry ∨ Superseded s entry := by
  obtain ⟨older, newer, heq⟩ := List.append_of_mem h
  by_cases hlater : ∃ later ∈ newer, later.draftId = entry.draftId
  · exact .inr ⟨older, newer, heq, hlater⟩
  · exact .inl ⟨older, newer, heq, fun later hmem hsame => hlater ⟨later, hmem, hsame⟩⟩

theorem Single.oneDraft (h : Single key s) : OneDraft key s where
  __ := h
  saved entry hentry := by
    obtain ⟨draftId, hbound, hstored⟩ := h.saved entry hentry
    exact ⟨draftId, hbound, hstored, current_or_superseded hstored⟩

/-- A key has one draft in every run of its saves and initializations of which none begins while
another creates a draft. -/
theorem creates_one_draft (config : HttpDraftStoreConfig) (key : DraftKey) (metadata : Option Value)
    (es : List (Event Callbacks StoreOp Arrival))
    (p : Pool StoreState Callbacks DraftStoreError Rep)
    (hmeets : (creatingAlone config key).Meets (draftStore config)
      (Pool.initial (StoreState.initial metadata)) es)
    (hrun : (draftStore config).run (Pool.initial (StoreState.initial metadata)) es = some p) :
    OneDraft key p.state :=
  (singleProtocol config key).run_invariant (J := OneDraft key)
    (fun _ _ _ _ hmove _ => hmove.single.oneDraft) (single_initial metadata)
    (single_initial metadata).oneDraft hmeets hrun

instance (s : StoreState) (op : StoreOp) : Decidable ((creatingAlone config key).begins s op) :=
  inferInstanceAs (Decidable (createsAlone config key s op = true))

instance (s : StoreState) (l : Label) (answer : Rep l) :
    Decidable ((creatingAlone config key).resumes s l answer) :=
  inferInstanceAs (Decidable True)

def saveBegun (t : Nat) (id : String) : List (Event Callbacks StoreOp Arrival) :=
  [.begin (.save intakeKey (.object [("id", .string id)])) intakeCallbacks,
    .resume t (.credentials (.ok ())) intakeCallbacks]

/-- The server accepts the request of a ticket, and the save of thread `t` ends. -/
def saveServed (ticket t : Nat) (view : DraftView) : List (Event Callbacks StoreOp Arrival) :=
  [.begin (.serve ticket (.ok view)) intakeCallbacks, .resume t .delivered intakeCallbacks]

def otherView : DraftView := { intakeView (.number 1) with draftId := .string "draft-2" }

theorem creates_one_draft_in_turn :
    ∃ p, (draftStore intakeStore).run intakePool
        (saveBegun 0 "response-1" ++ saveServed 0 0 (intakeView (.number 1))
          ++ saveBegun 2 "response-2" ++ saveServed 1 2 (intakeView (.number 2))) = some p
      ∧ OneDraft intakeKey p.state := by
  have hruns : ((draftStore intakeStore).run intakePool
      (saveBegun 0 "response-1" ++ saveServed 0 0 (intakeView (.number 1))
        ++ saveBegun 2 "response-2" ++ saveServed 1 2 (intakeView (.number 2)))).isSome = true := by
    decide +kernel
  obtain ⟨p, hp⟩ := Option.isSome_iff_exists.mp hruns
  exact ⟨p, hp, creates_one_draft intakeStore intakeKey none _ p
    (Discipline.meets_of_obeys (by decide +kernel)) hp⟩

theorem racing_saves_create_two :
    ∃ p, (draftStore intakeStore).run intakePool
        (saveBegun 0 "response-1" ++ saveBegun 1 "response-2"
          ++ saveServed 0 0 (intakeView (.number 1)) ++ saveServed 1 1 otherView) = some p
      ∧ ¬ OneDraft intakeKey p.state := by
  have hruns : ((draftStore intakeStore).run intakePool
      (saveBegun 0 "response-1" ++ saveBegun 1 "response-2"
        ++ saveServed 0 0 (intakeView (.number 1)) ++ saveServed 1 1 otherView)).any
          (fun p => p.state.created.length == 2) = true := by
    decide +kernel
  obtain ⟨p, hp, htwo⟩ := (Option.any_eq_true _ _).mp hruns
  refine ⟨p, hp, fun hone => ?_⟩
  have hle := hone.created_le
  rw [eq_of_beq htwo] at hle
  exact absurd hle (by decide)

end FormspecWeb.DraftStore
