import FormspecWeb.SourceWorker.MixedProofReader

/-!
# What the reader has between its steps

The buffers are those of the objects before the offset, in the order of the index and of the declared
lengths, and the batch asks for the next two. A request that fails takes the batch and the reader with
it.
-/

namespace FormspecWeb.SourceWorker

open Shared Async

theorem snapshotInput_of_le {bytes : Bytes} {cap : Nat} (h : bytes.length ≤ cap) :
    snapshotInput bytes cap = some bytes :=
  if_neg (Nat.not_lt.mpr h)

theorem snapshotInput_some {bytes copied : Bytes} {cap : Nat}
    (h : snapshotInput bytes cap = some copied) : copied = bytes ∧ bytes.length ≤ cap := by
  unfold snapshotInput at h
  split at h
  · cases h
  · next hle => exact ⟨(Option.some.inj h).symm, Nat.not_lt.mp hle⟩

namespace Reader

def HasFailed (s : Reader) : Prop := ∃ download ∈ s.downloads, download.stage = .failed

def inFlight (s : Reader) : Nat :=
  s.downloads.countP fun download => match download.stage with
    | .inFlight => true
    | _ => false

def HasIndex (s : Reader) (config : ReaderConfig) : Prop :=
  ∃ indexed, readIndex config.codec s.proofs indexed = some (s.proofIndex, s.objects)

/-- What the reader returns: the objects of the index, in its order and of the lengths it declares. -/
structure Bundles (s : Reader) (prepared : PreparedMixedProof) (config : ReaderConfig) : Prop where
  indexed : s.HasIndex config
  objects : s.buffers.map (·.1) = s.objects
  buffers : prepared.buffers = s.buffers.map (·.2)
  declared : ∀ entry ∈ s.buffers, entry.2.length = entry.1.byteLength
  hydration : prepared.hydrationBytes = s.hydrationBytes
  proofIndex : prepared.proofIndexBytes = config.codec.encode s.proofIndex
  small : prepared.proofIndexBytes.length ≤ smallCap

structure Gathers (s : Reader) (hydration : Bytes) : Prop where
  hydration : s.hydrationBytes = hydration ∧ hydration.length ≤ smallCap
  count : s.objects.length ≤ 256
  batch : s.downloads.length ≤ 2
  loaded : s.buffers.map (·.1) = s.objects.take s.offset
  declared : ∀ entry ∈ s.buffers, entry.2.length = entry.1.byteLength
  bodies : ∀ download ∈ s.downloads, ∀ bytes, download.stage = .loaded bytes →
    bytes.length = download.selector.byteLength
  failed : s.HasFailed → s.siblingsAborted = true ∧ s.stage = .rejected

structure Reads (s : Reader) (config : ReaderConfig) (hydration : Bytes) : Prop
    extends s.Gathers hydration where
  unread : s.stage = .proofs ∨ s.stage = .index → s.buffers = [] ∧ s.offset = 0
  selected : s.stage = .downloading → s.HasIndex config
    ∧ s.downloads.map (·.selector) = (s.objects.drop s.offset).take 2
  returned : ∀ prepared, s.stage = .returned prepared → s.Bundles prepared config

variable {config : ReaderConfig} {hydration : Bytes} {s t : Reader}

theorem Gathers.inFlight_le (h : s.Gathers hydration) : s.inFlight ≤ 2 :=
  List.countP_le_length.trans h.batch

theorem Gathers.not_failed (h : s.Gathers hydration) (hstage : s.stage ≠ .rejected) :
    ¬s.HasFailed :=
  fun hfailed => hstage (h.failed hfailed).2

theorem Gathers.reject (h : s.Gathers hydration) : s.reject.Reads config hydration where
  __ := h
  failed := fun hfailed => ⟨(h.failed hfailed).1, rfl⟩
  unread := fun hstage => hstage.elim nofun nofun
  selected := nofun
  returned := nofun

variable {number : Nat}

variable {download : Download}

theorem set_selector {downloads : List Download}
    {stage : DownloadStage} (h : downloads[number]? = some download) :
    (downloads.set number { download with stage }).map (·.selector)
      = downloads.map (·.selector) := by
  have hselector : (downloads.map (·.selector))[number]? = some download.selector := by
    rw [List.getElem?_map, h]
    rfl
  rw [List.map_set]
  apply List.ext_getElem?
  intro i
  by_cases hi : number = i
  · subst hi
    rw [List.getElem?_set_self', hselector]
    rfl
  · rw [List.getElem?_set_ne hi]

theorem Gathers.fail (h : s.Gathers hydration) :
    (s.fail number download).Reads config hydration where
  __ := h
  batch := (List.length_set ..).le.trans h.batch
  bodies := by
    intro other hother bytes hstage
    rcases List.mem_or_eq_of_mem_set hother with hold | rfl
    · exact h.bodies other hold bytes hstage
    · cases hstage
  failed := fun _ => ⟨rfl, rfl⟩
  unread := fun hstage => hstage.elim nofun nofun
  selected := nofun
  returned := nofun

theorem Reads.advance {stage : DownloadStage}
    (h : s.Reads config hydration) (hfound : s.downloads[number]? = some download)
    (hbytes : ∀ bytes, stage = .loaded bytes → bytes.length = download.selector.byteLength)
    (hstage : stage ≠ .failed) (started : Nat) :
    Reads { s with downloads := s.downloads.set number { download with stage }, started } config
      hydration where
  __ := h
  batch := (List.length_set ..).le.trans h.batch
  bodies := by
    intro other hother bytes hloaded
    rcases List.mem_or_eq_of_mem_set hother with hold | rfl
    · exact h.bodies other hold bytes hloaded
    · exact hbytes bytes hloaded
  failed := by
    rintro ⟨other, hother, hfailed⟩
    rcases List.mem_or_eq_of_mem_set hother with hold | rfl
    · exact h.failed ⟨other, hold, hfailed⟩
    · exact absurd hfailed hstage
  selected := fun hdownloading =>
    ⟨(h.selected hdownloading).1, (set_selector hfound).trans (h.selected hdownloading).2⟩
  returned := fun prepared hreturned =>
    let bundles := h.returned prepared hreturned
    { indexed := bundles.indexed
      objects := bundles.objects
      buffers := bundles.buffers
      declared := bundles.declared
      hydration := bundles.hydration
      proofIndex := bundles.proofIndex
      small := bundles.small }

variable {answers : List Bool}

variable {selectors : List ObjectSelector}

theorem openDownloads_selector {aborted : Bool} {failed : Bool} :
    (openDownloads aborted selectors answers failed).1.map (·.selector) = selectors := by
  induction selectors generalizing answers failed with
  | nil => rfl
  | cons selector selectors ih => exact congrArg (selector :: ·) ih

theorem openDownloads_of_failed {aborted : Bool}
    : (openDownloads aborted selectors answers true).2 = true := by
  induction selectors generalizing answers with
  | nil => rfl
  | cons selector selectors ih => exact ih

/-- No request of a batch has its bytes yet, and none of a batch that goes on has failed. -/
theorem openDownloads_stage {aborted : Bool} {failed : Bool}
    (h : download ∈ (openDownloads aborted selectors answers failed).1) :
    download.stage = .credentials
      ∨ (download.stage = .failed ∧ (openDownloads aborted selectors answers failed).2 = true) := by
  induction selectors generalizing answers failed with
  | nil => cases h
  | cons selector selectors ih =>
    rcases List.mem_cons.mp h with rfl | hrest
    · by_cases hrefused : (aborted || failed || !(answers.headD true)) = true
      · right
        refine ⟨if_pos hrefused, ?_⟩
        unfold openDownloads
        simp only [hrefused, Bool.or_true]
        exact openDownloads_of_failed
      · left
        exact if_neg hrefused
    · exact ih hrest

theorem Gathers.proceed (h : s.Gathers hydration) (hindex : s.HasIndex config) :
    (s.proceed config answers).Reads config hydration := by
  unfold Reader.proceed
  by_cases hend : s.objects.length ≤ s.offset
  · rw [if_pos hend]
    cases hencoded : snapshotInput (config.codec.encode s.proofIndex) smallCap with
    | none => exact h.reject
    | some proofIndexBytes =>
      obtain ⟨rfl, hsmall⟩ := snapshotInput_some hencoded
      have hall : s.buffers.map (·.1) = s.objects := by
        rw [h.loaded, List.take_of_length_le hend]
      exact { h with
        batch := Nat.zero_le 2
        bodies := fun download hdownload => by cases hdownload
        failed := fun ⟨download, hdownload, _⟩ => by cases hdownload
        unread := fun hstage => hstage.elim (fun h => by cases h) (fun h => by cases h)
        selected := fun hdownloading => by cases hdownloading
        returned := by
          intro prepared hreturned
          cases hreturned
          exact ⟨hindex, hall, rfl, h.declared, rfl, rfl, hsmall⟩ }
  · rw [if_neg hend]
    have hselector : (openDownloads s.aborted ((s.objects.drop s.offset).take 2) answers false).1.map
        (·.selector) = (s.objects.drop s.offset).take 2 := openDownloads_selector
    have hstages : ∀ download ∈ (openDownloads s.aborted ((s.objects.drop s.offset).take 2) answers
        false).1, download.stage = .credentials ∨ (download.stage = .failed
          ∧ (openDownloads s.aborted ((s.objects.drop s.offset).take 2) answers false).2 = true) :=
      fun download hdownload => openDownloads_stage hdownload
    generalize openDownloads s.aborted ((s.objects.drop s.offset).take 2) answers false = opened
      at hselector hstages ⊢
    obtain ⟨downloads, failed⟩ := opened
    have hlength : downloads.length ≤ 2 := by
      rw [← List.length_map (f := Download.selector), hselector]
      exact List.length_take_le 2 _
    have hunread : (if failed then ReaderStage.rejected else .downloading) ≠ .proofs
        ∧ (if failed then ReaderStage.rejected else .downloading) ≠ .index := by
      cases failed <;> constructor <;> intro heq <;> cases heq
    exact { h with
      batch := hlength
      bodies := by
        intro download hdownload bytes hloaded
        rcases hstages download hdownload with hcredentials | ⟨hfailed, -⟩
        · rw [hcredentials] at hloaded
          cases hloaded
        · rw [hfailed] at hloaded
          cases hloaded
      failed := by
        rintro ⟨download, hdownload, hfailed⟩
        rcases hstages download hdownload with hcredentials | ⟨-, haborted⟩
        · rw [hfailed] at hcredentials
          cases hcredentials
        · exact ⟨haborted, if_pos haborted⟩
      unread := fun hstage => hstage.elim (absurd · hunread.1) (absurd · hunread.2)
      selected := fun _ => ⟨hindex, hselector⟩
      returned := by
        intro prepared hreturned
        simp only at hreturned
        split at hreturned <;> cases hreturned }

theorem readSelectors_length {items entries : List Value} {position : Nat}
    {objects : List ObjectSelector} (h : readSelectors items entries position = some objects) :
    objects.length ≤ items.length := by
  induction items generalizing entries position objects with
  | nil =>
    cases h
    exact le_rfl
  | cons item items ih =>
    cases entries with
    | nil =>
      cases h
      exact Nat.zero_le _
    | cons entry entries =>
      obtain ⟨selector, -, h⟩ := Option.bind_eq_some_iff.mp h
      obtain ⟨selectors, hselectors, h⟩ := Option.bind_eq_some_iff.mp h
      cases h
      exact Nat.succ_le_succ (ih hselectors)

theorem readIndex_count {codec : ProofCodec} {proofs indexed proofIndex : Value}
    {objects : List ObjectSelector}
    (h : readIndex codec proofs indexed = some (proofIndex, objects)) : objects.length ≤ 256 := by
  unfold readIndex at h
  obtain ⟨entries, -, h⟩ := Option.bind_eq_some_iff.mp h
  obtain ⟨found, -, h⟩ := Option.bind_eq_some_iff.mp h
  obtain ⟨buffers, -, h⟩ := Option.bind_eq_some_iff.mp h
  split at h
  · next hchecks =>
    simp only [Bool.and_eq_true, decide_eq_true_eq] at hchecks
    obtain ⟨selectors, hselectors, h⟩ := Option.bind_eq_some_iff.mp h
    split at h
    · cases h
      exact (readSelectors_length hselectors).trans hchecks.1.1.1.1.1.2
    · cases h
  · cases h

section

variable (h : s.Reads config hydration)
include h

variable {current : Bool}

theorem Reads.onProofs {response : Option Bytes} (hstage : s.stage = .proofs) :
    (s.onProofs config response current).Reads config hydration := by
  have hfailed := h.not_failed (by rw [hstage]; exact nofun)
  unfold Reader.onProofs
  split
  · exact h.reject
  split
  · exact h.reject
  split
  · exact h.reject
  split
  · exact { h with
      failed := fun hother => absurd hother hfailed
      unread := fun _ => h.unread (Or.inl hstage)
      selected := nofun
      returned := fun prepared hreturned => by cases hreturned }
  · exact h.reject

theorem Reads.onIndexed {bytes : Option Bytes} (hstage : s.stage = .index) :
    (s.onIndexed config bytes current answers).Reads config hydration := by
  have hfailed := h.not_failed (by rw [hstage]; exact nofun)
  obtain ⟨hbuffers, hoffset⟩ := h.unread (Or.inr hstage)
  unfold Reader.onIndexed
  split
  · exact h.reject
  · next proofIndex objects hread =>
    obtain ⟨indexed, -, hread⟩ := Option.bind_eq_some_iff.mp hread
    split at hread
    · cases hread
    · refine Gathers.proceed {
        hydration := h.hydration
        count := readIndex_count hread
        batch := h.batch
        loaded := ?_
        declared := h.declared
        bodies := h.bodies
        failed := fun hother => absurd hother hfailed } ⟨indexed, hread⟩
      simp only
      rw [hbuffers, hoffset]
      rfl

theorem Reads.onCredentials
    (hstep : s.onCredentials number current = some t) : t.Reads config hydration := by
  unfold Reader.onCredentials at hstep
  split at hstep
  · next download hfound =>
    split at hstep
    · split at hstep
      · cases hstep
        exact h.fail
      · cases hstep
        exact h.advance hfound (fun bytes hloaded => by cases hloaded) (fun heq => by cases heq) _
    · cases hstep
  · cases hstep

theorem Reads.onFailed (hstep : s.onFailed number = some t) : t.Reads config hydration := by
  unfold Reader.onFailed at hstep
  split at hstep
  · split at hstep
    · cases hstep
      exact h.fail
    · cases hstep
      exact h.fail
    · cases hstep
  · cases hstep

theorem Reads.onReply {bytes : Bytes} (hstep : s.onReply number bytes current = some t) :
    t.Reads config hydration := by
  unfold Reader.onReply at hstep
  split at hstep
  · next download hfound =>
    split at hstep
    · split at hstep
      · cases hstep
        exact h.fail
      · next hchecks =>
        cases hstep
        simp only [Bool.or_eq_true, bne_iff_ne, ne_eq, not_or, Decidable.not_not] at hchecks
        refine h.advance hfound ?_ (fun heq => by cases heq) _
        intro loaded hloaded
        cases hloaded
        exact hchecks.2
    · cases hstep
  · cases hstep

end

theorem loadedBytes_mapM {downloads : List Download} {loaded : List (ObjectSelector × Bytes)}
    (h : downloads.mapM loadedBytes = some loaded) :
    loaded.map (·.1) = downloads.map (·.selector)
      ∧ ∀ entry ∈ loaded, ∃ download ∈ downloads,
        download.selector = entry.1 ∧ download.stage = .loaded entry.2 := by
  induction downloads generalizing loaded with
  | nil =>
    cases h
    exact ⟨rfl, nofun⟩
  | cons download downloads ih =>
    rw [List.mapM_cons] at h
    obtain ⟨entry, hentry, h⟩ := Option.bind_eq_some_iff.mp h
    obtain ⟨entries, hentries, h⟩ := Option.bind_eq_some_iff.mp h
    cases h
    obtain ⟨hselectors, hbodies⟩ := ih hentries
    have hloaded : download.selector = entry.1 ∧ download.stage = .loaded entry.2 := by
      unfold loadedBytes at hentry
      split at hentry
      · next hstage =>
        cases hentry
        exact ⟨rfl, hstage⟩
      · cases hentry
    constructor
    · rw [List.map_cons, List.map_cons, hselectors, hloaded.1]
    · intro other hother
      rcases List.mem_cons.mp hother with rfl | hrest
      · exact ⟨download, List.mem_cons_self, hloaded⟩
      · obtain ⟨found, hfound, hbody⟩ := hbodies other hrest
        exact ⟨found, List.mem_cons_of_mem _ hfound, hbody⟩

theorem Reads.onSettled {current : Bool} (h : s.Reads config hydration)
    (hstep : s.onSettled config current answers = some t) : t.Reads config hydration := by
  unfold Reader.onSettled at hstep
  split at hstep
  · next loaded hstage hloaded =>
    obtain ⟨hselectors, hbodies⟩ := loadedBytes_mapM hloaded
    have hfailed := h.not_failed (by rw [hstage]; exact nofun)
    split at hstep
    · cases hstep
      exact h.reject
    · cases hstep
      refine Gathers.proceed {
        hydration := h.hydration
        count := h.count
        batch := h.batch
        loaded := ?_
        declared := ?_
        bodies := h.bodies
        failed := fun hother => absurd hother hfailed } (h.selected hstage).1
      · change (s.buffers ++ loaded).map (·.1) = s.objects.take (s.offset + 2)
        rw [List.map_append, h.loaded, hselectors, (h.selected hstage).2, List.take_add]
      · intro entry hentry
        rcases List.mem_append.mp hentry with hold | hnew
        · exact h.declared entry hold
        · obtain ⟨download, hdownload, hselector, hbody⟩ := hbodies entry hnew
          rw [← hselector]
          exact h.bodies download hdownload entry.2 hbody
  · cases hstep

theorem Reads.step {event : ReaderEvent} (h : s.Reads config hydration)
    (hstep : s.step config event = some t) : t.Reads config hydration := by
  cases event with
  | abort =>
    cases hstep
    exact { h with returned := fun prepared hreturned => { h.returned prepared hreturned with } }
  | proofs response current =>
    simp only [Reader.step] at hstep
    split at hstep
    · next hstage =>
      cases hstep
      exact h.onProofs hstage
    · cases hstep
  | indexed bytes current answers =>
    simp only [Reader.step] at hstep
    split at hstep
    · next hstage =>
      cases hstep
      exact h.onIndexed hstage
    · cases hstep
  | credentials number current => exact h.onCredentials hstep
  | failed number => exact h.onFailed hstep
  | reply number bytes current => exact h.onReply hstep
  | settled current answers => exact h.onSettled hstep

def Stopped (sent : Nat) (s : Reader) : Prop :=
  s.siblingsAborted = true ∧ s.stage = .rejected ∧ s.started = sent

theorem Stopped.step {sent : Nat} {event : ReaderEvent} (h : s.Stopped sent)
    (hstep : s.step config event = some t) : t.Stopped sent := by
  obtain ⟨haborted, hstage, hsent⟩ := h
  have hfail : ∀ number download, (s.fail number download).Stopped sent :=
    fun number download => ⟨rfl, rfl, hsent⟩
  cases event with
  | abort =>
    cases hstep
    exact ⟨haborted, hstage, hsent⟩
  | proofs response current =>
    simp only [Reader.step, hstage] at hstep
    cases hstep
  | indexed bytes current answers =>
    simp only [Reader.step, hstage] at hstep
    cases hstep
  | credentials number current =>
    simp only [Reader.step, Reader.onCredentials, haborted, Bool.or_true, Bool.true_or,
      if_true] at hstep
    split at hstep
    · split at hstep
      · exact Option.some.inj hstep ▸ hfail _ _
      · cases hstep
    · cases hstep
  | failed number =>
    simp only [Reader.step, Reader.onFailed] at hstep
    split at hstep
    · split at hstep
      · exact Option.some.inj hstep ▸ hfail _ _
      · exact Option.some.inj hstep ▸ hfail _ _
      · cases hstep
    · cases hstep
  | reply number bytes current =>
    simp only [Reader.step, Reader.onReply, haborted, Bool.or_true, Bool.true_or,
      if_true] at hstep
    split at hstep
    · split at hstep
      · exact Option.some.inj hstep ▸ hfail _ _
      · cases hstep
    · cases hstep
  | settled current answers =>
    simp only [Reader.step, Reader.onSettled, hstage] at hstep
    cases hstep

theorem opened_reads {request : NativeHydrationRequest}
    (h : opened config hydration request = some s) : s.Reads config hydration := by
  unfold opened at h
  dsimp only at h
  obtain ⟨copied, hcopied, hview⟩ := Option.bind_eq_some_iff.mp h
  obtain ⟨view, -, hopened⟩ := Option.bind_eq_some_iff.mp hview
  obtain ⟨rfl, hsmall⟩ := snapshotInput_some hcopied
  split at hopened
  · cases hopened
    exact {
      hydration := ⟨rfl, hsmall⟩
      count := Nat.zero_le _
      batch := Nat.zero_le _
      loaded := rfl
      declared := nofun
      bodies := nofun
      failed := fun ⟨download, hdownload, _⟩ => by cases hdownload
      unread := fun _ => ⟨rfl, rfl⟩
      selected := nofun
      returned := fun prepared hstage => by cases hstage }
  · cases hopened

end Reader

end FormspecWeb.SourceWorker
