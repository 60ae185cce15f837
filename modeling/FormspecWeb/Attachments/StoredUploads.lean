import FormspecWeb.Async.Steps
import FormspecWeb.Attachments.PersistentAttachmentStore

/-!
# Uploads that stay

An upload has a URI of its own and is read back until it is deleted, as long as the counter is read
where it was written last, and no item stays in the storage that a later write or a removal could not
reach. A counter that the storage refused to take is kept in memory, while the one before it stays in
the storage, where it is read first.
-/

namespace FormspecWeb.Attachments

open Shared JsonText Async

variable {ν Fault : Type} {platform : DemoPlatform ν Fault} {config : DemoStoreConfig} {s : DemoStorage}
  {key other value : Text} {throws : Bool}

/-- The storage, with the URIs that were returned and the bytes that stand for each until it is deleted. -/
structure DemoWorld where
  storage : DemoStorage
  issued : List (Text × Option (List UInt8))

inductive DemoEvent (Fault : Type) where
  | upload (blob : Blob) (metadata : AttachmentUploadMetadata) (options : UploadOptions Fault)
      (faults : UploadFaults)
  | delete (uri : Text) (throws : Bool)

def deleted (uri : Text) (entry : Text × Option (List UInt8)) : Text × Option (List UInt8) :=
  if entry.1 = uri then (uri, none) else entry

def demoStep (platform : DemoPlatform ν Fault) (config : DemoStoreConfig) (w : DemoWorld) :
    DemoEvent Fault → Option DemoWorld
  | .upload blob metadata options faults =>
    match uploadResumable platform config w.storage blob metadata options faults with
    | (.ok ref, storage) => some ⟨storage, (ref.uri, some blob.bytes) :: w.issued⟩
    | (.error _, storage) => some { w with storage }
  | .delete uri throws => some ⟨delete config w.storage uri throws, w.issued.map (deleted uri)⟩

/-- No URI was returned twice, and each is read as the bytes it stands for. A read that throws finds
nothing but what is in memory. -/
structure Kept (platform : DemoPlatform ν Fault) (config : DemoStoreConfig) (w : DemoWorld) : Prop where
  fresh : (w.issued.map (·.1)).Nodup
  readable : ∀ uri content, (uri, content) ∈ w.issued → ∀ throws,
    (throws = true → w.storage.held (itemKey config.metadataNamespace uri) = none) →
      (getStoredBytes platform config w.storage uri throws).map (·.bytes) = content

/-- The failures of an event do not part what is read from what was written last. -/
def Coherent (config : DemoStoreConfig) (w : DemoWorld) : DemoEvent Fault → Prop
  | .upload _ _ _ faults =>
    let counter := counterKey config.metadataNamespace
    (w.storage.held counter ≠ none →
      (faults.readCounter = true ↔ w.storage.fallback.lookup counter ≠ none))
    ∧ (∀ text n, w.storage.getItem counter faults.readCounter = some text → parseInt text = some n →
      0 ≤ n ∧ n < 2 ^ 53)
    ∧ (faults.writeItem = true → w.storage.held (itemKey config.metadataNamespace (persistentUri
        (nextCounter config.metadataNamespace w.storage faults.readCounter faults.writeCounter).1)) = none)
  | .delete uri throws =>
    throws = true → w.storage.held (itemKey config.metadataNamespace uri) = none

/-! ## Storage -/

namespace DemoStorage

def newest (s : DemoStorage) (key : Text) : Option Text := (s.fallback.lookup key).or (s.held key)

inductive Holds (s : DemoStorage) (key value : Text) : Prop where
  | stored (held : s.held key = some value) (fallback : s.fallback.lookup key = none)
  | fallback (held : s.held key = none) (fallback : s.fallback.lookup key = some value)

theorem setItem_other (h : other ≠ key) : (s.setItem key value throws).held other = s.held other
    ∧ (s.setItem key value throws).fallback.lookup other = s.fallback.lookup other := by
  have hne : ¬ (other == key) = true := by simpa using h
  unfold setItem
  split
  · exact ⟨rfl, by rw [lookup_setEntry, if_neg hne]⟩
  · next items hitems =>
    split
    · exact ⟨rfl, by rw [lookup_setEntry, if_neg hne]⟩
    · refine ⟨?_, by rw [lookup_deleteEntry, if_neg hne]⟩
      rw [held, held, hitems]
      exact lookup_setEntry.trans (if_neg hne)

theorem setItem_self : (s.setItem key value throws).fallback.lookup key = some value
      ∧ (s.setItem key value throws).held key = s.held key ∧ (throws = true ∨ s.held key = none)
    ∨ (s.setItem key value throws).held key = some value
      ∧ (s.setItem key value throws).fallback.lookup key = none := by
  unfold setItem
  split
  · next hnone =>
    refine Or.inl ⟨by rw [lookup_setEntry, if_pos (beq_self_eq_true key)], rfl, Or.inr ?_⟩
    rw [held, hnone]
    rfl
  split
  · next hthrows =>
    exact Or.inl ⟨by rw [lookup_setEntry, if_pos (beq_self_eq_true key)], rfl, Or.inl hthrows⟩
  · refine Or.inr ⟨?_, by rw [lookup_deleteEntry, if_pos (beq_self_eq_true key)]⟩
    exact lookup_setEntry.trans (if_pos (beq_self_eq_true key))

theorem setItem_newest : (s.setItem key value throws).newest key = some value := by
  rw [newest]
  obtain ⟨hfallback, -, -⟩ | ⟨hheld, hfallback⟩ := @setItem_self s key value throws
  · rw [hfallback]
    rfl
  · rw [hfallback, hheld]
    rfl

theorem setItem_holds (h : throws = true → s.held key = none) :
    (s.setItem key value throws).Holds key value := by
  obtain ⟨hfallback, hheld, hthrows | hnone⟩ | ⟨hheld, hfallback⟩ := @setItem_self s key value throws
  · exact .fallback (hheld.trans (h hthrows)) hfallback
  · exact .fallback (hheld.trans hnone) hfallback
  · exact .stored hheld hfallback

theorem removeItem_other (h : other ≠ key) : (s.removeItem key throws).held other = s.held other
    ∧ (s.removeItem key throws).fallback.lookup other = s.fallback.lookup other := by
  have hne : ¬ (other == key) = true := by simpa using h
  unfold removeItem
  split
  · exact ⟨rfl, by rw [lookup_deleteEntry, if_neg hne]⟩
  · next items hitems =>
    refine ⟨?_, by rw [lookup_deleteEntry, if_neg hne]⟩
    rw [held, held, hitems]
    split
    · rfl
    · exact lookup_deleteEntry.trans (if_neg hne)

theorem removeItem_self (h : throws = true → s.held key = none) :
    (s.removeItem key throws).held key = none ∧ (s.removeItem key throws).fallback.lookup key = none := by
  unfold removeItem
  split
  · next hnone =>
    refine ⟨?_, by rw [lookup_deleteEntry, if_pos (beq_self_eq_true key)]⟩
    rw [held, hnone]
    rfl
  · next items hitems =>
    refine ⟨?_, by rw [lookup_deleteEntry, if_pos (beq_self_eq_true key)]⟩
    rw [held]
    split
    · next hthrows =>
      rw [← h hthrows, held, hitems]
    · exact lookup_deleteEntry.trans (if_pos (beq_self_eq_true key))

theorem Holds.congr {t : DemoStorage} (h : s.Holds key value)
    (hsame : t.held key = s.held key ∧ t.fallback.lookup key = s.fallback.lookup key) : t.Holds key value := by
  cases h with
  | stored hheld hfallback => exact .stored (hsame.1.trans hheld) (hsame.2.trans hfallback)
  | fallback hheld hfallback => exact .fallback (hsame.1.trans hheld) (hsame.2.trans hfallback)

/-- A text in one place is read, unless reading the storage that has it throws. -/
theorem getItem_holds (h : s.Holds key value) (hthrows : throws = true → s.held key = none) :
    s.getItem key throws = some value := by
  unfold getItem
  cases h with
  | stored hheld hfallback =>
    have hworks : ¬ throws = true := fun h => by rw [hthrows h] at hheld; cases hheld
    rw [if_neg hworks, hheld]
    rfl
  | fallback hheld hfallback =>
    rw [hheld, hfallback]
    exact ite_self _

theorem getItem_none (hheld : s.held key = none) (hfallback : s.fallback.lookup key = none) :
    s.getItem key throws = none := by
  rw [getItem, hheld, hfallback]
  exact ite_self _

theorem getItem_newest (h : s.held key ≠ none → (throws = true ↔ s.fallback.lookup key ≠ none)) :
    s.getItem key throws = s.newest key := by
  unfold getItem newest
  cases hheld : s.held key with
  | none => simp
  | some found =>
    have hiff := h (by rw [hheld]; exact Option.some_ne_none found)
    cases hfallback : s.fallback.lookup key with
    | none =>
      have hworks : ¬ throws = true := fun h => hiff.mp h hfallback
      rw [if_neg hworks]
      rfl
    | some text =>
      have hthrows : throws = true := hiff.mpr (by rw [hfallback]; exact Option.some_ne_none text)
      rw [if_pos hthrows]
      rfl

end DemoStorage

/-! ## Uploads -/

theorem slices_flatten (chunkSize count : Nat) (bytes : List UInt8) :
    ((List.range count).map fun i => (bytes.drop (i * chunkSize)).take chunkSize).flatten
      = bytes.take (count * chunkSize) := by
  induction count with
  | zero => simp
  | succ count ih =>
    rw [List.range_succ, List.map_append, List.flatten_append, ih, Nat.succ_mul, List.take_add]
    simp

theorem blobChunks_flatten {chunkSize : Nat} (h : 0 < chunkSize) (bytes : List UInt8) :
    (blobChunks chunkSize bytes).flatten = bytes := by
  rw [blobChunks, slices_flatten]
  apply List.take_of_length_le
  have hceil : bytes.length ≤ (bytes.length + chunkSize - 1) / chunkSize * chunkSize := by
    have hdiv := Nat.div_add_mod (bytes.length + chunkSize - 1) chunkSize
    have hmod := Nat.mod_lt (bytes.length + chunkSize - 1) h
    rw [Nat.mul_comm] at hdiv
    omega
  exact hceil.trans (Nat.mul_le_mul_right chunkSize (Nat.le_max_right _ _))

theorem joinChunks_blobChunks {chunkSize : Nat} (h : 0 < chunkSize) (bytes : List UInt8) :
    joinChunks (blobChunks chunkSize bytes) bytes.length = bytes := by
  have hlength : bytes.length = ((blobChunks chunkSize bytes).map (·.length)).sum := by
    rw [← List.length_flatten, blobChunks_flatten h]
  rw [hlength, joinChunks_eq, blobChunks_flatten h]

theorem storedBlob_storedText (platform : DemoPlatform ν Fault) (ref : AttachmentRef) (bytes : List UInt8) :
    storedBlob platform (storedText platform ref bytes) = some ⟨bytes, ref.mimeType⟩ := by
  have hchars : ((Base64.encode bytes).map Char.toNat).map Char.ofNat = Base64.encode bytes := by
    rw [List.map_map]
    exact List.map_id'' (fun c => Char.ofNat_toNat c) _
  have hparsed : parseStoredAttachment platform (storedText platform ref bytes)
      = some ((Base64.encode bytes).map Char.toNat, ref.mimeType) := by
    unfold parseStoredAttachment storedText
    rw [parse_print]
    have hfinite := platform.finite_ofSize ref.size
    simp [Json.reread, rereadMembers, stringMember, Json.member?, storedRefType, hfinite, lookup_entry, units]
  unfold storedBlob
  rw [hparsed]
  show (Base64.atob (((Base64.encode bytes).map Char.toNat).map Char.ofNat)).bind _ = _
  rw [hchars, Base64.atob_encode]
  rfl

theorem uploadResumable_ok {blob : Blob} {metadata : AttachmentUploadMetadata}
    {options : UploadOptions Fault} {faults : UploadFaults} {ref : AttachmentRef} {t : DemoStorage}
    (h : uploadResumable platform config s blob metadata options faults = (.ok ref, t)) :
    let counted := nextCounter config.metadataNamespace s faults.readCounter faults.writeCounter
    ref.uri = persistentUri counted.1 ∧ ∃ raw,
      t = counted.2.setItem (itemKey config.metadataNamespace ref.uri) raw faults.writeItem
        ∧ (storedBlob platform raw).map (·.bytes) = some blob.bytes := by
  unfold uploadResumable at h
  have hpositive : 0 < (max 1 (options.chunkSizeBytes.getD config.chunkSizeBytes)).toNat := by omega
  simp only [joinChunks_blobChunks hpositive] at h
  split at h
  · cases h
  split at h
  · cases h
  · obtain ⟨href, rfl⟩ := Prod.mk.inj h
    cases href
    exact ⟨rfl, _, rfl, by rw [storedBlob_storedText]; rfl⟩

theorem uploadResumable_error {blob : Blob} {metadata : AttachmentUploadMetadata}
    {options : UploadOptions Fault} {faults : UploadFaults} {error : Fault} {t : DemoStorage}
    (h : uploadResumable platform config s blob metadata options faults = (.error error, t)) : t = s := by
  unfold uploadResumable at h
  simp only at h
  split at h
  · exact (Prod.mk.inj h).2.symm
  split at h
  · exact (Prod.mk.inj h).2.symm
  · cases h

theorem itemKey_injective {metadataNamespace uri uri' : Text}
    (h : itemKey metadataNamespace uri = itemKey metadataNamespace uri') : uri = uri' :=
  List.append_cancel_left h

theorem counterKey_ne_itemKey (metadataNamespace uri : Text) :
    counterKey metadataNamespace ≠ itemKey metadataNamespace uri := by
  intro h
  rw [counterKey, itemKey, List.append_assoc] at h
  have htail : units ":counter" = units ":item:" ++ uri := List.append_cancel_left h
  have hsecond : (units ":counter")[1]? = (units ":item:" ++ uri)[1]? := congrArg (·[1]?) htail
  rw [List.getElem?_append_left (by decide)] at hsecond
  exact absurd hsecond (by decide)

theorem persistentUri_injective {m n : Nat} (hm : m ≤ 2 ^ 53) (hn : n ≤ 2 ^ 53)
    (h : persistentUri m = persistentUri n) : m = n := by
  have htexts : decimalInt (m : Int) = decimalInt (n : Int) := List.append_cancel_left h
  rw [decimalInt_natCast hm, decimalInt_natCast hn] at htexts
  exact decimal_injective htexts

theorem nextNumber_natCast {n : Nat} (h : n < 2 ^ 53) : nextNumber (some (n : Int)) = (n + 1 : Nat) := by
  have hrange : (0 ≤ (n : Int) && decide ((n : Int) < 2 ^ 53)) = true := by
    rw [Bool.and_eq_true, decide_eq_true_eq, decide_eq_true_eq]
    omega
  rw [nextNumber, if_pos hrange]
  rfl

theorem nextNumber_nat {found : Option Int} (h : ∀ n, found = some n → 0 ≤ n ∧ n < 2 ^ 53) :
    ∃ m : Nat, nextNumber found = m ∧ m ≤ 2 ^ 53 := by
  cases found with
  | none => exact ⟨1, rfl, by decide⟩
  | some n =>
    obtain ⟨hlow, hhigh⟩ := h n rfl
    obtain ⟨k, rfl⟩ := Int.eq_ofNat_of_zero_le hlow
    exact ⟨k + 1, nextNumber_natCast (by omega), by omega⟩

/-! ## The invariant -/

structure Invariant (platform : DemoPlatform ν Fault) (config : DemoStoreConfig) (w : DemoWorld) : Prop where
  fresh : (w.issued.map (·.1)).Nodup
  counted : w.issued = [] ∨ ∃ last : Nat,
    w.storage.newest (counterKey config.metadataNamespace) = some (decimal last)
      ∧ last ≤ 2 ^ 53 ∧ ∀ entry ∈ w.issued, ∃ k ≤ last, entry.1 = persistentUri (k : Nat)
  stored : ∀ uri bytes, (uri, some bytes) ∈ w.issued → ∃ raw,
    w.storage.Holds (itemKey config.metadataNamespace uri) raw
      ∧ (storedBlob platform raw).map (·.bytes) = some bytes
  removed : ∀ uri, (uri, none) ∈ w.issued →
    w.storage.held (itemKey config.metadataNamespace uri) = none
      ∧ w.storage.fallback.lookup (itemKey config.metadataNamespace uri) = none

variable {w next : DemoWorld}

section

variable (h : Invariant platform config w)
include h

theorem kept_of_invariant : Kept platform config w where
  fresh := h.fresh
  readable := by
    intro uri content hissued throws hthrows
    unfold getStoredBytes
    cases content with
    | some bytes =>
      obtain ⟨raw, hholds, hbytes⟩ := h.stored uri bytes hissued
      rw [DemoStorage.getItem_holds hholds hthrows]
      exact hbytes
    | none =>
      obtain ⟨hheld, hfallback⟩ := h.removed uri hissued
      rw [DemoStorage.getItem_none hheld hfallback]
      rfl

theorem nextCounter_past {readThrows writeThrows : Bool}
    (hread : w.storage.held (counterKey config.metadataNamespace) ≠ none →
      (readThrows = true ↔ w.storage.fallback.lookup (counterKey config.metadataNamespace) ≠ none))
    (hrange : ∀ text n, w.storage.getItem (counterKey config.metadataNamespace) readThrows = some text →
      parseInt text = some n → 0 ≤ n ∧ n < 2 ^ 53) :
    ∃ m : Nat, (nextCounter config.metadataNamespace w.storage readThrows writeThrows).1 = m
      ∧ m ≤ 2 ^ 53 ∧ ∀ entry ∈ w.issued, ∃ k < m, entry.1 = persistentUri (k : Nat) := by
  rcases h.counted with hnone | ⟨last, hlast, -, hissued⟩
  · obtain ⟨m, hm, hle⟩ : ∃ m : Nat, nextNumber (parseInt ((w.storage.getItem
        (counterKey config.metadataNamespace) readThrows).getD (units "0"))) = m ∧ m ≤ 2 ^ 53 := by
      apply nextNumber_nat
      intro n hn
      cases hfound : w.storage.getItem (counterKey config.metadataNamespace) readThrows with
      | none =>
        rw [hfound] at hn
        have hzero : parseInt (units "0") = some 0 := by decide
        obtain rfl := Option.some.inj (hzero.symm.trans hn)
        decide
      | some text =>
        rw [hfound] at hn
        exact hrange text n hfound hn
    refine ⟨m, hm, hle, fun entry hentry => ?_⟩
    rw [hnone] at hentry
    cases hentry
  · have hfound := (DemoStorage.getItem_newest hread).trans hlast
    have hlt : last < 2 ^ 53 := by
      have hbound := (hrange _ _ hfound (parseInt_decimal last)).2
      omega
    refine ⟨last + 1, ?_, by omega, fun entry hentry => ?_⟩
    · unfold nextCounter
      simp only [hfound, Option.getD_some, parseInt_decimal]
      exact nextNumber_natCast hlt
    · obtain ⟨k, hk, heq⟩ := hissued entry hentry
      exact ⟨k, Nat.lt_succ_of_le hk, heq⟩

theorem upload_invariant {blob : Blob}
    {metadata : AttachmentUploadMetadata} {options : UploadOptions Fault} {faults : UploadFaults}
    (hcoherent : Coherent config w (.upload blob metadata options faults)) {ref : AttachmentRef}
    {storage : DemoStorage}
    (hok : uploadResumable platform config w.storage blob metadata options faults = (.ok ref, storage)) :
    Invariant platform config ⟨storage, (ref.uri, some blob.bytes) :: w.issued⟩ := by
  obtain ⟨hread, hrange, hitem⟩ := hcoherent
  obtain ⟨huri, raw, rfl, hraw⟩ := uploadResumable_ok hok
  obtain ⟨m, hm, hmax, hpast⟩ := @nextCounter_past _ _ _ _ _ h faults.readCounter faults.writeCounter hread hrange
  rw [hm] at huri hitem
  have hne : ∀ uri, counterKey config.metadataNamespace ≠ itemKey config.metadataNamespace uri :=
    counterKey_ne_itemKey config.metadataNamespace
  -- the counter is written first, and leaves the items
  have hcounter : ∀ uri, _ := fun uri =>
    @DemoStorage.setItem_other w.storage (counterKey config.metadataNamespace)
      (itemKey config.metadataNamespace uri) (decimal m) faults.writeCounter (hne uri).symm
  have hcounted : (nextCounter config.metadataNamespace w.storage faults.readCounter faults.writeCounter).2
      = w.storage.setItem (counterKey config.metadataNamespace) (decimal m) faults.writeCounter := by
    rw [← decimalInt_natCast hmax, ← hm]
    rfl
  rw [hcounted, huri]
  have hothers : ∀ uri, uri ≠ persistentUri m → _ := fun uri hother =>
    @DemoStorage.setItem_other (w.storage.setItem (counterKey config.metadataNamespace) (decimal m)
      faults.writeCounter) (itemKey config.metadataNamespace (persistentUri m))
      (itemKey config.metadataNamespace uri) raw faults.writeItem fun heq => hother (itemKey_injective heq)
  have hfresh : ∀ entry ∈ w.issued, entry.1 ≠ persistentUri m := by
    intro entry hentry heq
    obtain ⟨k, hk, hentryUri⟩ := hpast entry hentry
    have hkm := persistentUri_injective (by omega) hmax (hentryUri.symm.trans heq)
    omega
  constructor
  case fresh =>
    rw [List.map_cons, List.nodup_cons]
    refine ⟨fun hmem => ?_, h.fresh⟩
    obtain ⟨entry, hentry, heq⟩ := List.mem_map.mp hmem
    exact hfresh entry hentry heq
  case counted =>
    refine Or.inr ⟨m, ?_, hmax, ?_⟩
    · have hlast := @DemoStorage.setItem_other (w.storage.setItem (counterKey config.metadataNamespace)
        (decimal m) faults.writeCounter) (itemKey config.metadataNamespace (persistentUri m))
        (counterKey config.metadataNamespace) raw faults.writeItem (hne _)
      rw [DemoStorage.newest, hlast.1, hlast.2]
      exact DemoStorage.setItem_newest
    · intro entry hentry
      rcases List.mem_cons.mp hentry with rfl | hold
      · exact ⟨m, Nat.le_refl m, rfl⟩
      · obtain ⟨k, hk, heq⟩ := hpast entry hold
        exact ⟨k, Nat.le_of_lt hk, heq⟩
  case stored =>
    intro uri bytes hmem
    rcases List.mem_cons.mp hmem with hnew | hold
    · obtain ⟨rfl, hbytes⟩ := Prod.mk.inj hnew
      cases hbytes
      refine ⟨raw, DemoStorage.setItem_holds fun hthrows => ?_, hraw⟩
      exact (hcounter _).1.trans (hitem hthrows)
    · obtain ⟨text, hholds, hbytes⟩ := h.stored uri bytes hold
      exact ⟨text, (hholds.congr (hcounter uri)).congr (hothers uri (hfresh _ hold)), hbytes⟩
  case removed =>
    intro uri hmem
    rcases List.mem_cons.mp hmem with hnew | hold
    · cases (Prod.mk.inj hnew).2
    · obtain ⟨hheld, hfallback⟩ := h.removed uri hold
      have hother := hothers uri (hfresh _ hold)
      exact ⟨hother.1.trans ((hcounter uri).1.trans hheld),
        hother.2.trans ((hcounter uri).2.trans hfallback)⟩

theorem delete_invariant {uri : Text}
    (hcoherent : throws = true → w.storage.held (itemKey config.metadataNamespace uri) = none) :
    Invariant platform config ⟨delete config w.storage uri throws, w.issued.map (deleted uri)⟩ := by
  have hkeys : ∀ entry, (deleted uri entry).1 = entry.1 := by
    intro entry
    unfold deleted
    split
    · next heq => exact heq.symm
    · rfl
  have hothers : ∀ other, other ≠ itemKey config.metadataNamespace uri → _ := fun other hother =>
    @DemoStorage.removeItem_other w.storage (itemKey config.metadataNamespace uri) other throws hother
  constructor
  case fresh =>
    rw [List.map_map]
    have hsame : w.issued.map ((·.1) ∘ deleted uri) = w.issued.map (·.1) :=
      List.map_congr_left fun entry _ => hkeys entry
    rw [hsame]
    exact h.fresh
  case counted =>
    rcases h.counted with hnone | ⟨last, hlast, hmax, hissued⟩
    · exact Or.inl (by rw [hnone]; rfl)
    · refine Or.inr ⟨last, ?_, hmax, ?_⟩
      · obtain ⟨hheld, hfallback⟩ := hothers _ (counterKey_ne_itemKey config.metadataNamespace uri)
        rw [DemoStorage.newest, delete, hheld, hfallback]
        exact hlast
      · intro entry hentry
        obtain ⟨old, hold, rfl⟩ := List.mem_map.mp hentry
        rw [hkeys]
        exact hissued old hold
  case stored =>
    intro kept bytes hmem
    obtain ⟨old, hold, heq⟩ := List.mem_map.mp hmem
    unfold deleted at heq
    split at heq
    · cases (Prod.mk.inj heq).2
    · next hne =>
      subst heq
      obtain ⟨raw, hholds, hbytes⟩ := h.stored kept bytes hold
      exact ⟨raw, hholds.congr (hothers _ fun hkey => hne (itemKey_injective hkey)), hbytes⟩
  case removed =>
    intro gone hmem
    obtain ⟨old, hold, heq⟩ := List.mem_map.mp hmem
    unfold deleted at heq
    split at heq
    · obtain rfl := (Prod.mk.inj heq).1
      exact DemoStorage.removeItem_self hcoherent
    · next hne =>
      subst heq
      obtain ⟨hheld, hfallback⟩ := h.removed gone hold
      have hother := hothers _ fun hkey => hne (itemKey_injective hkey)
      exact ⟨hother.1.trans hheld, hother.2.trans hfallback⟩

theorem demoStep_invariant {event : DemoEvent Fault}
    (hcoherent : Coherent config w event) (hstep : demoStep platform config w event = some next) :
    Invariant platform config next := by
  cases event with
  | upload blob metadata options faults =>
    rw [demoStep] at hstep
    split at hstep
    · next ref storage hok =>
      exact Option.some.inj hstep ▸ upload_invariant h hcoherent hok
    · next error storage herror =>
      obtain rfl := uploadResumable_error herror
      exact Option.some.inj hstep ▸ h
  | delete uri throws => exact Option.some.inj hstep ▸ delete_invariant h hcoherent

end

def DemoWorld.start (storage : Option (List (Text × Text))) : DemoWorld := ⟨⟨storage, []⟩, []⟩

/-- Uploads are kept in every run in which the failures of the storage are coherent. -/
theorem uploads_kept {storage : Option (List (Text × Text))} {events : List (DemoEvent Fault)}
    {states : List DemoWorld}
    (h : statesOf (demoStep platform config) (DemoWorld.start storage) events = some states)
    (hcoherent : EveryStep (demoStep platform config) (Coherent config) (DemoWorld.start storage) events) :
    ∀ reached ∈ states, Kept platform config reached := by
  have hstart : Invariant platform config (DemoWorld.start storage) := by
    constructor
    case fresh => exact List.nodup_nil
    case counted => exact Or.inl rfl
    case stored => intro uri bytes hmem; cases hmem
    case removed => intro uri hmem; cases hmem
  have hinvariant := statesOf_invariant
    (fun s event t hs hP ht => demoStep_invariant hs hP ht) hstart hcoherent h
  exact fun reached hreached => kept_of_invariant (hinvariant reached hreached)

def onePlatform : DemoPlatform Nat Unit where
  format := wholeNumbers
  ofSize n := n
  isFinite _ := true
  finite_ofSize _ := rfl
  sha256 _ := .ok (units "sha256:00")

def oneConfig : DemoStoreConfig := ⟨units "demo", 262144⟩

def uploadOne (faults : UploadFaults) : DemoEvent Unit :=
  .upload ⟨[7], units "text/plain"⟩ ⟨units "a.txt", units "text/plain"⟩ ⟨none, fun _ => .ok ()⟩ faults

/-- The storage refuses the first item, which is kept in memory and whose removal it refuses too. -/
def refusedItem : List (DemoEvent Unit) :=
  [uploadOne ⟨false, false, true⟩,
    .upload ⟨[8, 9], units "text/plain"⟩ ⟨units "b.txt", units "text/plain"⟩ ⟨none, fun _ => .ok ()⟩
      ⟨false, false, false⟩,
    .delete (persistentUri 1) true]

theorem uploads_kept_of_delete :
    ∃ states, statesOf (demoStep onePlatform oneConfig) (DemoWorld.start (some [])) refusedItem
        = some states
      ∧ ∀ reached ∈ states, Kept onePlatform oneConfig reached := by
  have hcounter : ∀ text n, some (decimal 1) = some text → parseInt text = some n →
      0 ≤ n ∧ n < 2 ^ 53 := by
    intro text n htext hn
    cases htext
    obtain rfl := Option.some.inj ((parseInt_decimal 1).symm.trans hn)
    decide
  have hcoherent : EveryStep (demoStep onePlatform oneConfig) (Coherent oneConfig)
      (DemoWorld.start (some [])) refusedItem := by
    refine everyStep_step rfl ⟨fun hheld => absurd rfl hheld, ?_, fun _ => rfl⟩ ?_
    · intro text n htext
      cases htext
    refine everyStep_step rfl ⟨fun _ => ?_, hcounter, nofun⟩ ?_
    · exact iff_of_false Bool.false_ne_true (not_not.mpr rfl)
    · exact everyStep_step rfl (fun _ => rfl) trivial
  obtain ⟨states, hstates⟩ : ∃ states, statesOf (demoStep onePlatform oneConfig)
      (DemoWorld.start (some [])) refusedItem = some states := ⟨_, rfl⟩
  exact ⟨states, hstates, uploads_kept hstates hcoherent⟩

/-- What was deleted is read where its removal threw, what was uploaded is not read where the storage
cannot be read, and a URI comes back where the storage refused the counter before. -/
theorem uploads_not_kept :
    (∃ w, [uploadOne ⟨false, false, false⟩, .delete (persistentUri 1) true].foldlM
        (demoStep onePlatform oneConfig) (DemoWorld.start (some [])) = some w
      ∧ (persistentUri 1, none) ∈ w.issued
      ∧ getStoredBytes onePlatform oneConfig w.storage (persistentUri 1) false ≠ none)
    ∧ (∃ w, [uploadOne ⟨false, false, false⟩].foldlM
        (demoStep onePlatform oneConfig) (DemoWorld.start (some [])) = some w
      ∧ (persistentUri 1, some [7]) ∈ w.issued
      ∧ getStoredBytes onePlatform oneConfig w.storage (persistentUri 1) true = none)
    ∧ ∃ w, [uploadOne ⟨false, false, false⟩, uploadOne ⟨false, true, false⟩,
        uploadOne ⟨false, false, false⟩].foldlM
        (demoStep onePlatform oneConfig) (DemoWorld.start (some [])) = some w
      ∧ ¬ (w.issued.map (·.1)).Nodup := by
  refine ⟨⟨_, rfl, ?_, ?_⟩, ⟨_, rfl, ?_, rfl⟩, ⟨_, rfl, ?_⟩⟩
  · decide
  · decide +kernel
  · decide
  · decide

end FormspecWeb.Attachments
