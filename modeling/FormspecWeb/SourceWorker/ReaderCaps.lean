import FormspecWeb.Shared.CanonicalText
import FormspecWeb.SourceWorker.ReaderRuns
import Mathlib.Algebra.Order.BigOperators.Group.List
import Mathlib.Algebra.Order.Group.Nat

/-!
# What the reader returns, and what the worker takes

The reader counts the objects against the cap of the worker's whole input; the worker counts the
selection, the hydration and the proof index with them. A bundle is taken with every selection
exactly where the cap has room for all of these.
-/

namespace FormspecWeb.SourceWorker

open Shared Async

/-! ## The worker's caps -/

structure MixedProofInputs.WithinCaps (input : MixedProofInputs) : Prop where
  count : input.buffers.length ≤ 256
  total : input.selectionBytes.length + input.hydrationBytes.length + input.proofIndexBytes.length
    + (input.buffers.map (·.length)).sum ≤ totalCap
  selection : input.selectionBytes.length ≤ smallCap
  hydration : input.hydrationBytes.length ≤ smallCap
  proofIndex : input.proofIndexBytes.length ≤ smallCap

variable {buffers : List Bytes}

theorem countBytes_foldlM {total : Nat} (htotal : total ≤ totalCap) :
    (buffers.foldlM countBytes total).isSome = true
      ↔ total + (buffers.map (·.length)).sum ≤ totalCap := by
  induction buffers generalizing total with
  | nil => simpa using htotal
  | cons bytes buffers ih =>
    rw [List.foldlM_cons, List.map_cons, List.sum_cons, ← Nat.add_assoc]
    unfold countBytes
    by_cases hover : totalCap < total + bytes.length
    · rw [if_pos hover]
      simp only [Option.bind_eq_bind, Option.bind_none, Option.isSome_none, Bool.false_eq_true,
        false_iff]
      omega
    · rw [if_neg hover]
      exact ih (Nat.not_lt.mp hover)

theorem snapshotInputs_of_le (h : ∀ bytes ∈ buffers, bytes.length ≤ totalCap) :
    buffers.mapM (fun bytes => snapshotInput bytes totalCap) = some buffers := by
  induction buffers with
  | nil => rfl
  | cons bytes buffers ih =>
    obtain ⟨hbytes, hbuffers⟩ := List.forall_mem_cons.mp h
    rw [List.mapM_cons, snapshotInput_of_le hbytes, ih hbuffers]
    rfl

theorem length_le_sum {bytes : Bytes} (h : bytes ∈ buffers) :
    bytes.length ≤ (buffers.map (·.length)).sum :=
  List.le_sum_of_mem (List.mem_map_of_mem h)

theorem countBytes_inputs (input : MixedProofInputs) :
    (([input.selectionBytes, input.hydrationBytes, input.proofIndexBytes] ++ input.buffers).foldlM
      countBytes 0).isSome = true
      ↔ input.selectionBytes.length + input.hydrationBytes.length + input.proofIndexBytes.length
        + (input.buffers.map (·.length)).sum ≤ totalCap := by
  rw [countBytes_foldlM (Nat.zero_le totalCap)]
  simp only [List.map_append, List.map_cons, List.map_nil, List.sum_append, List.sum_cons,
    List.sum_nil, Nat.zero_add, Nat.add_zero, ← Nat.add_assoc]

theorem snapshotMixedInputs_within {input copied : MixedProofInputs}
    (h : snapshotMixedInputs input = some copied) : input.WithinCaps := by
  unfold snapshotMixedInputs at h
  split at h
  · cases h
  next hlength =>
  obtain ⟨total, htotal, h⟩ := Option.bind_eq_some_iff.mp h
  split at h
  · cases h
  next hsmall =>
  have hsum := (countBytes_inputs input).mp (Option.isSome_of_eq_some htotal)
  simp only [List.any_cons, List.any_nil, Bool.or_false, Bool.or_eq_true, decide_eq_true_eq,
    not_or, Nat.not_lt] at hsmall
  exact ⟨Nat.not_lt.mp hlength, hsum, hsmall.1, hsmall.2.1, hsmall.2.2⟩

theorem MixedProofInputs.WithinCaps.snapshot {input : MixedProofInputs} (h : input.WithinCaps) :
    snapshotMixedInputs input = some input := by
  have htotal := h.total
  obtain ⟨total, hfold⟩ := Option.isSome_iff_exists.mp ((countBytes_inputs input).mpr htotal)
  have hbuffers : ∀ bytes ∈ input.buffers, bytes.length ≤ totalCap := by
    intro bytes hbytes
    have := length_le_sum hbytes
    omega
  have hsmall : ([input.selectionBytes, input.hydrationBytes, input.proofIndexBytes].any
      fun bytes => decide (smallCap < bytes.length)) = false := by
    simp [h.selection, h.hydration, h.proofIndex]
  unfold snapshotMixedInputs
  rw [if_neg (Nat.not_lt.mpr h.count), hfold]
  simp only [Option.bind_eq_bind, Option.bind_some, hsmall, Bool.false_eq_true, if_false]
  rw [snapshotInput_of_le h.selection, snapshotInput_of_le h.hydration,
    snapshotInput_of_le h.proofIndex, snapshotInputs_of_le hbuffers]
  rfl

theorem snapshotMixedInputs_all_iff {hydrationBytes proofIndexBytes : Bytes}
    (hcount : buffers.length ≤ 256) (hhydration : hydrationBytes.length ≤ smallCap)
    (hindex : proofIndexBytes.length ≤ smallCap) :
    (∀ selectionBytes : Bytes, selectionBytes.length ≤ smallCap →
      snapshotMixedInputs { selectionBytes, hydrationBytes, proofIndexBytes, buffers }
        = some { selectionBytes, hydrationBytes, proofIndexBytes, buffers })
      ↔ smallCap + hydrationBytes.length + proofIndexBytes.length
        + (buffers.map (·.length)).sum ≤ totalCap := by
  constructor
  · intro h
    have hlargest := (snapshotMixedInputs_within
      (h (List.replicate smallCap 0) List.length_replicate.le)).total
    rw [List.length_replicate] at hlargest
    exact hlargest
  · intro h selectionBytes hselection
    have hwithin : selectionBytes.length + hydrationBytes.length + proofIndexBytes.length
        + (buffers.map (·.length)).sum ≤ totalCap := by omega
    exact (MixedProofInputs.WithinCaps.mk hcount hwithin hselection hhydration hindex).snapshot

namespace Reader

variable {config : ReaderConfig} {hydration : Bytes} {s t : Reader}

theorem Bundles.lengths {prepared : PreparedMixedProof} (h : s.Bundles prepared config) :
    prepared.buffers.map (·.length) = s.objects.map (·.byteLength) := by
  rw [h.buffers, ← h.objects, List.map_map, List.map_map]
  exact List.map_congr_left h.declared

theorem Bundles.taken_iff {prepared : PreparedMixedProof} (h : s.Bundles prepared config)
    (hreads : s.Gathers hydration) :
    (∀ selectionBytes : Bytes, selectionBytes.length ≤ smallCap →
      snapshotMixedInputs ⟨selectionBytes, prepared.hydrationBytes, prepared.proofIndexBytes,
        prepared.buffers⟩
        = some ⟨selectionBytes, prepared.hydrationBytes, prepared.proofIndexBytes,
          prepared.buffers⟩)
      ↔ smallCap + hydration.length + (config.codec.encode s.proofIndex).length
        + (s.objects.map (·.byteLength)).sum ≤ totalCap := by
  obtain ⟨hhydration, hsmall⟩ := hreads.hydration
  have hcount : prepared.buffers.length ≤ 256 := by
    rw [← List.length_map (f := List.length), h.lengths, List.length_map]
    exact hreads.count
  have heq : prepared.hydrationBytes = hydration := h.hydration.trans hhydration
  rw [heq, ← h.lengths, ← h.proofIndex]
  exact snapshotMixedInputs_all_iff hcount hsmall h.small

/-- In every run, two requests of objects at most are in flight, and none is sent after one has
failed. A bundle has the objects of the index in its order and of the declared lengths; the worker
takes it with every selection exactly where the cap has room for the largest one, the hydration and
the proof index next to the objects. -/
theorem readAll_taken_iff {request : NativeHydrationRequest} {events : List ReaderEvent}
    (hopened : opened config hydration request = some s)
    (hrun : events.foldlM (Reader.step config) s = some t) :
    t.inFlight ≤ 2
    ∧ (t.HasFailed → ∀ later u, List.foldlM (Reader.step config) t later = some u →
        u.started = t.started)
    ∧ ∀ prepared, t.stage = .returned prepared →
        t.Bundles prepared config
        ∧ ((∀ selectionBytes : Bytes, selectionBytes.length ≤ smallCap →
              snapshotMixedInputs ⟨selectionBytes, prepared.hydrationBytes,
                prepared.proofIndexBytes, prepared.buffers⟩
                = some ⟨selectionBytes, prepared.hydrationBytes, prepared.proofIndexBytes,
                  prepared.buffers⟩)
            ↔ smallCap + hydration.length + (config.codec.encode t.proofIndex).length
              + (t.objects.map (·.byteLength)).sum ≤ totalCap) := by
  have hreads : t.Reads config hydration :=
    foldlM_invariant (J := fun s => s.Reads config hydration)
      (fun _ _ _ hreads hstep => hreads.step hstep) (opened_reads hopened) hrun
  refine ⟨hreads.inFlight_le, fun hfailed later u hlater => ?_, fun prepared hreturned => ?_⟩
  · obtain ⟨haborted, hstage⟩ := hreads.failed hfailed
    have hstopped : u.Stopped t.started :=
      foldlM_invariant (J := Stopped t.started) (fun _ _ _ hstopped hstep => hstopped.step hstep)
        ⟨haborted, hstage, rfl⟩ hlater
    exact hstopped.2.2
  · have hbundles := hreads.returned prepared hreturned
    exact ⟨hbundles, hbundles.taken_iff hreads.toGathers⟩

/-! ## An object as large as the cap -/

def largeView : Value :=
  .object [("operation", .string "hydrate"), ("draftId", .string "d1"), ("draftVersion", .number 1),
    ("candidateHash", .string "c"), ("requestHash", .string "r"), ("scope", .string "s"),
    ("owner", .string "o"), ("selection", .object []), ("sources", .object [])]

def largeKey : String := "sha256:0000000000000000000000000000000000000000000000000000000000000000"

def largeProofs : Value :=
  .object [("version", .number 1), ("hydration", largeView), ("proofs", .array [])]

def largeProofIndex : Value :=
  .object [("version", .number 1), ("references", .array []),
    ("buffers", .array [.object [("key", .string largeKey), ("bytes", .number 0)]])]

def largeIndex : Value :=
  .object [("version", .number 1), ("status", .string "indexed"), ("proofIndex", largeProofIndex),
    ("objects", .array [.object [("objectKey", .string largeKey), ("bufferIndex", .number 0),
      ("sha256", .string largeKey), ("byteLength", .number 67108864)]])]

def largeEncode (value : Value) : Bytes :=
  (canonicalText value).map fun c => UInt8.ofNat c.toNat

def largeCodec : ProofCodec where
  canonicalize value := some (String.ofList (canonicalText value))
  decode bytes := [largeView, largeProofs, largeIndex].find? fun value => largeEncode value == bytes
  field bytes name := if bytes == largeEncode largeProofs && name == "proofs" then
    some (largeEncode (.array [])) else none
  encode := largeEncode

def largeConfig : ReaderConfig := ⟨largeCodec, "s"⟩

def largeRequest : NativeHydrationRequest where
  scope := "s"
  owner := .string "o"
  selection := .object []
  draftId := "d1"
  draftVersion := 1
  candidateHash := "c"
  requestHash := "r"
  sources := .object []

def largeBody : Bytes := List.replicate totalCap 0

def largeEvents : List ReaderEvent :=
  [.proofs (some (largeEncode largeProofs)) true, .indexed (some (largeEncode largeIndex)) true [],
    .credentials 0 true, .reply 0 largeBody true, .settled true []]

def largeOpened : Reader where
  hydrationBytes := largeEncode largeView
  view := largeView
  aborted := false
  stage := .proofs
  proofs := .undefined
  proofIndex := .undefined
  objects := []
  offset := 0
  downloads := []
  siblingsAborted := false
  buffers := []
  started := 0

theorem large_texts : (largeEncode largeView == largeEncode largeProofs) = false
    ∧ (largeEncode largeView == largeEncode largeIndex) = false
    ∧ (largeEncode largeProofs == largeEncode largeIndex) = false
    ∧ 0 < (largeEncode largeView).length ∧ (largeEncode largeView).length ≤ 1024
    ∧ (largeEncode largeProofs).length ≤ 1024 ∧ (largeEncode largeIndex).length ≤ 1024
    ∧ (largeEncode largeProofIndex).length ≤ 1024
    ∧ (largeEncode (.array [])).length ≤ smallCap := by
  decide +kernel

theorem large_decode_view : largeCodec.decode (largeEncode largeView) = some largeView := by
  simp only [largeCodec, List.find?_cons, beq_self_eq_true]

theorem large_decode_proofs : largeCodec.decode (largeEncode largeProofs) = some largeProofs := by
  obtain ⟨hview, -⟩ := large_texts
  simp only [largeCodec, List.find?_cons, hview, beq_self_eq_true]

theorem large_decode_index : largeCodec.decode (largeEncode largeIndex) = some largeIndex := by
  obtain ⟨-, hview, hproofs, -⟩ := large_texts
  simp only [largeCodec, List.find?_cons, hview, hproofs, beq_self_eq_true]

theorem large_equal (value : Value) : largeCodec.equal (some value) (some value) = true :=
  beq_self_eq_true _

theorem large_small {value : Value} (h : (largeEncode value).length ≤ 1024) :
    snapshotInput (largeEncode value) smallCap = some (largeEncode value) :=
  snapshotInput_of_le (h.trans (by decide))

theorem large_opened : opened largeConfig (largeEncode largeView) largeRequest = some largeOpened := by
  obtain ⟨-, -, -, -, hsmall, -⟩ := large_texts
  have hview : largeCodec.decodeBoundedProofJson (largeEncode largeView) smallCap
      = some largeView := by
    rw [ProofCodec.decodeBoundedProofJson, large_small hsmall, Option.bind_some,
      large_decode_view]
  unfold opened
  dsimp only
  rw [large_small hsmall, Option.bind_eq_bind, Option.bind_some]
  change (largeCodec.decodeBoundedProofJson _ _).bind _ = _
  rw [hview, Option.bind_some]
  exact if_pos rfl

def largeSelector : ObjectSelector := ⟨largeKey, 67108864⟩

def largeDownloading (stage : DownloadStage) (started : Nat) : Reader :=
  { largeOpened with
    stage := .downloading
    proofs := .array []
    proofIndex := largeProofIndex
    objects := [largeSelector]
    downloads := [⟨largeSelector, stage⟩]
    started }

theorem large_decoded {value : Value} {cap : Nat} (hdecode : largeCodec.decode (largeEncode value)
    = some value) (hlength : (largeEncode value).length ≤ 1024) (hcap : 1024 ≤ cap) :
    largeCodec.decodeBoundedProofJson (largeEncode value) cap = some value := by
  rw [ProofCodec.decodeBoundedProofJson, snapshotInput_of_le (hlength.trans hcap),
    Option.bind_some, hdecode]

theorem onProofs_accepted {bytes references : Bytes} {returned : Value} (haborted : s.aborted = false)
    (hdecoded : config.codec.decodeBoundedProofJson bytes responseCap = some returned)
    (hshape : (returned.isPlainObject && hasKeys returned ["version", "hydration", "proofs"]
      && countMember returned "version" == some 1) = true)
    (hbound : config.codec.equal (returned.get? "hydration") (some s.view) = true)
    (hreferences : config.codec.boundedProofJsonField bytes "proofs" responseCap = some references)
    (hsmall : references.length ≤ smallCap) :
    s.onProofs config (some bytes) true
      = { s with stage := .index, proofs := (returned.get? "proofs").getD .undefined } := by
  simp only [Reader.onProofs, haborted, Bool.not_true, Bool.or_self, Bool.false_eq_true, if_false,
    hdecoded, hshape, hbound, hreferences, Option.bind_some, snapshotInput_of_le hsmall,
    Option.isSome_some, Bool.and_self, if_true]

theorem large_onProofs : largeOpened.onProofs largeConfig (some (largeEncode largeProofs)) true
    = { largeOpened with stage := .index, proofs := .array [] } := by
  obtain ⟨-, -, -, -, -, hproofs, -, -, hempty⟩ := large_texts
  have hdecoded : largeCodec.decodeBoundedProofJson (largeEncode largeProofs) responseCap
      = some largeProofs := large_decoded large_decode_proofs hproofs (by decide)
  have hreferences : largeCodec.boundedProofJsonField (largeEncode largeProofs) "proofs" responseCap
      = some (largeEncode (.array [])) := by
    rw [ProofCodec.boundedProofJsonField, hdecoded, Option.bind_some]
    simp only [largeCodec, beq_self_eq_true, Bool.and_self, if_true]
  rw [show largeCodec = largeConfig.codec from rfl] at hdecoded hreferences
  exact onProofs_accepted rfl hdecoded rfl (large_equal largeView) hreferences
    hempty

theorem readIndex_accepted {codec : ProofCodec} {proofs indexed proofIndex : Value}
    {entries buffers : List Value} {objects : List ObjectSelector}
    (hentries : (indexed.get? "objects").bind Value.entries? = some entries)
    (hindex : indexed.get? "proofIndex" = some proofIndex)
    (hbuffers : (proofIndex.get? "buffers").bind Value.entries? = some buffers)
    (hshape : (hasKeys indexed ["version", "status", "proofIndex", "objects"]
      && countMember indexed "version" == some 1 && textMember indexed "status" == some "indexed"
      && entries.length ≤ 256 && proofIndex.isPlainObject
      && hasKeys proofIndex ["version", "references", "buffers"]
      && countMember proofIndex "version" == some 1) = true)
    (hreferences : codec.equal (proofIndex.get? "references") (some proofs) = true)
    (hlength : buffers.length = entries.length)
    (hselectors : readSelectors entries buffers 0 = some objects)
    (htotal : ((objects.map (·.byteLength)).sum ≤ totalCap && ascending objects) = true) :
    readIndex codec proofs indexed = some (proofIndex, objects) := by
  simp only [readIndex, hentries, hindex, hbuffers, hshape, hreferences, hlength, hselectors, htotal,
    beq_self_eq_true, Bool.and_self, if_true, Option.bind_eq_bind, Option.bind_some]

theorem large_onIndexed : Reader.onIndexed largeConfig { largeOpened with
      stage := .index, proofs := .array [] } (some (largeEncode largeIndex)) true []
    = largeDownloading .credentials 0 := by
  obtain ⟨-, -, -, -, -, -, hindex, -⟩ := large_texts
  have hdecoded : largeCodec.decodeBoundedProofJson (largeEncode largeIndex) smallCap
      = some largeIndex := large_decoded large_decode_index hindex (by decide)
  have hread : readIndex largeCodec (.array []) largeIndex
      = some (largeProofIndex, [largeSelector]) :=
    readIndex_accepted rfl rfl rfl rfl (large_equal (.array [])) rfl (by decide +kernel) rfl
  simp only [Reader.onIndexed, largeConfig, Option.bind_some, hdecoded, largeOpened, Bool.not_true,
    Bool.or_self, Bool.false_eq_true, if_false, hread]
  rfl

theorem proceed_end {answers : List Bool} {proofIndexBytes : Bytes}
    (hend : s.objects.length ≤ s.offset)
    (hindex : snapshotInput (config.codec.encode s.proofIndex) smallCap = some proofIndexBytes) :
    s.proceed config answers = { s with
      downloads := []
      stage := .returned ⟨s.hydrationBytes, proofIndexBytes, s.buffers.map (·.2)⟩ } := by
  rw [Reader.proceed, if_pos hend, hindex]

def largeBundle : PreparedMixedProof where
  hydrationBytes := largeEncode largeView
  proofIndexBytes := largeEncode largeProofIndex
  buffers := [largeBody]

def largeReturned : Reader :=
  { largeDownloading (.loaded largeBody) 1 with
    stage := .returned largeBundle
    offset := 2
    downloads := []
    buffers := [(largeSelector, largeBody)] }

theorem large_run : List.foldlM (Reader.step largeConfig) largeOpened largeEvents
    = some largeReturned := by
  have hproofs : largeOpened.step largeConfig (.proofs (some (largeEncode largeProofs)) true)
      = some { largeOpened with stage := .index, proofs := .array [] } :=
    congrArg some large_onProofs
  have hindexed : Reader.step largeConfig { largeOpened with stage := .index, proofs := .array [] }
      (.indexed (some (largeEncode largeIndex)) true []) = some (largeDownloading .credentials 0) :=
    congrArg some large_onIndexed
  have hcredentials : (largeDownloading .credentials 0).step largeConfig (.credentials 0 true)
      = some (largeDownloading .inFlight 1) := rfl
  have hreply : (largeDownloading .inFlight 1).step largeConfig (.reply 0 largeBody true)
      = some (largeDownloading (.loaded largeBody) 1) := by
    have hlength : (largeBody.length != largeSelector.byteLength) = false := by
      rw [largeBody, List.length_replicate]
      decide
    simp only [Reader.step, Reader.onReply, largeDownloading, List.getElem?_cons_zero, largeOpened,
      hlength, Bool.not_true, Bool.or_self, Bool.false_eq_true, if_false]
    rfl
  obtain ⟨-, -, -, -, -, -, -, hproofIndex, -⟩ := large_texts
  have hsettled : (largeDownloading (.loaded largeBody) 1).step largeConfig (.settled true [])
      = some largeReturned :=
    congrArg some (proceed_end (by decide) (large_small hproofIndex))
  rw [largeEvents, List.foldlM_cons, hproofs, Option.bind_eq_bind, Option.bind_some,
    List.foldlM_cons, hindexed, Option.bind_eq_bind, Option.bind_some, List.foldlM_cons,
    hcredentials, Option.bind_eq_bind, Option.bind_some, List.foldlM_cons, hreply,
    Option.bind_eq_bind, Option.bind_some, List.foldlM_cons, hsettled]
  rfl

/-- The object alone fills the cap, so that its bundle is refused even without a selection. -/
theorem readAll_refused : opened largeConfig (largeEncode largeView) largeRequest = some largeOpened
    ∧ List.foldlM (Reader.step largeConfig) largeOpened largeEvents = some largeReturned
    ∧ largeReturned.stage = .returned largeBundle
    ∧ snapshotMixedInputs ⟨[], largeBundle.hydrationBytes, largeBundle.proofIndexBytes,
      largeBundle.buffers⟩ = none := by
  refine ⟨large_opened, large_run, rfl, ?_⟩
  apply Option.eq_none_iff_forall_ne_some.mpr
  intro copied hcopied
  have htotal := (snapshotMixedInputs_within hcopied).total
  have hbody : ([largeBody].map (·.length)).sum = totalCap := by
    rw [List.map_singleton, List.sum_singleton, largeBody, List.length_replicate]
  obtain ⟨-, -, -, hview, -⟩ := large_texts
  have hbundle : (largeBundle.buffers.map (·.length)).sum = totalCap := hbody
  have hhydration : largeBundle.hydrationBytes.length = (largeEncode largeView).length := rfl
  simp only [hbundle, hhydration] at htotal
  omega

theorem readAll_taken_iff_large : ¬∀ selectionBytes : Bytes, selectionBytes.length ≤ smallCap →
    snapshotMixedInputs ⟨selectionBytes, largeBundle.hydrationBytes, largeBundle.proofIndexBytes,
      largeBundle.buffers⟩
      = some ⟨selectionBytes, largeBundle.hydrationBytes, largeBundle.proofIndexBytes,
        largeBundle.buffers⟩ := by
  intro hall
  have hroom := ((readAll_taken_iff large_opened large_run).2.2 largeBundle rfl).2.mp hall
  revert hroom
  decide +kernel

end Reader

end FormspecWeb.SourceWorker
