import FormspecWeb.Photo.BindRequest
import Mathlib.Data.List.Nodup
import Mathlib.Data.List.Perm.Subperm

/-!
# What a bound request is bound to

The loop over the attachments keeps them apart by the hashes of their references, and finds each
hash among those of the response. As many distinct hashes as there are references are all of them.
-/

namespace FormspecWeb.Photo

open Shared

variable {hashing : Hashing} {budgets : Budgets} {refs : List Value}

/-- An attachment brings the bytes, the size and the hash its reference states. -/
structure RequestAttachment.Carries (hashing : Hashing) (budgets : Budgets)
    (attachment : RequestAttachment) : Prop where
  kind : reads attachment.reference "kind" "attachment-ref"
  uri : startsWithUrn (attachment.reference.get? "uri")
  mimeType : reads attachment.reference "mimeType" attachment.contentType
  statedHash : reads attachment.reference "hash" attachment.hash
  hash : hashing.byteHash attachment.bytes = attachment.hash
  size : statedSize attachment.reference = some attachment.bytes.length
  text : String.ofList (Base64.encode attachment.bytes) = attachment.bytesBase64
  within : attachment.bytes.length ≤ budgets.attachmentBytes

theorem anyM_true {p : Value → Option Bool} {values : List Value}
    (h : values.anyM (m := Option) p = some true) : ∃ value ∈ values, p value = some true := by
  induction values with
  | nil =>
    rw [List.anyM_nil] at h
    cases h
  | cons value values ih =>
    rw [List.anyM_cons] at h
    obtain ⟨found, hfound, h⟩ := Option.bind_eq_some_iff.mp h
    cases found with
    | true => exact ⟨value, List.mem_cons_self, hfound⟩
    | false =>
      obtain ⟨other, hmem, hother⟩ := ih h
      exact ⟨other, List.mem_cons_of_mem _ hmem, hother⟩

variable {attachment : RequestAttachment}

theorem bindAttachment_ok {found next : Gathered}
    (h : bindAttachment hashing budgets refs found attachment = .ok next) :
    attachment.Carries hashing budgets
      ∧ (∃ candidate ∈ refs, hashing.equalJson attachment.reference candidate = some true)
      ∧ found.total + attachment.bytes.length ≤ budgets.totalAttachmentBytes
      ∧ ∃ refHash ∉ found.seen, hashing.jsonHash attachment.reference = some refHash
        ∧ next = {
          decoded := found.decoded ++ [attachment.decoded]
          inventory := found.inventory ++ [attachment.listed]
          seen := refHash :: found.seen
          total := found.total + attachment.bytes.length } := by
  unfold bindAttachment at h
  obtain ⟨refHash, hrefHash, h⟩ := sequence_ok.mp h
  obtain ⟨known, hknown, h⟩ := sequence_ok.mp h
  obtain ⟨size, hsize, h⟩ := sequence_ok.mp h
  obtain ⟨hstated, h⟩ := failIf_bind_ok.mp h
  obtain ⟨hbytes, h⟩ := failIf_bind_ok.mp h
  simp only [Bool.or_eq_false_iff, Bool.not_eq_false', decide_eq_false_iff_not, Nat.not_lt,
    bne_eq_false_iff_eq] at hstated hbytes
  obtain ⟨⟨⟨⟨⟨⟨⟨hseen, htrue⟩, hkind⟩, huri⟩, hhash⟩, hmime⟩, hwithin⟩, -⟩ := hstated
  obtain ⟨⟨⟨htext, hlength⟩, hbyteHash⟩, htotal⟩ := hbytes
  rw [orRefuse_ok] at hrefHash hknown hsize
  rw [htrue] at hknown
  refine ⟨?_, anyM_true hknown, htotal, refHash, by simpa using hseen, hrefHash,
    (Except.ok.inj h).symm⟩
  exact {
    kind := hkind, uri := huri, mimeType := hmime, statedHash := hhash, hash := hbyteHash
    size := by rw [hsize, hlength]
    text := htext
    within := by omega }

structure Gathered.Of (hashing : Hashing) (budgets : Budgets) (refs : List Value)
    (passed : List RequestAttachment) (found : Gathered) : Prop where
  decoded : found.decoded = passed.map (·.decoded)
  total : found.total = (passed.map (·.bytes.length)).sum
  within : found.total ≤ budgets.totalAttachmentBytes
  carries : ∀ attachment ∈ passed, attachment.Carries hashing budgets
  known : ∀ attachment ∈ passed,
    ∃ candidate ∈ refs, hashing.equalJson attachment.reference candidate = some true
  hashes : (passed.map fun attachment => hashing.jsonHash attachment.reference)
    = found.seen.reverse.map some
  distinct : found.seen.Nodup

theorem Gathered.Of.step {passed : List RequestAttachment} {found next : Gathered}
    (hfound : found.Of hashing budgets refs passed)
    (h : bindAttachment hashing budgets refs found attachment = .ok next) :
    next.Of hashing budgets refs (passed ++ [attachment]) := by
  obtain ⟨hcarries, hknown, htotal, refHash, hnew, hrefHash, rfl⟩ := bindAttachment_ok h
  exact {
    decoded := by rw [hfound.decoded, List.map_append, List.map_singleton]
    total := by
      rw [List.map_append, List.sum_append, ← hfound.total, List.map_singleton,
        List.sum_singleton]
    within := htotal
    carries := by
      intro other hmem
      rcases List.mem_append.mp hmem with hmem | hmem
      · exact hfound.carries other hmem
      · rwa [List.mem_singleton.mp hmem]
    known := by
      intro other hmem
      rcases List.mem_append.mp hmem with hmem | hmem
      · exact hfound.known other hmem
      · rwa [List.mem_singleton.mp hmem]
    hashes := by
      rw [List.map_append, hfound.hashes, List.map_singleton, hrefHash, List.reverse_cons,
        List.map_append, List.map_singleton]
    distinct := List.nodup_cons.mpr ⟨hnew, hfound.distinct⟩ }

theorem Gathered.Of.run {passed attachments : List RequestAttachment} {found gathered : Gathered}
    (hfound : found.Of hashing budgets refs passed)
    (h : attachments.foldlM (bindAttachment hashing budgets refs) found = .ok gathered) :
    gathered.Of hashing budgets refs (passed ++ attachments) := by
  induction attachments generalizing passed found with
  | nil =>
    cases h
    rwa [List.append_nil]
  | cons attachment attachments ih =>
    rw [List.foldlM_cons] at h
    obtain ⟨next, hnext, h⟩ := sequence_ok.mp h
    have hrest := ih (hfound.step hnext) h
    rwa [List.append_assoc, List.singleton_append] at hrest

/-- The attachments correspond to the references one to one, each to a canonical equal. -/
def Correspond (hashing : Hashing) (attachments : List RequestAttachment) (refs : List Value) :
    Prop :=
  (attachments.map fun attachment => hashing.jsonHash attachment.reference).Nodup
    ∧ ∃ ordered : List Value, ordered.Perm refs
      ∧ List.Forall₂
        (fun attachment ref => hashing.equalJson attachment.reference ref = some true)
        attachments ordered

variable {attachments : List RequestAttachment}

theorem Gathered.Of.correspond {gathered : Gathered}
    (h : gathered.Of hashing budgets refs attachments) (hcount : refs.length = attachments.length) :
    Correspond hashing attachments refs := by
  have hnodup : (attachments.map fun attachment => hashing.jsonHash attachment.reference).Nodup := by
    rw [h.hashes]
    exact List.Nodup.map (Option.some_injective _) ((List.reverse_perm _).nodup_iff.mpr h.distinct)
  have hsubset : (attachments.map fun attachment => hashing.jsonHash attachment.reference)
      ⊆ refs.map hashing.jsonHash := by
    intro digest hdigest
    obtain ⟨attachment, hmem, rfl⟩ := List.mem_map.mp hdigest
    obtain ⟨candidate, hcandidate, hequal⟩ := h.known attachment hmem
    obtain ⟨found, hleft, hright⟩ := hashing.equalJson_true.mp hequal
    exact List.mem_map.mpr ⟨candidate, hcandidate, hright.trans hleft.symm⟩
  have hperm : (attachments.map fun attachment => hashing.jsonHash attachment.reference).Perm
      (refs.map hashing.jsonHash) := by
    apply (hnodup.subperm hsubset).perm_of_length_le
    rw [List.length_map, List.length_map, hcount]
  have hrefs : List.Forall₂ (fun digest ref => digest = hashing.jsonHash ref)
      (refs.map hashing.jsonHash) refs := by
    rw [List.forall₂_map_left_iff]
    exact List.forall₂_same.mpr fun _ _ => rfl
  obtain ⟨ordered, hordered, hsame⟩ := List.perm_comp_forall₂ hperm hrefs
  have hhashed : ∀ attachment ∈ attachments,
      ∃ digest, hashing.jsonHash attachment.reference = some digest := by
    intro attachment hmem
    obtain ⟨_, -, hequal⟩ := h.known attachment hmem
    obtain ⟨digest, hleft, -⟩ := hashing.equalJson_true.mp hequal
    exact ⟨digest, hleft⟩
  have hboth := (List.forall₂_and_left _ _).mpr ⟨hhashed, List.forall₂_map_left_iff.mp hordered⟩
  refine ⟨hnodup, ordered, hsame, hboth.imp fun attachment ref hequal => ?_⟩
  obtain ⟨⟨digest, hdigest⟩, heq⟩ := hequal
  exact hashing.equalJson_true.mpr ⟨digest, hdigest, heq ▸ hdigest⟩

theorem bindAttachments_ok {gathered : Gathered}
    (h : bindAttachments hashing budgets refs attachments = .ok gathered) :
    refs.length = attachments.length ∧ refs.length ≤ budgets.attachmentCount
      ∧ gathered.Of hashing budgets refs attachments := by
  unfold bindAttachments at h
  obtain ⟨hcount, h⟩ := failIf_bind_ok.mp h
  simp only [Bool.or_eq_false_iff, bne_eq_false_iff_eq, decide_eq_false_iff_not, Nat.not_lt]
    at hcount
  have hempty : Gathered.Of hashing budgets refs []
      { decoded := [], inventory := [], seen := [], total := 0 } := {
    decoded := rfl, total := rfl, within := Nat.zero_le _, hashes := rfl, distinct := List.nodup_nil
    carries := fun _ hmem => absurd hmem List.not_mem_nil
    known := fun _ hmem => absurd hmem List.not_mem_nil }
  exact ⟨hcount.1, hcount.2, hempty.run h⟩

/-! ## The measurement of the photo -/

variable {platform : Platform} {selected : Selected} {request : ProviderRequest}

def hexDigits : Nat → Nat → List Char
  | 0, _ => []
  | count + 1, n => Nat.digitChar (n % 16) :: hexDigits count (n / 16)

theorem hexDigits_hex (count n : Nat) :
    (hexDigits count n).length = count ∧ (hexDigits count n).all isLowerHex := by
  induction count generalizing n with
  | zero => exact ⟨rfl, rfl⟩
  | succ count ih =>
    have hdigit : ∀ d < 16, isLowerHex (Nat.digitChar d) := by decide
    rw [hexDigits, List.length_cons, (ih _).1, List.all_cons, (ih _).2,
      hdigit _ (Nat.mod_lt _ (by decide))]
    exact ⟨rfl, rfl⟩

def checksum (bytes : List UInt8) : Nat :=
  bytes.foldl (fun sum byte => (sum * 257 + byte.toNat + 1) % (2 ^ 255 + 95)) 7

def controlledHashing : Hashing where
  canonicalize value := some (String.ofList (canonicalText value))
  sha256 bytes := String.ofList (hexDigits 64 (checksum bytes))
  sha256_hex bytes := by
    obtain ⟨hlength, hhex⟩ := hexDigits_hex 64 (checksum bytes)
    unfold isSha256Hex
    rw [String.toList_ofList, hlength, hhex]
    rfl

def controlledHash (document : Value) : String :=
  controlledHashing.byteHash (textBytes (String.ofList (canonicalText document)))

theorem jsonHash_controlled {document : Value} (h : checkJsonTree document) :
    controlledHashing.jsonHash document = some (controlledHash document) := by
  rw [Hashing.jsonHash, if_pos h]
  rfl

theorem equalJson_controlled {document : Value} (h : checkJsonTree document) :
    controlledHashing.equalJson document document = some true :=
  controlledHashing.equalJson_true.mpr
    ⟨controlledHash document, jsonHash_controlled h, jsonHash_controlled h⟩

def policyJson : Value := .object [("edition", .string "1")]

def definitionText : String :=
  "\x7b\"instances\":\x7b\"photo\":\x7b\"source\":\"s\"\x7d\x7d,\"policy\":\x7b\"edition\":\"1\"\x7d\x7d"

def controlledSelection : Selection where
  scope := "scope"
  formId := "form"
  formVersionId := "version"
  definitionUrl := "urn:form"
  definitionVersion := "1"
  definitionHash := "hash"
  requiredSources := ["s"]

def controlledBudgets : Budgets where
  requestBytes := 1000000
  responseBytes := 100000
  attachmentCount := 2
  attachmentBytes := 200000
  totalAttachmentBytes := 400000
  concurrency := 1
  deadlineMillis := 4000
  maxEvidenceAgeSeconds := 300
  maxValiditySeconds := 900

def controlledIdentity : CredentialIdentity where
  scope := "scope"
  endpoint := "https://provider.example/resolve"
  issuer := "https://issuer.example"
  requiredScopes := ["formspec.instance.resolve"]
  allowedClients := ["client"]
  allowDevelopmentLoopbackHttp := false
  clientId := "client"
  scopes := ["formspec.instance.resolve"]

def registrationJson : Value := .object [("providerId", .string "inspector")]

def formVersionJson : Value :=
  .object [("definition_hash", .string "hash"), ("definition_json", .string definitionText),
    ("definition_url", .string "urn:form"), ("definition_version", .string "1"),
    ("form_id", .string "form"), ("form_version_id", .string "version")]

def controlledConfig : ConfigDocument where
  registrationHash := controlledHash registrationJson
  registration := {
    json := registrationJson
    selection := controlledSelection
    providerId := "inspector"
    providerVersion := "1"
    endpoint := "https://provider.example/resolve"
    allowDevelopmentLoopbackHttp := false
    budgets := controlledBudgets
    outputSchemaHash := outputSchemaPin
    credentialIdentity := controlledIdentity }
  formVersionHash := controlledHash formVersionJson
  policyHash := controlledHash policyJson
  jwksHash := controlledHashing.byteHash (textBytes "\x7b\"keys\":[]\x7d")
  photoInstanceName := "photo"
  photoPointer := "/data/photo"
  policyPointer := "/policy"
  limits := {
    maxBytes := 200000, maxPixels := 100000, deadlineMillis := 2000
    maxBytes_range := by decide, maxPixels_range := by decide, deadlineMillis_range := by decide }

def photoBytes : List UInt8 := [255, 216, 255]

def photoReference : Value :=
  .object [("hash", .string (controlledHashing.byteHash photoBytes)),
    ("kind", .string "attachment-ref"), ("mimeType", .string "image/jpeg"), ("size", .number 3),
    ("uri", .string "urn:formspec:attachment:one")]

def scanBytes : List UInt8 := [137, 80, 78, 71]

def scanReference : Value :=
  .object [("hash", .string (controlledHashing.byteHash scanBytes)),
    ("kind", .string "attachment-ref"), ("mimeType", .string "image/png"), ("size", .number 4),
    ("uri", .string "urn:formspec:attachment:two")]

def controlledResponse : Value :=
  .object [("data", .object [("photo", photoReference), ("scan", scanReference)])]

def unboundNative : NativeRequest where
  operation := "hydrate"
  scope := "scope"
  owner := .object [("sessionId", .string "session")]
  selection := controlledSelection
  formVersion := formVersionJson
  draftId := "draft"
  draftVersion := .number 1
  canonicalResponse := controlledResponse
  candidateHash := controlledHash controlledResponse
  requestHash := ""
  sources := [("photo", "s")]

def controlledPreimage : Value := requestPreimage unboundNative controlledConfig.formVersionHash

def controlledNative : NativeRequest :=
  { unboundNative with requestHash := controlledHash controlledPreimage }

def photoAttachment : RequestAttachment where
  reference := photoReference
  hash := controlledHashing.byteHash photoBytes
  contentType := "image/jpeg"
  bytesBase64 := "/9j/"

def scanAttachment : RequestAttachment where
  reference := scanReference
  hash := controlledHashing.byteHash scanBytes
  contentType := "image/png"
  bytesBase64 := "iVBORw=="

theorem toLower_of_not_isAscii {c : Char} (h : isAscii c = false) : c.toLower = c := by
  have hn : ¬ c.toNat < 128 := by simpa [isAscii] using h
  unfold Char.toLower
  rw [dif_neg]
  rintro ⟨-, hle⟩
  have hle' : c.toNat ≤ 90 := hle
  omega

def asciiMapping : CaseMapping where
  lower _ c _ := [c.toLower]
  upper c := [c.toUpper]
  lower_ascii _ _ _ _ := rfl
  upper_ascii _ _ := rfl
  lower_other _ c _ h :=
    ⟨c, [], by rw [toLower_of_not_isAscii h], fun hc => by rw [h] at hc; cases hc⟩

theorem controlled_references :
    references asciiMapping (responseData controlledNative) = [photoReference, scanReference] := by
  rfl

theorem digits_of_controlledHash {a b : Value} (h : controlledHash a = controlledHash b) :
    hexDigits 64 (checksum (((canonicalText a).flatMap utf8Bytes).map UInt8.ofNat))
      = hexDigits 64 (checksum (((canonicalText b).flatMap utf8Bytes).map UInt8.ofNat)) := by
  have hdigest : ∀ document, (controlledHash document).toList = "sha256:".toList
      ++ hexDigits 64 (checksum (((canonicalText document).flatMap utf8Bytes).map UInt8.ofNat)) := by
    intro document
    simp only [controlledHash, Hashing.byteHash, controlledHashing, textBytes, String.toList_append,
      String.toList_ofList]
  have hchars := congrArg String.toList h
  rw [hdigest, hdigest] at hchars
  exact List.append_cancel_left hchars

theorem references_apart : controlledHash photoReference ≠ controlledHash scanReference := by
  intro h
  have hdigits := digits_of_controlledHash h
  simp only [photoReference, scanReference, canonicalText, membersText, Hashing.byteHash,
    controlledHashing, String.toList_append, String.toList_ofList] at hdigits
  revert hdigits
  decide +kernel

theorem equalJson_references :
    controlledHashing.equalJson scanReference photoReference = some false := by
  rw [Hashing.equalJson, jsonHash_controlled (by decide), jsonHash_controlled (by decide)]
  change some (controlledHash scanReference == controlledHash photoReference) = some false
  rw [beq_eq_false_iff_ne.mpr references_apart.symm]

theorem bindAttachment_controlled {found : Gathered}
    {refs : List Value} {size : Nat} (htree : checkJsonTree attachment.reference)
    (hknown : refs.anyM (m := Option)
      (fun candidate => controlledHashing.equalJson attachment.reference candidate) = some true)
    (hnew : found.seen.contains (controlledHash attachment.reference) = false)
    (hreads : reads attachment.reference "kind" "attachment-ref"
      ∧ startsWithUrn (attachment.reference.get? "uri")
      ∧ reads attachment.reference "hash" attachment.hash
      ∧ reads attachment.reference "mimeType" attachment.contentType)
    (hsize : statedSize attachment.reference = some size)
    (hlength : size ≤ controlledBudgets.attachmentBytes
      ∧ (codeUnits attachment.bytesBase64).length ≤ (size + 2) / 3 * 4)
    (hbytes : String.ofList (Base64.encode attachment.bytes) = attachment.bytesBase64
      ∧ attachment.bytes.length = size
      ∧ controlledHashing.byteHash attachment.bytes = attachment.hash)
    (htotal : found.total + size ≤ controlledBudgets.totalAttachmentBytes) :
    bindAttachment controlledHashing controlledBudgets refs found attachment = .ok {
      decoded := found.decoded ++ [attachment.decoded]
      inventory := found.inventory ++ [attachment.listed]
      seen := controlledHash attachment.reference :: found.seen
      total := found.total + size } := by
  obtain ⟨hkind, huri, hhash, htype⟩ := hreads
  obtain ⟨hencoded, rfl, hdigest⟩ := hbytes
  unfold bindAttachment
  refine sequence_ok.mpr ⟨_, orRefuse_ok.mpr (jsonHash_controlled htree),
    sequence_ok.mpr ⟨_, orRefuse_ok.mpr hknown, sequence_ok.mpr ⟨_, orRefuse_ok.mpr hsize, ?_⟩⟩⟩
  refine failIf_bind_ok.mpr ⟨?_, failIf_bind_ok.mpr ⟨?_, rfl⟩⟩
  · simp only [hnew, hkind, huri, hhash, htype, Bool.not_true, Bool.or_false, Bool.or_eq_false_iff,
      decide_eq_false_iff_not, Nat.not_lt]
    exact ⟨⟨trivial, hlength.1⟩, hlength.2⟩
  · simp only [hencoded, hdigest, bne_self_eq_false, Bool.false_or, decide_eq_false_iff_not,
      Nat.not_lt]
    exact htotal

theorem controlled_known :
    [photoReference, scanReference].anyM (m := Option)
        (fun candidate => controlledHashing.equalJson scanReference candidate) = some true
      ∧ [photoReference, scanReference].anyM (m := Option)
        (fun candidate => controlledHashing.equalJson photoReference candidate) = some true := by
  have hscan : controlledHashing.equalJson scanReference scanReference = some true :=
    equalJson_controlled (by decide)
  have hphoto : controlledHashing.equalJson photoReference photoReference = some true :=
    equalJson_controlled (by decide)
  constructor
  · rw [List.anyM_cons, List.anyM_cons, equalJson_references, hscan]
    rfl
  · rw [List.anyM_cons, hphoto]
    rfl

theorem controlled_attachments :
    bindAttachments controlledHashing controlledBudgets [photoReference, scanReference]
        [scanAttachment, photoAttachment]
      = .ok {
        decoded := [scanAttachment.decoded, photoAttachment.decoded]
        inventory := [scanAttachment.listed, photoAttachment.listed]
        seen := [controlledHash photoReference, controlledHash scanReference], total := 7 } := by
  have hnew : [controlledHash scanReference].contains (controlledHash photoReference) = false := by
    rw [List.contains_cons, beq_eq_false_iff_ne.mpr references_apart]
    rfl
  unfold bindAttachments
  refine failIf_bind_ok.mpr ⟨by decide, ?_⟩
  rw [List.foldlM_cons]
  refine sequence_ok.mpr ⟨_, bindAttachment_controlled (by decide) controlled_known.1 rfl
    ⟨rfl, rfl, beq_self_eq_true _, rfl⟩ rfl (by decide) ⟨by decide, rfl, rfl⟩ (by decide), ?_⟩
  rw [List.foldlM_cons]
  exact sequence_ok.mpr ⟨_, bindAttachment_controlled (by decide) controlled_known.2 hnew
    ⟨rfl, rfl, beq_self_eq_true _, rfl⟩ rfl (by decide) ⟨by decide, rfl, rfl⟩ (by decide), rfl⟩

end FormspecWeb.Photo
