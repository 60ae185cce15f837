import FormspecWeb.Attachments.HttpAttachmentStore
import FormspecWeb.Shared.Decimals
import FormspecWeb.Shared.JsonRoundTrip
import Mathlib.Data.Nat.Cast.Order.Ring

/-!
# Which uploads can be read

A task's upload is checked as it will be when it is read. A form's upload is checked only for what was
uploaded: where it stands, its type and its name are the server's, and may be no read reference. What is
read is the whole body, of the size and the digest of its reference.
-/

namespace FormspecWeb.Attachments.HttpStore

open Shared JsonText

variable {platform : StorePlatform} {config : HttpAttachmentStoreConfig} {blob : Blob}
  {metadata : AttachmentUploadMetadata} {exchange : Exchange} {ref : Reference} {fieldPath : Option String}

theorem thrown_ok {α : Type} {result : Except String α} {a : α} : thrown result = .ok a ↔ result = .ok a := by
  cases result with
  | ok b => exact ⟨fun h => congrArg _ (Except.ok.inj h), fun h => congrArg _ (Except.ok.inj h)⟩
  | error message => exact ⟨fun h => (by cases h), fun h => (by cases h)⟩

theorem upload_ok (h : upload platform config blob metadata exchange = .ok ref) :
    isUploadedRef ref ⟨blob.bytes.length, metadata.filename, effectiveType blob metadata⟩ = true
      ∧ config.maxUploadBytes.any (· < blob.bytes.length) = false
      ∧ ∃ dataPath, path config metadata.fieldPath = .ok dataPath
        ∧ (config.taskBinding.isSome → ∃ qualified, qualifyReadDescriptor platform ref config.formId
            (some (utf16 (basePath config))) dataPath = .ok qualified) := by
  rw [upload, sequence_ok] at h
  obtain ⟨dataPath, hpath, h⟩ := h
  obtain ⟨-, h⟩ := then_ok.mp h
  obtain ⟨hlimit, h⟩ := failIf_bind_ok.mp h
  obtain ⟨token, -, h⟩ := sequence_ok.mp h
  obtain ⟨-, h⟩ := failIf_bind_ok.mp h
  obtain ⟨-, h⟩ := then_ok.mp h
  obtain ⟨-, h⟩ := then_ok.mp h
  obtain ⟨reply, -, h⟩ := sequence_ok.mp h
  obtain ⟨-, h⟩ := then_ok.mp h
  obtain ⟨-, h⟩ := then_ok.mp h
  obtain ⟨value, -, h⟩ := sequence_ok.mp h
  obtain ⟨-, h⟩ := then_ok.mp h
  obtain ⟨huploaded, h⟩ := failIf_bind_ok.mp h
  rw [Bool.not_eq_false'] at huploaded
  by_cases htask : config.taskBinding.isSome = true
  · rw [if_pos htask] at h
    obtain ⟨qualified, hqualified, h⟩ := sequence_ok.mp h
    cases h
    exact ⟨huploaded, hlimit, dataPath, hpath, fun _ => ⟨qualified, hqualified⟩⟩
  · rw [if_neg htask] at h
    cases h
    exact ⟨huploaded, hlimit, dataPath, hpath, fun hsome => absurd hsome htask⟩

/-! ## Descriptors -/

/-- The conditions on the parts of a descriptor that are the same in a form and a task. -/
structure Agrees (ref : Reference) (formId : String) (isTask : Bool) (uri filename : Text) (size : Rat)
    (qualified : Qualified) : Prop where
  hasUri : text? (uriOf ref) = some uri
  hasUploadId : uploadIdOf uri = some qualified.uploadId
  hasHash : text? (ref.member? (utf16 "hash")) = some qualified.hash
  hasSize : number? (ref.member? (utf16 "size")) = some size
  size_eq : qualified.size = size.num.toNat
  hasMimeType : text? (mimeTypeOf ref) = some qualified.mimeType
  hasFilename : text? (ref.member? (utf16 "filename")) = some filename
  kind : differs ref "kind" (utf16 "attachment-ref") = false
  isHash : isSha256 qualified.hash = true
  isSize : isSize size = true
  isType : readableTypes.contains qualified.mimeType = true
  isName : isReadableName filename = true
  aliases : differs ref "uri" uri = false ∧ differs ref "url" uri = false
    ∧ differs ref "mimeType" qualified.mimeType = false ∧ differs ref "contentType" qualified.mimeType = false
    ∧ differs ref "upload_id" qualified.uploadId = false
  readUrl : isTask = false → differs ref "read_url" (formReadUrl formId qualified.uploadId) = false

variable {qualified : Qualified}

variable {formId : String}

theorem qualifyReference_ok {isTask : Bool} :
    qualifyReference ref formId isTask = some qualified
      ↔ ∃ uri filename size, Agrees ref formId isTask uri filename size qualified := by
  constructor
  · intro h
    obtain ⟨uri, huri, h⟩ := Option.bind_eq_some_iff.mp h
    obtain ⟨uploadId, huploadId, h⟩ := Option.bind_eq_some_iff.mp h
    obtain ⟨hash, hhash, h⟩ := Option.bind_eq_some_iff.mp h
    obtain ⟨size, hsize, h⟩ := Option.bind_eq_some_iff.mp h
    obtain ⟨mimeType, hmimeType, h⟩ := Option.bind_eq_some_iff.mp h
    obtain ⟨filename, hfilename, h⟩ := Option.bind_eq_some_iff.mp h
    split at h
    · cases h
    · next hconditions =>
      cases h
      simp only [Bool.or_eq_true, not_or, Bool.not_eq_true, Bool.not_eq_false', Bool.and_eq_false_iff] at hconditions
      obtain ⟨⟨⟨⟨⟨⟨⟨⟨⟨⟨hkind, hisHash⟩, hisSize⟩, hisType⟩, hisName⟩, huriAlias⟩, hurl⟩, hmime⟩, hcontent⟩, hid⟩, hread⟩ :=
        hconditions
      refine ⟨uri, filename, size, huri, huploadId, hhash, hsize, rfl, hmimeType, hfilename, hkind, hisHash, hisSize,
        hisType, hisName, ⟨huriAlias, hurl, hmime, hcontent, hid⟩, ?_⟩
      intro hform
      rcases hread with htask | hread
      · rw [hform] at htask
        cases htask
      · exact hread
  · rintro ⟨uri, filename, size, h⟩
    obtain ⟨huriAlias, hurl, hmime, hcontent, hid⟩ := h.aliases
    have hread : (!isTask && differs ref "read_url" (formReadUrl formId qualified.uploadId)) = false := by
      cases isTask with
      | true => rfl
      | false => exact h.readUrl rfl
    simp only [qualifyReference, h.hasUri, h.hasUploadId, h.hasHash, h.hasSize, h.hasMimeType, h.hasFilename, h.kind, h.isHash, h.isSize,
      h.isType, h.isName, huriAlias, hurl, hmime, hcontent, hid, hread, Option.bind_eq_bind, Option.bind_some,
      Bool.not_true, Bool.or_self, Bool.false_eq_true, if_false, ← h.size_eq]

/-- What a form's upload has to have beyond what was uploaded, to be a read reference of the form. -/
structure FormReadable (formId : String) (ref : Reference) (size : Nat) : Prop where
  uri : ∃ uri uploadId, text? (ref.member? (utf16 "uri")) = some uri ∧ uploadIdOf uri = some uploadId
    ∧ differs ref "url" uri = false ∧ differs ref "upload_id" uploadId = false
    ∧ differs ref "read_url" (formReadUrl formId uploadId) = false
  mimeType : ∃ mimeType, text? (ref.member? (utf16 "mimeType")) = some mimeType
    ∧ readableTypes.contains mimeType = true ∧ differs ref "contentType" mimeType = false
  filename : ∃ filename, text? (ref.member? (utf16 "filename")) = some filename ∧ isReadableName filename = true
  size : isSafeInteger size = true

theorem text_or {first second : Option Reference} {text : Text} (h : text? first = some text) :
    text? ((present first).or second) = some text := by
  cases first with
  | none => cases h
  | some value =>
    cases value with
    | string found => exact h
    | _ => cases h

theorem differs_self {key : String} {text : Text} (h : text? (ref.member? (utf16 key)) = some text) :
    differs ref key text = false := by
  rw [differs, h, bne_self_eq_false, Bool.and_false]

theorem isSize_natCast (n : Nat) : isSize (n : Rat) = isSafeInteger n := by
  have hnonneg : (0 : Rat) ≤ n := Nat.cast_nonneg n
  rw [isSize, Rat.den_natCast, Rat.num_natCast, beq_self_eq_true, Bool.true_and, decide_eq_true hnonneg,
    Bool.and_true]

variable {expected : ExpectedRef}

theorem isUploadedRef_ok (h : isUploadedRef ref expected = true) :
    isRecord ref = true ∧ text? (ref.member? (utf16 "kind")) = some (utf16 "attachment-ref")
      ∧ (∃ uri, text? (ref.member? (utf16 "uri")) = some uri)
      ∧ (∃ hash, text? (ref.member? (utf16 "hash")) = some hash ∧ isSha256 hash = true)
      ∧ number? (ref.member? (utf16 "size")) = some (expected.size : Rat)
      ∧ text? (ref.member? (utf16 "filename")) = some expected.filename
      ∧ text? (ref.member? (utf16 "mimeType")) = some expected.mimeType := by
  simp only [isUploadedRef, Bool.and_eq_true, beq_iff_eq, Option.any_eq_true] at h
  obtain ⟨⟨⟨⟨⟨⟨hrecord, hkind⟩, ⟨uri, huri, -⟩⟩, hhash⟩, hsize⟩, hfilename⟩, hmimeType⟩ := h
  exact ⟨hrecord, hkind, ⟨uri, huri⟩, hhash, hsize, hfilename, hmimeType⟩

theorem qualified_of_form (h : isUploadedRef ref expected = true) :
    (∃ qualified, qualifyReference ref formId false = some qualified)
      ↔ FormReadable formId ref expected.size := by
  obtain ⟨-, hkind, ⟨uri, huri⟩, ⟨hash, hhash, hisHash⟩, hsize, hfilename, hmimeType⟩ := isUploadedRef_ok h
  have huriOf : text? (uriOf ref) = some uri := text_or huri
  have hmimeTypeOf : text? (mimeTypeOf ref) = some expected.mimeType := text_or hmimeType
  constructor
  · rintro ⟨qualified, hqualified⟩
    obtain ⟨found, filename, size, hagrees⟩ := qualifyReference_ok.mp hqualified
    obtain rfl : uri = found := Option.some.inj (huriOf.symm.trans hagrees.hasUri)
    obtain ⟨-, hurl, -, hcontent, hid⟩ := hagrees.aliases
    have htype : expected.mimeType = qualified.mimeType := Option.some.inj (hmimeTypeOf.symm.trans hagrees.hasMimeType)
    obtain rfl : (expected.size : Rat) = size := Option.some.inj (hsize.symm.trans hagrees.hasSize)
    refine ⟨⟨uri, _, huri, hagrees.hasUploadId, hurl, hid, hagrees.readUrl rfl⟩, ⟨_, hmimeType, ?_, ?_⟩,
      ⟨filename, hagrees.hasFilename, hagrees.isName⟩, ?_⟩
    · rw [htype]
      exact hagrees.isType
    · rw [htype]
      exact hcontent
    · rw [← isSize_natCast]
      exact hagrees.isSize
  · rintro ⟨⟨found, uploadId, hfound, huploadId, hurl, hid, hread⟩, ⟨mimeType, hfoundType, hisType, hcontent⟩,
      ⟨filename, hfoundName, hisName⟩, hisSize⟩
    obtain rfl : uri = found := Option.some.inj (huri.symm.trans hfound)
    obtain rfl : expected.mimeType = mimeType := Option.some.inj (hmimeType.symm.trans hfoundType)
    refine ⟨⟨uploadId, expected.mimeType, expected.size, hash⟩, qualifyReference_ok.mpr ⟨uri, filename, expected.size,
      huriOf, huploadId, hhash, hsize, ?_, hmimeTypeOf, hfoundName, differs_self hkind, hisHash, ?_, hisType, hisName,
      ⟨differs_self huri, hurl, differs_self hmimeType, hcontent, hid⟩, fun _ => hread⟩⟩
    · rw [Rat.num_natCast, Int.toNat_natCast]
    · rw [isSize_natCast]
      exact hisSize

/-! ## Bytes -/

theorem collect_ok {expectedSize size total : Nat} {body : List (Except String Bytes)} {chunks all : List Bytes}
    (h : collect expectedSize body chunks size = .ok (all, total)) (hsize : size = (chunks.map (·.length)).sum) :
    ∃ more, body = more.map Except.ok ∧ all = chunks ++ more ∧ total = (all.map (·.length)).sum := by
  induction body generalizing chunks size with
  | nil =>
    cases h
    exact ⟨[], rfl, (List.append_nil _).symm, hsize⟩
  | cons next body ih =>
    cases next with
    | error message => cases h
    | ok chunk =>
      rw [collect] at h
      split at h
      · cases h
      · have hnext : size + chunk.length = ((chunks ++ [chunk]).map (·.length)).sum := by
          rw [List.map_append, List.sum_append, hsize, List.map_singleton, List.sum_singleton]
        obtain ⟨more, rfl, rfl, htotal⟩ := ih h hnext
        exact ⟨chunk :: more, rfl, by rw [List.append_assoc, List.singleton_append], htotal⟩

/-- A body that is read to its end is the bytes of its chunks; where there is none there are no bytes. -/
def IsBody (body : Option (List (Except String Bytes))) (bytes : Bytes) : Prop :=
  match body with
  | some body => ∃ chunks : List Bytes, body = chunks.map Except.ok ∧ bytes = chunks.flatten
  | none => bytes = []

theorem readExactBytes_ok {body : Option (List (Except String Bytes))} {expectedSize : Nat} {bytes : Bytes}
    (h : readExactBytes body expectedSize true = .ok bytes) :
    IsBody body bytes ∧ bytes.length = expectedSize := by
  cases body with
  | none =>
    rw [readExactBytes] at h
    split at h
    · next hempty =>
      cases h
      exact ⟨rfl, (hempty.resolve_right Bool.noConfusion).symm⟩
    · cases h
  | some body =>
    rw [readExactBytes, sequence_ok] at h
    obtain ⟨⟨chunks, size⟩, hcollect, h⟩ := h
    obtain ⟨hexact, h⟩ := failIf_bind_ok.mp h
    obtain ⟨more, rfl, rfl, rfl⟩ := collect_ok hcollect rfl
    cases h
    rw [joinChunks_eq]
    refine ⟨⟨chunks, rfl, rfl⟩, ?_⟩
    rw [Bool.true_and, bne_eq_false_iff_eq] at hexact
    rw [List.length_flatten, hexact]

theorem checkDescriptor_ok {descriptor : Reference} :
    checkDescriptor platform config descriptor fieldPath = .ok qualified ↔ ∃ dataPath,
      path config fieldPath = .ok dataPath
        ∧ qualifyReadDescriptor platform descriptor config.formId (taskBasePath config) dataPath = .ok qualified
        ∧ config.maxUploadBytes.any (· < qualified.size) = false := by
  rw [checkDescriptor, sequence_ok]
  constructor
  · rintro ⟨dataPath, hpath, h⟩
    obtain ⟨found, hfound, h⟩ := sequence_ok.mp h
    obtain ⟨hlimit, h⟩ := failIf_bind_ok.mp h
    cases h
    exact ⟨dataPath, hpath, hfound, hlimit⟩
  · rintro ⟨dataPath, hpath, hqualified, hlimit⟩
    exact ⟨dataPath, hpath, sequence_ok.mpr ⟨qualified, hqualified, failIf_bind_ok.mpr ⟨hlimit, rfl⟩⟩⟩

theorem read_ok {descriptor : Reference} {found : Blob}
    (h : read platform config descriptor fieldPath exchange = .ok found) :
    ∃ qualified reply, checkDescriptor platform config descriptor fieldPath = .ok qualified
      ∧ exchange.reply = .ok reply ∧ IsBody reply.body found.bytes ∧ found.bytes.length = qualified.size
      ∧ digestText platform found.bytes = qualified.hash := by
  rw [read, sequence_ok] at h
  obtain ⟨dataPath, hpath, h⟩ := h
  obtain ⟨qualified, hqualified, h⟩ := sequence_ok.mp h
  obtain ⟨-, h⟩ := then_ok.mp h
  obtain ⟨-, h⟩ := failIf_bind_ok.mp h
  obtain ⟨hlimit, h⟩ := failIf_bind_ok.mp h
  obtain ⟨-, h⟩ := failIf_bind_ok.mp h
  obtain ⟨-, h⟩ := failIf_bind_ok.mp h
  obtain ⟨-, h⟩ := then_ok.mp h
  obtain ⟨token, -, h⟩ := sequence_ok.mp h
  obtain ⟨-, h⟩ := failIf_bind_ok.mp h
  obtain ⟨-, h⟩ := then_ok.mp h
  obtain ⟨-, h⟩ := then_ok.mp h
  obtain ⟨reply, hreply, h⟩ := sequence_ok.mp h
  obtain ⟨-, h⟩ := then_ok.mp h
  obtain ⟨-, h⟩ := failIf_bind_ok.mp h
  obtain ⟨bytes, hbytes, h⟩ := sequence_ok.mp h
  obtain ⟨-, h⟩ := then_ok.mp h
  obtain ⟨hdigest, h⟩ := failIf_bind_ok.mp h
  cases h
  obtain ⟨hbody, hlength⟩ := readExactBytes_ok hbytes
  exact ⟨qualified, reply, checkDescriptor_ok.mpr ⟨dataPath, hpath, hqualified, hlimit⟩, thrown_ok.mp hreply, hbody,
    hlength, bne_eq_false_iff_eq.mp hdigest⟩

/-! ## Both ways -/

theorem qualifyReadDescriptor_ok {base dataPath : Option Text}
    (h : qualifyReadDescriptor platform ref formId base dataPath = .ok qualified) :
    qualifyReference ref formId base.isSome = some qualified := by
  rw [qualifyReadDescriptor, failIf_bind_ok] at h
  obtain ⟨-, h⟩ := h
  split at h
  · cases h
  · next found hfound =>
    rw [hfound]
    split at h
    · exact congrArg some (Except.ok.inj (then_ok.mp h).2)
    · exact congrArg some (Except.ok.inj h)

theorem within_limit {isTask : Bool}
    (h : isUploadedRef ref expected = true) (hqualified : qualifyReference ref formId isTask = some qualified) :
    qualified.size = expected.size := by
  obtain ⟨-, -, -, -, hsize, -, -⟩ := isUploadedRef_ok h
  obtain ⟨uri, filename, size, hagrees⟩ := qualifyReference_ok.mp hqualified
  obtain rfl : (expected.size : Rat) = size := Option.some.inj (hsize.symm.trans hagrees.hasSize)
  rw [hagrees.size_eq, Rat.num_natCast, Int.toNat_natCast]

/-- What a task uploads passes every check that reading it makes; what a form uploads passes exactly where
the server's reference is a read reference of the form; and what is read is the whole body, with the size
and the digest of its descriptor. -/
theorem uploads_readable (platform : StorePlatform) (config : HttpAttachmentStoreConfig) :
    (∀ (blob : Blob) (metadata : AttachmentUploadMetadata) (exchange : Exchange) (ref : Reference),
        upload platform config blob metadata exchange = .ok ref →
        (config.taskBinding.isSome → ∃ qualified, checkDescriptor platform config ref metadata.fieldPath = .ok qualified)
          ∧ (config.taskBinding = none →
            ((∃ qualified, checkDescriptor platform config ref metadata.fieldPath = .ok qualified)
              ↔ FormReadable config.formId ref blob.bytes.length)))
      ∧ ∀ (descriptor : Reference) (fieldPath : Option String) (exchange : Exchange) (found : Blob),
        read platform config descriptor fieldPath exchange = .ok found →
        ∃ qualified reply, checkDescriptor platform config descriptor fieldPath = .ok qualified
          ∧ exchange.reply = .ok reply ∧ IsBody reply.body found.bytes ∧ found.bytes.length = qualified.size
          ∧ digestText platform found.bytes = qualified.hash := by
  refine ⟨fun blob metadata exchange ref hupload => ?_, fun descriptor fieldPath exchange found => read_ok⟩
  obtain ⟨huploaded, hlimit, dataPath, hpath, htask⟩ := upload_ok hupload
  have hcheck {qualified : Qualified} (hqualified : qualifyReadDescriptor platform ref config.formId
      (taskBasePath config) dataPath = .ok qualified) :
      checkDescriptor platform config ref metadata.fieldPath = .ok qualified := by
    have hsize := within_limit huploaded (qualifyReadDescriptor_ok hqualified)
    refine checkDescriptor_ok.mpr ⟨dataPath, hpath, hqualified, ?_⟩
    rwa [hsize]
  constructor
  · intro hsome
    obtain ⟨qualified, hqualified⟩ := htask hsome
    obtain ⟨task, heq⟩ := Option.isSome_iff_exists.mp hsome
    refine ⟨qualified, hcheck ?_⟩
    rwa [taskBasePath, heq, Option.map_some]
  · intro hnone
    have hbase : taskBasePath config = none := by rw [taskBasePath, hnone, Option.map_none]
    obtain ⟨hrecord, -⟩ := isUploadedRef_ok huploaded
    rw [← qualified_of_form huploaded]
    constructor
    · rintro ⟨qualified, h⟩
      obtain ⟨_, -, hqualified, -⟩ := checkDescriptor_ok.mp h
      have hreference := qualifyReadDescriptor_ok hqualified
      rw [hbase] at hreference
      exact ⟨qualified, hreference⟩
    · rintro ⟨qualified, hqualified⟩
      refine ⟨qualified, hcheck ?_⟩
      rw [hbase, qualifyReadDescriptor, hrecord]
      refine failIf_bind_ok.mpr ⟨rfl, ?_⟩
      simp only [Option.isSome_none, hqualified]

section

def sampleFormat : NumberFormat (Option Rat) where
  print value := wholeNumbers.print (value.getD 0).num.toNat
  read text := (wholeNumbers.read text).map fun n => some (n : Rat)
  reread value := some ((value.getD 0).num.toNat : Rat)
  print_units value := wholeNumbers.print_units _
  print_ne value := wholeNumbers.print_ne _
  read_print value := by
    rw [wholeNumbers.read_print]
    rfl

def samplePlatform : StorePlatform := ⟨fun _ => none, sampleFormat, fun _ => [], true⟩

def sampleConfig : HttpAttachmentStoreConfig := ⟨"form-1", some 3, some "scope", none⟩

def sampleRef : Reference :=
  .object [(utf16 "kind", .string (utf16 "attachment-ref")), (utf16 "uri", .string (utf16 "attachment:test")),
    (utf16 "hash", .string (utf16 ("sha256:" ++ String.ofList (List.replicate 64 'a')))),
    (utf16 "size", .number (some 3)), (utf16 "filename", .string (utf16 "x.pdf")),
    (utf16 "mimeType", .string (utf16 "application/pdf"))]

def sampleBlob : Blob := ⟨[97, 98, 99], utf16 "application/pdf"⟩

def sampleMetadata : AttachmentUploadMetadata := ⟨none, utf16 "x.pdf", utf16 "application/pdf"⟩

def sampleExchange : Exchange :=
  ⟨fun _ => .ok (), .ok "token", .ok (), .ok ⟨200, false, false, fun _ => none, none, .ok sampleRef⟩⟩

theorem sample_uploaded :
    upload samplePlatform sampleConfig sampleBlob sampleMetadata sampleExchange = .ok sampleRef := by
  rfl

theorem sample_refused : checkDescriptor samplePlatform sampleConfig sampleRef none
    = .error (plain "Attachment descriptor does not match this form read reference") := by
  rfl

/-! ## A task's upload, read again in two chunks -/

/-- The digest of the bytes of `abc`, which are the only ones asked for. -/
def abcDigest : Bytes :=
  [0xba, 0x78, 0x16, 0xbf, 0x8f, 0x01, 0xcf, 0xea, 0x41, 0x41, 0x40, 0xde, 0x5d, 0xae, 0x22, 0x23, 0xb0, 0x03, 0x61,
    0xa3, 0x96, 0x17, 0x7a, 0x9c, 0xb4, 0x10, 0xff, 0x61, 0xf2, 0x00, 0x15, 0xad]

def taskUploadId : String := "upload_" ++ String.ofList (List.replicate 64 'c')

def taskReadUrl : Text :=
  utf16 ("/runtime/drafts/draft-1/attachments/" ++ taskUploadId ++ "?dataPath=/photo")

def taskUrl : ParsedUrl where
  origin := utf16 "https://attachment.invalid"
  pathname := utf16 ("/runtime/drafts/draft-1/attachments/" ++ taskUploadId)
  hash := []
  searchParams := [(utf16 "dataPath", utf16 "/photo")]

def taskPlatform : StorePlatform where
  parseUrl text := if text = taskReadUrl then some taskUrl else none
  format := sampleFormat
  sha256 _ := abcDigest
  subtle := true

def taskConfig : HttpAttachmentStoreConfig :=
  ⟨"form-1", some 3, some "scope", some ⟨"draft-1", [("photo", "/photo")]⟩⟩

def taskRef : Reference :=
  .object [(utf16 "kind", .string (utf16 "attachment-ref")),
    (utf16 "uri", .string (utf16 ("urn:formspec:attachment:" ++ taskUploadId))),
    (utf16 "hash", .string (utf16 "sha256:" ++ abcDigest.flatMap hexUnits)), (utf16 "size", .number (some 3)),
    (utf16 "filename", .string (utf16 "x.pdf")), (utf16 "mimeType", .string (utf16 "application/pdf")),
    (utf16 "read_url", .string taskReadUrl)]

def taskMetadata : AttachmentUploadMetadata := ⟨some "photo[0]", utf16 "x.pdf", utf16 "application/pdf"⟩

def headers (contentType : String) : String → Option Text
  | "content-type" => some (utf16 contentType)
  | "cache-control" => some (utf16 "private, no-store")
  | "x-content-type-options" => some (utf16 "nosniff")
  | _ => none

def answer (status : Nat) (contentType : String) (body : List Bytes) : Reply :=
  ⟨status, false, false, headers contentType, some (body.map .ok), .error "no JSON"⟩

def answered (reply : Reply) : Exchange := ⟨fun _ => .ok (), .ok "token", .ok (), .ok reply⟩

def uploadAnswer : Reply := answer 201 "application/json" [encodeText (print sampleFormat taskRef)]

def readAnswer : Reply := answer 200 "application/pdf" [[97], [98, 99]]

theorem task_printed : print sampleFormat taskRef = charsText (textChars (print sampleFormat taskRef))
    ∧ ¬ 16 * 1024 < 0 + (encodeText (print sampleFormat taskRef)).length := by
  decide +kernel

theorem task_parsed :
    parseReference taskPlatform (encodeText (print sampleFormat taskRef)) = some taskRef := by
  have htext := task_printed.1
  have hparsed : parse taskPlatform.format (print sampleFormat taskRef) = some taskRef :=
    parse_print _ taskRef
  have hmark : withoutMark (print sampleFormat taskRef) = print sampleFormat taskRef := rfl
  have hbuilt : taskRef.built = taskRef := rfl
  rw [parseReference, htext, decodeText_encodeText, ← htext, Option.bind_eq_bind, Option.bind_some,
    hmark, hparsed, Option.bind_eq_bind, Option.bind_some, hbuilt]
  rfl

theorem task_qualified : qualifyReadDescriptor taskPlatform taskRef "form-1"
    (some (utf16 (basePath taskConfig))) (some (utf16 "/photo")) = .ok
      ⟨utf16 taskUploadId, utf16 "application/pdf", 3, utf16 "sha256:" ++ abcDigest.flatMap hexUnits⟩ := by
  have hreference : qualifyReference taskRef "form-1" true = some
      ⟨utf16 taskUploadId, utf16 "application/pdf", 3, utf16 "sha256:" ++ abcDigest.flatMap hexUnits⟩ := by
    rfl
  have hurl : checkTaskUrl taskPlatform taskRef (utf16 (basePath taskConfig)) (some (utf16 "/photo"))
      (utf16 taskUploadId) = .ok () := by
    have hread : text? (taskRef.member? (utf16 "read_url")) = some taskReadUrl := rfl
    have hparse : ∀ text, taskPlatform.parseUrl text = if text = taskReadUrl then some taskUrl else none :=
      fun _ => rfl
    have hparsed : taskPlatform.parseUrl taskReadUrl = some taskUrl := by
      rw [hparse, if_pos rfl]
    rw [checkTaskUrl, hread]
    refine failIf_bind_ok.mpr ⟨by decide +kernel, ?_⟩
    rw [hparsed]
    decide +kernel
  rw [qualifyReadDescriptor, Option.isSome_some, hreference]
  refine failIf_bind_ok.mpr ⟨rfl, ?_⟩
  exact then_ok.mpr ⟨hurl, rfl⟩

theorem task_body :
    readExactBytes uploadAnswer.body (16 * 1024) false = .ok (encodeText (print sampleFormat taskRef)) := by
  have hcollected : collect (16 * 1024) [.ok (encodeText (print sampleFormat taskRef))] [] 0
      = .ok ([encodeText (print sampleFormat taskRef)], (encodeText (print sampleFormat taskRef)).length) := by
    rw [collect, if_neg task_printed.2, collect, List.nil_append, Nat.zero_add]
  change (collect (16 * 1024) [.ok (encodeText (print sampleFormat taskRef))] [] 0 >>= _) = _
  rw [hcollected]
  have hjoined : joinChunks [encodeText (print sampleFormat taskRef)]
      ([encodeText (print sampleFormat taskRef)].map (·.length)).sum
        = [encodeText (print sampleFormat taskRef)].flatten := joinChunks_eq
  rw [List.map_singleton, List.sum_singleton, List.flatten_singleton] at hjoined
  exact congrArg Except.ok hjoined

theorem task_reply : replyValue taskPlatform taskConfig uploadAnswer = .ok taskRef := by
  have hbinding : taskConfig.taskBinding = some ⟨"draft-1", [("photo", "/photo")]⟩ := rfl
  rw [replyValue, hbinding, task_body]
  simp only [task_parsed, Option.map_some, Option.getD_some]

theorem task_uploaded :
    upload taskPlatform taskConfig sampleBlob taskMetadata (answered uploadAnswer) = .ok taskRef := by
  rw [upload, sequence_ok]
  refine ⟨some (utf16 "/photo"), rfl, ?_⟩
  refine then_ok.mpr ⟨rfl, failIf_bind_ok.mpr ⟨rfl, sequence_ok.mpr ⟨"token", rfl, ?_⟩⟩⟩
  refine failIf_bind_ok.mpr ⟨rfl, then_ok.mpr ⟨rfl, then_ok.mpr ⟨rfl, sequence_ok.mpr ⟨uploadAnswer, rfl, ?_⟩⟩⟩⟩
  refine then_ok.mpr ⟨rfl, then_ok.mpr ⟨rfl, sequence_ok.mpr ⟨taskRef, task_reply, ?_⟩⟩⟩
  refine then_ok.mpr ⟨rfl, failIf_bind_ok.mpr ⟨rfl, ?_⟩⟩
  rw [if_pos (show taskConfig.taskBinding.isSome = true from rfl)]
  exact sequence_ok.mpr ⟨_, task_qualified, rfl⟩

theorem task_read :
    read taskPlatform taskConfig taskRef (some "photo[0]") (answered readAnswer) = .ok sampleBlob := by
  rw [read, sequence_ok]
  refine ⟨some (utf16 "/photo"), rfl, sequence_ok.mpr ⟨_, task_qualified, ?_⟩⟩
  refine then_ok.mpr ⟨rfl, failIf_bind_ok.mpr ⟨rfl, failIf_bind_ok.mpr ⟨rfl, failIf_bind_ok.mpr ⟨rfl, ?_⟩⟩⟩⟩
  refine failIf_bind_ok.mpr ⟨rfl, then_ok.mpr ⟨rfl, sequence_ok.mpr ⟨"token", rfl, ?_⟩⟩⟩
  refine failIf_bind_ok.mpr ⟨rfl, then_ok.mpr ⟨rfl, then_ok.mpr ⟨rfl, sequence_ok.mpr ⟨readAnswer, rfl, ?_⟩⟩⟩⟩
  refine then_ok.mpr ⟨rfl, failIf_bind_ok.mpr ⟨by decide, sequence_ok.mpr ⟨[97, 98, 99], rfl, ?_⟩⟩⟩
  exact then_ok.mpr ⟨rfl, failIf_bind_ok.mpr ⟨rfl, rfl⟩⟩

theorem uploads_readable_task :
    (∃ qualified, checkDescriptor taskPlatform taskConfig taskRef (some "photo[0]") = .ok qualified)
      ∧ ∃ qualified reply, checkDescriptor taskPlatform taskConfig taskRef (some "photo[0]") = .ok qualified
        ∧ (answered readAnswer).reply = .ok reply ∧ IsBody reply.body sampleBlob.bytes
        ∧ sampleBlob.bytes.length = qualified.size ∧ digestText taskPlatform sampleBlob.bytes = qualified.hash := by
  obtain ⟨huploads, hreads⟩ := uploads_readable taskPlatform taskConfig
  exact ⟨(huploads _ _ _ _ task_uploaded).1 rfl, hreads _ _ _ _ task_read⟩

theorem upload_not_readable :
    ¬ ∀ (platform : StorePlatform) (config : HttpAttachmentStoreConfig) (blob : Blob)
      (metadata : AttachmentUploadMetadata) (exchange : Exchange) (ref : Reference),
      upload platform config blob metadata exchange = .ok ref →
        ∃ qualified, checkDescriptor platform config ref metadata.fieldPath = .ok qualified := by
  intro h
  obtain ⟨qualified, hqualified⟩ := h _ _ _ _ _ _ sample_uploaded
  rw [show sampleMetadata.fieldPath = none from rfl, sample_refused] at hqualified
  cases hqualified

end

end FormspecWeb.Attachments.HttpStore
