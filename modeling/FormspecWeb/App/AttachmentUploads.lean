import FormspecWeb.Async.Steps
import Mathlib.Data.List.Perm.Basic
import Mathlib.Data.List.ReduceOption

/-!
# The attachment control and its uploads

A selection starts uploads, and their settlement writes the field's value. What is in the field it
reads from `fieldValueRef`, which is set when the control is rendered. In a field of one file an
upload takes the place of the file that was there, which is a removal too.
-/

namespace FormspecWeb.App

open Async

structure AttachmentRef where
  uri : String
  hash : String
  size : Nat
  mimeType : String
  filename : String
deriving DecidableEq

structure StoredRef extends AttachmentRef where
  url : Option String
  contentType : Option String
deriving DecidableEq

inductive FieldValue where
  | absent
  | other
  | one (ref : StoredRef)
  | many (entries : List (Option StoredRef))
deriving DecidableEq

def asArray : FieldValue → List StoredRef
  | .absent => []
  | .other => []
  | .one ref => [ref]
  | .many entries => entries.reduceOption

structure SelectedFile where
  name : String
  size : Nat
  type : String
deriving DecidableEq

/-- `file.type.startsWith('image/')`. -/
def SelectedFile.isImage (file : SelectedFile) : Bool := "image/".toList.isPrefixOf file.type.toList

structure AttachmentConfig where
  multiple : Bool
  maxSize : Nat
  matchesAccept : SelectedFile → Bool

def AttachmentConfig.validateFile (config : AttachmentConfig) (file : SelectedFile) : Bool :=
  file.size ≤ config.maxSize && config.matchesAccept file

inductive FileChange where
  | uploaded (ref : AttachmentRef)
  | removed (uri : String)
deriving DecidableEq

structure AttachmentControl where
  value : FieldValue
  fieldValueRef : FieldValue
  readonly : Bool
  /-- The batches `startUploads` waits for; none once they settled. -/
  uploads : List (Option (List SelectedFile))
  analyses : List (Option (List SelectedFile))
  imageDraft : Option SelectedFile
  imageDraftQueue : List SelectedFile
  redactions : List (Option SelectedFile)
  initial : List AttachmentRef
  /-- Newest first. -/
  changes : List FileChange
deriving DecidableEq

namespace AttachmentControl

variable (config : AttachmentConfig)

def mounted (value : FieldValue) (readonly : Bool) : AttachmentControl where
  value := value
  fieldValueRef := value
  readonly := readonly
  uploads := []
  analyses := []
  imageDraft := none
  imageDraftQueue := []
  redactions := []
  initial := (asArray value).map StoredRef.toAttachmentRef
  changes := []

def stored (ref : StoredRef) : StoredRef :=
  { ref with url := some ref.uri, contentType := some ref.mimeType }

def writeBack (s : AttachmentControl) (next : List StoredRef) : AttachmentControl :=
  let values := next.map stored
  if config.multiple then { s with value := .many (values.map some) }
  else
    match values with
    | [] => { s with value := .absent }
    | first :: _ => { s with value := .one first }

def attach {α : Type} (multiple : Bool) (refs : List α) : Option α → List α
  | some ref => if multiple then refs ++ [ref] else [ref]
  | none => refs

def startUploads (s : AttachmentControl) (incoming : List SelectedFile) : AttachmentControl :=
  { s with uploads := s.uploads ++ [some incoming] }

/-- The rest of `startUploads`, when every upload of the batch has settled. -/
def settled (s : AttachmentControl) (batch : Nat) (uploaded : List (Option StoredRef)) :
    Option AttachmentControl := do
  let some incoming ← s.uploads[batch]? | none
  guard (uploaded.length = incoming.length)
  let liveRefs := asArray s.fieldValueRef
  let nextRefs := uploaded.foldl (attach config.multiple)
    (if config.multiple then liveRefs else liveRefs.take 1)
  let hasSuccessfulUpload := uploaded.any Option.isSome
  let done :=
    { s with
      uploads := s.uploads.set batch none
      changes := (uploaded.reduceOption.map fun ref => .uploaded ref.toAttachmentRef).reverse ++ s.changes }
  return if hasSuccessfulUpload then writeBack config done nextRefs else done

def enqueueImageDrafts (s : AttachmentControl) (files : List SelectedFile) : AttachmentControl :=
  if files.isEmpty then s else { s with analyses := s.analyses ++ [some files] }

def analysed (s : AttachmentControl) (call : Nat) : Option AttachmentControl := do
  let some drafts ← s.analyses[call]? | none
  let done := { s with analyses := s.analyses.set call none }
  return match s.imageDraft with
  | none =>
    { done with imageDraft := drafts.head?, imageDraftQueue := s.imageDraftQueue ++ drafts.tail }
  | some _ => { done with imageDraftQueue := s.imageDraftQueue ++ drafts }

def handleFiles (s : AttachmentControl) (files : List SelectedFile) : AttachmentControl :=
  if s.readonly || files.isEmpty then s
  else
    let incoming := if config.multiple then files else files.take 1
    let acceptedFiles := incoming.filter config.validateFile
    let imageFiles := acceptedFiles.filter (·.isImage)
    let uploadFiles := acceptedFiles.filter (!·.isImage)
    let enqueued := s.enqueueImageDrafts imageFiles
    if uploadFiles.isEmpty then enqueued else enqueued.startUploads uploadFiles

def replaceImageDraft (s : AttachmentControl) (file : SelectedFile) : AttachmentControl :=
  { s with imageDraft := some file }

def advanceImageDraftQueue (s : AttachmentControl) : AttachmentControl :=
  { s with imageDraft := s.imageDraftQueue.head?, imageDraftQueue := s.imageDraftQueue.tail }

/-- The rest of `uploadImageDraft`, with the file it made. -/
def uploadPrepared (s : AttachmentControl) (file : SelectedFile) : AttachmentControl :=
  if config.validateFile file then s.advanceImageDraftQueue.startUploads [file]
  else s.advanceImageDraftQueue

def uploadImageDraft (s : AttachmentControl) (hasRedactions : Bool) : Option AttachmentControl := do
  let draft ← s.imageDraft
  return if !config.validateFile draft then s.advanceImageDraftQueue
  else if hasRedactions then { s with redactions := s.redactions ++ [some draft] }
  else s.uploadPrepared config draft

/-- `redactImageFile` returns, or fails. -/
def redacted (s : AttachmentControl) (call : Nat) (file : Option SelectedFile) :
    Option AttachmentControl := do
  let some _ ← s.redactions[call]? | none
  let done := { s with redactions := s.redactions.set call none }
  return match file with
  | some file => done.uploadPrepared config file
  | none => done.advanceImageDraftQueue

/-- The button of a file stands among the rendered ones, while the field can be written. -/
def removeAt (s : AttachmentControl) (uri : String) : Option AttachmentControl := do
  guard (!s.readonly && (asArray s.fieldValueRef).any (·.uri == uri))
  let liveRefs := asArray s.fieldValueRef
  return writeBack config { s with changes := .removed uri :: s.changes }
    (liveRefs.filter (·.uri != uri))

def render (s : AttachmentControl) (readonly : Bool) : AttachmentControl :=
  { s with fieldValueRef := s.value, readonly := readonly }

inductive Event where
  | handleFiles (files : List SelectedFile)
  | analysed (call : Nat)
  | replaceImageDraft (file : SelectedFile)
  | cancelImageDraft
  | uploadImageDraft (hasRedactions : Bool)
  | redacted (call : Nat) (file : Option SelectedFile)
  | settled (batch : Nat) (uploaded : List (Option StoredRef))
  | removeAt (uri : String)
  | render (readonly : Bool)
deriving DecidableEq

def step (s : AttachmentControl) : Event → Option AttachmentControl
  | .handleFiles files => some (s.handleFiles config files)
  | .analysed call => s.analysed call
  | .replaceImageDraft file => some (s.replaceImageDraft file)
  | .cancelImageDraft => some s.advanceImageDraftQueue
  | .uploadImageDraft hasRedactions => s.uploadImageDraft config hasRedactions
  | .redacted call file => s.redacted config call file
  | .settled batch uploaded => s.settled config batch uploaded
  | .removeAt uri => s.removeAt config uri
  | .render readonly => some (s.render readonly)

def keptFiles (multiple : Bool) (initial : List AttachmentRef) : List FileChange → List AttachmentRef
  | [] => initial
  | .uploaded ref :: older => attach multiple (keptFiles multiple initial older) (some ref)
  | .removed uri :: older => (keptFiles multiple initial older).filter (·.uri != uri)

def filesOf (refs : List StoredRef) : List AttachmentRef := refs.map StoredRef.toAttachmentRef

def kept (s : AttachmentControl) : List AttachmentRef := keptFiles config.multiple s.initial s.changes

def ContainsKept (s : AttachmentControl) : Prop := (filesOf (asArray s.value)).Perm (s.kept config)

def Quiescent (s : AttachmentControl) : Prop :=
  (∀ batch ∈ s.uploads, batch = none) ∧ (∀ call ∈ s.analyses, call = none)
    ∧ (∀ call ∈ s.redactions, call = none) ∧ s.fieldValueRef = s.value

def room {α : Type} (multiple : Bool) (refs : List α) : List α := if multiple then refs else refs.take 1

/-- The files that were rendered last stand for those the field contains, where a change is computed
from them. -/
def RenderedSuffices (s : AttachmentControl) : Event → Prop
  | .settled _ uploaded =>
    config.multiple = true → uploaded.any Option.isSome = true →
      (filesOf (asArray s.fieldValueRef)).Perm (filesOf (asArray s.value))
  | .removeAt uri =>
    (room config.multiple ((filesOf (asArray s.fieldValueRef)).filter (·.uri != uri))).Perm
      ((filesOf (asArray s.value)).filter (·.uri != uri))
  | _ => True

instance (s : AttachmentControl) : Decidable (s.ContainsKept config) :=
  inferInstanceAs (Decidable (List.Perm _ _))

instance (s : AttachmentControl) : Decidable s.Quiescent := inferInstanceAs (Decidable (_ ∧ _))

instance (s : AttachmentControl) (event : Event) : Decidable (s.RenderedSuffices config event) :=
  match event with
  | .settled _ _ => inferInstanceAs (Decidable (_ → _ → List.Perm _ _))
  | .removeAt _ => inferInstanceAs (Decidable (List.Perm _ _))
  | .handleFiles _ | .analysed _ | .replaceImageDraft _ | .cancelImageDraft | .uploadImageDraft _
  | .redacted _ _ | .render _ => isTrue trivial

section Files

variable {α β : Type} {multiple : Bool} {news : List α}

def withUploads (multiple : Bool) (refs news : List α) : List α :=
  if multiple then refs ++ news else (news.getLast?.map ([·])).getD refs

theorem withUploads_nil (refs : List α) : withUploads multiple refs [] = refs := by
  cases multiple <;> simp [withUploads]

theorem withUploads_cons (refs : List α) (ref : α) (news : List α) :
    withUploads multiple refs (ref :: news)
      = withUploads multiple (attach multiple refs (some ref)) news := by
  cases multiple with
  | true => simp [withUploads, attach]
  | false =>
    unfold withUploads
    rw [List.getLast?_cons]
    cases news.getLast? <;> rfl

theorem foldl_attach (outcomes : List (Option α)) (refs : List α) :
    outcomes.foldl (attach multiple) refs = withUploads multiple refs outcomes.reduceOption := by
  induction outcomes generalizing refs with
  | nil => exact (withUploads_nil refs).symm
  | cons outcome outcomes ih =>
    rw [List.foldl_cons, ih]
    cases outcome with
    | none => rw [List.reduceOption_cons_of_none, attach]
    | some ref => rw [List.reduceOption_cons_of_some, withUploads_cons]

theorem map_withUploads (f : α → β) (refs : List α) :
    (withUploads multiple refs news).map f = withUploads multiple (refs.map f) (news.map f) := by
  cases multiple with
  | true => exact List.map_append
  | false =>
    unfold withUploads
    rw [List.getLast?_map]
    cases news.getLast? <;> rfl

theorem getLast?_of_ne (h : news ≠ []) : ∃ last, news.getLast? = some last :=
  ⟨_, List.getLast?_eq_some_getLast h⟩

theorem room_withUploads (h : news ≠ []) (refs : List α) :
    room multiple (withUploads multiple (room multiple refs) news) = withUploads multiple refs news := by
  obtain ⟨last, hlast⟩ := getLast?_of_ne h
  cases multiple with
  | true => rfl
  | false => simp [room, withUploads, hlast]

theorem withUploads_perm_iff (h : news ≠ []) (refs others : List α) :
    (withUploads multiple refs news).Perm (withUploads multiple others news)
      ↔ (multiple = true → refs.Perm others) := by
  obtain ⟨last, hlast⟩ := getLast?_of_ne h
  cases multiple with
  | true => simp [withUploads, List.perm_append_right_iff]
  | false => simp [withUploads, hlast]

end Files

theorem map_room {α β : Type} (f : α → β) (multiple : Bool) (refs : List α) :
    (room multiple refs).map f = room multiple (refs.map f) := by
  cases multiple with
  | true => rfl
  | false => exact List.map_take

theorem keptFiles_uploaded (multiple : Bool) (initial : List AttachmentRef) (news : List AttachmentRef)
    (older : List FileChange) :
    keptFiles multiple initial ((news.map .uploaded).reverse ++ older)
      = withUploads multiple (keptFiles multiple initial older) news := by
  induction news generalizing older with
  | nil => exact (withUploads_nil _).symm
  | cons ref news ih =>
    rw [List.map_cons, List.reverse_cons, List.append_assoc, List.singleton_append, ih,
      withUploads_cons, keptFiles]

/-! ## The steps -/

variable {config} {s t : AttachmentControl}

theorem filesOf_writeBack (s : AttachmentControl) (next : List StoredRef) :
    filesOf (asArray (s.writeBack config next).value) = room config.multiple (filesOf next) := by
  have hstored : ∀ refs, filesOf (refs.map stored) = filesOf refs := by
    intro refs
    rw [filesOf, List.map_map]
    rfl
  unfold writeBack room
  by_cases hmultiple : config.multiple = true
  · rw [if_pos hmultiple, if_pos hmultiple, asArray, ← hstored next, List.reduceOption, List.filterMap_map]
    exact congrArg filesOf (List.filterMap_some)
  · rw [if_neg hmultiple, if_neg hmultiple, ← hstored next]
    cases next <;> rfl

theorem kept_writeBack (s : AttachmentControl) (next : List StoredRef) :
    (s.writeBack config next).kept config = s.kept config := by
  unfold writeBack
  dsimp only
  split
  · rfl
  · split <;> rfl

theorem containsKept_congr (hvalue : t.value = s.value) (hinitial : t.initial = s.initial)
    (hchanges : t.changes = s.changes) : t.ContainsKept config ↔ s.ContainsKept config := by
  unfold ContainsKept kept
  rw [hvalue, hinitial, hchanges]

theorem any_isSome_iff {α : Type} {outcomes : List (Option α)} :
    outcomes.any Option.isSome = true ↔ outcomes.reduceOption ≠ [] := by
  rw [List.any_eq_true]
  constructor
  · rintro ⟨outcome, hmem, hsome⟩
    obtain ⟨ref, rfl⟩ := Option.isSome_iff_exists.mp hsome
    exact List.ne_nil_of_mem (List.reduceOption_mem_iff.mpr hmem)
  · intro hne
    obtain ⟨ref, hmem⟩ := List.exists_mem_of_ne_nil _ hne
    exact ⟨some ref, List.reduceOption_mem_iff.mp hmem, rfl⟩

theorem kept_uploaded (s : AttachmentControl) (uploads : List (Option (List SelectedFile)))
    (news : List StoredRef) :
    kept config { s with
      uploads := uploads
      changes := (news.map fun ref => FileChange.uploaded ref.toAttachmentRef).reverse ++ s.changes }
        = withUploads config.multiple (s.kept config) (filesOf news) := by
  have hmap : (news.map fun ref => FileChange.uploaded ref.toAttachmentRef)
      = (filesOf news).map .uploaded := by
    rw [filesOf, List.map_map]
    rfl
  unfold kept
  rw [hmap, keptFiles_uploaded]

theorem filesOf_nextRefs {news : List StoredRef} (h : filesOf news ≠ []) (live : List StoredRef) :
    room config.multiple (filesOf (withUploads config.multiple (room config.multiple live) news))
      = withUploads config.multiple (filesOf live) (filesOf news) := by
  rw [filesOf, map_withUploads, map_room]
  exact room_withUploads h (filesOf live)

theorem containsKept_settled {batch : Nat} {uploaded : List (Option StoredRef)}
    (h : s.ContainsKept config) (hstep : s.settled config batch uploaded = some t) :
    t.ContainsKept config ↔ s.RenderedSuffices config (.settled batch uploaded) := by
  unfold settled at hstep
  obtain ⟨entry, -, hstep⟩ := Option.bind_eq_some_iff.mp hstep
  cases entry with
  | none => cases hstep
  | some incoming =>
    obtain ⟨_, -, hstep⟩ := Option.bind_eq_some_iff.mp hstep
    cases hstep
    by_cases hsome : uploaded.any Option.isSome = true
    · have hnews : filesOf uploaded.reduceOption ≠ [] := by
        intro hnil
        exact any_isSome_iff.mp hsome (List.map_eq_nil_iff.mp hnil)
      have hvalue : room config.multiple (filesOf (withUploads config.multiple
            (room config.multiple (asArray s.fieldValueRef)) uploaded.reduceOption))
          = withUploads config.multiple (filesOf (asArray s.fieldValueRef))
            (filesOf uploaded.reduceOption) := filesOf_nextRefs hnews (asArray s.fieldValueRef)
      unfold room at hvalue
      unfold ContainsKept
      rw [if_pos hsome, filesOf_writeBack, kept_writeBack, kept_uploaded, foldl_attach, room, hvalue,
        withUploads_perm_iff hnews]
      constructor
      · intro hperm hmultiple _
        exact (hperm hmultiple).trans h.symm
      · intro hsuffices hmultiple
        exact (hsuffices hmultiple hsome).trans h
    · have hnil : uploaded.reduceOption = [] := by
        by_contra hne
        exact hsome (any_isSome_iff.mpr hne)
      rw [if_neg hsome, hnil]
      exact iff_of_true h fun _ hany => absurd hany hsome

theorem containsKept_removeAt {uri : String} (h : s.ContainsKept config)
    (hstep : s.removeAt config uri = some t) :
    t.ContainsKept config ↔ s.RenderedSuffices config (.removeAt uri) := by
  obtain ⟨_, -, hstep⟩ := Option.bind_eq_some_iff.mp hstep
  cases hstep
  have hfilter : filesOf ((asArray s.fieldValueRef).filter (·.uri != uri))
      = (filesOf (asArray s.fieldValueRef)).filter (·.uri != uri) := by
    rw [filesOf, filesOf, List.filter_map]
    rfl
  have hkept : ((filesOf (asArray s.value)).filter (·.uri != uri)).Perm
      ((s.kept config).filter (·.uri != uri)) := h.filter _
  unfold ContainsKept
  rw [filesOf_writeBack, kept_writeBack, hfilter]
  constructor
  · intro hperm
    exact hperm.trans hkept.symm
  · intro hsuffices
    exact hsuffices.trans hkept

theorem frame_enqueueImageDrafts (s : AttachmentControl) (files : List SelectedFile) :
    (s.enqueueImageDrafts files).ContainsKept config ↔ s.ContainsKept config := by
  unfold enqueueImageDrafts
  split
  · exact Iff.rfl
  · exact containsKept_congr rfl rfl rfl

theorem frame_selected (s : AttachmentControl) (imageFiles uploadFiles : List SelectedFile) :
    ContainsKept config (if uploadFiles.isEmpty then s.enqueueImageDrafts imageFiles
      else (s.enqueueImageDrafts imageFiles).startUploads uploadFiles) ↔ s.ContainsKept config := by
  split
  · exact frame_enqueueImageDrafts s imageFiles
  · exact (containsKept_congr rfl rfl rfl).trans (frame_enqueueImageDrafts s imageFiles)

theorem frame_handleFiles (s : AttachmentControl) (files : List SelectedFile) :
    (s.handleFiles config files).ContainsKept config ↔ s.ContainsKept config := by
  unfold handleFiles
  by_cases hskip : (s.readonly || files.isEmpty) = true
  · rw [if_pos hskip]
  · rw [if_neg hskip]
    exact frame_selected s _ _

theorem frame_uploadPrepared (s : AttachmentControl) (file : SelectedFile) :
    (s.uploadPrepared config file).ContainsKept config ↔ s.ContainsKept config := by
  unfold uploadPrepared
  split
  · exact containsKept_congr rfl rfl rfl
  · exact containsKept_congr rfl rfl rfl

theorem frame_analysed {call : Nat} (hstep : s.analysed call = some t) :
    t.ContainsKept config ↔ s.ContainsKept config := by
  obtain ⟨entry, -, hstep⟩ := Option.bind_eq_some_iff.mp hstep
  cases entry with
  | none => cases hstep
  | some drafts =>
    cases hstep
    cases s.imageDraft with
    | none => exact containsKept_congr rfl rfl rfl
    | some draft => exact containsKept_congr rfl rfl rfl

theorem frame_uploadImageDraft {hasRedactions : Bool}
    (hstep : s.uploadImageDraft config hasRedactions = some t) :
    t.ContainsKept config ↔ s.ContainsKept config := by
  obtain ⟨draft, -, hstep⟩ := Option.bind_eq_some_iff.mp hstep
  cases hstep
  split
  · exact containsKept_congr rfl rfl rfl
  split
  · exact containsKept_congr rfl rfl rfl
  · exact frame_uploadPrepared s draft

theorem frame_redacted {call : Nat} {file : Option SelectedFile}
    (hstep : s.redacted config call file = some t) :
    t.ContainsKept config ↔ s.ContainsKept config := by
  obtain ⟨entry, -, hstep⟩ := Option.bind_eq_some_iff.mp hstep
  cases entry with
  | none => cases hstep
  | some draft =>
    cases hstep
    cases file with
    | none => exact containsKept_congr rfl rfl rfl
    | some file => exact (frame_uploadPrepared _ file).trans (containsKept_congr rfl rfl rfl)

theorem containsKept_step (h : s.ContainsKept config) {event : Event}
    (hstep : step config s event = some t) :
    t.ContainsKept config ↔ s.RenderedSuffices config event := by
  cases event with
  | settled batch uploaded => exact containsKept_settled h hstep
  | removeAt uri => exact containsKept_removeAt h hstep
  | handleFiles files =>
    cases hstep
    exact iff_of_true ((frame_handleFiles s files).mpr h) trivial
  | analysed call => exact iff_of_true ((frame_analysed hstep).mpr h) trivial
  | replaceImageDraft file =>
    cases hstep
    exact iff_of_true ((containsKept_congr rfl rfl rfl).mpr h) trivial
  | cancelImageDraft =>
    cases hstep
    exact iff_of_true ((containsKept_congr rfl rfl rfl).mpr h) trivial
  | uploadImageDraft hasRedactions => exact iff_of_true ((frame_uploadImageDraft hstep).mpr h) trivial
  | redacted call file => exact iff_of_true ((frame_redacted hstep).mpr h) trivial
  | render readonly =>
    cases hstep
    exact iff_of_true ((containsKept_congr rfl rfl rfl).mpr h) trivial

theorem containsKept_mounted (value : FieldValue) (readonly : Bool) :
    (mounted value readonly).ContainsKept config := List.Perm.refl _

/-- In every run of the control, every state contains the files that were uploaded and not removed,
each once, exactly if every settlement and every removal finds rendered what the field contains. -/
theorem uploads_kept_iff {value : FieldValue} {readonly : Bool} {events : List Event}
    {states : List AttachmentControl}
    (hrun : statesOf (step config) (mounted value readonly) events = some states) :
    (∀ reached ∈ states, reached.ContainsKept config)
      ↔ EveryStep (step config) (RenderedSuffices config) (mounted value readonly) events :=
  statesOf_good_iff (J := fun _ => True) (fun _ _ _ _ _ => trivial)
    (fun _ _ _ _ hgood hstep => containsKept_step hgood hstep) trivial
    (containsKept_mounted value readonly) hrun

def anyPdf : AttachmentConfig where
  multiple := true
  maxSize := 26214400
  matchesAccept := fun _ => true

def pdf (name : String) : SelectedFile := ⟨name, 3, "application/pdf"⟩

def pdfRef (name : String) : StoredRef :=
  ⟨⟨"attachment:" ++ name, "sha256:99", 3, "application/pdf", name⟩, none, none⟩

def selectLeaseAndPassport : List Event :=
  [.handleFiles [pdf "lease.pdf"], .handleFiles [pdf "passport.pdf"]]

def settledLease : Event := .settled 0 [some (pdfRef "lease.pdf")]

def settledPassport : Event := .settled 1 [some (pdfRef "passport.pdf")]

def renderedBetween : List Event :=
  selectLeaseAndPassport ++ [settledLease, .render false, settledPassport, .render false]

def settledAtOnce : List Event :=
  selectLeaseAndPassport ++ [settledLease, settledPassport, .render false]

/-- Both are kept where the control is rendered between the settlements. -/
theorem uploads_kept_rendered :
    ∃ states, statesOf (step anyPdf) (mounted .absent false) renderedBetween = some states
      ∧ ∀ reached ∈ states, reached.ContainsKept anyPdf := by
  obtain ⟨states, hrun⟩ : ∃ states,
      statesOf (step anyPdf) (mounted .absent false) renderedBetween = some states := ⟨_, rfl⟩
  exact ⟨states, hrun, (uploads_kept_iff hrun).mpr (by decide)⟩

/-- The first of two files is lost, with nothing pending any more. -/
theorem first_upload_lost :
    ∃ t, settledAtOnce.foldlM (step anyPdf) (mounted .absent false) = some t
      ∧ t.Quiescent ∧ ¬t.ContainsKept anyPdf :=
  ⟨_, rfl, by decide, by decide⟩

end AttachmentControl

end FormspecWeb.App
