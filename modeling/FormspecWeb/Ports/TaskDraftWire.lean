import FormspecWeb.Ports.ResponseSigning

/-!
# Task draft selectors

The wire checks on the `taskDraft` member of an owned draft.
-/

namespace FormspecWeb.Ports

open Shared

/-- `/^\/(?:[^~/]|~[01])+$/` after its leading slash. -/
def isPointerSegmentText : List Char → Bool
  | [] => true
  | '~' :: '0' :: cs => isPointerSegmentText cs
  | '~' :: '1' :: cs => isPointerSegmentText cs
  | c :: cs => c != '~' && c != '/' && isPointerSegmentText cs

def isPrefillPath (path : String) : Bool :=
  match path.toList with
  | '/' :: c :: cs =>
    ((path.toList.flatMap utf8Bytes).length ≤ 1024) && isPointerSegmentText (c :: cs)
  | _ => false

/-- `assertTaskDraftWire` accepts the value. -/
def isTaskDraftWire : Option TaskDraftAssociation → Bool
  | none => true
  | some value =>
    value.version == 1 && isSha256Digest value.associationHash
      && isSha256Digest value.taskBindingHash
      && match value.taskPrefill with
        | none => true
        | some prefill =>
          let paths := prefill.editableDataPaths ++ prefill.readOnlyDataPaths
          prefill.version == 1 && paths.all isPrefillPath && paths.length ≤ 128
            && decide paths.Nodup

/-- `assertSignedTaskDraft` accepts the association for a draft. -/
def isSignedTaskDraft (association : Option TaskDraftAssociation) (draft : DraftReference) : Bool :=
  isTaskDraftWire association
    && match association.bind (·.signedDraft), association with
      | some signed, some value =>
        signed.draftId == draft.id
          && isSafeInteger signed.expectedSignedDraftVersion
          && signed.expectedSignedDraftVersion == draft.version
          && 2 ≤ draft.version
          && isSha256Hex draft.responseHash
          && signed.expectedSignedResponseHash == "sha256:" ++ draft.responseHash
          && signed.associationHash == value.associationHash
          && signed.taskBindingHash == value.taskBindingHash
      | _, _ => false

end FormspecWeb.Ports
