import FormspecWeb.Photo.BoundRequest

/-!
# The attachment references of a saved draft

The screener hydration's walk, which tests the kind of a value before it looks for a reference,
recognises an attachment's name by a case-insensitive pattern and works an object's members off from
the last, and the comparison of two inventories by their counts.
-/

namespace FormspecWeb.Screener

open Shared

/-- `typeof uri === 'string' && /^urn:formspec:attachment:/i.test(uri)`. -/
def namesAttachment (mapping : CaseMapping) : Option Value → Bool
  | some (.string uri) => mapping.startsIgnoringCase Photo.attachmentUrn uri.toList
  | _ => false

def isReference (mapping : CaseMapping) (entry : Value) : Bool :=
  (entry.hasOwn "contentType" && (entry.hasOwn "url" || entry.hasOwn "data"))
    || (entry.get? "kind").any (·.isString "attachment-ref")
    || [entry.get? "uri", entry.get? "url"].any (namesAttachment mapping)

/-- An array or an object is pushed as it is, so that the last of it is on top. -/
def attachmentReferencesWalk (mapping : CaseMapping) : Walk Value Value where
  found
    | .object members =>
      if isReference mapping (.object members) then [.object members] else []
    | _ => []
  pushed
    | .array entries => entries.reverse
    | .object members =>
      if isReference mapping (.object members) then [] else (members.map (·.2)).reverse
    | _ => []
  size := Value.size
  shrinks value := by
    have h := value.values_size
    cases value with
    | array entries =>
      rw [List.map_reverse, List.sum_reverse]
      exact h
    | object members =>
      dsimp only
      split
      · exact Nat.zero_lt_of_lt h
      · rw [List.map_reverse, List.sum_reverse]
        exact h
    | _ => exact Nat.one_pos

def attachmentReferences (mapping : CaseMapping) (data : Value) : List Value :=
  (attachmentReferencesWalk mapping).run [data] []

theorem namesAttachment_eq (mapping : CaseMapping) (value : Value) (key : String) :
    Photo.namesAttachment mapping value key = namesAttachment mapping (value.get? key) := by
  have hstable : Photo.attachmentUrn.all CaseMapping.isStable := by decide
  unfold Photo.namesAttachment namesAttachment
  cases value.get? key with
  | none => rfl
  | some found =>
    cases found with
    | string text => exact mapping.isPrefix_toLowerCase _ _ hstable
    | _ => rfl

theorem isReference_eq (mapping : CaseMapping) (members : List (String × Value)) :
    Photo.isReference mapping (.object members) = isReference mapping (.object members) := by
  rw [Photo.isReference, isReference, Value.isPlainObject, Bool.true_and]
  simp only [List.any_cons, List.any_nil, namesAttachment_eq]

theorem walks_agree (mapping : CaseMapping) :
    (Photo.referencesWalk mapping).Agrees (attachmentReferencesWalk mapping) where
  found value := by
    cases value with
    | object members =>
      simp only [Photo.referencesWalk, attachmentReferencesWalk, isReference_eq]
    | _ => rfl
  pushed value := by
    cases value with
    | object members =>
      simp only [Photo.referencesWalk, attachmentReferencesWalk, isReference_eq]
      split
      · rfl
      · exact (List.reverse_perm _).symm
    | array entries => exact (List.reverse_perm _).symm
    | _ => rfl

theorem references_perm (mapping : CaseMapping) (data : Value) :
    (Photo.references mapping data).Perm (attachmentReferences mapping data) :=
  (walks_agree mapping).run_perm [data]

/-- `counts[digest] = (counts[digest] ?? 0) + 1`, for each reference. -/
def referenceCounts (hash : Value → String) (references : List Value) : String → Option Nat :=
  references.foldl
    (fun counts reference digest =>
      if digest == hash reference then some ((counts digest).getD 0 + 1) else counts digest)
    fun _ => none

theorem foldl_referenceCounts (hash : Value → String) (references : List Value)
    (counts : String → Option Nat) (digest : String) :
    references.foldl
        (fun counts reference digest =>
          if digest == hash reference then some ((counts digest).getD 0 + 1) else counts digest)
        counts digest
      = if (references.map hash).count digest = 0 then counts digest
        else some ((counts digest).getD 0 + (references.map hash).count digest) := by
  induction references generalizing counts with
  | nil => rfl
  | cons reference references ih =>
    rw [List.foldl_cons, ih, List.map_cons, List.count_cons]
    by_cases heq : digest = hash reference
    · rw [beq_iff_eq.mpr heq, beq_iff_eq.mpr heq.symm]
      by_cases hzero : (references.map hash).count digest = 0
      · simp [hzero]
      · simp only [if_true, hzero, if_false, Option.getD_some, Nat.add_eq_zero_iff, Nat.one_ne_zero,
          and_false, Option.some.injEq]
        omega
    · have hother : (digest == hash reference) = false := by simpa using heq
      have hother' : (hash reference == digest) = false := by simpa using fun h => heq h.symm
      simp only [hother, hother', Bool.false_eq_true, if_false, Nat.add_zero]

theorem referenceCounts_congr {hash : Value → String} {first second : List Value}
    (h : (first.map hash).Perm (second.map hash)) :
    referenceCounts hash first = referenceCounts hash second := by
  funext digest
  have hcount : (first.map hash).count digest = (second.map hash).count digest := h.count_eq digest
  rw [referenceCounts, referenceCounts, foldl_referenceCounts, foldl_referenceCounts, hcount]

theorem map_hash_of_correspond {hashing : Photo.Hashing} {hash : Value → String}
    {attachments : List Photo.RequestAttachment} {ordered : List Value}
    (hhash : ∀ value digest, hashing.jsonHash value = some digest → hash value = digest)
    (h : List.Forall₂
      (fun attachment ref => hashing.equalJson attachment.reference ref = some true)
      attachments ordered) :
    (attachments.map (·.reference)).map hash = ordered.map hash := by
  induction h with
  | nil => rfl
  | cons hequal _ ih =>
    obtain ⟨digest, hleft, hright⟩ := hashing.equalJson_true.mp hequal
    rw [List.map_cons, List.map_cons, List.map_cons, ih, hhash _ _ hleft, hhash _ _ hright]

/-- Both walks find the same references; so the counts of one are the counts of the other, and the
attachments bound to the one inventory match the other. -/
theorem attachmentReferences_agree (mapping : CaseMapping) (data : Value) :
    (Photo.references mapping data).Perm (attachmentReferences mapping data)
    ∧ (∀ hash, referenceCounts hash (Photo.references mapping data)
        = referenceCounts hash (attachmentReferences mapping data))
    ∧ ∀ (hashing : Photo.Hashing) (budgets : Photo.Budgets)
        (attachments : List Photo.RequestAttachment) (gathered : Photo.Gathered)
        (hash : Value → String),
      Photo.bindAttachments hashing budgets (Photo.references mapping data) attachments
        = .ok gathered →
      (∀ value digest, hashing.jsonHash value = some digest → hash value = digest) →
      referenceCounts hash (attachments.map (·.reference))
        = referenceCounts hash (attachmentReferences mapping data) := by
  have hperm := references_perm mapping data
  refine ⟨hperm, fun hash => referenceCounts_congr (hperm.map hash), ?_⟩
  intro hashing budgets attachments gathered hash hbound hhash
  obtain ⟨hlength, -, hof⟩ := Photo.bindAttachments_ok hbound
  obtain ⟨-, ordered, hordered, hequal⟩ := hof.correspond hlength
  apply referenceCounts_congr
  rw [map_hash_of_correspond hhash hequal]
  exact (hordered.trans hperm).map hash

open Photo in
/-- The two attachments of the request come in the order the other walk finds them in. -/
theorem attachmentReferences_agree_controlled :
    references asciiMapping (responseData controlledNative) = [photoReference, scanReference]
      ∧ attachmentReferences asciiMapping (responseData controlledNative) = [scanReference, photoReference]
      ∧ referenceCounts (fun value => (controlledHashing.jsonHash value).getD "")
          ([scanAttachment, photoAttachment].map (·.reference))
        = referenceCounts (fun value => (controlledHashing.jsonHash value).getD "")
          (attachmentReferences asciiMapping (responseData controlledNative)) := by
  obtain ⟨-, -, hbound⟩ := attachmentReferences_agree asciiMapping (responseData controlledNative)
  rw [controlled_references] at hbound
  refine ⟨controlled_references, rfl, hbound _ _ _ _ _ controlled_attachments ?_⟩
  intro value digest hdigest
  rw [hdigest, Option.getD_some]

end FormspecWeb.Screener
