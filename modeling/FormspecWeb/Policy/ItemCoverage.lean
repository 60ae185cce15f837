import Mathlib.Data.List.Nodup
import FormspecWeb.Policy.ExtractFormPolicy

/-!
# Which items the form policy reflects

The walkers enter the children of groups alone. An item below a field is part of
the form, but no policy is read off it: the policy reflects every item exactly
when what it has to reflect lies below groups, and no pointer is written twice.
-/

namespace FormspecWeb.Policy

open Shared

abbrev Occurrence := List ItemProperties × ItemProperties

def pointer (o : Occurrence) : String := itemPath (o.1.map (·.key)) o.2

def isSafeAddressField (o : Occurrence) : Bool := (safeAccessClass o.2).isSome

def isBelowGroups (o : Occurrence) : Bool := o.1.all isGroup

def safeAddressEntries (policy : Option FormRuntimePolicy) : List Value :=
  ((((policy.bind (·.limits .safeAddress)).bind (·.get? "fields")).bind (·.entries?))).getD []

def hasPath (path : String) (entry : Value) : Bool := (entry.get? "path").any (·.isString path)

structure ReflectsItems (definition : FormDefinition) : Prop where
  fileUpload : (∃ o ∈ allOccurrences definition.items, isAttachmentField o.2 = true) →
    extractAttachmentRequirement definition = some .required
  safeAddress : ∀ o ∈ allOccurrences definition.items, isSafeAddressField o = true →
    (safeAddressEntries (extractSafeAddressPolicy definition)).countP (hasPath (pointer o)) = 1

def listedFields (definition : FormDefinition) : List SafeAddressFieldPolicy :=
  (parseSafeAddressBlock (definition.extension "x-formspec-safe-address")).fields.getD []

/-- Where there is an attachment, one lies below groups; and the pointer of every
safe-address item belongs to one safe-address item below groups or to one listed
field, and to nothing else of these. -/
structure ItemsBelowGroups (definition : FormDefinition) : Prop where
  attachment : (∃ o ∈ allOccurrences definition.items, isAttachmentField o.2 = true) →
    ∃ o ∈ allOccurrences definition.items, isAttachmentField o.2 = true ∧ isBelowGroups o = true
  address : ∀ o ∈ allOccurrences definition.items, isSafeAddressField o = true →
    ((allOccurrences definition.items).countP fun other =>
        isBelowGroups other && isSafeAddressField other && pointer other == pointer o)
      + (listedFields definition).countP (·.path == pointer o) = 1

mutual

theorem itemHasAttachmentField_eq (item : FormItem) :
    itemHasAttachmentField item
      = (item.occurrences isGroup).any fun o => isAttachmentField o.2 := by
  cases item with
  | node item children =>
    have hchildren := hasAttachmentField_eq children
    simp only [itemHasAttachmentField, Tree.occurrences, List.any_cons, hchildren]
    cases isGroup item <;> simp [List.any_map, Function.comp_def]

theorem hasAttachmentField_eq (items : List FormItem) :
    hasAttachmentField items
      = (occurrencesAll isGroup items).any fun o => isAttachmentField o.2 := by
  cases items with
  | nil => rfl
  | cons item items =>
    have hitem := itemHasAttachmentField_eq item
    have hitems := hasAttachmentField_eq items
    rw [hasAttachmentField, occurrencesAll, List.any_append, hitem, hitems]

end

def occurrenceField (ancestors : List String) (o : Occurrence) : Option SafeAddressFieldPolicy :=
  safeAddressField (ancestors ++ o.1.map (·.key)) o.2

mutual

theorem safeAddressFieldsFromItem_eq (ancestors : List String) (item : FormItem) :
    safeAddressFieldsFromItem ancestors item
      = (item.occurrences isGroup).filterMap (occurrenceField ancestors) := by
  cases item with
  | node item children =>
    have hchildren := safeAddressFieldsFromItems_eq (ancestors ++ [item.key]) children
    have hbelow : ((occurrencesAll isGroup children).map fun (above, b) => (item :: above, b)).filterMap
        (occurrenceField ancestors)
          = (occurrencesAll isGroup children).filterMap
            (occurrenceField (ancestors ++ [item.key])) := by
      rw [List.filterMap_map]
      congr 1
      funext o
      simp [occurrenceField]
    have hitem : occurrenceField ancestors ([], item) = safeAddressField ancestors item := by
      simp [occurrenceField]
    simp only [safeAddressFieldsFromItem, Tree.occurrences, hchildren]
    cases isGroup item <;> cases hfield : safeAddressField ancestors item <;>
      simp [hbelow, hitem, hfield]

theorem safeAddressFieldsFromItems_eq (ancestors : List String) (items : List FormItem) :
    safeAddressFieldsFromItems ancestors items
      = (occurrencesAll isGroup items).filterMap (occurrenceField ancestors) := by
  cases items with
  | nil => rfl
  | cons item items =>
    have hitem := safeAddressFieldsFromItem_eq ancestors item
    have hitems := safeAddressFieldsFromItems_eq ancestors items
    rw [safeAddressFieldsFromItems, occurrencesAll, List.filterMap_append, hitem, hitems]

end

/-! ## What the policies hold -/

theorem extractAttachmentRequirement_eq (definition : FormDefinition) :
    extractAttachmentRequirement definition = some .required
      ↔ ∃ o ∈ allOccurrences definition.items, isAttachmentField o.2 = true
        ∧ isBelowGroups o = true := by
  have hwalked : hasAttachmentField definition.items = true
      ↔ ∃ o ∈ allOccurrences definition.items, isAttachmentField o.2 = true
        ∧ isBelowGroups o = true := by
    rw [hasAttachmentField_eq, occurrencesAll_filter, List.any_eq_true]
    simp only [List.mem_filter]
    constructor
    · rintro ⟨o, ⟨hmem, hbelow⟩, hattachment⟩
      exact ⟨o, hmem, hattachment, hbelow⟩
    · rintro ⟨o, hmem, hattachment, hbelow⟩
      exact ⟨o, ⟨hmem, hbelow⟩, hattachment⟩
  rw [← hwalked, extractAttachmentRequirement]
  split <;> simp_all

theorem safeAddressEntries_extract (definition : FormDefinition) :
    safeAddressEntries (extractSafeAddressPolicy definition)
      = (safeAddressFields definition).map (·.toValue) := by
  simp only [extractSafeAddressPolicy]
  split
  · rename_i hempty
    simp_all [safeAddressEntries]
  split
  · rename_i hempty
    simp_all [safeAddressEntries]
  · rfl

theorem hasPath_toValue (path : String) (field : SafeAddressFieldPolicy) :
    hasPath path field.toValue = (field.path == path) := rfl

theorem occurrenceField_path (path : String) (o : Occurrence) :
    ((occurrenceField [] o).map fun field => field.path == path).getD false
      = (isSafeAddressField o && pointer o == path) := by
  cases hclass : safeAccessClass o.2 <;>
    simp [occurrenceField, safeAddressField, isSafeAddressField, pointer, hclass]

theorem countP_safeAddressEntries (definition : FormDefinition) (path : String) :
    (safeAddressEntries (extractSafeAddressPolicy definition)).countP (hasPath path)
      = ((allOccurrences definition.items).countP fun o =>
          isBelowGroups o && isSafeAddressField o && pointer o == path)
        + (listedFields definition).countP (·.path == path) := by
  rw [safeAddressEntries_extract, List.countP_map]
  have hpath : (hasPath path ∘ fun field : SafeAddressFieldPolicy => field.toValue)
      = fun field => field.path == path := funext fun field => hasPath_toValue path field
  rw [hpath, safeAddressFields, List.countP_append, safeAddressFieldsFromItems_eq,
    occurrencesAll_filter, List.countP_filterMap, List.countP_filter]
  congr 1
  refine List.countP_congr fun o _ => ?_
  rw [occurrenceField_path, Bool.and_comm, ← Bool.and_assoc]
  rfl

/-- The extracted policies reflect every item exactly when what they have to
reflect lies below groups, under pointers of its own. -/
theorem reflectsItems_iff (definition : FormDefinition) :
    ReflectsItems definition ↔ ItemsBelowGroups definition := by
  constructor
  · intro h
    refine ⟨fun hattachment => ?_, fun o hmem hsafe => ?_⟩
    · exact (extractAttachmentRequirement_eq definition).mp (h.fileUpload hattachment)
    · rw [← countP_safeAddressEntries]
      exact h.safeAddress o hmem hsafe
  · intro h
    refine ⟨fun hattachment => ?_, fun o hmem hsafe => ?_⟩
    · exact (extractAttachmentRequirement_eq definition).mpr (h.attachment hattachment)
    · rw [countP_safeAddressEntries]
      exact h.address o hmem hsafe

/-- A question with a document and a protected address that depend on it. -/
def dependentFields : FormDefinition where
  items :=
    [.node ⟨"relocating", .field, "Relocating", some "boolean", none, none⟩
      [.node ⟨"lease", .field, "Lease", some "attachment", none, none⟩ [],
        .node ⟨"shelter", .field, "Shelter", some "string",
          some (.object [("class", .string "safe-address")]), none⟩ []]]
  extension := fun _ => none

theorem not_reflectsItems_dependentFields : ¬ ReflectsItems dependentFields := by
  intro h
  have hlease : ∃ o ∈ allOccurrences dependentFields.items, isAttachmentField o.2 = true :=
    ⟨_, List.mem_cons_of_mem _ List.mem_cons_self, rfl⟩
  have hnone : extractAttachmentRequirement dependentFields = none := rfl
  rw [h.fileUpload hlease] at hnone
  cases hnone

end FormspecWeb.Policy
