import FormspecWeb.Shared.Value

/-!
# Documents of a manifest

A signed payload is closed where its manifest references each of its documents: by an entry of an
array slot, or by a single slot.
-/

namespace FormspecWeb.VerifyingSurface

open Shared

/-- The own members of a manifest, of a table of documents and of a configuration. -/
abbrev Members := List (String × Value)

def arrayArtifactSlots : List String :=
  ["definitions", "components", "registries", "surfaces", "screeners", "dataSources", "locales",
    "mappings", "responseActionDocuments", "referenceDocuments", "ontologies"]

def singleArtifactSlots : List String :=
  ["experience", "responseActions", "component", "theme", "references", "ontology"]

/-- The own `url` of an object, where it is a string. -/
def refUrl? (ref : Value) : Option String := (ref.members.lookup "url").bind (·.text?)

def addRefUrl (urls : List String) (value : Value) : List String :=
  match refUrl? value with
  | some url => urls.insert url
  | none => urls

def addArraySlot (manifest : Members) (urls : List String) (slot : String) : List String :=
  match (manifest.lookup slot).bind (·.entries?) with
  | some refs => refs.foldl addRefUrl urls
  | none => urls

def addSingleSlot (manifest : Members) (urls : List String) (slot : String) : List String :=
  addRefUrl urls ((manifest.lookup slot).getD .undefined)

/-- `referenced`. -/
def referencedUrls (manifest : Members) : List String :=
  singleArtifactSlots.foldl (addSingleSlot manifest)
    (arrayArtifactSlots.foldl (addArraySlot manifest) [])

def documentsAreManifestClosed (manifest documents : Members) : Bool :=
  (documents.map Prod.fst).all (referencedUrls manifest).contains

def NamesRef (manifest : Members) (ref : Value) : Prop :=
  (∃ slot ∈ arrayArtifactSlots, ∃ refs, manifest.lookup slot = some (.array refs) ∧ ref ∈ refs) ∨
    ∃ slot ∈ singleArtifactSlots, manifest.lookup slot = some ref

def References (manifest : Members) (url : String) : Prop :=
  ∃ ref, NamesRef manifest ref ∧ refUrl? ref = some url

variable {manifest : Members} {url : String}

theorem mem_addRefUrl (urls : List String) (value : Value) :
    url ∈ addRefUrl urls value ↔ url ∈ urls ∨ refUrl? value = some url := by
  unfold addRefUrl
  cases refUrl? value with
  | none => simp
  | some found =>
    rw [List.mem_insert_iff, Option.some.injEq, or_comm, eq_comm]

theorem mem_foldl_add {β : Type} {add : List String → β → List String} {Adds : β → Prop}
    (hadd : ∀ urls b, url ∈ add urls b ↔ url ∈ urls ∨ Adds b) (bs : List β) (urls : List String) :
    url ∈ bs.foldl add urls ↔ url ∈ urls ∨ ∃ b ∈ bs, Adds b := by
  induction bs generalizing urls with
  | nil => simp
  | cons b bs ih =>
    rw [List.foldl_cons, ih, hadd, or_assoc]
    simp

theorem mem_addArraySlot (urls : List String) (slot : String) :
    url ∈ addArraySlot manifest urls slot ↔
      url ∈ urls ∨ ∃ refs, manifest.lookup slot = some (.array refs) ∧ ∃ ref ∈ refs, refUrl? ref = some url := by
  unfold addArraySlot
  cases hslot : manifest.lookup slot with
  | none => simp
  | some value =>
    cases value with
    | array refs => simpa [Value.entries?] using mem_foldl_add mem_addRefUrl refs urls
    | _ => simp [Value.entries?]

theorem mem_addSingleSlot (urls : List String) (slot : String) :
    url ∈ addSingleSlot manifest urls slot ↔
      url ∈ urls ∨ ∃ ref, manifest.lookup slot = some ref ∧ refUrl? ref = some url := by
  unfold addSingleSlot
  rw [mem_addRefUrl]
  cases manifest.lookup slot with
  | none => simp [refUrl?, Value.members]
  | some ref => simp

theorem mem_referencedUrls : url ∈ referencedUrls manifest ↔ References manifest url := by
  unfold referencedUrls
  rw [mem_foldl_add mem_addSingleSlot, mem_foldl_add mem_addArraySlot]
  simp only [References, NamesRef, List.not_mem_nil, false_or]
  constructor
  · rintro (⟨slot, hslot, refs, hrefs, ref, href, hurl⟩ | ⟨slot, hslot, ref, href, hurl⟩)
    · exact ⟨ref, Or.inl ⟨slot, hslot, refs, hrefs, href⟩, hurl⟩
    · exact ⟨ref, Or.inr ⟨slot, hslot, href⟩, hurl⟩
  · rintro ⟨ref, ⟨slot, hslot, refs, hrefs, href⟩ | ⟨slot, hslot, href⟩, hurl⟩
    · exact Or.inl ⟨slot, hslot, refs, hrefs, ref, href, hurl⟩
    · exact Or.inr ⟨slot, hslot, ref, href, hurl⟩

/-- The check of `documentsAreManifestClosed` is that every document is referenced. -/
theorem documentsAreManifestClosed_iff {documents : Members} :
    documentsAreManifestClosed manifest documents = true
      ↔ ∀ url ∈ documents.map Prod.fst, References manifest url := by
  unfold documentsAreManifestClosed
  rw [List.all_eq_true]
  simp only [List.contains_iff_mem, mem_referencedUrls]

end FormspecWeb.VerifyingSurface
