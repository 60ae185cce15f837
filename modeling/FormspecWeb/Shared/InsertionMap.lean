/-!
# Maps in the order of insertion

The entries of a map stand in the order their keys were first set. A key that is set again keeps its
place, and one that was deleted goes behind the others. A lookup finds the first entry of a key.
-/

namespace FormspecWeb.Shared

variable {κ α : Type} [BEq κ]

/-- `Map.prototype.set` -/
def setEntry (key : κ) (value : α) : List (κ × α) → List (κ × α)
  | [] => [(key, value)]
  | (k, v) :: rest => if k == key then (k, value) :: rest else (k, v) :: setEntry key value rest

/-- `Map.prototype.delete` -/
def deleteEntry (key : κ) (entries : List (κ × α)) : List (κ × α) := entries.filter (·.1 != key)

variable {entries : List (κ × α)} {entry : κ × α} {key other : κ} {value : α}

theorem lookup_entry : (entry :: entries).lookup other
    = if other == entry.1 then some entry.2 else entries.lookup other := by
  rw [List.lookup_cons]
  cases other == entry.1 <;> rfl

theorem keys_deleteEntry :
    (deleteEntry key entries).map (·.1) = (entries.map (·.1)).filter (· != key) := by
  rw [deleteEntry, List.filter_map]
  rfl

variable [LawfulBEq κ]

theorem mem_of_lookup (h : entries.lookup key = some value) : (key, value) ∈ entries := by
  obtain ⟨before, after, rfl, -⟩ := List.lookup_eq_some_iff.mp h
  exact List.mem_append_right _ List.mem_cons_self

theorem lookup_of_mem (hnodup : (entries.map (·.1)).Nodup) (h : (key, value) ∈ entries) :
    entries.lookup key = some value := by
  obtain ⟨before, after, rfl⟩ := List.append_of_mem h
  rw [List.map_append, List.map_cons, List.nodup_append] at hnodup
  apply List.lookup_eq_some_iff.mpr
  refine ⟨before, after, rfl, ?_⟩
  intro entry hentry
  rw [bne_iff_ne]
  exact (hnodup.2.2 _ (List.mem_map_of_mem hentry) _ List.mem_cons_self).symm

theorem lookup_setEntry :
    (setEntry key value entries).lookup other = if other == key then some value else entries.lookup other := by
  induction entries with
  | nil => rw [setEntry, lookup_entry]
  | cons entry rest ih =>
    rw [setEntry, lookup_entry]
    split
    · next heq =>
      rw [lookup_entry, beq_iff_eq.mp heq]
      by_cases hother : other == key
      · rw [if_pos hother, if_pos hother]
      · rw [if_neg hother, if_neg hother, if_neg hother]
    · next hne =>
      rw [lookup_entry, ih]
      by_cases hentry : other == entry.1
      · have hother : ¬ (other == key) = true := by
          rw [beq_iff_eq.mp hentry]
          exact hne
        rw [if_pos hentry, if_pos hentry, if_neg hother]
      · rw [if_neg hentry, if_neg hentry]

theorem lookup_deleteEntry :
    (deleteEntry key entries).lookup other = if other == key then none else entries.lookup other := by
  induction entries with
  | nil => simp [deleteEntry]
  | cons entry rest ih =>
    rw [deleteEntry] at ih
    rw [deleteEntry, List.filter_cons, lookup_entry]
    by_cases hentry : entry.1 = key
    · rw [if_neg (by simpa using hentry), ih, hentry]
      by_cases hother : other == key
      · rw [if_pos hother, if_pos hother]
      · rw [if_neg hother, if_neg hother, if_neg hother]
    · rw [if_pos (by simpa using hentry), lookup_entry, ih]
      by_cases hother : other == entry.1
      · have hkey : ¬ (other == key) = true := by
          rw [beq_iff_eq.mp hother, beq_iff_eq]
          exact hentry
        rw [if_pos hother, if_pos hother, if_neg hkey]
      · rw [if_neg hother, if_neg hother]

theorem setEntry_of_lookup (h : entries.lookup key = none) :
    setEntry key value entries = entries ++ [(key, value)] := by
  induction entries with
  | nil => rfl
  | cons entry rest ih =>
    rw [List.lookup_eq_none_iff] at h
    have hentry : key ≠ entry.1 := by simpa using h entry List.mem_cons_self
    have hrest : rest.lookup key = none :=
      List.lookup_eq_none_iff.mpr fun p hp => h p (List.mem_cons_of_mem _ hp)
    rw [setEntry, if_neg (by simpa using hentry.symm), ih hrest, List.cons_append]

theorem filterMap_lookup (h : (entries.map (·.1)).Nodup) :
    (entries.map (·.1)).filterMap (entries.lookup ·) = entries.map (·.2) := by
  have hfound : ∀ found ⊆ entries,
      (found.map (·.1)).filterMap (entries.lookup ·) = found.map (·.2) := by
    intro found hsub
    induction found with
    | nil => rfl
    | cons entry rest ih =>
      have hentry : entries.lookup entry.1 = some entry.2 :=
        lookup_of_mem h (hsub List.mem_cons_self)
      rw [List.map_cons, List.filterMap_cons, hentry]
      exact congrArg _ (ih fun p hp => hsub (List.mem_cons_of_mem _ hp))
  exact hfound entries (List.Subset.refl _)

theorem mem_setEntry (h : entry ∈ setEntry key value entries) :
    entry.1 = key ∧ entry.2 = value ∨ entry ∈ entries := by
  induction entries with
  | nil =>
    rw [setEntry, List.mem_singleton] at h
    exact Or.inl ⟨h ▸ rfl, h ▸ rfl⟩
  | cons first rest ih =>
    rw [setEntry] at h
    split at h
    · next heq =>
      rcases List.mem_cons.mp h with rfl | hrest
      · exact Or.inl ⟨beq_iff_eq.mp heq, rfl⟩
      · exact Or.inr (List.mem_cons_of_mem _ hrest)
    · rcases List.mem_cons.mp h with rfl | hrest
      · exact Or.inr List.mem_cons_self
      · exact (ih hrest).imp_right (List.mem_cons_of_mem _)

theorem mem_deleteEntry : entry ∈ deleteEntry key entries ↔ entry ∈ entries ∧ entry.1 ≠ key := by
  rw [deleteEntry, List.mem_filter, bne_iff_ne]

/-! ## Keys under another form

A map whose keys are written in another form is the same map, as far as no two keys of it, or one and
the key of an operation, have the same form. -/

section

variable {κ' : Type} [BEq κ'] [LawfulBEq κ'] {form : κ → κ'}

def mapKeys (form : κ → κ') (entries : List (κ × α)) : List (κ' × α) :=
  entries.map fun entry => (form entry.1, entry.2)

section

variable (h : ∀ entry ∈ entries, form entry.1 = form key → entry.1 = key)
include h

theorem lookup_mapKeys :
    (mapKeys form entries).lookup (form key) = entries.lookup key := by
  induction entries with
  | nil => rfl
  | cons entry rest ih =>
    obtain ⟨hentry, hrest⟩ := List.forall_mem_cons.mp h
    rw [mapKeys, List.map_cons, lookup_entry, lookup_entry]
    by_cases heq : key = entry.1
    · rw [if_pos (by simp [heq]), if_pos (by simp [heq])]
    · have hform : form key ≠ form entry.1 := fun hform => heq (hentry hform.symm).symm
      rw [if_neg (by simpa using hform), if_neg (by simpa using heq)]
      exact ih hrest

theorem setEntry_mapKeys :
    setEntry (form key) value (mapKeys form entries) = mapKeys form (setEntry key value entries) := by
  induction entries with
  | nil => rfl
  | cons entry rest ih =>
    obtain ⟨hentry, hrest⟩ := List.forall_mem_cons.mp h
    rw [mapKeys, List.map_cons, setEntry, setEntry]
    by_cases heq : entry.1 = key
    · rw [if_pos (by simp [heq]), if_pos (by simp [heq])]
      rfl
    · have hform : form entry.1 ≠ form key := fun hform => heq (hentry hform)
      rw [if_neg (by simpa using hform), if_neg (by simpa using heq)]
      exact congrArg _ (ih hrest)

theorem deleteEntry_mapKeys :
    deleteEntry (form key) (mapKeys form entries) = mapKeys form (deleteEntry key entries) := by
  rw [deleteEntry, mapKeys, List.filter_map, deleteEntry, mapKeys]
  congr 1
  apply List.filter_congr
  intro entry hentry
  rw [Bool.eq_iff_iff, Function.comp_apply, bne_iff_ne, bne_iff_ne]
  exact not_congr ⟨h entry hentry, congrArg form⟩

end

end

end FormspecWeb.Shared
