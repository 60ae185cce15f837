import FormspecWeb.Signing.TaskPrefill
import Mathlib.Data.List.Nodup
import Mathlib.Data.List.Perm.Subperm

/-!
# The partition of a prefilled task

A well-formed path is the path of the key it decodes to, so that distinct paths have distinct keys; as
many distinct declared keys as there are fields are all the fields. Restoring the protected members
gives each the presence and the value of the saved response, and finds nothing to do the second time.
-/

namespace FormspecWeb.Signing

open Shared Ports

variable {canonicalize : Value → Option String}

theorem segment_of_text {segment : List Char} (h : isPointerSegmentText segment) :
    JsonPointer.Segment segment := by
  fun_induction isPointerSegmentText segment with
  | case1 => exact .nil
  | case2 rest ih => exact .tilde (ih h)
  | case3 rest ih => exact .slash (ih h)
  | case4 c rest _ _ ih =>
    simp only [Bool.and_eq_true, bne_iff_ne] at h
    exact .plain h.1.1 h.1.2 (ih h.2)

theorem encode_decode {path : String} (h : isPrefillPath path) : encode (decode path) = path := by
  unfold isPrefillPath at h
  split at h
  · rename_i c rest hpath
    rw [Bool.and_eq_true] at h
    rw [encode, decode, hpath, List.drop_one, List.tail_cons, String.toList_ofList,
      JsonPointer.escape_unescape (segment_of_text h.2), ← hpath, String.ofList_toList]
  · cases h

theorem map_decode_nodup {paths : List String} (hpaths : ∀ path ∈ paths, isPrefillPath path)
    (hnodup : paths.Nodup) : (paths.map decode).Nodup := by
  apply List.Nodup.map_on ?_ hnodup
  intro first hfirst second hsecond heq
  rw [← encode_decode (hpaths first hfirst), heq, encode_decode (hpaths second hsecond)]

variable {prefill : TaskPrefill}

theorem wire_paths {association : TaskDraftAssociation}
    (h : assertTaskDraftWire (some association) = .ok ())
    (hprefill : association.taskPrefill = some prefill) :
    (∀ path ∈ prefill.editableDataPaths ++ prefill.readOnlyDataPaths, isPrefillPath path)
      ∧ (prefill.editableDataPaths ++ prefill.readOnlyDataPaths).Nodup := by
  unfold assertTaskDraftWire at h
  obtain ⟨-, h⟩ := failIf_bind_ok.mp h
  rw [failIf_ok, Bool.not_eq_false', isTaskDraftWire, hprefill] at h
  simp only [Bool.and_eq_true, decide_eq_true_eq] at h
  exact ⟨List.all_eq_true.mp h.2.1.1.2, h.2.2⟩

structure Partition (definition : PrefillDefinition) (prefill : TaskPrefill)
    (baseline data : Members) : Prop where
  distinct : definition.declared.Nodup
  keys : (prefill.editableDataPaths.map decode ++ prefill.readOnlyDataPaths.map decode).Perm
    definition.declared
  baseline : ∀ member ∈ baseline, member.1 ∈ definition.declared
  data : ∀ member ∈ data, member.1 ∈ definition.declared

variable {definition : PrefillDefinition}

theorem checkDefinition_ok
    (h : checkDefinition definition = .ok ()) : definition.declared.Nodup := by
  unfold checkDefinition at h
  obtain ⟨-, h⟩ := failIf_bind_ok.mp h
  rw [failIf_ok, Bool.or_eq_false_iff, Bool.not_eq_false', decide_eq_true_eq] at h
  exact h.1

theorem checkPartition_ok
    {baseline data : Members}
    (hdistinct : definition.declared.Nodup)
    (hpaths : ∀ path ∈ prefill.editableDataPaths ++ prefill.readOnlyDataPaths, isPrefillPath path)
    (hnodup : (prefill.editableDataPaths ++ prefill.readOnlyDataPaths).Nodup)
    (h : checkPartition definition prefill baseline data = .ok ()) :
    Partition definition prefill baseline data := by
  unfold checkPartition at h
  obtain ⟨hkeys, h⟩ := failIf_bind_ok.mp h
  obtain ⟨hdata, -⟩ := failIf_bind_ok.mp h
  simp only [Bool.or_eq_false_iff, bne_eq_false_iff_eq, List.any_eq_false, Bool.not_eq_true',
    Bool.not_eq_false, List.contains_iff_mem] at hkeys hdata
  have hsub : ((prefill.editableDataPaths ++ prefill.readOnlyDataPaths).map decode).Subperm
      definition.declared := (map_decode_nodup hpaths hnodup).subperm hkeys.2
  have hperm := hsub.perm_of_length_le (Nat.le_of_eq hkeys.1.symm)
  rw [List.map_append] at hperm
  exact { distinct := hdistinct, keys := hperm, baseline := hdata.1, data := hdata.2 }

/-! ## The protected members -/

variable {baseline data result next : Members}

variable {key : String}

theorem restoreMember_ok (h : restoreMember canonicalize baseline data result key = .ok next) :
    next = match baseline.lookup key with
      | some saved => defineMember key saved result
      | none => deleteMember key result := by
  unfold restoreMember at h
  obtain ⟨-, h⟩ := failIf_bind_ok.mp h
  exact (Except.ok.inj h).symm

theorem lookup_restoreMember
    (h : restoreMember canonicalize baseline data result key = .ok next) (other : String) :
    next.lookup other = if other = key then baseline.lookup other else result.lookup other := by
  rw [restoreMember_ok h]
  by_cases heq : other = key
  · rw [if_pos heq, heq]
    split
    · rename_i saved hsaved
      rw [lookup_defineMember, if_pos rfl, hsaved]
    · rename_i hnone
      rw [lookup_deleteMember, if_pos rfl, hnone]
  · rw [if_neg heq]
    split
    · rw [lookup_defineMember, if_neg heq]
    · rw [lookup_deleteMember, if_neg heq]

variable {baseline data result final : Members}

variable {keys : List String}

theorem lookup_restored
    (h : keys.foldlM (restoreMember canonicalize baseline data) result = .ok final)
    (other : String) :
    final.lookup other = if other ∈ keys then baseline.lookup other else result.lookup other := by
  induction keys generalizing result with
  | nil =>
    cases h
    rw [if_neg List.not_mem_nil]
  | cons key keys ih =>
    rw [List.foldlM_cons] at h
    obtain ⟨next, hnext, h⟩ := sequence_ok.mp h
    rw [ih h, lookup_restoreMember hnext]
    by_cases hmem : other ∈ keys
    · rw [if_pos hmem, if_pos (List.mem_cons_of_mem _ hmem)]
    · rw [if_neg hmem]
      by_cases heq : other = key
      · rw [if_pos heq, if_pos (heq ▸ List.mem_cons_self)]
      · rw [if_neg heq, if_neg (by simp [heq, hmem])]

theorem mem_restoreMember (h : restoreMember canonicalize baseline data result key = .ok next)
    {member : String × Value} (hmem : member ∈ next) :
    (member.1 = key ∧ baseline.lookup key = some member.2)
      ∨ (member.1 ≠ key ∧ member ∈ result) := by
  rw [restoreMember_ok h] at hmem
  split at hmem
  · rename_i saved hsaved
    unfold defineMember at hmem
    split at hmem
    · obtain ⟨⟨name, old⟩, hold, rfl⟩ := List.mem_map.mp hmem
      by_cases heq : name = key
      · refine Or.inl ⟨heq, ?_⟩
        dsimp only
        rw [if_pos heq, hsaved]
      · refine Or.inr ⟨heq, ?_⟩
        dsimp only
        rwa [if_neg heq]
    · rename_i hfresh
      rcases List.mem_append.mp hmem with hmem | hmem
      · refine Or.inr ⟨?_, hmem⟩
        intro heq
        have hown : (result.lookup member.1).isSome := by
          rw [List.lookup_isSome_iff]
          exact ⟨member, hmem, beq_self_eq_true _⟩
        exact hfresh (heq ▸ hown)
      · obtain rfl := List.mem_singleton.mp hmem
        exact Or.inl ⟨rfl, hsaved⟩
  · rw [deleteMember, List.mem_filter, bne_iff_ne] at hmem
    exact Or.inr ⟨hmem.2, hmem.1⟩

def Settled (baseline : Members) (keys : List String) (members : Members) : Prop :=
  ∀ member ∈ members, member.1 ∈ keys → baseline.lookup member.1 = some member.2

theorem settled_restoreMember (h : restoreMember canonicalize baseline data result key = .ok next)
    (hsettled : Settled baseline keys result) : Settled baseline (keys ++ [key]) next := by
  intro member hmem hkey
  rcases mem_restoreMember h hmem with ⟨heq, hsaved⟩ | ⟨hne, hold⟩
  · rwa [heq]
  · rcases List.mem_append.mp hkey with hkey | hkey
    · exact hsettled member hold hkey
    · exact absurd (List.mem_singleton.mp hkey) hne

theorem settled_restored (done : List String)
    (h : keys.foldlM (restoreMember canonicalize baseline data) result = .ok final)
    (hsettled : Settled baseline done result) : Settled baseline (done ++ keys) final := by
  induction keys generalizing done result with
  | nil =>
    cases h
    rwa [List.append_nil]
  | cons key keys ih =>
    rw [List.foldlM_cons] at h
    obtain ⟨next, hnext, h⟩ := sequence_ok.mp h
    have hfinal := ih (done ++ [key]) h (settled_restoreMember hnext hsettled)
    rwa [List.append_assoc, List.singleton_append] at hfinal

theorem declared_restored {keys declared : List String}
    (h : keys.foldlM (restoreMember canonicalize baseline data) result = .ok final)
    (hkeys : ∀ key ∈ keys, key ∈ declared) (hresult : ∀ member ∈ result, member.1 ∈ declared) :
    ∀ member ∈ final, member.1 ∈ declared := by
  induction keys generalizing result with
  | nil =>
    cases h
    exact hresult
  | cons key keys ih =>
    rw [List.foldlM_cons] at h
    obtain ⟨next, hnext, h⟩ := sequence_ok.mp h
    refine ih h (fun other hother => hkeys other (List.mem_cons_of_mem _ hother)) ?_
    intro member hmem
    rcases mem_restoreMember hnext hmem with ⟨heq, -⟩ | ⟨-, hold⟩
    · exact heq ▸ hkeys key List.mem_cons_self
    · exact hresult member hold

theorem restoreMember_settled {baseline members : Members}
    (hread : members.lookup key = baseline.lookup key)
    (hsettled : ∀ member ∈ members, member.1 = key → baseline.lookup key = some member.2) :
    restoreMember canonicalize baseline members members key = .ok members := by
  unfold restoreMember
  cases hsaved : baseline.lookup key with
  | none =>
    have hkept : deleteMember key members = members := by
      rw [deleteMember, List.filter_eq_self]
      intro member hmem
      rw [bne_iff_ne]
      intro heq
      have hfound := hsettled member hmem heq
      rw [hsaved] at hfound
      cases hfound
    rw [hread, hsaved, failIf_bind_ok]
    exact ⟨rfl, congrArg Except.ok hkept⟩
  | some saved =>
    have hkept : defineMember key saved members = members := by
      unfold defineMember
      rw [hread, hsaved, if_pos Option.isSome_some]
      refine (List.map_congr_left ?_).trans (List.map_id' members)
      intro member hmem
      by_cases heq : member.1 = key
      · have hvalue := hsettled member hmem heq
        rw [hsaved, Option.some.injEq] at hvalue
        dsimp only
        rw [if_pos heq, hvalue]
      · dsimp only
        rw [if_neg heq]
    rw [hread, hsaved, failIf_bind_ok]
    exact ⟨by simp, congrArg Except.ok hkept⟩

theorem foldlM_settled {baseline members : Members}
    (hread : ∀ key ∈ keys, members.lookup key = baseline.lookup key)
    (hsettled : Settled baseline keys members) :
    keys.foldlM (restoreMember canonicalize baseline members) members = .ok members := by
  have hstep : ∀ key ∈ keys, restoreMember canonicalize baseline members members key
      = .ok members := by
    intro key hkey
    apply restoreMember_settled (hread key hkey)
    intro member hmem heq
    rw [← heq]
    exact hsettled member hmem (heq ▸ hkey)
  clear hread hsettled
  induction keys with
  | nil => rfl
  | cons key keys ih =>
    rw [List.foldlM_cons, hstep key List.mem_cons_self]
    exact ih fun other hother => hstep other (List.mem_cons_of_mem _ hother)

/-! ## The assembled data -/

theorem assemble_ok {saved : PrefillDraft} {data result : Members}
    {association : TaskDraftAssociation}
    (hassociation : saved.taskDraft = some association)
    (hprefill : association.taskPrefill = some prefill) :
    assembleNativeTaskPrefill canonicalize definition saved data = .ok result
      ↔ assertTaskDraftWire (some association) = .ok () ∧ checkDefinition definition = .ok ()
        ∧ checkPartition definition prefill saved.data data = .ok ()
        ∧ (prefill.readOnlyDataPaths.map decode).foldlM
          (restoreMember canonicalize saved.data data) data = .ok result := by
  unfold assembleNativeTaskPrefill
  rw [hassociation, then_ok, Option.bind_some, hprefill]
  dsimp only
  rw [then_ok, then_ok]

theorem checkPartition_congr
    {baseline data data' : Members}
    (h : checkPartition definition prefill baseline data = .ok ())
    (hdata : ∀ member ∈ data', member.1 ∈ definition.declared) :
    checkPartition definition prefill baseline data' = .ok () := by
  unfold checkPartition at h ⊢
  rw [failIf_bind_ok, failIf_bind_ok] at h ⊢
  obtain ⟨hkeys, hmembers, hrest⟩ := h
  refine ⟨hkeys, Bool.or_eq_false_iff.mpr ⟨(Bool.or_eq_false_iff.mp hmembers).1, ?_⟩, hrest⟩
  simp only [List.any_eq_false, Bool.not_eq_true', Bool.not_eq_false, List.contains_iff_mem]
  exact hdata

/-- What an assembly gives: the editable and the protected keys part the declared ones, each member
comes from its side, and a second assembly changes nothing. -/
structure Assembled (canonicalize : Value → Option String) (definition : PrefillDefinition)
    (saved : PrefillDraft) (prefill : TaskPrefill) (data result : Members) : Prop where
  distinct : definition.declared.Nodup
  keys : (prefill.editableDataPaths.map decode ++ prefill.readOnlyDataPaths.map decode).Perm
    definition.declared
  paths : ∀ path ∈ prefill.editableDataPaths ++ prefill.readOnlyDataPaths,
    encode (decode path) = path
  readOnly : ∀ key ∈ prefill.readOnlyDataPaths.map decode,
    result.lookup key = saved.data.lookup key
  editable : ∀ key ∈ prefill.editableDataPaths.map decode, result.lookup key = data.lookup key
  declared : ∀ member ∈ result, member.1 ∈ definition.declared
  again : assembleNativeTaskPrefill canonicalize definition saved result = .ok result

theorem assembleNativeTaskPrefill_partition {definition : PrefillDefinition} {saved : PrefillDraft}
    {data result : Members} {association : TaskDraftAssociation} {prefill : TaskPrefill}
    (hassociation : saved.taskDraft = some association)
    (hprefill : association.taskPrefill = some prefill)
    (h : assembleNativeTaskPrefill canonicalize definition saved data = .ok result) :
    Assembled canonicalize definition saved prefill data result := by
  obtain ⟨hwire, hdefinition, hpartition, hloop⟩ := (assemble_ok hassociation hprefill).mp h
  obtain ⟨hpaths, hnodup⟩ := wire_paths hwire hprefill
  have hparts := checkPartition_ok (checkDefinition_ok hdefinition) hpaths hnodup hpartition
  have hreadOnly : ∀ key ∈ prefill.readOnlyDataPaths.map decode, key ∈ definition.declared :=
    fun key hkey => hparts.keys.subset (List.mem_append_right _ hkey)
  have hdeclared := declared_restored hloop hreadOnly hparts.data
  have hread : ∀ key ∈ prefill.readOnlyDataPaths.map decode,
      result.lookup key = saved.data.lookup key := by
    intro key hkey
    rw [lookup_restored hloop, if_pos hkey]
  have hsettled : Settled saved.data (prefill.readOnlyDataPaths.map decode) result :=
    settled_restored [] hloop fun member _ hnone => absurd hnone List.not_mem_nil
  exact { hparts with
    paths := fun path hpath => encode_decode (hpaths path hpath)
    readOnly := hread
    editable := by
      intro key hkey
      have hnodupKeys := hparts.keys.nodup_iff.mpr hparts.distinct
      have hother : key ∉ prefill.readOnlyDataPaths.map decode := fun hboth =>
        (List.nodup_append.mp hnodupKeys).2.2 key hkey key hboth rfl
      rw [lookup_restored hloop, if_neg hother]
    declared := hdeclared
    again := (assemble_ok hassociation hprefill).mpr
      ⟨hwire, hdefinition, checkPartition_congr hpartition hdeclared, foldlM_settled hread hsettled⟩ }

/-! Two keys that an unescape in the wrong order would take for one another. -/

def swappedDefinition : PrefillDefinition where
  items := [⟨"a/b", "field", false, false, none⟩, ⟨"a~1b", "field", false, false, none⟩,
    ⟨"note", "display", false, false, none⟩]
  binds := []

def swappedPrefill : TaskPrefill where
  version := 1
  editableDataPaths := ["/a~1b"]
  readOnlyDataPaths := ["/a~01b"]

def swappedAssociation : TaskDraftAssociation where
  version := 1
  associationHash := "sha256:0000000000000000000000000000000000000000000000000000000000000000"
  taskBindingHash := "sha256:0000000000000000000000000000000000000000000000000000000000000001"
  taskPrefill := some swappedPrefill
  signedDraft := none

def swappedDraft : PrefillDraft where
  taskDraft := some swappedAssociation
  data := [("a~1b", .string "kept")]

def quoted : Value → Option String
  | .string value => some ("\"" ++ value ++ "\"")
  | _ => none

theorem assembleNativeTaskPrefill_swapped :
    Assembled quoted swappedDefinition swappedDraft swappedPrefill [("a/b", .string "new")]
      [("a/b", .string "new"), ("a~1b", .string "kept")] := by
  have hwire : assertTaskDraftWire (some swappedAssociation) = .ok () := by decide +kernel
  have hdefinition : checkDefinition swappedDefinition = .ok () := by decide +kernel
  exact assembleNativeTaskPrefill_partition rfl rfl
    ((assemble_ok rfl rfl).mpr ⟨hwire, hdefinition, by decide, rfl⟩)

end FormspecWeb.Signing
