import FormspecWeb.Storage.ScopedMetadata

/-!
# Scopes do not meet

A namespace has no brace, so that it ends where the context begins, and the context's own text says
where it ends: the key tells all three parts. What is written under one key is what a read of that
key gives back, whatever other stores and slots do in between.
-/

namespace FormspecWeb.Storage

open Shared.JsonText

variable {ν : Type} {format : NumberFormat ν}

structure MetadataStore.Admitted (format : NumberFormat ν) (store : MetadataStore) : Prop where
  namespace_units : store.metadataNamespace.all isNamespaceUnit
  context : ∃ members, store.context = print format (.object members)

theorem isRecord_reread {json : Json ν} (h : isRecord (json.reread format)) :
    ∃ members, json = .object members := by
  cases json with
  | object members => exact ⟨members, rfl⟩
  | _ => cases h

variable {store : MetadataStore}

theorem create_admitted {config : MetadataConfig ν}
    (h : createBrowserScopedMetadataStore format config = .ok store) : store.Admitted format := by
  unfold createBrowserScopedMetadataStore at h
  split at h
  · cases h
  rename_i hnamespace
  split at h
  · cases h
  split at h
  · rename_i serialized hserialized
    split at h
    · rename_i hparsed
      cases h
      unfold stringify at hserialized
      cases hjson : serialize config.context with
      | error _ =>
        rw [hjson] at hserialized
        cases hserialized
      | ok json =>
        rw [hjson] at hserialized
        obtain ⟨json, rfl, rfl⟩ := Option.map_eq_some_iff.mp (Except.ok.inj hserialized)
        rw [parse_print, Option.any_some] at hparsed
        obtain ⟨members, rfl⟩ := isRecord_reread hparsed
        simp only [Bool.or_eq_true, Bool.not_eq_true', not_or, Bool.not_eq_false] at hnamespace
        exact { namespace_units := hnamespace.2, context := ⟨members, rfl⟩ }
    · cases h
  · cases h

theorem print_object (members : List (Text × Json ν)) :
    ∃ text, print format (.object members) = 123 :: text := by
  cases members with
  | nil => exact ⟨_, rfl⟩
  | cons member members => exact ⟨_, rfl⟩

theorem takeWhile_key (h : store.Admitted format) (rest : Text) :
    (store.metadataNamespace ++ 58 :: (store.context ++ rest)).takeWhile (· != 123)
      = store.metadataNamespace ++ [58] := by
  obtain ⟨members, hcontext⟩ := h.context
  obtain ⟨text, htext⟩ := @print_object _ format members
  have hplain : ∀ u ∈ store.metadataNamespace ++ [58], (u != 123) = true := by
    intro u hu
    rcases List.mem_append.mp hu with hu | hu
    · have hunit := List.all_eq_true.mp h.namespace_units u hu
      rw [bne_iff_ne]
      rintro rfl
      cases hunit
    · rw [List.mem_singleton.mp hu]
      rfl
  rw [hcontext, htext, List.append_cons, List.cons_append, List.takeWhile_append_of_pos hplain,
    List.takeWhile_cons_of_neg (by decide), List.append_nil]

theorem keyFor_ok {slot key : Text} (h : keyFor store slot = .ok key) :
    key = store.metadataNamespace ++ 58 :: (store.context ++ 58 :: slot) := by
  unfold keyFor at h
  split at h
  · cases h
  · exact (Except.ok.inj h).symm

theorem keyFor_unique {first second : MetadataStore} {slot slot' key : Text}
    (hfirst : first.Admitted format) (hsecond : second.Admitted format)
    (hkey : keyFor first slot = .ok key) (hkey' : keyFor second slot' = .ok key) :
    first = second ∧ slot = slot' := by
  have heq := (keyFor_ok hkey).symm.trans (keyFor_ok hkey')
  have hspaces := congrArg (List.takeWhile (· != 123)) heq
  rw [takeWhile_key hfirst, takeWhile_key hsecond] at hspaces
  have hspace : first.metadataNamespace = second.metadataNamespace :=
    List.append_cancel_right hspaces
  rw [hspace] at heq
  have hrest := (List.cons.inj (List.append_cancel_left heq)).2
  obtain ⟨members, hcontext⟩ := hfirst.context
  obtain ⟨members', hcontext'⟩ := hsecond.context
  have hends : ∀ text : Text, Ends (58 :: text) := by
    intro text u hu
    cases hu
    rfl
  rw [hcontext, hcontext'] at hrest
  obtain ⟨hprinted, hslot⟩ := print_unique format (hends slot) (hends slot') hrest
  have hcontexts : first.context = second.context := by rw [hcontext, hcontext', hprinted]
  refine ⟨?_, (List.cons.inj hslot).2⟩
  cases first
  cases second
  simp only [MetadataStore.mk.injEq]
  exact ⟨hspace, hcontexts⟩

variable {items : Items}

theorem changeItem_other {response : Response} {key other : Text}
    {value : Option Text} (h : other ≠ key) :
    changeItem response items key value other = items other := by
  unfold changeItem
  split
  · exact Function.update_of_ne h _ _
  · rfl

theorem changeAndCheck_fst (set get : Response) (items : Items) (key : Text)
    (value : Option Text) :
    (changeAndCheck set get items key value).1 = changeItem set items key value := by
  unfold changeAndCheck
  dsimp only
  split
  · rfl
  · split <;> rfl

theorem perform_other {operation : Operation ν} {key : Text}
    (h : keyFor store operation.slot ≠ .ok key) :
    perform format items store operation key = items key := by
  cases operation with
  | read slot get => rfl
  | write slot value set get =>
    unfold perform write
    dsimp only
    split
    · rename_i own raw hown _
      have hne : key ≠ own := by
        rintro rfl
        exact h hown
      rw [changeAndCheck_fst, changeItem_other hne]
    · rfl
    · rfl
  | remove slot set get =>
    unfold perform remove
    dsimp only
    split
    · rename_i own hown
      have hne : key ≠ own := by
        rintro rfl
        exact h hown
      rw [changeAndCheck_fst, changeItem_other hne]
    · rfl

theorem performAll_other {run : List (MetadataStore × Operation ν)} {key : Text}
    (h : ∀ entry ∈ run, keyFor entry.1 entry.2.slot ≠ .ok key) :
    performAll format items run key = items key := by
  induction run generalizing items with
  | nil => rfl
  | cons entry run ih =>
    have hhead := h entry List.mem_cons_self
    have htail : ∀ other ∈ run, keyFor other.1 other.2.slot ≠ .ok key := fun other hmem =>
      h other (List.mem_cons_of_mem _ hmem)
    exact (ih htail).trans (perform_other hhead)

theorem read_congr {slot : Text} {get : Response} {items items' : Items}
    (h : ∀ key, keyFor store slot = .ok key → items' key = items key) :
    read format store slot get items' = read format store slot get items := by
  unfold read
  cases hkey : keyFor store slot with
  | error message => rfl
  | ok key =>
    have hget : getItem get items' key = getItem get items key := by
      rw [getItem, getItem, h key hkey]
    change access (getItem get items' key >>= _) = access (getItem get items key >>= _)
    rw [hget]

/-! ## A write and the read after it -/

theorem access_ok {α : Type} {result : Except String α} {a : α} :
    access result = .ok a ↔ result = .ok a := by
  cases result <;> simp [access, Except.mapError]

theorem changeAndCheck_ok {set get : Response} {key : Text} {value : Option Text}
    (h : (changeAndCheck set get items key value).2 = .ok ()) :
    (changeAndCheck set get items key value).1 key = value := by
  rw [changeAndCheck_fst]
  unfold changeAndCheck getItem at h
  dsimp only at h
  split at h
  · cases h
  · by_cases hget : get = .throws
    · rw [if_pos hget] at h
      cases h
    · rw [if_neg hget] at h
      dsimp only at h
      split at h
      · assumption
      · cases h

def recordMembers (store : MetadataStore) (slot : Text) (value : Option (Json ν)) :
    List (Text × Json ν) :=
  (units "context", .string store.context) :: (units "slot", .string slot)
    :: (value.map fun value => (units "value", value)).toList

theorem serialize_record (store : MetadataStore) (slot : Text) (value : JsValue ν) :
    serialize (record store slot value)
      = (serialize value).map fun value => some (.object (recordMembers store slot value)) := by
  simp only [record, serialize, serializeMembers]
  cases serialize value with
  | error _ => rfl
  | ok value => cases value <;> rfl

theorem recordText_ok {slot raw : Text} {value : JsValue ν}
    (h : recordText format store slot value = .ok raw) :
    ∃ json, serialize value = .ok (some json)
      ∧ raw = print format (.object (recordMembers store slot (some json))) := by
  unfold recordText stringify at h
  rw [serialize_record] at h
  cases hvalue : serialize value with
  | error _ =>
    rw [hvalue] at h
    cases h
  | ok json =>
    rw [hvalue] at h
    dsimp only [Except.map, Option.map_some] at h
    rw [parse_print] at h
    cases json with
    | none => cases h
    | some json => exact ⟨json, rfl, (Except.ok.inj h).symm⟩

theorem recordValue_print (store : MetadataStore) (slot : Text) (json : Json ν) :
    recordValue format store slot (print format (.object (recordMembers store slot (some json))))
      = .ok (json.reread format) := by
  unfold recordValue
  rw [parse_print]
  change (if store.context = store.context ∧ slot = slot then _ else _) = _
  rw [if_pos ⟨rfl, rfl⟩]

theorem read_write {slot : Text} {value : JsValue ν} {set get : Response}
    {items items' : Items} (h : write format store slot value set get items = (items', .ok ())) :
    ∃ text json, stringify format value = .ok (some text) ∧ parse format text = some json
      ∧ read format store slot .works items' = .ok (some json) := by
  unfold write at h
  split at h
  · rename_i key raw hkey hraw
    rw [Prod.mk.injEq, access_ok] at h
    have hitem : items' key = some raw := h.1 ▸ changeAndCheck_ok h.2
    obtain ⟨json, hjson, rfl⟩ := recordText_ok hraw
    refine ⟨print format json, json.reread format, ?_, parse_print format json, ?_⟩
    · rw [stringify, hjson]
      rfl
    · rw [read, hkey]
      have hget : getItem .works items' key = .ok (some _) := congrArg Except.ok hitem
      dsimp only [bind, Except.bind]
      rw [hget]
      change access ((recordValue format store slot _).map some) = _
      rw [recordValue_print]
      rfl
  · cases h
  · cases h

/-! ## Isolation -/

def Created (format : NumberFormat ν) (store : MetadataStore) : Prop :=
  ∃ config, createBrowserScopedMetadataStore format config = .ok store

def Elsewhere (format : NumberFormat ν) (store : MetadataStore) (slot : Text)
    (run : List (MetadataStore × Operation ν)) : Prop :=
  ∀ entry ∈ run, Created format entry.1 ∧ (entry.1 = store → entry.2.slot ≠ slot)

theorem read_elsewhere {slot : Text}
    {run : List (MetadataStore × Operation ν)} (hstore : store.Admitted format)
    (hrun : Elsewhere format store slot run) (get : Response) (items : Items) :
    read format store slot get (performAll format items run) = read format store slot get items := by
  apply read_congr
  intro key hkey
  apply performAll_other
  intro entry hmem hother
  obtain ⟨⟨config, hcreated⟩, hne⟩ := hrun entry hmem
  obtain ⟨hsame, hslot⟩ := keyFor_unique (create_admitted hcreated) hstore hother hkey
  exact hne hsame hslot

/-- No two scopes share a key; so nothing done in others changes what a read gives, and what it gives
after a write is the written value as JSON carries it. -/
theorem scopedMetadata_isolated {config : MetadataConfig ν} {store : MetadataStore}
    (h : createBrowserScopedMetadataStore format config = .ok store) (slot : Text) :
    (∀ other otherSlot key, Created format other → keyFor store slot = .ok key →
      keyFor other otherSlot = .ok key → other = store ∧ otherSlot = slot)
    ∧ ∀ run, Elsewhere format store slot run →
      (∀ get items,
        read format store slot get (performAll format items run)
          = read format store slot get items)
      ∧ ∀ value set get items items',
        write format store slot value set get items = (items', .ok ()) →
        ∃ text json, stringify format value = .ok (some text) ∧ parse format text = some json
          ∧ read format store slot .works (performAll format items' run) = .ok (some json) := by
  have hstore := create_admitted h
  constructor
  · intro other otherSlot key hother hkey hkey'
    obtain ⟨_, hcreated⟩ := hother
    exact keyFor_unique (create_admitted hcreated) hstore hkey' hkey
  · intro run hrun
    constructor
    · exact read_elsewhere hstore hrun
    · intro value set get items items' hwrite
      obtain ⟨text, json, htext, hjson, hread⟩ := read_write hwrite
      exact ⟨text, json, htext, hjson, (read_elsewhere hstore hrun .works items').trans hread⟩

/-! A tenant's marker, with another tenant's written after it. -/

def digitFormat : NumberFormat (Fin 10) where
  print n := [48 + n.val]
  read
    | [u] => if h : 48 ≤ u ∧ u < 58 then some ⟨u - 48, Nat.sub_lt_left_of_lt_add h.1 h.2⟩ else none
    | _ => none
  reread n := n
  print_units := by decide
  print_ne := by decide
  read_print := by decide

def tenantConfig (tenant : String) : MetadataConfig (Fin 10) where
  metadataNamespace := units "formspec.resume"
  context := .object [(units "tenant", .string (units tenant))]

def tenantStore (tenant : String) : MetadataStore where
  metadataNamespace := units "formspec.resume"
  context := units "\x7b" ++ printString (units "tenant") ++ units ":" ++ printString (units tenant)
    ++ units "\x7d"

theorem tenant_created :
    createBrowserScopedMetadataStore digitFormat (tenantConfig "a") = .ok (tenantStore "a") := by
  rfl

def secondTenantWrites : List (MetadataStore × Operation (Fin 10)) :=
  [(tenantStore "b", .write (units "draft") (.number 2) .works .works)]

theorem secondTenant_elsewhere :
    Elsewhere digitFormat (tenantStore "a") (units "draft") secondTenantWrites := by
  intro entry hmem
  obtain rfl := List.mem_singleton.mp hmem
  exact ⟨⟨tenantConfig "b", rfl⟩, fun h => absurd h (by decide)⟩

theorem scopedMetadata_isolated_tenants :
    ∃ text json, stringify digitFormat (.number 1) = .ok (some text)
      ∧ parse digitFormat text = some json
      ∧ read digitFormat (tenantStore "a") (units "draft") .works
        (performAll digitFormat
          (write digitFormat (tenantStore "a") (units "draft") (.number 1) .works .works
            fun _ => none).1 secondTenantWrites) = .ok (some json) :=
  ((scopedMetadata_isolated tenant_created (units "draft")).2 secondTenantWrites
    secondTenant_elsewhere).2 (.number 1) .works .works (fun _ => none) _ rfl

end FormspecWeb.Storage
