import FormspecWeb.Shared.InsertionMap
import FormspecWeb.Shared.JsonText

/-!
# Members of JSON values

What `JSON.parse` builds of a text: of the members of one name an object keeps the last. A value in which
no name stands twice is built as it is written.
-/

namespace FormspecWeb.Shared.JsonText

variable {ν : Type}

mutual

def Json.built : Json ν → Json ν
  | .array entries => .array (builtEntries entries)
  | .object members => .object (builtMembers members [])
  | .null => .null
  | .bool value => .bool value
  | .number value => .number value
  | .string value => .string value

def builtEntries : List (Json ν) → List (Json ν)
  | [] => []
  | entry :: entries => entry.built :: builtEntries entries

def builtMembers : List (Text × Json ν) → List (Text × Json ν) → List (Text × Json ν)
  | [], set => set
  | (name, value) :: members, set => builtMembers members (setEntry name value.built set)

end

inductive Within (inner : Json ν) : Json ν → Prop where
  | self : Within inner inner
  | entry {entries : List (Json ν)} {entry : Json ν} :
      entry ∈ entries → Within inner entry → Within inner (.array entries)
  | member {members : List (Text × Json ν)} {name : Text} {value : Json ν} :
      (name, value) ∈ members → Within inner value → Within inner (.object members)

def OneEach (value : Json ν) : Prop :=
  ∀ members, Within (.object members) value → (members.map (·.1)).Nodup

theorem OneEach.entry {entries : List (Json ν)} (h : OneEach (.array entries)) {entry : Json ν}
    (hentry : entry ∈ entries) : OneEach entry :=
  fun members hmembers => h members (.entry hentry hmembers)

theorem OneEach.member {members : List (Text × Json ν)} (h : OneEach (.object members)) {name : Text}
    {value : Json ν} (hmember : (name, value) ∈ members) : OneEach value :=
  fun inner hinner => h inner (.member hmember hinner)

mutual

theorem built_eq (value : Json ν) (h : OneEach value) : value.built = value := by
  match value with
  | .null => rfl
  | .bool _ => rfl
  | .number _ => rfl
  | .string _ => rfl
  | .array entries => rw [Json.built, builtEntries_eq entries fun entry hentry => h.entry hentry]
  | .object members =>
    rw [Json.built, builtMembers_eq members [] (h members .self) fun name value hmember => h.member hmember]
    rfl

theorem builtEntries_eq (entries : List (Json ν)) (h : ∀ entry ∈ entries, OneEach entry) :
    builtEntries entries = entries := by
  match entries with
  | [] => rfl
  | entry :: entries =>
    obtain ⟨hentry, hentries⟩ := List.forall_mem_cons.mp h
    rw [builtEntries, built_eq entry hentry, builtEntries_eq entries hentries]

theorem builtMembers_eq (members set : List (Text × Json ν)) (hnames : ((set ++ members).map (·.1)).Nodup)
    (h : ∀ name value, (name, value) ∈ members → OneEach value) : builtMembers members set = set ++ members := by
  match members with
  | [] => rw [builtMembers, List.append_nil]
  | (name, value) :: members =>
    have hnew : set.lookup name = none := by
      rw [List.lookup_eq_none_iff]
      intro entry hentry
      rw [List.map_append, List.nodup_append] at hnames
      rw [bne_iff_ne]
      exact (hnames.2.2 _ (List.mem_map_of_mem hentry) name List.mem_cons_self).symm
    have hmembers := builtMembers_eq members (set ++ [(name, value)]) (by
      rwa [List.append_assoc]) fun name value hmember => h name value (List.mem_cons_of_mem _ hmember)
    rw [builtMembers, built_eq value (h name value List.mem_cons_self), setEntry_of_lookup hnew, hmembers,
      List.append_assoc]
    rfl

end

end FormspecWeb.Shared.JsonText
