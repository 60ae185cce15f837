import FormspecWeb.Ports.TaskDraftWire
import FormspecWeb.Shared.Checks
import FormspecWeb.Shared.JsonPointer

/-!
# Prefilling a task

A saved draft may divide the fields of a flat definition into those a respondent may edit and those
that keep the saved values. The data of a response is put together from both. Objects are lists of
their members; setting a member keeps its place.
-/

namespace FormspecWeb.Signing

open Shared Ports

abbrev Members := List (String × Value)

/-- `Object.defineProperty(object, key, { value, … })`. -/
def defineMember (key : String) (value : Value) (members : Members) : Members :=
  if (members.lookup key).isSome then
    members.map fun (name, old) => (name, if name = key then value else old)
  else members ++ [(key, value)]

/-- `delete object[key]`. -/
def deleteMember (key : String) (members : Members) : Members :=
  members.filter fun (name, _) => name != key

theorem lookup_defineMember (key : String) (value : Value) (members : Members) (other : String) :
    (defineMember key value members).lookup other
      = if other = key then some value else members.lookup other := by
  unfold defineMember
  by_cases hown : (members.lookup key).isSome
  · rw [if_pos hown, lookup_map_value fun name old => if name = key then value else old]
    by_cases heq : other = key
    · obtain ⟨old, hold⟩ := Option.isSome_iff_exists.mp hown
      rw [heq, hold, if_pos rfl, Option.map_some, if_pos rfl]
    · rw [if_neg heq]
      simp only [heq, if_false, Option.map_id']
  · have hnone : members.lookup key = none := Option.not_isSome_iff_eq_none.mp hown
    rw [if_neg hown, List.lookup_append]
    by_cases heq : other = key
    · rw [heq, hnone, if_pos rfl, Option.none_or, List.lookup_cons_self]
    · have hne : (other == key) = false := by simpa using heq
      rw [if_neg heq, List.lookup_cons, hne, List.lookup_nil, Option.or_none]

theorem lookup_deleteMember (key : String) (members : Members) (other : String) :
    (deleteMember key members).lookup other
      = if other = key then none else members.lookup other := by
  rw [deleteMember, lookup_filter_key fun name => name != key]
  by_cases heq : other = key
  · simp [heq]
  · simp [heq]

/-! ## The definition and the draft -/

structure PrefillItem where
  key : String
  type : String
  repeatable : Bool
  /-- `item.children !== undefined`. -/
  hasChildren : Bool
  readonly : Option Value

structure PrefillBind where
  path : String
  readonly : Option String

structure PrefillDefinition where
  items : List PrefillItem
  binds : List PrefillBind

structure PrefillDraft where
  taskDraft : Option TaskDraftAssociation
  data : Members

def assertTaskDraftWire (association : Option TaskDraftAssociation) : Except String Unit := do
  failIf (association.any fun value => value.version != 1 || !isSha256Digest value.associationHash
    || !isSha256Digest value.taskBindingHash) "Invalid task draft association"
  failIf (!isTaskDraftWire association) "Invalid task prefill metadata"

/-- `path.slice(1).replace(/~1/g, '/').replace(/~0/g, '~')`. -/
def decode (path : String) : String := String.ofList (JsonPointer.unescape (path.toList.drop 1))

def encode (key : String) : String := String.ofList ('/' :: JsonPointer.escape key.toList)

/-- `definition.items.filter(item => item.type === 'field').map(item => item.key)`. -/
def PrefillDefinition.fields (definition : PrefillDefinition) : List PrefillItem :=
  definition.items.filter (·.type == "field")

def PrefillDefinition.declared (definition : PrefillDefinition) : List String :=
  definition.fields.map (·.key)

def checkDefinition (definition : PrefillDefinition) : Except String Unit := do
  failIf (definition.items.any (fun item => item.type != "field" && item.type != "display")
    || definition.fields.any fun item => item.repeatable || item.hasChildren)
    "Unsupported task prefill Definition"
  failIf (!decide definition.declared.Nodup || !decide (definition.items.map (·.key)).Nodup)
    "Unsupported task prefill Definition"

def checkField (editable : List String) (field : PrefillItem) : Except String Unit := do
  failIf (field.readonly.any fun value => match value with | .bool _ | .undefined => false | _ => true)
    "Unsupported task prefill Definition"
  failIf (field.readonly.any (·.isTrue) && editable.contains field.key)
    "Task prefill editable partition includes readonly field"

def checkBind (editable : List String) (bind : PrefillBind) : Except String Unit :=
  failIf (bind.readonly == some "true" && editable.contains bind.path)
    "Task prefill editable partition includes readonly field"

/-- The checks of the paths, and of the keys of both objects, against the declared keys. -/
def checkPartition (definition : PrefillDefinition) (prefill : TaskPrefill)
    (baseline data : Members) : Except String Unit := do
  let declared := definition.declared
  let paths := (prefill.editableDataPaths ++ prefill.readOnlyDataPaths).map decode
  let editable := prefill.editableDataPaths.map decode
  failIf (paths.length != declared.length || paths.any fun key => !declared.contains key)
    "Task prefill partition differs from Definition"
  failIf (baseline.any (fun member => !declared.contains member.1)
    || data.any fun member => !declared.contains member.1)
    "Task prefill data differs from Definition"
  checkAll (checkField editable) definition.fields
  checkAll (checkBind editable) definition.binds

/-- Puts one protected member back as the saved response has it, unless the data differs there. -/
def restoreMember (canonicalize : Value → Option String) (baseline data : Members)
    (result : Members) (key : String) : Except String Members := do
  failIf (match data.lookup key, baseline.lookup key with
    | none, _ => false
    | some _, none => true
    | some value, some saved => canonicalize value != canonicalize saved)
    "Task prefill protected value differs"
  return match baseline.lookup key with
    | some saved => defineMember key saved result
    | none => deleteMember key result

def assembleNativeTaskPrefill (canonicalize : Value → Option String)
    (definition : PrefillDefinition) (saved : PrefillDraft) (data : Members) :
    Except String Members := do
  assertTaskDraftWire saved.taskDraft
  match saved.taskDraft.bind (·.taskPrefill) with
  | none => return data
  | some prefill =>
    checkDefinition definition
    checkPartition definition prefill saved.data data
    (prefill.readOnlyDataPaths.map decode).foldlM
      (restoreMember canonicalize saved.data data) data

end FormspecWeb.Signing
