import FormspecWeb.Shared.JsonRoundTrip

/-!
# Scoped metadata in the browser's storage

A store keeps one record for each slot, under a key that joins its namespace, its context as JSON and
the slot. What the storage itself does with a call comes from outside: it may throw, and it may
ignore a change.
-/

namespace FormspecWeb.Storage

open Shared.JsonText

variable {ν : Type}

/-! ## Serialization -/

/-- A value of the language, as far as `JSON.stringify` tells values apart. -/
inductive JsValue (ν : Type) where
  /-- `undefined`, a function or a symbol. -/
  | undefined
  /-- A `BigInt`, or an object that contains itself or throws when it is read. -/
  | unserializable
  | null
  | bool (value : Bool)
  | number (value : ν)
  | nonFinite
  | string (value : Text)
  | array (entries : List (JsValue ν))
  | object (members : List (Text × JsValue ν))
  /-- An object whose `toJSON` gives another value. -/
  | custom (result : JsValue ν)

mutual

/-- What a value is printed as: nothing where it is left out, an error where serializing throws. -/
def serialize : JsValue ν → Except Unit (Option (Json ν))
  | .undefined => .ok none
  | .unserializable => .error ()
  | .null | .nonFinite => .ok (some .null)
  | .bool value => .ok (some (.bool value))
  | .number value => .ok (some (.number value))
  | .string value => .ok (some (.string value))
  | .array entries => (serializeEntries entries).map fun entries => some (.array entries)
  | .object members => (serializeMembers members).map fun members => some (.object members)
  | .custom result => serialize result

def serializeEntries : List (JsValue ν) → Except Unit (List (Json ν))
  | [] => .ok []
  | entry :: entries => do
      let first ← serialize entry
      let rest ← serializeEntries entries
      return first.getD .null :: rest

def serializeMembers : List (Text × JsValue ν) → Except Unit (List (Text × Json ν))
  | [] => .ok []
  | (key, value) :: members => do
      let first ← serialize value
      let rest ← serializeMembers members
      return match first with
        | some value => (key, value) :: rest
        | none => rest

end

def stringify (format : NumberFormat ν) (value : JsValue ν) : Except Unit (Option Text) :=
  (serialize value).map fun json => json.map (print format)

def JsValue.isRecord : JsValue ν → Bool
  | .object _ | .custom _ => true
  | _ => false

def isRecord : Json ν → Bool
  | .object _ => true
  | _ => false

structure MetadataConfig (ν : Type) where
  metadataNamespace : Text
  context : JsValue ν

structure MetadataStore where
  metadataNamespace : Text
  context : Text
deriving DecidableEq

/-- `/[A-Za-z0-9:._-]/` -/
def isNamespaceUnit (u : Nat) : Bool :=
  (65 ≤ u && u ≤ 90) || (97 ≤ u && u ≤ 122) || (48 ≤ u && u ≤ 58) || u == 46 || u == 95 || u == 45

def createBrowserScopedMetadataStore (format : NumberFormat ν) (config : MetadataConfig ν) :
    Except String MetadataStore :=
  if config.metadataNamespace.isEmpty || !config.metadataNamespace.all isNamespaceUnit then
    .error "Scoped metadata namespace must be a nonempty identifier"
  else if !config.context.isRecord then .error "Scoped metadata context is invalid"
  else match stringify format config.context with
    | .ok (some serialized) =>
      if (parse format serialized).any isRecord then
        .ok { metadataNamespace := config.metadataNamespace, context := serialized }
      else .error "Scoped metadata context is invalid"
    | _ => .error "Scoped metadata context is invalid"

def keyFor (store : MetadataStore) (slot : Text) : Except String Text :=
  if slot.isEmpty then .error "Scoped metadata slot must be a nonempty string"
  else .ok (store.metadataNamespace ++ 58 :: (store.context ++ 58 :: slot))

/-! ## Storage -/

abbrev Items := Text → Option Text

inductive Response where
  | works
  | ignores
  | throws
deriving DecidableEq

def getItem (response : Response) (items : Items) (key : Text) : Except String (Option Text) :=
  if response = .throws then .error "storage refused" else .ok (items key)

def changeItem (response : Response) (items : Items) (key : Text) (value : Option Text) : Items :=
  if response = .works then Function.update items key value else items

/-- `throw new Error('Tab scoped-metadata storage is unavailable or invalid', { cause })`. -/
def access {α : Type} (result : Except String α) : Except String α :=
  result.mapError fun _ => "Tab scoped-metadata storage is unavailable or invalid"

def recordValue (format : NumberFormat ν) (store : MetadataStore) (slot raw : Text) :
    Except String (Json ν) :=
  match parse format raw with
  | none => .error "stored text does not parse"
  | some record =>
    match record.member? (units "context"), record.member? (units "slot"),
      record.member? (units "value") with
    | some (.string context), some (.string recorded), some value =>
      if context = store.context ∧ recorded = slot then .ok value
      else .error "Stored metadata does not match this context and slot"
    | _, _, _ => .error "Stored metadata does not match this context and slot"

/-- None is `undefined`. -/
def read (format : NumberFormat ν) (store : MetadataStore) (slot : Text) (get : Response)
    (items : Items) : Except String (Option (Json ν)) :=
  access do
    let key ← keyFor store slot
    match ← getItem get items key with
    | none => return none
    | some raw => return some (← recordValue format store slot raw)

/-- `{ context, slot, value }`. -/
def record (store : MetadataStore) (slot : Text) (value : JsValue ν) : JsValue ν :=
  .object [(units "context", .string store.context), (units "slot", .string slot),
    (units "value", value)]

def recordText (format : NumberFormat ν) (store : MetadataStore) (slot : Text)
    (value : JsValue ν) : Except String Text :=
  match stringify format (record store slot value) with
  | .ok (some raw) =>
    if (parse format raw).any fun parsed => (parsed.member? (units "value")).isSome then .ok raw
    else .error "Scoped metadata value must survive JSON serialization"
  | _ => .error "value does not serialize"

def changeAndCheck (set get : Response) (items : Items) (key : Text) (value : Option Text) :
    Items × Except String Unit :=
  let changed := changeItem set items key value
  if set = .throws then (changed, .error "storage refused")
  else match getItem get changed key with
    | .error message => (changed, .error message)
    | .ok found =>
      (changed, if found = value then .ok () else .error "Scoped metadata was not retained")

def write (format : NumberFormat ν) (store : MetadataStore) (slot : Text) (value : JsValue ν)
    (set get : Response) (items : Items) : Items × Except String Unit :=
  match keyFor store slot, recordText format store slot value with
  | .ok key, .ok raw =>
    let (changed, result) := changeAndCheck set get items key (some raw)
    (changed, access result)
  | .error message, _ => (items, access (.error message))
  | _, .error message => (items, access (.error message))

def remove (store : MetadataStore) (slot : Text) (set get : Response) (items : Items) :
    Items × Except String Unit :=
  match keyFor store slot with
  | .ok key =>
    let (changed, result) := changeAndCheck set get items key none
    (changed, access result)
  | .error message => (items, access (.error message))

inductive Operation (ν : Type) where
  | read (slot : Text) (get : Response)
  | write (slot : Text) (value : JsValue ν) (set get : Response)
  | remove (slot : Text) (set get : Response)

def Operation.slot : Operation ν → Text
  | .read slot _ | .write slot _ _ _ | .remove slot _ _ => slot

def perform (format : NumberFormat ν) (items : Items) (store : MetadataStore) :
    Operation ν → Items
  | .read _ _ => items
  | .write slot value set get => (write format store slot value set get items).1
  | .remove slot set get => (remove store slot set get items).1

def performAll (format : NumberFormat ν) (items : Items)
    (run : List (MetadataStore × Operation ν)) : Items :=
  run.foldl (fun items (store, operation) => perform format items store operation) items

end FormspecWeb.Storage
