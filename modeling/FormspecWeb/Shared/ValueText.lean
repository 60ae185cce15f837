import FormspecWeb.Shared.JsonMembers
import FormspecWeb.Shared.JsonRoundTrip
import FormspecWeb.Shared.Utf16
import FormspecWeb.Shared.Value
import Mathlib.Algebra.Order.Ring.Rat
import Mathlib.Data.List.Nodup

/-!
# Texts of values

A value of unknown shape as `JSON.stringify` writes it and `JSON.parse` reads it. A value without
`undefined` in it comes back with its numbers as they are read.
-/

namespace FormspecWeb.Shared

open JsonText

def textOf (value : String) : Text := charsText value.toList

def ofText (text : Text) : String := String.ofList (textChars text)

@[simp] theorem ofText_textOf (value : String) : ofText (textOf value) = value := by
  rw [ofText, textOf, textChars_charsText, String.ofList_toList]

theorem textOf_injective {first second : String} (h : textOf first = textOf second) : first = second := by
  rw [← ofText_textOf first, h, ofText_textOf]

namespace Value

mutual

/-- What is written of a value: nothing of `undefined`. -/
def toJson : Value → Option (Json Rat)
  | .undefined => none
  | .null => some .null
  | .bool value => some (.bool value)
  | .number value => some (.number value)
  | .string value => some (.string (textOf value))
  | .array entries => some (.array (toJsonEntries entries))
  | .object members => some (.object (toJsonMembers members))

def toJsonEntries : List Value → List (Json Rat)
  | [] => []
  | entry :: entries => (toJson entry).getD .null :: toJsonEntries entries

def toJsonMembers : List (String × Value) → List (Text × Json Rat)
  | [] => []
  | (key, value) :: members =>
    ((toJson value).map fun json => (textOf key, json)).toList ++ toJsonMembers members

end

mutual

def ofJson : Json Rat → Value
  | .null => .null
  | .bool value => .bool value
  | .number value => .number value
  | .string value => .string (ofText value)
  | .array entries => .array (ofJsonEntries entries)
  | .object members => .object (ofJsonMembers members)

def ofJsonEntries : List (Json Rat) → List Value
  | [] => []
  | entry :: entries => ofJson entry :: ofJsonEntries entries

def ofJsonMembers : List (Text × Json Rat) → List (String × Value)
  | [] => []
  | (key, value) :: members => (ofText key, ofJson value) :: ofJsonMembers members

end

mutual

/-- A value without `undefined` in it. -/
def json? : Value → Option (Json Rat)
  | .undefined => none
  | .null => some .null
  | .bool value => some (.bool value)
  | .number value => some (.number value)
  | .string value => some (.string (textOf value))
  | .array entries => (jsonEntries? entries).map .array
  | .object members => (jsonMembers? members).map .object

def jsonEntries? : List Value → Option (List (Json Rat))
  | [] => some []
  | entry :: entries => do return (← json? entry) :: (← jsonEntries? entries)

def jsonMembers? : List (String × Value) → Option (List (Text × Json Rat))
  | [] => some []
  | (key, value) :: members => do return (textOf key, ← json? value) :: (← jsonMembers? members)

end

variable (format : NumberFormat Rat)

def stringify (value : Value) : Option Text := value.toJson.map (print format)

def parse (text : Text) : Option Value := (JsonText.parse format text).map fun json => ofJson json.built

mutual

def reread : Value → Value
  | .number value => .number (format.reread value)
  | .array entries => .array (rereadEntries entries)
  | .object members => .object (rereadMembers members)
  | .undefined => .undefined
  | .null => .null
  | .bool value => .bool value
  | .string value => .string value

def rereadEntries : List Value → List Value
  | [] => []
  | entry :: entries => reread entry :: rereadEntries entries

def rereadMembers : List (String × Value) → List (String × Value)
  | [] => []
  | (key, value) :: members => (key, reread value) :: rereadMembers members

end

theorem jsonEntries?_cons {entry : Value} {entries : List Value} {found : List (Json Rat)}
    (h : jsonEntries? (entry :: entries) = some found) :
    ∃ first rest, entry.json? = some first ∧ jsonEntries? entries = some rest ∧ found = first :: rest := by
  obtain ⟨first, hfirst, h⟩ := Option.bind_eq_some_iff.mp h
  obtain ⟨rest, hrest, h⟩ := Option.bind_eq_some_iff.mp h
  exact ⟨first, rest, hfirst, hrest, (Option.some.inj h).symm⟩

theorem jsonMembers?_cons {key : String} {value : Value} {members : List (String × Value)}
    {found : List (Text × Json Rat)} (h : jsonMembers? ((key, value) :: members) = some found) :
    ∃ first rest, value.json? = some first ∧ jsonMembers? members = some rest
      ∧ found = (textOf key, first) :: rest := by
  obtain ⟨first, hfirst, h⟩ := Option.bind_eq_some_iff.mp h
  obtain ⟨rest, hrest, h⟩ := Option.bind_eq_some_iff.mp h
  exact ⟨first, rest, hfirst, hrest, (Option.some.inj h).symm⟩

/-! ## What is written is read back -/

mutual

theorem toJson_eq (value : Value) {json : Json Rat} (h : value.json? = some json) : value.toJson = some json := by
  match value with
  | .undefined => cases h
  | .null => exact h
  | .bool _ => exact h
  | .number _ => exact h
  | .string _ => exact h
  | .array entries =>
    obtain ⟨found, hfound, rfl⟩ := Option.map_eq_some_iff.mp h
    rw [toJson, toJsonEntries_eq entries hfound]
  | .object members =>
    obtain ⟨found, hfound, rfl⟩ := Option.map_eq_some_iff.mp h
    rw [toJson, toJsonMembers_eq members hfound]

theorem toJsonEntries_eq (entries : List Value) {found : List (Json Rat)} (h : jsonEntries? entries = some found) :
    toJsonEntries entries = found := by
  match entries with
  | [] =>
    cases h
    rfl
  | entry :: entries =>
    obtain ⟨first, rest, hfirst, hrest, rfl⟩ := jsonEntries?_cons h
    rw [toJsonEntries, toJson_eq entry hfirst, toJsonEntries_eq entries hrest, Option.getD_some]

theorem toJsonMembers_eq (members : List (String × Value)) {found : List (Text × Json Rat)}
    (h : jsonMembers? members = some found) : toJsonMembers members = found := by
  match members with
  | [] =>
    cases h
    rfl
  | (key, value) :: members =>
    obtain ⟨first, rest, hfirst, hrest, rfl⟩ := jsonMembers?_cons h
    rw [toJsonMembers, toJson_eq value hfirst, toJsonMembers_eq members hrest]
    rfl

end

mutual

theorem ofJson_eq (value : Value) {json : Json Rat} (h : value.json? = some json) : ofJson json = value := by
  match value with
  | .undefined => cases h
  | .null =>
    cases h
    rfl
  | .bool _ =>
    cases h
    rfl
  | .number _ =>
    cases h
    rfl
  | .string _ =>
    cases h
    rw [ofJson, ofText_textOf]
  | .array entries =>
    obtain ⟨found, hfound, rfl⟩ := Option.map_eq_some_iff.mp h
    rw [ofJson, ofJsonEntries_eq entries hfound]
  | .object members =>
    obtain ⟨found, hfound, rfl⟩ := Option.map_eq_some_iff.mp h
    rw [ofJson, ofJsonMembers_eq members hfound]

theorem ofJsonEntries_eq (entries : List Value) {found : List (Json Rat)} (h : jsonEntries? entries = some found) :
    ofJsonEntries found = entries := by
  match entries with
  | [] =>
    cases h
    rfl
  | entry :: entries =>
    obtain ⟨first, rest, hfirst, hrest, rfl⟩ := jsonEntries?_cons h
    rw [ofJsonEntries, ofJson_eq entry hfirst, ofJsonEntries_eq entries hrest]

theorem ofJsonMembers_eq (members : List (String × Value)) {found : List (Text × Json Rat)}
    (h : jsonMembers? members = some found) : ofJsonMembers found = members := by
  match members with
  | [] =>
    cases h
    rfl
  | (key, value) :: members =>
    obtain ⟨first, rest, hfirst, hrest, rfl⟩ := jsonMembers?_cons h
    rw [ofJsonMembers, ofJson_eq value hfirst, ofJsonMembers_eq members hrest, ofText_textOf]

end

mutual

theorem json?_reread (value : Value) {json : Json Rat} (h : value.json? = some json) :
    (value.reread format).json? = some (json.reread format) := by
  match value with
  | .undefined => cases h
  | .null =>
    cases h
    rfl
  | .bool _ =>
    cases h
    rfl
  | .number _ =>
    cases h
    rfl
  | .string _ =>
    cases h
    rfl
  | .array entries =>
    obtain ⟨found, hfound, rfl⟩ := Option.map_eq_some_iff.mp h
    rw [reread, json?, jsonEntries?_reread entries hfound, Json.reread, Option.map_some]
  | .object members =>
    obtain ⟨found, hfound, rfl⟩ := Option.map_eq_some_iff.mp h
    rw [reread, json?, jsonMembers?_reread members hfound, Json.reread, Option.map_some]

theorem jsonEntries?_reread (entries : List Value) {found : List (Json Rat)}
    (h : jsonEntries? entries = some found) :
    jsonEntries? (rereadEntries format entries) = some (JsonText.rereadEntries format found) := by
  match entries with
  | [] =>
    cases h
    rfl
  | entry :: entries =>
    obtain ⟨first, rest, hfirst, hrest, rfl⟩ := jsonEntries?_cons h
    rw [rereadEntries, jsonEntries?, json?_reread entry hfirst, jsonEntries?_reread entries hrest]
    rfl

theorem jsonMembers?_reread (members : List (String × Value)) {found : List (Text × Json Rat)}
    (h : jsonMembers? members = some found) :
    jsonMembers? (rereadMembers format members) = some (JsonText.rereadMembers format found) := by
  match members with
  | [] =>
    cases h
    rfl
  | (key, value) :: members =>
    obtain ⟨first, rest, hfirst, hrest, rfl⟩ := jsonMembers?_cons h
    rw [rereadMembers, jsonMembers?, json?_reread value hfirst, jsonMembers?_reread members hrest]
    rfl

end

theorem mem_rereadEntries {entries : List (Json Rat)} {entry : Json Rat} :
    entry ∈ JsonText.rereadEntries format entries ↔ ∃ source ∈ entries, source.reread format = entry := by
  induction entries with
  | nil => simp [JsonText.rereadEntries]
  | cons first entries ih => rw [JsonText.rereadEntries, List.mem_cons, ih, List.exists_mem_cons_iff, eq_comm]

theorem rereadMembers_eq (members : List (Text × Json Rat)) :
    JsonText.rereadMembers format members = members.map fun (name, value) => (name, value.reread format) := by
  induction members with
  | nil => rfl
  | cons member members ih => rw [JsonText.rereadMembers, ih, List.map_cons]

theorem within_reread {inner json : Json Rat} (h : Within inner (json.reread format)) :
    ∃ source, Within source json ∧ source.reread format = inner := by
  generalize hread : json.reread format = found at h
  induction h generalizing json with
  | self => exact ⟨json, .self, hread⟩
  | entry hentry _ ih =>
    cases json with
    | array entries =>
      cases hread
      obtain ⟨source, hsource, heq⟩ := (mem_rereadEntries format).mp hentry
      obtain ⟨found, hfound, hinner⟩ := ih heq
      exact ⟨found, .entry hsource hfound, hinner⟩
    | _ => cases hread
  | member hmember _ ih =>
    cases json with
    | object members =>
      cases hread
      rw [rereadMembers_eq] at hmember
      obtain ⟨⟨name, source⟩, hsource, heq⟩ := List.mem_map.mp hmember
      obtain ⟨found, hfound, hinner⟩ := ih (Prod.mk.inj heq).2
      exact ⟨found, .member hsource hfound, hinner⟩
    | _ => cases hread

theorem oneEach_reread {json : Json Rat} (h : OneEach json) : OneEach (json.reread format) := by
  intro members hmembers
  obtain ⟨source, hsource, heq⟩ := within_reread format hmembers
  cases source with
  | object found =>
    cases heq
    rw [rereadMembers_eq, List.map_map]
    exact h found hsource
  | _ => cases heq

/-- A value of JSON: no `undefined` is in it, and its objects have one member of each name. -/
def IsJson (value : Value) : Prop := ∃ json, value.json? = some json ∧ OneEach json

theorem IsJson.parse_stringify {value : Value} (h : value.IsJson) :
    (value.stringify format).bind (parse format) = some (value.reread format) := by
  obtain ⟨json, hjson, hone⟩ := h
  rw [stringify, toJson_eq value hjson, Option.map_some, Option.bind_some, parse, parse_print, Option.map_some,
    built_eq _ (oneEach_reread format hone), ofJson_eq _ (json?_reread format value hjson)]

theorem IsJson.reread {value : Value} (h : value.IsJson) : (value.reread format).IsJson := by
  obtain ⟨json, hjson, hone⟩ := h
  exact ⟨_, json?_reread format value hjson, oneEach_reread format hone⟩

/-! ## Values that are put together -/

theorem isJson_string (value : String) : (Value.string value).IsJson := by
  refine ⟨_, rfl, ?_⟩
  intro members hmembers
  cases hmembers

theorem isJson_array {entries : List Value} (h : ∀ entry ∈ entries, entry.IsJson) :
    (Value.array entries).IsJson := by
  have hall : ∃ found, jsonEntries? entries = some found ∧ ∀ entry ∈ found, OneEach entry := by
    induction entries with
    | nil => exact ⟨[], rfl, by simp⟩
    | cons entry entries ih =>
      obtain ⟨⟨first, hfirst, hone⟩, hentries⟩ := List.forall_mem_cons.mp h
      obtain ⟨rest, hrest, hrestOne⟩ := ih hentries
      refine ⟨first :: rest, ?_, List.forall_mem_cons.mpr ⟨hone, hrestOne⟩⟩
      rw [jsonEntries?, hfirst, hrest]
      rfl
  obtain ⟨found, hfound, hone⟩ := hall
  refine ⟨.array found, by rw [json?, hfound, Option.map_some], ?_⟩
  intro members hmembers
  cases hmembers with
  | entry hentry hinner => exact hone _ hentry members hinner

theorem isJson_object {members : List (String × Value)} (hnames : (members.map (·.1)).Nodup)
    (h : ∀ member ∈ members, member.2.IsJson) : (Value.object members).IsJson := by
  have hall : ∃ found, jsonMembers? members = some found ∧ found.map (·.1) = members.map (fun member => textOf member.1)
      ∧ ∀ name value, (name, value) ∈ found → OneEach value := by
    clear hnames
    induction members with
    | nil => exact ⟨[], rfl, rfl, by simp⟩
    | cons member members ih =>
      obtain ⟨key, value⟩ := member
      obtain ⟨⟨first, hfirst, hone⟩, hmembers⟩ := List.forall_mem_cons.mp h
      obtain ⟨rest, hrest, hkeys, hrestOne⟩ := ih hmembers
      refine ⟨(textOf key, first) :: rest, ?_, by rw [List.map_cons, hkeys, List.map_cons], ?_⟩
      · rw [jsonMembers?, hfirst, hrest]
        rfl
      · intro name found hfound
        rcases List.mem_cons.mp hfound with heq | hfound
        · rw [(Prod.mk.inj heq).2]
          exact hone
        · exact hrestOne name found hfound
  obtain ⟨found, hfound, hkeys, hone⟩ := hall
  refine ⟨.object found, by rw [json?, hfound, Option.map_some], ?_⟩
  intro inner hinner
  cases hinner with
  | self =>
    have hmap : members.map (fun member => textOf member.1) = (members.map (·.1)).map textOf := by
      rw [List.map_map]
      rfl
    rw [hkeys, hmap]
    exact List.Nodup.map (fun _ _ heq => textOf_injective heq) hnames
  | member hmember hwithin => exact hone _ _ hmember inner hwithin

theorem rereadEntries_eq (entries : List Value) : rereadEntries format entries = entries.map (reread format) := by
  induction entries with
  | nil => rfl
  | cons entry entries ih => rw [rereadEntries, ih, List.map_cons]

theorem lookup_reread (members : List (String × Value)) (key : String) :
    (rereadMembers format members).lookup key = (members.lookup key).map (reread format) := by
  induction members with
  | nil => rfl
  | cons member members ih =>
    obtain ⟨name, value⟩ := member
    rw [rereadMembers, List.lookup_cons, List.lookup_cons, ih]
    split <;> rfl

theorem get?_reread (value : Value) (key : String) :
    (value.reread format).get? key = (value.get? key).map (reread format) := by
  cases value with
  | object members =>
    rw [reread, get?, get?, Value.members, Value.members, lookup_reread]
    cases members.lookup key with
    | none => rfl
    | some found => cases found <;> rfl
  | _ => rfl

theorem isString_reread (value : Value) (text : String) : (value.reread format).isString text = value.isString text := by
  cases value <;> rfl

end Value

end FormspecWeb.Shared
