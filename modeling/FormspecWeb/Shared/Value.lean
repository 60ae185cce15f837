/-!
# JSON values

Values of unknown shape, as definitions and policy documents carry them. A member
that is absent reads as `none`, and so does one that is written as `undefined`;
only the own keys of an object and a spread tell the two apart.
-/

namespace FormspecWeb.Shared

inductive Value where
  | undefined
  | null
  | bool (value : Bool)
  | number (value : Rat)
  | string (value : String)
  | array (entries : List Value)
  | object (members : List (String × Value))

namespace Value

/-- A value other than `undefined`. -/
def defined? : Value → Option Value
  | .undefined => none
  | value => some value

/-- The own members of an object; other values have none. -/
def members : Value → List (String × Value)
  | .object members => members
  | _ => []

/-- `value[key]`. -/
def get? (value : Value) (key : String) : Option Value := (value.members.lookup key).bind defined?

theorem get?_ne_undefined (value : Value) (key : String) : value.get? key ≠ some .undefined := by
  intro h
  obtain ⟨found, -, hfound⟩ := Option.bind_eq_some_iff.mp h
  cases found <;> cases hfound

/-- `key in value`. -/
def hasOwn (value : Value) (key : String) : Bool := (value.members.lookup key).isSome

def text? : Value → Option String
  | .string value => some value
  | _ => none

def nonEmptyString? : Value → Option String
  | .string value => if value == "" then none else some value
  | _ => none

theorem nonEmptyString_text {value : Value} {text : String}
    (h : value.nonEmptyString? = some text) : value.text? = some text ∧ text ≠ "" := by
  cases value with
  | string found =>
    simp only [nonEmptyString?, Option.ite_none_left_eq_some, Option.some.injEq] at h
    obtain ⟨hne, rfl⟩ := h
    exact ⟨rfl, fun heq => hne (beq_iff_eq.mpr heq)⟩
  | _ => cases h

/-- `Array.isArray(value)`. -/
def entries? : Value → Option (List Value)
  | .array entries => some entries
  | _ => none

def strings? (value : Value) : Option (List String) :=
  value.entries?.map (·.filterMap nonEmptyString?)

def isPlainObject : Value → Bool
  | .object _ => true
  | _ => false

def isTrue : Value → Bool
  | .bool value => value
  | _ => false

/-- `Boolean(value)`. -/
def isTruthy : Value → Bool
  | .undefined | .null => false
  | .bool value => value
  | .number value => value != 0
  | .string value => value != ""
  | .array _ | .object _ => true

def isBool : Value → Bool
  | .bool _ => true
  | _ => false

def isString (text : String) : Value → Bool
  | .string value => value == text
  | _ => false

/-- A member that is written as `undefined` where it has no value. -/
def member (key : String) (value : Option Value) : String × Value := (key, value.getD .undefined)

def optionalMember (key : String) (value : Option Value) : List (String × Value) :=
  (value.map fun found => (key, found)).toList

def ofStrings (values : List String) : Value := .array (values.map .string)

end Value

variable {α : Type} {first second : List (String × α)} {key : String}

/-- `{ ...first, ...second }`, and `Object.assign(first, second)`. -/
def spread (first second : List (String × α)) : List (String × α) :=
  first.map (fun (key, value) => (key, (second.lookup key).getD value))
    ++ second.filter fun (key, _) => (first.lookup key).isNone

theorem lookup_map_value {β : Type} (f : String → α → β) :
    (first.map fun (name, value) => (name, f name value)).lookup key
      = (first.lookup key).map (f key) := by
  induction first with
  | nil => rfl
  | cons entry first ih =>
    obtain ⟨name, value⟩ := entry
    by_cases h : key = name
    · simp [h]
    · have hne : (key == name) = false := by simpa using h
      simp only [List.map_cons, List.lookup_cons, hne, ih]

theorem lookup_filter_key (keep : String → Bool) :
    (first.filter fun (name, _) => keep name).lookup key
      = if keep key then first.lookup key else none := by
  induction first with
  | nil => cases keep key <;> rfl
  | cons entry first ih =>
    obtain ⟨name, value⟩ := entry
    by_cases h : key = name
    · subst h
      cases hkeep : keep key with
      | true => simp [hkeep]
      | false => simp only [List.filter_cons, hkeep, Bool.false_eq_true, if_false, ih]
    · have hne : (key == name) = false := by simpa using h
      cases hkeep : keep name with
      | true => simp only [List.filter_cons, hkeep, if_true, List.lookup_cons, hne, ih]
      | false => simp [hkeep, List.lookup_cons, hne, ih]

theorem lookup_spread :
    (spread first second).lookup key = (second.lookup key).or (first.lookup key) := by
  rw [spread, List.lookup_append, lookup_map_value fun name value => (second.lookup name).getD value,
    lookup_filter_key fun name => (first.lookup name).isNone]
  cases first.lookup key <;> cases second.lookup key <;> rfl

end FormspecWeb.Shared
