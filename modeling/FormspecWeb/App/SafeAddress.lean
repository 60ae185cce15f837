import FormspecWeb.Policy.SafeAddress
import FormspecWeb.Shared.Text

/-!
# Protected addresses at submit

The check of a response before it is submitted: what the pointer of each field of the
policy reads goes to the directory of substitute addresses. A pointer names one place of
the response, and a field below a repeated group has one place per instance.
-/

namespace FormspecWeb.App

open Shared Policy

/-- `segment.replace(/~code/g, replacement)`. -/
def unescapeTilde (code replacement : Char) : List Char → List Char
  | '~' :: c :: rest =>
    if c = code then replacement :: unescapeTilde code replacement rest
    else '~' :: unescapeTilde code replacement (c :: rest)
  | c :: rest => c :: unescapeTilde code replacement rest
  | [] => []

def unescapeSegment (segment : List Char) : String :=
  String.ofList (unescapeTilde '0' '~' (unescapeTilde '1' '/' segment))

/-- `pointer.replace(/^\//, '')`. -/
def withoutSlash : List Char → List Char
  | '/' :: rest => rest
  | chars => chars

def pointerSegments (pointer : String) : List String :=
  (((withoutSlash pointer.toList).splitOn '/').filter fun segment => !segment.isEmpty).map
    unescapeSegment

/-- What a pointer reads: a value of the response, or what every object inherits, a function or
`Object.prototype` itself. -/
inductive Candidate where
  | value (value : Value)
  | function
  | prototype

def prototypeFunctions : List String :=
  ["constructor", "hasOwnProperty", "isPrototypeOf", "propertyIsEnumerable", "toLocaleString",
    "toString", "valueOf", "__defineGetter__", "__defineSetter__", "__lookupGetter__",
    "__lookupSetter__"]

/-- The member that `Object.prototype` gives a chain beginning at an object with this prototype. -/
def inheritedMember (prototypeOf : Candidate) (segment : String) : Candidate :=
  if segment = "__proto__" then prototypeOf
  else if segment ∈ prototypeFunctions then .function
  else .value .undefined

/-- `index` is `Number(segment)`, where that is an integer that is not negative. -/
def valueAtSegments (index : String → Option Nat) : Candidate → List String → Candidate
  | current, [] => current
  | .value (.array entries), segment :: rest =>
    match index segment with
    | some i => valueAtSegments index (.value (entries.getD i .undefined)) rest
    | none => .value .undefined
  | .value (.object members), segment :: rest =>
    valueAtSegments index
      ((members.lookup segment).elim (inheritedMember .prototype segment) .value) rest
  | .prototype, segment :: rest =>
    valueAtSegments index (inheritedMember (.value .null) segment) rest
  | _, _ :: _ => .value .undefined

def valueAtJsonPointer (index : String → Option Nat) (source : Value) (pointer : String) :
    Candidate :=
  valueAtSegments index (.value source) (pointerSegments pointer)

structure SafeAddressValidationRequest where
  jurisdictionKey : String
  candidate : String
  accessClass : SafeAddressAccessClass
deriving DecidableEq

inductive SafeAddressValidationResult where
  | valid
  | invalid (message : String)
deriving DecidableEq

/-- `validateSubstituteAddress`, which may reject. -/
abbrev SafeAddressDirectory :=
  SafeAddressValidationRequest → Except String SafeAddressValidationResult

def validateAgainstAcceptedJurisdictions (directory : SafeAddressDirectory) (candidate : String)
    (field : SafeAddressFieldPolicy) : List String → String →
    Except String SafeAddressValidationResult
  | [], lastMessage => .ok (.invalid lastMessage)
  | jurisdictionKey :: jurisdictions, _ => do
      match ← directory ⟨jurisdictionKey, candidate, field.accessClass⟩ with
      | .valid => return .valid
      | .invalid message =>
        validateAgainstAcceptedJurisdictions directory candidate field jurisdictions message

def safeAddressFieldLabel (field : SafeAddressFieldPolicy) : String := field.label.getD field.path

/-- `candidate === undefined || candidate === null || candidate === ''`. -/
def isBlank : Candidate → Bool
  | .value .undefined | .value .null => true
  | .value (.string text) => text == ""
  | _ => false

def Candidate.text? : Candidate → Option String
  | .value found => found.text?
  | _ => none

def validateSafeAddressField (index : String → Option Nat) (config : SafeAddressRuntimeConfig)
    (directory : SafeAddressDirectory) (data : Value) (field : SafeAddressFieldPolicy) :
    Except String Unit :=
  let candidate := valueAtJsonPointer index data field.path
  if isBlank candidate then .ok ()
  else match candidate.text? with
    | none => .error (safeAddressFieldLabel field ++ " must be a substitute address string.")
    | some text => do
        match ← validateAgainstAcceptedJurisdictions directory text field
            config.acpJurisdictionsAccepted
            "This substitute address is not recognized by an accepted protection program." with
        | .valid => return ()
        | .invalid message => .error (safeAddressFieldLabel field ++ ": " ++ message)

def validateSafeAddressResponseData (index : String → Option Nat)
    (config : SafeAddressRuntimeConfig) (directory : SafeAddressDirectory) (data : Value) :
    Except String Unit :=
  checkAll (validateSafeAddressField index config directory data) config.fields

mutual

/-- The instances a value stands for: the entries of an array, at any depth. -/
def instances : Value → List Value
  | .array entries => instancesAll entries
  | value => [value]

def instancesAll : List Value → List Value
  | [] => []
  | value :: values => instances value ++ instancesAll values

end

/-- What the response stores for the item under these keys, in every instance of every
repeated ancestor. -/
def storedValues : List String → Value → List Value
  | [], value => [value]
  | key :: keys, value => (instances value).flatMap fun row =>
    (row.members.lookup key).elim [] (storedValues keys)

/-- What lies at a path: an own member, before the member that an object inherits. -/
inductive LiesAt (index : String → Option Nat) : Candidate → List String → Candidate → Prop
  | here (candidate : Candidate) : LiesAt index candidate [] candidate
  | member {members : List (String × Value)} {segment : String} {found : Value}
      {rest : List String} {candidate : Candidate} (hfound : members.lookup segment = some found)
      (hrest : LiesAt index (.value found) rest candidate) :
      LiesAt index (.value (.object members)) (segment :: rest) candidate
  | inherited {members : List (String × Value)} {segment : String} {rest : List String}
      {candidate : Candidate} (hnone : members.lookup segment = none)
      (hrest : LiesAt index (inheritedMember .prototype segment) rest candidate) :
      LiesAt index (.value (.object members)) (segment :: rest) candidate
  | ofPrototype {segment : String} {rest : List String} {candidate : Candidate}
      (hrest : LiesAt index (inheritedMember (.value .null) segment) rest candidate) :
      LiesAt index .prototype (segment :: rest) candidate
  | entry {entries : List Value} {segment : String} {i : Nat} {found : Value}
      {rest : List String} {candidate : Candidate} (hindex : index segment = some i)
      (hfound : entries[i]? = some found) (hrest : LiesAt index (.value found) rest candidate) :
      LiesAt index (.value (.array entries)) (segment :: rest) candidate

def Accepts (directory : SafeAddressDirectory) (jurisdictions : List String)
    (accessClass : SafeAddressAccessClass) (value : Value) : Prop :=
  ∃ text, value = .string text ∧ ∃ jurisdictionKey ∈ jurisdictions,
    directory ⟨jurisdictionKey, text, accessClass⟩ = .ok .valid

/-- Whatever the directory knows, a response passes only if it recognizes every value stored
for a field of the policy; `itemKeys` are the keys of the item each field stands for. -/
def ChecksEveryValue (index : String → Option Nat) (config : SafeAddressRuntimeConfig)
    (itemKeys : List (List String)) (data : Value) : Prop :=
  ∀ directory, validateSafeAddressResponseData index config directory data = .ok () →
    ∀ keys field, (keys, field) ∈ itemKeys.zip config.fields →
      ∀ value ∈ storedValues keys data, isBlank (.value value) = false →
        Accepts directory config.acpJurisdictionsAccepted field.accessClass value

/-- Every stored value lies where the pointer of a field of its class points. -/
def PointersCover (index : String → Option Nat) (config : SafeAddressRuntimeConfig)
    (itemKeys : List (List String)) (data : Value) : Prop :=
  ∀ keys field, (keys, field) ∈ itemKeys.zip config.fields →
    ∀ value ∈ storedValues keys data, isBlank (.value value) = false →
      ∃ pointed ∈ config.fields, pointed.accessClass = field.accessClass
        ∧ LiesAt index (.value data) (pointerSegments pointed.path) (.value value)

/-- Some pointer names what is no text, so that no directory lets the response pass. -/
def PointsAtNoText (index : String → Option Nat) (config : SafeAddressRuntimeConfig)
    (data : Value) : Prop :=
  ∃ pointed ∈ config.fields, ∃ candidate,
    LiesAt index (.value data) (pointerSegments pointed.path) candidate
      ∧ isBlank candidate = false ∧ candidate.text? = none

variable {index : String → Option Nat} {data value : Value} {current candidate : Candidate}
  {segments keys : List String}

theorem valueAtSegments_undefined (segments : List String) :
    valueAtSegments index (.value .undefined) segments = .value .undefined := by
  cases segments <;> rfl

theorem valueAtSegments_of_liesAt (h : LiesAt index current segments candidate) :
    valueAtSegments index current segments = candidate := by
  induction h with
  | here candidate => rw [valueAtSegments]
  | member hfound _ ih =>
    rw [valueAtSegments, hfound, Option.elim_some]
    exact ih
  | inherited hnone _ ih =>
    rw [valueAtSegments, hnone, Option.elim_none]
    exact ih
  | ofPrototype _ ih =>
    rw [valueAtSegments]
    exact ih
  | entry hindex hfound _ ih =>
    simp only [valueAtSegments, hindex, List.getD_eq_getElem?_getD, hfound, Option.getD_some]
    exact ih

theorem liesAt_of_valueAtSegments (h : valueAtSegments index current segments ≠ .value .undefined) :
    LiesAt index current segments (valueAtSegments index current segments) := by
  induction segments generalizing current with
  | nil =>
    rw [valueAtSegments]
    exact .here current
  | cons segment rest ih =>
    match current with
    | .value (.object members) =>
      rw [valueAtSegments] at h ⊢
      cases hfound : members.lookup segment with
      | none =>
        rw [hfound, Option.elim_none] at h
        exact .inherited hfound (ih h)
      | some found =>
        rw [hfound, Option.elim_some] at h
        exact .member hfound (ih h)
    | .prototype =>
      rw [valueAtSegments] at h ⊢
      exact .ofPrototype (ih h)
    | .value (.array entries) =>
      rw [valueAtSegments] at h ⊢
      cases hindex : index segment with
      | none =>
        rw [hindex] at h
        exact absurd rfl h
      | some i =>
        simp only [hindex] at h ⊢
        rw [List.getD_eq_getElem?_getD] at h ⊢
        cases hfound : entries[i]? with
        | none =>
          rw [hfound, Option.getD_none, valueAtSegments_undefined] at h
          exact absurd rfl h
        | some found =>
          rw [hfound, Option.getD_some] at h
          exact .entry hindex hfound (ih h)
    | .value .undefined | .value .null | .value (.bool _) | .value (.number _)
    | .value (.string _) | .function => exact absurd rfl h

theorem text_of_nonBlank {text : String} (h : candidate.text? = some text) :
    candidate = .value (.string text) := by
  match candidate with
  | .value (.string found) =>
    have hfound : found = text := Option.some.inj h
    rw [hfound]
  | .value .undefined | .value .null | .value (.bool _) | .value (.number _)
  | .value (.object _) | .value (.array _) | .function | .prototype => cases h

/-! ## What a passing response says -/

variable {config : SafeAddressRuntimeConfig} {directory : SafeAddressDirectory}
  {field : SafeAddressFieldPolicy} {itemKeys : List (List String)}

theorem validateAgainst_valid {candidate : String} {jurisdictions : List String}
    {lastMessage : String}
    (h : validateAgainstAcceptedJurisdictions directory candidate field jurisdictions lastMessage
      = .ok .valid) :
    Accepts directory jurisdictions field.accessClass (.string candidate) := by
  induction jurisdictions generalizing lastMessage with
  | nil => cases h
  | cons jurisdictionKey jurisdictions ih =>
    obtain ⟨result, hresult, hrest⟩ := sequence_ok.mp h
    cases result with
    | valid => exact ⟨candidate, rfl, jurisdictionKey, List.mem_cons_self, hresult⟩
    | invalid message =>
      obtain ⟨text, htext, key, hkey, hvalid⟩ := ih hrest
      exact ⟨text, htext, key, List.mem_cons_of_mem _ hkey, hvalid⟩

theorem validateField_ok
    (h : validateSafeAddressField index config directory data field = .ok ()) :
    isBlank (valueAtJsonPointer index data field.path) = true
      ∨ ∃ text, valueAtJsonPointer index data field.path = .value (.string text)
        ∧ Accepts directory config.acpJurisdictionsAccepted field.accessClass (.string text) := by
  cases hblank : isBlank (valueAtJsonPointer index data field.path) with
  | true => exact .inl rfl
  | false =>
    right
    cases htext : (valueAtJsonPointer index data field.path).text? with
    | none =>
      simp only [validateSafeAddressField, hblank, htext, Bool.false_eq_true, if_false] at h
      cases h
    | some text =>
      simp only [validateSafeAddressField, hblank, htext, Bool.false_eq_true, if_false] at h
      obtain ⟨result, hresult, hrest⟩ := sequence_ok.mp h
      cases result with
      | valid => exact ⟨text, text_of_nonBlank htext, validateAgainst_valid hresult⟩
      | invalid message => cases hrest

def directoryBut (value : Value) (accessClass : SafeAddressAccessClass) : SafeAddressDirectory :=
  fun request =>
    if value.text? = some request.candidate ∧ request.accessClass = accessClass then
      .ok (.invalid "not recognized")
    else .ok .valid

theorem not_accepts_directoryBut {accessClass : SafeAddressAccessClass}
    {jurisdictions : List String} :
    ¬ Accepts (directoryBut value accessClass) jurisdictions accessClass value := by
  rintro ⟨text, rfl, jurisdictionKey, -, hvalid⟩
  rw [directoryBut, if_pos ⟨rfl, rfl⟩] at hvalid
  cases hvalid

theorem validateField_directoryBut {accessClass : SafeAddressAccessClass}
    (hjurisdictions : config.acpJurisdictionsAccepted ≠ [])
    (htext : isBlank (valueAtJsonPointer index data field.path) = false →
      (valueAtJsonPointer index data field.path).text?.isSome = true)
    (hother : isBlank (valueAtJsonPointer index data field.path) = false →
      field.accessClass = accessClass → valueAtJsonPointer index data field.path ≠ .value value) :
    validateSafeAddressField index config (directoryBut value accessClass) data field = .ok () := by
  cases hblank : isBlank (valueAtJsonPointer index data field.path) with
  | true => simp only [validateSafeAddressField, hblank, if_true]
  | false =>
    obtain ⟨text, hfound⟩ := Option.isSome_iff_exists.mp (htext hblank)
    obtain ⟨jurisdictionKey, rest, hkeys⟩ := List.exists_cons_of_ne_nil hjurisdictions
    have hvalid : directoryBut value accessClass ⟨jurisdictionKey, text, field.accessClass⟩
        = .ok .valid := by
      refine if_neg fun hsame => hother hblank hsame.2 ?_
      rw [text_of_nonBlank hfound, @text_of_nonBlank (.value value) _ hsame.1]
    simp only [validateSafeAddressField, hblank, hfound, Bool.false_eq_true, if_false, hkeys,
      validateAgainstAcceptedJurisdictions, hvalid]
    rfl

theorem checksEveryValue_iff (hjurisdictions : config.acpJurisdictionsAccepted ≠ []) :
    ChecksEveryValue index config itemKeys data
      ↔ PointersCover index config itemKeys data ∨ PointsAtNoText index config data := by
  constructor
  · intro hchecks
    by_cases hnoText : PointsAtNoText index config data
    · exact .inr hnoText
    refine .inl fun keys field hmem value hvalue hblank => ?_
    by_contra huncovered
    refine not_accepts_directoryBut
      (hchecks (directoryBut value field.accessClass) ?_ keys field hmem value hvalue hblank)
    refine checkAll_ok.mpr fun pointed hpointed => ?_
    -- What a pointer reads that is not blank lies there.
    have hlies : isBlank (valueAtJsonPointer index data pointed.path) = false →
        LiesAt index (.value data) (pointerSegments pointed.path)
          (valueAtJsonPointer index data pointed.path) := by
      intro hfound
      refine liesAt_of_valueAtSegments fun hundefined => ?_
      rw [valueAtJsonPointer, hundefined] at hfound
      cases hfound
    refine validateField_directoryBut hjurisdictions (fun hfound => ?_)
      fun hfound hclass hsame => ?_
    · cases htext : (valueAtJsonPointer index data pointed.path).text? with
      | some text => rfl
      | none => exact absurd ⟨pointed, hpointed, _, hlies hfound, hfound, htext⟩ hnoText
    · refine huncovered ⟨pointed, hpointed, hclass, ?_⟩
      rw [← hsame]
      exact hlies hfound
  · rintro (hcover | ⟨pointed, hpointed, candidate, hlies, hblank, htext⟩) directory hpasses
    · intro keys field hmem value hvalue hblank
      obtain ⟨pointed, hpointed, hclass, hlies⟩ := hcover keys field hmem value hvalue hblank
      have hread : valueAtJsonPointer index data pointed.path = .value value :=
        valueAtSegments_of_liesAt hlies
      rcases validateField_ok (checkAll_ok.mp hpasses pointed hpointed) with
        hempty | ⟨text, hfound, haccepts⟩
      · rw [hread, hblank] at hempty
        cases hempty
      · rw [hread] at hfound
        cases hfound
        rw [hclass] at haccepts
        exact haccepts
    · have hread : valueAtJsonPointer index data pointed.path = candidate :=
        valueAtSegments_of_liesAt hlies
      rcases validateField_ok (checkAll_ok.mp hpasses pointed hpointed) with
        hempty | ⟨text, hfound, -⟩
      · rw [hread, hblank] at hempty
        cases hempty
      · rw [hread] at hfound
        rw [hfound] at htext
        cases htext

variable {input : ResolveRuntimeFeaturesInput} {profile : ResolvedRuntimeProfile}

/-- The submit-time check of a resolved policy is complete for a response exactly when the
pointers of the policy cover what the response stores, or no response can pass. -/
theorem submit_checks_every_value (h : resolveRuntimeFeatures input = .ok profile)
    (hconfig : profile.safeAddress = some config) :
    ChecksEveryValue index config itemKeys data
      ↔ PointersCover index config itemKeys data ∨ PointsAtNoText index config data :=
  checksEveryValue_iff (resolvedJurisdictions_ne_nil ((resolve_safeAddress h).1 config hconfig))

def decimalIndex (segment : String) : Option Nat :=
  if segment.toList.all isAsciiDigit then
    some (segment.toList.foldl (fun n c => 10 * n + (c.toNat - '0'.toNat)) 0)
  else none

def householdDefinition : FormDefinition where
  items := [.node ⟨"people", .group, "People", none, none, none⟩
    [.node ⟨"home", .field, "Home", none, some (.object [("class", .string "safe-address")]), none⟩
      []]]
  extension := fun _ => none

def householdInput : ResolveRuntimeFeaturesInput :=
  { shelterOrgInput .phase1Fallback with
    form := compositeExtract [.safeAddressPolicy] householdDefinition }

def householdConfig : SafeAddressRuntimeConfig :=
  { shelterDefinitionConfig with
    fields := [⟨"/people/home", some "Home", .safeAddress, none, some ["issuer_verification"], none⟩] }

def personAt (address : String) : Value := .object [("home", .string address)]

theorem household_segments : pointerSegments "/people/home" = ["people", "home"] := by
  decide +kernel

theorem submit_checks_every_value_household :
    ∃ profile, resolveRuntimeFeatures householdInput = .ok profile
      ∧ profile.safeAddress = some householdConfig
      ∧ ChecksEveryValue decimalIndex householdConfig [["people", "home"]]
        (.object [("people", personAt "PO Box 1")]) := by
  obtain ⟨profile, hprofile, hconfig⟩ := exists_profile householdInput
    householdConfig (by decide +kernel)
  refine ⟨profile, hprofile, hconfig, (submit_checks_every_value hprofile hconfig).mpr (.inl ?_)⟩
  intro keys field hmem value hvalue _
  obtain ⟨rfl, rfl⟩ := Prod.mk.inj (List.mem_singleton.mp hmem)
  obtain rfl := List.mem_singleton.mp hvalue
  refine ⟨_, List.mem_singleton.mpr rfl, rfl, ?_⟩
  rw [household_segments]
  exact .member rfl (.member rfl (.here _))

theorem submit_passes_repeated_household :
    ∃ profile, resolveRuntimeFeatures householdInput = .ok profile
      ∧ profile.safeAddress = some householdConfig
      ∧ ¬ ChecksEveryValue decimalIndex householdConfig [["people", "home"]]
        (.object [("people", .array [personAt "1 Elm Street"])]) := by
  obtain ⟨profile, hprofile, hconfig⟩ := exists_profile householdInput
    householdConfig (by decide +kernel)
  refine ⟨profile, hprofile, hconfig, fun hchecks => ?_⟩
  have hpasses : validateSafeAddressResponseData decimalIndex householdConfig
      (fun _ => .ok (.invalid "not recognized"))
      (.object [("people", .array [personAt "1 Elm Street"])]) = .ok () := by
    have hread : valueAtJsonPointer decimalIndex
        (.object [("people", .array [personAt "1 Elm Street"])]) "/people/home"
        = .value .undefined := by
      have hindex : decimalIndex "home" = none := by decide +kernel
      rw [valueAtJsonPointer, household_segments]
      show valueAtSegments decimalIndex (.value (.array [personAt "1 Elm Street"])) ["home"]
        = .value .undefined
      rw [valueAtSegments, hindex]
    refine checkAll_ok.mpr fun field hfield => ?_
    obtain rfl := List.mem_singleton.mp hfield
    rw [validateSafeAddressField, hread]
    rfl
  obtain ⟨text, -, jurisdictionKey, -, hvalid⟩ := hchecks _ hpasses _ _ (List.mem_singleton.mpr rfl)
    (.string "1 Elm Street") (List.mem_singleton.mpr rfl) (by decide)
  cases hvalid

end FormspecWeb.App
