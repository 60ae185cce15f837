import FormspecWeb.Policy.Limits

/-!
# The shape of a lifecycle action

What the validator of the record lifecycle demands of one action, said of the
settings the action reads as. The validator succeeds on exactly the actions of
this shape.
-/

namespace FormspecWeb.Policy

open Shared

abbrev Settings := String → Option Value

/-- What `validateOptionalBoolean` demands. -/
def BooleanIfPresent (read : Settings) (setting : String) : Prop :=
  ∀ value, read setting = some value → value.isBool = true

def OneOfIfPresent (texts : List String) (read : Settings) (setting : String) : Prop :=
  ∀ value, read setting = some value → isOneOf texts (some value) = true

/-- The own `state` of a window with what it needs, or a closing date. -/
structure WindowShape (window : Value) : Prop where
  object : isObject window = true
  state : window.hasOwn "state" = true →
    isOneOf ["open", "closes-at", "closed"] (window.get? "state") = true
  closesAt : window.hasOwn "state" = false ∨ isOneOf ["closes-at"] (window.get? "state") = true →
    (window.get? "closesAt").any isText = true
  closedAt : isOneOf ["closed"] (window.get? "state") = true →
    ∀ value, window.get? "closedAt" = some value → isText value = true

def isPointer (value : Value) : Bool := value.nonEmptyString?.any (·.startsWith "/")

def FieldSetShape (fieldSet : Value) : Prop :=
  ∃ paths, iterate fieldSet = .ok paths ∧ ∀ path ∈ paths, isPointer path = true

structure CorrectableShape (read : Settings) : Prop where
  declared : (read "enabled").any (·.isTrue) = true →
    ∃ path paths, read "correctableFieldSet" = some (.array (path :: paths))
  fieldSet : ∀ value, read "correctableFieldSet" = some value → FieldSetShape value
  requiresEvidence : BooleanIfPresent read "requiresEvidence"
  requiresReason : BooleanIfPresent read "requiresReason"

structure WithdrawableShape (read : Settings) : Prop where
  requiresReason : BooleanIfPresent read "requiresReason"
  requiresIssuerAcceptance : BooleanIfPresent read "requiresIssuerAcceptance"
  kernelMode : OneOfIfPresent ["applicant-withdrawn"] read "preDeterminationKernelMode"
  intent : OneOfIfPresent ["rescission-requested"] read "postDeterminationIntent"
  acceptance : (read "postDeterminationIntent").isSome = true →
    (read "requiresIssuerAcceptance").any (·.isTrue) = true
  partyScope : OneOfIfPresent ["any-party", "all-parties-must-agree"] read "partyScope"

structure DisputableShape (read : Settings) : Prop where
  requiresEvidence : BooleanIfPresent read "requiresEvidence"
  requiresReason : BooleanIfPresent read "requiresReason"
  signerOnly : BooleanIfPresent read "signerOnly"

def OwnShape (read : Settings) : LifecycleAction → Prop
  | .correctable => CorrectableShape read
  | .withdrawable => WithdrawableShape read
  | .disputable => DisputableShape read

structure ActionShape (action : LifecycleAction) (read : Settings) : Prop where
  enabled : (read "enabled").any (·.isBool) = true
  window : ∀ value, read "window" = some value → WindowShape value
  own : OwnShape read action

/-! ## The validators decide the shape -/

variable {source : PolicyLayer} {action : LifecycleAction}

theorem validateOptionalBoolean_ok {property : String} {value : Option Value} :
    validateOptionalBoolean source action property value = .ok ()
      ↔ ∀ found, value = some found → found.isBool = true := by
  cases value <;> simp [validateOptionalBoolean]

theorem validateRecordLifecycleWindow_ok {window : Value} :
    validateRecordLifecycleWindow source action (some window) = .ok () ↔ WindowShape window := by
  simp only [validateRecordLifecycleWindow, failIf_bind_ok, Bool.not_eq_false']
  cases hown : window.hasOwn "state" with
  | true =>
    simp only [if_true, failIf_bind_ok, failIf_ok, Bool.not_eq_false', Bool.and_eq_false_iff]
    constructor
    · rintro ⟨hobject, hstate, hcloses, hclosed⟩
      refine ⟨hobject, fun _ => hstate, fun h => ?_, fun h value hvalue => ?_⟩
      · rcases h with hnone | hat
        · rw [hown] at hnone
          cases hnone
        · rcases hcloses with hfalse | hclosesAt
          · rw [hat] at hfalse
            cases hfalse
          · simpa using hclosesAt
      · rcases hclosed with hfalse | hclosedAt
        · rw [h] at hfalse
          cases hfalse
        · simpa [hvalue] using hclosedAt
    · intro h
      refine ⟨h.object, h.state hown, ?_, ?_⟩
      · cases hat : isOneOf ["closes-at"] (window.get? "state") with
        | false => exact .inl rfl
        | true => exact .inr (by simpa using h.closesAt (.inr hat))
      · cases hat : isOneOf ["closed"] (window.get? "state") with
        | false => exact .inl rfl
        | true =>
          right
          cases hvalue : window.get? "closedAt" with
          | none => rfl
          | some value => simpa using h.closedAt hat value hvalue
  | false =>
    have hstate : window.get? "state" = none := by
      unfold Value.hasOwn at hown
      rw [Value.get?, Option.isSome_eq_false_iff.mp hown |> Option.isNone_iff_eq_none.mp]
      rfl
    simp only [Bool.false_eq_true, if_false, failIf_ok, Bool.not_eq_false']
    constructor
    · rintro ⟨hobject, hcloses⟩
      refine ⟨hobject, fun h => ?_, fun _ => hcloses, fun h => ?_⟩
      · rw [hown] at h
        cases h
      · rw [hstate] at h
        cases h
    · intro h
      exact ⟨h.object, h.closesAt (.inl hown)⟩

theorem validateFieldSet_ok {fieldSet : Value} :
    validateFieldSet source fieldSet = .ok () ↔ FieldSetShape fieldSet := by
  simp only [validateFieldSet, sequence_ok, failIf_ok, FieldSetShape]
  refine exists_congr fun paths => and_congr_right fun _ => ?_
  rw [List.any_eq_false]
  simp [isPointer]

variable {value : Value}

theorem booleans_ok {properties : List String} :
    checkAll (fun property =>
        validateOptionalBoolean source action property (value.get? property)) properties = .ok ()
      ↔ ∀ property ∈ properties, BooleanIfPresent value.get? property := by
  rw [checkAll_ok]
  exact forall₂_congr fun property _ => validateOptionalBoolean_ok

theorem optionalText_ok {texts : List String} {setting : String}
    {error : RuntimePolicyError} :
    failIf ((value.get? setting).isSome && !isOneOf texts (value.get? setting)) error = .ok ()
      ↔ OneOfIfPresent texts value.get? setting := by
  rw [failIf_ok, OneOfIfPresent]
  cases value.get? setting <;> simp

theorem validateCorrectable_ok :
    validateCorrectable source value = .ok () ↔ CorrectableShape value.get? := by
  have hdeclared : ∀ fieldSet : Option Value,
      ((fieldSet.bind (·.entries?)).isNone = false
        ∧ (fieldSet.bind (·.entries?)).any (·.isEmpty) = false)
        ↔ ∃ path paths, fieldSet = some (.array (path :: paths)) := by
    intro fieldSet
    rcases fieldSet with _ | found
    · simp
    · cases found with
      | array entries => cases entries <;> simp [Value.entries?]
      | _ => simp [Value.entries?]
  unfold validateCorrectable
  rw [failIf_bind_ok, failIf_bind_ok, then_ok, Bool.and_eq_false_iff, Bool.and_eq_false_iff]
  simp only [booleans_ok, checkPresent_ok, validateFieldSet_ok]
  constructor
  · rintro ⟨hnone, hempty, hfieldSet, hbooleans⟩
    refine ⟨fun henabled => ?_, hfieldSet, hbooleans _ (by simp), hbooleans _ (by simp)⟩
    rw [henabled] at hnone hempty
    simp only [Bool.true_eq_false, false_or] at hnone hempty
    exact (hdeclared _).mp ⟨hnone, hempty⟩
  · intro h
    refine ⟨?_, ?_, h.fieldSet, ?_⟩
    · cases henabled : (value.get? "enabled").any (·.isTrue) with
      | false => exact .inl rfl
      | true => exact .inr ((hdeclared _).mpr (h.declared henabled)).1
    · cases henabled : (value.get? "enabled").any (·.isTrue) with
      | false => exact .inl rfl
      | true => exact .inr ((hdeclared _).mpr (h.declared henabled)).2
    · intro property hproperty
      simp only [List.mem_cons, List.not_mem_nil, or_false] at hproperty
      rcases hproperty with rfl | rfl
      · exact h.requiresEvidence
      · exact h.requiresReason

theorem isOneOf_singleton_of_present {text : String} {read : Settings} {setting : String}
    (h : OneOfIfPresent [text] read setting) :
    isOneOf [text] (read setting) = (read setting).isSome := by
  cases hvalue : read setting with
  | none => rfl
  | some value => exact h value hvalue

theorem validateWithdrawable_ok :
    validateWithdrawable source value = .ok () ↔ WithdrawableShape value.get? := by
  simp only [validateWithdrawable, then_ok, optionalText_ok, booleans_ok]
  constructor
  · rintro ⟨hbooleans, hkernel, hintent, hacceptance, hscope⟩
    refine ⟨hbooleans _ (by simp), hbooleans _ (by simp), hkernel, hintent, fun hpresent => ?_, hscope⟩
    rw [failIf_ok, isOneOf_singleton_of_present hintent, hpresent] at hacceptance
    simpa using hacceptance
  · intro h
    refine ⟨?_, h.kernelMode, h.intent, ?_, h.partyScope⟩
    · intro property hproperty
      simp only [List.mem_cons, List.not_mem_nil, or_false] at hproperty
      rcases hproperty with rfl | rfl
      · exact h.requiresReason
      · exact h.requiresIssuerAcceptance
    · rw [failIf_ok, isOneOf_singleton_of_present h.intent]
      cases hpresent : (value.get? "postDeterminationIntent").isSome with
      | false => rfl
      | true => simpa using h.acceptance hpresent

theorem validateDisputable_ok :
    checkAll (fun property =>
        validateOptionalBoolean source .disputable property (value.get? property))
      ["requiresEvidence", "requiresReason", "signerOnly"] = .ok ()
      ↔ DisputableShape value.get? := by
  rw [booleans_ok]
  constructor
  · intro h
    exact ⟨h _ (by simp), h _ (by simp), h _ (by simp)⟩
  · intro h property hproperty
    simp only [List.mem_cons, List.not_mem_nil, or_false] at hproperty
    rcases hproperty with rfl | rfl | rfl
    · exact h.requiresEvidence
    · exact h.requiresReason
    · exact h.signerOnly

theorem validateRecordLifecycleAction_ok :
    validateRecordLifecycleAction source action (some value) = .ok ()
      ↔ ActionShape action value.get? := by
  have hown : (match action with
        | .correctable => validateCorrectable source value
        | .withdrawable => validateWithdrawable source value
        | .disputable => checkAll (fun property =>
          validateOptionalBoolean source action property (value.get? property))
          ["requiresEvidence", "requiresReason", "signerOnly"]) = .ok ()
      ↔ OwnShape value.get? action := by
    cases action with
    | correctable => exact validateCorrectable_ok
    | withdrawable => exact validateWithdrawable_ok
    | disputable => exact validateDisputable_ok
  have hwindow : validateRecordLifecycleWindow source action (value.get? "window") = .ok ()
      ↔ ∀ window, value.get? "window" = some window → WindowShape window := by
    cases value.get? "window" with
    | none => simp [validateRecordLifecycleWindow]
    | some window => simp [validateRecordLifecycleWindow_ok]
  have hread : ∀ enabled, readMember value "enabled" = .ok enabled → enabled = value.get? "enabled" := by
    intro enabled henabled
    cases value <;> cases henabled <;> rfl
  simp only [validateRecordLifecycleAction]
  rw [sequence_ok]
  simp only [then_ok]
  constructor
  · rintro ⟨enabled, hmember, hboolean, hvalid, hrest⟩
    obtain rfl := hread enabled hmember
    exact ⟨by simpa using hboolean, hwindow.mp hvalid, hown.mp hrest⟩
  · intro h
    refine ⟨value.get? "enabled", ?_, by simpa using h.enabled, hwindow.mpr h.window,
      hown.mpr h.own⟩
    cases value with
    | null => cases h.enabled
    | _ => rfl

theorem validateRecordLifecyclePolicy_ok {members : List (String × Value)} :
    validateRecordLifecyclePolicy source (some (.object members)) = .ok ()
      ↔ ∀ action value, (Value.object members).get? action.name = some value →
        ActionShape action value.get? := by
  have hone : ∀ action, validateRecordLifecycleAction source action
        ((Value.object members).get? action.name) = .ok ()
      ↔ ∀ value, (Value.object members).get? action.name = some value →
        ActionShape action value.get? := by
    intro action
    cases (Value.object members).get? action.name with
    | none => simp [validateRecordLifecycleAction]
    | some value => simp [validateRecordLifecycleAction_ok]
  simp only [validateRecordLifecyclePolicy]
  rw [checkAll_ok]
  constructor
  · intro h action
    refine (hone action).mp ?_
    have hmem : action ∈ lifecycleActions := by cases action <;> decide
    exact h action hmem
  · intro h action _
    exact (hone action).mpr (h action)

end FormspecWeb.Policy
