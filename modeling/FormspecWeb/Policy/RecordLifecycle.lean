import FormspecWeb.Policy.LifecycleShape
import FormspecWeb.Policy.Resolver

/-!
# The resolved record lifecycle

The resolver validates the lifecycle of each policy and returns the two merged,
setting by setting, the form over the organisation. A setting the form owns, even
as `undefined`, replaces that of the organisation. The merged policy has the shape
the validator demands exactly when no form takes the issuer's acceptance away from
an intent the organisation keeps.
-/

namespace FormspecWeb.Policy

open Shared

variable {action : LifecycleAction} {org form : Option Value}

/-! ## What the merged and the resolved action read as -/

theorem mergeActionPolicy_get? {orgAction formAction : Option Value} {merged : Value}
    (h : mergeActionPolicy orgAction formAction = some merged) (setting : String) :
    merged.get? setting
      = if formAction.any (·.hasOwn setting) then formAction.bind (·.get? setting)
        else orgAction.bind (·.get? setting) := by
  unfold mergeActionPolicy at h
  split at h
  · cases h
  · cases h
    have hread : (Value.object (spread (orgAction.elim [] (·.members))
          (formAction.elim [] (·.members)))).get? setting
        = (((formAction.elim [] (·.members)).lookup setting).or
            ((orgAction.elim [] (·.members)).lookup setting)).bind Value.defined? := by
      rw [← lookup_spread]
      rfl
    rw [hread]
    cases formAction with
    | none => cases orgAction <;> rfl
    | some found =>
      cases hown : found.members.lookup setting with
      | none => cases orgAction <;> simp [Value.hasOwn, Value.get?, hown]
      | some value => simp [Value.hasOwn, Value.get?, hown]

variable {setting : String}

theorem normalizeSetting_ne_undefined {value : Value}
    (h : value ≠ .undefined) : normalizeSetting setting value ≠ some .undefined := by
  unfold normalizeSetting
  split
  · intro hwindow
    unfold normalizeRecordLifecycleWindow at hwindow
    repeat' split at hwindow
    all_goals cases hwindow
  split
  · unfold copyFieldSet
    split
    · intro hcopy
      obtain ⟨paths, -, hpaths⟩ := Option.map_eq_some_iff.mp hcopy
      cases hpaths
    · simp
  · simpa using h

theorem resolveLifecycleAction_get? {merged : Value} {byDefault : Option Value}
    (h : (lifecycleSettings action).lookup setting = some byDefault) :
    (resolveLifecycleAction action merged).get? setting
      = resolveSetting merged setting byDefault := by
  have hdefault : byDefault ≠ some .undefined := by
    rintro rfl
    obtain ⟨before, after, hsettings, -⟩ := List.lookup_eq_some_iff.mp h
    have hmem : (setting, some Value.undefined) ∈ lifecycleSettings action := by
      rw [hsettings]
      simp
    cases action <;> simp [lifecycleSettings] at hmem
  have hdefined : resolveSetting merged setting byDefault ≠ some .undefined := by
    intro hundefined
    unfold resolveSetting at hundefined
    rcases Option.or_eq_some_iff.mp hundefined with hfound | ⟨-, hfound⟩
    · obtain ⟨value, hvalue, hnormal⟩ := Option.bind_eq_some_iff.mp hfound
      refine normalizeSetting_ne_undefined ?_ hnormal
      rintro rfl
      exact merged.get?_ne_undefined setting hvalue
    · exact hdefault hfound
  have hlookup : (resolveLifecycleAction action merged).members.lookup setting
      = some ((resolveSetting merged setting byDefault).getD .undefined) := by
    refine (lookup_map_value fun name found =>
      (resolveSetting merged name found).getD .undefined).trans ?_
    rw [h]
    rfl
  rw [Value.get?, hlookup]
  cases hvalue : resolveSetting merged setting byDefault with
  | none => rfl
  | some value =>
    cases value with
    | undefined => exact absurd hvalue hdefined
    | _ => rfl

theorem actionsObject_get? (resolved : LifecycleAction → Option Value) (action : LifecycleAction) :
    (Value.object (lifecycleActions.flatMap fun found =>
        Value.optionalMember found.name (resolved found))).get? action.name
      = (resolved action).bind Value.defined? := by
  simp only [lifecycleActions, List.flatMap_cons, List.flatMap_nil, List.append_nil]
  cases action <;> cases resolved .correctable <;> cases resolved .withdrawable <;>
    cases resolved .disputable <;> rfl

theorem resolveRecordLifecyclePolicy_get? {policy : Value}
    (h : resolveRecordLifecyclePolicy org form = some policy) (action : LifecycleAction) :
    policy.get? action.name
      = (mergeActionPolicy (lifecycleAction org action) (lifecycleAction form action)).map
          (resolveLifecycleAction action) := by
  unfold resolveRecordLifecyclePolicy at h
  split at h
  · cases h
  · cases h
    rw [actionsObject_get?]
    cases mergeActionPolicy (lifecycleAction org action) (lifecycleAction form action) <;> rfl

/-! ## The shape of a merged action -/

variable {orgAction formAction : Option Value} {merged : Value}

theorem merged_setting (h : mergeActionPolicy orgAction formAction = some merged)
    {value : Value} (hvalue : merged.get? setting = some value) :
    orgAction.bind (·.get? setting) = some value ∨ formAction.bind (·.get? setting) = some value := by
  rw [mergeActionPolicy_get? h] at hvalue
  split at hvalue
  · exact .inr hvalue
  · exact .inl hvalue

theorem merged_keeps (h : mergeActionPolicy orgAction formAction = some merged)
    {P : Value → Prop}
    (horg : ∀ found, orgAction = some found → ∀ value, found.get? setting = some value → P value)
    (hform : ∀ found, formAction = some found → ∀ value, found.get? setting = some value → P value) :
    ∀ value, merged.get? setting = some value → P value := by
  intro value hvalue
  rcases merged_setting h hvalue with hfound | hfound
  · obtain ⟨found, hfound, hvalue⟩ := Option.bind_eq_some_iff.mp hfound
    exact horg found hfound value hvalue
  · obtain ⟨found, hfound, hvalue⟩ := Option.bind_eq_some_iff.mp hfound
    exact hform found hfound value hvalue

theorem hasOwn_of_get? {value : Value} {found : Value}
    (h : value.get? setting = some found) : value.hasOwn setting = true := by
  obtain ⟨own, hown, -⟩ := Option.bind_eq_some_iff.mp h
  rw [Value.hasOwn, hown]
  rfl

theorem merged_of_form {stated value : Value}
    (h : mergeActionPolicy orgAction (some stated) = some merged)
    (hvalue : stated.get? setting = some value) : merged.get? setting = some value := by
  rw [mergeActionPolicy_get? h, Option.any_some, hasOwn_of_get? hvalue, if_pos rfl]
  exact hvalue

theorem merged_of_none (h : mergeActionPolicy orgAction none = some merged) (setting : String) :
    merged.get? setting = orgAction.bind (·.get? setting) := by
  rw [mergeActionPolicy_get? h]
  rfl

/-- Nothing takes the acceptance of the issuer away from an intent that is kept: where
the form leaves the intent of the organisation alone, it does not own an acceptance
other than `true`. -/
def KeepsIssuerAcceptance (orgAction formAction : Option Value) : Prop :=
  ∀ stated, formAction = some stated → stated.hasOwn "postDeterminationIntent" = false →
    (orgAction.bind (·.get? "postDeterminationIntent")).isSome = true →
    stated.hasOwn "requiresIssuerAcceptance" = true →
    (stated.get? "requiresIssuerAcceptance").any (·.isTrue) = true

def LayerShape (action : LifecycleAction) (found : Option Value) : Prop :=
  ∀ value, found = some value → ActionShape action value.get?

section

variable (h : mergeActionPolicy orgAction formAction = some merged)
include h

theorem merged_enabled (horg : LayerShape action orgAction) (hform : LayerShape action formAction) :
    (merged.get? "enabled").any (·.isBool) = true := by
  cases formAction with
  | none =>
    rw [merged_of_none h]
    cases orgAction with
    | none => cases h
    | some value => exact (horg value rfl).enabled
  | some stated =>
    obtain ⟨value, hvalue, hboolean⟩ := (Option.any_eq_true _ _).mp (hform stated rfl).enabled
    rw [merged_of_form h hvalue]
    exact hboolean

theorem merged_correctable
    (horg : LayerShape .correctable orgAction) (hform : LayerShape .correctable formAction) :
    CorrectableShape merged.get? := by
  have horgOwn : ∀ found, orgAction = some found → CorrectableShape found.get? :=
    fun found hfound => (horg found hfound).own
  have hformOwn : ∀ found, formAction = some found → CorrectableShape found.get? :=
    fun found hfound => (hform found hfound).own
  refine ⟨fun henabled => ?_, ?_, ?_, ?_⟩
  · cases formAction with
    | none =>
      rw [merged_of_none h] at henabled ⊢
      cases orgAction with
      | none => cases h
      | some value => exact (horgOwn value rfl).declared henabled
    | some stated =>
      obtain ⟨value, hvalue, -⟩ := (Option.any_eq_true _ _).mp (hform stated rfl).enabled
      rw [merged_of_form h hvalue, ← hvalue] at henabled
      obtain ⟨path, paths, hset⟩ := (hformOwn stated rfl).declared henabled
      exact ⟨path, paths, merged_of_form h hset⟩
  · exact merged_keeps h (fun found hfound => (horgOwn found hfound).fieldSet)
      fun found hfound => (hformOwn found hfound).fieldSet
  · exact merged_keeps h (fun found hfound => (horgOwn found hfound).requiresEvidence)
      fun found hfound => (hformOwn found hfound).requiresEvidence
  · exact merged_keeps h (fun found hfound => (horgOwn found hfound).requiresReason)
      fun found hfound => (hformOwn found hfound).requiresReason

theorem merged_acceptance
    (horg : LayerShape .withdrawable orgAction) (hform : LayerShape .withdrawable formAction) :
    ((merged.get? "postDeterminationIntent").isSome = true →
        (merged.get? "requiresIssuerAcceptance").any (·.isTrue) = true)
      ↔ KeepsIssuerAcceptance orgAction formAction := by
  have horgOwn : ∀ found, orgAction = some found → WithdrawableShape found.get? :=
    fun found hfound => (horg found hfound).own
  have hformOwn : ∀ found, formAction = some found → WithdrawableShape found.get? :=
    fun found hfound => (hform found hfound).own
  rw [mergeActionPolicy_get? h, mergeActionPolicy_get? h]
  cases formAction with
  | none =>
    refine iff_of_true (fun hintent => ?_) nofun
    cases orgAction with
    | none => cases h
    | some value => exact (horgOwn value rfl).acceptance hintent
  | some stated =>
    simp only [Option.any_some, Option.bind_some]
    cases hintentOwn : stated.hasOwn "postDeterminationIntent" with
    | true =>
      -- The form states the intent, so its own check covers the acceptance.
      refine iff_of_true (fun hintent => ?_) fun found hfound hnone => ?_
      · have hacceptance := (hformOwn stated rfl).acceptance (by simpa using hintent)
        obtain ⟨value, hvalue, -⟩ := (Option.any_eq_true _ _).mp hacceptance
        rw [hasOwn_of_get? hvalue, if_pos rfl]
        exact hacceptance
      · cases hfound
        rw [hintentOwn] at hnone
        cases hnone
    | false =>
      simp only [Bool.false_eq_true, if_false]
      cases hacceptanceOwn : stated.hasOwn "requiresIssuerAcceptance" with
      | true =>
        constructor
        · intro himplies found hfound _ hintent _
          cases hfound
          exact himplies hintent
        · intro hkeeps hintent
          exact hkeeps stated rfl hintentOwn hintent hacceptanceOwn
      | false =>
        refine iff_of_true (fun hintent => ?_) fun found hfound _ _ hown => ?_
        · cases orgAction with
          | none => cases hintent
          | some value => exact (horgOwn value rfl).acceptance hintent
        · cases hfound
          rw [hacceptanceOwn] at hown
          cases hown

theorem merged_withdrawable
    (horg : LayerShape .withdrawable orgAction) (hform : LayerShape .withdrawable formAction)
    (hkeeps : KeepsIssuerAcceptance orgAction formAction) : WithdrawableShape merged.get? := by
  have horgOwn : ∀ found, orgAction = some found → WithdrawableShape found.get? :=
    fun found hfound => (horg found hfound).own
  have hformOwn : ∀ found, formAction = some found → WithdrawableShape found.get? :=
    fun found hfound => (hform found hfound).own
  refine ⟨?_, ?_, ?_, ?_, (merged_acceptance h horg hform).mpr hkeeps, ?_⟩
  · exact merged_keeps h (fun found hfound => (horgOwn found hfound).requiresReason)
      fun found hfound => (hformOwn found hfound).requiresReason
  · exact merged_keeps h (fun found hfound => (horgOwn found hfound).requiresIssuerAcceptance)
      fun found hfound => (hformOwn found hfound).requiresIssuerAcceptance
  · exact merged_keeps h (fun found hfound => (horgOwn found hfound).kernelMode)
      fun found hfound => (hformOwn found hfound).kernelMode
  · exact merged_keeps h (fun found hfound => (horgOwn found hfound).intent)
      fun found hfound => (hformOwn found hfound).intent
  · exact merged_keeps h (fun found hfound => (horgOwn found hfound).partyScope)
      fun found hfound => (hformOwn found hfound).partyScope

theorem merged_disputable
    (horg : LayerShape .disputable orgAction) (hform : LayerShape .disputable formAction) :
    DisputableShape merged.get? := by
  have horgOwn : ∀ found, orgAction = some found → DisputableShape found.get? :=
    fun found hfound => (horg found hfound).own
  have hformOwn : ∀ found, formAction = some found → DisputableShape found.get? :=
    fun found hfound => (hform found hfound).own
  refine ⟨?_, ?_, ?_⟩
  · exact merged_keeps h (fun found hfound => (horgOwn found hfound).requiresEvidence)
      fun found hfound => (hformOwn found hfound).requiresEvidence
  · exact merged_keeps h (fun found hfound => (horgOwn found hfound).requiresReason)
      fun found hfound => (hformOwn found hfound).requiresReason
  · exact merged_keeps h (fun found hfound => (horgOwn found hfound).signerOnly)
      fun found hfound => (hformOwn found hfound).signerOnly

theorem merged_shape (horg : LayerShape action orgAction) (hform : LayerShape action formAction)
    (hkeeps : action = .withdrawable → KeepsIssuerAcceptance orgAction formAction) :
    ActionShape action merged.get? := by
  refine ⟨merged_enabled h horg hform, ?_, ?_⟩
  · exact merged_keeps h (fun found hfound => (horg found hfound).window)
      fun found hfound => (hform found hfound).window
  · cases action with
    | correctable => exact merged_correctable h horg hform
    | withdrawable => exact merged_withdrawable h horg hform (hkeeps rfl)
    | disputable => exact merged_disputable h horg hform

end

/-! ## The shape of a resolved action -/

theorem resolveSetting_none :
    resolveSetting merged setting none = (merged.get? setting).bind (normalizeSetting setting) :=
  Option.or_none

theorem resolved_keeps {P : Value → Prop} {byDefault : Option Value}
    (hlookup : (lifecycleSettings action).lookup setting = some byDefault)
    (hdefault : ∀ value, byDefault = some value → P value)
    (hnormal : ∀ value, P value → ∀ normal, normalizeSetting setting value = some normal → P normal)
    (h : ∀ value, merged.get? setting = some value → P value) :
    ∀ value, (resolveLifecycleAction action merged).get? setting = some value → P value := by
  intro value hvalue
  rw [resolveLifecycleAction_get? hlookup, resolveSetting] at hvalue
  rcases Option.or_eq_some_iff.mp hvalue with hfound | ⟨-, hfound⟩
  · obtain ⟨stated, hstated, hsame⟩ := Option.bind_eq_some_iff.mp hfound
    exact hnormal stated (h stated hstated) value hsame
  · exact hdefault value hfound

theorem normalizeSetting_plain {P : Value → Prop}
    (hwindow : setting ≠ "window") (hset : setting ≠ "correctableFieldSet") :
    ∀ value, P value → ∀ normal, normalizeSetting setting value = some normal → P normal := by
  intro value hP normal hnormal
  rw [normalizeSetting, if_neg (by simpa using hwindow), if_neg (by simpa using hset)] at hnormal
  cases hnormal
  exact hP

theorem resolved_boolean {byDefault : Bool}
    (hlookup : (lifecycleSettings action).lookup setting = some (some (.bool byDefault)))
    (hwindow : setting ≠ "window") (hset : setting ≠ "correctableFieldSet")
    (h : BooleanIfPresent merged.get? setting) :
    BooleanIfPresent (resolveLifecycleAction action merged).get? setting := by
  refine resolved_keeps hlookup (fun value hvalue => ?_) (normalizeSetting_plain hwindow hset) h
  cases hvalue
  rfl

theorem closesAt_text {window : Value} (h : (window.get? "closesAt").any isText = true) :
    ∃ text, window.get? "closesAt" = some (.string text) := by
  obtain ⟨value, hvalue, htext⟩ := (Option.any_eq_true _ _).mp h
  cases value with
  | string text => exact ⟨text, hvalue⟩
  | _ => cases htext

theorem isOneOf_eq {text : String} {value : Option Value} :
    isOneOf [text] value = true ↔ value = some (.string text) := by
  rcases value with _ | found
  · simp [isOneOf]
  · cases found <;> simp [isOneOf, Value.isString]

theorem normalizeRecordLifecycleWindow_shape {window : Value} (h : WindowShape window) :
    WindowShape (normalizeRecordLifecycleWindow window) := by
  have hopen : WindowShape (.object [("state", .string "open")]) :=
    ⟨rfl, fun _ => rfl, fun hneeds => by rcases hneeds with hown | hat <;> contradiction,
      fun hclosed => by contradiction⟩
  have hcloses : (window.get? "closesAt").any isText = true → WindowShape
      (.object [("state", .string "closes-at"), Value.member "closesAt" (window.get? "closesAt")]) := by
    intro htext
    obtain ⟨text, hvalue⟩ := closesAt_text htext
    rw [hvalue]
    exact ⟨rfl, fun _ => rfl, fun _ => rfl, fun hclosed => by contradiction⟩
  unfold normalizeRecordLifecycleWindow
  cases hown : window.hasOwn "state" with
  | false =>
    simp only [Bool.false_eq_true, if_false]
    split
    · exact hopen
    · exact hcloses (h.closesAt (.inl hown))
  | true =>
    simp only [if_true]
    split
    · exact hopen
    · rename_i hclosed
      cases hclosedAt : window.get? "closedAt" with
      | none =>
        exact ⟨rfl, fun _ => rfl, fun hneeds => by rcases hneeds with hown | hat <;> contradiction,
          nofun⟩
      | some closedAt =>
        have htext : isText closedAt = true :=
          h.closedAt (isOneOf_eq.mpr hclosed) closedAt hclosedAt
        refine ⟨rfl, fun _ => rfl, fun hneeds => by rcases hneeds with hown | hat <;> contradiction,
          fun _ value hvalue => ?_⟩
        cases closedAt with
        | string text =>
          cases hvalue
          rfl
        | _ => cases htext
    · rename_i hnotOpen hnotClosed
      refine hcloses (h.closesAt (.inr ?_))
      have hstate := h.state hown
      cases hfound : window.get? "state" with
      | none =>
        rw [hfound] at hstate
        cases hstate
      | some state =>
        rw [hfound] at hstate hnotOpen hnotClosed
        cases state with
        | string text =>
          simp only [isOneOf, Option.any_some, Value.isString, List.any_cons, List.any_nil,
            Bool.or_false, Bool.or_eq_true, beq_iff_eq] at hstate ⊢
          rcases hstate with rfl | hat | rfl
          · exact absurd rfl hnotOpen
          · exact hat
          · exact absurd rfl hnotClosed
        | _ => cases hstate

theorem copyFieldSet_shape {fieldSet copy : Value} (h : FieldSetShape fieldSet)
    (hcopy : copyFieldSet fieldSet = some copy) : FieldSetShape copy := by
  obtain ⟨paths, hpaths, hpointers⟩ := h
  unfold copyFieldSet at hcopy
  split at hcopy
  · rw [hpaths] at hcopy
    cases hcopy
    exact ⟨paths, rfl, hpointers⟩
  · cases hcopy

theorem resolved_correctable (h : CorrectableShape merged.get?) :
    CorrectableShape (resolveLifecycleAction .correctable merged).get? := by
  refine ⟨fun henabled => ?_, ?_, ?_, ?_⟩
  · rw [resolveLifecycleAction_get? (show _ = some none from rfl), resolveSetting_none]
      at henabled ⊢
    have hsame : (merged.get? "enabled").bind (normalizeSetting "enabled") = merged.get? "enabled" := by
      cases merged.get? "enabled" <;> rfl
    rw [hsame] at henabled
    obtain ⟨path, paths, hset⟩ := h.declared henabled
    rw [hset]
    exact ⟨path, paths, rfl⟩
  · refine resolved_keeps (show _ = some none from rfl) nofun ?_ h.fieldSet
    intro value hshape normal hnormal
    exact copyFieldSet_shape hshape hnormal
  · exact resolved_boolean rfl (by decide) (by decide) h.requiresEvidence
  · exact resolved_boolean rfl (by decide) (by decide) h.requiresReason

theorem resolved_acceptance :
    (((resolveLifecycleAction .withdrawable merged).get? "postDeterminationIntent").isSome = true →
        ((resolveLifecycleAction .withdrawable merged).get? "requiresIssuerAcceptance").any
          (·.isTrue) = true)
      ↔ ((merged.get? "postDeterminationIntent").isSome = true →
        (merged.get? "requiresIssuerAcceptance").any (·.isTrue) = true) := by
  have hintent : (lifecycleSettings .withdrawable).lookup "postDeterminationIntent" = some none := rfl
  have hacceptance : (lifecycleSettings .withdrawable).lookup "requiresIssuerAcceptance"
      = some (some (.bool false)) := rfl
  rw [resolveLifecycleAction_get? hintent, resolveLifecycleAction_get? hacceptance,
    resolveSetting_none, resolveSetting]
  cases merged.get? "postDeterminationIntent" <;>
    cases merged.get? "requiresIssuerAcceptance" <;> rfl

theorem resolved_withdrawable (h : WithdrawableShape merged.get?) :
    WithdrawableShape (resolveLifecycleAction .withdrawable merged).get? := by
  refine ⟨?_, ?_, ?_, ?_, resolved_acceptance.mpr h.acceptance, ?_⟩
  · exact resolved_boolean rfl (by decide) (by decide) h.requiresReason
  · exact resolved_boolean rfl (by decide) (by decide) h.requiresIssuerAcceptance
  · refine resolved_keeps (show _ = some (some (.string "applicant-withdrawn")) from rfl)
      (fun value hvalue => ?_) (normalizeSetting_plain (by decide) (by decide)) h.kernelMode
    cases hvalue
    rfl
  · exact resolved_keeps (show _ = some none from rfl) nofun
      (normalizeSetting_plain (by decide) (by decide)) h.intent
  · refine resolved_keeps (show _ = some (some (.string "any-party")) from rfl)
      (fun value hvalue => ?_) (normalizeSetting_plain (by decide) (by decide)) h.partyScope
    cases hvalue
    rfl

theorem resolved_disputable (h : DisputableShape merged.get?) :
    DisputableShape (resolveLifecycleAction .disputable merged).get? := by
  refine ⟨?_, ?_, ?_⟩
  · exact resolved_boolean rfl (by decide) (by decide) h.requiresEvidence
  · exact resolved_boolean rfl (by decide) (by decide) h.requiresReason
  · exact resolved_boolean rfl (by decide) (by decide) h.signerOnly

theorem resolved_shape (h : ActionShape action merged.get?) :
    ActionShape action (resolveLifecycleAction action merged).get? := by
  have henabled : (lifecycleSettings action).lookup "enabled" = some none := by
    cases action <;> rfl
  have hwindow : (lifecycleSettings action).lookup "window" = some none := by
    cases action <;> rfl
  refine ⟨?_, ?_, ?_⟩
  · rw [resolveLifecycleAction_get? henabled, resolveSetting_none]
    obtain ⟨value, hvalue, hboolean⟩ := (Option.any_eq_true _ _).mp h.enabled
    rw [hvalue]
    exact hboolean
  · refine resolved_keeps hwindow nofun ?_ h.window
    intro window hshape normal hnormal
    cases hnormal
    exact normalizeRecordLifecycleWindow_shape hshape
  · cases action with
    | correctable => exact resolved_correctable h.own
    | withdrawable => exact resolved_withdrawable h.own
    | disputable => exact resolved_disputable h.own

/-! ## The resolved policy -/

theorem layerShape_of_valid {source : PolicyLayer} {policy : Option Value}
    (h : validateRecordLifecyclePolicy source policy = .ok ()) (action : LifecycleAction) :
    LayerShape action (lifecycleAction policy action) := by
  intro value hvalue
  obtain ⟨block, rfl, hfound⟩ := Option.bind_eq_some_iff.mp hvalue
  cases block with
  | object members => exact validateRecordLifecyclePolicy_ok.mp h action value hfound
  | _ => cases hfound

variable {input : ResolveRuntimeFeaturesInput} {profile : ResolvedRuntimeProfile} {policy : Value}

theorem resolve_validated (h : resolveRuntimeFeatures input = .ok profile) :
    validateRecordLifecyclePolicy .org input.org.recordLifecycle = .ok ()
      ∧ validateRecordLifecyclePolicy .form input.form.recordLifecycle = .ok () := by
  rw [resolveRuntimeFeatures, then_ok] at h
  have hvalid := h.1
  simp only [validateInput, then_ok] at hvalid
  obtain ⟨-, -, -, -, -, -, -, -, horg, hform⟩ := hvalid
  exact ⟨horg, hform⟩

theorem resolve_recordLifecycle (h : resolveRuntimeFeatures input = .ok profile)
    (hpolicy : profile.recordLifecycle = some policy) :
    resolveRecordLifecyclePolicy input.org.recordLifecycle input.form.recordLifecycle
      = some policy := by
  simp only [resolveRuntimeFeatures, sequence_ok] at h
  obtain ⟨_, -, decisions, -, multiParty, -, safeAddress, -, heq⟩ := h
  cases heq
  simp only at hpolicy
  split at hpolicy
  · exact hpolicy
  · cases hpolicy

/-- The resolved policy passes the validator of each layer exactly when the form takes
no acceptance away from an intent of the organisation. -/
theorem resolved_lifecycle_valid (h : resolveRuntimeFeatures input = .ok profile)
    (hpolicy : profile.recordLifecycle = some policy) :
    (∀ source, validateRecordLifecyclePolicy source (some policy) = .ok ())
      ↔ KeepsIssuerAcceptance (lifecycleAction input.org.recordLifecycle .withdrawable)
          (lifecycleAction input.form.recordLifecycle .withdrawable) := by
  obtain ⟨horg, hform⟩ := resolve_validated h
  have hresolved := resolve_recordLifecycle h hpolicy
  have hobject : ∃ members, policy = .object members := by
    unfold resolveRecordLifecyclePolicy at hresolved
    split at hresolved
    · cases hresolved
    · exact ⟨_, (Option.some.inj hresolved).symm⟩
  obtain ⟨members, rfl⟩ := hobject
  constructor
  · intro hvalid
    have hshape := validateRecordLifecyclePolicy_ok.mp (hvalid .org) .withdrawable
    rw [resolveRecordLifecyclePolicy_get? hresolved] at hshape
    cases hmerged : mergeActionPolicy (lifecycleAction input.org.recordLifecycle .withdrawable)
        (lifecycleAction input.form.recordLifecycle .withdrawable) with
    | none =>
      intro stated hstated
      rw [hstated, mergeActionPolicy, Option.isNone_some, Bool.and_false] at hmerged
      cases hmerged
    | some merged =>
      rw [hmerged] at hshape
      have hown : WithdrawableShape (resolveLifecycleAction .withdrawable merged).get? :=
        (hshape _ rfl).own
      exact (merged_acceptance hmerged (layerShape_of_valid horg _)
        (layerShape_of_valid hform _)).mp (resolved_acceptance.mp hown.acceptance)
  · intro hkeeps source
    refine validateRecordLifecyclePolicy_ok.mpr fun action value hvalue => ?_
    rw [resolveRecordLifecyclePolicy_get? hresolved] at hvalue
    obtain ⟨merged, hmerged, rfl⟩ := Option.map_eq_some_iff.mp hvalue
    refine resolved_shape (merged_shape hmerged (layerShape_of_valid horg _)
      (layerShape_of_valid hform _) fun haction => ?_)
    rw [haction]
    exact hkeeps

def withdrawableBlock (settings : List (String × Value)) : Value :=
  .object [("withdrawable", .object (("enabled", .bool true) :: settings))]

/-- An organisation that lets a determined record be rescinded, and a form with these
settings. -/
def rescindableInput (settings : List (String × Value)) : ResolveRuntimeFeaturesInput where
  mode := .production
  instanceCapabilities := fun
    | .recordLifecycle => .available
    | _ => .unavailable
  org := ⟨[("recordLifecycle", some .defaultOn)], fun _ => none, some (withdrawableBlock
    [("postDeterminationIntent", .string "rescission-requested"),
      ("requiresIssuerAcceptance", .bool true)])⟩
  form := ⟨[("recordLifecycle", some .optional)], fun _ => none, some (withdrawableBlock settings)⟩
  urlOrigin := fun _ => none

theorem resolved_lifecycle_valid_silent :
    ∃ profile policy, resolveRuntimeFeatures (rescindableInput []) = .ok profile
      ∧ profile.recordLifecycle = some policy
      ∧ ∀ source, validateRecordLifecyclePolicy source (some policy) = .ok () := by
  refine ⟨_, _, rfl, rfl, (resolved_lifecycle_valid
    (show resolveRuntimeFeatures (rescindableInput []) = .ok _ from rfl) rfl).mpr ?_⟩
  intro stated hstated _ _ hown
  cases hstated
  cases hown

/-- A form that takes the acceptance away makes a policy that neither layer could declare. -/
theorem resolved_lifecycle_unaccepted :
    ∃ profile policy, resolveRuntimeFeatures
          (rescindableInput [("requiresIssuerAcceptance", .bool false)]) = .ok profile
      ∧ profile.recordLifecycle = some policy
      ∧ ∀ source, validateRecordLifecyclePolicy source (some policy)
        = .error (invalid source ("recordLifecycle.withdrawable.requiresIssuerAcceptance must be "
          ++ "true when postDeterminationIntent is configured")) :=
  ⟨_, _, rfl, rfl, fun source => by cases source <;> rfl⟩

end FormspecWeb.Policy
