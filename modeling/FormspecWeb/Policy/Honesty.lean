import FormspecWeb.Policy.CompositionCoherence
import FormspecWeb.Policy.Resolver

/-!
# Enabled features are backed

The coherence of a composition and the resolution of its features are written
independently: one compares adapters with declarations, the other declarations
with policies. Together they leave no enabled feature without an honest adapter
in every slot behind it.
-/

namespace FormspecWeb.Policy

open Shared

/-- Every feature the resolver enables on a coherent composition has backing ports,
each wired to an adapter that is not marked unavailable and, in production, not
marked a demo stub. -/
theorem enabled_features_backed {composition : CompositionLike} {org : OrgRuntimePolicy}
    {form : FormRuntimePolicy} {urlOrigin : String → Option String}
    {profile : ResolvedRuntimeProfile}
    (hcoherent : assertCompositionCoherence composition = .ok ())
    (hresolved : resolveRuntimeFeatures
      ⟨composition.mode, composition.instanceCapabilities, org, form, urlOrigin⟩ = .ok profile) :
    ∀ key ∈ profile.enabled, featurePortNames key ≠ []
      ∧ ∀ portName ∈ featurePortNames key, ∃ adapter, composition.port portName = some adapter
        ∧ isUnavailableAdapter adapter = false
        ∧ (composition.mode = .production → isDemoStubAdapter adapter = false) := by
  intro key hkey
  have hdeclared : composition.instanceCapabilities key ≠ .unavailable :=
    canSatisfy_declared (resolve_enabled hresolved hkey)
  obtain ⟨hports, hserves⟩ := coherent_serves hcoherent hdeclared
  refine ⟨hports, fun portName hport => ?_⟩
  obtain ⟨adapter, hwired, hadapter⟩ := hserves portName hport
  exact ⟨adapter, hwired, hadapter.present, hadapter.real⟩

/-- A wallet without presentations, and the multi-party flow over the ordinary
ports; everything else is unavailable. -/
def sampleComposition : CompositionLike where
  mode := .production
  instanceCapabilities := fun
    | .respondentPlace | .multiParty => .available
    | _ => .unavailable
  port := fun
    | .respondentPlaceSource | .draftStore | .identityProvider | .submitTransport =>
      some (.object false false)
    | _ => some (.object true false)

def sampleParty (roleId : String) : Value :=
  .object [("roleId", .string roleId), ("role", .string "coEqual"),
    ("visibilityScope", .string "shared"),
    ("cardinality", .object [("min", .number 1), ("max", .string "unbounded")])]

def sampleOrg : OrgRuntimePolicy where
  features := [("respondentPlace", some .required), ("documentPresentation", some .defaultOn)]
  limits := fun _ => none
  recordLifecycle := none

def sampleForm : FormRuntimePolicy where
  features := [("multiParty", some .optional)]
  limits := fun
    | .multiParty => some (.object [("tier", .string "coEqual"),
        ("parties", .array [sampleParty "landlord", sampleParty "tenant"])])
    | _ => none
  recordLifecycle := none

def sampleInput : ResolveRuntimeFeaturesInput :=
  ⟨sampleComposition.mode, sampleComposition.instanceCapabilities, sampleOrg, sampleForm,
    fun _ => none⟩

theorem enabled_features_backed_sample :
    ∃ profile, resolveRuntimeFeatures sampleInput = .ok profile
      ∧ profile.enabled = [.respondentPlace, .multiParty]
      ∧ ∀ key ∈ profile.enabled, featurePortNames key ≠ []
        ∧ ∀ portName ∈ featurePortNames key, ∃ adapter, sampleComposition.port portName = some adapter
          ∧ isUnavailableAdapter adapter = false
          ∧ (sampleComposition.mode = .production → isDemoStubAdapter adapter = false) := by
  have hcoherent : assertCompositionCoherence sampleComposition = .ok () := by rfl
  have henabled : (resolveRuntimeFeatures sampleInput).map (·.enabled)
      = .ok [.respondentPlace, .multiParty] := by rfl
  cases hresolved : resolveRuntimeFeatures sampleInput with
  | error e =>
    rw [hresolved] at henabled
    cases henabled
  | ok profile =>
    rw [hresolved] at henabled
    exact ⟨profile, rfl, Except.ok.inj henabled, enabled_features_backed hcoherent hresolved⟩

end FormspecWeb.Policy
