import FormspecWeb.Shared.Checks
import FormspecWeb.Policy.PolicyShapes

/-!
# Coherence of a composition

Adapters carry provenance markers, and a composition declares what it can do. The
assertion compares, feature by feature and port by port, the declaration with the
marker of the adapter in the slot. Features that share a slot declare
independently: one that declares itself unavailable leaves the slot to the others.
-/

namespace FormspecWeb.Policy

open Shared

/-- A value in a port slot: an object with the provenance markers it carries, or
no object at all. -/
inductive Adapter where
  | object (unavailable demoStub : Bool)
  | primitive
deriving DecidableEq

def isUnavailableAdapter : Adapter → Bool
  | .object unavailable _ => unavailable
  | .primitive => false

def isDemoStubAdapter : Adapter → Bool
  | .object _ demoStub => demoStub
  | .primitive => false

/-- `CompositionLike`; a slot that is `undefined` holds none. -/
structure CompositionLike where
  mode : CompositionMode
  instanceCapabilities : InstanceCapabilities
  port : CompositionPortName → Option Adapter

inductive CompositionIncoherenceKind where
  | sentinelWithoutUnavailableDeclaration
  | unavailableDeclarationWithoutSentinel
  | demoStubAdapterInProductionComposition
  | demoStubAdapterWithoutDemoStubDeclaration
  | demoStubDeclarationWithoutDemoStubAdapter
  | availableDeclarationPairedWithMarkedAdapter
  | sharedSlotDeclarationConflict
  | featureWithoutPortBinding
deriving DecidableEq

structure CompositionIncoherenceError where
  featureKey : RuntimeFeatureKey
  kind : CompositionIncoherenceKind
  message : String
deriving DecidableEq

/-- `portToKeys.get(portName)`: the features on a slot, in the order of the keys. -/
def slotKeys (portName : CompositionPortName) : List RuntimeFeatureKey :=
  runtimeFeatureKeys.filter fun key => portName ∈ featurePortNames key

def sharedSlotMessage (composition : CompositionLike) (portName : CompositionPortName)
    (baseMessage : String) : String :=
  let keys := slotKeys portName
  if keys.length ≤ 1 then baseMessage
  else
    let declarations := ", ".intercalate
      (keys.map fun key => key.name ++ "=" ++ (composition.instanceCapabilities key).text)
    " ".intercalate
      [baseMessage,
        "Port \"" ++ portName.name ++ "\" is shared between ["
          ++ ", ".intercalate (keys.map (·.name)) ++ "]; their declarations [" ++ declarations
          ++ "] together require a different adapter marker than the one wired.",
        "If you are an adopter with a real wallet but no Verifiable Presentation stack, this is the "
          ++ "SC-4 transitional-clearance trigger — see "
          ++ "thoughts/specs/2026-05-22-upstream-extension-queue.md SC-4."]

/-- A key that declares itself unavailable leaves a shared slot to a live sibling. -/
def leavesSlot (composition : CompositionLike) (featureKey : RuntimeFeatureKey)
    (portName : CompositionPortName) : Bool :=
  let keys := slotKeys portName
  decide (1 < keys.length) && composition.instanceCapabilities featureKey == .unavailable
    && keys.any fun key => composition.instanceCapabilities key != .unavailable

def checkAdapter (composition : CompositionLike) (featureKey : RuntimeFeatureKey)
    (portName : CompositionPortName) (adapter : Adapter) :
    Except CompositionIncoherenceError Unit := do
  let declared := composition.instanceCapabilities featureKey
  let unavailable := isUnavailableAdapter adapter
  let demoStub := isDemoStubAdapter adapter
  failIf (unavailable && declared != .unavailable)
    ⟨featureKey, .sentinelWithoutUnavailableDeclaration,
      "Adapter for \"" ++ featureKey.name ++ "\" (port \"" ++ portName.name
        ++ "\") is marked unavailable, but instanceCapabilities declared \"" ++ declared.text
        ++ "\". The composition must declare \"unavailable\"."⟩
  failIf (declared == .unavailable && !unavailable)
    ⟨featureKey, .unavailableDeclarationWithoutSentinel,
      "instanceCapabilities declares \"" ++ featureKey.name
        ++ "\" unavailable, but the wired adapter at port \"" ++ portName.name
        ++ "\" carries no UNAVAILABLE_ADAPTER sentinel. Wire an unavailable* adapter or change the "
        ++ "declaration."⟩
  failIf (demoStub && composition.mode == .production)
    ⟨featureKey, .demoStubAdapterInProductionComposition,
      "Adapter for \"" ++ featureKey.name ++ "\" (port \"" ++ portName.name
        ++ "\") is marked demo-stub, but the composition is in production mode. Demo stubs MUST NOT "
        ++ "back production capabilities (ADR-0011 §Instance capabilities)."⟩
  failIf (demoStub && declared != .demoStub)
    ⟨featureKey, .demoStubAdapterWithoutDemoStubDeclaration,
      sharedSlotMessage composition portName ("Adapter for \"" ++ featureKey.name ++ "\" (port \""
        ++ portName.name ++ "\") is marked demo-stub, but instanceCapabilities declared \""
        ++ declared.text ++ "\". The composition must declare \"demo-stub\".")⟩
  failIf (declared == .demoStub && !demoStub)
    ⟨featureKey, .demoStubDeclarationWithoutDemoStubAdapter,
      sharedSlotMessage composition portName ("instanceCapabilities declares \"" ++ featureKey.name
        ++ "\" demo-stub, but the wired adapter at port \"" ++ portName.name
        ++ "\" carries no DEMO_STUB_ADAPTER marker. Wire a stub* adapter or change the declaration.")⟩
  failIf (declared == .available && (unavailable || demoStub))
    ⟨featureKey,
      if 1 < (slotKeys portName).length then .sharedSlotDeclarationConflict
      else .availableDeclarationPairedWithMarkedAdapter,
      sharedSlotMessage composition portName ("instanceCapabilities declares \"" ++ featureKey.name
        ++ "\" available, but the wired adapter at port \"" ++ portName.name
        ++ "\" carries a provenance marker (" ++ (if unavailable then "unavailable" else "demo-stub")
        ++ "). Wire a real production adapter or change the declaration.")⟩

def checkPort (composition : CompositionLike) (featureKey : RuntimeFeatureKey)
    (portName : CompositionPortName) : Except CompositionIncoherenceError Unit :=
  match composition.port portName with
  | none => .error ⟨featureKey, .featureWithoutPortBinding,
      "instanceCapabilities declares \"" ++ featureKey.name ++ "\" "
        ++ (composition.instanceCapabilities featureKey).text ++ ", but the backing port \""
        ++ portName.name ++ "\" is not wired."⟩
  | some adapter =>
    if leavesSlot composition featureKey portName then .ok ()
    else checkAdapter composition featureKey portName adapter

/-- One feature. A composition may declare the multi-party flow unavailable and
keep the ports of ordinary forms. -/
def checkFeature (composition : CompositionLike) (featureKey : RuntimeFeatureKey) :
    Except CompositionIncoherenceError Unit :=
  let declared := composition.instanceCapabilities featureKey
  if featureKey == .multiParty && declared == .unavailable then .ok ()
  else if (featurePortNames featureKey).isEmpty then
    failIf (declared != .unavailable)
      ⟨featureKey, .featureWithoutPortBinding,
        "instanceCapabilities declares \"" ++ featureKey.name ++ "\" " ++ declared.text
          ++ ", but FEATURE_PORT_MAP has no backing port binding yet. Keep the capability "
          ++ "\"unavailable\" until the feature build lands a concrete adapter-backed port contract."⟩
  else checkAll (checkPort composition featureKey) (featurePortNames featureKey)

def assertCompositionCoherence (composition : CompositionLike) :
    Except CompositionIncoherenceError Unit :=
  checkAll (checkFeature composition) runtimeFeatureKeys

/-- `freezeComposition`: the composition itself, once it is coherent. -/
def freezeComposition (composition : CompositionLike) :
    Except CompositionIncoherenceError CompositionLike := do
  assertCompositionCoherence composition
  return composition

structure Serves (mode : CompositionMode) (adapter : Adapter) : Prop where
  present : isUnavailableAdapter adapter = false
  real : mode = .production → isDemoStubAdapter adapter = false

variable {featureKey : RuntimeFeatureKey}

variable {composition : CompositionLike}

variable {portName : CompositionPortName}

theorem checkAdapter_serves
    {adapter : Adapter} (h : checkAdapter composition featureKey portName adapter = .ok ())
    (hdeclared : composition.instanceCapabilities featureKey ≠ .unavailable) :
    Serves composition.mode adapter := by
  simp only [checkAdapter, failIf_bind_ok] at h
  obtain ⟨hsentinel, -, hproduction, -⟩ := h
  constructor
  · simpa [hdeclared] using hsentinel
  · intro hmode
    simpa [hmode] using hproduction

theorem leavesSlot_unavailable
    (h : leavesSlot composition featureKey portName = true) :
    composition.instanceCapabilities featureKey = .unavailable := by
  simp only [leavesSlot, Bool.and_eq_true, beq_iff_eq] at h
  exact h.1.2

theorem checkPort_serves
    (h : checkPort composition featureKey portName = .ok ())
    (hdeclared : composition.instanceCapabilities featureKey ≠ .unavailable) :
    ∃ adapter, composition.port portName = some adapter ∧ Serves composition.mode adapter := by
  unfold checkPort at h
  split at h
  · cases h
  · rename_i adapter hwired
    split at h
    · rename_i hleaves
      exact absurd (leavesSlot_unavailable hleaves) hdeclared
    · exact ⟨adapter, hwired, checkAdapter_serves h hdeclared⟩

theorem coherent_serves
    (h : assertCompositionCoherence composition = .ok ())
    (hdeclared : composition.instanceCapabilities featureKey ≠ .unavailable) :
    featurePortNames featureKey ≠ []
      ∧ ∀ portName ∈ featurePortNames featureKey, ∃ adapter,
        composition.port portName = some adapter ∧ Serves composition.mode adapter := by
  have hfeature := checkAll_ok.mp h featureKey (mem_runtimeFeatureKeys featureKey)
  simp only [checkFeature] at hfeature
  split at hfeature
  · rename_i hexempt
    simp only [Bool.and_eq_true, beq_iff_eq] at hexempt
    exact absurd hexempt.2 hdeclared
  split at hfeature
  · rw [failIf_ok] at hfeature
    simp [hdeclared] at hfeature
  · rename_i hports
    refine ⟨by simpa using hports, fun portName hport => ?_⟩
    exact checkPort_serves (checkAll_ok.mp hfeature portName hport) hdeclared

end FormspecWeb.Policy
