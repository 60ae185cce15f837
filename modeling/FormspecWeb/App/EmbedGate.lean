import FormspecWeb.Policy.Resolver

/-!
# The embed gate

An embedded form opens to the origins its organisation lists. The policies were resolved before, so
every listed text is an origin as it is written, and an opaque origin is on no list.
-/

namespace FormspecWeb.App

open Shared Policy

structure EmbedTransport where
  isEmbedded : Bool
  /-- None is an origin that is not known yet. -/
  hostOrigin : Option String

def getEmbedLimits (policy : OrgRuntimePolicy) : Option Value := policy.limits .embed

def allowedOrigins (policy : OrgRuntimePolicy) : List String :=
  (((getEmbedLimits policy).bind (·.get? "allowedOrigins")).bind (·.strings?)).getD []

def matchesAllowedOrigin (urlOrigin : String → Option String) (hostOrigin : String)
    (allowed : List String) : Bool :=
  if allowed.isEmpty then false
  else
    match urlOrigin hostOrigin with
    | none => false
    | some normalizedHost =>
      allowed.any fun entry => entry == "*" || urlOrigin entry == some normalizedHost

def verifyEmbedOriginAllowed (urlOrigin : String → Option String)
    (runtimeProfile : ResolvedRuntimeProfile) (orgRuntimePolicy : OrgRuntimePolicy)
    (embedTransport : EmbedTransport) : Except String Unit :=
  if !runtimeProfile.enabled.contains .embed then .ok ()
  else if !embedTransport.isEmbedded then .ok ()
  else
    match embedTransport.hostOrigin with
    | none => .error ("embed transport reports the form is in an iframe but the host origin could "
        ++ "not be determined")
    | some hostOrigin =>
      failIf (!matchesAllowedOrigin urlOrigin hostOrigin (allowedOrigins orgRuntimePolicy))
        ("host origin \"" ++ hostOrigin ++ "\" is not in the allowed-origins list")

variable {input : ResolveRuntimeFeaturesInput} {profile : ResolvedRuntimeProfile}

/-- What resolution admits to the list. -/
theorem allowedOrigins_valid (h : resolveRuntimeFeatures input = .ok profile) :
    ∀ entry ∈ allowedOrigins input.org, entry = "*" ∨ input.urlOrigin entry = some entry := by
  intro entry hentry
  rw [resolveRuntimeFeatures, then_ok, validateInput] at h
  simp only [then_ok] at h
  obtain ⟨⟨-, -, -, hlimits, -⟩, -⟩ := h
  unfold allowedOrigins getEmbedLimits at hentry
  cases hvalue : input.org.limits .embed with
  | none =>
    rw [hvalue] at hentry
    cases hentry
  | some value =>
    simp only [hvalue, validateEmbedLimits, failIf_bind_ok] at hlimits hentry
    obtain ⟨-, hlimits⟩ := hlimits
    cases hentries : (value.get? "allowedOrigins").bind (·.entries?) with
    | none =>
      rw [hentries] at hlimits
      cases hlimits
    | some entries =>
      rw [hentries] at hlimits
      obtain ⟨array, harray, hvalues⟩ := Option.bind_eq_some_iff.mp hentries
      have hstrings : entry ∈ entries.filterMap Value.nonEmptyString? := by
        simpa [harray, Value.strings?, hvalues] using hentry
      obtain ⟨found, hfound, htext⟩ := List.mem_filterMap.mp hstrings
      have hvalid := checkAll_ok.mp hlimits found hfound
      unfold validateOrigin at hvalid
      rw [htext] at hvalid
      dsimp only at hvalid
      split at hvalid
      · next hany => exact Or.inl (beq_iff_eq.mp hany)
      split at hvalid
      · cases hvalid
      · next parsed horigin =>
        have hparsed : parsed = entry := by simpa using hvalid
        exact Or.inr (hparsed ▸ horigin)

theorem matchesAllowedOrigin_iff {urlOrigin : String → Option String} {hostOrigin : String}
    {allowed : List String} (hvalid : ∀ entry ∈ allowed, entry = "*" ∨ urlOrigin entry = some entry) :
    matchesAllowedOrigin urlOrigin hostOrigin allowed = true
      ↔ ∃ origin, urlOrigin hostOrigin = some origin ∧ ("*" ∈ allowed ∨ origin ∈ allowed) := by
  unfold matchesAllowedOrigin
  split
  · next hempty =>
    rw [List.isEmpty_iff.mp hempty]
    simp
  split
  · next hnone => simp [hnone]
  · next origin horigin =>
    simp only [List.any_eq_true, Bool.or_eq_true, beq_iff_eq, horigin, Option.some.injEq,
      exists_eq_left']
    constructor
    · rintro ⟨entry, hmem, rfl | hentry⟩
      · exact Or.inl hmem
      · rcases hvalid entry hmem with rfl | hown
        · exact Or.inl hmem
        · exact Or.inr (Option.some.inj (hown.symm.trans hentry) ▸ hmem)
    · rintro (hany | hlisted)
      · exact ⟨"*", hany, Or.inl rfl⟩
      · exact ⟨origin, hlisted, (hvalid origin hlisted).imp_right fun hown => hown⟩

/-- Under policies that resolve, an embedded form opens exactly to a page of known origin that is
listed, or where every origin is. -/
theorem embed_gate_iff (hresolved : resolveRuntimeFeatures input = .ok profile)
    (transport : EmbedTransport) :
    (verifyEmbedOriginAllowed input.urlOrigin profile input.org transport = .ok ()
        ↔ (.embed ∈ profile.enabled → transport.isEmbedded = true →
          ∃ hostOrigin origin, transport.hostOrigin = some hostOrigin
            ∧ input.urlOrigin hostOrigin = some origin
            ∧ ("*" ∈ allowedOrigins input.org ∨ origin ∈ allowedOrigins input.org)))
      ∧ (input.urlOrigin "null" = none → "null" ∉ allowedOrigins input.org) := by
  have hvalid := allowedOrigins_valid hresolved
  refine ⟨?_, fun hopaque hlisted => ?_⟩
  · unfold verifyEmbedOriginAllowed
    split
    · next hoff =>
      have habsent : .embed ∉ profile.enabled := by simpa using hoff
      exact iff_of_true rfl fun hon => absurd hon habsent
    · next hon =>
      have hon : .embed ∈ profile.enabled := by simpa using hon
      split
      · next htop =>
        have htop : transport.isEmbedded = false := by simpa using htop
        exact iff_of_true rfl fun _ hembedded => by cases htop.symm.trans hembedded
      · next hembedded =>
        have hembedded : transport.isEmbedded = true := by simpa using hembedded
        cases transport.hostOrigin with
        | none => simp [hon, hembedded]
        | some hostOrigin =>
          simp only [failIf_ok, Bool.not_eq_false', matchesAllowedOrigin_iff hvalid]
          simp [hon, hembedded]
  · rcases hvalid "null" hlisted with hany | hown
    · exact absurd hany (by decide)
    · cases hopaque.symm.trans hown

def sampleOrigin : String → Option String
  | "https://a.example" | "https://a.example/page" => some "https://a.example"
  | _ => none

def sampleEmbed : ResolveRuntimeFeaturesInput where
  mode := .production
  instanceCapabilities key := if key = .embed then .available else .unavailable
  org := ⟨[("embed", some .required)],
    fun key => if key = .embed then
      some (.object [("allowedOrigins", .array [.string "https://a.example"])]) else none, none⟩
  form := ⟨[], fun _ => none, none⟩
  urlOrigin := sampleOrigin

theorem embed_gate_sample : ∃ profile, resolveRuntimeFeatures sampleEmbed = .ok profile
    ∧ verifyEmbedOriginAllowed sampleOrigin profile sampleEmbed.org
      ⟨true, some "https://a.example/page"⟩ = .ok ()
    ∧ "null" ∉ allowedOrigins sampleEmbed.org := by
  have hok : (resolveRuntimeFeatures sampleEmbed).isOk = true := by rfl
  cases hresolved : resolveRuntimeFeatures sampleEmbed with
  | error e =>
    rw [hresolved] at hok
    cases hok
  | ok profile =>
    have hgate := embed_gate_iff hresolved ⟨true, some "https://a.example/page"⟩
    refine ⟨profile, rfl, hgate.1.mpr fun _ _ => ⟨_, _, rfl, rfl, Or.inr ?_⟩, hgate.2 rfl⟩
    exact List.mem_cons_self

end FormspecWeb.App
