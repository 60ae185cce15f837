import FormspecWeb.VerifyingSurface.HttpSurfaceBundleSource

/-!
# Confinement of the acquisition

Every URL that is fetched has passed the check of the source, and the origin of the one before it. A
redirect is followed as often as the source allows. What has been read of a body never exceeds the
limit, and the snapshot is all of it.
-/

namespace FormspecWeb.VerifyingSurface

open Shared Async

/-! ## URLs -/

variable {platform : SourcePlatform} {source : HttpSurfaceBundleSource}

structure Confined (source : HttpSurfaceBundleSource) (origin : String) (url : URL) : Prop where
  secure : url.protocol = "https:"
  allowed : url.origin ∈ source.allowedOrigins
  origin : url.origin = origin

theorem parseAllowedUrl_ok {locator : String} {url : URL}
    (h : parseAllowedUrl platform source locator = .ok url) :
    platform.parseUrl locator = some url ∧ Confined source url.origin url := by
  unfold parseAllowedUrl at h
  split at h
  · cases h
  · next found hparsed =>
    split at h
    · cases h
    · next hchecks =>
      cases h
      simp only [Bool.or_eq_true, bne_iff_ne, ne_eq, not_or, Decidable.not_not, Bool.not_eq_true',
        Bool.not_eq_false, List.contains_iff_mem] at hchecks
      exact ⟨hparsed, hchecks.1, hchecks.2, rfl⟩

theorem redirectTarget_ok {current next : URL} {redirects : Nat} {response : SourceResponse}
    (h : redirectTarget platform source current redirects response = .ok next) :
    Confined source current.origin next ∧ redirects + 1 ≤ source.maxRedirects := by
  unfold redirectTarget at h
  split at h
  · cases h
  split at h
  · cases h
  split at h
  · cases h
  next hlimit =>
  split at h
  · cases h
  split at h
  · cases h
  · next found hfound =>
    split at h
    · cases h
    · next horigin =>
      obtain rfl := Except.ok.inj h
      obtain ⟨-, hconfined⟩ := parseAllowedUrl_ok hfound
      have heq : found.origin = current.origin := by simpa using horigin
      exact ⟨⟨hconfined.secure, hconfined.allowed, heq⟩, Nat.not_lt.mp hlimit⟩

theorem normalizeOrigin_some {configured origin : String}
    (h : normalizeOrigin platform configured = some origin) : origin = withoutSlash configured := by
  unfold normalizeOrigin at h
  split at h
  · cases h
  · obtain ⟨hchecks, h⟩ := Option.ite_none_left_eq_some.mp h
    simp only [Bool.or_eq_true, bne_iff_ne, ne_eq, not_or, Decidable.not_not] at hchecks
    rw [← Option.some.inj h]
    exact hchecks.2

theorem normalizeOrigin_mapM {configured origins : List String}
    (h : configured.mapM (normalizeOrigin platform) = some origins) :
    ∀ origin ∈ origins, ∃ found ∈ configured, origin = withoutSlash found := by
  induction configured generalizing origins with
  | nil =>
    cases h
    intro origin horigin
    cases horigin
  | cons first rest ih =>
    rw [List.mapM_cons] at h
    obtain ⟨found, hfound, hmap⟩ := Option.bind_eq_some_iff.mp h
    obtain ⟨others, hothers, hall⟩ := Option.bind_eq_some_iff.mp hmap
    cases hall
    intro origin horigin
    rcases List.mem_cons.mp horigin with rfl | hrest
    · exact ⟨first, List.mem_cons_self, normalizeOrigin_some hfound⟩
    · obtain ⟨other, hother, heq⟩ := ih hothers origin hrest
      exact ⟨other, List.mem_cons_of_mem _ hother, heq⟩

theorem HttpSurfaceBundleSource.create_some {config : HttpSurfaceBundleSourceConfig}
    (h : HttpSurfaceBundleSource.create platform config = some source) :
    (source.maxBytes : Int) = config.maxBytes
      ∧ (source.maxRedirects : Int) = config.maxRedirects.getD 0
      ∧ ∀ origin ∈ source.allowedOrigins, ∃ configured ∈ config.allowedOrigins,
        origin = withoutSlash configured := by
  unfold HttpSurfaceBundleSource.create at h
  obtain ⟨hbad, hcreate⟩ := Option.ite_none_left_eq_some.mp h
  obtain ⟨origins, horigins, hrest⟩ := Option.bind_eq_some_iff.mp hcreate
  obtain ⟨hredirects, hsource⟩ := Option.ite_none_left_eq_some.mp hrest
  cases hsource
  simp only [isPositive, Bool.or_eq_true, Bool.not_eq_true', not_or, Bool.not_eq_false,
    Bool.and_eq_true, decide_eq_true_eq] at hbad hredirects
  have hbytes : 0 < config.maxBytes := hbad.1.1.2
  have hlimit : 0 ≤ config.maxRedirects.getD 0 := Int.not_lt.mp hredirects.2
  exact ⟨Int.toNat_of_nonneg (Int.le_of_lt hbytes), Int.toNat_of_nonneg hlimit,
    normalizeOrigin_mapM horigins⟩

/-! ## Steps -/

def BodyAt (maxBytes : Nat) (delivered : List Bytes) : AcquireStage → Prop
  | .fetching | .buffering _ => delivered = []
  | .reading _ chunks byteCount => delivered = chunks ∧ byteCount = (chunks.map (·.length)).sum
      ∧ byteCount ≤ maxBytes
  | .hashing bytes _ => bytes = delivered.flatten ∧ bytes.length ≤ maxBytes
  | .cancelling | .ended => True

def SnapshotOf (maxBytes : Nat) (delivered : List Bytes) (snapshot : AcquiredSnapshot) : Prop :=
  snapshot.snapshot.bytes = delivered.flatten ∧ snapshot.snapshot.bytes.length ≤ maxBytes

namespace Acquisition

structure Keeps (s : Acquisition) (source : HttpSurfaceBundleSource) (origin : String) : Prop where
  fetched : ∀ url ∈ s.fetched, Confined source origin url
  current : s.current.origin = origin
  counted : s.fetched.length = s.redirects + 1 ∧ s.redirects ≤ source.maxRedirects
  body : BodyAt source.maxBytes s.delivered s.stage
  outcome : ∀ snapshot, s.outcome = some (.ok snapshot) →
    s.stage = .ended ∧ SnapshotOf source.maxBytes s.delivered snapshot

variable {origin : String} {s t : Acquisition}

theorem unended {stage : AcquireStage} (hstage : s.stage = stage) (h : stage ≠ .ended) :
    s.stage ≠ .ended := by
  rw [hstage]
  exact h

section

variable (h : s.Keeps source origin)
include h

theorem Keeps.pending (hstage : s.stage ≠ .ended)
    {snapshot : AcquiredSnapshot} : s.outcome ≠ some (.ok snapshot) :=
  fun heq => hstage (h.outcome snapshot heq).1

theorem Keeps.move {stage : AcquireStage} {delivered : List Bytes}
    (hstage : s.stage ≠ .ended) (hbody : BodyAt source.maxBytes delivered stage) :
    Keeps { s with stage, delivered } source origin where
  __ := h
  body := hbody
  outcome := fun _ heq => absurd heq (h.pending hstage)

theorem Keeps.finish {result : Except SourceError AcquiredSnapshot}
    (hresult : ∀ snapshot, result = .ok snapshot → SnapshotOf source.maxBytes s.delivered snapshot)
    (hstage : s.stage ≠ .ended) : (s.finish result).Keeps source origin where
  __ := h
  body := trivial
  outcome := by
    intro snapshot heq
    refine ⟨rfl, ?_⟩
    change s.outcome.or (some result) = _ at heq
    cases houtcome : s.outcome with
    | none =>
      rw [houtcome] at heq
      exact hresult snapshot (Option.some.inj heq)
    | some found =>
      rw [houtcome] at heq
      exact absurd (houtcome.trans heq) (h.pending hstage)

theorem Keeps.fail {error : SourceError} (hstage : s.stage ≠ .ended) :
    (s.finish (.error error)).Keeps source origin :=
  h.finish (fun _ heq => by cases heq) hstage

theorem Keeps.crash {error : NetworkError} (hstage : s.stage ≠ .ended) :
    (s.crash error).Keeps source origin := by
  unfold Acquisition.crash
  split
  · exact h.fail hstage
  · exact h.fail hstage

variable {response : SourceResponse}

variable {now : Option String}

theorem Keeps.complete {bytes : Bytes} (hstage : s.stage ≠ .ended) (hbytes : bytes = s.delivered.flatten)
    (hlength : bytes.length ≤ source.maxBytes) :
    (s.complete source response bytes now).Keeps source origin := by
  unfold Acquisition.complete
  split
  · exact h.fail hstage
  · exact h.move hstage ⟨hbytes, hlength⟩

theorem Keeps.onResponse {response : Except NetworkError SourceResponse} (hstage : s.stage = .fetching) :
    (s.onResponse platform source response).Keeps source origin := by
  have hended := unended hstage nofun
  have hbody := h.body
  rw [hstage] at hbody
  unfold Acquisition.onResponse
  split
  · exact h.crash hended
  split
  · exact h.fail hended
  split
  · split
    · exact h.fail hended
    · next next htarget =>
      obtain ⟨hconfined, hlimit⟩ := redirectTarget_ok htarget
      rw [h.current] at hconfined
      exact {
        fetched := by
          intro url hurl
          rcases List.mem_append.mp hurl with hold | hnew
          · exact h.fetched url hold
          · rw [List.mem_singleton.mp hnew]
            exact hconfined
        current := hconfined.origin
        counted := by
          refine ⟨?_, hlimit⟩
          simp only [List.length_append, List.length_singleton, h.counted.1]
        body := by
          rw [hstage]
          exact hbody
        outcome := fun _ heq => absurd heq (h.pending hended) }
  split
  · exact h.fail hended
  · refine h.move hended ?_
    split
    · exact ⟨hbody, rfl, Nat.zero_le _⟩
    · exact hbody

theorem Keeps.onRead {chunks : List Bytes} {byteCount : Nat}
    {result : Except NetworkError ReadResult}
    (hstage : s.stage = .reading response chunks byteCount) :
    (s.onRead source response chunks byteCount result now).Keeps source origin := by
  have hended := unended hstage nofun
  obtain ⟨hdelivered, hcount, hlimit⟩ : BodyAt _ _ (.reading response chunks byteCount) :=
    hstage ▸ h.body
  unfold Acquisition.onRead
  split
  · exact h.crash hended
  · refine h.complete hended ?_ ?_
    · rw [hdelivered, hcount, joinChunks_eq]
    · rw [hcount, joinChunks_eq, List.length_flatten, ← hcount]
      exact hlimit
  · next bytes =>
    have hread : Keeps { s with delivered := s.delivered ++ [bytes], stage := .cancelling } source
        origin := h.move hended trivial
    dsimp only
    split
    · exact hread
    next hshort =>
    split
    · exact hread.fail nofun
    · refine h.move hended ⟨by rw [hdelivered], ?_, Nat.not_lt.mp hshort⟩
      rw [List.map_append, List.sum_append, ← hcount]
      simp

theorem Keeps.onBuffered {bytes : Except NetworkError Bytes}
    (hstage : s.stage = .buffering response) :
    (s.onBuffered source response bytes now).Keeps source origin := by
  have hended := unended hstage nofun
  have hdelivered : s.delivered = [] := by
    have hbody := h.body
    rw [hstage] at hbody
    exact hbody
  unfold Acquisition.onBuffered
  split
  · exact h.crash hended
  · next bytes =>
    have hread : Keeps { s with delivered := s.delivered ++ [bytes], stage := .cancelling } source
        origin := h.move hended trivial
    dsimp only
    split
    · exact hread.fail nofun
    · next hshort =>
      have hbytes : bytes = (s.delivered ++ [bytes]).flatten := by
        rw [hdelivered]
        simp
      exact hread.complete nofun hbytes (Nat.not_lt.mp hshort)

theorem Keeps.onHashed {bytes : Bytes} {evidence : SurfaceBundleSourceEvidence} {succeeded : Bool} (hstage : s.stage = .hashing bytes evidence) :
    (s.onHashed platform bytes evidence succeeded).Keeps source origin := by
  have hended := unended hstage nofun
  have hbody : BodyAt _ _ (.hashing bytes evidence) := hstage ▸ h.body
  unfold Acquisition.onHashed
  split
  · refine h.finish ?_ hended
    intro snapshot heq
    cases heq
    exact hbody
  · exact h.fail hended

theorem Keeps.step {event : AcquireEvent}
    (hstep : s.step platform source event = some t) : t.Keeps source origin := by
  cases event with
  | interrupt error =>
    simp only [Acquisition.step] at hstep
    split at hstep
    · split at hstep
      · exact Option.some.inj hstep ▸ h
      · cases hstep
        exact { h with outcome := fun snapshot heq => by cases heq }
    · cases hstep
  | response response =>
    simp only [Acquisition.step] at hstep
    split at hstep
    · next hstage => exact Option.some.inj hstep ▸ h.onResponse hstage
    · cases hstep
  | read result now =>
    simp only [Acquisition.step] at hstep
    split at hstep
    · next hstage => exact Option.some.inj hstep ▸ h.onRead hstage
    · cases hstep
  | cancelled result =>
    simp only [Acquisition.step] at hstep
    split at hstep
    · next hstage =>
      cases hstep
      have hended := unended hstage nofun
      unfold Acquisition.onCancelled
      split
      · exact h.crash hended
      · exact h.fail hended
    · cases hstep
  | buffered bytes now =>
    simp only [Acquisition.step] at hstep
    split at hstep
    · next hstage => exact Option.some.inj hstep ▸ h.onBuffered hstage
    · cases hstep
  | hashed succeeded =>
    simp only [Acquisition.step] at hstep
    split at hstep
    · next hstage => exact Option.some.inj hstep ▸ h.onHashed hstage
    · cases hstep

end

theorem opened_keeps {locator : String} {cancelled : Bool}
    (h : opened platform source locator cancelled = .ok s) :
    ∃ requested, platform.parseUrl locator = some requested ∧ s.Keeps source requested.origin := by
  unfold opened at h
  split at h
  · cases h
  split at h
  · cases h
  · next current hparsed =>
    cases h
    obtain ⟨hurl, hconfined⟩ := parseAllowedUrl_ok hparsed
    exact ⟨current, hurl, {
      fetched := fun url hmem => List.mem_singleton.mp hmem ▸ hconfined
      current := rfl
      counted := ⟨rfl, Nat.zero_le _⟩
      body := rfl
      outcome := fun snapshot heq => by cases heq }⟩

theorem onResponse_last {response : Except NetworkError SourceResponse}
    (h : source.maxRedirects ≤ s.redirects) :
    (s.onResponse platform source response).stage ≠ .fetching := by
  have hfinish : ∀ result, (s.finish result).stage ≠ .fetching := fun _ heq => by cases heq
  unfold Acquisition.onResponse
  split
  · unfold Acquisition.crash
    split
    · exact hfinish _
    · exact hfinish _
  split
  · exact hfinish _
  split
  · split
    · exact hfinish _
    · next htarget =>
      have := (redirectTarget_ok htarget).2
      omega
  split
  · exact hfinish _
  · simp only
    split <;> exact fun heq => by cases heq

structure ConfinedTo (t : Acquisition) (platform : SourcePlatform)
    (config : HttpSurfaceBundleSourceConfig) (locator : String) : Prop where
  /-- Every fetch is of an https URL of the locator's origin, which is an allowed one. -/
  urls : ∃ requested, platform.parseUrl locator = some requested ∧ ∀ url ∈ t.fetched,
    url.protocol = "https:" ∧ url.origin = requested.origin
      ∧ ∃ configured ∈ config.allowedOrigins, url.origin = withoutSlash configured
  fetches : (t.fetched.length : Int) ≤ config.maxRedirects.getD 0 + 1
  bytes : ∀ snapshot, t.outcome = some (.ok snapshot) →
    snapshot.snapshot.bytes = t.delivered.flatten
      ∧ (snapshot.snapshot.bytes.length : Int) ≤ config.maxBytes

/-- In every run of an acquisition, only https URLs of the locator's origin are fetched, an allowed
one, and at most one more than there may be redirects; the answer to the last of these is not
followed. A snapshot is the whole body, within the limit. -/
theorem acquisition_confined {config : HttpSurfaceBundleSourceConfig} {locator : String}
    {cancelled : Bool} {events : List AcquireEvent}
    (hcreate : HttpSurfaceBundleSource.create platform config = some source)
    (hopened : opened platform source locator cancelled = .ok s)
    (hrun : events.foldlM (Acquisition.step platform source) s = some t) :
    t.ConfinedTo platform config locator
    ∧ ((t.fetched.length : Int) = config.maxRedirects.getD 0 + 1 → ∀ response u,
        t.step platform source (.response response) = some u → u.stage ≠ .fetching) := by
  obtain ⟨hbytes, hredirects, horigins⟩ := HttpSurfaceBundleSource.create_some hcreate
  obtain ⟨requested, hparsed, hopen⟩ := opened_keeps hopened
  have hkeeps : t.Keeps source requested.origin :=
    foldlM_invariant (J := fun s => s.Keeps source requested.origin)
      (fun _ _ _ hs hstep => hs.step hstep) hopen hrun
  obtain ⟨hcount, hlimit⟩ := hkeeps.counted
  refine ⟨{ urls := ?_, fetches := ?_, bytes := ?_ }, ?_⟩
  · refine ⟨requested, hparsed, fun url hurl => ?_⟩
    have hconfined := hkeeps.fetched url hurl
    exact ⟨hconfined.secure, hconfined.origin, horigins _ hconfined.allowed⟩
  · omega
  · intro snapshot houtcome
    obtain ⟨-, heq, hlength⟩ := hkeeps.outcome snapshot houtcome
    exact ⟨heq, by omega⟩
  · intro hlast response u hstep
    simp only [Acquisition.step] at hstep
    split at hstep
    · cases hstep
      exact onResponse_last (by omega)
    · cases hstep

/-! ## One redirect -/

def bundlePlatform : SourcePlatform where
  parseUrl text :=
    if text = "https://bundles.example" ∨ text = "https://bundles.example/" then
      some ⟨"https://bundles.example/", "https:", "https://bundles.example"⟩
    else if text = "https://bundles.example/current" then
      some ⟨"https://bundles.example/current", "https:", "https://bundles.example"⟩
    else if text = "https://bundles.example/42" then
      some ⟨"https://bundles.example/42", "https:", "https://bundles.example"⟩
    else none
  resolveUrl location _ :=
    if location = "/42" then
      some ⟨"https://bundles.example/42", "https:", "https://bundles.example"⟩
    else none
  identity bytes := if bytes = [1, 2, 3] then
      "sha256:039058c6f2c0cb492c533b0a4d14ef77cc0f78abccced5287d84a1a2011cfb81"
    else ""

def bundleConfig : HttpSurfaceBundleSourceConfig :=
  ⟨["https://bundles.example"], 4, 1000, .sameOrigin, some 1, none⟩

def bundleSource : HttpSurfaceBundleSource where
  allowedOrigins := ["https://bundles.example"]
  maxBytes := 4
  timeoutMs := 1000
  redirectPolicy := .sameOrigin
  maxRedirects := 1
  adapterId := "urn:formspec-web:surface-bundle-source:http@1"

def bundleEvents : List AcquireEvent :=
  [.response (.ok ⟨302, false, some "/42", none, none, none, false⟩),
    .response (.ok ⟨200, true, none, some "3", some "e", none, true⟩),
    .read (.ok (.chunk [1, 2])) none, .read (.ok (.chunk [3])) none,
    .read (.ok .done) (some "2026-01-01T00:00:00.000Z"), .hashed true]

def bundleURL (href : String) : URL := ⟨href, "https:", "https://bundles.example"⟩

def bundleOpened : Acquisition where
  stage := .fetching
  current := bundleURL "https://bundles.example/current"
  requestedLocator := "https://bundles.example/current"
  redirects := 0
  aborted := false
  outcome := none
  fetched := [bundleURL "https://bundles.example/current"]
  delivered := []

def bundleSnapshot : AcquiredSnapshot where
  snapshot := {
    identity := "sha256:039058c6f2c0cb492c533b0a4d14ef77cc0f78abccced5287d84a1a2011cfb81"
    bytes := [1, 2, 3] }
  evidence := {
    adapterId := "urn:formspec-web:surface-bundle-source:http@1"
    requestedLocator := "https://bundles.example/current"
    resolvedLocator := "https://bundles.example/42"
    acquiredAt := "2026-01-01T00:00:00.000Z"
    byteCount := 3
    responseStatus := 200
    cacheIdentity := some "e" }

def bundleEnded : Acquisition :=
  { bundleOpened with
    stage := .ended
    current := bundleURL "https://bundles.example/42"
    redirects := 1
    outcome := some (.ok bundleSnapshot)
    fetched := [bundleURL "https://bundles.example/current", bundleURL "https://bundles.example/42"]
    delivered := [[1, 2], [3]] }

theorem bundle_created :
    HttpSurfaceBundleSource.create bundlePlatform bundleConfig = some bundleSource := by
  decide +kernel

theorem bundle_opened : opened bundlePlatform bundleSource "https://bundles.example/current" false
    = .ok bundleOpened := by
  rfl

theorem bundle_run : List.foldlM (Acquisition.step bundlePlatform bundleSource) bundleOpened
    bundleEvents = some bundleEnded := by
  rfl

theorem acquisition_confined_bundle :
    bundleEnded.ConfinedTo bundlePlatform bundleConfig "https://bundles.example/current" :=
  (acquisition_confined bundle_created bundle_opened bundle_run).1

end Acquisition

end FormspecWeb.VerifyingSurface
