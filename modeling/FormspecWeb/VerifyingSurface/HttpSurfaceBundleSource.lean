import FormspecWeb.Shared.Checks
import FormspecWeb.Shared.Chunks
import FormspecWeb.Shared.Text
import FormspecWeb.VerifyingSurface.Admission

/-!
# Acquisition of a surface bundle over HTTP

The source fetches the locator of a request, follows redirects within its origin, and reads the body
up to its limit. The caller may cancel, and the deadline may pass, at any point: the acquisition then
ends for the caller, while the fetch or the read that is under way still answers. What the network
answers comes with the events.
-/

namespace FormspecWeb.VerifyingSurface

open Shared

abbrev Bytes := List UInt8

structure URL where
  href : String
  protocol : String
  origin : String
deriving DecidableEq

/-- What the source takes from its platform: `new URL(text)` and `new URL(text, base)`, and the digest
of bytes. -/
structure SourcePlatform where
  parseUrl : String → Option URL
  resolveUrl : String → URL → Option URL
  identity : Bytes → String

inductive RedirectPolicy where
  | refuse
  | sameOrigin
deriving DecidableEq

structure SourceError where
  code : SurfaceBundleSourceErrorCode
  message : String

structure HttpSurfaceBundleSourceConfig where
  allowedOrigins : List String
  maxBytes : Int
  timeoutMs : Int
  redirectPolicy : RedirectPolicy
  maxRedirects : Option Int
  adapterId : Option String

structure HttpSurfaceBundleSource where
  allowedOrigins : List String
  maxBytes : Nat
  timeoutMs : Nat
  redirectPolicy : RedirectPolicy
  maxRedirects : Nat
  adapterId : String
deriving DecidableEq

/-- `text.replace(/\/$/u, '')`. -/
def withoutSlash (text : String) : String :=
  if text.endsWith "/" then (text.dropEnd 1).toString else text

/-- `normalizeOrigin(origin)`; none where it throws. -/
def normalizeOrigin (platform : SourcePlatform) (origin : String) : Option String :=
  match platform.parseUrl origin with
  | none => none
  | some parsed =>
    if parsed.protocol != "https:" || parsed.origin != withoutSlash origin then none
    else some parsed.origin

def isPositive (n : Int) : Bool := isSafeInteger n && 0 < n

/-- The constructor; none where it throws. -/
def HttpSurfaceBundleSource.create (platform : SourcePlatform)
    (config : HttpSurfaceBundleSourceConfig) : Option HttpSurfaceBundleSource := do
  if !isPositive config.maxBytes || config.allowedOrigins.isEmpty || !isPositive config.timeoutMs then
    none
  else do
    let allowedOrigins ← config.allowedOrigins.mapM (normalizeOrigin platform)
    let maxRedirects := config.maxRedirects.getD 0
    if !isSafeInteger maxRedirects || maxRedirects < 0 then none
    else some {
      allowedOrigins
      maxBytes := config.maxBytes.toNat
      timeoutMs := config.timeoutMs.toNat
      redirectPolicy := config.redirectPolicy
      maxRedirects := maxRedirects.toNat
      adapterId := config.adapterId.getD "urn:formspec-web:surface-bundle-source:http@1" }

structure SourceResponse where
  status : Nat
  ok : Bool
  location : Option String
  contentLength : Option String
  etag : Option String
  lastModified : Option String
  hasBody : Bool

structure SurfaceBundleSourceEvidence where
  adapterId : String
  requestedLocator : String
  resolvedLocator : String
  acquiredAt : String
  byteCount : Nat
  responseStatus : Nat
  cacheIdentity : Option String

def isRedirect (status : Nat) : Bool := [301, 302, 303, 307, 308].contains status

/-- `Number(text)` of a text of digits. -/
def digitsValue (text : String) : Nat :=
  text.toList.foldl (fun value c => value * 10 + (c.toNat - 48)) 0

/-- `/^\d+$/u.test(text)`. -/
def isDigits (text : String) : Bool := text != "" && text.toList.all isAsciiDigit

/-! ## The acquisition -/

inductive AcquireStage where
  | fetching
  /-- The body is read; what has been read of it, and how many bytes that is. -/
  | reading (response : SourceResponse) (chunks : List Bytes) (byteCount : Nat)
  | cancelling
  | buffering (response : SourceResponse)
  | hashing (bytes : Bytes) (evidence : SurfaceBundleSourceEvidence)
  | ended

structure AcquiredSnapshot where
  snapshot : SurfaceBundleSnapshot
  evidence : SurfaceBundleSourceEvidence

structure Acquisition where
  stage : AcquireStage
  current : URL
  requestedLocator : String
  redirects : Nat
  aborted : Bool
  outcome : Option (Except SourceError AcquiredSnapshot)
  fetched : List URL
  /-- The chunks the body has delivered; of a body that is buffered, the one chunk. -/
  delivered : List Bytes

inductive ReadResult where
  | chunk (bytes : Bytes)
  | done

/-- What the network throws. -/
inductive NetworkError where
  | abortError
  | other

inductive AcquireEvent where
  | interrupt (error : SourceError)
  | response (response : Except NetworkError SourceResponse)
  | read (result : Except NetworkError ReadResult) (now : Option String)
  | cancelled (result : Except NetworkError Unit)
  | buffered (bytes : Except NetworkError Bytes) (now : Option String)
  | hashed (succeeded : Bool)

def disallowed (message : String) : SourceError := ⟨.disallowedLocation, message⟩

def wasCancelled : SourceError := ⟨.cancelled, "Surface bundle acquisition was cancelled."⟩

def unexpected : SourceError := ⟨.internal, "Surface bundle source failed unexpectedly."⟩

def tooLong (maxBytes : Nat) : SourceError :=
  ⟨.sizeLimitExceeded, s!"Surface bundle exceeds the configured {maxBytes}-byte limit."⟩

def parseAllowedUrl (platform : SourcePlatform) (source : HttpSurfaceBundleSource)
    (locator : String) : Except SourceError URL :=
  match platform.parseUrl locator with
  | none => .error (disallowed "Surface bundle locator must be an absolute HTTPS URL.")
  | some url =>
    if url.protocol != "https:" || !source.allowedOrigins.contains url.origin then
      .error (disallowed "Surface bundle locator is outside the configured HTTPS origins.")
    else .ok url

def redirectTarget (platform : SourcePlatform) (source : HttpSurfaceBundleSource) (current : URL)
    (redirects : Nat) (response : SourceResponse) : Except SourceError URL :=
  match response.location.filter (· != "") with
  | none =>
    .error ⟨.malformedResponse, s!"Surface bundle redirect {response.status} omitted Location."⟩
  | some location =>
    if source.redirectPolicy = .refuse then
      .error (disallowed "Surface bundle redirects are disabled.")
    else if source.maxRedirects < redirects + 1 then
      .error (disallowed "Surface bundle redirect limit was exceeded.")
    else match platform.resolveUrl location current with
      | none => .error unexpected  -- the TypeError of a text that is no URL
      | some resolved =>
        match parseAllowedUrl platform source resolved.href with
        | .error error => .error error
        | .ok next =>
          if next.origin != current.origin then
            .error (disallowed "Surface bundle redirect changed origin.")
          else .ok next

/-- The head of a response that is no redirect: what is wrong with it, if anything. -/
def responseError (source : HttpSurfaceBundleSource) (response : SourceResponse) :
    Option SourceError :=
  if response.status = 404 then some ⟨.notFound, "Surface bundle was not found."⟩
  else if !response.ok then
    some ⟨.unavailable, s!"Surface bundle source returned HTTP {response.status}."⟩
  else match response.contentLength with
    | none => none
    | some contentLength =>
      if !isDigits contentLength then
        some ⟨.malformedResponse, "Surface bundle Content-Length was not a non-negative integer."⟩
      else if source.maxBytes < digitsValue contentLength then some (tooLong source.maxBytes)
      else none

namespace Acquisition

variable (platform : SourcePlatform) (source : HttpSurfaceBundleSource)

/-- `acquire(request)`, up to the first fetch. -/
def opened (locator : String) (cancelled : Bool) : Except SourceError Acquisition :=
  if cancelled then .error wasCancelled
  else match parseAllowedUrl platform source locator with
    | .error error => .error error
    | .ok current => .ok {
        stage := .fetching
        current
        requestedLocator := current.href
        redirects := 0
        aborted := false
        outcome := none
        fetched := [current]
        delivered := [] }

/-- The acquisition ends; a caller that has been told something else keeps it. -/
def finish (s : Acquisition) (result : Except SourceError AcquiredSnapshot) : Acquisition :=
  { s with stage := .ended, outcome := s.outcome.or (some result) }

def crash (s : Acquisition) (error : NetworkError) : Acquisition :=
  match error with
  | .abortError => s.finish (.error wasCancelled)
  | .other => s.finish (.error (if s.aborted then wasCancelled else unexpected))

def complete (s : Acquisition) (response : SourceResponse) (bytes : Bytes) (now : Option String) :
    Acquisition :=
  match now with
  | none => s.finish (.error ⟨.internal, "Surface bundle source clock is invalid."⟩)
  | some acquiredAt =>
    { s with stage := .hashing bytes {
        adapterId := source.adapterId
        requestedLocator := s.requestedLocator
        resolvedLocator := s.current.href
        acquiredAt
        byteCount := bytes.length
        responseStatus := response.status
        cacheIdentity := (response.etag.or response.lastModified).filter (· != "") } }

def onResponse (s : Acquisition) (response : Except NetworkError SourceResponse) : Acquisition :=
  match response with
  | .error error => s.crash error
  | .ok response =>
    if s.aborted then s.finish (.error wasCancelled)
    else if isRedirect response.status then
      match redirectTarget platform source s.current s.redirects response with
      | .error error => s.finish (.error error)
      | .ok next =>
        { s with current := next, redirects := s.redirects + 1, fetched := s.fetched ++ [next] }
    else match responseError source response with
      | some error => s.finish (.error error)
      | none =>
        { s with stage := if response.hasBody then .reading response [] 0 else .buffering response }

def onRead (s : Acquisition) (response : SourceResponse) (chunks : List Bytes) (byteCount : Nat)
    (result : Except NetworkError ReadResult) (now : Option String) : Acquisition :=
  match result with
  | .error error => s.crash error
  | .ok .done => s.complete source response (joinChunks chunks byteCount) now
  | .ok (.chunk bytes) =>
    let s := { s with delivered := s.delivered ++ [bytes] }
    if source.maxBytes < byteCount + bytes.length then { s with stage := .cancelling }
    else if s.aborted then s.finish (.error wasCancelled)
    else { s with stage := .reading response (chunks ++ [bytes]) (byteCount + bytes.length) }

def onBuffered (s : Acquisition) (response : SourceResponse) (bytes : Except NetworkError Bytes)
    (now : Option String) : Acquisition :=
  match bytes with
  | .error error => s.crash error
  | .ok bytes =>
    let s := { s with delivered := s.delivered ++ [bytes] }
    if source.maxBytes < bytes.length then s.finish (.error (tooLong source.maxBytes))
    else s.complete source response bytes now

def onCancelled (s : Acquisition) (result : Except NetworkError Unit) : Acquisition :=
  match result with
  | .error error => s.crash error
  | .ok () => s.finish (.error (tooLong source.maxBytes))

def onHashed (s : Acquisition) (bytes : Bytes) (evidence : SurfaceBundleSourceEvidence)
    (succeeded : Bool) : Acquisition :=
  if succeeded then s.finish (.ok ⟨⟨platform.identity bytes, bytes⟩, evidence⟩)
  else s.finish (.error ⟨.internal, "SHA-256 is unavailable in this runtime."⟩)

def step (s : Acquisition) : AcquireEvent → Option Acquisition
  | .interrupt error =>
    match s.outcome with
    | none => if s.aborted then some s
        else some { s with aborted := true, outcome := some (.error error) }
    | some _ => none
  | .response response =>
    match s.stage with
    | .fetching => some (s.onResponse platform source response)
    | _ => none
  | .read result now =>
    match s.stage with
    | .reading response chunks byteCount =>
      some (s.onRead source response chunks byteCount result now)
    | _ => none
  | .cancelled result =>
    match s.stage with
    | .cancelling => some (s.onCancelled source result)
    | _ => none
  | .buffered bytes now =>
    match s.stage with
    | .buffering response => some (s.onBuffered source response bytes now)
    | _ => none
  | .hashed succeeded =>
    match s.stage with
    | .hashing bytes evidence => some (s.onHashed platform bytes evidence succeeded)
    | _ => none

end Acquisition

end FormspecWeb.VerifyingSurface
