import FormspecWeb.Definition.HttpDefinitionSource

/-!
# The version a Definition is asked for by

The getters of one URL and version are answered from one payload, and a fetch that failed answers no
later call. A Definition that is returned has the version it was asked for by exactly where the
payloads that answer those calls do: the source compares them with nothing.
-/

namespace FormspecWeb.Definition.HttpDefinitionSource

open Shared Async

variable {config : HttpDefinitionSourceConfig} {s t : HttpDefinitionSource}

def suits (payload : Value) (version : String) : Bool :=
  match extractDefinition payload with
  | .ok definition => definition.version == version
  | .error _ => true

/-- Every payload that comes to answer a call for a Definition of a version suits that version. -/
def versioned (config : HttpDefinitionSourceConfig) (s : HttpDefinitionSource) : Event → Bool
  | .call .definition url (some version) =>
    match config.formIdResolver url (some version) with
    | .error _ => true
    | .ok formId =>
      match (s.runtimePayloads (cacheKeyOf formId (some version))).bind s.resultOf with
      | some (.ok payload) => suits payload version
      | _ => true
  | .settle fetch (.ok payload) => s.calls.all fun call =>
    match call.getter, call.version, call.payload with
    | .definition, some version, .ok joined => joined != fetch || suits payload version
    | _, _, _ => true
  | _ => true

def Versioned (config : HttpDefinitionSourceConfig) (s : HttpDefinitionSource) (event : Event) :
    Prop :=
  s.versioned config event = true

instance (event : Event) : Decidable (s.Versioned config event) :=
  inferInstanceAs (Decidable (_ = true))

/-- Two calls for one URL and version that are not refused have one payload. -/
def OnePayload (s : HttpDefinitionSource) : Prop :=
  ∀ call ∈ s.calls, ∀ other ∈ s.calls, call.url = other.url → call.version = other.version →
    ∀ fetch fetch', call.payload = .ok fetch → other.payload = .ok fetch' →
      s.standing fetch = true → s.standing fetch' = true → fetch = fetch'

def Unpoisoned (config : HttpDefinitionSourceConfig) (s : HttpDefinitionSource) : Prop :=
  ∀ url version fetch, (s.getRuntimePayload config url version).2 = .ok fetch →
    s.standing fetch = true

/-- A call for a Definition of a version is answered with one of that version, if with any. -/
def Honours (config : HttpDefinitionSourceConfig) (s : HttpDefinitionSource) (call : Call) : Prop :=
  ∀ version, call.version = some version → ∀ definition,
    s.answer config call = some (.ok (.definition definition)) → definition.version = version

def Honoured (config : HttpDefinitionSourceConfig) (s : HttpDefinitionSource) : Prop :=
  ∀ call ∈ s.calls, s.Honours config call

structure Inv (config : HttpDefinitionSourceConfig) (s : HttpDefinitionSource) : Prop where
  cached : ∀ cacheKey fetch, s.runtimePayloads cacheKey = some fetch → s.standing fetch = true
    ∧ ∃ found, s.fetches[fetch]? = some found ∧ found.cacheKey = cacheKey
  kept : ∀ fetch found, s.fetches[fetch]? = some found → s.standing fetch = true →
    s.runtimePayloads found.cacheKey = some fetch
  joined : ∀ call ∈ s.calls, ∀ fetch, call.payload = .ok fetch →
    ∃ formId found, config.formIdResolver call.url call.version = .ok formId
      ∧ s.fetches[fetch]? = some found ∧ found.cacheKey = cacheKeyOf formId call.version

theorem inv_opened : opened.Inv config where
  cached _ _ h := by cases h
  kept _ _ h := by cases h
  joined _ h := absurd h List.not_mem_nil

/-! ## Calls -/

theorem getRuntimePayload_cases (config : HttpDefinitionSourceConfig) (s : HttpDefinitionSource)
    (url : String) (version : Option String) :
    (∃ error, config.formIdResolver url version = .error error
        ∧ s.getRuntimePayload config url version = (s, .error error))
      ∨ ∃ formId, config.formIdResolver url version = .ok formId
        ∧ ((∃ fetch, s.runtimePayloads (cacheKeyOf formId version) = some fetch
            ∧ s.getRuntimePayload config url version = (s, .ok fetch))
          ∨ s.runtimePayloads (cacheKeyOf formId version) = none
            ∧ s.getRuntimePayload config url version = ({ s with
                fetches := s.fetches ++ [⟨cacheKeyOf formId version,
                  "/runtime/forms/" ++ encodeURIComponent formId, none⟩]
                runtimePayloads := Function.update s.runtimePayloads (cacheKeyOf formId version)
                  (some s.fetches.length) }, .ok s.fetches.length)) := by
  rw [getRuntimePayload]
  cases hresolved : config.formIdResolver url version with
  | error error => exact Or.inl ⟨error, rfl, rfl⟩
  | ok formId =>
    refine Or.inr ⟨formId, rfl, ?_⟩
    cases hcached : s.runtimePayloads (cacheKeyOf formId version) with
    | some fetch => exact Or.inl ⟨fetch, rfl, by simp only [hcached]⟩
    | none => exact Or.inr ⟨rfl, by simp only [hcached]⟩

theorem resultOf_concat {fetch : Fetch} (hopen : fetch.result = none) (number : Nat)
    (runtimePayloads : String → Option Nat) (calls : List Call) :
    (HttpDefinitionSource.mk (s.fetches ++ [fetch]) runtimePayloads calls).resultOf number
      = s.resultOf number := by
  rw [resultOf, resultOf]
  by_cases hlt : number < s.fetches.length
  · rw [List.getElem?_append_left hlt]
  · have hge : s.fetches.length ≤ number := by omega
    rw [List.getElem?_append_right hge, List.getElem?_eq_none hge, List.getElem?_singleton]
    split
    · exact hopen
    · rfl

theorem resultOf_getRuntimePayload (url : String) (version : Option String) (number : Nat) :
    (s.getRuntimePayload config url version).1.resultOf number = s.resultOf number := by
  rcases getRuntimePayload_cases config s url version with
    ⟨_, -, h⟩ | ⟨formId, -, ⟨_, -, h⟩ | ⟨-, h⟩⟩
  · rw [h]
  · rw [h]
  · rw [h]
    exact resultOf_concat rfl number _ _

variable {fetch : Nat}

theorem standing_congr (h : t.resultOf fetch = s.resultOf fetch) :
    t.standing fetch = s.standing fetch := by
  rw [standing, standing, h]

theorem unpoisoned_of_inv (hs : s.Inv config) : s.Unpoisoned config := by
  intro url version fetch h
  rcases getRuntimePayload_cases config s url version with
    ⟨_, -, heq⟩ | ⟨formId, -, ⟨cached, hcached, heq⟩ | ⟨-, heq⟩⟩
  · rw [heq] at h
    cases h
  · rw [heq] at h
    cases h
    exact (hs.cached _ _ hcached).1
  · rw [heq] at h
    cases h
    rw [standing, resultOf, List.getElem?_eq_none (Nat.le_refl _)]
    rfl

theorem onePayload_of_inv (hs : s.Inv config) : s.OnePayload := by
  intro call hcall other hother hurl hversion fetch fetch' hfetch hfetch' hstanding hstanding'
  obtain ⟨formId, found, hresolved, hfound, hkey⟩ := hs.joined call hcall fetch hfetch
  obtain ⟨formId', found', hresolved', hfound', hkey'⟩ := hs.joined other hother fetch' hfetch'
  rw [hurl, hversion, hresolved'] at hresolved
  cases hresolved
  have hkept := hs.kept fetch found hfound hstanding
  have hkept' := hs.kept fetch' found' hfound' hstanding'
  rw [hkey, hversion, ← hkey', hkept'] at hkept
  exact (Option.some.inj hkept).symm

theorem inv_getRuntimePayload (hs : s.Inv config) (url : String) (version : Option String) :
    (s.getRuntimePayload config url version).1.Inv config
      ∧ (s.getRuntimePayload config url version).1.calls = s.calls
      ∧ ∀ fetch, (s.getRuntimePayload config url version).2 = .ok fetch →
        ∃ formId found, config.formIdResolver url version = .ok formId
          ∧ (s.getRuntimePayload config url version).1.fetches[fetch]? = some found
          ∧ found.cacheKey = cacheKeyOf formId version := by
  have hstanding : ∀ number, (s.getRuntimePayload config url version).1.standing number
      = s.standing number := fun number => standing_congr (resultOf_getRuntimePayload url version number)
  rcases getRuntimePayload_cases config s url version with
    ⟨_, -, h⟩ | ⟨formId, hresolved, ⟨cached, hcached, h⟩ | ⟨hmissing, h⟩⟩
  · rw [h]
    exact ⟨hs, rfl, nofun⟩
  · rw [h]
    refine ⟨hs, rfl, fun fetch hfetch => ?_⟩
    cases hfetch
    obtain ⟨-, found, hfound, hkey⟩ := hs.cached _ _ hcached
    exact ⟨formId, found, hresolved, hfound, hkey⟩
  · rw [h]
    have hnew : (s.fetches ++ [(⟨cacheKeyOf formId version,
        "/runtime/forms/" ++ encodeURIComponent formId, none⟩ : Fetch)])[s.fetches.length]?
        = some ⟨cacheKeyOf formId version, "/runtime/forms/" ++ encodeURIComponent formId, none⟩ := by
      rw [List.getElem?_append_right (Nat.le_refl _), Nat.sub_self]
      rfl
    rw [h] at hstanding
    refine ⟨⟨?_, ?_, ?_⟩, rfl, fun fetch hfetch => ?_⟩
    · intro cacheKey fetch hcached
      rw [hstanding]
      have hcached : Function.update s.runtimePayloads (cacheKeyOf formId version)
          (some s.fetches.length) cacheKey = some fetch := hcached
      by_cases hkey : cacheKey = cacheKeyOf formId version
      · subst hkey
        rw [Function.update_self] at hcached
        cases hcached
        refine ⟨?_, _, hnew, rfl⟩
        rw [standing, resultOf, List.getElem?_eq_none (Nat.le_refl _)]
        rfl
      · rw [Function.update_of_ne hkey] at hcached
        obtain ⟨hstands, found, hfound, hfoundKey⟩ := hs.cached _ _ hcached
        exact ⟨hstands, found, getElem?_concat_of hfound, hfoundKey⟩
    · intro fetch found hfound hstands
      rw [hstanding] at hstands
      rcases of_getElem?_concat hfound with hold | ⟨rfl, rfl⟩
      · have hkept := hs.kept fetch found hold hstands
        have hne : found.cacheKey ≠ cacheKeyOf formId version := by
          intro heq
          rw [heq, hmissing] at hkept
          cases hkept
        exact (Function.update_of_ne hne _ _).trans hkept
      · exact Function.update_self _ _ _
    · intro call hcall fetch hfetch
      obtain ⟨id, found, hid, hfound, hkey⟩ := hs.joined call hcall fetch hfetch
      exact ⟨id, found, hid, getElem?_concat_of hfound, hkey⟩
    · cases hfetch
      exact ⟨formId, _, hresolved, hnew, rfl⟩

theorem inv_call (hs : s.Inv config) (getter : Getter) (url : String) (version : Option String) :
    (s.call config getter url version).Inv config := by
  obtain ⟨ht, hcalls, hjoined⟩ := inv_getRuntimePayload hs url (versionFor getter version)
  refine ⟨ht.cached, ht.kept, fun call hcall fetch hfetch => ?_⟩
  rcases List.mem_append.mp hcall with hold | hnew
  · exact ht.joined call hold fetch hfetch
  · obtain rfl := List.mem_singleton.mp hnew
    exact hjoined fetch hfetch

/-! ## Replies -/

variable {result : Except String Value}

theorem settle_cases (h : s.settle fetch result = some t) :
    ∃ found, s.fetches[fetch]? = some found ∧ found.result = none
      ∧ t.fetches = s.fetches.set fetch { found with result := some result }
      ∧ t.calls = s.calls
      ∧ (∀ payload, result = .ok payload → t.runtimePayloads = s.runtimePayloads)
      ∧ ∀ error, result = .error error →
        t.runtimePayloads = Function.update s.runtimePayloads found.cacheKey none := by
  rw [settle] at h
  split at h
  · cases h
  · next found hfound =>
    split at h
    · cases h
    · next hopen =>
      have hopen : found.result = none := by simpa using hopen
      cases result with
      | ok payload =>
        cases h
        exact ⟨found, hfound, hopen, rfl, rfl, fun _ _ => rfl, fun _ h => nomatch h⟩
      | error error =>
        cases h
        exact ⟨found, hfound, hopen, rfl, rfl, nofun, fun _ _ => rfl⟩

variable {fetch number : Nat}

theorem resultOf_set {found : Fetch} (hfound : s.fetches[fetch]? = some found)
    (hset : t.fetches = s.fetches.set fetch { found with result := some result }) :
    t.resultOf number = if number = fetch then some result else s.resultOf number := by
  have hlt : fetch < s.fetches.length := (List.getElem?_eq_some_iff.mp hfound).1
  rw [resultOf, resultOf, hset]
  by_cases heq : number = fetch
  · rw [heq, if_pos rfl, List.getElem?_set_self hlt]
    rfl
  · rw [if_neg heq, List.getElem?_set_ne (Ne.symm heq)]

theorem getElem?_set_of {fetches : List Fetch} {found other : Fetch}
    (result : Except String Value) (hfound : fetches[fetch]? = some found)
    (hother : fetches[number]? = some other) :
    ∃ next, (fetches.set fetch { found with result := some result })[number]? = some next
      ∧ next.cacheKey = other.cacheKey := by
  by_cases heq : fetch = number
  · subst heq
    rw [hfound] at hother
    cases hother
    exact ⟨_, List.getElem?_set_self (List.getElem?_eq_some_iff.mp hfound).1, rfl⟩
  · exact ⟨other, by rw [List.getElem?_set_ne heq, hother], rfl⟩

theorem of_getElem?_set {fetches : List Fetch} {found next : Fetch}
    (hfound : fetches[fetch]? = some found)
    (hnext : (fetches.set fetch { found with result := some result })[number]? = some next) :
    ∃ other, fetches[number]? = some other ∧ other.cacheKey = next.cacheKey := by
  by_cases heq : fetch = number
  · subst heq
    rw [List.getElem?_set_self (List.getElem?_eq_some_iff.mp hfound).1] at hnext
    exact ⟨found, hfound, by rw [← Option.some.inj hnext]⟩
  · rw [List.getElem?_set_ne heq] at hnext
    exact ⟨next, hnext, rfl⟩

theorem inv_settle (hs : s.Inv config) (h : s.settle fetch result = some t) : t.Inv config := by
  obtain ⟨found, hfound, hopen, hfetches, hcalls, hkeeps, hdrops⟩ := settle_cases h
  have hresult : ∀ number, t.resultOf number
      = if number = fetch then some result else s.resultOf number :=
    fun number => resultOf_set hfound hfetches
  have hstood : s.standing fetch = true := by
    rw [standing, resultOf, hfound, Option.bind_some, hopen]
  have hkeptFetch := hs.kept fetch found hfound hstood
  refine ⟨?_, ?_, ?_⟩
  · intro cacheKey number hcached
    cases result with
    | ok payload =>
      rw [hkeeps payload rfl] at hcached
      obtain ⟨hstanding, other, hother, hkey⟩ := hs.cached _ _ hcached
      obtain ⟨next, hnext, hnextKey⟩ := getElem?_set_of (.ok payload) hfound hother
      refine ⟨?_, next, hfetches ▸ hnext, hnextKey.trans hkey⟩
      rw [standing, hresult]
      by_cases heq : number = fetch
      · rw [if_pos heq]
      · rw [if_neg heq]
        exact hstanding
    | error error =>
      rw [hdrops error rfl] at hcached
      have hne : cacheKey ≠ found.cacheKey := by
        intro heq
        rw [heq, Function.update_self] at hcached
        cases hcached
      rw [Function.update_of_ne hne] at hcached
      obtain ⟨hstanding, other, hother, hkey⟩ := hs.cached _ _ hcached
      obtain ⟨next, hnext, hnextKey⟩ := getElem?_set_of (.error error) hfound hother
      refine ⟨?_, next, hfetches ▸ hnext, hnextKey.trans hkey⟩
      have hnumber : number ≠ fetch := by
        intro heq
        rw [heq, hfound] at hother
        exact hne (hkey.symm.trans (congrArg Fetch.cacheKey (Option.some.inj hother).symm))
      rw [standing, hresult, if_neg hnumber]
      exact hstanding
  · intro number next hnext hstanding
    rw [hfetches] at hnext
    obtain ⟨other, hother, hkey⟩ := of_getElem?_set hfound hnext
    rw [standing, hresult] at hstanding
    cases result with
    | ok payload =>
      rw [hkeeps payload rfl, ← hkey]
      by_cases heq : number = fetch
      · rw [heq, hfound] at hother
        rw [heq, ← Option.some.inj hother]
        exact hkeptFetch
      · rw [if_neg heq] at hstanding
        exact hs.kept number other hother hstanding
    | error error =>
      by_cases heq : number = fetch
      · rw [if_pos heq] at hstanding
        cases hstanding
      · rw [if_neg heq] at hstanding
        have hkept := hs.kept number other hother hstanding
        have hne : other.cacheKey ≠ found.cacheKey := by
          intro hsame
          rw [hsame, hkeptFetch] at hkept
          exact heq (Option.some.inj hkept).symm
        rw [hdrops error rfl, ← hkey, Function.update_of_ne hne]
        exact hkept
  · intro call hcall number hnumber
    rw [hcalls] at hcall
    obtain ⟨formId, other, hid, hother, hkey⟩ := hs.joined call hcall number hnumber
    obtain ⟨next, hnext, hnextKey⟩ := getElem?_set_of result hfound hother
    exact ⟨formId, next, hid, hfetches ▸ hnext, hnextKey.trans hkey⟩

theorem inv_step (hs : s.Inv config) {event : Event} (h : s.step config event = some t) :
    t.Inv config := by
  cases event with
  | call getter url version => exact Option.some.inj h ▸ inv_call hs getter url version
  | settle fetch result => exact inv_settle hs h

/-! ## Definitions that are returned -/

theorem answerOf_definition {url : String} {payload : Value} {getter : Getter}
    {definition : FormDefinition} :
    answerOf config url payload getter = .ok (.definition definition)
      ↔ getter = .definition ∧ extractDefinition payload = .ok definition := by
  cases getter with
  | definition =>
    cases payload with
    | undefined => exact iff_of_false nofun fun h => by cases h.2
    | null => exact iff_of_false nofun fun h => by cases h.2
    | _ =>
      simp only [answerOf, true_and, Functor.map, Except.map]
      split <;> simp_all
  | published expected =>
    simp only [answerOf, Functor.map, Except.map]
    cases publishedOf config url expected payload <;> simp
  | locales =>
    cases payload <;> simp [answerOf, bind, Except.bind, pure, Except.pure] <;> split <;> simp
  | _ => cases payload <;> simp [answerOf]

theorem answer_definition {call : Call} {definition : FormDefinition} :
    s.answer config call = some (.ok (.definition definition))
      ↔ call.getter = .definition ∧ ∃ fetch payload, call.payload = .ok fetch
        ∧ s.resultOf fetch = some (.ok payload) ∧ extractDefinition payload = .ok definition := by
  rw [answer]
  cases hpayload : call.payload with
  | error error => simp
  | ok fetch =>
    cases hresult : s.resultOf fetch with
    | none => simp [hresult]
    | some result =>
      cases result with
      | error error => simp [hresult]
      | ok payload => simp [hresult, answerOf_definition]

theorem suits_iff {payload : Value} {version : String} :
    suits payload version = true
      ↔ ∀ definition, extractDefinition payload = .ok definition → definition.version = version := by
  rw [suits]
  split
  · next definition hdefinition => simp [hdefinition]
  · next hnone => simp [hnone]

theorem honours_iff {call : Call} :
    s.Honours config call ↔ ∀ version fetch payload, call.getter = .definition →
      call.version = some version → call.payload = .ok fetch →
      s.resultOf fetch = some (.ok payload) → suits payload version = true := by
  constructor
  · intro h version fetch payload hgetter hversion hfetch hresult
    rw [suits_iff]
    intro definition hdefinition
    exact h version hversion definition
      (answer_definition.mpr ⟨hgetter, fetch, payload, hfetch, hresult, hdefinition⟩)
  · intro h version hversion definition hanswer
    obtain ⟨hgetter, fetch, payload, hfetch, hresult, hdefinition⟩ := answer_definition.mp hanswer
    exact suits_iff.mp (h version fetch payload hgetter hversion hfetch hresult) definition hdefinition

theorem honours_definition {url version : String} :
    s.Honours config ⟨.definition, url, some version, .ok fetch⟩
      ↔ ∀ payload, s.resultOf fetch = some (.ok payload) → suits payload version = true := by
  rw [honours_iff]
  constructor
  · intro h payload hresult
    exact h version fetch payload rfl rfl rfl hresult
  · rintro h _ _ payload - ⟨⟩ ⟨⟩ hresult
    exact h payload hresult

theorem honours_congr {call : Call} (h : ∀ number, t.resultOf number = s.resultOf number) :
    t.Honours config call ↔ s.Honours config call := by
  rw [honours_iff, honours_iff]
  simp only [h]

theorem honoured_call (hhonoured : s.Honoured config) (getter : Getter) (url : String)
    (version : Option String) :
    (s.call config getter url version).Honoured config
      ↔ s.Versioned config (.call getter url version) := by
  have hresult : ∀ number, (s.call config getter url version).resultOf number = s.resultOf number :=
    resultOf_getRuntimePayload url (versionFor getter version)
  have hcalls : (s.call config getter url version).Honoured config
      ↔ s.Honours config ⟨getter, url, versionFor getter version,
        (s.getRuntimePayload config url (versionFor getter version)).2⟩ := by
    have hlist : (s.call config getter url version).calls
        = s.calls ++ [⟨getter, url, versionFor getter version,
          (s.getRuntimePayload config url (versionFor getter version)).2⟩] := by
      rcases getRuntimePayload_cases config s url (versionFor getter version) with
        ⟨_, -, h⟩ | ⟨_, -, ⟨_, -, h⟩ | ⟨-, h⟩⟩ <;>
        simp [call, h]
    rw [Honoured, hlist, List.forall_mem_append, List.forall_mem_singleton, honours_congr hresult]
    exact and_iff_right fun call hcall => (honours_congr hresult).mpr (hhonoured call hcall)
  rw [hcalls, Versioned]
  cases getter with
  | definition =>
    cases version with
    | none => exact iff_of_true (honours_iff.mpr nofun) rfl
    | some version =>
      simp only [versioned, versionFor]
      rcases getRuntimePayload_cases config s url (some version) with
        ⟨error, hrefused, h⟩ | ⟨formId, hresolved, hjoined⟩
      · rw [h, hrefused]
        exact iff_of_true (honours_iff.mpr nofun) rfl
      · rw [hresolved]
        rcases hjoined with ⟨fetch, hcached, h⟩ | ⟨hmissing, h⟩
        · simp only [h, hcached, Option.bind_some]
          rw [honours_definition]
          cases s.resultOf fetch with
          | none => simp
          | some result => cases result <;> simp
        · have hnone : s.resultOf s.fetches.length = none := by
            rw [resultOf, List.getElem?_eq_none (Nat.le_refl _)]
            rfl
          simp only [h, hmissing, Option.bind_none]
          rw [honours_definition, hnone]
          simp
  | _ => exact iff_of_true (honours_iff.mpr nofun) rfl

theorem honoured_settle (hhonoured : s.Honoured config) (h : s.settle fetch result = some t) :
    t.Honoured config ↔ s.Versioned config (.settle fetch result) := by
  obtain ⟨found, hfound, hopen, hfetches, hcalls, -, -⟩ := settle_cases h
  have hresult : ∀ number, t.resultOf number
      = if number = fetch then some result else s.resultOf number :=
    fun number => resultOf_set hfound hfetches
  rw [Honoured, hcalls, Versioned]
  cases result with
  | error error =>
    refine iff_of_true (fun call hcall => honours_iff.mpr ?_) rfl
    intro version number payload hgetter hversion hnumber hpayload
    rw [hresult] at hpayload
    split at hpayload
    · cases Option.some.inj hpayload
    · exact honours_iff.mp (hhonoured call hcall) version number payload hgetter hversion hnumber
        hpayload
  | ok payload =>
    simp only [versioned, List.all_eq_true]
    refine forall₂_congr fun call hcall => ?_
    rw [honours_iff]
    constructor
    · intro hhonours
      split
      · next version number hgetter hversion hnumber =>
        rw [Bool.or_eq_true, bne_iff_ne]
        by_cases heq : number = fetch
        · refine Or.inr (hhonours version number payload hgetter hversion hnumber ?_)
          rw [hresult, if_pos heq]
        · exact Or.inl heq
      · rfl
    · intro hsuits version number found hgetter hversion hnumber hpayload
      rw [hresult] at hpayload
      split at hpayload
      · next heq =>
        cases hpayload
        simpa [hgetter, hversion, hnumber, heq] using hsuits
      · exact honours_iff.mp (hhonoured call hcall) version number found hgetter hversion hnumber
          hpayload

/-- All getters of a URL and version share one payload, failures are forgotten, and the version is
honoured exactly in the runs whose payloads suit the versions they answer. -/
theorem version_honoured_iff {events : List Event} {states : List HttpDefinitionSource}
    (h : statesOf (step config) opened events = some states) :
    (∀ reached ∈ states, reached.OnePayload ∧ reached.Unpoisoned config)
      ∧ ((∀ reached ∈ states, reached.Honoured config)
        ↔ EveryStep (step config) (Versioned config) opened events) := by
  have hinv : ∀ (s : HttpDefinitionSource) event t, s.Inv config →
      s.step config event = some t → t.Inv config :=
    fun _ _ _ hs hstep => inv_step hs hstep
  constructor
  · have hreached := statesOf_invariant (J := Inv config) (P := fun _ _ => True)
      (fun s event t hs _ hstep => hinv s event t hs hstep) inv_opened
      (everyStep_of_forall fun _ _ _ => trivial) h
    exact fun reached hmem =>
      ⟨onePayload_of_inv (hreached reached hmem), unpoisoned_of_inv (hreached reached hmem)⟩
  · refine statesOf_good_iff hinv ?_ inv_opened (fun _ h => absurd h List.not_mem_nil) h
    intro s event t _ hhonoured hstep
    cases event with
    | call getter url version =>
      cases hstep
      exact honoured_call hhonoured getter url version
    | settle fetch result => exact honoured_settle hhonoured hstep

section Sample

def formUrl : String := "https://forms.example.test/runtime/forms/intake"

def intakeDefinition : Value :=
  .object [("$formspec", .string "1.0"), ("url", .string formUrl), ("version", .string "1.0.0"),
    ("title", .string "Intake"), ("items", .array [])]

def intakePayload : Value :=
  .object [("form_id", .string "intake"), ("definition", intakeDefinition),
    ("theme_document", .object [("$formspecTheme", .string "1.0"), ("version", .string "1")])]

/-- The paths of the URLs that are asked for; digests and texts are not compared here. -/
def sampleConfig : HttpDefinitionSourceConfig where
  formIdResolver := defaultFormIdResolver fun url =>
    if url == formUrl then some "/runtime/forms/intake" else none
  canonicalize _ := none
  computeJcsSha256Digest _ := .error "canonicalize() returned non-string for the supplied value"
  texts := ⟨id, fun value => toString value.num⟩

/-- A fetch fails, and the next one serves the Definition and its documents. -/
def fetchedAgain : List Event :=
  [.call .definition formUrl (some "1.0.0"), .settle 0 (.error "HTTP adapter request failed"),
    .call .definition formUrl (some "1.0.0"), .call .theme formUrl (some "1.0.0"),
    .settle 1 (.ok intakePayload), .call .locales formUrl (some "1.0.0")]

def askedForOther : List Event :=
  [.call .definition formUrl (some "2.0.0"), .settle 0 (.ok intakePayload)]

theorem version_honoured_fetchedAgain :
    ∃ states, statesOf (step sampleConfig) opened fetchedAgain = some states
      ∧ (∃ last, states.getLast? = some last ∧ last.fetches.length = 2 ∧ last.calls.length = 4)
      ∧ (∀ reached ∈ states, reached.OnePayload ∧ reached.Unpoisoned sampleConfig)
      ∧ ∀ reached ∈ states, reached.Honoured sampleConfig := by
  have hrun : ((statesOf (step sampleConfig) opened fetchedAgain).bind fun states =>
      states.getLast?.map fun last => (last.fetches.length, last.calls.length)) = some (2, 4) := by
    decide +kernel
  obtain ⟨states, hstates, hread⟩ := Option.bind_eq_some_iff.mp hrun
  obtain ⟨last, hlast, hlengths⟩ := Option.map_eq_some_iff.mp hread
  obtain ⟨hfetches, hcalls⟩ := Prod.mk.inj hlengths
  have hversioned : EveryStep (step sampleConfig) (Versioned sampleConfig) opened fetchedAgain := by
    decide +kernel
  obtain ⟨hpayloads, hhonoured⟩ := version_honoured_iff hstates
  exact ⟨states, hstates, ⟨last, hlast, hfetches, hcalls⟩, hpayloads, hhonoured.mpr hversioned⟩

/-- The Definition of version 1.0.0 answers a call for version 2.0.0. -/
theorem other_version_returned :
    ∃ states last call definition, statesOf (step sampleConfig) opened askedForOther = some states
      ∧ states.getLast? = some last ∧ call ∈ last.calls ∧ call.version = some "2.0.0"
      ∧ last.answer sampleConfig call = some (.ok (.definition definition))
      ∧ definition.version = "1.0.0" ∧ ¬ last.Honoured sampleConfig := by
  have hdefinition : extractDefinition intakePayload = .ok ⟨intakeDefinition, rfl⟩ := by
    rw [extractDefinition]
    rfl
  have hversion : (FormDefinition.mk intakeDefinition rfl).version = "1.0.0" := rfl
  refine ⟨_, _, _, _, rfl, rfl, List.mem_cons_self, rfl, ?_, hversion, fun hhonoured => ?_⟩
  · exact answer_definition.mpr ⟨rfl, 0, intakePayload, rfl, rfl, hdefinition⟩
  · have heq := hhonoured _ List.mem_cons_self _ rfl _
      (answer_definition.mpr ⟨rfl, 0, intakePayload, rfl, rfl, hdefinition⟩)
    exact absurd (hversion.symm.trans heq) (by decide)

end Sample

end FormspecWeb.Definition.HttpDefinitionSource
