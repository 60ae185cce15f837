import Mathlib.Data.List.Basic
import FormspecWeb.Async.Steps
import FormspecWeb.DraftStore.BindingRegistry
import FormspecWeb.Shared.InsertionMap

/-!
# The draft store of the demo

The drafts stand in one map, under the texts of their key joined by a bar. `list` takes the joined text
apart again, and `invalidateSubject` goes by what it begins with.

The store answers as if each key had a draft of its own, as long as no call meets a draft of another
key that is joined to the same text, or that begins with the subject it asks for. Texts without bars
and without the words for what is lacking never do.
-/

namespace FormspecWeb.DraftStore

open Shared Async

section

variable {Response Fault : Type}

/-- What the store is called for. A save comes with the answer of its guard, if it has one. -/
inductive DraftCall (Response Fault : Type) where
  | load (key : DraftKey)
  | save (key : DraftKey) (response : Response) (assertBeforeDispatch : Except Fault Unit)
  | list (subjectRef : String)
  | delete (key : DraftKey)
  | invalidateSubject (subjectRef : String)

inductive DraftReply (Response Fault : Type) where
  | done
  | refused (error : Fault)
  | loaded (response : Option Response)
  | listed (keys : List DraftKey)
  deriving DecidableEq

def repliesTo {σ : Type} (call : σ → DraftCall Response Fault → DraftReply Response Fault × σ) (s : σ) :
    List (DraftCall Response Fault) → List (DraftReply Response Fault)
  | [] => []
  | next :: calls => (call s next).1 :: repliesTo call (call s next).2 calls

/-- The texts that a key is joined from; what it lacks has a word in its place. -/
def DraftKey.texts (key : DraftKey) : List String :=
  [key.subjectRef.getD "<anon>", key.partyRef.getD "<single>", key.formUrl, key.formVersion.getD "latest"]

def keyStr (key : DraftKey) : List Char := List.intercalate ['|'] (key.texts.map String.toList)

def parts (text : List Char) : List String := (text.splitOn '|').map String.ofList

/-- The key that `list` makes of a joined text, where it is one of the subject. -/
def listedKey (subjectRef : String) (text : List Char) : Option DraftKey :=
  match (parts text)[2]? with
  | none => none
  | some formUrl =>
    if (parts text)[0]? = some subjectRef then
      some {
        formUrl
        subjectRef := some subjectRef
        partyRef := (parts text)[1]?.filter fun partyRef => partyRef != "" && partyRef != "<single>"
        formVersion := (parts text)[3]?.filter fun version => version != "" && version != "latest" }
    else none

def stubDraftStore (store : List (List Char × Response)) :
    DraftCall Response Fault → DraftReply Response Fault × List (List Char × Response)
  | .load key => (.loaded (store.lookup (keyStr key)), store)
  | .save key response assertBeforeDispatch =>
    match assertBeforeDispatch with
    | .error error => (.refused error, store)
    | .ok () => (.done, setEntry (keyStr key) response store)
  | .list subjectRef => (.listed (store.filterMap fun entry => listedKey subjectRef entry.1), store)
  | .delete key => (.done, deleteEntry (keyStr key) store)
  | .invalidateSubject subjectRef =>
    (.done, store.filter fun entry => !(subjectRef.toList ++ ['|']).isPrefixOf entry.1)

/-! ## Separate drafts

What the port asks for: each key has a draft of its own, and each subject has the drafts of its keys. -/

def separateDrafts (drafts : List (DraftKey × Response)) :
    DraftCall Response Fault → DraftReply Response Fault × List (DraftKey × Response)
  | .load key => (.loaded (drafts.lookup key), drafts)
  | .save key response assertBeforeDispatch =>
    match assertBeforeDispatch with
    | .error error => (.refused error, drafts)
    | .ok () => (.done, setEntry key response drafts)
  | .list subjectRef =>
    (.listed ((drafts.map (·.1)).filter fun key => key.subjectRef == some subjectRef), drafts)
  | .delete key => (.done, deleteEntry key drafts)
  | .invalidateSubject subjectRef =>
    (.done, drafts.filter fun draft => !draft.1.subjectRef == some subjectRef)

end

variable {Response Fault : Type} {drafts : List (DraftKey × Response)} {key : DraftKey}
  {subjectRef : String} {text : List Char}

structure Readable (key : DraftKey) : Prop where
  bare : ∀ text ∈ key.texts, '|' ∉ text.toList
  party : key.partyRef ≠ some "" ∧ key.partyRef ≠ some "<single>"
  version : key.formVersion ≠ some "" ∧ key.formVersion ≠ some "latest"

def Apart (drafts : List (DraftKey × Response)) : DraftCall Response Fault → Prop
  | .load key => ∀ draft ∈ drafts, keyStr draft.1 = keyStr key → draft.1 = key
  | .save _ _ (.error _) => True
  | .save key _ (.ok _) => ∀ draft ∈ drafts, keyStr draft.1 = keyStr key → draft.1 = key
  | .delete key => ∀ draft ∈ drafts, keyStr draft.1 = keyStr key → draft.1 = key
  | .list subjectRef => ∀ draft ∈ drafts,
      if draft.1.subjectRef = some subjectRef then Readable draft.1
      else (parts (keyStr draft.1))[0]? ≠ some subjectRef
  | .invalidateSubject subjectRef => ∀ draft ∈ drafts,
      subjectRef.toList ++ ['|'] <+: keyStr draft.1 → draft.1.subjectRef = some subjectRef

theorem parts_keyStr (h : ∀ text ∈ key.texts, '|' ∉ text.toList) : parts (keyStr key) = key.texts := by
  rw [parts, keyStr, List.splitOn_intercalate]
  · rw [List.map_map]
    exact List.map_id'' (fun text => String.ofList_toList) _
  · intro found hfound
    obtain ⟨text, htext, rfl⟩ := List.mem_map.mp hfound
    exact h text htext
  · exact List.cons_ne_nil _ _

theorem filter_getD {found : Option String} {word : String} (hempty : found ≠ some "")
    (hword : found ≠ some word) :
    (some (found.getD word)).filter (fun text => text != "" && text != word) = found := by
  cases found with
  | none => simp
  | some text =>
    have h : text ≠ "" ∧ text ≠ word := ⟨fun h => hempty (h ▸ rfl), fun h => hword (h ▸ rfl)⟩
    simp [h]

theorem listedKey_readable (h : Readable key) (hsubject : key.subjectRef = some subjectRef) :
    listedKey subjectRef (keyStr key) = some key := by
  have hfirst : (parts (keyStr key))[0]? = some subjectRef := by
    rw [parts_keyStr h.bare, DraftKey.texts, hsubject]
    rfl
  have hform : (parts (keyStr key))[2]? = some key.formUrl := by rw [parts_keyStr h.bare]; rfl
  have hparty : (parts (keyStr key))[1]? = some (key.partyRef.getD "<single>") := by
    rw [parts_keyStr h.bare]
    rfl
  have hversion : (parts (keyStr key))[3]? = some (key.formVersion.getD "latest") := by
    rw [parts_keyStr h.bare]
    rfl
  unfold listedKey
  rw [hform, hparty, hversion, filter_getD h.party.1 h.party.2, filter_getD h.version.1 h.version.2]
  simp only
  rw [if_pos hfirst, ← hsubject]

theorem listedKey_other (h : (parts text)[0]? ≠ some subjectRef) : listedKey subjectRef text = none := by
  unfold listedKey
  split
  · rfl
  · rw [if_neg h]

theorem subject_prefix (h : key.subjectRef = some subjectRef) :
    subjectRef.toList ++ ['|'] <+: keyStr key := by
  rw [keyStr, DraftKey.texts, h, List.map_cons, List.map_cons, List.intercalate_cons_cons]
  exact List.prefix_append _ _

theorem listed_eq (h : Apart drafts (.list subjectRef : DraftCall Response Fault)) :
    (mapKeys keyStr drafts).filterMap (fun entry => listedKey subjectRef entry.1)
      = (drafts.map (·.1)).filter fun key => key.subjectRef == some subjectRef := by
  induction drafts with
  | nil => rfl
  | cons draft rest ih =>
    obtain ⟨hdraft, hrest⟩ := List.forall_mem_cons.mp h
    have htail := ih hrest
    rw [mapKeys] at htail
    rw [mapKeys, List.map_cons, List.filterMap_cons, List.map_cons, List.filter_cons]
    by_cases hsubject : draft.1.subjectRef = some subjectRef
    · rw [if_pos hsubject] at hdraft
      rw [listedKey_readable hdraft hsubject, if_pos (beq_iff_eq.mpr hsubject)]
      exact congrArg _ htail
    · rw [if_neg hsubject] at hdraft
      rw [listedKey_other hdraft, if_neg (by simpa using hsubject)]
      exact htail

theorem invalidated_eq (h : Apart drafts (.invalidateSubject subjectRef : DraftCall Response Fault)) :
    (mapKeys keyStr drafts).filter (fun entry => !(subjectRef.toList ++ ['|']).isPrefixOf entry.1)
      = mapKeys keyStr (drafts.filter fun draft => !draft.1.subjectRef == some subjectRef) := by
  rw [mapKeys, List.filter_map]
  refine congrArg _ (List.filter_congr fun draft hdraft => ?_)
  have hiff : (subjectRef.toList ++ ['|']).isPrefixOf (keyStr draft.1)
      = (draft.1.subjectRef == some subjectRef) := by
    rw [Bool.eq_iff_iff, List.isPrefixOf_iff_prefix, beq_iff_eq]
    exact ⟨h draft hdraft, subject_prefix⟩
  rw [Function.comp_apply, hiff]

variable {call : DraftCall Response Fault}

theorem stubDraftStore_eq (h : Apart drafts call) :
    stubDraftStore (mapKeys keyStr drafts) call
      = ((separateDrafts drafts call).1, mapKeys keyStr (separateDrafts drafts call).2) := by
  cases call with
  | load key => simp only [stubDraftStore, separateDrafts, lookup_mapKeys h]
  | save key response assertBeforeDispatch =>
    cases assertBeforeDispatch with
    | error error => rfl
    | ok admitted => simp only [stubDraftStore, separateDrafts, setEntry_mapKeys h]
  | list subjectRef => simp only [stubDraftStore, separateDrafts, listed_eq h]
  | delete key => simp only [stubDraftStore, separateDrafts, deleteEntry_mapKeys h]
  | invalidateSubject subjectRef => simp only [stubDraftStore, separateDrafts, invalidated_eq h]

def afterCall (drafts : List (DraftKey × Response)) (call : DraftCall Response Fault) :
    Option (List (DraftKey × Response)) :=
  some (separateDrafts drafts call).2

theorem repliesTo_eq {calls : List (DraftCall Response Fault)} (h : EveryStep afterCall Apart drafts calls) :
    repliesTo stubDraftStore (mapKeys keyStr drafts) calls = repliesTo separateDrafts drafts calls := by
  induction calls generalizing drafts with
  | nil => rfl
  | cons call calls ih =>
    rw [repliesTo, repliesTo, stubDraftStore_eq h.1]
    exact congrArg _ (ih (h.2 _ rfl))

/-- The store answers each call as if every key had a draft of its own. -/
theorem stub_drafts_separate {calls : List (DraftCall Response Fault)}
    (h : EveryStep afterCall Apart [] calls) :
    repliesTo stubDraftStore [] calls = repliesTo separateDrafts [] calls :=
  repliesTo_eq h

/-! ## Plain texts -/

def PlainSubject (subjectRef : String) : Prop := '|' ∉ subjectRef.toList ∧ subjectRef ≠ "<anon>"

def PlainKey (key : DraftKey) : Prop := Readable key ∧ key.subjectRef ≠ some "<anon>"

theorem texts_injective {other : DraftKey} (hkey : PlainKey key) (hother : PlainKey other)
    (h : key.texts = other.texts) : key = other := by
  have hword : ∀ {found sought : Option String} {word : String}, found ≠ some word → sought ≠ some word →
      found.getD word = sought.getD word → found = sought := by
    intro found sought word hfound hsought heq
    cases found <;> cases sought <;> simp_all
  simp only [DraftKey.texts, List.cons.injEq, and_true] at h
  obtain ⟨hsubject, hparty, hurl, hversion⟩ := h
  have hsubjects := hword hkey.2 hother.2 hsubject
  have hparties := hword hkey.1.party.2 hother.1.party.2 hparty
  have hversions := hword hkey.1.version.2 hother.1.version.2 hversion
  cases key
  cases other
  simp_all

theorem keyStr_injective {other : DraftKey} (hkey : PlainKey key) (hother : PlainKey other)
    (h : keyStr key = keyStr other) : key = other := by
  apply texts_injective hkey hother
  rw [← parts_keyStr hkey.1.bare, ← parts_keyStr hother.1.bare, h]

theorem first_part (hbare : '|' ∉ subjectRef.toList) (h : subjectRef.toList ++ ['|'] <+: text) :
    (parts text)[0]? = some subjectRef := by
  obtain ⟨rest, rfl⟩ := h
  rw [parts, List.append_assoc, List.singleton_append, List.splitOn_append_cons_self_of_not_mem hbare]
  simp

theorem first_plain (hkey : PlainKey key) (hsubject : PlainSubject subjectRef)
    (h : (parts (keyStr key))[0]? = some subjectRef) : key.subjectRef = some subjectRef := by
  rw [parts_keyStr hkey.1.bare] at h
  have hgetD : key.subjectRef.getD "<anon>" = subjectRef := Option.some.inj h
  cases hfound : key.subjectRef with
  | none =>
    rw [hfound] at hgetD
    exact absurd hgetD.symm hsubject.2
  | some found =>
    rw [hfound] at hgetD
    exact congrArg some hgetD

def PlainCall : DraftCall Response Fault → Prop
  | .load key | .save key _ _ | .delete key => PlainKey key
  | .list subjectRef | .invalidateSubject subjectRef => PlainSubject subjectRef

theorem plain_apart (hdrafts : ∀ draft ∈ drafts, PlainKey draft.1)
    (h : PlainCall call) : Apart drafts call := by
  have hkeys : ∀ {key : DraftKey}, PlainKey key →
      ∀ draft ∈ drafts, keyStr draft.1 = keyStr key → draft.1 = key :=
    fun hkey draft hdraft => keyStr_injective (hdrafts draft hdraft) hkey
  cases call with
  | load key => exact hkeys h
  | save key response assertBeforeDispatch =>
    cases assertBeforeDispatch with
    | error error => trivial
    | ok admitted => exact hkeys h
  | delete key => exact hkeys h
  | list subjectRef =>
    intro draft hdraft
    split
    · exact (hdrafts draft hdraft).1
    · next hne => exact fun hfirst => hne (first_plain (hdrafts draft hdraft) h hfirst)
  | invalidateSubject subjectRef =>
    exact fun draft hdraft hprefix => first_plain (hdrafts draft hdraft) h (first_part h.1 hprefix)

theorem plain_after (hdrafts : ∀ draft ∈ drafts, PlainKey draft.1)
    (h : PlainCall call) : ∀ draft ∈ (separateDrafts drafts call).2, PlainKey draft.1 := by
  cases call with
  | load key => exact hdrafts
  | save key response assertBeforeDispatch =>
    cases assertBeforeDispatch with
    | error error => exact hdrafts
    | ok admitted =>
      intro draft hdraft
      rcases mem_setEntry hdraft with ⟨hkey, -⟩ | hold
      · exact hkey ▸ h
      · exact hdrafts draft hold
  | delete key => exact fun draft hdraft => hdrafts draft (mem_deleteEntry.mp hdraft).1
  | list subjectRef => exact hdrafts
  | invalidateSubject subjectRef => exact fun draft hdraft => hdrafts draft (List.mem_of_mem_filter hdraft)

theorem plain_calls_apart {calls : List (DraftCall Response Fault)} (h : ∀ call ∈ calls, PlainCall call) :
    EveryStep afterCall Apart [] calls := by
  have hplain : EveryStep afterCall (fun _ call => PlainCall call) [] calls :=
    everyStep_of_forall fun call hcall _ => h call hcall
  have hstart : ∀ draft ∈ ([] : List (DraftKey × Response)), PlainKey draft.1 := by
    intro draft hdraft
    cases hdraft
  refine everyStep_of_invariant (J := fun drafts => ∀ draft ∈ drafts, PlainKey draft.1) ?_ ?_ hstart hplain
  · intro drafts call next hdrafts hcall hnext
    exact Option.some.inj hnext ▸ plain_after hdrafts hcall
  · exact fun drafts call hdrafts hcall => plain_apart hdrafts hcall

def barredDraft : DraftKey := ⟨"urn:form", some "1.0.0", some "alice|work", none⟩

theorem barred_draft_deleted :
    repliesTo (@stubDraftStore Nat Unit) []
        [.save barredDraft 1 (.ok ()), .invalidateSubject "alice", .load barredDraft]
      ≠ repliesTo separateDrafts []
        [.save barredDraft 1 (.ok ()), .invalidateSubject "alice", .load barredDraft] := by
  decide

theorem stub_drafts_separate_two :
    repliesTo (@stubDraftStore Nat Unit) []
        [.save ⟨"urn:form", some "1.0.0", some "alice", none⟩ 1 (.ok ()),
          .save ⟨"urn:form", some "1.0.0", some "bob", some "spouse"⟩ 2 (.ok ()),
          .invalidateSubject "alice", .list "alice", .list "bob",
          .load ⟨"urn:form", some "1.0.0", some "bob", some "spouse"⟩]
      = [.done, .done, .done, .listed [],
          .listed [⟨"urn:form", some "1.0.0", some "bob", some "spouse"⟩], .loaded (some 2)] := by
  refine (stub_drafts_separate (plain_calls_apart ?_)).trans (by decide)
  have hreadable : ∀ key : DraftKey, key = ⟨"urn:form", some "1.0.0", some "alice", none⟩
      ∨ key = ⟨"urn:form", some "1.0.0", some "bob", some "spouse"⟩ → PlainKey key := by
    rintro key (rfl | rfl) <;> exact ⟨⟨by decide, by decide, by decide⟩, by decide⟩
  simp only [List.forall_mem_cons, PlainCall]
  exact ⟨hreadable _ (Or.inl rfl), hreadable _ (Or.inr rfl), ⟨by decide, by decide⟩,
    ⟨by decide, by decide⟩, ⟨by decide, by decide⟩, hreadable _ (Or.inr rfl), by simp⟩

end FormspecWeb.DraftStore
