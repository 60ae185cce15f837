import FormspecWeb.MultiParty.Policy
import FormspecWeb.Shared.Text
import Mathlib.Data.List.Nodup
import Mathlib.Data.List.Pairwise

/-!
# Party slots

The slots of the signers a policy requires, and when the references of two of them are the
same text.
-/

namespace FormspecWeb.MultiParty

open Shared

abbrev Failure := String

structure MultiPartyPartySlot where
  partyRef : String
  roleId : String
  label : Value

/-- `text.replace(/[-_:]+/g, ' ')`. -/
def spaceSeparators : List Char → List Char
  | [] => []
  | c :: cs =>
    let rest := spaceSeparators cs
    if c == '-' || c == '_' || c == ':' then
      -- the blank of a run of separators is the one of its last
      match cs with
      | d :: _ => if d == '-' || d == '_' || d == ':' then rest else ' ' :: rest
      | [] => [' ']
    else c :: rest

/-- `\\w`. -/
def isWordCharacter (c : Char) : Bool := isAsciiLetter c || isAsciiDigit c || c == '_'

/-- `text.replace(/\\b\\w/g, (letter) => letter.toUpperCase())`, after this character. -/
def capitalizeWords (previous : Option Char) : List Char → List Char
  | [] => []
  | c :: cs =>
    (if isWordCharacter c && !previous.any isWordCharacter then c.toUpper else c)
      :: capitalizeWords (some c) cs

def labelFromPartyRef (partyRef : String) : String :=
  String.ofList (capitalizeWords none (spaceSeparators partyRef.toList))

example : labelFromPartyRef "co-signer_:2" = "Co Signer 2" := by decide

/-! ## Slots -/

def maxArrayLength : Nat := 4294967295

def slotRef (party : MultiPartyRolePolicy) (index : Nat) : String :=
  if party.min = 1 then party.roleId else party.roleId ++ ":" ++ toString (index + 1)

/-- `party.label ?? labelFromPartyRef(partyRef)`. -/
def slotLabel (party : MultiPartyRolePolicy) (partyRef : String) : Value :=
  match party.label with
  | none | some .null => .string (labelFromPartyRef partyRef)
  | some label => label

def partySlot (party : MultiPartyRolePolicy) (index : Nat) : MultiPartyPartySlot :=
  let partyRef := slotRef party index
  { partyRef := partyRef, roleId := party.roleId, label := slotLabel party partyRef }

/-- `Array.from({ length }, ..)`, which throws for a length no array has. -/
def partySlots (party : MultiPartyRolePolicy) : Except Failure (List MultiPartyPartySlot) := do
  failIf (maxArrayLength < party.min) "Invalid array length"
  return (List.range party.min).map (partySlot party)

def requiredMultiPartySlots (policy : ResolvedMultiPartyPolicy) :
    Except Failure (List MultiPartyPartySlot) := do
  let slots ← policy.parties.mapM partySlots
  return slots.flatten

def Enumerable (policy : ResolvedMultiPartyPolicy) : Prop :=
  ∀ party ∈ policy.parties, party.min ≤ maxArrayLength

instance (policy : ResolvedMultiPartyPolicy) : Decidable (Enumerable policy) :=
  inferInstanceAs (Decidable (∀ party ∈ policy.parties, party.min ≤ maxArrayLength))

def slotsOf (party : MultiPartyRolePolicy) : List MultiPartyPartySlot :=
  (List.range party.min).map (partySlot party)

variable {party : MultiPartyRolePolicy}

theorem partySlots_ok {slots : List MultiPartyPartySlot} :
    partySlots party = .ok slots ↔ party.min ≤ maxArrayLength ∧ slots = slotsOf party := by
  rw [partySlots, failIf_bind_ok, decide_eq_false_iff_not, Nat.not_lt]
  exact and_congr_right fun _ => ⟨fun h => (Except.ok.inj h).symm, fun h => congrArg _ h.symm⟩

theorem requiredMultiPartySlots_ok {policy : ResolvedMultiPartyPolicy}
    {slots : List MultiPartyPartySlot} :
    requiredMultiPartySlots policy = .ok slots
      ↔ Enumerable policy ∧ slots = policy.parties.flatMap slotsOf := by
  have hroles : ∀ (parties : List MultiPartyRolePolicy) (found : List (List MultiPartyPartySlot)),
      parties.mapM partySlots = .ok found
        ↔ (∀ party ∈ parties, party.min ≤ maxArrayLength) ∧ found = parties.map slotsOf := by
    intro parties found
    rw [mapM_ok]
    simp only [partySlots_ok]
    constructor
    · intro h
      induction h with
      | nil => exact ⟨by simp, rfl⟩
      | cons hhead _ ih =>
        exact ⟨List.forall_mem_cons.mpr ⟨hhead.1, ih.1⟩, by rw [hhead.2, ih.2, List.map_cons]⟩
    · rintro ⟨hall, rfl⟩
      exact List.forall₂_map_right_iff.mpr (List.forall₂_same.mpr fun party hmem =>
        ⟨hall party hmem, rfl⟩)
  rw [requiredMultiPartySlots, sequence_ok]
  constructor
  · rintro ⟨found, hfound, heq⟩
    obtain ⟨hall, rfl⟩ := (hroles _ _).mp hfound
    exact ⟨hall, (Except.ok.inj heq).symm.trans List.flatMap_def.symm⟩
  · rintro ⟨hall, rfl⟩
    exact ⟨_, (hroles _ _).mpr ⟨hall, rfl⟩, congrArg Except.ok List.flatMap_def.symm⟩

theorem mem_slotsOf {slot : MultiPartyPartySlot} :
    slot ∈ slotsOf party ↔ ∃ index < party.min, partySlot party index = slot := by
  simp [slotsOf]

theorem slots_of_role {parties : List MultiPartyRolePolicy}
    (h : (parties.map (·.roleId)).Nodup) (hparty : party ∈ parties) :
    (parties.flatMap slotsOf).filter (·.roleId == party.roleId) = slotsOf party := by
  induction parties with
  | nil => cases hparty
  | cons first parties ih =>
    obtain ⟨hfirst, hrest⟩ := List.nodup_cons.mp h
    rw [List.flatMap_cons, List.filter_append]
    rcases List.mem_cons.mp hparty with rfl | htail
    · have hown : (slotsOf party).filter (·.roleId == party.roleId) = slotsOf party := by
        refine List.filter_eq_self.mpr fun slot hslot => ?_
        obtain ⟨index, -, rfl⟩ := mem_slotsOf.mp hslot
        exact beq_self_eq_true party.roleId
      have hothers : (parties.flatMap slotsOf).filter (·.roleId == party.roleId) = [] := by
        refine List.filter_eq_nil_iff.mpr fun slot hslot heq => ?_
        obtain ⟨other, hother, hof⟩ := List.mem_flatMap.mp hslot
        obtain ⟨index, -, rfl⟩ := mem_slotsOf.mp hof
        exact hfirst (List.mem_map.mpr ⟨other, hother, eq_of_beq heq⟩)
      rw [hown, hothers, List.append_nil]
    · have hfirstNone : (slotsOf first).filter (·.roleId == party.roleId) = [] := by
        refine List.filter_eq_nil_iff.mpr fun slot hslot heq => ?_
        obtain ⟨index, -, rfl⟩ := mem_slotsOf.mp hslot
        exact hfirst (List.mem_map.mpr ⟨party, htail, (eq_of_beq heq).symm⟩)
      rw [hfirstNone, List.nil_append, ih hrest htail]

/-! ## References that coincide -/

/-- The role is named like a slot of another role, and so shares its reference. -/
def NamedLikeSlot (party other : MultiPartyRolePolicy) : Prop :=
  party.min = 1 ∧ other.min ≠ 1
    ∧ ∃ index < other.min, party.roleId = other.roleId ++ ":" ++ toString (index + 1)

/-- No role that needs one signer is named like a slot of a role that needs several. -/
def Unambiguous (policy : ResolvedMultiPartyPolicy) : Prop :=
  ∀ party ∈ policy.parties, ∀ other ∈ policy.parties, ¬NamedLikeSlot party other

instance (party other : MultiPartyRolePolicy) : Decidable (NamedLikeSlot party other) :=
  inferInstanceAs (Decidable (_ ∧ _ ∧ ∃ index < other.min,
    party.roleId = other.roleId ++ ":" ++ toString (index + 1)))

instance (policy : ResolvedMultiPartyPolicy) : Decidable (Unambiguous policy) :=
  inferInstanceAs (Decidable (∀ party ∈ policy.parties, ∀ other ∈ policy.parties, ¬_))

theorem colon_notMem_toString (n : Nat) : ':' ∉ (toString n).toList := by
  intro h
  rw [Nat.toString_eq_repr, Nat.toList_repr] at h
  exact absurd (Nat.isDigit_of_mem_toDigits (by decide) (by decide) h) (by decide)

theorem toString_injective {m n : Nat} (h : toString m = toString n) : m = n := by
  have hdigits : Nat.toDigits 10 m = Nat.toDigits 10 n := by
    rw [← Nat.toList_repr, ← Nat.toList_repr, ← Nat.toString_eq_repr, ← Nat.toString_eq_repr, h]
  rw [← Nat.ofDigitChars_ten_toDigits (n := m), hdigits, Nat.ofDigitChars_ten_toDigits]

theorem last_separator {α : Type} {separator : α} {first second rest other : List α}
    (hrest : separator ∉ rest) (hother : separator ∉ other)
    (h : first ++ separator :: rest = second ++ separator :: other) :
    first = second ∧ rest = other := by
  rcases List.append_eq_append_iff.mp h with ⟨between, rfl, htail⟩ | ⟨between, rfl, htail⟩
  · cases between with
    | nil => exact ⟨(List.append_nil _).symm, List.tail_eq_of_cons_eq htail⟩
    | cons _ between =>
      refine absurd ?_ hrest
      rw [List.tail_eq_of_cons_eq htail]
      simp
  · cases between with
    | nil => exact ⟨List.append_nil _, (List.tail_eq_of_cons_eq htail).symm⟩
    | cons _ between =>
      refine absurd ?_ hother
      rw [List.tail_eq_of_cons_eq htail]
      simp

theorem numbered_injective {first second : String} {m n : Nat}
    (h : first ++ ":" ++ toString m = second ++ ":" ++ toString n) : first = second ∧ m = n := by
  have hlists := congrArg String.toList h
  simp only [String.toList_append, List.append_assoc] at hlists
  obtain ⟨hfirst, hnumber⟩ := last_separator (colon_notMem_toString m) (colon_notMem_toString n)
    hlists
  exact ⟨String.toList_inj.mp hfirst, toString_injective (String.toList_inj.mp hnumber)⟩

theorem slotRef_injective {index other : Nat}
    (hindex : index < party.min) (hother : other < party.min)
    (h : slotRef party index = slotRef party other) : index = other := by
  unfold slotRef at h
  split at h
  · omega
  · exact Nat.succ.inj (numbered_injective h).2

theorem slotRef_shared {party other : MultiPartyRolePolicy} (hname : party.roleId ≠ other.roleId)
    {index position : Nat} (hindex : index < party.min) (hposition : position < other.min)
    (h : slotRef party index = slotRef other position) :
    NamedLikeSlot party other ∨ NamedLikeSlot other party := by
  unfold slotRef at h
  split at h <;> split at h
  · exact absurd h hname
  · exact .inl ⟨‹_›, ‹_›, position, hposition, h⟩
  · exact .inr ⟨‹_›, ‹_›, index, hindex, h.symm⟩
  · exact absurd (numbered_injective h).1 hname

def refsOf (party : MultiPartyRolePolicy) : List String :=
  (List.range party.min).map (slotRef party)

theorem mem_refsOf {ref : String} :
    ref ∈ refsOf party ↔ ∃ index < party.min, slotRef party index = ref := by
  simp [refsOf]

theorem slots_refs (parties : List MultiPartyRolePolicy) :
    (parties.flatMap slotsOf).map (·.partyRef) = parties.flatMap refsOf := by
  rw [List.map_flatMap]
  refine List.flatMap_congr fun party _ => ?_
  rw [slotsOf, List.map_map]
  rfl

theorem NamedLikeSlot.shared {party other : MultiPartyRolePolicy} (h : NamedLikeSlot party other) :
    party.roleId ∈ refsOf party ∧ party.roleId ∈ refsOf other := by
  obtain ⟨hone, hmany, index, hindex, hname⟩ := h
  refine ⟨mem_refsOf.mpr ⟨0, by omega, ?_⟩, mem_refsOf.mpr ⟨index, hindex, ?_⟩⟩
  · rw [slotRef, if_pos hone]
  · rw [slotRef, if_neg hmany, hname]

theorem slotRefs_nodup_iff {policy : ResolvedMultiPartyPolicy} (h : WellFormed policy) :
    ((policy.parties.flatMap slotsOf).map (·.partyRef)).Nodup ↔ Unambiguous policy := by
  rw [slots_refs, List.nodup_flatMap]
  constructor
  · rintro ⟨-, hapart⟩ party hparty other hother hnamed
    have hne : party ≠ other := fun heq => hnamed.2.1 (heq ▸ hnamed.1)
    have : Std.Symm (Function.onFun List.Disjoint refsOf) :=
      ⟨fun _ _ hdisjoint _ hmine htheirs => hdisjoint htheirs hmine⟩
    exact hapart.forall hparty hother hne hnamed.shared.1 hnamed.shared.2
  · intro hunambiguous
    refine ⟨fun party _ => ?_, ?_⟩
    · refine List.Nodup.map_on (fun index hindex other hother heq => ?_) List.nodup_range
      exact slotRef_injective (List.mem_range.mp hindex) (List.mem_range.mp hother) heq
    · refine (List.pairwise_map.mp h.distinct).imp_of_mem fun {party other} hparty hother hname => ?_
      intro ref hmine htheirs
      obtain ⟨index, hindex, hleft⟩ := mem_refsOf.mp hmine
      obtain ⟨position, hposition, hright⟩ := mem_refsOf.mp htheirs
      rcases slotRef_shared hname hindex hposition (hleft.trans hright.symm) with hnamed | hnamed
      · exact hunambiguous party hparty other hother hnamed
      · exact hunambiguous other hother party hparty hnamed

end FormspecWeb.MultiParty
