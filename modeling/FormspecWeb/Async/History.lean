import Mathlib.Data.List.Infix

/-!
# Histories

A history lists what happened, newest entry first. `Throughout` says that every
entry was fine given what had happened before it, which is how a safety property
of a run is stated on its history.
-/

namespace FormspecWeb.Async

variable {α : Type} {P Q : α → List α → Prop} {e : α} {es : List α}

/-- Every entry of a history stood so to the entries older than it. -/
def Throughout (P : α → List α → Prop) (es : List α) : Prop :=
  ∀ e older, e :: older <:+ es → P e older

@[simp] theorem throughout_nil : Throughout P [] := by
  intro e older h
  cases List.suffix_nil.mp h

@[simp] theorem throughout_cons : Throughout P (e :: es) ↔ P e es ∧ Throughout P es := by
  constructor
  · intro h
    exact ⟨h e es (List.suffix_refl _), fun e' older hsuffix =>
      h e' older (hsuffix.trans (List.suffix_cons e es))⟩
  · rintro ⟨hhead, htail⟩ e' older hsuffix
    rcases List.suffix_cons_iff.mp hsuffix with heq | hsuffix
    · cases heq
      exact hhead
    · exact htail e' older hsuffix

theorem Throughout.extend {es' : List α} (h : Throughout P es)
    (hstep : es' = es ∨ ∃ e, es' = e :: es ∧ P e es) : Throughout P es' := by
  rcases hstep with rfl | ⟨e, rfl, he⟩
  · exact h
  · exact throughout_cons.mpr ⟨he, h⟩

variable {as : List α}

theorem of_getElem?_concat {a b : α} {i : Nat} (h : (as ++ [a])[i]? = some b) :
    as[i]? = some b ∨ i = as.length ∧ b = a := by
  rcases Nat.lt_or_ge i as.length with hlt | hge
  · rw [List.getElem?_append_left hlt] at h
    exact Or.inl h
  · rw [List.getElem?_append_right hge, List.getElem?_singleton] at h
    split at h
    · exact Or.inr ⟨by omega, (Option.some.inj h).symm⟩
    · cases h

theorem getElem?_concat_of {a b : α} {i : Nat} (h : as[i]? = some b) :
    (as ++ [a])[i]? = some b := by
  rw [List.getElem?_append_left (List.getElem?_eq_some_iff.mp h).1, h]

theorem of_getElem?_set {a b : α} {i j : Nat} (h : (as.set i a)[j]? = some b) :
    j = i ∧ b = a ∨ j ≠ i ∧ as[j]? = some b := by
  by_cases hij : j = i
  · subst hij
    have hlt : j < as.length := by simpa using (List.getElem?_eq_some_iff.mp h).1
    rw [List.getElem?_set_self hlt] at h
    exact Or.inl ⟨rfl, (Option.some.inj h).symm⟩
  · rw [List.getElem?_set_ne (Ne.symm hij)] at h
    exact Or.inr ⟨hij, h⟩

theorem countP_set_of {a b : α} {i : Nat} {p : α → Bool} (h : as[i]? = some b) :
    (as.set i a).countP p + (if p b then 1 else 0) = as.countP p + (if p a then 1 else 0) := by
  obtain ⟨hlt, hb⟩ := List.getElem?_eq_some_iff.mp h
  have hle : (if p as[i] then 1 else 0) ≤ as.countP p := by
    split
    · next hp => exact List.countP_pos_iff.mpr ⟨as[i], List.getElem_mem hlt, hp⟩
    · exact Nat.zero_le _
  rw [List.countP_set hlt, hb]
  rw [hb] at hle
  omega

variable {owners later : List Nat} {n m t u : Nat}

theorem owner_lt (hn : owners[n]? = some t) : n < owners.length :=
  (List.getElem?_eq_some_iff.mp hn).1

theorem owner_mono (h : owners <+: later) (hn : owners[n]? = some t) : later[n]? = some t := by
  obtain ⟨rest, rfl⟩ := h
  rw [List.getElem?_append_left (owner_lt hn), hn]

theorem lt_of_begin (hn : n < owners.length) : n < (owners ++ [t]).length := by
  rw [List.length_append]
  exact Nat.lt_add_right 1 hn

theorem owner_ne (hn : owners[n]? = some t) (hm : owners[m]? = some u) (hne : u ≠ t) : m ≠ n := by
  rintro rfl
  rw [hn] at hm
  exact hne (Option.some.inj hm).symm

theorem owner_of_begin : (owners ++ [t])[owners.length]? = some t := by simp

end FormspecWeb.Async
