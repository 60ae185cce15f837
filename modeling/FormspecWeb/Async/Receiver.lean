import Mathlib.Data.List.Perm.Subperm

/-!
# Receivers that deduplicate

A receiver that accepts the first request of every key and ignores the others,
however often and in whatever order the network delivers them.
-/

namespace FormspecWeb.Async

variable {α κ : Type} [DecidableEq κ]

/-- Accept a request unless one of its key was accepted before. -/
def receive (key : α → κ) (accepted : List α) (request : α) : List α :=
  if key request ∈ accepted.map key then accepted else request :: accepted

/-- The requests accepted out of the delivered ones. -/
def received (key : α → κ) (delivered : List α) : List α := delivered.foldl (receive key) []

theorem foldl_receive (key : α → κ) (delivered accepted : List α)
    (hnodup : (accepted.map key).Nodup) :
    ((delivered.foldl (receive key) accepted).map key).Nodup
      ∧ ∀ request ∈ delivered.foldl (receive key) accepted,
        request ∈ accepted ∨ request ∈ delivered := by
  induction delivered generalizing accepted with
  | nil => exact ⟨hnodup, fun request h => .inl h⟩
  | cons request rest ih =>
    have hstep : ((receive key accepted request).map key).Nodup := by
      unfold receive
      split
      · exact hnodup
      · rename_i hnew
        exact List.nodup_cons.mpr ⟨hnew, hnodup⟩
    obtain ⟨hkeys, hmem⟩ := ih _ hstep
    refine ⟨hkeys, fun other hother => ?_⟩
    rcases hmem other hother with haccepted | hrest
    · unfold receive at haccepted
      split at haccepted
      · exact .inl haccepted
      · rcases List.mem_cons.mp haccepted with rfl | hold
        · exact .inr List.mem_cons_self
        · exact .inl hold
    · exact .inr (List.mem_cons_of_mem _ hrest)

theorem received_length_le {key : α → κ} {delivered : List α} {k : κ}
    (h : ∀ request ∈ delivered, key request = k) : (received key delivered).length ≤ 1 := by
  obtain ⟨hnodup, hmem⟩ := foldl_receive key delivered [] List.nodup_nil
  have hkeys : (received key delivered).map key ⊆ [k] := by
    intro k' hk'
    rw [List.mem_singleton]
    obtain ⟨request, hrequest, rfl⟩ := List.mem_map.mp hk'
    exact h request ((hmem request hrequest).resolve_left (by simp))
  simpa [received] using (hnodup.subperm hkeys).length_le

end FormspecWeb.Async
