import Mathlib.Data.List.Forall2

/-!
# Checks

Sequences of checks that stop at the first failure, and what their success says.
-/

namespace FormspecWeb.Shared

variable {ε α β : Type}

/-- `if (condition) throw error`. -/
def failIf (condition : Bool) (error : ε) : Except ε Unit :=
  if condition then .error error else .ok ()

@[simp] theorem failIf_ok {condition : Bool} {error : ε} {u : Unit} :
    failIf condition error = .ok u ↔ condition = false := by
  cases condition <;> simp [failIf]

@[simp] theorem failIf_bind_ok {condition : Bool} {error : ε} {f : Unit → Except ε α} {a : α} :
    (failIf condition error >>= f) = .ok a ↔ condition = false ∧ f () = .ok a := by
  cases condition <;> simp [failIf, bind, Except.bind]

theorem sequence_ok {x : Except ε α} {f : α → Except ε β} {b : β} :
    (x >>= f) = .ok b ↔ ∃ a, x = .ok a ∧ f a = .ok b := by
  cases x <;> simp [bind, Except.bind]

theorem then_ok {x : Except ε Unit} {f : Unit → Except ε β} {b : β} :
    (x >>= f) = .ok b ↔ x = .ok () ∧ f () = .ok b := by
  cases x <;> simp [bind, Except.bind]

/-- `if (a !== undefined) check(a)`. -/
def checkPresent (check : α → Except ε Unit) : Option α → Except ε Unit
  | none => .ok ()
  | some a => check a

theorem checkPresent_ok {check : α → Except ε Unit} {value : Option α} :
    checkPresent check value = .ok () ↔ ∀ a, value = some a → check a = .ok () := by
  cases value <;> simp [checkPresent]

/-- `for (const a of as) check(a)`. -/
def checkAll (check : α → Except ε Unit) : List α → Except ε Unit
  | [] => .ok ()
  | a :: as => check a >>= fun _ => checkAll check as

theorem checkAll_ok {check : α → Except ε Unit} {as : List α} :
    checkAll check as = .ok () ↔ ∀ a ∈ as, check a = .ok () := by
  induction as with
  | nil => simp [checkAll]
  | cons a as ih =>
    rw [checkAll, sequence_ok, List.forall_mem_cons]
    constructor
    · rintro ⟨_, ha, has⟩
      exact ⟨ha, ih.mp has⟩
    · rintro ⟨ha, has⟩
      exact ⟨(), ha, ih.mpr has⟩

/-- `as.map(f)`, of an `f` that may throw, succeeds when every call does. -/
theorem mapM_ok {f : α → Except ε β} {as : List α} {bs : List β} :
    as.mapM f = .ok bs ↔ List.Forall₂ (fun a b => f a = .ok b) as bs := by
  induction as generalizing bs with
  | nil =>
    rw [List.forall₂_nil_left_iff]
    exact ⟨fun h => (Except.ok.inj h).symm, fun h => h ▸ rfl⟩
  | cons a as ih =>
    rw [List.mapM_cons, sequence_ok, List.forall₂_cons_left_iff]
    constructor
    · rintro ⟨b, hb, hrest⟩
      obtain ⟨rest, hmap, heq⟩ := sequence_ok.mp hrest
      exact ⟨b, rest, hb, ih.mp hmap, (Except.ok.inj heq).symm⟩
    · rintro ⟨b, rest, hb, hmap, rfl⟩
      exact ⟨b, hb, sequence_ok.mpr ⟨rest, ih.mpr hmap, rfl⟩⟩

theorem forall₂_iff_left {R P : α → β → Prop} {Q : α → Prop} {as : List α} {bs : List β}
    (h : List.Forall₂ R as bs) (hiff : ∀ a b, R a b → (P a b ↔ Q a)) :
    List.Forall₂ P as bs ↔ ∀ a ∈ as, Q a := by
  induction h with
  | nil => simp
  | cons hab _ ih => rw [List.forall₂_cons, ih, hiff _ _ hab, List.forall_mem_cons]

end FormspecWeb.Shared
