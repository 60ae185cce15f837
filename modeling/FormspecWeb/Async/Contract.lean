import FormspecWeb.Async.Program

/-!
# Rely and guarantee for cooperative programs

`Safe C p Q s` says that `p`, started in `s`, changes the shared state only by
steps its contract guarantees and ends in the postcondition `Q`, when every
suspension may be interfered with by any change the contract relies on and is
answered only as the contract admits.
-/

namespace FormspecWeb.Async

/-- What one operation may assume of its surroundings and must keep itself. -/
structure Contract (σ : Type) {Λ : Type} (Rep : Λ → Type) where
  inv : σ → Prop
  /-- What other operations do to the shared state during a suspension. -/
  rely : σ → σ → Prop
  /-- What every write of this operation does to the shared state. -/
  guar : σ → σ → Prop
  admits : σ → (l : Λ) → Rep l → Prop

variable {σ ι ε Λ : Type} {Rep : Λ → Type} {α β : Type}

/-- `p` keeps the contract from `s` on and ends in `Q`. -/
def Safe (C : Contract σ Rep) (p : Prog σ ι ε Rep α) (Q : Except ε α → σ → Prop) (s : σ) :
    Prop :=
  match p with
  | .done result => Q result s
  | .read next => ∀ i, Safe C (next i s) Q s
  | .write update next => C.guar s (update s) ∧ Safe C next Q (update s)
  | .await label next =>
    ∀ s', C.rely s s' → C.inv s' → ∀ answer, C.admits s' label answer →
      Safe C (next answer) Q s'

namespace Safe

variable {C : Contract σ Rep}

variable {p : Prog σ ι ε Rep α}

variable {s : σ}

theorem mono {Q Q' : Except ε α → σ → Prop}
    (h : Safe C p Q s) (hQ : ∀ r s, Q r s → Q' r s) : Safe C p Q' s := by
  induction p generalizing s with
  | done result => exact hQ _ _ h
  | read next ih => exact fun i => ih i s (h i)
  | write update next ih => exact ⟨h.1, ih h.2⟩
  | await label next ih =>
    intro s' hrely hinv answer hadmits
    exact ih answer (h s' hrely hinv answer hadmits)

variable {Q : Except ε β → σ → Prop}

theorem sequel_iff {f : Except ε α → Prog σ ι ε Rep β} :
    Safe C (p.sequel f) Q s ↔ Safe C p (fun r s => Safe C (f r) Q s) s := by
  induction p generalizing s with
  | done result => rfl
  | read next ih => exact forall_congr' fun i => ih i s
  | write update next ih => exact and_congr_right fun _ => ih
  | await label next ih =>
    refine forall_congr' fun s' => forall_congr' fun _ => forall_congr' fun _ =>
      forall_congr' fun answer => forall_congr' fun _ => ih answer

/-- What a returned value must satisfy for the rest of a bind to be safe. -/
def andThen (C : Contract σ Rep) (f : α → Prog σ ι ε Rep β) (Q : Except ε β → σ → Prop) :
    Except ε α → σ → Prop
  | .ok a => Safe C (f a) Q
  | .error e => Q (.error e)

variable {f : α → Prog σ ι ε Rep β}

theorem of_andThen (h : Safe C p (andThen C f Q) s) :
    Safe C (p >>= f) Q s := by
  refine sequel_iff.mpr (h.mono ?_)
  rintro (e | a) s' hs'
  · exact hs'
  · exact hs'

theorem bind {P : Except ε α → σ → Prop} (hp : Safe C p P s)
    (hok : ∀ a s', P (.ok a) s' → Safe C (f a) Q s')
    (herror : ∀ e s', P (.error e) s' → Q (.error e) s') : Safe C (p >>= f) Q s := by
  refine of_andThen (hp.mono ?_)
  rintro (e | a) s' hs'
  · exact herror e s' hs'
  · exact hok a s' hs'

theorem tryCatch {handler : ε → Prog σ ι ε Rep α}
    {P Q : Except ε α → σ → Prop} (hp : Safe C p P s)
    (hok : ∀ a s', P (.ok a) s' → Q (.ok a) s')
    (herror : ∀ e s', P (.error e) s' → Safe C (handler e) Q s') :
    Safe C (MonadExcept.tryCatch p handler) Q s := by
  refine sequel_iff.mpr (hp.mono ?_)
  rintro (e | a) s' hs'
  · exact herror e s' hs'
  · exact hok a s' hs'

theorem ensuring {cleanup : σ → σ} {P Q : Except ε α → σ → Prop}
    (hp : Safe C p P s)
    (hclean : ∀ r s', P r s' → C.guar s' (cleanup s') ∧ Q r (cleanup s')) :
    Safe C (p.ensuring cleanup) Q s :=
  sequel_iff.mpr (hp.mono hclean)

theorem outcome {Q : Except ε (Except ε α) → σ → Prop}
    (hp : Safe C p (fun r => Q (.ok r)) s) : Safe C p.outcome Q s :=
  sequel_iff.mpr hp

theorem pure {a : α} {Q : Except ε α → σ → Prop} (h : Q (.ok a) s) :
    Safe C (Pure.pure a : Prog σ ι ε Rep α) Q s := h

theorem throw {e : ε} {Q : Except ε α → σ → Prop} (h : Q (.error e) s) :
    Safe C (MonadExcept.throw e : Prog σ ι ε Rep α) Q s := h

theorem get {f : σ → Prog σ ι ε Rep β}
    (h : Safe C (f s) Q s) : Safe C (Prog.get >>= f) Q s :=
  fun _ => h

theorem ask {f : ι → Prog σ ι ε Rep β}
    (h : ∀ i, Safe C (f i) Q s) : Safe C (Prog.ask >>= f) Q s := h

theorem modify {g : σ → σ} {f : Unit → Prog σ ι ε Rep β}
    (hguar : C.guar s (g s)) (h : Safe C (f ()) Q (g s)) : Safe C (Prog.modify g >>= f) Q s :=
  ⟨hguar, h⟩

theorem check {value : Except ε α} (hok : ∀ a, value = .ok a → Safe C (f a) Q s)
    (herror : ∀ e, value = .error e → Q (.error e) s) :
    Safe C (Prog.check value >>= f) Q s := by
  cases value with
  | ok a => exact hok a rfl
  | error e => exact herror e rfl

theorem awaiting {l : Λ} {f : Rep l → Prog σ ι ε Rep β}
    (h : ∀ s', C.rely s s' → C.inv s' → ∀ answer, C.admits s' l answer →
      Safe C (f answer) Q s') : Safe C (Prog.awaiting l >>= f) Q s := h

end Safe

end FormspecWeb.Async
