import FormspecWeb.Async.Pool

/-!
# Bodies behind an await

What an operation makes of the answer of an await is a body of its own and then, with what that
returns or throws, its caller. `Hands` says of a program in what class these are at some awaits, and of
the operations a run has suspended there it gives them back.
-/

namespace FormspecWeb.Async

variable {σ ι ε ω κ Λ : Type} {Rep : Λ → Type} {α β γ : Type}

namespace Prog

theorem sequel_done (p : Prog σ ι ε Rep α) : p.sequel .done = p := by
  induction p with
  | done result => rfl
  | read next ih => exact congrArg read (funext fun i => funext fun s => ih i s)
  | write update next ih => exact congrArg (write update) ih
  | await label next ih => exact congrArg (await label) (funext ih)

theorem sequel_sequel (p : Prog σ ι ε Rep α) (f : Except ε α → Prog σ ι ε Rep β)
    (g : Except ε β → Prog σ ι ε Rep γ) :
    (p.sequel f).sequel g = p.sequel fun result => (f result).sequel g := by
  induction p with
  | done result => rfl
  | read next ih => exact congrArg read (funext fun i => funext fun s => ih i s)
  | write update next ih => exact congrArg (write update) ih
  | await label next ih => exact congrArg (await label) (funext ih)

end Prog

/-- `p` never awaits a label of interest. -/
def Silent (interest : Λ → Bool) : Prog σ ι ε Rep α → Prop
  | .done _ => True
  | .read next => ∀ i s, Silent interest (next i s)
  | .write _ next => Silent interest next
  | .await l next => interest l = false ∧ ∀ answer, Silent interest (next answer)

/-- Wherever `p` awaits a label of interest, what `p` and then `f` make of the answer is in `C`. -/
def Hands (interest : Λ → Bool) (C : (l : Λ) → (Rep l → Prog σ ι ε Rep β) → Prop)
    (f : Except ε α → Prog σ ι ε Rep β) : Prog σ ι ε Rep α → Prop
  | .done _ => True
  | .read next => ∀ i s, Hands interest C f (next i s)
  | .write _ next => Hands interest C f next
  | .await l next =>
    (interest l = true → C l fun answer => (next answer).sequel f)
      ∧ ∀ answer, Hands interest C f (next answer)

section

variable {interest : Λ → Bool}

variable {p : Prog σ ι ε Rep α}

theorem Silent.sequel {g : Except ε α → Prog σ ι ε Rep β}
    (hp : Silent interest p) (hg : ∀ result, Silent interest (g result)) :
    Silent interest (p.sequel g) := by
  induction p with
  | done result => exact hg result
  | read next ih => exact fun i s => ih i s (hp i s)
  | write update next ih => exact ih hp
  | await l next ih => exact ⟨hp.1, fun answer => ih answer (hp.2 answer)⟩

@[simp] theorem Silent.bind {p : Prog σ ι ε Rep α} {g : α → Prog σ ι ε Rep β}
    (hp : Silent interest p) (hg : ∀ a, Silent interest (g a)) : Silent interest (p >>= g) := by
  refine hp.sequel fun result => ?_
  cases result with
  | ok a => exact hg a
  | error e => trivial

@[simp] theorem Silent.tryCatch {p : Prog σ ι ε Rep α} {handler : ε → Prog σ ι ε Rep α}
    (hp : Silent interest p) (hhandler : ∀ e, Silent interest (handler e)) :
    Silent interest (MonadExcept.tryCatch p handler) := by
  refine hp.sequel fun result => ?_
  cases result with
  | ok a => trivial
  | error e => exact hhandler e

@[simp] theorem Silent.ensuring {p : Prog σ ι ε Rep α} {cleanup : σ → σ} (hp : Silent interest p) :
    Silent interest (p.ensuring cleanup) :=
  hp.sequel fun _ => trivial

@[simp] theorem Silent.outcome {p : Prog σ ι ε Rep α} (hp : Silent interest p) :
    Silent interest p.outcome :=
  hp.sequel fun _ => trivial

@[simp] theorem silent_pure (a : α) : Silent interest (Pure.pure a : Prog σ ι ε Rep α) := trivial

@[simp] theorem silent_throw (e : ε) : Silent interest (MonadExcept.throw e : Prog σ ι ε Rep α) :=
  trivial

@[simp] theorem silent_check (value : Except ε α) :
    Silent interest (Prog.check value : Prog σ ι ε Rep α) := trivial

@[simp] theorem silent_get : Silent interest (Prog.get : Prog σ ι ε Rep σ) := fun _ _ => trivial

@[simp] theorem silent_ask : Silent interest (Prog.ask : Prog σ ι ε Rep ι) := fun _ _ => trivial

@[simp] theorem silent_modify (f : σ → σ) : Silent interest (Prog.modify f : Prog σ ι ε Rep Unit) :=
  trivial

@[simp] theorem silent_awaiting {l : Λ} (hl : interest l = false) :
    Silent interest (Prog.awaiting l : Prog σ ι ε Rep (Rep l)) := ⟨hl, fun _ => trivial⟩

variable {C : (l : Λ) → (Rep l → Prog σ ι ε Rep β) → Prop} {f : Except ε α → Prog σ ι ε Rep β}

theorem Silent.hands (hp : Silent interest p) : Hands interest C f p := by
  induction p with
  | done result => trivial
  | read next ih => exact fun i s => ih i s (hp i s)
  | write update next ih => exact ih hp
  | await l next ih =>
    refine ⟨fun hl => ?_, fun answer => ih answer (hp.2 answer)⟩
    rw [hp.1] at hl
    cases hl

theorem Hands.sequel {p : Prog σ ι ε Rep γ} {g : Except ε γ → Prog σ ι ε Rep α}
    (hp : Hands interest C (fun result => (g result).sequel f) p)
    (hg : ∀ result, Hands interest C f (g result)) : Hands interest C f (p.sequel g) := by
  induction p with
  | done result => exact hg result
  | read next ih => exact fun i s => ih i s (hp i s)
  | write update next ih => exact ih hp
  | await l next ih =>
    refine ⟨fun hl => ?_, fun answer => ih answer (hp.2 answer)⟩
    have hrest : (fun answer => ((next answer).sequel g).sequel f)
        = fun answer => (next answer).sequel fun result => (g result).sequel f :=
      funext fun answer => Prog.sequel_sequel _ _ _
    rw [hrest]
    exact hp.1 hl

/-- What `p >>= g` and then `f` make of what `p` returns or throws. -/
def andThen (g : γ → Prog σ ι ε Rep α) (f : Except ε α → Prog σ ι ε Rep β) :
    Except ε γ → Prog σ ι ε Rep β
  | .ok a => (g a).sequel f
  | .error e => f (.error e)

theorem Hands.bind {p : Prog σ ι ε Rep γ} {g : γ → Prog σ ι ε Rep α}
    (hp : Hands interest C (andThen g f) p) (hg : ∀ a, Hands interest C f (g a)) :
    Hands interest C f (p >>= g) := by
  have hsame : andThen g f = fun result => Prog.sequel (match result with
      | .ok a => g a
      | .error e => .done (.error e)) f := by
    funext result
    cases result <;> rfl
  refine Hands.sequel (hsame ▸ hp) fun result => ?_
  cases result with
  | ok a => exact hg a
  | error e => trivial

theorem Silent.thenHands {p : Prog σ ι ε Rep γ} {g : γ → Prog σ ι ε Rep α} (hp : Silent interest p)
    (hg : ∀ a, Hands interest C f (g a)) : Hands interest C f (p >>= g) :=
  Hands.bind hp.hands hg

/-- What a handler and then `f` make of what a program returns or throws. -/
def caughtBy (handler : ε → Prog σ ι ε Rep α) (f : Except ε α → Prog σ ι ε Rep β) :
    Except ε α → Prog σ ι ε Rep β
  | .ok a => f (.ok a)
  | .error e => (handler e).sequel f

theorem Hands.tryCatch {handler : ε → Prog σ ι ε Rep α}
    (hp : Hands interest C (caughtBy handler f) p) (hhandler : ∀ e, Hands interest C f (handler e)) :
    Hands interest C f (MonadExcept.tryCatch p handler) := by
  have hsame : caughtBy handler f = fun result => Prog.sequel (match result with
      | .ok a => .done (.ok a)
      | .error e => handler e) f := by
    funext result
    cases result <;> rfl
  refine Hands.sequel (hsame ▸ hp) fun result => ?_
  cases result with
  | ok a => trivial
  | error e => exact hhandler e

theorem Hands.of_body {l : Λ} {body : Rep l → Prog σ ι ε Rep α}
    (hC : C l fun answer => (body answer).sequel f) (hbody : ∀ answer, Silent interest (body answer)) :
    Hands interest C f (Prog.awaiting l >>= body) :=
  ⟨fun _ => hC, fun answer => (hbody answer).hands⟩

theorem Hands.segment {C : (l : Λ) → (Rep l → Prog σ ι ε Rep Unit) → Prop} {i : ι}
    {p : Prog σ ι ε Rep Unit} {s : σ} (hp : Hands interest C .done p) {k : Suspended σ ι ε Rep}
    (hk : (p.segment i s).2 = some k) :
    (interest k.label = true → C k.label k.next) ∧ ∀ answer, Hands interest C .done (k.next answer) := by
  induction p generalizing s with
  | done result => cases hk
  | read next ih => exact ih i s (hp i s) hk
  | write update next ih => exact ih hp hk
  | await l next ih =>
    cases hk
    have hsame : (fun answer => (next answer).sequel Prog.done) = next :=
      funext fun answer => Prog.sequel_done _
    exact ⟨hsame ▸ hp.1, hp.2⟩

end

/-! ## The course of a program -/

/-- What a program may read, write and await on its course, and the writes and awaits that end it. -/
structure Course (σ Λ : Type) where
  reads : σ → Prop
  writes : (σ → σ) → Prop
  ends : (σ → σ) → Prop
  awaits : Λ → Prop
  leaves : Λ → Prop

/-- Every path of `p` keeps to the course, until it ends or `p` does with `post`. -/
def Follows (K : Course σ Λ) (post : Except ε α → Prop) : Prog σ ι ε Rep α → Prop
  | .done result => post result
  | .read next => ∀ i s, K.reads s → Follows K post (next i s)
  | .write update next => K.ends update ∨ K.writes update ∧ Follows K post next
  | .await l next => K.leaves l ∨ K.awaits l ∧ ∀ answer, Follows K post (next answer)

section

variable {K : Course σ Λ} {post : Except ε α → Prop} {post' : Except ε β → Prop}

variable {p : Prog σ ι ε Rep α}

theorem Follows.sequel {f : Except ε α → Prog σ ι ε Rep β}
    (hp : Follows K post p) (hf : ∀ result, post result → Follows K post' (f result)) :
    Follows K post' (p.sequel f) := by
  induction p with
  | done result => exact hf result hp
  | read next ih => exact fun i s hs => ih i s (hp i s hs)
  | write update next ih => exact hp.imp_right fun h => ⟨h.1, ih h.2⟩
  | await l next ih => exact hp.imp_right fun h => ⟨h.1, fun answer => ih answer (h.2 answer)⟩

theorem Follows.bind {f : α → Prog σ ι ε Rep β} (hp : Follows K post p)
    (hok : ∀ a, post (.ok a) → Follows K post' (f a)) (herror : ∀ e, post (.error e) → post' (.error e)) :
    Follows K post' (p >>= f) := by
  refine hp.sequel fun result hresult => ?_
  cases result with
  | ok a => exact hok a hresult
  | error e => exact herror e hresult

theorem Follows.ended {f : Except ε α → Prog σ ι ε Rep β}
    (hp : Follows K (fun _ => False) p) : Follows K post' (p.sequel f) :=
  hp.sequel fun _ h => False.elim h

theorem follows_check (value : Except ε α) :
    Follows K (fun result => result = value) (Prog.check value : Prog σ ι ε Rep α) := rfl

theorem follows_get {f : σ → Prog σ ι ε Rep α} (h : ∀ s, K.reads s → Follows K post (f s)) :
    Follows K post (Prog.get >>= f) :=
  fun _ => h

end

theorem System.run_hands {S : System σ ι ε ω κ Rep} {interest : Λ → Bool}
    {C : Nat → (l : Λ) → (Rep l → Prog σ ι ε Rep Unit) → Prop}
    (hS : ∀ t op, Hands interest (C t) .done (S.program t op)) {es : List (Event ι ω κ)}
    {p q : Pool σ ι ε Rep}
    (hp : ∀ t k, p.threads t = some k → (interest k.label = true → C t k.label k.next)
      ∧ ∀ answer, Hands interest (C t) .done (k.next answer))
    (hrun : S.run p es = some q) {t : Nat} {k : Suspended σ ι ε Rep} (hk : q.threads t = some k)
    (hinterest : interest k.label = true) : C t k.label k.next := by
  induction es generalizing p with
  | nil =>
    cases hrun
    exact (hp t k hk).1 hinterest
  | cons e es ih =>
    obtain ⟨p', hstep, hrest⟩ := Option.bind_eq_some_iff.mp hrun
    refine ih (fun u j hj => ?_) hrest
    cases e with
    | begin op i =>
      cases hstep
      by_cases hu : u = p.next
      · subst hu
        exact (hS p.next op).segment (by simpa using hj)
      · exact hp u j (by simpa [hu] using hj)
    | resume v answer i =>
      simp only [System.step] at hstep
      cases hthread : p.threads v with
      | none => simp [hthread] at hstep
      | some held =>
        cases haccept : S.accept p.state held.label answer with
        | none => simp [hthread, haccept] at hstep
        | some r =>
          simp only [hthread, haccept, Option.some.injEq] at hstep
          subst hstep
          by_cases hu : u = v
          · subst hu
            exact ((hp u held hthread).2 r).segment (by simpa using hj)
          · exact hp u j (by simpa [hu] using hj)

end FormspecWeb.Async
