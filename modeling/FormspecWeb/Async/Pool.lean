import Mathlib.Logic.Function.Basic
import Mathlib.Logic.Relation
import FormspecWeb.Async.Contract

/-!
# Pools of cooperative operations

A `System` names the operations that may be begun and says how a delivered
answer fits an await point. A `Pool` is the shared state with the operations
suspended so far. Its events begin an operation or resume a suspended one, in
any order; each runs one segment.

A `Discipline` restricts the events of a run by the state and the await point
they meet. `Protocol` packages the rely-guarantee argument: once each operation
is `Safe` for its contract, `Protocol.run_moves` says that the shared state of
every run evolves by guaranteed moves alone.
-/

namespace FormspecWeb.Async

structure System (σ ι ε ω κ : Type) {Λ : Type} (Rep : Λ → Type) where
  /-- The program of operation `op`, begun as the `t`-th operation. -/
  program : (t : Nat) → (op : ω) → Prog σ ι ε Rep Unit
  accept : σ → (l : Λ) → κ → Option (Rep l)

structure Pool (σ ι ε : Type) {Λ : Type} (Rep : Λ → Type) where
  state : σ
  threads : Nat → Option (Suspended σ ι ε Rep)
  next : Nat

inductive Event (ι ω κ : Type) where
  | begin (op : ω) (callbacks : ι)
  | resume (t : Nat) (answer : κ) (callbacks : ι)

structure Discipline (σ ω : Type) {Λ : Type} (Rep : Λ → Type) where
  begins : σ → ω → Prop
  resumes : σ → (l : Λ) → Rep l → Prop

def Discipline.free (σ ω : Type) {Λ : Type} (Rep : Λ → Type) : Discipline σ ω Rep where
  begins _ _ := True
  resumes _ _ _ := True

variable {σ ι ε ω κ Λ : Type} {Rep : Λ → Type}

def Pool.initial (s : σ) : Pool σ ι ε Rep := ⟨s, fun _ => none, 0⟩

namespace System

variable (S : System σ ι ε ω κ Rep)

/-- One event. Resuming fails when nothing is suspended there or the answer
does not fit. -/
def step (p : Pool σ ι ε Rep) : Event ι ω κ → Option (Pool σ ι ε Rep)
  | .begin op i =>
    let (s, k) := (S.program p.next op).segment i p.state
    some ⟨s, Function.update p.threads p.next k, p.next + 1⟩
  | .resume t answer i =>
    match p.threads t with
    | none => none
    | some k =>
      match S.accept p.state k.label answer with
      | none => none
      | some r =>
        let (s, k') := (k.next r).segment i p.state
        some ⟨s, Function.update p.threads t k', p.next⟩

def run : Pool σ ι ε Rep → List (Event ι ω κ) → Option (Pool σ ι ε Rep)
  | p, [] => some p
  | p, e :: es => (S.step p e).bind fun p' => run p' es

theorem run_append {p p' : Pool σ ι ε Rep} {es later : List (Event ι ω κ)} (h : S.run p es = some p') :
    S.run p (es ++ later) = S.run p' later := by
  induction es generalizing p with
  | nil => exact Option.some.inj h ▸ rfl
  | cons e es ih =>
    obtain ⟨p₁, hstep, hrest⟩ := Option.bind_eq_some_iff.mp h
    rw [List.cons_append, run, hstep, Option.bind_some]
    exact ih hrest

end System

namespace Discipline

def Obeyed (D : Discipline σ ω Rep) (S : System σ ι ε ω κ Rep) (p : Pool σ ι ε Rep) :
    Event ι ω κ → Prop
  | .begin op _ => D.begins p.state op
  | .resume t answer _ => ∀ k r, p.threads t = some k →
      S.accept p.state k.label answer = some r → D.resumes p.state k.label r

/-- Every event of a run obeys the discipline in the pool it meets. -/
def Meets (D : Discipline σ ω Rep) (S : System σ ι ε ω κ Rep) :
    Pool σ ι ε Rep → List (Event ι ω κ) → Prop
  | _, [] => True
  | p, e :: es => D.Obeyed S p e ∧ ∀ p', S.step p e = some p' → D.Meets S p' es

theorem free_meets (S : System σ ι ε ω κ Rep) (p : Pool σ ι ε Rep) (es : List (Event ι ω κ)) :
    (Discipline.free σ ω Rep).Meets S p es := by
  induction es generalizing p with
  | nil => trivial
  | cons e es ih =>
    refine ⟨?_, fun p' _ => ih p'⟩
    cases e with
    | begin op i => trivial
    | resume t answer i => exact fun _ _ _ _ => trivial

/-- A run that obeys the discipline, as far as it goes. -/
def obeys (D : Discipline σ ω Rep) [∀ s op, Decidable (D.begins s op)]
    [∀ s l r, Decidable (D.resumes s l r)] (S : System σ ι ε ω κ Rep) :
    Pool σ ι ε Rep → List (Event ι ω κ) → Bool
  | _, [] => true
  | p, e :: es =>
    (match e with
      | .begin op _ => decide (D.begins p.state op)
      | .resume t answer _ =>
        (p.threads t).all fun k => (S.accept p.state k.label answer).all fun r =>
          decide (D.resumes p.state k.label r))
      && (S.step p e).all fun p' => D.obeys S p' es

theorem meets_of_obeys {D : Discipline σ ω Rep} [∀ s op, Decidable (D.begins s op)]
    [∀ s l r, Decidable (D.resumes s l r)] {S : System σ ι ε ω κ Rep} {p : Pool σ ι ε Rep}
    {es : List (Event ι ω κ)} (h : D.obeys S p es = true) : D.Meets S p es := by
  induction es generalizing p with
  | nil => trivial
  | cons e es ih =>
    obtain ⟨he, hrest⟩ := Bool.and_eq_true_iff.mp h
    refine ⟨?_, fun p' hp' => ih ?_⟩
    · cases e with
      | begin op i =>
        show D.begins p.state op
        exact of_decide_eq_true he
      | resume t answer i =>
        intro k r hk hr
        simpa [hk, hr] using he
    · simpa [hp'] using hrest

end Discipline

/-- A rely-guarantee argument for all operations of a system under a discipline. -/
structure Protocol (S : System σ ι ε ω κ Rep) (D : Discipline σ ω Rep) where
  inv : σ → Prop
  rely : Nat → σ → σ → Prop
  guar : Nat → σ → σ → Prop
  rely_refl : ∀ t s, rely t s s
  rely_trans : ∀ t a b c, rely t a b → rely t b c → rely t a c
  guar_rely : ∀ t u s s', t ≠ u → inv s → guar t s s' → rely u s s'
  guar_inv : ∀ t s s', inv s → guar t s s' → inv s'
  safe : ∀ t op s, inv s → D.begins s op →
    Safe ⟨inv, rely t, guar t, fun s l r => D.resumes s l r ∧ ∃ answer, S.accept s l answer = some r⟩
      (S.program t op) (fun _ _ => True) s

namespace Protocol

variable {S : System σ ι ε ω κ Rep} {D : Discipline σ ω Rep} (P : Protocol S D)

/-- The contract of the `t`-th operation. -/
def contract (t : Nat) : Contract σ Rep where
  inv := P.inv
  rely := P.rely t
  guar := P.guar t
  admits s l r := D.resumes s l r ∧ ∃ answer, S.accept s l answer = some r

/-- A write of operation `t` in a state that keeps the invariant. -/
def MoveOf (t : Nat) (s s' : σ) : Prop := P.inv s ∧ P.guar t s s'

def Move (s s' : σ) : Prop := ∃ t, P.MoveOf t s s'

/-- A suspended operation is safe however it is resumed. -/
def Resumable (t : Nat) (s : σ) (k : Suspended σ ι ε Rep) : Prop :=
  ∀ s', P.rely t s s' → P.inv s' → ∀ r, (P.contract t).admits s' k.label r →
    Safe (P.contract t) (k.next r) (fun _ _ => True) s'

/-- Every suspended operation of a pool is safe. -/
def Covered (p : Pool σ ι ε Rep) : Prop :=
  ∀ t k, p.threads t = some k → P.Resumable t p.state k

theorem covered_initial (s : σ) : P.Covered (Pool.initial s) := by
  intro t k hk
  cases hk

theorem rely_of_moves {t u : Nat} (hne : t ≠ u) {s s' : σ}
    (h : Relation.ReflTransGen (P.MoveOf t) s s') : P.rely u s s' := by
  induction h with
  | refl => exact P.rely_refl u s
  | tail _ hmove ih => exact P.rely_trans u _ _ _ ih (P.guar_rely t u _ _ hne hmove.1 hmove.2)

theorem moves_of_moveOf {t : Nat} {s s' : σ} (h : Relation.ReflTransGen (P.MoveOf t) s s') :
    Relation.ReflTransGen P.Move s s' :=
  Relation.ReflTransGen.mono (fun _ _ hmove => ⟨t, hmove⟩) _ _ h

theorem segment_moves {t : Nat} {i : ι} {p : Prog σ ι ε Rep Unit} {s : σ} (hinv : P.inv s)
    (hsafe : Safe (P.contract t) p (fun _ _ => True) s) :
    Relation.ReflTransGen (P.MoveOf t) s (p.segment i s).1 ∧ P.inv (p.segment i s).1 ∧
      ∀ k, (p.segment i s).2 = some k → P.Resumable t (p.segment i s).1 k := by
  induction p generalizing s with
  | done result => exact ⟨.refl, hinv, nofun⟩
  | read next ih => exact ih i s hinv (hsafe i)
  | write update next ih =>
    have hmove : P.MoveOf t s (update s) := ⟨hinv, hsafe.1⟩
    have hnext : P.inv (update s) := P.guar_inv t s _ hinv hsafe.1
    obtain ⟨hmoves, hend, hk⟩ := ih hnext hsafe.2
    exact ⟨.head hmove hmoves, hend, hk⟩
  | await label next ih =>
    refine ⟨.refl, hinv, fun k hk => ?_⟩
    cases hk
    intro s' hrely hinv' r hadmits
    exact hsafe s' hrely hinv' r hadmits

/-- After a segment of operation `t`, the other operations are still safe and
`t` is if what it left suspended is. -/
theorem covered_update {p : Pool σ ι ε Rep} (hcov : P.Covered p) {t : Nat} {s : σ}
    {k : Option (Suspended σ ι ε Rep)} {n : Nat}
    (hmoves : Relation.ReflTransGen (P.MoveOf t) p.state s)
    (hk : ∀ k', k = some k' → P.Resumable t s k') :
    P.Covered ⟨s, Function.update p.threads t k, n⟩ := by
  intro u ku hu
  by_cases hut : u = t
  · subst hut
    exact hk ku (by simpa using hu)
  · have hold : p.threads u = some ku := by simpa [hut] using hu
    intro s' hrely hinv r hadmits
    have hstep : P.rely u p.state s := P.rely_of_moves (Ne.symm hut) hmoves
    exact hcov u ku hold s' (P.rely_trans u _ _ _ hstep hrely) hinv r hadmits

variable {p p' : Pool σ ι ε Rep}

theorem step_moves {e : Event ι ω κ} (hinv : P.inv p.state)
    (hcov : P.Covered p) (hobey : D.Obeyed S p e) (hstep : S.step p e = some p') :
    Relation.ReflTransGen P.Move p.state p'.state ∧ P.inv p'.state ∧ P.Covered p' := by
  cases e with
  | begin op i =>
    have hsafe : Safe (P.contract p.next) (S.program p.next op) (fun _ _ => True) p.state :=
      P.safe p.next op p.state hinv hobey
    obtain ⟨hmoves, hend, hk⟩ := P.segment_moves (i := i) hinv hsafe
    cases hstep
    exact ⟨P.moves_of_moveOf hmoves, hend, P.covered_update hcov hmoves hk⟩
  | resume t answer i =>
    simp only [System.step] at hstep
    cases hthread : p.threads t with
    | none => simp [hthread] at hstep
    | some k =>
      cases haccept : S.accept p.state k.label answer with
      | none => simp [hthread, haccept] at hstep
      | some r =>
        simp only [hthread, haccept, Option.some.injEq] at hstep
        subst hstep
        have hsafe : Safe (P.contract t) (k.next r) (fun _ _ => True) p.state :=
          hcov t k hthread p.state (P.rely_refl t _) hinv r
            ⟨hobey k r hthread haccept, answer, haccept⟩
        obtain ⟨hmoves, hend, hk⟩ := P.segment_moves (i := i) hinv hsafe
        exact ⟨P.moves_of_moveOf hmoves, hend, P.covered_update hcov hmoves hk⟩

variable {es : List (Event ι ω κ)}

theorem run_moves (hinv : P.inv p.state)
    (hcov : P.Covered p) (hmeets : D.Meets S p es) (hrun : S.run p es = some p') :
    Relation.ReflTransGen P.Move p.state p'.state ∧ P.inv p'.state := by
  induction es generalizing p with
  | nil =>
    cases hrun
    exact ⟨.refl, hinv⟩
  | cons e es ih =>
    obtain ⟨p₁, hstep, hrest⟩ := Option.bind_eq_some_iff.mp hrun
    obtain ⟨hmoves, hinv₁, hcov₁⟩ := P.step_moves hinv hcov hmeets.1 hstep
    obtain ⟨hmoves', hinv'⟩ := ih hinv₁ hcov₁ (hmeets.2 p₁ hstep) hrest
    exact ⟨hmoves.trans hmoves', hinv'⟩

theorem run_covered (hinv : P.inv p.state)
    (hcov : P.Covered p) (hmeets : D.Meets S p es) (hrun : S.run p es = some p') : P.Covered p' := by
  induction es generalizing p with
  | nil => exact Option.some.inj hrun ▸ hcov
  | cons e es ih =>
    obtain ⟨p₁, hstep, hrest⟩ := Option.bind_eq_some_iff.mp hrun
    obtain ⟨-, hinv₁, hcov₁⟩ := P.step_moves hinv hcov hmeets.1 hstep
    exact ih hinv₁ hcov₁ (hmeets.2 p₁ hstep) hrest

theorem run_invariant {J : σ → Prop} (hJ : ∀ t s s', P.inv s → P.guar t s s' → J s → J s')
    {s : σ} (hinv : P.inv s) (hs : J s) {p' : Pool σ ι ε Rep}
    (hmeets : D.Meets S (Pool.initial s) es) (hrun : S.run (Pool.initial s) es = some p') :
    J p'.state := by
  obtain ⟨hmoves, -⟩ := P.run_moves hinv (P.covered_initial s) hmeets hrun
  have hall : ∀ a b, Relation.ReflTransGen P.Move a b → J a → J b := by
    intro a b h ha
    induction h with
    | refl => exact ha
    | tail _ hmove ih =>
      obtain ⟨t, hinv, hguar⟩ := hmove
      exact hJ t _ _ hinv hguar ih
  exact hall _ _ hmoves hs

end Protocol

end FormspecWeb.Async
