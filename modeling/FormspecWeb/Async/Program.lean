/-!
# Cooperative programs

A single-threaded runtime interleaves asynchronous operations only where one of
them awaits. `Prog` is the syntax of one such operation: it reads and writes a
shared state, may fail, and suspends at labelled await points. Everything
between two awaits is one uninterruptible segment, executed by `Prog.segment`.

Synchronous callbacks of the surroundings are answered by one environment value
`ι` for each segment; the answer of an await has the type its label fixes.
-/

namespace FormspecWeb.Async

/-- An operation over a shared state `σ` that fails with `ε`, reads its
synchronous surroundings as `ι`, and awaits an answer of type `Rep l` at every
label `l`. -/
inductive Prog (σ ι ε : Type) {Λ : Type} (Rep : Λ → Type) (α : Type) where
  | done (result : Except ε α)
  | read (next : ι → σ → Prog σ ι ε Rep α)
  | write (update : σ → σ) (next : Prog σ ι ε Rep α)
  | await (label : Λ) (next : Rep label → Prog σ ι ε Rep α)

structure Suspended (σ ι ε : Type) {Λ : Type} (Rep : Λ → Type) where
  label : Λ
  next : Rep label → Prog σ ι ε Rep Unit

namespace Prog

variable {σ ι ε Λ : Type} {Rep : Λ → Type} {α β : Type}

/-- Continue with the outcome of `p`, whether it returned or threw. -/
def sequel (p : Prog σ ι ε Rep α) (f : Except ε α → Prog σ ι ε Rep β) :
    Prog σ ι ε Rep β :=
  match p with
  | .done result => f result
  | .read next => .read fun i s => (next i s).sequel f
  | .write update next => .write update (next.sequel f)
  | .await label next => .await label fun answer => (next answer).sequel f

instance : Monad (Prog σ ι ε Rep) where
  pure a := .done (.ok a)
  bind p f := p.sequel fun
    | .ok a => f a
    | .error e => .done (.error e)

instance : MonadExcept ε (Prog σ ι ε Rep) where
  throw e := .done (.error e)
  tryCatch p handler := p.sequel fun
    | .ok a => .done (.ok a)
    | .error e => handler e

/-- `try p finally cleanup`, for a cleanup that does not throw. -/
def ensuring (p : Prog σ ι ε Rep α) (cleanup : σ → σ) : Prog σ ι ε Rep α :=
  p.sequel fun result => .write cleanup (.done result)

/-- The outcome of `p` as a value. -/
def outcome (p : Prog σ ι ε Rep α) : Prog σ ι ε Rep (Except ε α) :=
  p.sequel fun result => .done (.ok result)

def get : Prog σ ι ε Rep σ := .read fun _ s => .done (.ok s)

def ask : Prog σ ι ε Rep ι := .read fun i _ => .done (.ok i)

def modify (f : σ → σ) : Prog σ ι ε Rep Unit := .write f (.done (.ok ()))

/-- Suspend at a label and return its answer. -/
def awaiting (l : Λ) : Prog σ ι ε Rep (Rep l) := .await l fun answer => .done (.ok answer)

/-- Return or throw the value of a pure check. -/
def check (value : Except ε α) : Prog σ ι ε Rep α := .done value

/-- Run a program up to its next await point, or to its end. -/
def segment (i : ι) : Prog σ ι ε Rep Unit → σ → σ × Option (Suspended σ ι ε Rep)
  | .done _, s => (s, none)
  | .read next, s => (next i s).segment i s
  | .write update next, s => next.segment i (update s)
  | .await label next, s => (s, some ⟨label, next⟩)

end Prog

end FormspecWeb.Async
