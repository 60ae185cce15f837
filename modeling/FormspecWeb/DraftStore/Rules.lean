import FormspecWeb.Async.History
import FormspecWeb.DraftStore.HttpDraftStore

/-!
# Rules for the parts of the draft store's operations

One rule for each part the operations share, under any contract. What an operation knows
of the state is a predicate that the moves of the others keep.
-/

namespace FormspecWeb.DraftStore

open Async

def Stable (C : Contract StoreState Rep) (P : StoreState → Prop) : Prop :=
  ∀ s s', P s → C.rely s s' → C.inv s' → P s'

def Guards (F : StoreState → Prop) (p : Op Unit) : Prop :=
  ∀ (C : Contract StoreState Rep) s, Safe C p (fun result s' => s' = s ∧ (result = .ok () → F s)) s

variable {C : Contract StoreState Rep} {P P' F : StoreState → Prop} {s : StoreState} {α β : Type}
  {config : HttpDraftStoreConfig}

variable {Q : Except DraftStoreError β → StoreState → Prop}

theorem takeTicket_safe {thread : Nat} {f : Nat → Op β}
    (hguar : C.guar s (s.begin thread)) (h : Safe C (f s.owners.length) Q (s.begin thread)) :
    Safe C (takeTicket thread >>= f) Q s :=
  Safe.of_andThen (Safe.get (Safe.modify hguar (Safe.pure h)))

theorem onRegistry_safe {f : MetadataStorage → Registry → Except DraftStoreError α × Registry}
    {Q : Except DraftStoreError α → StoreState → Prop}
    (h : ∀ storage, C.guar s (s.setRegistry (f storage s.registry).2)
      ∧ Q (f storage s.registry).1 (s.setRegistry (f storage s.registry).2)) :
    Safe C (onRegistry f) Q s :=
  Safe.ask fun callbacks => Safe.get (Safe.modify (h callbacks.storage).1 (h callbacks.storage).2)

theorem failed_safe {message : String} {Q : Except DraftStoreError α → StoreState → Prop}
    (h : Q (.error (.failed message)) s) : Safe C (failed message) Q s := h

theorem awaiting_safe {l : Label} {f : Rep l → Op β} (hP : Stable C P) (hs : P s)
    (h : ∀ answer s', C.inv s' → P s' → C.admits s' l answer → Safe C (f answer) Q s') :
    Safe C (Prog.awaiting l >>= f) Q s :=
  Safe.awaiting fun s' hrely hinv answer hadmits => h answer s' hinv (hP s s' hs hrely hinv) hadmits

theorem unguarded_guards : Guards (fun _ => True) unguarded :=
  fun _ _ => ⟨rfl, fun _ => trivial⟩

theorem saveCurrent_guards (generation : Nat) :
    Guards (fun s => s.retirementGeneration = generation) (saveCurrent generation) := by
  intro C s
  refine Safe.get ?_
  split
  · exact failed_safe ⟨rfl, nofun⟩
  · rename_i hsame
    exact Safe.pure ⟨rfl, fun _ => by simpa using Eq.symm (of_not_not (by simpa using hsame))⟩

theorem readCurrent_guards (generation : Nat) :
    Guards (fun s => s.generation = generation) (readCurrent generation) := by
  intro C s
  refine Safe.ask fun callbacks => Safe.check (fun _ _ => Safe.get ?_) fun e _ => ⟨rfl, nofun⟩
  split
  · exact failed_safe ⟨rfl, nofun⟩
  · rename_i hsame
    exact Safe.pure ⟨rfl, fun _ => by simpa using Eq.symm (of_not_not (by simpa using hsame))⟩

theorem guard_safe {p : Op Unit} (hp : Guards F p) {f : Unit → Op β}
    (hok : F s → Safe C (f ()) Q s) (herror : ∀ e, Q (.error e) s) : Safe C (p >>= f) Q s := by
  refine Safe.bind (hp C s) ?_ ?_
  · rintro ⟨⟩ s' ⟨rfl, hF⟩
    exact hok (hF rfl)
  · rintro e s' ⟨rfl, -⟩
    exact herror e

theorem ensure_guards (condition : Bool) (message : String) :
    Guards (fun _ => condition = true) (ensure condition message) := by
  intro C s
  unfold ensure
  split
  · rename_i hcondition
    exact Safe.pure ⟨rfl, fun _ => hcondition⟩
  · exact failed_safe ⟨rfl, nofun⟩

theorem resolveAnonymousSessionToken_safe {key : DraftKey} (hP : Stable C P) (hs : P s) :
    Safe C (resolveAnonymousSessionToken key) (fun _ s' => C.inv s' ∧ P s') s :=
  awaiting_safe hP hs fun _ _ hinv' hs' _ => ⟨hinv', hs'⟩

theorem anonymousToken_safe {key : DraftKey} (hP : Stable C P) (hinv : C.inv s) (hs : P s) :
    Safe C (anonymousToken key) (fun _ s' => C.inv s' ∧ P s') s := by
  unfold anonymousToken
  split
  · exact Safe.pure ⟨hinv, hs⟩
  · exact resolveAnonymousSessionToken_safe hP hs

theorem requestJson_safe {ticket : Nat} {purpose : Purpose} {request : DraftRequest} {current : Op Unit}
    {admission : Callbacks → Except DraftStoreError Unit} (hP : Stable C P) (hP' : Stable C P')
    (hsend : ∀ s, C.inv s → P s → C.guar s (s.send ticket request)
      ∧ C.inv (s.send ticket request) ∧ P' (s.send ticket request))
    (hcurrent : Guards F current) (hinv : C.inv s) (hs : P s) :
    Safe C (requestJson ticket purpose request current admission)
      (fun result s' => C.inv s' ∧ (P s' ∨ P' s') ∧ ∀ view, result = .ok view →
        P' s' ∧ F s' ∧ C.admits s' (.reply ticket purpose request) (.ok view)) s := by
  have hfailed : ∀ {s'} (e : DraftStoreError), C.inv s' → P s' ∨ P' s' → C.inv s' ∧ (P s' ∨ P' s')
      ∧ ∀ view, (.error e : Except DraftStoreError DraftView) = .ok view →
        P' s' ∧ F s' ∧ C.admits s' (.reply ticket purpose request) (.ok view) :=
    fun e hinv' hs' => ⟨hinv', hs', fun _ h => by cases h⟩
  refine guard_safe hcurrent (fun _ => ?_) fun e => hfailed e hinv (.inl hs)
  refine awaiting_safe hP hs fun credentials s' hinv' hs' _ => ?_
  refine Safe.check (fun _ _ => ?_) fun e _ => hfailed e hinv' (.inl hs')
  refine guard_safe hcurrent (fun _ => ?_) fun e => hfailed e hinv' (.inl hs')
  refine Safe.ask fun callbacks => Safe.check (fun _ _ => ?_) fun e _ => hfailed e hinv' (.inl hs')
  obtain ⟨hguar, hsent, hs₁⟩ := hsend s' hinv' hs'
  refine Safe.modify hguar (awaiting_safe hP' hs₁ fun reply s₂ hinv₂ hs₂ hadmits => ?_)
  cases reply with
  | ok view =>
    refine guard_safe hcurrent (fun hF => ?_) fun e => hfailed e hinv₂ (.inr hs₂)
    exact ⟨hinv₂, .inr hs₂, fun found h => by cases h; exact ⟨hs₂, hF, hadmits⟩⟩
  | error e =>
    cases e with
    | http status =>
      refine guard_safe hcurrent (fun _ => ?_) fun e => hfailed e hinv₂ (.inr hs₂)
      exact hfailed _ hinv₂ (.inr hs₂)
    | failed message => exact hfailed _ hinv₂ (.inr hs₂)
    | versionConflict key version => exact hfailed _ hinv₂ (.inr hs₂)

theorem whileCreating_safe {ticket : Nat} {key : DraftKey} {p : Op α}
    {Q R : Except DraftStoreError α → StoreState → Prop}
    (hguar : C.guar s { s with creating := s.creating ++ [(ticket, key)] })
    (hp : Safe C p R { s with creating := s.creating ++ [(ticket, key)] })
    (hclean : ∀ result s', R result s' →
      C.guar s' { s' with creating := s'.creating.filter (·.1 != ticket) }
        ∧ Q result { s' with creating := s'.creating.filter (·.1 != ticket) }) :
    Safe C (whileCreating ticket key p) Q s :=
  Safe.modify hguar (hp.ensuring hclean)

end FormspecWeb.DraftStore
