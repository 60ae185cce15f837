import FormspecWeb.Payment.OnePayment

/-!
# The ledger of a rail

Over any calls, of any callers and with any keys, an authorization is captured at most once, never
when it was voided, and no key loses what it was answered.
-/

namespace FormspecWeb.Payment

open Shared

/-- What a rail keeps of its payments. -/
structure Ledger where
  nextId : Nat
  states : List (String × StubAuthorizationState)
  authorizationsByKey : List (String × Authorization)
  capturesByKey : List (String × CaptureReceipt)

namespace Ledger

def status (ledger : Ledger) (id : String) : Option StubAuthorizationStatus :=
  (ledger.states.lookup id).map (·.status)

/-- How often an authorization was captured. -/
def captures (ledger : Ledger) (id : String) : Nat :=
  ledger.capturesByKey.countP fun entry => entry.2.authorizationId == id

/-- What one call may write. -/
inductive Write (ledger : Ledger) : Ledger → Prop where
  | issue (key methodToken : String) (authorization : Authorization)
      (hkey : ledger.authorizationsByKey.lookup key = none)
      (hid : authorization.id = stubAuthorizationId (ledger.nextId + 1)) :
      Write ledger ⟨ledger.nextId + 1,
        mapSet ledger.states authorization.id ⟨.authorized, authorization.amount, methodToken⟩,
        mapSet ledger.authorizationsByKey key authorization, ledger.capturesByKey⟩
  | capture (key : String) (receipt : CaptureReceipt) (state : StubAuthorizationState)
      (hkey : ledger.capturesByKey.lookup key = none)
      (hstate : ledger.states.lookup receipt.authorizationId = some state)
      (hstatus : state.status = .authorized) :
      Write ledger { ledger with
        states := mapSet ledger.states receipt.authorizationId { state with status := .captured }
        capturesByKey := mapSet ledger.capturesByKey key receipt }
  | void (id : String) (state : StubAuthorizationState) (hstate : ledger.states.lookup id = some state)
      (hstatus : state.status ≠ .captured) :
      Write ledger { ledger with
        states := mapSet ledger.states id { state with status := .voided } }

end Ledger

inductive RailOperation where
  | authorize (amount : Money) (methodToken idempotencyKey : String)
  | capture (authorization : Authorization) (idempotencyKey : String)
  | void (authorization : Authorization) (idempotencyKey : String)
  | failNextAuthorize (error : Failure)
  | failNextCapture (error : Failure)
  | failNextVoid (error : Failure)

namespace StubPaymentRail

def serve (rail : StubPaymentRail) : RailOperation → StubPaymentRail
  | .authorize amount methodToken key => (rail.authorize amount methodToken key).2
  | .capture authorization key => (rail.capture authorization key).2
  | .void authorization key => (rail.voidAuthorization authorization key).2
  | .failNextAuthorize error => rail.failNextAuthorize error
  | .failNextCapture error => rail.failNextCapture error
  | .failNextVoid error => rail.failNextVoid error

def ledger (rail : StubPaymentRail) : Ledger :=
  ⟨rail.nextId, rail.states, rail.authorizationsByKey, rail.capturesByKey⟩

theorem serve_writes (rail : StubPaymentRail) (operation : RailOperation) :
    (rail.serve operation).ledger = rail.ledger ∨ rail.ledger.Write (rail.serve operation).ledger := by
  cases operation with
  | authorize amount methodToken key =>
    rw [serve, authorize]
    split
    · exact Or.inl rfl
    split
    · exact Or.inl rfl
    · next hkey =>
      split
      · exact Or.inl rfl
      · exact Or.inr (.issue key methodToken ⟨_, amount, rail.railLabel⟩ hkey rfl)
  | capture authorization key =>
    rw [serve, capture]
    split
    · exact Or.inl rfl
    split
    · exact Or.inl rfl
    · next hkey =>
      split
      · exact Or.inl rfl
      · next state hstate =>
        split
        · exact Or.inl rfl
        · exact Or.inl rfl
        · next hstatus =>
          split
          · exact Or.inl rfl
          · exact Or.inr (.capture key ⟨_, _, _, _⟩ state hkey hstate hstatus)
  | void authorization key =>
    rw [serve, voidAuthorization]
    split
    · exact Or.inl rfl
    split
    · exact Or.inl rfl
    split
    · exact Or.inl rfl
    · next state hstate =>
      split
      · exact Or.inl rfl
      all_goals
        split
        · exact Or.inl rfl
        · exact Or.inr (.void _ state hstate (by simp [*]))
  | failNextAuthorize error | failNextCapture error | failNextVoid error => exact Or.inl rfl

end StubPaymentRail

/-! ## What a ledger keeps -/

namespace Ledger

variable {ledger later : Ledger}

structure Sound (ledger : Ledger) : Prop where
  minted : ∀ entry ∈ ledger.states, ∃ n ≤ ledger.nextId, entry.1 = stubAuthorizationId n
  issued : ∀ entry ∈ ledger.authorizationsByKey,
    ∃ n ≤ ledger.nextId, entry.2.id = stubAuthorizationId n
  distinct : (ledger.authorizationsByKey.map (·.2.id)).Nodup
  charged : ∀ id, ledger.captures id = if ledger.status id = some .captured then 1 else 0

/-- What is answered or ended stays so. -/
structure Keeps (ledger later : Ledger) : Prop where
  ended : ∀ id status, ledger.status id = some status → status ≠ .authorized →
    later.status id = some status
  authorization : ∀ key authorization, ledger.authorizationsByKey.lookup key = some authorization →
    later.authorizationsByKey.lookup key = some authorization
  receipt : ∀ key receipt, ledger.capturesByKey.lookup key = some receipt →
    later.capturesByKey.lookup key = some receipt

theorem Keeps.refl (ledger : Ledger) : ledger.Keeps ledger :=
  ⟨fun _ _ h _ => h, fun _ _ h => h, fun _ _ h => h⟩

theorem Keeps.trans {last : Ledger} (h : ledger.Keeps later) (h' : later.Keeps last) :
    ledger.Keeps last where
  ended id status hstatus hended := h'.ended id status (h.ended id status hstatus hended) hended
  authorization key _ hkey := h'.authorization key _ (h.authorization key _ hkey)
  receipt key _ hkey := h'.receipt key _ (h.receipt key _ hkey)

theorem lookup_mapSet_self {α : Type} (entries : List (String × α)) (key : String) (value : α) :
    (mapSet entries key value).lookup key = some value := by
  simp [mapSet, lookup_spread]

/-- A new key loses nothing. -/
theorem lookup_mapSet_of {α : Type} {entries : List (String × α)} {key other : String} {old : α}
    (hkey : entries.lookup key = none) (h : entries.lookup other = some old) (value : α) :
    (mapSet entries key value).lookup other = some old := by
  have hne : other ≠ key := by
    rintro rfl
    cases hkey.symm.trans h
  exact (lookup_mapSet_ne value hne).trans h

theorem Sound.fresh (h : ledger.Sound) :
    ledger.states.lookup (stubAuthorizationId (ledger.nextId + 1)) = none := by
  refine List.lookup_eq_none_iff.mpr fun entry hentry => ?_
  obtain ⟨n, hn, hid⟩ := h.minted entry hentry
  refine bne_iff_ne.mpr fun heq => ?_
  have hsame := stubAuthorizationId_injective (heq.trans hid)
  omega

variable {state : StubAuthorizationState}

/-- The state of one authorization is written. -/
theorem status_mapSet {id : String}
    (h : later.states = mapSet ledger.states id state) (other : String) :
    later.status other = if other = id then some state.status else ledger.status other := by
  rw [status, h]
  split
  · next heq => rw [heq, lookup_mapSet_self, Option.map_some]
  · next hne => rw [lookup_mapSet_ne state hne, status]

theorem write_issue (h : ledger.Sound) {key methodToken : String} {authorization : Authorization}
    (hkey : ledger.authorizationsByKey.lookup key = none)
    (hid : authorization.id = stubAuthorizationId (ledger.nextId + 1))
    (hlater : later = ⟨ledger.nextId + 1,
      mapSet ledger.states authorization.id ⟨.authorized, authorization.amount, methodToken⟩,
      mapSet ledger.authorizationsByKey key authorization, ledger.capturesByKey⟩) :
    later.Sound ∧ ledger.Keeps later := by
  have hstatus := status_mapSet (show later.states = _ by rw [hlater])
  have hfresh : ledger.status authorization.id = none := by
    rw [hid, status, h.fresh, Option.map_none]
  subst hlater
  refine ⟨⟨fun entry hentry => ?_, fun entry hentry => ?_, ?_, fun id => ?_⟩,
    fun id status hold _ => ?_, fun other old hold => lookup_mapSet_of hkey hold authorization,
    fun _ _ hold => hold⟩
  · rcases mem_mapSet hentry with hnew | ⟨known, hknown, hsame⟩
    · exact ⟨ledger.nextId + 1, Nat.le_refl _, hnew.trans hid⟩
    · obtain ⟨n, hn, hminted⟩ := h.minted known hknown
      exact ⟨n, Nat.le_succ_of_le hn, hsame ▸ hminted⟩
  · rw [mapSet_new hkey] at hentry
    rcases List.mem_append.mp hentry with hold | hnew
    · obtain ⟨n, hn, hminted⟩ := h.issued entry hold
      exact ⟨n, Nat.le_succ_of_le hn, hminted⟩
    · exact ⟨ledger.nextId + 1, Nat.le_refl _, List.mem_singleton.mp hnew ▸ hid⟩
  · rw [mapSet_new hkey, List.map_append, List.map_singleton]
    refine List.nodup_append.mpr ⟨h.distinct, by simp, fun old hold new hnew heq => ?_⟩
    obtain ⟨entry, hentry, rfl⟩ := List.mem_map.mp hold
    obtain ⟨n, hn, hminted⟩ := h.issued entry hentry
    rw [List.mem_singleton.mp hnew, hid, hminted] at heq
    have hsame := stubAuthorizationId_injective heq
    omega
  · rw [hstatus]
    split
    · next heq =>
      have hnone := h.charged id
      rw [heq, hfresh] at hnone
      rw [heq]
      exact hnone
    · exact h.charged id
  · rw [hstatus, if_neg, hold]
    rintro rfl
    cases hfresh.symm.trans hold

theorem write_capture (h : ledger.Sound) {key : String} {receipt : CaptureReceipt}
    (hkey : ledger.capturesByKey.lookup key = none)
    (hstate : ledger.states.lookup receipt.authorizationId = some state)
    (hauthorized : state.status = .authorized)
    (hlater : later = { ledger with
      states := mapSet ledger.states receipt.authorizationId { state with status := .captured }
      capturesByKey := mapSet ledger.capturesByKey key receipt }) :
    later.Sound ∧ ledger.Keeps later := by
  have hstatus := status_mapSet (show later.states = _ by rw [hlater])
  have hopen : ledger.status receipt.authorizationId = some .authorized := by
    rw [status, hstate, Option.map_some, hauthorized]
  subst hlater
  refine ⟨⟨minted_mapSet h.minted hstate, h.issued, h.distinct, fun id => ?_⟩,
    fun id status hold hended => ?_, fun _ _ hold => hold,
    fun other old hold => lookup_mapSet_of hkey hold receipt⟩
  · have hbefore := h.charged id
    rw [captures] at hbefore
    rw [hstatus, captures, mapSet_new hkey, List.countP_append, List.countP_singleton, hbefore]
    by_cases heq : receipt.authorizationId = id
    · subst heq
      simp [hopen]
    · simp [heq, Ne.symm heq]
  · rw [hstatus, if_neg, hold]
    rintro rfl
    exact hended (Option.some.inj (hold.symm.trans hopen))

theorem write_void (h : ledger.Sound) {id : String}
    (hstate : ledger.states.lookup id = some state) (huncaptured : state.status ≠ .captured)
    (hlater : later = { ledger with
      states := mapSet ledger.states id { state with status := .voided } }) :
    later.Sound ∧ ledger.Keeps later := by
  have hstatus := status_mapSet (show later.states = _ by rw [hlater])
  have hopen : ledger.status id = some state.status := by rw [status, hstate, Option.map_some]
  subst hlater
  refine ⟨⟨minted_mapSet h.minted hstate, h.issued, h.distinct, fun other => ?_⟩,
    fun other status hold hended => ?_, fun _ _ hold => hold, fun _ _ hold => hold⟩
  · rw [hstatus]
    split
    · next heq =>
      have hbefore := h.charged other
      rw [heq, hopen, if_neg (fun heq => huncaptured (Option.some.inj heq))] at hbefore
      rw [heq]
      exact hbefore
    · exact h.charged other
  · rw [hstatus]
    split
    · next heq =>
      rw [heq, hopen] at hold
      cases hold
      cases hvoided : state.status with
      | authorized => exact absurd hvoided hended
      | captured => exact absurd hvoided huncaptured
      | voided => rfl
    · exact hold

theorem Sound.write (h : ledger.Sound) (hwrite : ledger.Write later) :
    later.Sound ∧ ledger.Keeps later := by
  cases hwrite with
  | issue key methodToken authorization hkey hid => exact write_issue h hkey hid rfl
  | capture key receipt state hkey hstate hstatus => exact write_capture h hkey hstate hstatus rfl
  | void id state hstate hstatus => exact write_void h hstate hstatus rfl

end Ledger

namespace StubPaymentRail

def serveAll (rail : StubPaymentRail) (operations : List RailOperation) : StubPaymentRail :=
  operations.foldl serve rail

theorem sound_serveAll {rail : StubPaymentRail} (h : rail.ledger.Sound)
    (operations : List RailOperation) :
    (rail.serveAll operations).ledger.Sound
      ∧ rail.ledger.Keeps (rail.serveAll operations).ledger := by
  induction operations generalizing rail with
  | nil => exact ⟨h, .refl _⟩
  | cons operation operations ih =>
    have hstep : (rail.serve operation).ledger.Sound
        ∧ rail.ledger.Keeps (rail.serve operation).ledger := by
      rcases rail.serve_writes operation with heq | hwrite
      · rw [heq]
        exact ⟨h, .refl _⟩
      · exact h.write hwrite
    obtain ⟨hsound, hkeeps⟩ := ih hstep.1
    exact ⟨hsound, hstep.2.trans hkeeps⟩

/-- Whatever a new rail is asked, each authorization has one capture if it is captured and none
otherwise, no two keys have the same one, and all that was answered or has ended stays so. -/
theorem rail_ledger (railLabel : Option String) (operations more : List RailOperation) :
    let rail := (stubPaymentRailAdapter railLabel).serveAll operations
    (∀ id, rail.ledger.captures id = if rail.status id = some .captured then 1 else 0)
      ∧ (rail.authorizationsByKey.map (·.2.id)).Nodup
      ∧ rail.ledger.Keeps (rail.serveAll more).ledger := by
  have hopened : (stubPaymentRailAdapter railLabel).ledger.Sound :=
    ⟨fun _ h => (List.not_mem_nil h).elim, fun _ h => (List.not_mem_nil h).elim, List.nodup_nil,
      fun _ => rfl⟩
  obtain ⟨hsound, -⟩ := sound_serveAll hopened operations
  exact ⟨hsound.charged, hsound.distinct, (sound_serveAll hsound more).2⟩

end StubPaymentRail

end FormspecWeb.Payment
