import FormspecWeb.Payment.SubmitWithPayment

/-!
# One payment

What a rail makes of the calls of one payment: until it is issued the rail is the one from before,
and once it is issued its status decides what each call returns and where it leads.
-/

namespace FormspecWeb.Payment

open Shared

structure Injected where
  authorize : Option Failure
  capture : Option Failure
  void : Option Failure

/-- A rail that has not met the keys of a payment, and whose ids were minted by its counter. -/
structure Fresh (arguments : RailArguments) (rail : StubPaymentRail) : Prop where
  authorizeKey : rail.authorizationsByKey.lookup arguments.authorizeKey = none
  captureKey : rail.capturesByKey.lookup arguments.captureKey = none
  voidKey : rail.voidsByKey.contains arguments.voidKey = false
  minted : ∀ entry ∈ rail.states, ∃ n ≤ rail.nextId, entry.1 = stubAuthorizationId n

section

variable (arguments : RailArguments) (before : StubPaymentRail)

def paymentAuthorization : Authorization where
  id := stubAuthorizationId (before.nextId + 1)
  amount := arguments.amount
  railLabel := before.railLabel

def paymentReceipt : CaptureReceipt where
  authorizationId := (paymentAuthorization arguments before).id
  amount := arguments.amount
  settledTransactionId := "stub-txn-" ++ (paymentAuthorization arguments before).id
  railLabel := before.railLabel

def railWith (status : StubAuthorizationStatus) (injected : Injected) : StubPaymentRail where
  railLabel := before.railLabel
  states := before.states ++ [((paymentAuthorization arguments before).id,
    ⟨status, arguments.amount, arguments.methodToken⟩)]
  authorizationsByKey := before.authorizationsByKey
    ++ [(arguments.authorizeKey, paymentAuthorization arguments before)]
  capturesByKey := if status = .captured then
      before.capturesByKey ++ [(arguments.captureKey, paymentReceipt arguments before)]
    else before.capturesByKey
  voidsByKey := if status = .voided then before.voidsByKey ++ [arguments.voidKey]
    else before.voidsByKey
  nextId := before.nextId + 1
  pendingAuthorizeError := injected.authorize
  pendingCaptureError := injected.capture
  pendingVoidError := injected.void

def railWithout (injected : Injected) : StubPaymentRail :=
  { before with
    pendingAuthorizeError := injected.authorize
    pendingCaptureError := injected.capture
    pendingVoidError := injected.void }

end

theorem padded_injective {m n : Nat} (h : padded m = padded n) : m = n := by
  have hvalue : ∀ k : Nat, Nat.ofDigitChars 10 (padded k).toList 0 = k := by
    intro k
    rw [padded, String.toList_append, String.toList_ofList, Nat.ofDigitChars_append,
      Nat.ofDigitChars_replicate_zero, Nat.mul_zero, Nat.toString_eq_repr, Nat.toList_repr,
      Nat.ofDigitChars_ten_toDigits]
  rw [← hvalue m, h, hvalue]

theorem stubAuthorizationId_injective {m n : Nat}
    (h : stubAuthorizationId m = stubAuthorizationId n) : m = n := by
  refine padded_injective (String.toList_inj.mp ?_)
  have hlists := congrArg String.toList h
  simpa only [stubAuthorizationId, String.toList_append, List.append_cancel_left_eq] using hlists

section

variable {α : Type} {entries : List (String × α)} {key : String}

theorem lookup_append_self (h : entries.lookup key = none) (value : α) :
    (entries ++ [(key, value)]).lookup key = some value := by
  rw [List.lookup_append, h]
  simp

theorem map_other (h : entries.lookup key = none) (value : α) :
    entries.map (fun (name, old) => (name, ([(key, value)].lookup name).getD old)) = entries := by
  refine (List.map_congr_left fun entry hentry => ?_).trans (List.map_id entries)
  have hne : (entry.1 == key) = false := by
    have hkey := List.lookup_eq_none_iff.mp h entry hentry
    rw [bne_iff_ne] at hkey
    exact beq_eq_false_iff_ne.mpr (Ne.symm hkey)
  simp [List.lookup_cons, hne]

theorem mapSet_new (h : entries.lookup key = none) (value : α) :
    mapSet entries key value = entries ++ [(key, value)] := by
  rw [mapSet, spread, map_other h]
  simp [h]

theorem mapSet_append (h : entries.lookup key = none) (old value : α) :
    mapSet (entries ++ [(key, old)]) key value = entries ++ [(key, value)] := by
  rw [mapSet, spread, List.map_append, map_other h]
  simp [lookup_append_self h]

end

/-! ## Rails that served other payments -/

inductive Served (arguments : RailArguments) : StubPaymentRail → Prop where
  | new (railLabel : Option String) : Served arguments (stubPaymentRailAdapter railLabel)
  | authorize {rail : StubPaymentRail} (amount : Money) (methodToken key : String) :
      Served arguments rail → key ≠ arguments.authorizeKey →
      Served arguments (rail.authorize amount methodToken key).2
  | capture {rail : StubPaymentRail} (authorization : Authorization) (key : String) :
      Served arguments rail → key ≠ arguments.captureKey →
      Served arguments (rail.capture authorization key).2
  | void {rail : StubPaymentRail} (authorization : Authorization) (key : String) :
      Served arguments rail → key ≠ arguments.voidKey →
      Served arguments (rail.voidAuthorization authorization key).2
  | failNextAuthorize {rail : StubPaymentRail} (error : Failure) :
      Served arguments rail → Served arguments (rail.failNextAuthorize error)
  | failNextCapture {rail : StubPaymentRail} (error : Failure) :
      Served arguments rail → Served arguments (rail.failNextCapture error)
  | failNextVoid {rail : StubPaymentRail} (error : Failure) :
      Served arguments rail → Served arguments (rail.failNextVoid error)

theorem lookup_mapSet_ne {α : Type} {entries : List (String × α)} {key other : String} (value : α)
    (h : other ≠ key) : (mapSet entries key value).lookup other = entries.lookup other := by
  have hne : (other == key) = false := beq_eq_false_iff_ne.mpr h
  simp [mapSet, lookup_spread, List.lookup_cons, hne]

theorem mem_mapSet {α : Type} {entries : List (String × α)} {key : String} {value : α}
    {entry : String × α} (h : entry ∈ mapSet entries key value) :
    entry.1 = key ∨ ∃ old ∈ entries, old.1 = entry.1 := by
  rcases List.mem_append.mp h with hmapped | hnew
  · obtain ⟨old, hold, rfl⟩ := List.mem_map.mp hmapped
    exact .inr ⟨old, hold, rfl⟩
  · obtain rfl := List.mem_singleton.mp (List.mem_of_mem_filter hnew)
    exact .inl rfl

section

variable {arguments : RailArguments} {rail : StubPaymentRail}

theorem minted_mapSet {nextId : Nat} {states : List (String × StubAuthorizationState)} {id : String}
    {old new : StubAuthorizationState}
    (h : ∀ entry ∈ states, ∃ n ≤ nextId, entry.1 = stubAuthorizationId n)
    (hold : states.lookup id = some old) :
    ∀ entry ∈ mapSet states id new, ∃ n ≤ nextId, entry.1 = stubAuthorizationId n := by
  intro entry hentry
  rcases mem_mapSet hentry with hid | ⟨known, hknown, hsame⟩
  · obtain ⟨first, rest, rfl, -⟩ := List.lookup_eq_some_iff.mp hold
    exact hid ▸ h (id, old) (by simp)
  · exact hsame ▸ h known hknown

theorem Fresh.authorize_other (h : Fresh arguments rail) (amount : Money) (methodToken : String)
    {key : String} (hkey : key ≠ arguments.authorizeKey) :
    Fresh arguments (rail.authorize amount methodToken key).2 := by
  unfold StubPaymentRail.authorize
  split
  · exact h
  split
  · exact h
  split
  · exact ⟨h.authorizeKey, h.captureKey, h.voidKey, h.minted⟩
  · refine ⟨(lookup_mapSet_ne _ hkey.symm).trans h.authorizeKey, h.captureKey, h.voidKey, ?_⟩
    intro entry hentry
    rcases mem_mapSet hentry with hid | ⟨known, hknown, hsame⟩
    · exact ⟨rail.nextId + 1, Nat.le_refl _, hid⟩
    · obtain ⟨n, hn, hid⟩ := h.minted known hknown
      exact ⟨n, Nat.le_succ_of_le hn, hsame ▸ hid⟩

theorem Fresh.capture_other (h : Fresh arguments rail) (authorization : Authorization) {key : String}
    (hkey : key ≠ arguments.captureKey) : Fresh arguments (rail.capture authorization key).2 := by
  unfold StubPaymentRail.capture
  split
  · exact h
  split
  · exact h
  split
  · exact h
  · rename_i state hstate
    split
    · exact h
    · exact h
    split
    · exact ⟨h.authorizeKey, h.captureKey, h.voidKey, h.minted⟩
    · exact ⟨h.authorizeKey, (lookup_mapSet_ne _ hkey.symm).trans h.captureKey, h.voidKey,
        minted_mapSet h.minted hstate⟩

theorem contains_append_ne {keys : List String} {key other : String} (h : keys.contains other = false)
    (hne : key ≠ other) : (keys ++ [key]).contains other = false := by
  simp_all [eq_comm]

theorem Fresh.void_other (h : Fresh arguments rail) (authorization : Authorization) {key : String}
    (hkey : key ≠ arguments.voidKey) : Fresh arguments (rail.voidAuthorization authorization key).2 := by
  have hvoid := contains_append_ne h.voidKey hkey
  unfold StubPaymentRail.voidAuthorization
  split
  · exact h
  split
  · exact h
  split
  · exact ⟨h.authorizeKey, h.captureKey, hvoid, h.minted⟩
  · rename_i state hstate
    split
    · exact h
    · split
      · exact ⟨h.authorizeKey, h.captureKey, h.voidKey, h.minted⟩
      · exact ⟨h.authorizeKey, h.captureKey, hvoid, minted_mapSet h.minted hstate⟩
    split
    · exact ⟨h.authorizeKey, h.captureKey, h.voidKey, h.minted⟩
    · exact ⟨h.authorizeKey, h.captureKey, hvoid, minted_mapSet h.minted hstate⟩

theorem Served.fresh (h : Served arguments rail) : Fresh arguments rail := by
  induction h with
  | new railLabel => exact ⟨rfl, rfl, rfl, by simp [stubPaymentRailAdapter]⟩
  | authorize amount methodToken key _ hkey ih => exact ih.authorize_other amount methodToken hkey
  | capture authorization key _ hkey ih => exact ih.capture_other authorization hkey
  | void authorization key _ hkey ih => exact ih.void_other authorization hkey
  | failNextAuthorize _ _ ih => exact ⟨ih.authorizeKey, ih.captureKey, ih.voidKey, ih.minted⟩
  | failNextCapture _ _ ih => exact ⟨ih.authorizeKey, ih.captureKey, ih.voidKey, ih.minted⟩
  | failNextVoid _ _ ih => exact ⟨ih.authorizeKey, ih.captureKey, ih.voidKey, ih.minted⟩

end

/-! ## The calls of the payment -/

section

variable {arguments : RailArguments} {before : StubPaymentRail} {injected : Injected}

theorem Fresh.unissued (h : Fresh arguments before) :
    before.states.lookup (paymentAuthorization arguments before).id = none := by
  refine List.lookup_eq_none_iff.mpr fun entry hentry => ?_
  obtain ⟨n, hn, hid⟩ := h.minted entry hentry
  refine bne_iff_ne.mpr fun heq => ?_
  have hsame := stubAuthorizationId_injective (heq.trans hid)
  omega

def authorizeOf (arguments : RailArguments) (before : StubPaymentRail) (injected : Injected) :
    Except Failure Authorization × StubPaymentRail :=
  match injected.authorize with
  | some error => (.error error, railWithout before { injected with authorize := none })
  | none => (.ok (paymentAuthorization arguments before),
      railWith arguments before .authorized injected)

theorem authorize_unissued (hvalid : arguments.Valid) (hfresh : Fresh arguments before) :
    (railWithout before injected).authorize arguments.amount arguments.methodToken
        arguments.authorizeKey
      = authorizeOf arguments before injected := by
  have hkey : assertUuidV7IdempotencyKey arguments.authorizeKey = .ok () := by
    simp [assertUuidV7IdempotencyKey, hvalid.authorizeKey]
  have hunissued : before.states.lookup (stubAuthorizationId (before.nextId + 1)) = none :=
    hfresh.unissued
  obtain ⟨authorize, capture, void⟩ := injected
  cases authorize with
  | some error =>
    simp [StubPaymentRail.authorize, railWithout, authorizeOf, hkey, hvalid.amount,
      hfresh.authorizeKey, bind, Except.bind]
  | none =>
    simp [StubPaymentRail.authorize, railWithout, railWith, authorizeOf, hkey, hvalid.amount,
      hfresh.authorizeKey, mapSet_new hunissued, mapSet_new hfresh.authorizeKey,
      paymentAuthorization, bind, Except.bind]

theorem railWith_authorization (hfresh : Fresh arguments before) (status : StubAuthorizationStatus)
    (injected : Injected) :
    (railWith arguments before status injected).authorizationsByKey.lookup arguments.authorizeKey
      = some (paymentAuthorization arguments before) :=
  lookup_append_self hfresh.authorizeKey _

theorem railWith_state (hfresh : Fresh arguments before) (status : StubAuthorizationStatus)
    (injected : Injected) :
    (railWith arguments before status injected).states.lookup (paymentAuthorization arguments before).id
      = some ⟨status, arguments.amount, arguments.methodToken⟩ :=
  lookup_append_self hfresh.unissued _

theorem railWith_status (hfresh : Fresh arguments before) (status : StubAuthorizationStatus)
    (injected : Injected) :
    (railWith arguments before status injected).status (paymentAuthorization arguments before).id
      = some status := by
  rw [StubPaymentRail.status, railWith_state hfresh]
  rfl

theorem railWith_receipt (hfresh : Fresh arguments before) (status : StubAuthorizationStatus)
    (injected : Injected) :
    (railWith arguments before status injected).capturesByKey.lookup arguments.captureKey
      = if status = .captured then some (paymentReceipt arguments before) else none := by
  unfold railWith
  split
  · exact lookup_append_self hfresh.captureKey _
  · exact hfresh.captureKey

theorem railWith_void (hfresh : Fresh arguments before) (status : StubAuthorizationStatus)
    (injected : Injected) :
    (railWith arguments before status injected).voidsByKey.contains arguments.voidKey
      = decide (status = .voided) := by
  have hvoid := hfresh.voidKey
  cases status <;> simp_all [railWith]

theorem authorize_issued (hvalid : arguments.Valid) (hfresh : Fresh arguments before)
    (status : StubAuthorizationStatus) :
    (railWith arguments before status injected).authorize arguments.amount arguments.methodToken
        arguments.authorizeKey
      = (.ok (paymentAuthorization arguments before), railWith arguments before status injected) := by
  have hkey : assertUuidV7IdempotencyKey arguments.authorizeKey = .ok () := by
    simp [assertUuidV7IdempotencyKey, hvalid.authorizeKey]
  simp [StubPaymentRail.authorize, hkey, hvalid.amount, railWith_authorization hfresh, bind,
    Except.bind]

def captureOf (arguments : RailArguments) (before : StubPaymentRail)
    (status : StubAuthorizationStatus) (injected : Injected) :
    Except Failure CaptureReceipt × StubPaymentRail :=
  match status, injected.capture with
  | .authorized, none =>
    (.ok (paymentReceipt arguments before), railWith arguments before .captured injected)
  | .authorized, some error =>
    (.error error, railWith arguments before .authorized { injected with capture := none })
  | .captured, _ =>
    (.ok (paymentReceipt arguments before), railWith arguments before .captured injected)
  | .voided, _ =>
    (.error ("Authorization " ++ (paymentAuthorization arguments before).id ++ " already voided"),
      railWith arguments before .voided injected)

theorem capture_issued (hvalid : arguments.Valid) (hfresh : Fresh arguments before)
    (status : StubAuthorizationStatus) :
    (railWith arguments before status injected).capture (paymentAuthorization arguments before)
        arguments.captureKey
      = captureOf arguments before status injected := by
  have hkey : assertUuidV7IdempotencyKey arguments.captureKey = .ok () := by
    simp [assertUuidV7IdempotencyKey, hvalid.captureKey]
  have hstate := railWith_state hfresh status injected
  have hreceipt := railWith_receipt hfresh status injected
  unfold StubPaymentRail.capture
  cases status with
  | captured => simp only [hkey, hreceipt, if_true, captureOf]
  | voided => simp [hkey, hreceipt, hstate, captureOf]
  | authorized =>
    simp only [hkey, hreceipt, hstate]
    obtain ⟨authorize, capture, void⟩ := injected
    cases capture with
    | some error => rfl
    | none =>
      simp [railWith, captureOf, mapSet_append hfresh.unissued, mapSet_new hfresh.captureKey]
      rfl

def voidOf (arguments : RailArguments) (before : StubPaymentRail)
    (status : StubAuthorizationStatus) (injected : Injected) :
    Except Failure Unit × StubPaymentRail :=
  match status, injected.void with
  | .authorized, none => (.ok (), railWith arguments before .voided injected)
  | .authorized, some error =>
    (.error error, railWith arguments before .authorized { injected with void := none })
  | .captured, _ =>
    (.error ("Authorization " ++ (paymentAuthorization arguments before).id
      ++ " already captured; use refund instead"), railWith arguments before .captured injected)
  | .voided, _ => (.ok (), railWith arguments before .voided injected)

theorem void_issued (hvalid : arguments.Valid) (hfresh : Fresh arguments before)
    (status : StubAuthorizationStatus) :
    (railWith arguments before status injected).voidAuthorization
        (paymentAuthorization arguments before) arguments.voidKey
      = voidOf arguments before status injected := by
  have hkey : assertUuidV7IdempotencyKey arguments.voidKey = .ok () := by
    simp [assertUuidV7IdempotencyKey, hvalid.voidKey]
  have hstate := railWith_state hfresh status injected
  have hvoid := railWith_void hfresh status injected
  unfold StubPaymentRail.voidAuthorization
  cases status with
  | captured =>
    simp only [hkey, hvoid, hstate, voidOf, reduceCtorEq, decide_false, Bool.false_eq_true,
      if_false]
  | voided => simp only [hkey, hvoid, voidOf, decide_true, if_true]
  | authorized =>
    simp only [hkey, hvoid, hstate]
    obtain ⟨authorize, capture, void⟩ := injected
    cases void with
    | some error => rfl
    | none => simp [railWith, voidOf, mapSet_append hfresh.unissued]

end

end FormspecWeb.Payment
