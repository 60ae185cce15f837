import FormspecWeb.Controller.Terminal

/-!
# The table of deliveries

A delivery stays in the table, with its identity, its operation id and what it has kept, until the
controller is invalidated. A port is called only for the delivery that holds the controller, under
its operation id. A Save or Prepare that has kept its outputs is retired, and what an operation
settled with is what its delivery has kept.
-/

namespace FormspecWeb.Controller

open Shared Ports Engine Async

variable {config : ResponseActionControllerConfig} {F : Schedule} {t : Nat} {s s' : State config}
  {id : String}

structure Delivery.Follows (old delivery : Delivery) : Prop where
  identity : delivery.identity = old.identity
  operationId : delivery.operationId = old.operationId
  completed : ∀ outputs, old.completed = some outputs → delivery.completed = some outputs

theorem Delivery.Follows.refl (delivery : Delivery) : delivery.Follows delivery :=
  ⟨rfl, rfl, fun _ h => h⟩

theorem Delivery.Follows.trans {a b c : Delivery} (hab : a.Follows b) (hbc : b.Follows c) :
    a.Follows c where
  identity := hbc.identity.trans hab.identity
  operationId := hbc.operationId.trans hab.operationId
  completed outputs h := hbc.completed outputs (hab.completed outputs h)

theorem Delivery.Follows.of_core {old delivery : Delivery} (h : delivery.core = old.core) :
    old.Follows delivery := by
  obtain ⟨hidentity, hoperation, -, -, hcompleted⟩ := core_eq h
  exact ⟨hidentity, hoperation, fun outputs hdone => hcompleted.trans hdone⟩

def KeepsDeliveries (s s' : State config) : Prop :=
  ∀ id old, s.deliveries id = some old → ∃ delivery, s'.deliveries id = some delivery ∧ old.Follows delivery

theorem KeepsDeliveries.of_core
    (h : ∀ id, (s'.deliveries id).map Delivery.core = (s.deliveries id).map Delivery.core) :
    KeepsDeliveries s s' := by
  intro id old hold
  have hcore := h id
  rw [hold] at hcore
  obtain ⟨delivery, hdelivery, hsame⟩ := Option.map_eq_some_iff.mp hcore
  exact ⟨delivery, hdelivery, .of_core hsame⟩

theorem KeepsDeliveries.admitCall {hashed : HashedCall} {identity : OperationIdentity} {key : String} :
    KeepsDeliveries s (s.admitCall t hashed identity key) := by
  intro id old hold
  by_cases hid : id = hashed.call.deliveryId
  · subst hid
    refine ⟨_, by simp only [State.admitCall, Function.update_self, Option.map_some]; rfl, ?_⟩
    constructor <;> split <;> simp [admittedDelivery, hold]
  · refine ⟨_, by simp only [State.admitCall, Function.update_of_ne hid, hold, Option.map_some]; rfl, ?_⟩
    split
    · exact ⟨rfl, rfl, fun _ h => h⟩
    · exact .refl old

theorem KeepsDeliveries.update {f : Delivery → Delivery}
    (hf : ∀ delivery, s.deliveries id = some delivery → delivery.Follows (f delivery)) :
    KeepsDeliveries s (s.updateDelivery id f) := by
  intro key old hold
  by_cases hkey : key = id
  · subst hkey
    exact ⟨f old, by simp [State.updateDelivery, hold], hf old hold⟩
  · exact ⟨old, by simp [State.updateDelivery, hkey, hold], .refl old⟩

theorem Move.keepsDeliveries (h : Move F t s s') : KeepsDeliveries s s' ∨ s'.invalidated = true := by
  cases h with
  | quiet hframe => exact .inl (.of_core hframe.deliveries)
  | learn _ hframe => exact .inl (.of_core hframe.deliveries)
  | store h => exact .inl (.of_core h.frame.deliveries)
  | admitCall => exact .inl .admitCall
  | release role id =>
    have hkept : KeepsDeliveries s (s.updateDelivery id fun delivery => { delivery with pending := none }) :=
      .update fun _ _ => ⟨rfl, rfl, fun _ h => h⟩
    exact .inl hkept
  | update role id f _ h =>
    exact .inl (.update fun delivery hdelivery =>
      ⟨h.identity delivery, h.operationId delivery, fun outputs => h.kept delivery outputs hdelivery⟩)
  | invalidate => exact .inr rfl
  | _ => exact .inl (.of_core fun _ => rfl)

theorem Completed.move (hmove : Move F t s s') {outputs : Outputs} (h : Completed id outputs s) :
    Completed id outputs s' := by
  intro hcurrent
  obtain ⟨old, hold, hdone⟩ := h (hmove.invalidated_false hcurrent)
  rcases hmove.keepsDeliveries with hkept | hinvalidated
  · obtain ⟨delivery, hdelivery, hfollows⟩ := hkept id old hold
    exact ⟨delivery, hdelivery, hfollows.completed outputs hdone⟩
  · rw [hcurrent] at hinvalidated
    cases hinvalidated

/-! ## Where a delivery comes from -/

theorem outputs_of_core {old delivery : Delivery} (h : delivery.core = old.core) :
    delivery.identity = old.identity ∧ delivery.completed = old.completed
      ∧ delivery.retired = old.retired := by
  simp only [Delivery.core, Delivery.mk.injEq] at h
  exact ⟨h.1, h.2.2.2.2.2.2.2, h.2.2.2.2.2.2.1⟩

/-- A delivery of after a move has the outputs of before, was written by the call that holds the
controller with it, or has kept none. -/
theorem Move.delivery_of (h : Move F t s s') {delivery : Delivery} (hd : s'.deliveries id = some delivery) :
    (∃ old, s.deliveries id = some old ∧ delivery.identity = old.identity
        ∧ delivery.completed = old.completed ∧ delivery.retired = old.retired)
      ∨ (∃ old f role, s.deliveries id = some old ∧ delivery = f old
        ∧ lockedBy s.log = some (t, .action role id) ∧ Updates s role id f)
      ∨ (delivery.completed = none ∧ (delivery.retired = true →
        ∃ old, s.deliveries id = some old ∧ delivery.identity = old.identity ∧ old.retired = true)) := by
  have hframed : Frame s s' → ∃ old, s.deliveries id = some old ∧ delivery.identity = old.identity
      ∧ delivery.completed = old.completed ∧ delivery.retired = old.retired := by
    intro hframe
    obtain ⟨old, hold, hcore⟩ := hframe.delivery hd
    exact ⟨old, hold, outputs_of_core hcore⟩
  cases h with
  | quiet hframe => exact .inl (hframed hframe)
  | learn _ hframe => exact .inl (hframed hframe)
  | store h => exact .inl (hframed h.frame)
  | admitCall hashed identity key h =>
    rcases Wellformed.admit_some hd with ⟨rfl, hcore⟩ | ⟨-, old, hold, hcore⟩
    · obtain ⟨hidentity, hcompleted, hretired⟩ := outputs_of_core hcore
      have hnone := (Wellformed.admittedDelivery_identity key h).2
      refine .inr (.inr ⟨hcompleted.trans hnone, fun hretires => ?_⟩)
      rw [hretired] at hretires
      cases hold : s.deliveries hashed.call.deliveryId with
      | none => simp [admittedDelivery, hold] at hretires
      | some old =>
        refine ⟨old, rfl, ?_, ?_⟩
        · simp [hidentity, admittedDelivery, hold]
        · simpa [admittedDelivery, hold] using hretires
    · exact .inl ⟨old, hold, outputs_of_core hcore⟩
  | release role key =>
    have hd : (s.updateDelivery key fun delivery => { delivery with pending := none }).deliveries id
        = some delivery := hd
    by_cases hkey : id = key
    · subst hkey
      simp only [State.updateDelivery, Function.update_self] at hd
      obtain ⟨old, hold, rfl⟩ := Option.map_eq_some_iff.mp hd
      exact .inl ⟨old, hold, rfl, rfl, rfl⟩
    · simp only [State.updateDelivery, Function.update_of_ne hkey] at hd
      exact .inl ⟨delivery, hd, rfl, rfl, rfl⟩
  | update role key f hheld h =>
    by_cases hkey : id = key
    · subst hkey
      simp only [State.updateDelivery, Function.update_self] at hd
      obtain ⟨old, hold, rfl⟩ := Option.map_eq_some_iff.mp hd
      exact .inr (.inl ⟨old, f, role, hold, rfl, hheld, h⟩)
    · simp only [State.updateDelivery, Function.update_of_ne hkey] at hd
      exact .inl ⟨delivery, hd, rfl, rfl, rfl⟩
  | invalidate => cases hd
  | _ => exact .inl ⟨delivery, hd, rfl, rfl, rfl⟩

theorem Move.promise_of (h : Move F t s s') {p : Nat} {promise : Promise} {outputs : Outputs}
    (hp : s'.promises p = some promise) (hkeeps : promise.role.keepsOutputs = true)
    (hok : promise.outcome = some (.ok outputs)) :
    s.promises p = some promise ∨ Completed promise.deliveryId outputs s := by
  cases h with
  | quiet hframe => exact .inl (hframe.promises ▸ hp)
  | learn _ hframe => exact .inl (hframe.promises ▸ hp)
  | store h => exact .inl (h.frame.promises ▸ hp)
  | admitCall hashed identity key h =>
    have hp : Function.update s.promises s.nextObject
        (some ⟨hashed.call.role, hashed.call.deliveryId, none⟩) p = some promise := hp
    by_cases hfresh : p = s.nextObject
    · rw [hfresh, Function.update_self] at hp
      cases hp
      cases hok
    · rw [Function.update_of_ne hfresh] at hp
      exact .inl hp
  | settle q outcome settled hsettled _ hkept =>
    have hp : Function.update s.promises q
        ((s.promises q).map fun p => { p with outcome := some outcome }) p = some promise := hp
    by_cases hq : p = q
    · rw [hq, Function.update_self, hsettled, Option.map_some] at hp
      cases hp
      exact .inr (hkept outputs hkeeps (Option.some.inj hok))
    · rw [Function.update_of_ne hq] at hp
      exact .inl hp
  | _ => exact .inl hp

/-! ## The law of the table -/

/-- The delivery a call of the controller dispatches for: the one it holds the controller with. -/
def DispatchesFor (t : Nat) (es : List (Entry config)) (id : String) : Prop :=
  ∃ role, lockedBy es = some (t, .action role id)

/-- A port is called for an admitted delivery only, under the operation id of all calls before that
were dispatched for it. -/
def OneOperation : Entry config → List (Entry config) → Prop
  | .called t call, older => ∃ id, DispatchesFor t older id ∧
      ∀ u other before, .called u other :: before <:+ older → DispatchesFor u before id →
        ∀ operationId earlier, call.operationId = some operationId → other.operationId = some earlier →
          earlier = operationId
  | _, _ => True

structure TableState (s : State config) : Prop where
  calls : Throughout OneOperation s.log
  held : s.invalidated = false → ∀ u call before, .called u call :: before <:+ s.log →
    ∀ id, DispatchesFor u before id → ∀ operationId, call.operationId = some operationId →
      ∃ delivery, s.deliveries id = some delivery ∧ delivery.operationId = operationId
  retires : ∀ id delivery outputs, s.deliveries id = some delivery →
    (delivery.identity.role.isSave || delivery.identity.role == .prepare) = true →
    delivery.completed = some outputs → delivery.retired = true
  retired : ∀ id delivery, s.deliveries id = some delivery → delivery.retired = true →
    (delivery.identity.role.isSave || delivery.identity.role == .prepare) = true
  settled : ∀ p promise outputs, s.promises p = some promise → promise.role.keepsOutputs = true →
    promise.outcome = some (.ok outputs) → Completed promise.deliveryId outputs s

theorem Move.calls_keyed (h : Move F t s s') :
    s'.log = s.log ∨ ∃ e, s'.log = e :: s.log ∧ ∀ u call, e = .called u call →
      u = t ∧ s.invalidated = false ∧ Keyed t s call := by
  refine h.log_cases.imp_right fun ⟨e, hlog, he⟩ => ⟨e, hlog, ?_⟩
  intro u call heq
  subst heq
  rcases he with he | he
  · cases he with
    | called call hcurrent _ _ hkeyed => exact ⟨rfl, hcurrent, hkeyed⟩
  · cases he

theorem Move.oneOperation (hmove : Move F t s s') (h : TableState s) : Throughout OneOperation s'.log := by
  refine h.calls.extend (hmove.calls_keyed.imp_right fun ⟨e, hlog, hkeyed⟩ => ⟨e, hlog, ?_⟩)
  cases e with
  | called u call =>
    obtain ⟨rfl, hcurrent, role, id, delivery, hheld, hdelivery, hoperation⟩ := hkeyed u call rfl
    refine ⟨id, ⟨role, hheld⟩, fun v other before hbefore hfor operationId earlier hnow hthen => ?_⟩
    obtain ⟨found, hfound, rfl⟩ := h.held hcurrent v other before hbefore id hfor earlier hthen
    obtain rfl : delivery = found := Option.some.inj (hdelivery.symm.trans hfound)
    exact (hoperation operationId hnow).symm
  | _ => trivial

theorem Move.held (hmove : Move F t s s') (h : TableState s) (hcurrent : s'.invalidated = false) {u : Nat}
    {call : PortCall} {before : List (Entry config)} (hcalled : .called u call :: before <:+ s'.log)
    (hfor : DispatchesFor u before id) {operationId : String} (hcall : call.operationId = some operationId) :
    ∃ delivery, s'.deliveries id = some delivery ∧ delivery.operationId = operationId := by
  have hbefore := hmove.invalidated_false hcurrent
  have hold : ∃ old, s.deliveries id = some old ∧ old.operationId = operationId := by
    rcases hmove.calls_keyed with hlog | ⟨e, hlog, hkeyed⟩
    · exact h.held hbefore u call before (hlog ▸ hcalled) id hfor operationId hcall
    · rw [hlog] at hcalled
      rcases List.suffix_cons_iff.mp hcalled with heq | hcalled
      · cases heq
        obtain ⟨rfl, -, role, key, delivery, hheld, hdelivery, hoperation⟩ := hkeyed u call rfl
        obtain ⟨role', hfor⟩ := hfor
        rw [hheld] at hfor
        cases hfor
        exact ⟨delivery, hdelivery, (hoperation operationId hcall).symm⟩
      · exact h.held hbefore u call before hcalled id hfor operationId hcall
  obtain ⟨old, hold, rfl⟩ := hold
  rcases hmove.keepsDeliveries with hkept | hinvalidated
  · obtain ⟨delivery, hdelivery, hfollows⟩ := hkept id old hold
    exact ⟨delivery, hdelivery, hfollows.operationId⟩
  · rw [hcurrent] at hinvalidated
    cases hinvalidated

section

variable (hw : Wellformed F s) (hmove : Move F t s s') (h : TableState s)
include hw hmove h

theorem Move.retires {delivery : Delivery}
    {outputs : Outputs} (hd : s'.deliveries id = some delivery)
    (hrole : (delivery.identity.role.isSave || delivery.identity.role == .prepare) = true)
    (hdone : delivery.completed = some outputs) : delivery.retired = true := by
  rcases hmove.delivery_of hd with ⟨old, hold, hidentity, hcompleted, hretired⟩
      | ⟨old, f, role, hold, rfl, hheld, hupdates⟩ | ⟨hnone, -⟩
  · rw [hretired]
    exact h.retires id old outputs hold (hidentity ▸ hrole) (hcompleted ▸ hdone)
  · have hkept : old.identity.role = role := hw.delivers t role id old hheld hold
    rw [hupdates.identity old] at hrole
    rcases hupdates.retires old outputs (hkept ▸ hrole) hdone with hbefore | hretired
    · exact hupdates.retired old (h.retires id old outputs hold hrole hbefore)
    · exact hretired
  · rw [hnone] at hdone
    cases hdone

theorem Move.retired {delivery : Delivery}
    (hd : s'.deliveries id = some delivery) (hretired : delivery.retired = true) :
    (delivery.identity.role.isSave || delivery.identity.role == .prepare) = true := by
  rcases hmove.delivery_of hd with ⟨old, hold, hidentity, -, hsame⟩
      | ⟨old, f, role, hold, rfl, hheld, hupdates⟩ | ⟨-, hbefore⟩
  · rw [hidentity]
    exact h.retired id old hold (hsame ▸ hretired)
  · have hkept : old.identity.role = role := hw.delivers t role id old hheld hold
    rw [hupdates.identity old]
    rcases hupdates.retiring old hretired with hbefore | hrole
    · exact h.retired id old hold hbefore
    · exact hkept ▸ hrole
  · obtain ⟨old, hold, hidentity, hbefore⟩ := hbefore hretired
    rw [hidentity]
    exact h.retired id old hold hbefore

theorem TableState.move : TableState s' where
  calls := hmove.oneOperation h
  held hcurrent _ _ _ hcalled _ hfor _ hcall := hmove.held h hcurrent hcalled hfor hcall
  retires _ _ _ hd hrole hdone := hmove.retires hw h hd hrole hdone
  retired _ _ hd hretired := hmove.retired hw h hd hretired
  settled p promise outputs hp hkeeps hok := by
    rcases hmove.promise_of hp hkeeps hok with hp | hcompleted
    · exact (h.settled p promise outputs hp hkeeps hok).move hmove
    · exact hcompleted.move hmove

end

theorem tableState_initial : TableState (State.initial config) where
  calls := throughout_nil
  held _ _ _ _ hcalled := by cases List.suffix_nil.mp hcalled
  retires _ _ _ hd := by cases hd
  retired _ _ hd := by cases hd
  settled _ _ _ hp := by cases hp

end FormspecWeb.Controller
