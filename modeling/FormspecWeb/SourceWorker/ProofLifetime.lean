import FormspecWeb.Async.History
import FormspecWeb.SourceWorker.MixedProofWorkerClient

/-!
# How long a proof stands

A proof is current only before its deadline, at its generation, and while nothing about it has
failed. A refresh is answered only while nothing but the deadline has failed, so that a proof which
was retired for any other reason is refused for good.
-/

namespace FormspecWeb.SourceWorker

open Shared Async

def Lawful (generation : Nat) (factsDeadline : Option Rat) :
    ProofEntry → List ProofEntry → Prop
  | .current now at_ disposed, older => at_ = generation ∧ disposed = false
      ∧ (∃ clock deadline, now = some clock ∧ factsDeadline = some deadline ∧ clock < deadline)
      ∧ ∀ retirement, .failed retirement ∉ older
  | .refresh _, older => ∀ retirement, .failed retirement ∈ older → retirement = .deadline
  | .failed _, _ => True

namespace Proof

def LawfulLog (proof : Proof) : Prop :=
  Throughout (Lawful proof.generation proof.factsDeadline) proof.log

/-- What a returned proof was retired by agrees with what its caller saw. -/
def Standing (proof : Proof) : Prop :=
  match proof.retired with
  | none => proof.expired = false ∧ ∀ retirement, .failed retirement ∉ proof.log
  | some .deadline => proof.expired = true
      ∧ ∀ retirement, .failed retirement ∈ proof.log → retirement = .deadline
  | some _ => proof.expired = false

def StageInv (proof : Proof) : Prop :=
  if proof.completed then proof.Standing else proof.log = [] ∧ proof.expired = false

/-- The deadline is the whole milliseconds of the validity behind the reading of the clock. -/
def DeadlineInv (config : MixedProofWorkerConfig) (proof : Proof) : Prop :=
  ∀ deadline, proof.factsDeadline = some deadline → ∃ validUntil, proof.validUntil = some validUntil
    ∧ MixedProofWorkerClient.deadlineOf config proof.lifetime validUntil = some deadline

structure Inv (config : MixedProofWorkerConfig) (proof : Proof) : Prop where
  log : proof.LawfulLog
  stage : proof.StageInv
  deadline : proof.DeadlineInv config

variable {config : MixedProofWorkerConfig} {proof : Proof}

theorem Standing.of_expired (h : proof.Standing) (hexpired : proof.expired = true) :
    ∀ retirement, .failed retirement ∈ proof.log → retirement = .deadline := by
  unfold Standing at h
  split at h
  · rw [h.1] at hexpired
    cases hexpired
  · exact h.2
  · rw [h] at hexpired
    cases hexpired

theorem Standing.of_open (h : proof.Standing) (hretired : proof.retired = none) :
    proof.expired = false ∧ ∀ retirement, .failed retirement ∉ proof.log := by
  unfold Standing at h
  rw [hretired] at h
  exact h

theorem standing_of_retired {retirement : Retirement} (hretired : proof.retired = some retirement)
    (hne : retirement ≠ .deadline) (hexpired : proof.expired = false) : proof.Standing := by
  unfold Standing
  rw [hretired]
  cases retirement with
  | deadline => exact absurd rfl hne
  | _ => exact hexpired

theorem Standing.failed {retirement : Retirement} (h : proof.Standing)
    (hretired : proof.retired = some retirement) :
    (proof.logged (.failed retirement)).Standing := by
  unfold Standing at h ⊢
  rw [hretired] at h
  unfold logged
  simp only [hretired]
  cases retirement with
  | deadline =>
    refine ⟨h.1, fun other hother => ?_⟩
    rcases List.mem_cons.mp hother with hnew | hold
    · exact ProofEntry.failed.inj hnew
    · exact h.2 other hold
  | _ => exact h

theorem Standing.answered {entry : ProofEntry} (h : proof.Standing)
    (hentry : ∀ retirement, entry ≠ .failed retirement) : (proof.logged entry).Standing := by
  have hmem : ∀ retirement, .failed retirement ∈ entry :: proof.log →
      .failed retirement ∈ proof.log := by
    intro retirement hfailed
    exact (List.mem_cons.mp hfailed).resolve_left (Ne.symm (hentry retirement))
  unfold Standing at h ⊢
  unfold logged
  simp only
  split at h
  · exact ⟨h.1, fun retirement hfailed => h.2 retirement (hmem retirement hfailed)⟩
  · exact ⟨h.1, fun retirement hfailed => h.2 retirement (hmem retirement hfailed)⟩
  · exact h

end Proof

namespace MixedProofWorkerClient

variable {config : MixedProofWorkerConfig} {s t : MixedProofWorkerClient} {proof : Proof}
  {reading : Reading}

/-! ## Checks -/

theorem checkClock_cases (config : MixedProofWorkerConfig) (proof : Proof) (now : Option Rat) :
    (checkClock config proof now = (proof, .error .clock))
      ∨ ∃ clock limit, now = some clock ∧ deadline config proof = some limit
        ∧ (clock < limit ∧ checkClock config proof now
            = ({ proof with lastNow := some clock }, .ok (limit - clock))
          ∨ checkClock config proof now = ({ proof with
              lastNow := some clock, expired := proof.completed }, .error .deadline)) := by
  unfold checkClock
  split
  · next clock limit started current hlimit _ _ =>
    split
    · exact Or.inl rfl
    · refine Or.inr ⟨clock, limit, rfl, hlimit, ?_⟩
      split
      · exact Or.inr rfl
      · next hlt => exact Or.inl ⟨not_le.mp hlt, rfl⟩
  · exact Or.inl rfl

theorem checkOnce_cases (config : MixedProofWorkerConfig) (s : MixedProofWorkerClient) (proof : Proof)
    (reading : Reading) :
    (∃ retirement, retirement ≠ .deadline
        ∧ s.checkOnce config proof reading = (proof, .error retirement))
      ∨ ∃ clock limit, reading.now = some clock ∧ deadline config proof = some limit
        ∧ (clock < limit ∧ s.disposed = false ∧ s.generation = proof.generation
            ∧ s.checkOnce config proof reading
              = ({ proof with lastNow := some clock }, .ok (limit - clock))
          ∨ s.checkOnce config proof reading = ({ proof with
              lastNow := some clock, expired := proof.completed }, .error .deadline)) := by
  unfold checkOnce
  split
  · exact Or.inl ⟨.cancelled, by decide, rfl⟩
  split
  · exact Or.inl ⟨.workerRetired, by decide, rfl⟩
  · next hgeneration =>
    simp only [Bool.or_eq_true, not_or, Bool.not_eq_true, bne_eq_false_iff_eq] at hgeneration
    split
    · exact Or.inl ⟨.authority, by decide, rfl⟩
    · rcases checkClock_cases config proof reading.now with
        hclock | ⟨clock, limit, hnow, hlimit, ⟨hlt, hpass⟩ | hexpire⟩
      · exact Or.inl ⟨.clock, by decide, hclock⟩
      · exact Or.inr ⟨clock, limit, hnow, hlimit,
          Or.inl ⟨hlt, hgeneration.1, hgeneration.2.symm, hpass⟩⟩
      · exact Or.inr ⟨clock, limit, hnow, hlimit, Or.inr hexpire⟩

theorem check_cases (config : MixedProofWorkerConfig) (s : MixedProofWorkerClient) (proof : Proof)
    (reading : Reading) :
    (∃ retirement, proof.retired = some retirement
        ∧ s.check config proof reading = (proof, .error retirement))
      ∨ proof.retired = none ∧
        ((∃ clock limit, reading.now = some clock ∧ deadline config proof = some limit
            ∧ clock < limit ∧ s.disposed = false ∧ s.generation = proof.generation
            ∧ s.check config proof reading
              = ({ proof with lastNow := some clock }, .ok (limit - clock)))
          ∨ (∃ retirement, retirement ≠ .deadline ∧ s.check config proof reading
              = ({ proof with retired := some retirement, aborted := true }, .error retirement))
          ∨ ∃ clock, s.check config proof reading = ({ proof with
              lastNow := some clock, expired := proof.completed,
              retired := some .deadline, aborted := true }, .error .deadline)) := by
  unfold check
  rcases Option.eq_none_or_eq_some proof.retired with hretired | ⟨retirement, hretired⟩
  · refine Or.inr ⟨hretired, ?_⟩
    simp only [hretired]
    rcases checkOnce_cases config s proof reading with
      ⟨retirement, hne, hfail⟩ | ⟨clock, limit, hnow, hlimit,
        ⟨hlt, hdisposed, hgeneration, hpass⟩ | hexpire⟩
    · rw [hfail]
      exact Or.inr (Or.inl ⟨retirement, hne, rfl⟩)
    · rw [hpass]
      refine Or.inl ⟨clock, limit, hnow, hlimit, hlt, hdisposed, hgeneration, ?_⟩
      simp only [hretired]
    · rw [hexpire]
      exact Or.inr (Or.inr ⟨clock, rfl⟩)
  · rw [hretired]
    exact Or.inl ⟨retirement, rfl, rfl⟩

/-- A check changes neither the terms of a proof nor its stage and log. -/
structure Frame (before after : Proof) : Prop where
  lifetime : after.lifetime = before.lifetime
  generation : after.generation = before.generation
  validUntil : after.validUntil = before.validUntil
  factsDeadline : after.factsDeadline = before.factsDeadline
  stage : after.stage = before.stage
  log : after.log = before.log

theorem check_frame (config : MixedProofWorkerConfig) (s : MixedProofWorkerClient) (proof : Proof)
    (reading : Reading) : Frame proof (s.check config proof reading).1 := by
  rcases check_cases config s proof reading with
    ⟨_, -, h⟩ | ⟨-, ⟨_, _, -, -, -, -, -, h⟩ | ⟨_, -, h⟩ | ⟨_, h⟩⟩ <;>
    rw [h] <;> exact ⟨rfl, rfl, rfl, rfl, rfl, rfl⟩

theorem check_ok {remaining : Rat} {after : Proof}
    (h : s.check config proof reading = (after, .ok remaining)) :
    proof.retired = none ∧ s.disposed = false ∧ s.generation = proof.generation
      ∧ ∃ clock limit, reading.now = some clock ∧ deadline config proof = some limit ∧ clock < limit
        ∧ after = { proof with lastNow := some clock } := by
  rcases check_cases config s proof reading with
    ⟨_, -, hcheck⟩ | ⟨hretired, ⟨clock, limit, hnow, hlimit, hlt, hdisposed, hgeneration, hcheck⟩
      | ⟨_, -, hcheck⟩ | ⟨_, hcheck⟩⟩
  · rw [h] at hcheck
    cases (Prod.mk.inj hcheck).2
  · rw [h] at hcheck
    exact ⟨hretired, hdisposed, hgeneration, clock, limit, hnow, hlimit, hlt,
      (Prod.mk.inj hcheck).1⟩
  · rw [h] at hcheck
    cases (Prod.mk.inj hcheck).2
  · rw [h] at hcheck
    cases (Prod.mk.inj hcheck).2

theorem inv_of_frame {before after : Proof} (h : before.Inv config) (hframe : Frame before after)
    (hcompleted : before.completed = false) (hexpired : after.expired = false) :
    after.Inv config := by
  have hstage := h.stage
  unfold Proof.StageInv at hstage
  rw [hcompleted] at hstage
  refine ⟨?_, ?_, ?_⟩
  · unfold Proof.LawfulLog
    rw [hframe.log, hstage.1]
    exact throughout_nil
  · unfold Proof.StageInv
    have hafter : after.completed = false := by
      unfold Proof.completed at hcompleted ⊢
      rw [hframe.stage]
      exact hcompleted
    rw [hafter]
    exact ⟨hframe.log.trans hstage.1, hexpired⟩
  · intro limit hlimit
    rw [hframe.factsDeadline] at hlimit
    rw [hframe.validUntil, hframe.lifetime]
    exact h.deadline limit hlimit

section

variable (h : proof.Inv config) (hcompleted : proof.completed = false)
include h hcompleted

theorem not_expired :
    proof.expired = false := by
  have hstage := h.stage
  unfold Proof.StageInv at hstage
  rw [hcompleted] at hstage
  exact hstage.2

theorem inv_check (reading : Reading) :
    (s.check config proof reading).1.Inv config := by
  have hexpired : proof.expired = false := not_expired h hcompleted
  apply inv_of_frame h (check_frame config s proof reading) hcompleted
  rcases check_cases config s proof reading with
    ⟨_, -, hcheck⟩ | ⟨-, ⟨_, _, -, -, -, -, -, hcheck⟩ | ⟨_, -, hcheck⟩ | ⟨_, hcheck⟩⟩
  · rw [hcheck]
    exact hexpired
  · rw [hcheck]
    exact hexpired
  · rw [hcheck]
    exact hexpired
  · rw [hcheck]
    exact hcompleted

theorem inv_rejected :
    (rejected proof).Inv config := by
  have hstage := h.stage
  unfold Proof.StageInv at hstage
  rw [hcompleted] at hstage
  exact ⟨h.log, hstage, h.deadline⟩

theorem inv_onCheck {act : Proof → Proof} (hact : ∀ clock, proof.retired = none →
      (act { proof with lastNow := some clock }).Inv config) :
    (s.onCheck config reading act proof).Inv config := by
  have hcheck := inv_check (s := s) h hcompleted reading
  have hframe := check_frame config s proof reading
  unfold onCheck
  split
  · next after remaining hpass =>
    obtain ⟨hretired, -, -, clock, _, -, -, -, rfl⟩ := check_ok hpass
    exact hact clock hretired
  · next after retirement hfail =>
    rw [hfail] at hcheck hframe
    apply inv_rejected hcheck
    unfold Proof.completed at hcompleted ⊢
    rw [hframe.stage]
    exact hcompleted

end

theorem inv_lastNow (h : proof.Inv config) (clock : Option Rat) :
    ({ proof with lastNow := clock } : Proof).Inv config :=
  ⟨h.log, h.stage, h.deadline⟩

theorem inv_prepare (h : proof.Inv config) (hcompleted : proof.completed = false)
    (validUntil : String) (reading : Reading) :
    (s.prepare config validUntil reading proof).Inv config := by
  unfold prepare
  split
  · exact inv_rejected h hcompleted
  · next limit hlimit =>
    have hstage := h.stage
    unfold Proof.StageInv at hstage
    rw [hcompleted] at hstage
    have hdeadline : ({ proof with
        validUntil := some validUntil, factsDeadline := some limit } : Proof).Inv config := by
      refine ⟨?_, ?_, ?_⟩
      · unfold Proof.LawfulLog
        simp only [hstage.1]
        exact throughout_nil
      · exact h.stage
      · intro other hother
        cases hother
        exact ⟨validUntil, rfl, hlimit⟩
    exact inv_onCheck hdeadline hcompleted fun clock _ => inv_lastNow hdeadline (some clock)

theorem inv_complete (h : proof.Inv config) (hcompleted : proof.completed = false) (bound : Bool)
    (first second : Reading) : (s.complete config bound first second proof).Inv config := by
  unfold complete
  apply inv_onCheck h hcompleted
  intro clock _
  have hread := inv_lastNow h (some clock)
  cases bound with
  | false => exact inv_rejected hread hcompleted
  | true =>
    simp only [if_true]
    apply inv_onCheck hread hcompleted
    intro again hretired
    have hstage := h.stage
    unfold Proof.StageInv at hstage
    rw [hcompleted] at hstage
    refine ⟨h.log, ?_, h.deadline⟩
    unfold Proof.StageInv Proof.Standing
    have hopen : proof.retired = none := hretired
    simp only [hopen, hstage.1, Proof.completed]
    exact ⟨hstage.2, fun _ h => absurd h List.not_mem_nil⟩

/-! ## Returned proofs -/

section

variable (h : proof.Inv config) (hcompleted : proof.completed = true)
include h hcompleted

theorem inv_logged {after : Proof} {entry : ProofEntry} (hframe : Frame proof after)
    (hlawful : Lawful proof.generation proof.factsDeadline entry proof.log)
    (hstanding : (after.logged entry).Standing) : (after.logged entry).Inv config := by
  refine ⟨?_, ?_, ?_⟩
  · unfold Proof.LawfulLog Proof.logged
    simp only [hframe.generation, hframe.factsDeadline, hframe.log]
    exact throughout_cons.mpr ⟨hlawful, h.log⟩
  · unfold Proof.StageInv
    have hafter : (after.logged entry).completed = true := by
      unfold Proof.completed Proof.logged at *
      simp only [hframe.stage]
      exact hcompleted
    rw [if_pos hafter]
    exact hstanding
  · intro limit hlimit
    have hlimit : after.factsDeadline = some limit := hlimit
    rw [hframe.factsDeadline] at hlimit
    obtain ⟨validUntil, hvalid, heq⟩ := h.deadline limit hlimit
    exact ⟨validUntil, hframe.validUntil.trans hvalid, hframe.lifetime ▸ heq⟩

theorem standing_of_inv :
    proof.Standing := by
  have hstage := h.stage
  unfold Proof.StageInv at hstage
  rw [if_pos hcompleted] at hstage
  exact hstage

theorem inv_assertCurrent
    (reading : Reading) : (s.assertCurrent config proof reading).Inv config := by
  have hstanding := standing_of_inv h hcompleted
  unfold assertCurrent
  rcases check_cases config s proof reading with
    ⟨retirement, hretired, hcheck⟩ | ⟨hretired,
      ⟨clock, limit, hnow, hlimit, hlt, hdisposed, hgeneration, hcheck⟩
        | ⟨retirement, hne, hcheck⟩ | ⟨clock, hcheck⟩⟩
  · rw [hcheck]
    exact inv_logged h hcompleted ⟨rfl, rfl, rfl, rfl, rfl, rfl⟩ trivial (hstanding.failed hretired)
  · rw [hcheck]
    obtain ⟨hexpired, hunfailed⟩ := hstanding.of_open hretired
    refine inv_logged h hcompleted ⟨rfl, rfl, rfl, rfl, rfl, rfl⟩ ?_ ?_
    · unfold deadline at hlimit
      rw [if_pos hcompleted] at hlimit
      exact ⟨hgeneration, hdisposed, ⟨clock, limit, hnow, hlimit, hlt⟩, hunfailed⟩
    · apply Proof.Standing.answered
      · exact hstanding
      · exact nofun
  · rw [hcheck]
    refine inv_logged h hcompleted ⟨rfl, rfl, rfl, rfl, rfl, rfl⟩ trivial ?_
    exact Proof.standing_of_retired rfl hne (hstanding.of_open hretired).1
  · rw [hcheck]
    obtain ⟨hexpired, hunfailed⟩ := hstanding.of_open hretired
    refine inv_logged h hcompleted ⟨rfl, rfl, rfl, rfl, rfl, rfl⟩ trivial ?_
    unfold Proof.Standing Proof.logged
    refine ⟨hcompleted, fun retirement hfailed => ?_⟩
    rcases List.mem_cons.mp hfailed with hnew | hold
    · exact ProofEntry.failed.inj hnew
    · exact absurd hold (hunfailed retirement)

end

theorem refreshOnce_cases (s : MixedProofWorkerClient) (hstanding : proof.Standing)
    (reading : Reading) :
    (∃ retirement, retirement ≠ .deadline ∧ s.refreshOnce proof reading = .error retirement)
      ∨ (∃ answer, s.refreshOnce proof reading = .ok answer)
        ∧ ∀ retirement, .failed retirement ∈ proof.log → retirement = .deadline := by
  unfold refreshOnce
  split
  · exact Or.inl ⟨.cancelled, by decide, rfl⟩
  split
  · exact Or.inl ⟨.authority, by decide, rfl⟩
  split
  · exact Or.inl ⟨.workerRetired, by decide, rfl⟩
  split
  · exact Or.inl ⟨.clock, by decide, rfl⟩
  split
  · exact Or.inl ⟨.clock, by decide, rfl⟩
  · cases hexpired : proof.expired with
    | true =>
      refine Or.inr ⟨⟨_, rfl⟩, hstanding.of_expired hexpired⟩
    | false =>
      simp only [Bool.false_eq_true, if_false, Bool.not_false, Bool.true_and]
      rcases Option.eq_none_or_eq_some proof.retired with hretired | ⟨retirement, hretired⟩
      · simp only [hretired]
        split
        · exact Or.inl ⟨.cancelled, by decide, rfl⟩
        · refine Or.inr ⟨⟨_, rfl⟩, fun retirement hfailed => ?_⟩
          exact absurd hfailed ((hstanding.of_open hretired).2 retirement)
      · simp only [hretired]
        refine Or.inl ⟨retirement, fun heq => ?_, rfl⟩
        unfold Proof.Standing at hstanding
        rw [hretired, heq] at hstanding
        rw [hstanding.1] at hexpired
        cases hexpired

theorem inv_refreshRequired (h : proof.Inv config) (hcompleted : proof.completed = true)
    (reading : Reading) : (s.refreshRequired proof reading).1.Inv config := by
  have hstanding := standing_of_inv h hcompleted
  unfold refreshRequired
  rcases refreshOnce_cases s hstanding reading with ⟨retirement, hne, hfail⟩ | ⟨⟨answer, hpass⟩, hlog⟩
  · rw [hfail]
    refine inv_logged h hcompleted ⟨rfl, rfl, rfl, rfl, rfl, rfl⟩ trivial ?_
    exact Proof.standing_of_retired rfl hne rfl
  · rw [hpass]
    refine inv_logged h hcompleted ⟨rfl, rfl, rfl, rfl, rfl, rfl⟩ hlog ?_
    apply Proof.Standing.answered
    · exact hstanding
    · exact nofun

theorem inv_remainingMilliseconds (h : proof.Inv config) (hcompleted : proof.completed = true)
    (first second : Reading) : (s.remainingMilliseconds config proof first second).Inv config := by
  have hfirst := inv_refreshRequired (s := s) h hcompleted first
  have hstage : (s.refreshRequired proof first).1.completed = true := by
    unfold refreshRequired
    split <;> exact hcompleted
  unfold remainingMilliseconds
  split
  · next after hrequired =>
    rw [hrequired] at hfirst hstage
    exact inv_assertCurrent hfirst hstage second
  · next after _ _ hrequired =>
    rw [hrequired] at hfirst
    exact hfirst

/-! ## Runs -/

def Inv (config : MixedProofWorkerConfig) (s : MixedProofWorkerClient) : Prop :=
  ∀ proof ∈ s.proofs, proof.Inv config

theorem inv_onProof (hs : s.Inv config) {number : Nat} {can : Proof → Bool} {act : Proof → Proof}
    (hact : ∀ proof, proof.Inv config → can proof = true → (act proof).Inv config)
    (h : s.onProof number can act = some t) : t.Inv config := by
  unfold onProof at h
  split at h
  · cases h
  · next proof hproof =>
    split at h
    · next hcan =>
      cases h
      intro other hother
      rcases List.mem_or_eq_of_mem_set hother with hold | rfl
      · exact hs other hold
      · exact hact proof (hs proof (List.mem_of_getElem? hproof)) hcan
    · cases h

theorem inv_signals (h : proof.Inv config) (cancelled aborted : Bool) :
    ({ proof with cancelled := cancelled, aborted := aborted } : Proof).Inv config :=
  ⟨h.log, h.stage, h.deadline⟩

theorem inv_retireFacts (hs : s.Inv config) : s.retireFacts.Inv config := by
  intro proof hproof
  unfold retireFacts at hproof
  cases hactive : s.active with
  | none =>
    simp only [hactive] at hproof
    exact hs proof hproof
  | some active =>
    simp only [hactive] at hproof
    obtain ⟨number, hnumber⟩ := List.getElem?_of_mem hproof
    rw [List.getElem?_modify] at hnumber
    obtain ⟨old, hold, rfl⟩ := Option.map_eq_some_iff.mp hnumber
    have hinv := hs old (List.mem_of_getElem? hold)
    split
    · exact inv_signals hinv _ _
    · exact hinv

theorem completed_of_verifying {proof : Proof} (h : verifying proof = true) :
    proof.completed = false := by
  unfold verifying at h
  unfold Proof.completed
  rw [beq_iff_eq.mp h]
  rfl

theorem inv_verify (hs : s.Inv config) (lifetime : ProofWorkerLifetime) (cancelled : Bool)
    (first second : Reading) : (s.verify config lifetime cancelled first second).Inv config := by
  have hretired : s.retireFacts.Inv config := inv_retireFacts hs
  have hopened : (⟨lifetime, s.retireFacts.generation, cancelled, false, none, none, .verifying,
      false, none, none, []⟩ : Proof).Inv config :=
    ⟨throughout_nil, ⟨rfl, rfl⟩, nofun⟩
  intro proof hproof
  unfold verify at hproof
  rcases List.mem_append.mp hproof with hold | hnew
  · exact hretired proof hold
  · obtain rfl := List.mem_singleton.mp hnew
    apply inv_onCheck hopened rfl
    intro clock _
    apply inv_onCheck (inv_lastNow hopened _) rfl
    intro again _
    exact inv_lastNow hopened _

theorem inv_step (hs : s.Inv config) {event : Event} (h : s.step config event = some t) :
    t.Inv config := by
  cases event with
  | verify lifetime cancelled first second =>
    exact Option.some.inj h ▸ inv_verify hs lifetime cancelled first second
  | checkpoint number reading =>
    refine inv_onProof hs (fun proof hproof hcan => ?_) h
    exact inv_check hproof (completed_of_verifying hcan) reading
  | prepared number validUntil reading =>
    refine inv_onProof hs (fun proof hproof hcan => ?_) h
    exact inv_prepare hproof (completed_of_verifying (Bool.and_eq_true_iff.mp hcan).1)
      validUntil reading
  | verified number bound first second =>
    refine inv_onProof hs (fun proof hproof hcan => ?_) h
    exact inv_complete hproof (completed_of_verifying (Bool.and_eq_true_iff.mp hcan).1)
      bound first second
  | reject number =>
    refine inv_onProof hs (fun proof hproof hcan => ?_) h
    exact inv_rejected hproof (completed_of_verifying hcan)
  | assertCurrent number reading =>
    exact inv_onProof hs (fun proof hproof hcan => inv_assertCurrent hproof hcan reading) h
  | refreshRequired number reading =>
    exact inv_onProof hs (fun proof hproof hcan => inv_refreshRequired hproof hcan reading) h
  | remainingMilliseconds number first second =>
    exact inv_onProof hs
      (fun proof hproof hcan => inv_remainingMilliseconds hproof hcan first second) h
  | timeout number => exact inv_onProof hs (fun proof hproof _ => inv_signals hproof _ _) h
  | abort number => exact inv_onProof hs (fun proof hproof _ => inv_signals hproof _ _) h
  | retireFacts => exact Option.some.inj h ▸ inv_retireFacts hs
  | dispose =>
    cases h
    exact inv_retireFacts (s := { s with disposed := true }) hs

/-- In every run, a returned proof is current before its deadline, at its generation and behind no
failure, and a refresh is answered behind no failure but that of the deadline. -/
theorem proof_lifetime {events : List Event} {states : List MixedProofWorkerClient}
    (h : statesOf (step config) opened events = some states) :
    ∀ reached ∈ states, ∀ proof ∈ reached.proofs, proof.LawfulLog ∧ proof.DeadlineInv config := by
  have hinv := statesOf_invariant (J := Inv config) (P := fun _ _ => True)
    (fun _ _ _ hs _ hstep => inv_step hs hstep) (fun _ h => absurd h List.not_mem_nil)
    (everyStep_of_forall fun _ _ _ => trivial) h
  exact fun reached hreached proof hproof =>
    ⟨(hinv reached hreached proof hproof).log, (hinv reached hreached proof hproof).deadline⟩

section Sample

def sampleConfig : MixedProofWorkerConfig where
  wholeOperationMilliseconds := 5000
  dateParse value := if value == "2026-10-09T12:00:00Z" then some 1000000
    else if value == "2026-10-09T12:00:10Z" then some 1010000 else none

def sampleLifetime : ProofWorkerLifetime := ⟨some 100, "2026-10-09T12:00:00.5Z", some 120⟩

def at_ (now : Rat) : Reading := ⟨true, some now⟩

/-- A proof is verified, current until its deadline of 9620, refreshed behind it, and refused for
good when the clock goes back. -/
def verifiedOnce : List Event :=
  [.verify sampleLifetime false (at_ 120) (at_ 121),
    .prepared 0 "2026-10-09T12:00:10.000000Z" (at_ 200), .verified 0 true (at_ 300) (at_ 301),
    .assertCurrent 0 (at_ 9619), .assertCurrent 0 (at_ 9620), .refreshRequired 0 (at_ 9700),
    .refreshRequired 0 (at_ 9000), .refreshRequired 0 (at_ 9800)]

theorem proof_lifetime_verifiedOnce :
    ∃ states last, statesOf (step sampleConfig) opened verifiedOnce = some states
      ∧ states.getLast? = some last
      ∧ last.proofs.map (·.factsDeadline) = [some 9620]
      ∧ last.proofs.map (·.log.length) = [5]
      ∧ ∀ reached ∈ states, ∀ proof ∈ reached.proofs,
        proof.LawfulLog ∧ proof.DeadlineInv sampleConfig := by
  have hrun : ((statesOf (step sampleConfig) opened verifiedOnce).bind fun states =>
      states.getLast?.map fun last =>
        (last.proofs.map (·.factsDeadline), last.proofs.map (·.log.length)))
        = some ([some 9620], [5]) := by
    decide +kernel
  obtain ⟨states, hstates, hread⟩ := Option.bind_eq_some_iff.mp hrun
  obtain ⟨last, hlast, hpair⟩ := Option.map_eq_some_iff.mp hread
  exact ⟨states, last, hstates, hlast, congrArg Prod.fst hpair, congrArg Prod.snd hpair,
    proof_lifetime hstates⟩

end Sample

end MixedProofWorkerClient

end FormspecWeb.SourceWorker
