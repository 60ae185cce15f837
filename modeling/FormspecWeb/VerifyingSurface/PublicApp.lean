import FormspecWeb.VerifyingSurface.PublicAppValidation
import Mathlib.Data.List.Perm.Basic
import Mathlib.Algebra.GroupWithZero.Nat

/-!
# A public respondent app

What is left of an app graph that passes the checks: one surface of two routes, the form on the one and
the receipt on the other, and the one action between them.
-/

namespace FormspecWeb.VerifyingSurface.Respondent

open Shared

theorem isText_iff {value : Option Value} {expected : String} :
    isText value expected = true ↔ text value = some expected := by
  rw [isText, beq_iff_eq]

theorem strictEq_text {first second : Option Value} (h : strictEq first second = true) :
    text first = text second := by
  unfold strictEq at h
  split at h
  all_goals first | rfl | (rw [eq_of_beq h]) | cases h

theorem strictEq_string {value : Option Value} {expected : String} :
    strictEq value (some (.string expected)) = true ↔ text value = some expected := by
  constructor
  · exact strictEq_text
  · intro h
    obtain ⟨found, rfl, hfound⟩ := Option.bind_eq_some_iff.mp h
    cases found with
    | string found =>
      obtain rfl := Option.some.inj hfound
      exact beq_self_eq_true found
    | _ => cases hfound

variable {α β : Type}

theorem sum_diagnostics {passes : List Tally} :
    (Tally.sum passes).diagnostics = [] ↔ ∀ pass ∈ passes, pass.diagnostics = [] := by
  induction passes with
  | nil => simp [Tally.sum, Tally.reported]
  | cons pass passes ih => rw [Tally.sum, List.forall_mem_cons, Tally.add, List.append_eq_nil_iff, ih]

theorem sum_count (count : Tally → Nat) (hnone : count (Tally.reported []) = 0)
    (hadd : ∀ first second, count (Tally.add first second) = count first + count second)
    (passes : List Tally) : count (Tally.sum passes) = (passes.map count).sum := by
  induction passes with
  | nil => exact hnone
  | cons pass passes ih => rw [Tally.sum, hadd, ih, List.map_cons, List.sum_cons]

theorem sum_indicator (p : α → Bool) (l : List α) :
    (l.map fun a => if p a then 1 else 0).sum = l.countP p := by
  induction l with
  | nil => rfl
  | cons a l ih =>
    rw [List.map_cons, List.sum_cons, ih, List.countP_cons]
    omega

theorem flatMap_if (p : α → Bool) (f : α → List β) (l : List α) :
    (l.flatMap fun a => if p a then f a else []) = (l.filter p).flatMap f := by
  induction l with
  | nil => rfl
  | cons a l ih =>
    rw [List.flatMap_cons, ih, List.filter_cons]
    split <;> rfl

theorem perm_of_counts {p q : α → Bool} {l : List α} (hkinds : ∀ a ∈ l, q a = !p a)
    (hp : l.countP p = 1) (hq : l.countP q = 1) :
    ∃ a b, l.filter p = [a] ∧ l.filter q = [b] ∧ l.Perm [a, b] := by
  rw [List.countP_eq_length_filter] at hp hq
  obtain ⟨a, ha⟩ := List.length_eq_one_iff.mp hp
  obtain ⟨b, hb⟩ := List.length_eq_one_iff.mp hq
  have hrest : l.filter (fun a => !p a) = [b] := by
    rw [← hb]
    exact List.filter_congr fun a hmem => (hkinds a hmem).symm
  refine ⟨a, b, ha, hb, ?_⟩
  have hperm := List.filter_append_perm p l
  rw [ha, hrest] at hperm
  exact hperm.symm

/-! ## What the passes find -/

def isPanel (slot : Value) : Bool :=
  isText (slot.get? "slotType") "module-widget"
    && (text (at? (record (slot.get? "binding")) "widgetName")).any fun name =>
      truthy name && isReceiptWidget name

def slotsWhere (kind : Value → Bool) (routes : List Value) : List (Value × Value) :=
  routes.flatMap fun route => ((slotsOf route).filter kind).map fun slot => (route, slot)

variable {routes : List Value}

theorem mem_slotsWhere {kind : Value → Bool} {route slot : Value} :
    (route, slot) ∈ slotsWhere kind routes ↔ route ∈ routes ∧ slot ∈ slotsOf route ∧ kind slot = true := by
  simp only [slotsWhere, List.mem_flatMap, List.mem_map, List.mem_filter, Prod.mk.injEq]
  constructor
  · rintro ⟨found, hfound, inner, ⟨hinner, hkind⟩, rfl, rfl⟩
    exact ⟨hfound, hinner, hkind⟩
  · rintro ⟨hroute, hslot, hkind⟩
    exact ⟨route, hroute, slot, ⟨hslot, hkind⟩, rfl, rfl⟩

variable {context : AppGraphContext} {policy : RespondentPublicAppPolicy}
  {receiptSource : Option ReceiptSourceIdentity} {handle : ResolvedArtifactHandle} {route slot : Value}

structure WidgetOk (policy : RespondentPublicAppPolicy) (receiptSource : Option ReceiptSourceIdentity)
    (place : WidgetSlot) : Prop where
  unbound : at? place.binding "actionBindings" = none
  starter : place.isStarter policy = true
  receipt : place.isReceipt = true →
    place.bindsReceipt receiptSource = true ∧ place.qualifiedAvailability receiptSource = true

theorem widgetPass_ok {place : WidgetSlot}
    (h : (place.widgetPass policy receiptSource).diagnostics = []) :
    WidgetOk policy receiptSource place := by
  simp only [WidgetSlot.widgetPass, List.append_eq_nil_iff, reportIf_eq_nil, Option.isSome_eq_false_iff,
    Option.isNone_iff_eq_none, Bool.not_eq_false'] at h
  obtain ⟨⟨hunbound, hstarter⟩, hreceipt⟩ := h
  refine ⟨hunbound, hstarter, fun hpanel => ?_⟩
  rw [if_pos hpanel] at hreceipt
  simpa only [WidgetSlot.receiptFindings, List.append_eq_nil_iff, reportIf_eq_nil, Bool.not_eq_false']
    using hreceipt

variable {routeClass : Option String}

theorem slotPass_ok
    (h : (slotPass policy receiptSource handle route routeClass slot).diagnostics = []) :
    text (slot.get? "slotType") ≠ some "embed-route"
      ∧ (isText (slot.get? "slotType") "module-widget" = true →
        WidgetOk policy receiptSource ⟨handle, route, routeClass, slot⟩) := by
  dsimp only [slotPass] at h
  split at h
  · next hother =>
    simp only [Tally.reported, List.append_eq_nil_iff, reportIf_eq_nil] at h
    refine ⟨fun heq => ?_, fun hwidget => ?_⟩
    · rw [heq] at h
      exact absurd h.1 (by decide)
    · rw [isText_iff] at hwidget
      rw [hwidget] at hother
      exact absurd hother (by decide)
  · simp only [Tally.add, Tally.reported, List.append_eq_nil_iff, reportIf_eq_nil] at h
    refine ⟨fun heq => ?_, fun _ => widgetPass_ok h.2⟩
    rw [heq] at h
    exact absurd h.1.1 (by decide)

theorem slotPass_panels :
    (slotPass policy receiptSource handle route routeClass slot).receiptWidgets
      = if isPanel slot then 1 else 0 := by
  dsimp only [slotPass]
  by_cases hwidget : text (slot.get? "slotType") = some "module-widget"
  · have hpanel : isPanel slot = (WidgetSlot.mk handle route routeClass slot).isReceipt := by
      rw [isPanel, isText, hwidget]
      exact Bool.true_and _
    rw [if_neg (by rw [hwidget]; decide), hpanel]
    exact Nat.zero_add _
  · have hpanel : isPanel slot = false := by
      rw [isPanel, isText, beq_eq_false_iff_ne.mpr hwidget]
      exact Bool.false_and _
    rw [if_pos (by simpa using hwidget), hpanel]
    rfl

theorem slotPass_routes :
    (slotPass policy receiptSource handle route routeClass slot).intakeRoutes = 0
      ∧ (slotPass policy receiptSource handle route routeClass slot).proofRoutes = 0 := by
  dsimp only [slotPass]
  split <;> exact ⟨rfl, rfl⟩

structure RouteOk (policy : RespondentPublicAppPolicy) (receiptSource : Option ReceiptSourceIdentity)
    (handle : ResolvedArtifactHandle) (route : Value) : Prop where
  routeClass : isText (route.get? "routeClass") "proof" = !isText (route.get? "routeClass") "intake"
  proof : isText (route.get? "routeClass") "proof" = true → proofFindings handle.routes route = []
  slots : ∀ slot ∈ slotsOf route, text (slot.get? "slotType") ≠ some "embed-route"
    ∧ (isText (slot.get? "slotType") "module-widget" = true →
      WidgetOk policy receiptSource ⟨handle, route, text (route.get? "routeClass"), slot⟩)

theorem routePass_ok (h : (routePass policy receiptSource handle route).diagnostics = []) :
    RouteOk policy receiptSource handle route
      ∧ (routePass policy receiptSource handle route).receiptWidgets = (slotsOf route).countP isPanel := by
  dsimp only [routePass] at h ⊢
  split at h
  · cases h
  · next hclass =>
    rw [if_neg hclass]
    obtain ⟨name, hname, hpublic⟩ : ∃ name, text (route.get? "routeClass") = some name
        ∧ (truthy name && publicRouteClasses.contains name) = true := by
      simpa only [Bool.not_eq_true', Bool.not_eq_false, Option.any_eq_true] using hclass
    rw [Bool.and_eq_true, publicRouteClasses, List.contains_iff_mem, List.mem_pair] at hpublic
    simp only [Tally.add, List.append_eq_nil_iff, sum_diagnostics, List.forall_mem_map] at h
    obtain ⟨hproof, hslots⟩ := h
    refine ⟨⟨?_, fun hisProof => ?_, fun slot hslot => slotPass_ok (hslots slot hslot)⟩, ?_⟩
    · rcases hpublic.2 with rfl | rfl
      · simp [isText, hname]
      · simp [isText, hname]
    · rw [isText] at hisProof
      rw [if_pos hisProof] at hproof
      exact hproof
    · simp only [Tally.add, Nat.zero_add]
      rw [sum_count Tally.receiptWidgets rfl (fun _ _ => rfl), List.map_map, ← sum_indicator]
      congr 1
      exact List.map_congr_left fun slot _ => slotPass_panels

theorem routePass_count {count : Tally → Nat} {kind : String} (hnone : count (.reported []) = 0)
    (hreported : ∀ found, count (.reported found) = 0)
    (hadd : ∀ first second, count (first.add second) = count first + count second)
    (hkind : (truthy kind && publicRouteClasses.contains kind) = true)
    (hslot : ∀ slot routeClass, count (slotPass policy receiptSource handle route routeClass slot) = 0)
    (hown : ∀ found, count ⟨found, if text (route.get? "routeClass") == some "intake" then 1 else 0,
        if text (route.get? "routeClass") == some "proof" then 1 else 0, 0⟩
      = if isText (route.get? "routeClass") kind then 1 else 0) :
    count (routePass policy receiptSource handle route)
      = if isText (route.get? "routeClass") kind then 1 else 0 := by
  dsimp only [routePass]
  split
  · next hclass =>
    have hother : isText (route.get? "routeClass") kind = false := by
      rw [isText, beq_eq_false_iff_ne]
      intro heq
      rw [heq, Option.any_some, hkind] at hclass
      exact absurd hclass (by decide)
    rw [hother]
    exact hreported _
  · have hslots : count (.sum ((slotsOf route).map
        (slotPass policy receiptSource handle route (text (route.get? "routeClass"))))) = 0 := by
      rw [sum_count count hnone hadd, List.map_map, List.sum_eq_zero_iff_forall_eq_nat]
      intro found hfound
      obtain ⟨slot, -, rfl⟩ := List.mem_map.mp hfound
      exact hslot slot _
    rw [hadd, hslots, Nat.add_zero]
    exact hown _

theorem routePass_intake :
    (routePass policy receiptSource handle route).intakeRoutes
      = if isText (route.get? "routeClass") "intake" then 1 else 0 :=
  routePass_count rfl (fun _ => rfl) (fun _ _ => rfl) (by decide) (fun _ _ => slotPass_routes.1) (fun _ => rfl)

theorem routePass_proof :
    (routePass policy receiptSource handle route).proofRoutes
      = if isText (route.get? "routeClass") "proof" then 1 else 0 :=
  routePass_count rfl (fun _ => rfl) (fun _ _ => rfl) (by decide) (fun _ _ => slotPass_routes.2) (fun _ => rfl)

theorem slotsWhere_length {kind : Value → Bool} :
    (slotsWhere kind routes).length = (routes.map fun route => (slotsOf route).countP kind).sum := by
  rw [slotsWhere, List.length_flatMap]
  congr 1
  refine List.map_congr_left fun route _ => ?_
  rw [List.length_map, List.countP_eq_length_filter]

variable {surface : ResolvedArtifactHandle}

theorem validatePublicSurfaces_ok
    (honly : context.handlesOf "surface" = [surface]) (h : validatePublicSurfaces context policy = []) :
    (∀ route ∈ surface.routes, RouteOk policy (respondentReceiptSource context policy) surface route)
      ∧ surface.routes.countP (fun route => isText (route.get? "routeClass") "intake") = 1
      ∧ surface.routes.countP (fun route => isText (route.get? "routeClass") "proof") = 1
      ∧ (slotsWhere isPanel surface.routes).length = 1 := by
  have hcount : ∀ count : Tally → Nat, count (.reported []) = 0 →
      (∀ first second, count (first.add second) = count first + count second) →
      count (surfacesTally context policy)
        = (surface.routes.map (count ∘ routePass policy (respondentReceiptSource context policy) surface)).sum := by
    intro count hnone hadd
    rw [surfacesTally, honly, List.map_singleton, Tally.sum, Tally.sum, hadd, hnone, Nat.add_zero,
      sum_count count hnone hadd, List.map_map]
  simp only [validatePublicSurfaces, List.append_eq_nil_iff, reportIf_eq_nil, bne_eq_false_iff_eq] at h
  obtain ⟨⟨⟨hfound, hintake⟩, hproof⟩, hpanels⟩ := h
  have hroutes : ∀ route ∈ surface.routes,
      (routePass policy (respondentReceiptSource context policy) surface route).diagnostics = [] := by
    rw [surfacesTally, honly, List.map_singleton, sum_diagnostics] at hfound
    have hsurface := hfound _ List.mem_cons_self
    rw [sum_diagnostics, List.forall_mem_map] at hsurface
    exact hsurface
  refine ⟨fun route hroute => (routePass_ok (hroutes route hroute)).1, ?_, ?_, ?_⟩
  · rw [← hintake, hcount Tally.intakeRoutes rfl fun _ _ => rfl, ← sum_indicator]
    congr 1
    exact List.map_congr_left fun route _ => routePass_intake.symm
  · rw [← hproof, hcount Tally.proofRoutes rfl fun _ _ => rfl, ← sum_indicator]
    congr 1
    exact List.map_congr_left fun route _ => routePass_proof.symm
  · rw [← hpanels, hcount Tally.receiptWidgets rfl fun _ _ => rfl, slotsWhere_length]
    congr 1
    exact List.map_congr_left fun route hroute => (routePass_ok (hroutes route hroute)).2.symm

/-! ## The flow -/

theorem entrySurfaceOf_ok (h : entrySurfaceOf context = .ok surface) :
    context.handlesOf "surface" = [surface]
      ∧ ∃ url, url ≠ "" ∧ text (at? context.manifestRecord "entrySurface") = some url
        ∧ surface.refUrl = some url := by
  simp only [entrySurfaceOf, failIf_bind_ok, Bool.or_eq_false_iff, Bool.not_eq_false', Option.any_eq_true,
    bne_eq_false_iff_eq] at h
  obtain ⟨⟨⟨⟨url, hurl, htruthy⟩, hselected⟩, honly⟩, hsurface⟩ := h
  obtain ⟨only, honly⟩ := List.length_eq_one_iff.mp honly
  obtain ⟨selected, hselected⟩ := List.length_eq_one_iff.mp hselected
  rw [hselected] at hsurface
  obtain rfl : selected = surface := Except.ok.inj hsurface
  have hmem : selected ∈ (context.handlesOf "surface").filter
      (·.refUrl == text (at? context.manifestRecord "entrySurface")) := hselected ▸ List.mem_cons_self
  obtain ⟨hmem, hrefUrl⟩ := List.mem_filter.mp hmem
  rw [honly] at hmem
  obtain rfl := List.mem_singleton.mp hmem
  exact ⟨honly, url, by simpa [truthy] using htruthy, hurl, (eq_of_beq hrefUrl).trans hurl⟩

theorem entryIntakeOf_ok {intake : Value × Nat}
    (h : entryIntakeOf surface = .ok intake) :
    surface.routes.zipIdx.filter (fun route =>
        strictEq (route.1.get? "id") ((text (surface.member "entry")).map .string)) = [intake]
      ∧ isText (intake.1.get? "routeClass") "intake" = true := by
  simp only [entryIntakeOf, failIf_bind_ok, Bool.or_eq_false_iff, bne_eq_false_iff_eq,
    Bool.not_eq_false'] at h
  obtain ⟨⟨hone, hclass⟩, hintake⟩ := h
  obtain ⟨selected, hselected⟩ := List.length_eq_one_iff.mp hone
  rw [hselected] at hintake hclass
  obtain rfl : selected = intake := Except.ok.inj hintake
  exact ⟨hselected, hclass⟩

theorem definitionSlots_routes (routes : List Value) :
    (definitionSlots routes).map (fun form => (form.1.1, form.2))
      = slotsWhere (fun slot => isText (slot.get? "slotType") "definition-form") routes := by
  rw [definitionSlots, slotsWhere, List.map_flatMap]
  simp only [List.map_map, Function.comp_def]
  have hindices := List.flatMap_map (f := Prod.fst) (l := routes.zipIdx)
    (g := fun route : Value => ((slotsOf route).filter fun slot =>
      isText (slot.get? "slotType") "definition-form").map fun slot => (route, slot))
  rw [List.zipIdx_map_fst] at hindices
  exact hindices.symm

theorem zipIdx_inj {l : List α} {first second : α × Nat} (hfirst : first ∈ l.zipIdx)
    (hsecond : second ∈ l.zipIdx) (h : first.2 = second.2) : first.1 = second.1 := by
  have hleft := List.mem_zipIdx_iff_getElem?.mp hfirst
  rw [h, List.mem_zipIdx_iff_getElem?.mp hsecond] at hleft
  exact (Option.some.inj hleft).symm

theorem formDefinitionOf_ok {intake : Value × Nat}
    {definitionRef : String} (hintake : intake ∈ surface.routes.zipIdx)
    (h : formDefinitionOf context surface intake = .ok definitionRef) :
    ∃ form definition,
      slotsWhere (fun slot => isText (slot.get? "slotType") "definition-form") surface.routes = [(intake.1, form)]
      ∧ definitionRef ≠ "" ∧ definitionRefOf (some form) = some definitionRef
      ∧ boundDefinitions context (some definitionRef) = [definition] := by
  simp only [formDefinitionOf, failIf_bind_ok, Bool.or_eq_false_iff, bne_eq_false_iff_eq,
    Bool.not_eq_false', Option.any_eq_true] at h
  obtain ⟨⟨hone, hplace⟩, ⟨⟨url, hurl, htruthy⟩, hbound⟩, hurlOf⟩ := h
  obtain ⟨⟨place, form⟩, hforms⟩ := List.length_eq_one_iff.mp hone
  obtain ⟨definition, hdefinition⟩ := List.length_eq_one_iff.mp hbound
  rw [hforms] at hplace hurl hurlOf hdefinition
  have hmem : (place, form) ∈ definitionSlots surface.routes := hforms ▸ List.mem_cons_self
  obtain ⟨found, hfound, hinner⟩ := List.mem_flatMap.mp hmem
  obtain ⟨slot, -, heq⟩ := List.mem_map.mp hinner
  obtain ⟨rfl, rfl⟩ := Prod.mk.inj heq
  have hroute : found.1 = intake.1 := zipIdx_inj hfound hintake (Option.some.inj hplace)
  have hall := definitionSlots_routes surface.routes
  rw [hforms, List.map_singleton, hroute] at hall
  simp only [List.head?_cons, Option.map_some] at hurl hurlOf hdefinition
  rw [hurl] at hurlOf hdefinition
  obtain rfl : url = definitionRef := Except.ok.inj hurlOf
  exact ⟨slot, definition, hall.symm, by simpa [truthy] using htruthy, hurl, hdefinition⟩

theorem submitActionOf_ok {definitionRef : String} {action : Value}
    (h : submitActionOf context definitionRef = .ok action) :
    ∃ actions, context.handlesOf "responseActions" = [actions]
      ∧ records (actions.member "actions") = [action]
      ∧ text (action.get? "intent") = some "submit"
      ∧ text (at? (record (actions.member "targetDefinition")) "url") = some definitionRef := by
  simp only [submitActionOf, failIf_bind_ok, Bool.or_eq_false_iff, bne_eq_false_iff_eq] at h
  obtain ⟨⟨⟨⟨hdocuments, hactions⟩, hsubmits⟩, htarget⟩, haction⟩ := h
  obtain ⟨actions, hdocument⟩ := List.length_eq_one_iff.mp hdocuments
  rw [hdocument] at hactions hsubmits htarget haction
  rw [List.flatMap_singleton] at hactions hsubmits haction
  obtain ⟨only, honly⟩ := List.length_eq_one_iff.mp hactions
  obtain ⟨submit, hsubmit⟩ := List.length_eq_one_iff.mp hsubmits
  rw [hsubmit] at haction
  obtain rfl : submit = action := Except.ok.inj haction
  have hmem : submit ∈ (records (actions.member "actions")).filter fun action =>
      isText (action.get? "intent") "submit" := hsubmit ▸ List.mem_cons_self
  obtain ⟨hmem, hintent⟩ := List.mem_filter.mp hmem
  rw [honly] at hmem
  obtain rfl := List.mem_singleton.mp hmem
  exact ⟨actions, hdocument, honly, isText_iff.mp hintent, htarget⟩

theorem checkSubmitAction_ok {action : Value} (h : checkSubmitAction action = .ok ()) :
    ∃ effect, records (action.get? "effects") = [effect] ∧ isSubmitHostEvent effect = true := by
  simp only [checkSubmitAction, failIf_bind_ok, failIf_ok, Bool.or_eq_false_iff, bne_eq_false_iff_eq,
    effectsOf, List.length_zipIdx] at h
  obtain ⟨-, -, ⟨heffects, hevents⟩, -⟩ := h
  obtain ⟨effect, heffect⟩ := List.length_eq_one_iff.mp heffects
  refine ⟨effect, heffect, ?_⟩
  rw [heffect] at hevents
  cases hevent : isSubmitHostEvent effect with
  | true => rfl
  | false => simp [hevent] at hevents

theorem checkSubmitTransition_ok {intake action : Value}
    (h : checkSubmitTransition routes intake action = .ok ()) :
    ∃ transition, submitTransitions routes intake action = [transition]
      ∧ transition.get? "when" = none := by
  simp only [checkSubmitTransition, failIf_bind_ok, failIf_ok, bne_eq_false_iff_eq] at h
  obtain ⟨hone, hwhen⟩ := h
  obtain ⟨transition, htransition⟩ := List.length_eq_one_iff.mp hone
  rw [htransition] at hwhen
  exact ⟨transition, htransition, Option.isSome_eq_false_iff.mp hwhen |> Option.isNone_iff_eq_none.mp⟩

theorem validateReceiptSources_ok (h : validateReceiptSources context policy = []) :
    ∃ catalog source, dataSources context = [(catalog, source)] ∧ isReceiptSource policy source = true := by
  simp only [validateReceiptSources, List.append_eq_nil_iff, List.flatMap_eq_nil_iff, reportIf_eq_nil,
    Bool.not_eq_false', bne_eq_false_iff_eq] at h
  obtain ⟨hall, hcount⟩ := h
  rw [List.countP_eq_length.mpr hall] at hcount
  obtain ⟨⟨catalog, source⟩, honly⟩ := List.length_eq_one_iff.mp hcount
  exact ⟨catalog, source, honly, hall (catalog, source) (honly ▸ List.mem_cons_self)⟩

theorem respondentReceiptSource_some {found : ReceiptSourceIdentity}
    (h : respondentReceiptSource context policy = some found) :
    ∃ catalog, (catalog, found.source) ∈ dataSources context ∧ catalog.refUrl = some found.catalogRef
      ∧ text (found.source.get? "id") = some found.sourceRef := by
  unfold respondentReceiptSource at h
  split at h
  · next only honly =>
    obtain rfl := Option.some.inj h
    have hmem : only ∈ (context.handlesOf "dataSources").flatMap (receiptSourcesOf policy) :=
      honly ▸ List.mem_cons_self
    obtain ⟨catalog, hcatalog, hsource⟩ := List.mem_flatMap.mp hmem
    unfold receiptSourcesOf at hsource
    split at hsource
    · cases hsource
    · next catalogRef hrefUrl =>
      obtain ⟨source, hmember, hof⟩ := List.mem_filterMap.mp hsource
      unfold receiptSourceOf at hof
      split at hof
      · obtain ⟨sourceRef, hid, rfl⟩ := Option.map_eq_some_iff.mp hof
        refine ⟨catalog, List.mem_flatMap.mpr ⟨catalog, hcatalog, ?_⟩, hrefUrl, hid⟩
        exact List.mem_map_of_mem hmember
      · cases hof
  · cases h

/-! ## The app -/

structure RespondentApp where
  surface : ResolvedArtifactHandle
  intake : Value
  proof : Value
  form : Value
  definition : ResolvedArtifactHandle
  actions : ResolvedArtifactHandle
  submit : Value
  transition : Value
  panel : Value
  catalog : ResolvedArtifactHandle
  source : Value

namespace RespondentApp

/-- The widget of a slot is the module's, on a route of its class, and binds no action. -/
structure OwnWidget (policy : RespondentPublicAppPolicy) (route slot : Value) : Prop where
  module : text (at? (record (slot.get? "binding")) "moduleId") = some policy.starterModuleId
  place : ∃ name, text (at? (record (slot.get? "binding")) "widgetName") = some name
    ∧ ((isReceiptWidget name = true ∧ text (route.get? "routeClass") = some "proof")
      ∨ (isIntakeWidget name = true ∧ text (route.get? "routeClass") = some "intake"))
  unbound : at? (record (slot.get? "binding")) "actionBindings" = none

structure Of (app : RespondentApp) (policy : RespondentPublicAppPolicy) (context : AppGraphContext) :
    Prop where
  onlySurface : context.handlesOf "surface" = [app.surface]
  entrySurface : ∃ url, url ≠ "" ∧ text (at? context.manifestRecord "entrySurface") = some url
    ∧ app.surface.refUrl = some url
  onlyRoutes : app.surface.routes.Perm [app.intake, app.proof]
  intakeClass : text (app.intake.get? "routeClass") = some "intake"
  proofClass : text (app.proof.get? "routeClass") = some "proof"
  entry : text (app.intake.get? "id") = text (app.surface.member "entry")
  onlyForm : slotsWhere (fun slot => isText (slot.get? "slotType") "definition-form") app.surface.routes
    = [(app.intake, app.form)]
  /-- The form is bound to one Definition, which the only action document targets. -/
  definition : ∃ url, url ≠ "" ∧ definitionRefOf (some app.form) = some url
    ∧ boundDefinitions context (some url) = [app.definition]
    ∧ text (at? (record (app.actions.member "targetDefinition")) "url") = some url
  onlyActions : context.handlesOf "responseActions" = [app.actions]
  onlyAction : records (app.actions.member "actions") = [app.submit]
  intent : text (app.submit.get? "intent") = some "submit"
  hostEvent : ∃ effect, records (app.submit.get? "effects") = [effect]
    ∧ text (effect.get? "type") = some "hostEvent" ∧ text (effect.get? "eventName") = some "formspec-submit"
  onlyTransition : (records (app.intake.get? "transitions")).filter (fun transition =>
      strictEq (transition.get? "to") (app.proof.get? "id")
        && exactCaseRefTransitionParams (transition.get? "params")) = [app.transition]
  /-- Its trigger names the action, by its id or by its intent. -/
  trigger : text (app.transition.get? "trigger") = text (app.submit.get? "id")
    ∨ text (app.transition.get? "trigger") = text (app.submit.get? "intent")
  unconditional : app.transition.get? "when" = none
  noEmbed : ∀ route ∈ app.surface.routes, ∀ slot ∈ slotsOf route,
    text (slot.get? "slotType") ≠ some "embed-route"
  widgets : ∀ route ∈ app.surface.routes, ∀ slot ∈ slotsOf route,
    isText (slot.get? "slotType") "module-widget" = true → OwnWidget policy route slot
  onlyPanel : slotsWhere isPanel app.surface.routes = [(app.proof, app.panel)]
  onlySource : dataSources context = [(app.catalog, app.source)]
  receiptSource : isReceiptSource policy app.source = true
  bound : ∃ bindings input, record (at? (record (app.panel.get? "binding")) "dataBindings") = some bindings
    ∧ keyCount bindings = 1 ∧ record (bindings.get? "receipt") = some input
    ∧ text (input.get? "catalogRef") = app.catalog.refUrl ∧ app.catalog.refUrl.isSome = true
    ∧ text (input.get? "sourceRef") = text (app.source.get? "id")
    ∧ (text (app.source.get? "id")).isSome = true
  available : ∃ availability, record (app.source.get? "availability") = some availability
    ∧ text (availability.get? "surfaceRef") = app.surface.refUrl
    ∧ text (availability.get? "routeRef") = text (app.proof.get? "id")

end RespondentApp

theorem ownWidget_of {place : WidgetSlot} (h : WidgetOk policy receiptSource place)
    (hclass : place.routeClass = text (place.route.get? "routeClass")) :
    RespondentApp.OwnWidget policy place.route place.slot := by
  have hstarter := h.starter
  rw [WidgetSlot.isStarter, Bool.and_eq_true, beq_iff_eq, Option.any_eq_true] at hstarter
  obtain ⟨hmodule, name, hname, hplace⟩ := hstarter
  simp only [Bool.and_eq_true, Bool.or_eq_true, Bool.not_eq_true', beq_iff_eq] at hplace
  obtain ⟨⟨⟨-, hmem⟩, hreceipt⟩, hintake⟩ := hplace
  rw [hclass] at hreceipt hintake
  refine ⟨hmodule, ⟨name, hname, ?_⟩, h.unbound⟩
  by_cases hpanel : isReceiptWidget name = true
  · exact .inl ⟨hpanel, hreceipt.resolve_left (by rw [hpanel]; decide)⟩
  · have hbanner : isIntakeWidget name = true := by
      simp only [publicStarterWidgets, List.contains_cons, List.contains_nil, Bool.or_false, Bool.or_eq_true,
        beq_iff_eq] at hmem
      simp only [isReceiptWidget, isIntakeWidget, Bool.or_eq_true, beq_iff_eq] at hpanel ⊢
      tauto
    exact .inr ⟨hbanner, hintake.resolve_left (by rw [hbanner]; decide)⟩

theorem selectedRespondentFlow_ok (h : validateSelectedRespondentFlow context = []) :
    ∃ surface intake definitionRef action, entrySurfaceOf context = .ok surface
      ∧ entryIntakeOf surface = .ok intake
      ∧ formDefinitionOf context surface intake = .ok definitionRef
      ∧ submitActionOf context definitionRef = .ok action
      ∧ checkSubmitAction action = .ok ()
      ∧ checkSubmitTransition surface.routes intake.1 action = .ok () := by
  cases hflow : selectedRespondentFlow context with
  | error found =>
    rw [validateSelectedRespondentFlow, hflow] at h
    cases h
  | ok found =>
    simp only [selectedRespondentFlow, sequence_ok] at hflow
    obtain ⟨surface, hsurface, intake, hintake, definitionRef, hdefinition, action, haction, ⟨⟩, hsubmit,
      htransition⟩ := hflow
    exact ⟨surface, intake, definitionRef, action, hsurface, hintake, hdefinition, haction, hsubmit,
      htransition⟩

theorem two_routes {surface : ResolvedArtifactHandle} {entry : Value × Nat}
    (hroutes : ∀ route ∈ surface.routes, RouteOk policy receiptSource surface route)
    (hintakes : surface.routes.countP (fun route => isText (route.get? "routeClass") "intake") = 1)
    (hproofs : surface.routes.countP (fun route => isText (route.get? "routeClass") "proof") = 1)
    (hentry : entry ∈ surface.routes.zipIdx) (hclass : isText (entry.1.get? "routeClass") "intake" = true) :
    ∃ proof, surface.routes.Perm [entry.1, proof]
      ∧ surface.routes.filter (fun route => isText (route.get? "routeClass") "intake") = [entry.1]
      ∧ surface.routes.filter (fun route => isText (route.get? "routeClass") "proof") = [proof] := by
  obtain ⟨intake, proof, hintake, hproof, hperm⟩ :=
    perm_of_counts (fun route hroute => (hroutes route hroute).routeClass) hintakes hproofs
  have hmem : entry.1 ∈ surface.routes.filter (fun route => isText (route.get? "routeClass") "intake") :=
    List.mem_filter.mpr ⟨List.mem_of_getElem? (List.mem_zipIdx_iff_getElem?.mp hentry), hclass⟩
  rw [hintake] at hmem
  obtain rfl := List.mem_singleton.mp hmem
  exact ⟨proof, hperm, hintake, hproof⟩

theorem submit_transition {surface : ResolvedArtifactHandle} {intake proof action transition : Value}
    (hproofFindings : proofFindings surface.routes proof = [])
    (hintake : surface.routes.filter (fun route => isText (route.get? "routeClass") "intake") = [intake])
    (hproof : surface.routes.filter (fun route => isText (route.get? "routeClass") "proof") = [proof])
    (h : submitTransitions surface.routes intake action = [transition]) :
    (records (intake.get? "transitions")).filter (fun transition =>
        strictEq (transition.get? "to") (proof.get? "id")
          && exactCaseRefTransitionParams (transition.get? "params")) = [transition]
      ∧ (text (transition.get? "trigger") = text (action.get? "id")
        ∨ text (transition.get? "trigger") = some "submit") := by
  simp only [proofFindings, List.append_eq_nil_iff, reportIf_eq_nil, bne_eq_false_iff_eq] at hproofFindings
  have hone := hproofFindings.2
  rw [incomingTransitions, flatMap_if, hintake, List.flatMap_singleton] at hone
  obtain ⟨only, honly⟩ := List.length_eq_one_iff.mp hone
  rw [submitTransitions, hproof] at h
  have hmem : transition ∈ (records (intake.get? "transitions")).filter fun transition =>
      [proof].any (fun route => strictEq (transition.get? "to") (route.get? "id"))
        && exactCaseRefTransitionParams (transition.get? "params")
        && (strictEq (transition.get? "trigger") ((text (action.get? "id")).map .string)
          || isText (transition.get? "trigger") "submit") := h ▸ List.mem_cons_self
  obtain ⟨hof, hkept⟩ := List.mem_filter.mp hmem
  simp only [List.any_cons, List.any_nil, Bool.or_false, Bool.and_eq_true, Bool.or_eq_true] at hkept
  obtain ⟨hsupplies, htrigger⟩ := hkept
  have hincoming : transition ∈ (records (intake.get? "transitions")).filter fun transition =>
      strictEq (transition.get? "to") (proof.get? "id")
        && exactCaseRefTransitionParams (transition.get? "params") :=
    List.mem_filter.mpr ⟨hof, by rw [hsupplies.1, hsupplies.2]; rfl⟩
  rw [honly] at hincoming
  obtain rfl := List.mem_singleton.mp hincoming
  refine ⟨honly, htrigger.imp (fun hid => ?_) fun hintent => isText_iff.mp hintent⟩
  cases htext : text (action.get? "id") with
  | none =>
    rw [htext] at hid
    exact strictEq_text hid
  | some triggerId =>
    rw [htext] at hid
    exact strictEq_string.mp hid

theorem receipt_bound {place : WidgetSlot} {catalog : ResolvedArtifactHandle} {source : Value}
    (honly : dataSources context = [(catalog, source)])
    (hbinds : place.bindsReceipt (respondentReceiptSource context policy) = true)
    (hqualified : place.qualifiedAvailability (respondentReceiptSource context policy) = true) :
    (∃ bindings input, record (at? (record (place.slot.get? "binding")) "dataBindings") = some bindings
        ∧ keyCount bindings = 1 ∧ record (bindings.get? "receipt") = some input
        ∧ text (input.get? "catalogRef") = catalog.refUrl ∧ catalog.refUrl.isSome = true
        ∧ text (input.get? "sourceRef") = text (source.get? "id") ∧ (text (source.get? "id")).isSome = true)
      ∧ ∃ availability, record (source.get? "availability") = some availability
        ∧ text (availability.get? "surfaceRef") = place.handle.refUrl
        ∧ text (availability.get? "routeRef") = text (place.route.get? "id") := by
  obtain ⟨availability, havailability, hqualified⟩ := (Option.any_eq_true _ _).mp hqualified
  obtain ⟨hfound, hobject⟩ := Option.filter_eq_some_iff.mp havailability
  obtain ⟨found, hsource, hmember⟩ := Option.bind_eq_some_iff.mp hfound
  obtain ⟨owner, howner, hcatalog, hid⟩ := respondentReceiptSource_some hsource
  rw [honly] at howner
  obtain ⟨rfl, rfl⟩ := Prod.mk.inj (List.mem_singleton.mp howner)
  rw [Bool.and_eq_true, Bool.and_eq_true] at hqualified
  obtain ⟨⟨hsurfaceRef, hrouteRef⟩, -⟩ := hqualified
  rw [WidgetSlot.bindsReceipt, hsource] at hbinds
  obtain ⟨bindings, hbindings, hbinds⟩ := (Option.any_eq_true _ _).mp hbinds
  rw [Bool.and_eq_true, beq_iff_eq] at hbinds
  obtain ⟨hone, hinput⟩ := hbinds
  obtain ⟨input, hinput, hrefs⟩ := (Option.any_eq_true _ _).mp hinput
  rw [Bool.and_eq_true] at hrefs
  refine ⟨⟨bindings, input, hbindings, hone, hinput, ?_, ?_, ?_, ?_⟩,
    availability, Option.filter_eq_some_iff.mpr ⟨hmember, hobject⟩, ?_, strictEq_text hrouteRef⟩
  · rw [hcatalog]
    exact strictEq_string.mp hrefs.1
  · rw [hcatalog]
    rfl
  · rw [hid]
    exact strictEq_string.mp hrefs.2
  · rw [hid]
    rfl
  · rw [strictEq_text hsurfaceRef]
    cases place.handle.refUrl <;> rfl

/-- An app graph that the validator reports nothing of is that of a respondent app: one surface with an
intake and a proof route, one form on the one and one receipt panel on the other, and one action and one
transition between them. -/
theorem admitted_app {platform : Platform}
    (h : createRespondentPublicAppValidator platform policy context = []) :
    ∃ app : RespondentApp, app.Of policy context := by
  simp only [createRespondentPublicAppValidator, List.append_eq_nil_iff] at h
  obtain ⟨⟨⟨⟨⟨-, hsurfaces⟩, hflow⟩, -⟩, hsources⟩, -⟩ := h
  obtain ⟨surface, entry, definitionRef, action, hsurface, hentry, hdefinition, haction, hsubmit,
    htransition⟩ := selectedRespondentFlow_ok hflow
  obtain ⟨honly, hentrySurface⟩ := entrySurfaceOf_ok hsurface
  obtain ⟨hselected, hentryClass⟩ := entryIntakeOf_ok hentry
  obtain ⟨hentryMem, hentryId⟩ := List.mem_filter.mp (hselected ▸ List.mem_cons_self (a := entry) (l := []))
  obtain ⟨form, definition, hform, hnamed, hformRef, hbound⟩ := formDefinitionOf_ok hentryMem hdefinition
  obtain ⟨actions, hactions, honlyAction, hintent, htarget⟩ := submitActionOf_ok haction
  obtain ⟨effect, heffect, hhostEvent⟩ := checkSubmitAction_ok hsubmit
  obtain ⟨transition, hsubmitTransition, hwhen⟩ := checkSubmitTransition_ok htransition
  obtain ⟨catalog, source, honlySource, hisReceipt⟩ := validateReceiptSources_ok hsources
  obtain ⟨hroutes, hintakes, hproofs, hpanels⟩ := validatePublicSurfaces_ok honly hsurfaces
  obtain ⟨proof, hperm, hintake, hproof⟩ := two_routes hroutes hintakes hproofs hentryMem hentryClass
  have hproofMem : proof ∈ surface.routes.filter (fun route => isText (route.get? "routeClass") "proof") :=
    hproof ▸ List.mem_cons_self
  obtain ⟨hproofRoute, hproofClass⟩ := List.mem_filter.mp hproofMem
  obtain ⟨hincoming, htrigger⟩ := submit_transition ((hroutes proof hproofRoute).proof hproofClass)
    hintake hproof hsubmitTransition
  obtain ⟨⟨route, panel⟩, hpanel⟩ := List.length_eq_one_iff.mp hpanels
  have hpanelMem : (route, panel) ∈ slotsWhere isPanel surface.routes := hpanel ▸ List.mem_cons_self
  obtain ⟨hpanelRoute, hpanelSlot, hisPanel⟩ := mem_slotsWhere.mp hpanelMem
  rw [isPanel, Bool.and_eq_true] at hisPanel
  have hwidget := ((hroutes route hpanelRoute).slots panel hpanelSlot).2 hisPanel.1
  obtain ⟨hbinds, hqualified⟩ := hwidget.receipt hisPanel.2
  have hrouteClass : text (route.get? "routeClass") = some "proof" := by
    obtain ⟨name, hname, hplace⟩ := (ownWidget_of hwidget rfl).place
    obtain ⟨found, hfound, hreceipt⟩ := (Option.any_eq_true _ _).mp hisPanel.2
    obtain rfl := Option.some.inj (hname.symm.trans hfound)
    rcases hplace with ⟨-, hclass⟩ | ⟨hbanner, -⟩
    · exact hclass
    · simp only [Bool.and_eq_true, isReceiptWidget, Bool.or_eq_true, beq_iff_eq] at hreceipt
      rcases hreceipt.2 with rfl | rfl
      · exact absurd hbanner (by decide)
      · exact absurd hbanner (by decide)
  have hrouteMem : route ∈ surface.routes.filter (fun route => isText (route.get? "routeClass") "proof") :=
    List.mem_filter.mpr ⟨hpanelRoute, isText_iff.mpr hrouteClass⟩
  rw [hproof] at hrouteMem
  obtain rfl := List.mem_singleton.mp hrouteMem
  obtain ⟨hboundReceipt, havailable⟩ := receipt_bound honlySource hbinds hqualified
  rw [isSubmitHostEvent, Bool.and_eq_true, isText_iff, isText_iff] at hhostEvent
  refine ⟨⟨surface, entry.1, route, form, definition, actions, action, transition, panel, catalog, source⟩, ?_⟩
  exact
    { onlySurface := honly
      entrySurface := hentrySurface
      onlyRoutes := hperm
      intakeClass := isText_iff.mp hentryClass
      proofClass := hrouteClass
      entry := by
        rw [strictEq_text hentryId]
        cases text (surface.member "entry") <;> rfl
      onlyForm := hform
      definition := ⟨definitionRef, hnamed, hformRef, hbound, htarget⟩
      onlyActions := hactions
      onlyAction := honlyAction
      intent := hintent
      hostEvent := ⟨effect, heffect, hhostEvent.1, hhostEvent.2⟩
      onlyTransition := hincoming
      trigger := htrigger.imp id fun hsubmitted => hsubmitted.trans hintent.symm
      unconditional := hwhen
      noEmbed := fun found hfound slot hslot => ((hroutes found hfound).slots slot hslot).1
      widgets := fun found hfound slot hslot hisWidget =>
        ownWidget_of (((hroutes found hfound).slots slot hslot).2 hisWidget) rfl
      onlyPanel := hpanel
      onlySource := honlySource
      receiptSource := hisReceipt
      bound := hboundReceipt
      available := havailable }

def texts (members : List (String × String)) : Value :=
  .object (members.map fun (key, value) => (key, .string value))

def samplePolicy : RespondentPublicAppPolicy where
  appId := "app"
  starterModuleId := "x-respondent"
  receiptResourceUrl := "https://runtime.example/receipt"

def sampleManifest : Value := .object [("id", .string "app"), ("entrySurface", .string "surface"),
  ("modules", .array [texts [("id", "x-respondent"), ("version", "1.0.0")]])]

def sampleIntake : Value := .object [("id", .string "apply"), ("path", .string "/apply"),
  ("routeClass", .string "intake"),
  ("slots", .array [.object [("id", .string "form"), ("slotType", .string "definition-form"),
    ("binding", texts [("definitionRef", "definition")])]]),
  ("transitions", .array [.object [("trigger", .string "submit-intake"), ("to", .string "receipt"),
    ("params", texts [("caseRef", "caseRef")])]])]

def samplePanel : Value := .object [("id", .string "receipt-panel"), ("slotType", .string "module-widget"),
  ("binding", .object [("moduleId", .string "x-respondent"), ("widgetName", .string "ReceiptPanel"),
    ("dataBindings", .object [("receipt",
      texts [("catalogRef", "data"), ("sourceRef", "resource:receipt")])])])]

def sampleProof : Value := .object [("id", .string "receipt"), ("path", .string "/receipt/\x7bcaseRef\x7d"),
  ("params", .array [texts [("name", "caseRef"), ("type", "string")]]), ("routeClass", .string "proof"),
  ("slots", .array [samplePanel])]

def sampleActions : Value := .object [("targetDefinition", texts [("url", "definition")]),
  ("actions", .array [.object [("id", .string "submit-intake"), ("intent", .string "submit"),
    ("effects", .array [texts [("type", "hostEvent"), ("eventName", "formspec-submit")]])]])]

def sampleSource : Value := .object [("id", .string "resource:receipt"), ("kind", .string "document-resource"),
  ("owner", .string "host"), ("scope", .string "route"),
  ("availability", texts [("level", "slot"), ("surfaceRef", "surface"), ("routeRef", "receipt"),
    ("slotId", "receipt-panel")]),
  ("runtime", .object [("delivery", .string "snapshot"), ("authorizationBoundary", .string "host"),
    ("failureMode", .string "block-render"), ("provenance",
      texts [("kind", "document-resource"), ("source", "https://runtime.example/receipt")])]),
  ("schema", texts [("type", "object")])]

def sampleRegistry : List Value :=
  [.object [("name", .string "x-respondent"), ("category", .string "module"),
      ("contributes", .array [.string "x-receipt-panel"])],
    .object [("name", .string "x-receipt-panel"), ("category", .string "widget"),
      ("widgetShape", .object [("widgetName", .string "ReceiptPanel"),
        ("dataInputs", .array [.object [("name", .string "receipt"), ("required", .bool true)]])])]]

def sampleLocale : Value := .object [("$formspecLocale", .string "2.0"), ("version", .string "1.0.0"),
  ("locale", .string "en"), ("target", texts [("kind", "app"), ("url", "app")]),
  ("strings", texts [("$module.x-formspec-surface.shell.navigationLabel", "Navigation")])]

def sampleContext : AppGraphContext where
  manifest := ⟨"appManifest", none, some sampleManifest⟩
  handles := [⟨"definition", some "definition", some (texts [("url", "definition")])⟩,
    ⟨"responseActions", some "actions", some sampleActions⟩,
    ⟨"surface", some "surface", some (.object [("id", .string "respondent"), ("entry", .string "apply"),
      ("routes", .array [sampleIntake, sampleProof])])⟩,
    ⟨"dataSources", some "data", some (.object [("sources", .array [sampleSource])])⟩,
    ⟨"registry", some "registry", some (.object [("entries", .array sampleRegistry)])⟩,
    ⟨"locale", some "locale", some sampleLocale⟩]

def samplePlatform : Platform where
  stringOf _ := "undefined"
  surfaceStringKeys := ["navigationLabel"]
  surfaceLocaleKeyPrefix := "$module.x-formspec-surface.shell."
  availableLocales _ documents := documents.filterMap fun document => text (document.get? "locale")
  lookupKey _ documents locale key := documents.findSome? fun document =>
    if isText (document.get? "locale") locale then text (at? (document.get? "strings") key) else none

theorem sampleContext_admitted :
    createRespondentPublicAppValidator samplePlatform samplePolicy sampleContext = [] := by
  rfl

theorem admitted_app_of_sample : ∃ app : RespondentApp, app.Of samplePolicy sampleContext :=
  admitted_app sampleContext_admitted

end FormspecWeb.VerifyingSurface.Respondent
