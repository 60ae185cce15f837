import FormspecWeb.Evaluation.Composition
import FormspecWeb.Shared.CanonicalText
import FormspecWeb.Shared.InsertionMap
import Mathlib.Data.List.Nodup

/-!
# What an accepted composition says

The three lists have the declared sources once each, in one order. A qualified result has a native
receipt that the callback accepted with it. The deadline is no later than any qualified child's, and
the milliseconds that are left of it do not go beyond it, while a host number holds its nanoseconds
exactly.
-/

namespace FormspecWeb.Evaluation

open Shared SourceWorker

variable {platform : CompositionPlatform} {input : CompositionInput}

/-- Three lists that have every declared source once, in the order of the names. -/
structure Covers (view : EvaluationHydrationWire) (owners : List Owner)
    (contributions : List Contribution) : Prop where
  owners_eq : owners.map (fun owner => (owner.instanceName, owner.sourceRef))
    = view.results.map fun result => (result.instanceName, result.sourceRef)
  contributions_eq : contributions.map (fun contribution =>
      (contribution.instanceName, contribution.sourceRef))
    = view.results.map fun result => (result.instanceName, result.sourceRef)
  declared : (view.results.map fun result => (result.instanceName, result.sourceRef)).Perm view.sources
  names_nodup : (view.results.map (·.instanceName)).Nodup
  sorted : view.results.map (·.instanceName) = sortTexts (view.sources.map (·.1))

/-- A receipt of an owner's own registration that the callback accepted with a result. -/
structure Backs (input : CompositionInput) (index : Nat) (owner : Owner) (contribution : Contribution)
    (result : EvaluationHydrationResult) (leaf : NativeScreenerMappingReceipt) : Prop where
  contributed : contribution.receipt = some leaf
  native : owner.resolverKind = .nativeScreenerMapping
  registered : owner.registrationHash = some leaf.registration.registrationHash
  accepted : input.verifyNative index leaf result = .ok ()

/-- The smallest of a child's expiry, and of its issue with its own evidence age, with the
composition's and with the composition's validity. -/
def childDeadline (registration child : EvaluationProviderRegistration) (issued expires : Int) : Rat :=
  min (min expires (issued + child.maxEvidenceAgeSeconds * 1000000000))
    (min (issued + registration.maxEvidenceAgeSeconds * 1000000000)
      (issued + registration.maxValiditySeconds * 1000000000))

def EveryBacked (input : CompositionInput) (owners : List Owner) : Prop :=
  ∀ (index : Nat) (result : EvaluationHydrationResult), input.view.results[index]? = some result →
    result.isQualified = true → ∃ owner contribution leaf, owners[index]? = some owner
      ∧ input.receipt.contributions[index]? = some contribution
      ∧ Backs input index owner contribution result leaf

/-- What is returned is a number of milliseconds that ends with every qualified child. -/
def WithinChildren (platform : CompositionPlatform) (input : CompositionInput) (now : Int)
    (remaining : WithTop Int) : Prop :=
  ∀ (index : Nat) (instanceName sourceRef : String) (data : Value)
    (dataHash evidenceRef issuedAt expiresAt : String) (contribution : Contribution)
    (leaf : NativeScreenerMappingReceipt) (issued expires : Int),
    input.view.results[index]? = some (.qualified instanceName sourceRef data dataHash evidenceRef
      issuedAt expiresAt) →
    input.receipt.contributions[index]? = some contribution → contribution.receipt = some leaf →
    hydrationInstant platform.dateParse issuedAt = some issued →
    hydrationInstant platform.dateParse expiresAt = some expires →
    ∃ milliseconds : Int, remaining = (milliseconds : Int) ∧ (milliseconds * 1000000 : Rat)
      ≤ childDeadline input.receipt.registration leaf.registration issued expires - now

/-- The time that the receipt states is left, in nanoseconds, is one of the whole numbers that a
host number tells apart. -/
def LeftExact (platform : CompositionPlatform) (input : CompositionInput) (now : Int) : Prop :=
  ∀ validUntil ends, input.receipt.validUntil = some validUntil →
    hydrationInstant platform.dateParse validUntil = some ends → ends - now ≤ 2 ^ 53

theorem clock_ok {value : String} {instant : Int} :
    clock platform value = .ok instant ↔ hydrationInstant platform.dateParse value = some instant := by
  unfold clock
  split
  · rename_i found hfound
    rw [hfound, Except.ok.injEq, Option.some.injEq]
  · rename_i hnone
    rw [hnone]
    split <;> simp

theorem seconds_ok {value : Rat} {nanoseconds : Int} (h : seconds value = .ok nanoseconds) :
    (nanoseconds : Rat) = value * 1000000000 := by
  unfold seconds at h
  split at h
  · rename_i hwhole
    have hvalue : value = value.num := Rat.eq_num_of_isInt hwhole
    rw [← Except.ok.inj h, Int.cast_mul, ← hvalue]
    norm_num
  · cases h

theorem minimum_le_first (first : Int) (others : List Int) : minimum first others ≤ first := by
  unfold minimum
  induction others generalizing first with
  | nil => exact le_refl first
  | cons other others ih =>
    rw [List.foldl_cons]
    apply (ih _).trans
    split <;> omega

theorem minimum_le {first value : Int} {others : List Int} (h : value ∈ others) :
    minimum first others ≤ value := by
  induction others generalizing first with
  | nil => cases h
  | cons other others ih =>
    unfold minimum
    rw [List.foldl_cons]
    obtain rfl | htail := List.mem_cons.mp h
    · apply (minimum_le_first _ others).trans
      split <;> omega
    · exact ih htail

theorem foldDeadline_ok {registration child : EvaluationProviderRegistration} {issued expires next : Int}
    {deadline : Option Int}
    (h : foldDeadline registration child issued expires deadline = .ok next) :
    (next : Rat) ≤ childDeadline registration child issued expires
      ∧ next ≤ deadline.getD expires := by
  unfold foldDeadline at h
  obtain ⟨childAge, hchildAge, h⟩ := sequence_ok.mp h
  obtain ⟨age, hage, h⟩ := sequence_ok.mp h
  obtain ⟨validity, hvalidity, h⟩ := sequence_ok.mp h
  cases h
  refine ⟨?_, minimum_le_first _ _⟩
  unfold childDeadline
  rw [← seconds_ok hchildAge, ← seconds_ok hage, ← seconds_ok hvalidity]
  apply le_min
  · apply le_min
    · exact_mod_cast minimum_le (by simp)
    · exact_mod_cast minimum_le (by simp)
  · apply le_min
    · exact_mod_cast minimum_le (by simp)
    · exact_mod_cast minimum_le (by simp)

theorem checkValidity_ok {child : EvaluationProviderRegistration} {issuedAt expiresAt : String}
    {now issued expires : Int}
    (h : checkValidity platform child issuedAt expiresAt now = .ok (issued, expires)) :
    hydrationInstant platform.dateParse issuedAt = some issued
      ∧ hydrationInstant platform.dateParse expiresAt = some expires ∧ issued ≤ now := by
  unfold checkValidity at h
  obtain ⟨start, hissued, h⟩ := sequence_ok.mp h
  obtain ⟨stop, hexpires, h⟩ := sequence_ok.mp h
  obtain ⟨hvalid, h⟩ := failIf_bind_ok.mp h
  obtain ⟨validity, -, h⟩ := sequence_ok.mp h
  obtain ⟨-, h⟩ := failIf_bind_ok.mp h
  cases h
  simp only [Bool.or_eq_false_iff, decide_eq_false_iff_not] at hvalid
  refine ⟨clock_ok.mp hissued, clock_ok.mp hexpires, ?_⟩
  omega

/-! ## The walk -/

structure Qualifies (platform : CompositionPlatform) (input : CompositionInput) (now : Int)
    (index : Nat) (owner : Owner) (contribution : Contribution) (result : EvaluationHydrationResult)
    (deadline : Option Int) (next : Int) : Prop where
  backed : ∃ leaf, Backs input index owner contribution result leaf
  within : ∀ instanceName sourceRef data dataHash evidenceRef issuedAt expiresAt leaf issued expires,
    result = .qualified instanceName sourceRef data dataHash evidenceRef issuedAt expiresAt →
    contribution.receipt = some leaf →
    hydrationInstant platform.dateParse issuedAt = some issued →
    hydrationInstant platform.dateParse expiresAt = some expires →
    (next : Rat) ≤ childDeadline input.receipt.registration leaf.registration issued expires
  earlier : ∀ before, deadline = some before → next ≤ before
  aged : (next : Rat) ≤ now + input.receipt.registration.maxEvidenceAgeSeconds * 1000000000

theorem checkLeaf_ok {owner : Owner} {leaf : NativeScreenerMappingReceipt}
    {result : EvaluationHydrationResult} {resolved : Int}
    (h : checkLeaf platform owner leaf result resolved = .ok ()) :
    owner.registrationHash = some leaf.registration.registrationHash := by
  unfold checkLeaf at h
  obtain ⟨hmatches, -⟩ := failIf_bind_ok.mp h
  simp only [Bool.or_eq_false_iff, bne_eq_false_iff_eq] at hmatches
  exact hmatches.1.1.1.2

theorem childDeadline_le_aged (registration child : EvaluationProviderRegistration)
    (issued expires : Int) : childDeadline registration child issued expires
      ≤ issued + registration.maxEvidenceAgeSeconds * 1000000000 := by
  unfold childDeadline
  exact (min_le_right _ _).trans (min_le_left _ _)

theorem verifySource_ok {now resolved : Int} {index : Nat} {owner : Owner} {contribution : Contribution}
    {result : EvaluationHydrationResult} {deadline next : Option Int}
    (h : verifySource platform input now resolved index owner contribution result deadline
      = .ok next) :
    (result.isQualified = false ∧ next = deadline)
      ∨ ∃ instant, next = some instant
        ∧ Qualifies platform input now index owner contribution result deadline instant := by
  unfold verifySource at h
  obtain ⟨resultHash, -, h⟩ := sequence_ok.mp h
  obtain ⟨-, h⟩ := failIf_bind_ok.mp h
  split at h
  · obtain ⟨hunavailable, h⟩ := failIf_bind_ok.mp h
    left
    refine ⟨?_, (Except.ok.inj h).symm⟩
    cases result with
    | qualified => simp [EvaluationHydrationResult.unavailable?] at hunavailable
    | pending => rfl
    | unavailable => rfl
  · obtain ⟨hreason, h⟩ := failIf_bind_ok.mp h
    left
    refine ⟨?_, (Except.ok.inj h).symm⟩
    cases result with
    | qualified => simp [EvaluationHydrationResult.reason?] at hreason
    | pending => rfl
    | unavailable => rfl
  · rename_i leaf hkind hleaf
    obtain ⟨hchecked, h⟩ := then_ok.mp h
    obtain ⟨haccepted, h⟩ := then_ok.mp h
    cases result with
    | pending => cases h
    | unavailable => cases h
    | qualified instanceName sourceRef data dataHash evidenceRef issuedAt expiresAt =>
      obtain ⟨⟨issued, expires⟩, hvalidity, h⟩ := sequence_ok.mp h
      obtain ⟨instant, hfold, h⟩ := sequence_ok.mp h
      cases h
      obtain ⟨hissued, hexpires, hbefore⟩ := checkValidity_ok hvalidity
      obtain ⟨hchild, hearlier⟩ := foldDeadline_ok hfold
      right
      refine ⟨instant, rfl, ⟨leaf, hleaf, hkind, checkLeaf_ok hchecked, haccepted⟩, ?_, ?_, ?_⟩
      · intro _ _ _ _ _ issuedAt' expiresAt' leaf' issued' expires' hresult hleaf' hissued' hexpires'
        obtain ⟨rfl, rfl, rfl, rfl, rfl, rfl, rfl⟩ :=
          EvaluationHydrationResult.qualified.inj hresult
        obtain rfl := Option.some.inj (hleaf.symm.trans hleaf')
        obtain rfl := Option.some.inj (hissued.symm.trans hissued')
        obtain rfl := Option.some.inj (hexpires.symm.trans hexpires')
        exact hchild
      · rintro before rfl
        exact hearlier
      · have haged := hchild.trans (childDeadline_le_aged _ _ _ _)
        have hissue : (issued : Rat) ≤ now := by exact_mod_cast hbefore
        linarith

theorem verifySources_ok {now resolved : Int} {index : Nat} {owners : List Owner}
    {contributions : List Contribution} {results : List EvaluationHydrationResult}
    {deadline final : Option Int} (howners : owners.length = results.length)
    (hcontributions : contributions.length = results.length)
    (h : verifySources platform input now resolved index owners contributions results deadline
      = .ok final) :
    (∀ before, deadline = some before → ∃ last, final = some last ∧ last ≤ before)
      ∧ (∀ last, final = some last → deadline = some last
        ∨ (last : Rat) ≤ now + input.receipt.registration.maxEvidenceAgeSeconds * 1000000000)
      ∧ ∀ i result, results[i]? = some result → result.isQualified = true →
        ∃ owner contribution before next, owners[i]? = some owner
          ∧ contributions[i]? = some contribution
          ∧ Qualifies platform input now (index + i) owner contribution result before next
          ∧ ∃ last, final = some last ∧ last ≤ next := by
  induction results generalizing index owners contributions deadline with
  | nil =>
    obtain rfl := List.length_eq_zero_iff.mp howners
    cases h
    refine ⟨fun before hbefore => ⟨before, hbefore, le_refl _⟩, fun last hlast => .inl hlast, ?_⟩
    intro i result hresult
    cases hresult
  | cons result results ih =>
    obtain ⟨owner, owners, rfl⟩ := List.exists_cons_of_length_eq_add_one howners
    obtain ⟨contribution, contributions, rfl⟩ :=
      List.exists_cons_of_length_eq_add_one hcontributions
    rw [verifySources] at h
    obtain ⟨next, hstep, h⟩ := sequence_ok.mp h
    obtain ⟨hearlier, haged, hrest⟩ := ih (Nat.succ.inj howners) (Nat.succ.inj hcontributions) h
    have hstepped := verifySource_ok hstep
    refine ⟨?_, ?_, ?_⟩
    · intro before hbefore
      obtain ⟨-, rfl⟩ | ⟨instant, rfl, hqualifies⟩ := hstepped
      · exact hearlier before hbefore
      · obtain ⟨last, hlast, hle⟩ := hearlier instant rfl
        exact ⟨last, hlast, hle.trans (hqualifies.earlier before hbefore)⟩
    · intro last hlast
      obtain hnext | hage := haged last hlast
      · obtain ⟨-, rfl⟩ | ⟨instant, rfl, hqualifies⟩ := hstepped
        · exact .inl hnext
        · cases hnext
          exact .inr hqualifies.aged
      · exact .inr hage
    · intro i found hfound hqualified
      cases i with
      | zero =>
        cases hfound
        obtain ⟨hnot, -⟩ | ⟨instant, rfl, hqualifies⟩ := hstepped
        · rw [hnot] at hqualified
          cases hqualified
        · exact ⟨owner, contribution, deadline, instant, rfl, rfl, hqualifies,
            hearlier instant rfl⟩
      | succ i =>
        obtain ⟨owner', contribution', before, instant, ho, hc, hqualifies, hlast⟩ :=
          hrest i found hfound hqualified
        rw [show index + 1 + i = index + (i + 1) by omega] at hqualifies
        exact ⟨owner', contribution', before, instant, ho, hc, hqualifies, hlast⟩

/-! ## The lists -/

theorem EvaluationHydrationWire.names_nodup (view : EvaluationHydrationWire) : view.names.Nodup :=
  (List.mergeSort_perm _ _).nodup_iff.mpr view.sources_nodup

variable {view : EvaluationHydrationWire}

theorem EvaluationHydrationWire.mem_names {name : String} :
    name ∈ view.names ↔ ∃ sourceRef, (name, sourceRef) ∈ view.sources := by
  unfold names sortTexts
  rw [List.mem_mergeSort, List.mem_map]
  constructor
  · rintro ⟨⟨name, sourceRef⟩, hmem, rfl⟩
    exact ⟨sourceRef, hmem⟩
  · rintro ⟨sourceRef, hmem⟩
    exact ⟨(name, sourceRef), hmem, rfl⟩

theorem coversSources_ok {entries : List (String × String)}
    (h : coversSources view entries = true) :
    entries.map (·.1) = view.names ∧ entries.Perm view.sources := by
  have heq := beq_iff_eq.mp h
  have hnames : entries.map (·.1) = view.names := by
    have := congrArg (List.map Prod.fst) heq
    rw [List.map_map, List.map_map, Function.comp_def, Function.comp_def] at this
    rw [this, List.map_id']
  refine ⟨hnames, ?_⟩
  have hentries : entries.Nodup := by
    apply List.Nodup.of_map (·.1)
    rw [hnames]
    exact view.names_nodup
  rw [List.perm_ext_iff_of_nodup hentries (List.Nodup.of_map (·.1) view.sources_nodup)]
  intro ⟨name, sourceRef⟩
  have hlookup : (name, some sourceRef) ∈ view.names.map (fun name => (name, view.sources.lookup name))
      ↔ (name, sourceRef) ∈ entries := by
    rw [← heq, List.mem_map]
    constructor
    · rintro ⟨⟨name', sourceRef'⟩, hmem, hpair⟩
      obtain ⟨rfl, hsome⟩ := Prod.mk.inj hpair
      cases hsome
      exact hmem
    · intro hmem
      exact ⟨(name, sourceRef), hmem, rfl⟩
  rw [← hlookup, List.mem_map]
  constructor
  · rintro ⟨name', -, hpair⟩
    obtain ⟨rfl, hsome⟩ := Prod.mk.inj hpair
    exact mem_of_lookup hsome
  · intro hmem
    refine ⟨name, EvaluationHydrationWire.mem_names.mpr ⟨sourceRef, hmem⟩, ?_⟩
    rw [lookup_of_mem view.sources_nodup hmem]

theorem coversSources_unique {first second : List (String × String)}
    (hfirst : coversSources view first = true) (hsecond : coversSources view second = true) :
    first = second := by
  have heq := (beq_iff_eq.mp hfirst).trans (beq_iff_eq.mp hsecond).symm
  apply List.map_injective_iff.mpr _ heq
  rintro ⟨name, sourceRef⟩ ⟨name', sourceRef'⟩ hpair
  obtain ⟨rfl, hsome⟩ := Prod.mk.inj hpair
  cases hsome
  rfl

theorem checkCoverage_ok {descriptor : CompositionPolicy}
    (h : checkCoverage input descriptor = .ok ()) :
    Covers input.view descriptor.owners input.receipt.contributions := by
  have hall := checkAll_ok.mp h
  have hcovers : ∀ entries ∈ [descriptor.owners.map fun owner => (owner.instanceName, owner.sourceRef),
      input.receipt.contributions.map fun contribution =>
        (contribution.instanceName, contribution.sourceRef),
      input.view.results.map fun result => (result.instanceName, result.sourceRef)],
      coversSources input.view entries = true := by
    intro entries hentries
    have hentry := failIf_ok.mp (hall entries hentries)
    rwa [Bool.not_eq_false'] at hentry
  rw [List.forall_mem_cons, List.forall_mem_cons, List.forall_mem_singleton] at hcovers
  obtain ⟨howners, hcontributions, hresults⟩ := hcovers
  obtain ⟨hnames, hperm⟩ := coversSources_ok hresults
  have hresultNames : input.view.results.map (·.instanceName) = input.view.names := by
    rw [← hnames, List.map_map]
    rfl
  refine ⟨coversSources_unique howners hresults, coversSources_unique hcontributions hresults, hperm,
    ?_, hresultNames⟩
  rw [hresultNames]
  exact input.view.names_nodup

theorem Covers.lengths {owners : List Owner}
    {contributions : List Contribution} (h : Covers view owners contributions) :
    owners.length = view.results.length ∧ contributions.length = view.results.length := by
  have howners := congrArg List.length h.owners_eq
  have hcontributions := congrArg List.length h.contributions_eq
  rw [List.length_map, List.length_map] at howners hcontributions
  exact ⟨howners, hcontributions⟩

theorem wholeMilliseconds_le {nanoseconds : Int} (hpos : 0 ≤ nanoseconds)
    (hle : nanoseconds ≤ 2 ^ 53) : wholeMilliseconds nanoseconds * 1000000 ≤ nanoseconds := by
  obtain ⟨n, rfl⟩ := Int.eq_ofNat_of_zero_le hpos
  have hn : n ≤ 2 ^ 53 := by exact_mod_cast hle
  unfold wholeMilliseconds
  rw [Int.cast_natCast, Doubles.toDouble_natCast hn]
  exact_mod_cast Doubles.floor_toDouble_div_le (c := 1000000) (j := 19) hn (by norm_num) (by norm_num)

theorem remainingTime_ok {now : Int} {deadline : Option Int} {remaining : WithTop Int}
    (h : remainingTime platform input now deadline = .ok remaining) :
    deadline = none ∧ input.receipt.validUntil = none ∧ remaining = ⊤
      ∨ ∃ instant validUntil, deadline = some instant ∧ input.receipt.validUntil = some validUntil
        ∧ hydrationInstant platform.dateParse validUntil = some instant ∧ now < instant
        ∧ remaining = (wholeMilliseconds (instant - now) : Int) := by
  unfold remainingTime at h
  cases deadline with
  | none =>
    obtain ⟨hnone, h⟩ := failIf_bind_ok.mp h
    exact .inl ⟨rfl, Option.isSome_eq_false_iff.mp hnone |> Option.isNone_iff_eq_none.mp,
      (Except.ok.inj h).symm⟩
  | some instant =>
    dsimp only at h
    split at h
    · cases h
    · rename_i validUntil hvalidUntil
      obtain ⟨stated, hstated, h⟩ := sequence_ok.mp h
      obtain ⟨hshared, h⟩ := failIf_bind_ok.mp h
      simp only [Bool.or_eq_false_iff, bne_eq_false_iff_eq, decide_eq_false_iff_not, not_le]
        at hshared
      obtain ⟨rfl, hafter⟩ := hshared
      exact .inr ⟨stated, validUntil, rfl, hvalidUntil, clock_ok.mp hstated, hafter,
        (Except.ok.inj h).symm⟩

theorem verifyComposedSources_ok {remaining : WithTop Int}
    (h : verifyComposedSources platform input = .ok remaining) :
    ∃ descriptor now resolved deadline,
      compositionPolicy? input.receipt.registration.publicDescriptor = some descriptor
        ∧ hydrationInstant platform.dateParse input.view.qualifiedAt = some now
        ∧ checkCoverage input descriptor = .ok ()
        ∧ verifySources platform input now resolved 0 descriptor.owners input.receipt.contributions
          input.view.results none = .ok deadline
        ∧ remainingTime platform input now deadline = .ok remaining := by
  unfold verifyComposedSources at h
  split at h
  · cases h
  · rename_i descriptor hdescriptor
    obtain ⟨-, h⟩ := then_ok.mp h
    obtain ⟨-, h⟩ := then_ok.mp h
    obtain ⟨hcoverage, h⟩ := then_ok.mp h
    obtain ⟨now, hnow, h⟩ := sequence_ok.mp h
    obtain ⟨resolved, -, h⟩ := sequence_ok.mp h
    obtain ⟨-, h⟩ := failIf_bind_ok.mp h
    obtain ⟨deadline, hwalk, h⟩ := sequence_ok.mp h
    exact ⟨descriptor, now, resolved, deadline, hdescriptor, clock_ok.mp hnow, hcoverage, hwalk, h⟩

/-- An accepted composition covers its sources, backs its qualified results, and leaves no more
milliseconds than any of them has, where the nanoseconds that are left are few enough to be told
apart. They are for every age that the wire schema admits. -/
theorem composition_verified {remaining : WithTop Int}
    (h : verifyComposedSources platform input = .ok remaining) :
    ∃ descriptor now,
      compositionPolicy? input.receipt.registration.publicDescriptor = some descriptor
        ∧ hydrationInstant platform.dateParse input.view.qualifiedAt = some now
        ∧ Covers input.view descriptor.owners input.receipt.contributions
        ∧ EveryBacked input descriptor.owners
        ∧ (LeftExact platform input now → WithinChildren platform input now remaining)
        ∧ (input.receipt.registration.maxEvidenceAgeSeconds ≤ 300 → LeftExact platform input now) := by
  obtain ⟨descriptor, now, resolved, deadline, hdescriptor, hnow, hcoverage, hwalk, hremaining⟩ :=
    verifyComposedSources_ok h
  have hcovers := checkCoverage_ok hcoverage
  obtain ⟨howners, hcontributions⟩ := hcovers.lengths
  obtain ⟨-, haged, hsteps⟩ := verifySources_ok howners hcontributions hwalk
  refine ⟨descriptor, now, hdescriptor, hnow, hcovers, ?_, ?_, ?_⟩
  · intro index result hresult hqualified
    obtain ⟨owner, contribution, before, next, howner, hcontribution, hqualifies, -⟩ :=
      hsteps index result hresult hqualified
    obtain ⟨leaf, hbacks⟩ := hqualifies.backed
    rw [Nat.zero_add] at hbacks
    exact ⟨owner, contribution, leaf, howner, hcontribution, hbacks⟩
  · intro hexact index instanceName sourceRef data dataHash evidenceRef issuedAt expiresAt contribution
      leaf issued expires hresult hcontribution hleaf hissued hexpires
    obtain ⟨owner, contribution', before, next, -, hcontribution', hqualifies, last, rfl, hle⟩ :=
      hsteps index _ hresult rfl
    obtain rfl := Option.some.inj (hcontribution.symm.trans hcontribution')
    have hchild := hqualifies.within _ _ _ _ _ _ _ leaf issued expires rfl hleaf hissued hexpires
    obtain ⟨hnone, -⟩ | ⟨instant, validUntil, hinstant, hvalidUntil, hends, hafter, rfl⟩ :=
      remainingTime_ok hremaining
    · cases hnone
    · cases hinstant
      have hleft := hexact validUntil last hvalidUntil hends
      have hwhole := wholeMilliseconds_le (by omega : 0 ≤ last - now) hleft
      have hlast : (last : Rat) ≤ next := by exact_mod_cast hle
      have hwhole' : ((wholeMilliseconds (last - now) * 1000000 : Int) : Rat)
          ≤ (last - now : Int) := by exact_mod_cast hwhole
      push_cast at hwhole'
      refine ⟨wholeMilliseconds (last - now), rfl, ?_⟩
      linarith
  · intro hage validUntil ends hvalidUntil hends
    obtain ⟨-, hnone, -⟩ | ⟨instant, validUntil', rfl, hvalidUntil', hends', -⟩ :=
      remainingTime_ok hremaining
    · rw [hnone] at hvalidUntil
      cases hvalidUntil
    · obtain rfl := Option.some.inj (hvalidUntil.symm.trans hvalidUntil')
      obtain rfl := Option.some.inj (hends.symm.trans hends')
      obtain hnone | hlast := haged ends rfl
      · cases hnone
      · have hbound : (ends : Rat) ≤ (now + 300 * 1000000000 : Int) := by
          push_cast
          linarith
        have hbound' : ends ≤ now + 300 * 1000000000 := by exact_mod_cast hbound
        omega

/-! ## A composition of one native source -/

section Sample

def sampleDigest (value : Value) : String :=
  "sha256:" ++ String.ofList (Nat.toDigits 16 ((canonicalText value).foldl
    (fun sum c => (sum * 31 + c.toNat) % 0xFFFFFFFF) 7))

def samplePlatform : CompositionPlatform where
  computeJcsSha256Digest value := .ok (sampleDigest value)
  rawUtf8Hash text := sampleDigest (.string text)
  bytes value := (canonicalText value).length
  dateParse text := [("2026-01-01T00:00:00Z", 1767225600000), ("2026-01-01T00:04:00Z", 1767225840000),
    ("2026-04-15T05:59:59Z", 1776232799000)].lookup text

def sampleChildDescriptor : Value := .object [("rules", .array [])]

def sampleDescriptor (age : Rat) : Value :=
  .object [("providerId", .string "composer"), ("providerVersion", .string "1"),
    ("selection", .object []), ("formVersionHash", .string "v1"),
    ("outputSchema", .object [("hash", .string (sampleDigest (.string "schema"))),
      ("document", .string "schema")]),
    ("budgets", .object [("maxEvidenceAgeSeconds", .number age), ("maxValiditySeconds", .number age),
      ("responseBytes", .number 65536)]),
    ("owners", .array [.object [("instanceName", .string "facts"), ("sourceRef", .string "screening"),
      ("resolverKind", .string "nativeScreenerMapping"),
      ("registrationHash", .string (sampleDigest sampleChildDescriptor)),
      ("unavailableReason", .null)]])]

def sampleRegistration (descriptor : Value) (age : Rat) : EvaluationProviderRegistration where
  providerId := "composer"
  providerVersion := "1"
  registrationHash := sampleDigest descriptor
  outputSchemaHash := sampleDigest (.string "schema")
  maxEvidenceAgeSeconds := age
  maxValiditySeconds := age
  publicDescriptor := descriptor

def sampleLeaf (age : Rat) : NativeScreenerMappingReceipt where
  kind := "nativeScreenerMapping"
  registration := sampleRegistration sampleChildDescriptor age
  resolvedAt := "2026-01-01T00:00:00Z"
  rest := []

def sampleResult (expiresAt : String) : EvaluationHydrationResult :=
  .qualified "facts" "screening" (.object []) "d" "e" "2026-01-01T00:00:00Z" expiresAt

def sampleUnhashed (age : Rat) (expiresAt : String) : ComposedSourcesReceipt where
  registration := sampleRegistration (sampleDescriptor age) age
  requestHash := "r"
  resolvedAt := "2026-01-01T00:00:00Z"
  validUntil := some expiresAt
  contributions := [⟨"facts", "screening", sampleDigest (sampleResult expiresAt).value,
    some (sampleLeaf age)⟩]
  receiptHash := ""
  rest := [("kind", .string "composedSources")]

def sampleReceipt (age : Rat) (expiresAt : String) : ComposedSourcesReceipt :=
  { sampleUnhashed age expiresAt with
    receiptHash := sampleDigest (.object (sampleUnhashed age expiresAt).preimage) }

def sampleInput (age : Rat) (expiresAt : String) : CompositionInput where
  view := {
    selection := .object []
    formVersionHash := "v1"
    sources := [("facts", "screening")]
    sources_nodup := List.nodup_singleton _
    qualifiedAt := "2026-01-01T00:00:00.000000001Z"
    results := [sampleResult expiresAt]
    rest := [("providerReceipt", (sampleReceipt age expiresAt).value)] }
  receipt := sampleReceipt age expiresAt
  registrationHash := some (sampleDigest (sampleDescriptor age))
  requestHash := "r"
  verifyNative _ _ _ := .ok ()

theorem composition_verified_fourMinutes :
    ∃ now, hydrationInstant samplePlatform.dateParse "2026-01-01T00:00:00.000000001Z" = some now
      ∧ WithinChildren samplePlatform (sampleInput 300 "2026-01-01T00:04:00Z") now (239999 : Int) := by
  have haccepted : verifyComposedSources samplePlatform (sampleInput 300 "2026-01-01T00:04:00Z")
      = .ok (239999 : Int) := by
    decide +kernel
  obtain ⟨descriptor, now, -, hnow, -, -, hwithin, hexact⟩ := composition_verified haccepted
  exact ⟨now, hnow, hwithin (hexact (le_refl _))⟩

/-- The nanoseconds that are left are rounded up to the next whole millisecond. -/
theorem composition_overdue :
    ∃ now, hydrationInstant samplePlatform.dateParse "2026-01-01T00:00:00.000000001Z" = some now
      ∧ verifyComposedSources samplePlatform (sampleInput 10000000 "2026-04-15T05:59:59.255Z")
        = .ok (9007199255 : Int)
      ∧ ¬WithinChildren samplePlatform (sampleInput 10000000 "2026-04-15T05:59:59.255Z") now
        (9007199255 : Int) := by
  have hreads : hydrationInstant samplePlatform.dateParse "2026-01-01T00:00:00.000000001Z"
        = some 1767225600000000001
      ∧ hydrationInstant samplePlatform.dateParse "2026-01-01T00:00:00Z" = some 1767225600000000000
      ∧ hydrationInstant samplePlatform.dateParse "2026-04-15T05:59:59.255Z"
        = some 1776232799255000000
      ∧ verifyComposedSources samplePlatform (sampleInput 10000000 "2026-04-15T05:59:59.255Z")
        = .ok (9007199255 : Int) := by
    decide +kernel
  obtain ⟨hnow, hissued, hexpires, haccepted⟩ := hreads
  refine ⟨_, hnow, haccepted, ?_⟩
  intro hwithin
  obtain ⟨milliseconds, hmilliseconds, hle⟩ :=
    hwithin 0 _ _ _ _ _ _ _ _ _ _ _ rfl rfl rfl hissued hexpires
  obtain rfl := WithTop.coe_inj.mp hmilliseconds
  have hchild := hle.trans (sub_le_sub_right ((min_le_left _ _).trans (min_le_left _ _)) _)
  norm_num at hchild

end Sample

end FormspecWeb.Evaluation
