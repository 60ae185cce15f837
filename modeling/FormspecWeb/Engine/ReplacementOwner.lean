import FormspecWeb.Async.Steps
import FormspecWeb.Engine.EngineReplacement

/-!
# Who owns a replacement engine

The engine a call creates belongs to the call, to the handle it returns, to the caller who adopts the
handle, or to nobody once it is disposed of. What the engine is constructed from holds every value and
every row of the engine it replaces.
-/

namespace FormspecWeb.Engine

open Shared Async Policy

inductive Access where
  | key (name : String)
  | index (position : Nat)

def valueAt (value : Value) : List Access → Option Value
  | [] => value.defined?
  | .key name :: way => (value.get? name).bind fun found => valueAt found way
  | .index position :: way =>
    (value.entries?.bind fun entries => entries[position]?).bind fun found => valueAt found way

namespace FormEngine

variable (engine : FormEngine)

/-- The instances of the items below a prefix: the path of each in the engine, and the way to it in
a response. Groups hold items, once or once in every row. -/
inductive Stands : String → List EngineItem → EngineItemProperties → String → List Access → Prop
  | here {above : String} {items : List EngineItem} {item : EngineItemProperties}
      {children : List EngineItem} (hitem : .node item children ∈ items) :
      Stands above items item (itemPath above item.key) [.key item.key]
  | group {above path : String} {items children : List EngineItem}
      {item found : EngineItemProperties} {way : List Access} (hitem : .node item children ∈ items)
      (htype : item.type = .group) (honce : item.repeatable = false)
      (hbelow : Stands (itemPath above item.key) children found path way) :
      Stands above items found path (.key item.key :: way)
  | row {above path : String} {items children : List EngineItem}
      {item found : EngineItemProperties} {way : List Access} {count index : Nat}
      (hitem : .node item children ∈ items) (htype : item.type = .group)
      (hrows : item.repeatable = true) (hcount : engine.rowCount (itemPath above item.key) = some count)
      (hindex : index < count)
      (hbelow : Stands (rowPath (itemPath above item.key) index) children found path way) :
      Stands above items found path (.key item.key :: .index index :: way)

structure HeldBy (data : Value) : Prop where
  fields : ∀ item path way, engine.Stands "" engine.items item path way → item.type = .field →
    ∃ value, engine.signals path = some value ∧ valueAt data way = value.defined?
  rows : ∀ item path way, engine.Stands "" engine.items item path way → item.type = .group →
    item.repeatable = true → ∃ count rows, engine.rowCount path = some count
      ∧ valueAt data way = some (.array rows) ∧ rows.length = count

end FormEngine

variable {item : EngineItemProperties} {children items : List EngineItem}

theorem siblingsApart_cons : siblingsApart (.node item children :: items) = true
    ↔ item.key ∉ items.map keyOf ∧ siblingsApart children = true ∧ siblingsApart items = true := by
  rw [siblingsApart, itemSiblingsApart, keyOf, Bool.and_eq_true, Bool.and_eq_true, and_assoc,
    Bool.not_eq_true', ← Bool.not_eq_true, List.contains_iff_mem]

theorem siblingsApart_children (h : siblingsApart items = true) (hitem : .node item children ∈ items) :
    siblingsApart children = true := by
  induction items with
  | nil => cases hitem
  | cons other items ih =>
    obtain ⟨label, below⟩ := other
    obtain ⟨-, hbelow, hitems⟩ := siblingsApart_cons.mp h
    rcases List.mem_cons.mp hitem with heq | hrest
    · cases heq
      exact hbelow
    · exact ih hitems hrest

/-! ## What is captured -/

namespace FormEngine

variable {engine : FormEngine} {property : Option (String × Value)}

theorem lookup_put {data : List (String × Value)} {key : String} :
    (put data property).lookup key
      = ((property.filter fun found => found.1 == key).map (·.2)).or (data.lookup key) := by
  cases property with
  | none => rfl
  | some property =>
    obtain ⟨name, value⟩ := property
    rw [put, lookup_spread]
    by_cases h : key = name
    · subst h
      simp [Option.filter]
    · have hne : (name == key) = false := by simpa using Ne.symm h
      have hne' : (key == name) = false := by simpa using h
      simp [Option.filter, List.lookup_cons, hne, hne']

variable {item : EngineItemProperties}

variable {children : List EngineItem}

variable {writes : List Write}

variable {above : String}

theorem captureItem_key
    (h : engine.captureItem above (.node item children) = some (property, writes)) :
    ∀ found ∈ property, found.1 = item.key := by
  unfold captureItem at h
  split at h
  · obtain ⟨value, -, h⟩ := Option.bind_eq_some_iff.mp h
    cases h
    intro found hfound
    obtain ⟨inner, -, rfl⟩ := Option.map_eq_some_iff.mp hfound
    rfl
  · split at h
    · obtain ⟨count, -, h⟩ := Option.bind_eq_some_iff.mp h
      obtain ⟨rows, -, h⟩ := Option.bind_eq_some_iff.mp h
      cases h
      intro found hfound
      cases hfound
      rfl
    · obtain ⟨captured, -, h⟩ := Option.bind_eq_some_iff.mp h
      cases h
      intro found hfound
      cases hfound
      rfl
  · cases h
    intro found hfound
    cases hfound

variable {data members : List (String × Value)}

variable {items : List EngineItem}

theorem capture_cons {item : EngineItem}
    (h : engine.capture above (item :: items) data = some (members, writes)) :
    ∃ property own rest, engine.captureItem above item = some (property, own)
      ∧ engine.capture above items (put data property) = some (members, rest) := by
  unfold capture at h
  obtain ⟨⟨property, own⟩, hitem, h⟩ := Option.bind_eq_some_iff.mp h
  obtain ⟨⟨later, rest⟩, hrest, h⟩ := Option.bind_eq_some_iff.mp h
  cases h
  exact ⟨property, own, rest, hitem, hrest⟩

theorem capture_other {above key : String}
    (h : engine.capture above items data = some (members, writes))
    (hkey : key ∉ items.map keyOf) : members.lookup key = data.lookup key := by
  induction items generalizing data writes with
  | nil =>
    cases h
    rfl
  | cons item items ih =>
    obtain ⟨label, children⟩ := item
    obtain ⟨property, own, rest, hitem, hrest⟩ := capture_cons h
    have hlabel : label.key ≠ key := fun heq => hkey (heq ▸ List.mem_cons_self)
    rw [ih hrest fun hmem => hkey (List.mem_cons_of_mem _ hmem), lookup_put]
    have hnone : (property.filter fun found => found.1 == key) = none := by
      rw [Option.filter_eq_none_iff]
      intro found hfound
      rw [captureItem_key hitem found hfound]
      simpa using hlabel
    rw [hnone]
    rfl

theorem capture_lookup
    {children items : List EngineItem}
    (h : engine.capture above items data = some (members, writes)) (hapart : siblingsApart items = true)
    (hitem : .node item children ∈ items) (hdata : data.lookup item.key = none) :
    ∃ property own, engine.captureItem above (.node item children) = some (property, own)
      ∧ members.lookup item.key = property.map (·.2) := by
  induction items generalizing data writes with
  | nil => cases hitem
  | cons other items ih =>
    obtain ⟨label, below⟩ := other
    obtain ⟨property, own, rest, hcaptured, hrest⟩ := capture_cons h
    obtain ⟨hnot, -, hlater⟩ := siblingsApart_cons.mp hapart
    have hkeys := captureItem_key hcaptured
    rcases List.mem_cons.mp hitem with heq | hin
    · cases heq
      refine ⟨property, own, hcaptured, ?_⟩
      have hown : (property.filter fun found => found.1 == item.key) = property := by
        cases property with
        | none => rfl
        | some found => simp [hkeys found rfl]
      rw [capture_other hrest hnot, lookup_put, hown, hdata, Option.or_none]
    · have hne : label.key ≠ item.key := by
        intro heq
        exact hnot (heq ▸ List.mem_map_of_mem hin)
      refine ih hrest hlater hin ?_
      rw [lookup_put, hdata, Option.or_none, Option.map_eq_none_iff, Option.filter_eq_none_iff]
      intro found hfound
      rw [hkeys found hfound]
      simpa using hne

theorem captureItem_field
    {own : List Write}
    (h : engine.captureItem above (.node item children) = some (property, own))
    (htype : item.type = .field) : ∃ value, engine.signals (itemPath above item.key) = some value
      ∧ property.map (·.2) = value.defined? := by
  simp only [captureItem, htype] at h
  obtain ⟨value, hvalue, h⟩ := Option.bind_eq_some_iff.mp h
  cases h
  refine ⟨value, hvalue, ?_⟩
  cases value <;> rfl

theorem captureItem_group
    {own : List Write}
    (h : engine.captureItem above (.node item children) = some (property, own))
    (htype : item.type = .group) (honce : item.repeatable = false) :
    ∃ members writes, engine.capture (itemPath above item.key) children [] = some (members, writes)
      ∧ property.map (·.2) = some (.object members) := by
  simp only [captureItem, htype, honce, Bool.false_eq_true, if_false] at h
  obtain ⟨⟨members, writes⟩, hmembers, h⟩ := Option.bind_eq_some_iff.mp h
  cases h
  exact ⟨members, writes, hmembers, rfl⟩

theorem captureItem_rows
    {own : List Write}
    (h : engine.captureItem above (.node item children) = some (property, own))
    (htype : item.type = .group) (hrows : item.repeatable = true) :
    ∃ count rows, engine.rowCount (itemPath above item.key) = some count
      ∧ (List.range count).mapM (fun index =>
        engine.capture (rowPath (itemPath above item.key) index) children []) = some rows
      ∧ property.map (·.2) = some (.array (rows.map fun row => .object row.1)) := by
  simp only [captureItem, htype, hrows, if_true] at h
  obtain ⟨count, hcount, h⟩ := Option.bind_eq_some_iff.mp h
  obtain ⟨rows, hmapped, h⟩ := Option.bind_eq_some_iff.mp h
  cases h
  exact ⟨count, rows, hcount, hmapped, rfl⟩

theorem mapM_getElem {α β : Type} {f : α → Option β} {as : List α} {bs : List β}
    (h : as.mapM f = some bs) :
    bs.length = as.length ∧ ∀ (i : Nat) (a : α), as[i]? = some a → f a = bs[i]? := by
  induction as generalizing bs with
  | nil =>
    cases h
    exact ⟨rfl, nofun⟩
  | cons a as ih =>
    rw [List.mapM_cons] at h
    obtain ⟨b, hb, h⟩ := Option.bind_eq_some_iff.mp h
    obtain ⟨rest, hrest, h⟩ := Option.bind_eq_some_iff.mp h
    cases h
    obtain ⟨hlength, hplaces⟩ := ih hrest
    refine ⟨congrArg Nat.succ hlength, fun i found hfound => ?_⟩
    cases i with
    | zero =>
      cases hfound
      exact hb
    | succ i => exact hplaces i found hfound

theorem mapM_range {α : Type} {f : Nat → Option α} {count : Nat} {rows : List α}
    (h : (List.range count).mapM f = some rows) :
    rows.length = count ∧ ∀ index < count, f index = rows[index]? := by
  obtain ⟨hlength, hplaces⟩ := mapM_getElem h
  rw [List.length_range] at hlength
  exact ⟨hlength, fun index hindex => hplaces index index (List.getElem?_range hindex)⟩

variable {members : List (String × Value)}

theorem valueAt_key {key : String} {value : Value}
    {way : List Access} (h : members.lookup key = some value) (hdefined : value.defined? = some value) :
    valueAt (.object members) (.key key :: way) = valueAt value way := by
  rw [valueAt, Value.get?, Value.members, h, Option.bind_some, hdefined, Option.bind_some]

theorem Stands.captured {above path : String} {way : List Access}
    (hstands : engine.Stands above items item path way) (hapart : siblingsApart items = true)
    (hcapture : engine.capture above items [] = some (members, writes)) :
    (item.type = .field → ∃ value, engine.signals path = some value
      ∧ valueAt (.object members) way = value.defined?)
    ∧ (item.type = .group → item.repeatable = true → ∃ count rows,
      engine.rowCount path = some count ∧ valueAt (.object members) way = some (.array rows)
        ∧ rows.length = count) := by
  induction hstands generalizing members writes with
  | here hitem =>
    obtain ⟨property, own, hitem, hlookup⟩ := capture_lookup hcapture hapart hitem rfl
    constructor
    · intro htype
      obtain ⟨value, hvalue, hproperty⟩ := captureItem_field hitem htype
      refine ⟨value, hvalue, ?_⟩
      rw [valueAt, Value.get?, Value.members, hlookup, hproperty]
      cases value <;> rfl
    · intro htype hrepeatable
      obtain ⟨count, rows, hcount, hrows, hproperty⟩ := captureItem_rows hitem htype hrepeatable
      refine ⟨count, rows.map fun row => .object row.1, hcount, ?_, ?_⟩
      · rw [valueAt_key (hlookup.trans hproperty) rfl]
        rfl
      · rw [List.length_map]
        exact (mapM_range hrows).1
  | group hitem htype honce hbelow ih =>
    obtain ⟨property, own, hcaptured, hlookup⟩ := capture_lookup hcapture hapart hitem rfl
    obtain ⟨below, rest, hchildren, hproperty⟩ := captureItem_group hcaptured htype honce
    rw [valueAt_key (hlookup.trans hproperty) rfl]
    exact ih (siblingsApart_children hapart hitem) hchildren
  | row hitem htype hrepeatable hcount hindex hbelow ih =>
    obtain ⟨property, own, hcaptured, hlookup⟩ := capture_lookup hcapture hapart hitem rfl
    obtain ⟨count, rows, hcount', hrows, hproperty⟩ := captureItem_rows hcaptured htype hrepeatable
    obtain rfl := Option.some.inj (hcount'.symm.trans hcount)
    obtain ⟨hlength, hindexed⟩ := mapM_range hrows
    obtain ⟨⟨row, rest⟩, hrow⟩ : ∃ row, rows[_]? = some row :=
      ⟨_, List.getElem?_eq_getElem (hlength.symm ▸ hindex)⟩
    have hchildren := (hindexed _ hindex).trans hrow
    rw [valueAt_key (hlookup.trans hproperty) rfl, valueAt, Value.entries?, Option.bind_some,
      List.getElem?_map, hrow, Option.map_some, Option.bind_some]
    exact ih (siblingsApart_children hapart hitem) hchildren

theorem capture_holds (h : engine.capture "" engine.items [] = some (members, writes)) :
    engine.HeldBy (.object members) where
  fields := fun _ _ _ hstands => (hstands.captured engine.siblings_apart h).1
  rows := fun _ _ _ hstands => (hstands.captured engine.siblings_apart h).2

end FormEngine

/-! ## The owner of the engine -/

namespace Replacement

inductive Owner where
  | absent
  | construction
  /-- The call, or the handle it has returned; an abort disposes of the engine. -/
  | handle
  | caller
  | disposed
deriving DecidableEq

def OwnedBy (s : Replacement) : Owner → Prop
  | .absent => s.created = false ∧ s.listening = false ∧ s.disposed = false ∧ s.adopted = false
      ∧ s.disposals = 0
  | .construction => s.created = true ∧ s.listening = false ∧ s.disposed = false
      ∧ s.adopted = false ∧ s.disposals = 0
  | .handle => s.created = true ∧ s.aborted = false ∧ s.listening = true ∧ s.disposed = false
      ∧ s.adopted = false ∧ s.disposals = 0
  | .caller => s.created = true ∧ s.listening = false ∧ s.disposed = false ∧ s.adopted = true
      ∧ s.disposals = 0
  | .disposed => s.created = true ∧ s.listening = false ∧ s.disposed = true ∧ s.adopted = false
      ∧ s.disposals = 1

def owners : ReplacementStage → List Owner
  | .opening | .unsupported _ => [.absent]
  | .constructed _ => [.construction]
  | .building _ | .sources | .remoteOptions => [.handle, .disposed]
  | .replaced => [.handle, .disposed, .caller]
  | .failed => [.absent, .disposed]

structure Keeps (s : Replacement) (input : NativeEngineReplacementInput) : Prop where
  owned : ∃ owner ∈ owners s.stage, s.OwnedBy owner
  data : ∀ data, s.responseData = some data → input.currentEngine.HeldBy data

variable {input : NativeEngineReplacementInput} {s t : Replacement}

theorem disposeEngine_disposed (hcreated : s.created = true) (hadopted : s.adopted = false)
    (hdisposals : s.disposals = if s.disposed then 1 else 0)
    (hlistening : s.disposed = true → s.listening = false) : s.disposeEngine.OwnedBy .disposed := by
  cases hdisposed : s.disposed with
  | true =>
    rw [hdisposed] at hdisposals
    simpa [disposeEngine, hdisposed] using ⟨hcreated, hlistening hdisposed, hdisposed, hadopted,
      hdisposals⟩
  | false =>
    rw [hdisposed] at hdisposals
    have hzero : s.disposals = 0 := hdisposals
    simp [disposeEngine, hdisposed, hadopted, OwnedBy, hcreated, hzero]

theorem OwnedBy.dispose {owner : Owner} (h : s.OwnedBy owner)
    (howner : owner = .handle ∨ owner = .disposed) : s.disposeEngine.OwnedBy .disposed := by
  rcases howner with rfl | rfl
  · obtain ⟨hcreated, -, -, hdisposed, hadopted, hzero⟩ := h
    exact disposeEngine_disposed hcreated hadopted (by rw [hdisposed]; exact hzero)
      (by rw [hdisposed]; exact nofun)
  · obtain ⟨hcreated, hlistening, hdisposed, hadopted, hone⟩ := h
    exact disposeEngine_disposed hcreated hadopted (by rw [hdisposed]; exact hone)
      (fun _ => hlistening)

theorem OwnedBy.dispose_caller (h : s.OwnedBy .caller) : s.disposeEngine = s := by
  obtain ⟨-, -, hdisposed, hadopted, -⟩ := h
  simp [disposeEngine, hdisposed, hadopted]

theorem disposeEngine_responseData : s.disposeEngine.responseData = s.responseData := by
  unfold disposeEngine
  split <;> rfl

theorem Keeps.fail (h : s.disposeEngine.OwnedBy .disposed)
    (hdata : ∀ data, s.responseData = some data → input.currentEngine.HeldBy data) :
    s.fail.Keeps input where
  owned := ⟨.disposed, by simp [owners, Replacement.fail], h⟩
  data := by
    intro data hsome
    apply hdata
    rw [← disposeEngine_responseData]
    exact hsome

theorem disposeEngine_stage : s.disposeEngine.stage = s.stage := by
  unfold disposeEngine
  split <;> rfl

theorem owners_disposed {stage : ReplacementStage} (h : Owner.handle ∈ owners stage) :
    Owner.disposed ∈ owners stage := by
  cases stage <;> simp_all [owners]

theorem Keeps.onAbort (h : s.Keeps input) : s.onAbort.Keeps input := by
  obtain ⟨owner, howner, howned⟩ := h.owned
  unfold Replacement.onAbort
  split
  · exact h
  cases owner with
  | handle =>
    rw [if_pos howned.2.2.1]
    refine ⟨⟨.disposed, ?_, howned.dispose (Or.inl rfl)⟩, fun data hsome => h.data data ?_⟩
    · change Owner.disposed ∈ owners s.disposeEngine.stage
      rw [disposeEngine_stage]
      exact owners_disposed howner
    · rw [← disposeEngine_responseData]
      exact hsome
  | absent | construction | caller | disposed =>
    rw [if_neg (by rw [howned.2.1]; exact Bool.false_ne_true)]
    exact ⟨⟨_, howner, howned⟩, h.data⟩

theorem Keeps.onOpened {current constructed : Bool} (h : s.Keeps input) (hstage : s.stage = .opening) :
    (s.onOpened input current constructed).Keeps input := by
  obtain ⟨owner, howner, howned⟩ := h.owned
  rw [hstage] at howner
  obtain rfl := List.mem_singleton.mp howner
  unfold Replacement.onOpened
  dsimp only
  split
  · exact ⟨⟨.absent, List.mem_cons_self, howned⟩, h.data⟩
  split
  · exact ⟨⟨.absent, List.mem_cons_self, howned⟩, h.data⟩
  split
  · exact ⟨⟨.absent, List.mem_cons_self, howned⟩, h.data⟩
  split
  · exact ⟨⟨.absent, List.mem_cons_self, howned⟩, h.data⟩
  · next data writes hcapture =>
    split
    · refine ⟨⟨.construction, List.mem_cons_self, rfl, howned.2⟩, fun found hfound => ?_⟩
      cases hfound
      exact FormEngine.capture_holds hcapture
    · exact ⟨⟨.absent, List.mem_cons_self, howned⟩, h.data⟩

theorem Keeps.wait {stage : ReplacementStage} {owner : Owner}
    (hdata : ∀ data, s.responseData = some data → input.currentEngine.HeldBy data)
    (howned : s.OwnedBy owner) (howner : owner = .handle ∨ owner = .disposed)
    (hstage : ∀ owner, owner = .handle ∨ owner = .disposed → owner ∈ owners stage) :
    (s.wait stage).Keeps input := by
  unfold Replacement.wait
  split
  · exact Keeps.fail (howned.dispose howner) hdata
  · exact ⟨⟨owner, hstage owner howner, howned⟩, hdata⟩

theorem Keeps.onSubscribed {steps : List BuildStep} {current : Bool} (h : s.Keeps input)
    (hstage : s.stage = .constructed steps) : (s.onSubscribed steps current).Keeps input := by
  obtain ⟨owner, howner, howned⟩ := h.owned
  rw [hstage] at howner
  obtain rfl := List.mem_singleton.mp howner
  obtain ⟨hcreated, -, hdisposed, hadopted, hzero⟩ := howned
  unfold Replacement.onSubscribed
  dsimp only
  split
  · next hchecks =>
    have haborted : s.aborted = false := by
      simp only [checks, Bool.and_eq_true, Bool.not_eq_true'] at hchecks
      exact hchecks.1.1
    exact ⟨⟨.handle, List.mem_cons_self, hcreated, haborted, rfl, hdisposed, hadopted, hzero⟩, h.data⟩
  · refine Keeps.fail (disposeEngine_disposed hcreated hadopted ?_ ?_) h.data
    · simp [hdisposed, hzero]
    · simp [hdisposed]

theorem mem_working {owner : Owner} (h : owner ∈ [Owner.handle, .disposed]) :
    owner = .handle ∨ owner = .disposed := by
  simpa using h

theorem Keeps.onBuilt {steps : List BuildStep} {succeeded : Bool} (h : s.Keeps input)
    (hstage : s.stage = .building steps) : (s.onBuilt steps succeeded).Keeps input := by
  obtain ⟨owner, howner, howned⟩ := h.owned
  rw [hstage] at howner
  have hworking := mem_working howner
  have hsources : ∀ owner, owner = .handle ∨ owner = .disposed → owner ∈ owners .sources := by
    simp [owners]
  unfold Replacement.onBuilt
  split
  · exact Keeps.wait h.data howned hworking hsources
  split
  · exact Keeps.fail (howned.dispose hworking) h.data
  split
  · exact Keeps.wait h.data howned hworking hsources
  · exact ⟨⟨owner, howner, howned⟩, h.data⟩

theorem Keeps.onSources {outcomes : Option (List SourceOutcome)} {current : Bool}
    (h : s.Keeps input) (hstage : s.stage = .sources) :
    (s.onSources outcomes current).Keeps input := by
  obtain ⟨owner, howner, howned⟩ := h.owned
  rw [hstage] at howner
  have hworking := mem_working howner
  unfold Replacement.onSources
  split
  · exact Keeps.fail (howned.dispose hworking) h.data
  split
  · exact Keeps.fail (howned.dispose hworking) h.data
  · exact Keeps.wait h.data howned hworking (by simp [owners])

theorem Keeps.onRemoteOptions {succeeded current : Bool} (h : s.Keeps input)
    (hstage : s.stage = .remoteOptions) : (s.onRemoteOptions succeeded current).Keeps input := by
  obtain ⟨owner, howner, howned⟩ := h.owned
  rw [hstage] at howner
  have hworking := mem_working howner
  unfold Replacement.onRemoteOptions
  split
  · refine ⟨⟨owner, ?_, howned⟩, h.data⟩
    rcases hworking with rfl | rfl <;> simp [owners]
  · exact Keeps.fail (howned.dispose hworking) h.data

theorem Keeps.onAdopt {current : Bool} (h : s.Keeps input) (hstage : s.stage = .replaced) :
    (s.onAdopt current).Keeps input := by
  obtain ⟨owner, howner, howned⟩ := h.owned
  unfold Replacement.onAdopt
  split
  · next hchecks =>
    simp only [checks, Bool.and_eq_true, Bool.not_eq_true'] at hchecks
    obtain ⟨⟨-, hdisposed⟩, hadopted⟩ := hchecks
    cases owner with
    | handle =>
      obtain ⟨hcreated, -, -, -, -, hzero⟩ := howned
      refine ⟨⟨.caller, ?_, hcreated, rfl, hdisposed, rfl, hzero⟩, h.data⟩
      change Owner.caller ∈ owners s.stage
      rw [hstage]
      simp [owners]
    | disposed =>
      rw [howned.2.2.1] at hdisposed
      cases hdisposed
    | caller =>
      rw [howned.2.2.2.1] at hadopted
      cases hadopted
    | absent | construction =>
      rw [hstage] at howner
      simp [owners] at howner
  · exact h

theorem Keeps.onDispose (h : s.Keeps input) (hstage : s.stage = .replaced) :
    s.disposeEngine.Keeps input := by
  obtain ⟨owner, howner, howned⟩ := h.owned
  have hdata : ∀ data, s.disposeEngine.responseData = some data →
      input.currentEngine.HeldBy data := by
    rw [disposeEngine_responseData]
    exact h.data
  rw [hstage] at howner
  have hdisposed : Owner.disposed ∈ owners s.disposeEngine.stage := by
    rw [disposeEngine_stage, hstage]
    simp [owners]
  rcases (by simpa [owners] using howner : owner = .handle ∨ owner = .disposed ∨ owner = .caller)
    with rfl | rfl | rfl
  · exact ⟨⟨.disposed, hdisposed, howned.dispose (Or.inl rfl)⟩, hdata⟩
  · exact ⟨⟨.disposed, hdisposed, howned.dispose (Or.inr rfl)⟩, hdata⟩
  · rw [howned.dispose_caller]
    exact h

theorem Keeps.step {event : ReplacementEvent} (h : s.Keeps input)
    (hstep : s.step input event = some t) : t.Keeps input := by
  cases event with
  | abort => exact Option.some.inj hstep ▸ h.onAbort
  | opened current constructed =>
    simp only [Replacement.step] at hstep
    split at hstep
    · next hstage => exact Option.some.inj hstep ▸ h.onOpened hstage
    · cases hstep
  | subscribed current =>
    simp only [Replacement.step] at hstep
    split at hstep
    · next hstage => exact Option.some.inj hstep ▸ h.onSubscribed hstage
    · cases hstep
  | built succeeded =>
    simp only [Replacement.step] at hstep
    split at hstep
    · next hstage => exact Option.some.inj hstep ▸ h.onBuilt hstage
    · cases hstep
  | sources outcomes current =>
    simp only [Replacement.step] at hstep
    split at hstep
    · next hstage => exact Option.some.inj hstep ▸ h.onSources hstage
    · cases hstep
  | remoteOptions succeeded current =>
    simp only [Replacement.step] at hstep
    split at hstep
    · next hstage => exact Option.some.inj hstep ▸ h.onRemoteOptions hstage
    · cases hstep
  | adopt current =>
    simp only [Replacement.step] at hstep
    split at hstep
    · next hstage => exact Option.some.inj hstep ▸ h.onAdopt hstage
    · cases hstep
  | dispose =>
    simp only [Replacement.step] at hstep
    split at hstep
    · next hstage => exact Option.some.inj hstep ▸ h.onDispose hstage
    · cases hstep

theorem keeps_opening : opening.Keeps input where
  owned := ⟨.absent, List.mem_cons_self, rfl, rfl, rfl, rfl, rfl⟩
  data := nofun

theorem OwnedBy.unique {first second : Owner} (hfirst : s.OwnedBy first)
    (hsecond : s.OwnedBy second) : first = second := by
  cases first <;> cases second <;> simp_all [OwnedBy]

theorem Keeps.caller (h : s.Keeps input) (hadopted : s.adopted = true) :
    s.OwnedBy .caller ∧ s.stage = .replaced := by
  obtain ⟨owner, howner, howned⟩ := h.owned
  cases owner with
  | caller =>
    refine ⟨howned, ?_⟩
    cases hstage : s.stage <;> rw [hstage] at howner <;> simp [owners] at howner
  | absent | construction | handle | disposed => simp [OwnedBy, hadopted] at howned

theorem Keeps.adopted_step {event : ReplacementEvent} (h : s.Keeps input)
    (hadopted : s.adopted = true) (hstep : s.step input event = some t) : t.adopted = true := by
  obtain ⟨howned, hstage⟩ := h.caller hadopted
  cases event with
  | abort =>
    cases hstep
    unfold Replacement.onAbort
    split
    · exact hadopted
    · rw [if_neg (by rw [howned.2.1]; exact Bool.false_ne_true)]
      exact hadopted
  | adopt current =>
    simp only [Replacement.step, hstage] at hstep
    cases hstep
    unfold Replacement.onAdopt
    split
    · rfl
    · exact hadopted
  | dispose =>
    simp only [Replacement.step, hstage] at hstep
    cases hstep
    rw [howned.dispose_caller]
    exact hadopted
  | opened | subscribed | built | sources | remoteOptions =>
    simp only [Replacement.step, hstage] at hstep
    cases hstep

structure Owned (s : Replacement) : Prop where
  owner : ∃ owner, s.OwnedBy owner ∧ ∀ other, s.OwnedBy other → other = owner
  once : s.disposals ≤ 1
  exclusive : ¬(s.adopted = true ∧ 0 < s.disposals)
  /-- A call that fails has disposed of the engine it has created. -/
  failed : s.stage = .failed → s.created = true → s.disposals = 1
  /-- A call that returns hands its engine over, unless an abort has disposed of it. -/
  replaced : s.stage = .replaced → s.OwnedBy .handle ∨ s.adopted = true ∨ s.disposals = 1
  /-- After an abort an engine is adopted or disposed of, as soon as the signal is listened to. -/
  aborted : s.aborted = true → s.created = true → (∀ steps, s.stage ≠ .constructed steps) →
    s.adopted = true ∨ s.disposals = 1

theorem Keeps.settled (h : s.Keeps input) :
    s.OwnedBy .absent ∨ s.OwnedBy .construction ∧ (∃ steps, s.stage = .constructed steps)
      ∨ s.OwnedBy .handle ∨ s.OwnedBy .caller ∨ s.OwnedBy .disposed := by
  obtain ⟨owner, howner, howned⟩ := h.owned
  cases owner with
  | construction =>
    right
    left
    refine ⟨howned, ?_⟩
    cases hstage : s.stage <;> rw [hstage] at howner <;> simp [owners] at howner
    exact ⟨_, rfl⟩
  | absent => exact Or.inl howned
  | handle => exact Or.inr (Or.inr (Or.inl howned))
  | caller => exact Or.inr (Or.inr (Or.inr (Or.inl howned)))
  | disposed => exact Or.inr (Or.inr (Or.inr (Or.inr howned)))

theorem Keeps.toOwned (h : s.Keeps input) : s.Owned where
  owner := by
    obtain ⟨owner, -, howned⟩ := h.owned
    exact ⟨owner, howned, fun other hother => hother.unique howned⟩
  once := by
    obtain ⟨owner, -, howned⟩ := h.owned
    cases owner <;> obtain ⟨-, h⟩ := howned <;> omega
  exclusive := by
    rintro ⟨hadopted, hdisposals⟩
    have hzero := (h.caller hadopted).1.2.2.2.2
    omega
  failed := by
    intro hstage hcreated
    obtain ⟨owner, howner, howned⟩ := h.owned
    rw [hstage] at howner
    rcases (by simpa [owners] using howner : owner = .absent ∨ owner = .disposed) with rfl | rfl
    · rw [howned.1] at hcreated
      cases hcreated
    · exact howned.2.2.2.2
  replaced := by
    intro hstage
    obtain ⟨owner, howner, howned⟩ := h.owned
    rw [hstage] at howner
    rcases (by simpa [owners] using howner : owner = .handle ∨ owner = .disposed ∨ owner = .caller)
      with rfl | rfl | rfl
    · exact Or.inl howned
    · exact Or.inr (Or.inr howned.2.2.2.2)
    · exact Or.inr (Or.inl howned.2.2.2.1)
  aborted := by
    intro haborted hcreated hstage
    rcases h.settled with howned | ⟨-, steps, hsteps⟩ | howned | howned | howned
    · rw [howned.1] at hcreated
      cases hcreated
    · exact absurd hsteps (hstage steps)
    · rw [howned.2.1] at haborted
      cases haborted
    · exact Or.inl howned.2.2.2.1
    · exact Or.inr howned.2.2.2.2

theorem Keeps.dispose_settles (h : s.Keeps input) (hstep : s.step input .dispose = some t) :
    t.adopted = true ∨ t.disposals = 1 := by
  simp only [Replacement.step] at hstep
  split at hstep
  · next hstage =>
    cases hstep
    obtain ⟨owner, howner, howned⟩ := h.owned
    rw [hstage] at howner
    rcases (by simpa [owners] using howner : owner = .handle ∨ owner = .disposed ∨ owner = .caller)
      with rfl | rfl | rfl
    · exact Or.inr (howned.dispose (Or.inl rfl)).2.2.2.2
    · exact Or.inr (howned.dispose (Or.inr rfl)).2.2.2.2
    · rw [howned.dispose_caller]
      exact Or.inl howned.2.2.2.1
  · cases hstep

/-- In every run of a call and of its handle, the engine has one owner: it is adopted or disposed of,
never both, and disposed of once at most. A failure, an abort and `dispose` leave it to nobody but the
caller who has adopted it, and an adopted engine is never disposed of. The engine is constructed from
every value and every row of the one it replaces. -/
theorem replacement_owned {events : List ReplacementEvent}
    (hrun : events.foldlM (Replacement.step input) opening = some t) :
    t.Owned
    ∧ (∀ u, t.step input .dispose = some u → u.adopted = true ∨ u.disposals = 1)
    ∧ (t.adopted = true → ∀ later u, List.foldlM (Replacement.step input) t later = some u →
        u.adopted = true ∧ u.disposals = 0)
    ∧ ∀ data, t.responseData = some data → input.currentEngine.HeldBy data := by
  have hkeeps : t.Keeps input :=
    foldlM_invariant (J := fun s => s.Keeps input) (fun _ _ _ hs hstep => hs.step hstep)
      keeps_opening hrun
  refine ⟨hkeeps.toOwned, fun u hstep => hkeeps.dispose_settles hstep, ?_, hkeeps.data⟩
  intro hadopted later u hlater
  have hu : u.Keeps input ∧ u.adopted = true :=
    foldlM_invariant (J := fun s => s.Keeps input ∧ s.adopted = true)
      (fun _ _ _ hs hstep => ⟨hs.1.step hstep, hs.1.adopted_step hs.2 hstep⟩) ⟨hkeeps, hadopted⟩ hlater
  exact ⟨hu.2, (hu.1.caller hu.2).1.2.2.2.2⟩

def tableEngine : FormEngine where
  items := [.node ⟨"name", .field, false, false⟩ [],
    .node ⟨"rows", .group, true, false⟩ [.node ⟨"name", .field, false, false⟩ []]]
  siblings_apart := by decide
  signals path := [("name", .string "Ada"), ("rows[0].name", .number 3),
    ("rows[1].name", .undefined)].lookup path
  repeats path := if path == "rows" then some 2 else none
  writeSource path := if path == "name" then some .user else none
  activeLocale := "en"

def tableEvents : List ReplacementEvent :=
  [.opened true true, .subscribed true, .built true, .built true, .sources (some [.loaded]) true,
    .remoteOptions true true, .adopt true, .abort, .dispose]

def tableAdopted : Replacement where
  stage := .replaced
  aborted := true
  responseData := some (.object [("name", .string "Ada"),
    ("rows", .array [.object [("name", .number 3)], .object []])])
  created := true
  listening := false
  disposed := false
  adopted := true
  disposals := 0

theorem table_run : tableEvents.foldlM (Replacement.step ⟨tableEngine, []⟩) opening
    = some tableAdopted := by
  rfl

theorem replacement_owned_table : tableAdopted.Owned
    ∧ tableEngine.HeldBy (.object [("name", .string "Ada"),
      ("rows", .array [.object [("name", .number 3)], .object []])]) :=
  have h := replacement_owned table_run
  ⟨h.1, h.2.2.2 _ rfl⟩

end Replacement

end FormspecWeb.Engine
