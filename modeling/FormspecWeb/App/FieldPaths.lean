import FormspecWeb.App.SafeAddress

/-!
# The masked fields of a rendered form

The policy names a protected field by a pointer over the definition tree. The renderer passes the path
under which the engine registered an instance of a field, with dots between the keys and an index
after each repeated group. Which control shows the instance depends on the component its node was
planned with; the masking control, where it is reached, compares the two paths as strings.
-/

namespace FormspecWeb.App

open Shared Policy

/-- `/^[a-zA-Z][a-zA-Z0-9_]*$/`. -/
def isItemKey (key : String) : Bool :=
  match key.toList with
  | [] => false
  | c :: cs => isAsciiLetter c && cs.all fun d => isAsciiLetter d || isAsciiDigit d || d == '_'

/-- A built-in component in PascalCase, or the id of an extension. -/
def isComponentName (name : String) : Bool :=
  name.startsWith "x-" || name.toList.head?.any fun c => 'A' ≤ c && c ≤ 'Z'

/-- A definition with the groups that repeat, given by the keys that lead to them, the number of rows
each path of the engine has, and the components of the field nodes the plan has for each path. The
schema of definitions restricts their keys; a node of a field gets its component from the vocabulary. -/
structure RenderedForm where
  definition : FormDefinition
  repeatable : List String → Bool
  repeats : String → Nat
  components : String → List String
  key_valid : ∀ occurrence ∈ allOccurrences definition.items, isItemKey occurrence.2.key = true
  component_valid : ∀ path, ∀ name ∈ components path, isComponentName name = true

def enginePath (above : String) (key : String) : String :=
  if above.isEmpty then key else above ++ "." ++ key

def rowPrefixes (repeatable : List String → Bool) (repeats : String → Nat) (keys : List String)
    (path : String) : List String :=
  if repeatable keys then
    (List.range (repeats path)).map fun index => path ++ "[" ++ toString index ++ "]"
  else [path]

section

variable (repeatable : List String → Bool) (repeats : String → Nat)

mutual

/-- The body of the loop of `registerItems` and `registerItemChildren`: the instances of fields, each
with the keys that lead to it in the definition. -/
def registerItem (ancestors : List String) (above : String) : FormItem → List (List String × String)
  | .node item children =>
    match item.type with
    | .field =>
      (ancestors ++ [item.key], enginePath above item.key)
        :: registerItems (ancestors ++ [item.key]) (enginePath above item.key) children
    | .display => []
    | .group =>
      (rowPrefixes repeatable repeats (ancestors ++ [item.key]) (enginePath above item.key)).flatMap
        fun row => registerItems (ancestors ++ [item.key]) row children

def registerItems (ancestors : List String) (above : String) :
    List FormItem → List (List String × String)
  | [] => []
  | item :: items => registerItem ancestors above item ++ registerItems ancestors above items

end

end

def RenderedForm.instances (form : RenderedForm) : List (List String × String) :=
  registerItems form.repeatable form.repeats [] "" form.definition.items

/-- The instances that some field node renders. -/
def RenderedForm.rendered (form : RenderedForm) : List (List String × String) :=
  form.instances.filter fun field => !(form.components field.2).isEmpty

inductive FieldComponent where
  | safeAddressTextField
  | attachmentControl
  | defaultField
deriving DecidableEq

/-- `components.fields` of the respondent runtime. -/
def componentField : String → Option FieldComponent
  | "Text" | "TextInput" | "DatePicker" | "NumberInput" => some .safeAddressTextField
  | "FileUpload" => some .attachmentControl
  | _ => none

/-- `FALLBACK_MAP`. -/
def fallbackName : String → Option String
  | "MoneyInput" | "Slider" | "Rating" => some "NumberInput"
  | "Signature" => some "FileUpload"
  | "Badge" | "ProgressBar" | "Summary" => some "Text"
  | "Panel" | "DataTable" => some "Card"
  | "Modal" | "Popover" => some "Collapsible"
  | "Tabs" | "Wizard" => some "Stack"
  | _ => none

/-- The component `FieldNode` renders a node with. -/
def fieldComponent (componentName : String) : FieldComponent :=
  match componentField componentName with
  | some exact => exact
  | none => ((fallbackName componentName).bind componentField).getD .defaultField

def sameFieldPath (configPath runtimePath : String) : Bool :=
  configPath == runtimePath || withoutSlash configPath.toList == withoutSlash runtimePath.toList

/-- The entry with which `SafeAddressTextField` masks an instance. -/
def protectedField (fields : List SafeAddressFieldPolicy) (path : String) :
    Option SafeAddressFieldPolicy :=
  fields.find? fun field => sameFieldPath field.path path

/-- `FieldNode` reaches `SafeAddressTextField`, which finds an entry for the path. -/
def selectsMask (fields : List SafeAddressFieldPolicy) (componentName path : String) : Bool :=
  fieldComponent componentName == .safeAddressTextField && (protectedField fields path).isSome

/-- Every rendered instance of every field the policy names selects the masking control, at each of its
nodes, and the entry of the field is the instance's exactly where it is an instance of this field. -/
def MasksProtected (form : RenderedForm) : Prop :=
  ∀ entry ∈ safeAddressFields form.definition,
    ∀ field ∈ form.rendered, pointerSegments entry.path = field.1 →
      (∀ name ∈ form.components field.2,
          selectsMask (safeAddressFields form.definition) name field.2 = true)
        ∧ ∀ other ∈ form.rendered,
          sameFieldPath entry.path other.2 = true ↔ other.1 = pointerSegments entry.path

/-- The components whose field nodes come to `SafeAddressTextField`, by themselves or as a fallback. -/
def textComponents : List String :=
  ["Text", "TextInput", "DatePicker", "NumberInput", "MoneyInput", "Slider", "Rating", "Badge",
    "ProgressBar", "Summary"]

/-- The entry names a field at the top of the definition, as the key or with one slash before it. -/
def NamesTopLevel (path : String) : Prop :=
  ∃ key, pointerSegments path = [key] ∧ (path = key ∨ path = "/" ++ key)

/-- Every entry of the policy that names a rendered field names one at the top, and the plan shows it
with text components only. -/
def ProtectsTopLevel (form : RenderedForm) : Prop :=
  ∀ entry ∈ safeAddressFields form.definition,
    ∀ field ∈ form.rendered, pointerSegments entry.path = field.1 →
      NamesTopLevel entry.path ∧ ∀ name ∈ form.components field.2, name ∈ textComponents

theorem componentField_none {name : String} (h : componentField name = none) :
    name ∉ ["Text", "TextInput", "DatePicker", "NumberInput", "FileUpload"] := by
  unfold componentField at h
  split at h
  all_goals simp_all

theorem fieldComponent_masks_iff (name : String) :
    fieldComponent name = .safeAddressTextField ↔ name ∈ textComponents := by
  unfold fieldComponent
  split
  · rename_i exact hfield
    unfold componentField at hfield
    split at hfield
    all_goals cases hfield
    all_goals simp [textComponents]
  · rename_i hfield
    have hname := componentField_none hfield
    unfold fallbackName
    split
    all_goals simp_all [textComponents, componentField]

/-! ## What a path of the engine looks like -/

structure PathOf (keys : List String) (path : String) : Prop where
  keys_ne : keys ≠ []
  nonEmpty : path.toList ≠ []
  slash : '/' ∉ path.toList
  top : ∀ key, keys = [key] → path = key
  dotted : '.' ∈ path.toList ↔ 2 ≤ keys.length

structure PrefixOf (ancestors : List String) (above : String) : Prop where
  slash : '/' ∉ above.toList
  empty : above.isEmpty = true ↔ ancestors = []

theorem mem_itemKey {key : String} (h : isItemKey key = true) {c : Char} (hmem : c ∈ key.toList) :
    (isAsciiLetter c || isAsciiDigit c || c == '_') = true := by
  unfold isItemKey at h
  cases hchars : key.toList with
  | nil =>
    rw [hchars] at hmem
    cases hmem
  | cons first rest =>
    rw [hchars] at h hmem
    obtain ⟨hfirst, hrest⟩ := Bool.and_eq_true_iff.mp h
    rcases List.mem_cons.mp hmem with rfl | hmem
    · rw [hfirst]
      rfl
    · exact List.all_eq_true.mp hrest c hmem

theorem itemKey_ne_nil {key : String} (h : isItemKey key = true) : key.toList ≠ [] := by
  intro hnil
  unfold isItemKey at h
  rw [hnil] at h
  cases h

/-- A key has none of the characters that paths and pointers put between keys. -/
theorem notMem_itemKey {key : String} (h : isItemKey key = true) {c : Char}
    (hc : (isAsciiLetter c || isAsciiDigit c || c == '_') = false) : c ∉ key.toList := by
  intro hmem
  rw [mem_itemKey h hmem] at hc
  cases hc

theorem isEmpty_iff_toList {text : String} : text.isEmpty = true ↔ text.toList = [] := by
  rw [String.isEmpty_iff, String.toList_eq_nil_iff]

section

variable {ancestors : List String} {above key : String}

theorem pathOf_enginePath (h : PrefixOf ancestors above) (hkey : isItemKey key = true) :
    PathOf (ancestors ++ [key]) (enginePath above key) := by
  have hslash : '/' ∉ key.toList := notMem_itemKey hkey (by decide)
  by_cases hempty : above.isEmpty = true
  · rw [enginePath, if_pos hempty, h.empty.mp hempty]
    refine ⟨by simp, itemKey_ne_nil hkey, hslash, ?_, ?_⟩
    · intro other hother
      exact List.singleton_inj.mp hother
    · have hdot : '.' ∉ key.toList := notMem_itemKey hkey (by decide)
      exact iff_of_false hdot (by simp)
  · have hancestors : ancestors ≠ [] := fun hnil => hempty (h.empty.mpr hnil)
    have hchars : (above ++ "." ++ key).toList = above.toList ++ '.' :: key.toList := by
      rw [String.toList_append, String.toList_append, List.append_assoc]
      rfl
    rw [enginePath, if_neg hempty]
    have hlength : 0 < ancestors.length := List.length_pos_iff.mpr hancestors
    refine ⟨by simp, ?_, ?_, ?_, ?_⟩
    · rw [hchars]
      simp
    · rw [hchars]
      intro hmem
      rcases List.mem_append.mp hmem with hmem | hmem
      · exact h.slash hmem
      · rcases List.mem_cons.mp hmem with heq | hmem
        · exact absurd heq (by decide)
        · exact hslash hmem
    · intro other hother
      have hone := congrArg List.length hother
      rw [List.length_append, List.length_singleton, List.length_singleton] at hone
      omega
    · rw [hchars, List.length_append, List.length_singleton]
      exact iff_of_true (by simp) (by omega)

theorem prefixOf_path {keys : List String} {path : String} (h : PathOf keys path) :
    PrefixOf keys path := by
  refine ⟨h.slash, ?_⟩
  constructor
  · intro hempty
    exact absurd (isEmpty_iff_toList.mp hempty) h.nonEmpty
  · intro hnil
    exact absurd hnil h.keys_ne

theorem notMem_toString {c : Char} (hc : c.isDigit = false) (n : Nat) : c ∉ (toString n).toList := by
  intro hmem
  rw [Nat.toString_eq_ofList_toDigits, String.toList_ofList] at hmem
  rw [Nat.isDigit_of_mem_toDigits (by omega) (by omega) hmem] at hc
  cases hc

theorem prefixOf_row {repeatable : List String → Bool} {repeats : String → Nat} {keys : List String}
    {path row : String} (h : PathOf keys path)
    (hrow : row ∈ rowPrefixes repeatable repeats keys path) : PrefixOf keys row := by
  unfold rowPrefixes at hrow
  split at hrow
  · obtain ⟨index, -, rfl⟩ := List.mem_map.mp hrow
    have hchars : (path ++ "[" ++ toString index ++ "]").toList
        = path.toList ++ '[' :: ((toString index).toList ++ [']']) := by
      rw [String.toList_append, String.toList_append, String.toList_append, List.append_assoc,
        List.append_assoc]
      rfl
    refine ⟨?_, ?_⟩
    · rw [hchars]
      intro hmem
      rcases List.mem_append.mp hmem with hmem | hmem
      · exact h.slash hmem
      · rcases List.mem_cons.mp hmem with heq | hmem
        · exact absurd heq (by decide)
        · rcases List.mem_append.mp hmem with hmem | hmem
          · exact notMem_toString (by decide) index hmem
          · exact absurd (List.mem_singleton.mp hmem) (by decide)
    · constructor
      · intro hempty
        rw [isEmpty_iff_toList, hchars] at hempty
        exact absurd hempty (by simp)
      · intro hnil
        exact absurd hnil h.keys_ne
  · rw [List.mem_singleton.mp hrow]
    exact prefixOf_path h

end

section

variable {repeatable : List String → Bool} {repeats : String → Nat}

mutual

theorem pathOf_registerItem {ancestors : List String} {above : String} (item : FormItem)
    (h : PrefixOf ancestors above)
    (hkeys : ∀ occurrence ∈ item.occurrences fun _ => true, isItemKey occurrence.2.key = true)
    {field : List String × String} (hmem : field ∈ registerItem repeatable repeats ancestors above item) :
    PathOf field.1 field.2 := by
  cases item with
  | node item children =>
    have hkey : isItemKey item.key = true := hkeys ([], item) (by simp [Tree.occurrences])
    have hchildren : ∀ occurrence ∈ occurrencesAll (fun _ => true) children,
        isItemKey occurrence.2.key = true := by
      intro occurrence hoccurrence
      refine hkeys (item :: occurrence.1, occurrence.2) ?_
      rw [Tree.occurrences, if_pos rfl]
      exact List.mem_cons_of_mem _ (List.mem_map.mpr ⟨occurrence, hoccurrence, rfl⟩)
    have hpath := pathOf_enginePath h hkey
    unfold registerItem at hmem
    split at hmem
    · rcases List.mem_cons.mp hmem with rfl | hmem
      · exact hpath
      · exact pathOf_registerItems children (prefixOf_path hpath) hchildren hmem
    · cases hmem
    · obtain ⟨row, hrow, hmem⟩ := List.mem_flatMap.mp hmem
      exact pathOf_registerItems children (prefixOf_row hpath hrow) hchildren hmem

theorem pathOf_registerItems {ancestors : List String} {above : String} (items : List FormItem)
    (h : PrefixOf ancestors above)
    (hkeys : ∀ occurrence ∈ occurrencesAll (fun _ => true) items, isItemKey occurrence.2.key = true)
    {field : List String × String}
    (hmem : field ∈ registerItems repeatable repeats ancestors above items) :
    PathOf field.1 field.2 := by
  cases items with
  | nil => cases hmem
  | cons item items =>
    rcases List.mem_append.mp hmem with hmem | hmem
    · refine pathOf_registerItem item h (fun occurrence hoccurrence => ?_) hmem
      exact hkeys occurrence (List.mem_append_left _ hoccurrence)
    · refine pathOf_registerItems items h (fun occurrence hoccurrence => ?_) hmem
      exact hkeys occurrence (List.mem_append_right _ hoccurrence)

end

end

theorem RenderedForm.pathOf_instance (form : RenderedForm) {field : List String × String}
    (h : field ∈ form.instances) : PathOf field.1 field.2 :=
  pathOf_registerItems form.definition.items ⟨by simp, by simp⟩ form.key_valid h

/-! ## What the comparison identifies -/

theorem withoutSlash_of_notMem {chars : List Char} (h : '/' ∉ chars) : withoutSlash chars = chars := by
  cases chars with
  | nil => rfl
  | cons c rest =>
    have hc : c ≠ '/' := by
      rintro rfl
      exact h List.mem_cons_self
    unfold withoutSlash
    split
    · next heq => exact absurd (List.cons.inj heq).1 hc
    · rfl

theorem sameFieldPath_iff {configPath runtimePath : String} (h : '/' ∉ runtimePath.toList) :
    sameFieldPath configPath runtimePath = true
      ↔ withoutSlash configPath.toList = runtimePath.toList := by
  have hruntime : withoutSlash runtimePath.toList = runtimePath.toList := withoutSlash_of_notMem h
  rw [sameFieldPath, hruntime, Bool.or_eq_true, beq_iff_eq, beq_iff_eq]
  constructor
  · rintro (rfl | heq)
    · exact hruntime
    · exact heq
  · exact Or.inr

theorem eq_of_withoutSlash {pointer key : String} (h : withoutSlash pointer.toList = key.toList) :
    pointer = key ∨ pointer = "/" ++ key := by
  unfold withoutSlash at h
  split at h
  · next rest heq =>
    right
    apply String.toList_injective
    rw [heq, h, String.toList_append]
    rfl
  · left
    exact String.toList_injective h

theorem withoutSlash_of_eq {pointer key : String} (hslash : '/' ∉ key.toList)
    (h : pointer = key ∨ pointer = "/" ++ key) : withoutSlash pointer.toList = key.toList := by
  rcases h with rfl | rfl
  · exact withoutSlash_of_notMem hslash
  · rw [String.toList_append]
    rfl

variable {pointer path : String}

theorem pointerSegments_of_noSlash (hslash : '/' ∉ path.toList)
    (hne : path.toList ≠ []) (h : withoutSlash pointer.toList = path.toList) :
    ∃ key, pointerSegments pointer = [key] := by
  have hsplit : path.toList.splitOn '/' = [path.toList] := by
    apply List.splitOnP_eq_singleton
    intro c hc
    exact beq_eq_false_iff_ne.mpr fun heq => hslash (heq ▸ hc)
  refine ⟨unescapeSegment path.toList, ?_⟩
  rw [pointerSegments, h, hsplit, List.filter_cons_of_pos (by simpa using hne)]
  rfl

theorem namesTopLevel_of_same {keys : List String} (hpath : PathOf keys path)
    (hkeys : pointerSegments pointer = keys) (hsame : sameFieldPath pointer path = true) :
    NamesTopLevel pointer := by
  have hread := (sameFieldPath_iff hpath.slash).mp hsame
  obtain ⟨key, hkey⟩ := pointerSegments_of_noSlash hpath.slash hpath.nonEmpty hread
  have htop : path = key := hpath.top key (hkeys.symm.trans hkey)
  exact ⟨key, hkey, eq_of_withoutSlash (htop ▸ hread)⟩

theorem same_iff_of_namesTopLevel {keys : List String}
    {field : List String × String} (h : NamesTopLevel pointer) (hpath : PathOf keys path)
    (hfield : PathOf field.1 field.2) (hnames : pointerSegments pointer = field.1) :
    sameFieldPath pointer path = true ↔ keys = pointerSegments pointer := by
  obtain ⟨key, hkey, hpointer⟩ := h
  have hfieldPath : field.2 = key := hfield.top key (hnames.symm.trans hkey)
  have hslash : '/' ∉ key.toList := hfieldPath ▸ hfield.slash
  have hdot : '.' ∉ key.toList := by
    rw [← hfieldPath, hfield.dotted, ← hnames, hkey]
    simp
  rw [sameFieldPath_iff hpath.slash, withoutSlash_of_eq hslash hpointer, hkey]
  constructor
  · intro heq
    have hsingle : ¬2 ≤ keys.length := by
      rw [← hpath.dotted, ← heq]
      exact hdot
    have hpos : 0 < keys.length := List.length_pos_iff.mpr hpath.keys_ne
    obtain ⟨own, rfl⟩ := List.length_eq_one_iff.mp (show keys.length = 1 by omega)
    rw [← hpath.top own rfl]
    exact congrArg ([·]) (String.toList_injective heq).symm
  · rintro rfl
    rw [hpath.top key rfl]

/-- Every rendered instance of every field the policy names is masked, and the comparison tells the
fields apart, exactly if the policy names no rendered field below the top of the definition and none
that is shown by another component than a text component. -/
theorem masksProtected_iff (form : RenderedForm) : MasksProtected form ↔ ProtectsTopLevel form := by
  have hpath : ∀ field ∈ form.rendered, PathOf field.1 field.2 := fun field hfield =>
    form.pathOf_instance (List.mem_of_mem_filter hfield)
  constructor
  · intro hmasks entry hentry field hfield hnames
    obtain ⟨hmasked, hidentifies⟩ := hmasks entry hentry field hfield hnames
    have hsame := (hidentifies field hfield).mpr hnames.symm
    refine ⟨namesTopLevel_of_same (hpath field hfield) hnames hsame, fun name hname => ?_⟩
    have hcomponent := (Bool.and_eq_true_iff.mp (hmasked name hname)).1
    exact (fieldComponent_masks_iff name).mp (beq_iff_eq.mp hcomponent)
  · intro htop entry hentry field hfield hnames
    obtain ⟨hlevel, hcomponents⟩ := htop entry hentry field hfield hnames
    have hidentifies : ∀ other ∈ form.rendered,
        sameFieldPath entry.path other.2 = true ↔ other.1 = pointerSegments entry.path := by
      intro other hother
      exact same_iff_of_namesTopLevel hlevel (hpath other hother) (hpath field hfield) hnames
    refine ⟨fun name hname => ?_, hidentifies⟩
    have hentry : (protectedField (safeAddressFields form.definition) field.2).isSome = true :=
      List.find?_isSome.mpr ⟨entry, hentry, (hidentifies field hfield).mpr hnames.symm⟩
    rw [selectsMask, (fieldComponent_masks_iff name).mpr (hcomponents name hname), hentry]
    rfl

/-- One address at the top of the definition, on nodes of these components. -/
def addressForm (components : List String)
    (h : ∀ name ∈ components, isComponentName name = true) : RenderedForm where
  definition :=
    { items := [.node ⟨"home", .field, "Home", none, some (.object [("class", .string "safe-address")]), none⟩
        []]
      extension := fun _ => none }
  repeatable := fun _ => false
  repeats := fun _ => 0
  components := fun path => if path = "home" then components else []
  key_valid := by decide
  component_valid := by
    intro path name hname
    split at hname
    · exact h name hname
    · cases hname

def textForm : RenderedForm := addressForm ["TextInput", "Slider"] (by decide +kernel)

def selectForm : RenderedForm := addressForm ["Select"] (by decide +kernel)

/-- It is masked on a text input and on a slider, and shown in the clear by a select. -/
theorem masksProtected_addressForm : MasksProtected textForm ∧ ¬MasksProtected selectForm := by
  constructor
  · refine (masksProtected_iff textForm).mpr ?_
    have hentries : ∀ entry ∈ safeAddressFields textForm.definition, entry.path = "/home" := by
      decide +kernel
    have hfields : ∀ field ∈ textForm.rendered, field.2 = "home" := by decide +kernel
    intro entry hentry field hfield _
    rw [hentries entry hentry, hfields field hfield]
    exact ⟨⟨"home", by decide +kernel, .inr rfl⟩, by decide +kernel⟩
  · intro hmasks
    have hentry : (⟨"/home", some "Home", .safeAddress, none, none, none⟩ : SafeAddressFieldPolicy)
        ∈ safeAddressFields selectForm.definition := by decide +kernel
    have hfield : (["home"], "home") ∈ selectForm.rendered := by decide +kernel
    have htext := ((masksProtected_iff selectForm).mp hmasks _ hentry _ hfield (by decide +kernel)).2
    exact absurd (htext "Select" (by decide +kernel)) (by decide)

def householdForm : RenderedForm where
  definition := householdDefinition
  repeatable := fun _ => false
  repeats := fun _ => 0
  components := fun path => if path = "people.home" then ["TextInput"] else []
  key_valid := by decide
  component_valid := by
    intro path name hname
    split at hname
    · rw [List.mem_singleton.mp hname]
      decide +kernel
    · cases hname

def homeEntry : SafeAddressFieldPolicy := ⟨"/people/home", some "Home", .safeAddress, none, none, none⟩

theorem household_not_masked : ¬ MasksProtected householdForm := by
  intro hmasks
  have hentry : homeEntry ∈ safeAddressFields householdForm.definition := by decide +kernel
  have hfield : (["people", "home"], "people.home") ∈ householdForm.rendered := by decide +kernel
  have hmasked := (hmasks homeEntry hentry _ hfield household_segments).1 "TextInput" (by decide +kernel)
  have hclear : selectsMask (safeAddressFields householdForm.definition) "TextInput" "people.home" = false := by
    decide +kernel
  rw [hclear] at hmasked
  cases hmasked

end FormspecWeb.App
