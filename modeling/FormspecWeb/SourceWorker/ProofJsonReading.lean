import FormspecWeb.Shared.Decimals
import FormspecWeb.Shared.JsonRoundTrip
import FormspecWeb.SourceWorker.ProofJson
import Mathlib.Data.List.Nodup

/-!
# One reading of a proof

The tree of a text and its value come from two readers. What they have in common is the spelling of the
text: the tree's nodes stand where the spelling's values stand, and have their names and numbers. So
what is refused in the tree is not in the value, and a field that is cut out where its node stands is
the text of the member's value.
-/

namespace FormspecWeb.SourceWorker.ProofJson

open FormspecWeb.Shared
open JsonText

variable {ν : Type} {format : NumberFormat ν}

mutual

def nodeOf (offset : Nat) : Spelling format → Node ν
  | .null => .mk .null offset 4 (some .null) []
  | .bool value => .mk .boolean offset (Spelling.text (.bool value : Spelling format)).length (some (.bool value)) []
  | .number lexeme => .mk .number offset lexeme.text.length (some (.number lexeme.value)) []
  | .string lexeme => .mk .string offset lexeme.text.length (some (.string lexeme.value)) []
  | .array inner entries =>
    .mk .array offset (Spelling.array inner entries).text.length none (entryNodes (offset + 1) entries)
  | .object inner members =>
    .mk .object offset (Spelling.object inner members).text.length none (memberNodes (offset + 1) members)

def entryNodes (offset : Nat) : List (Blank × Spelling format × Blank) → List (Node ν)
  | [] => []
  | (before, entry, behind) :: entries =>
    nodeOf (offset + before.text.length) entry
      :: entryNodes (offset + before.text.length + entry.text.length + behind.text.length + 1) entries

def memberNodes (offset : Nat) : List (NameLexeme × Spelling format × Blank) → List (Node ν)
  | [] => []
  | (name, value, behind) :: members =>
    .mk .property (offset + name.before.text.length)
        (name.text.length - name.before.text.length + value.text.length) none
        [.mk .string (offset + name.before.text.length) name.name.text.length
            (some (.string name.name.value)) [],
          nodeOf (offset + name.text.length) value]
      :: memberNodes (offset + name.text.length + value.text.length + behind.text.length + 1) members

end

/-- The parser follows the grammar: where it finds no error the text is a spelling, with white space around
it, and the tree is the spelling's. Options that allow more read such a text alike. -/
structure FollowsGrammar (format : NumberFormat ν) (parseTree : ParseTree ν) : Prop where
  strict : ∀ text tree, parseTree ⟨true, false⟩ text = (some tree, 0) →
    ∃ (before : Blank) (spelling : Spelling format) (behind : Blank),
      text = before.text ++ (spelling.text ++ behind.text) ∧ tree = nodeOf before.text.length spelling
  default : ∀ text tree, parseTree ⟨true, false⟩ text = (some tree, 0) →
    (parseTree ⟨false, false⟩ text).1 = some tree

/-! ## What the inspection admits -/

variable (numbers : Numbers ν)

/-- The names of an object are different, and a number is a finite one in the range of safe integers. -/
def Fine : Json ν → Prop
  | .object members => (members.map (·.1)).Nodup
  | .number value => ∃ m, numbers.magnitude value = some m ∧ m ≤ maxSafeInteger
  | _ => True

def AllFine (value : Json ν) : Prop := ∀ inner, Within inner value → Fine numbers inner

variable {numbers}

theorem inspectKeys_ok {keys : List (Option Text)} {properties : List (Node ν)}
    (h : inspectKeys keys properties = .ok ()) :
    (properties.map Node.key).Nodup ∧ ∀ key ∈ properties.map Node.key, key ∉ keys := by
  induction properties generalizing keys with
  | nil => exact ⟨List.nodup_nil, fun _ hkey => absurd hkey List.not_mem_nil⟩
  | cons property properties ih =>
    rw [inspectKeys] at h
    split at h
    · cases h
    · next hnew =>
      obtain ⟨hnodup, hkeys⟩ := ih h
      have hproperty : property.key ∉ keys := by simpa using hnew
      rw [List.map_cons]
      refine ⟨List.nodup_cons.mpr ⟨fun hmem => hkeys _ hmem List.mem_cons_self, hnodup⟩, ?_⟩
      intro key hkey
      rcases List.mem_cons.mp hkey with rfl | hkey
      · exact hproperty
      · exact fun hmem => hkeys key hkey (List.mem_cons_of_mem _ hmem)

theorem inspect_ok {type : NodeType} {offset length depth : Nat} {value : Option (Json ν)}
    {children : List (Node ν)} (h : inspect numbers (.mk type offset length value children) depth = .ok ()) :
    (type = .object → inspectKeys [] children = .ok ()) ∧ (type = .number → supported numbers value = true)
      ∧ inspectAll numbers children (depth + 1) = .ok () := by
  rw [inspect, failIf_bind_ok, then_ok, failIf_bind_ok] at h
  obtain ⟨-, hnames, hnumber, hchildren⟩ := h
  refine ⟨?_, ?_, hchildren⟩
  · intro htype
    rwa [inspectNames, if_pos htype] at hnames
  · intro htype
    rwa [htype, beq_self_eq_true, Bool.true_and, Bool.not_eq_false'] at hnumber

theorem inspectAll_cons {child : Node ν} {children : List (Node ν)} {depth : Nat}
    (h : inspectAll numbers (child :: children) depth = .ok ()) :
    inspect numbers child depth = .ok () ∧ inspectAll numbers children depth = .ok () := by
  rw [inspectAll] at h
  exact then_ok.mp h

theorem key_memberNodes (members : List (NameLexeme × Spelling format × Blank)) (offset : Nat) :
    (memberNodes offset members).map Node.key = (Spelling.memberValues members).map (some ·.1) := by
  induction members generalizing offset with
  | nil => rfl
  | cons member members ih =>
    obtain ⟨name, value, behind⟩ := member
    rw [memberNodes, List.map_cons, ih, Spelling.memberValues, List.map_cons]
    rfl

mutual

theorem fine_of_inspect (spelling : Spelling numbers.toNumberFormat) {offset depth : Nat}
    (h : inspect numbers (nodeOf offset spelling) depth = .ok ()) : AllFine numbers spelling.value := by
  intro inner hinner
  match spelling with
  | .null =>
    cases hinner
    trivial
  | .bool _ =>
    cases hinner
    trivial
  | .string _ =>
    cases hinner
    trivial
  | .number lexeme =>
    cases hinner
    have hsupported := (inspect_ok h).2.1 rfl
    rw [supported, Option.any_eq_true] at hsupported
    obtain ⟨m, hm, hle⟩ := hsupported
    exact ⟨m, hm, of_decide_eq_true hle⟩
  | .array _ entries =>
    have hentries := fine_of_entries entries (inspect_ok h).2.2
    cases hinner with
    | self => trivial
    | entry hentry hinner => exact hentries _ hentry inner hinner
  | .object _ members =>
    obtain ⟨hkeys, -, hchildren⟩ := inspect_ok h
    have hmembers := fine_of_members members hchildren
    cases hinner with
    | self =>
      have hnodup := (inspectKeys_ok (hkeys rfl)).1
      rw [key_memberNodes] at hnodup
      apply List.Nodup.of_map some
      rwa [List.map_map]
    | member hmember hinner => exact hmembers _ _ hmember inner hinner

theorem fine_of_entries (entries : List (Blank × Spelling numbers.toNumberFormat × Blank)) {offset depth : Nat}
    (h : inspectAll numbers (entryNodes offset entries) depth = .ok ()) :
    ∀ entry ∈ Spelling.entryValues entries, AllFine numbers entry := by
  match entries with
  | [] => exact fun _ hentry => absurd hentry List.not_mem_nil
  | (_, entry, _) :: entries =>
    obtain ⟨hentry, hentries⟩ := inspectAll_cons h
    exact List.forall_mem_cons.mpr ⟨fine_of_inspect entry hentry, fine_of_entries entries hentries⟩

theorem fine_of_members (members : List (NameLexeme × Spelling numbers.toNumberFormat × Blank))
    {offset depth : Nat} (h : inspectAll numbers (memberNodes offset members) depth = .ok ()) :
    ∀ name value, (name, value) ∈ Spelling.memberValues members → AllFine numbers value := by
  match members with
  | [] => exact fun _ _ hmember => absurd hmember List.not_mem_nil
  | (lexeme, spelling, _) :: members =>
    obtain ⟨hproperty, hmembers⟩ := inspectAll_cons h
    have hvalue := (inspectAll_cons (inspectAll_cons (inspect_ok hproperty).2.2).2).1
    intro name value hmember
    rcases List.mem_cons.mp hmember with heq | hmember
    · cases heq
      exact fine_of_inspect spelling hvalue
    · exact fine_of_members members hmembers name value hmember

end

def listText : List (NameLexeme × Spelling format × Blank) → Text
  | [] => [125]
  | (name, value, behind) :: members =>
    name.text ++ (value.text ++ (behind.text ++ Spelling.membersText members))

theorem membersText_eq (member : NameLexeme × Spelling format × Blank)
    (members : List (NameLexeme × Spelling format × Blank)) :
    Spelling.membersText (member :: members) = 44 :: listText (member :: members) := rfl

theorem text_object (inner : Blank) (member : NameLexeme × Spelling format × Blank)
    (members : List (NameLexeme × Spelling format × Blank)) :
    (Spelling.object inner (member :: members)).text = 123 :: listText (member :: members) := rfl

theorem behind_value (behind : Blank) (members : List (NameLexeme × Spelling format × Blank)) (rest : Text) :
    ∀ u ∈ (behind.text ++ (Spelling.membersText members ++ rest)).head?, u < 128 := by
  intro u hu
  cases htext : behind.text with
  | cons first lead =>
    have hspace : isSpace first = true := List.all_eq_true.mp behind.blank first (htext ▸ List.mem_cons_self)
    rw [htext] at hu
    cases hu
    simp only [isSpace, Bool.or_eq_true, beq_iff_eq] at hspace
    omega
  | nil =>
    rw [htext] at hu
    cases members with
    | nil =>
      cases hu
      decide
    | cons member members =>
      cases hu
      decide

theorem mem_memberNodes {members : List (NameLexeme × Spelling format × Blank)} {lead : Text} (rest : Text)
    {property : Node ν} (h : property ∈ memberNodes lead.length members) :
    ∃ name, ∃ value : Spelling format, ∃ before behind, property.key = some name
      ∧ property.children[1]? = some (nodeOf before.length value)
      ∧ (name, value.value) ∈ Spelling.memberValues members
      ∧ lead ++ (listText members ++ rest) = before ++ (value.text ++ behind)
      ∧ ∀ u ∈ behind.head?, u < 128 := by
  induction members generalizing lead with
  | nil => exact absurd h List.not_mem_nil
  | cons member members ih =>
    obtain ⟨name, value, blank⟩ := member
    rw [memberNodes] at h
    rcases List.mem_cons.mp h with rfl | h
    · refine ⟨name.name.value, value, lead ++ name.text, blank.text ++ (Spelling.membersText members ++ rest), rfl,
        ?_, List.mem_cons_self, ?_, behind_value blank members rest⟩
      · rw [List.length_append]
        rfl
      · simp only [listText, List.append_assoc]
    · cases members with
      | nil => exact absurd h List.not_mem_nil
      | cons next members =>
        have hlength : lead.length + name.text.length + value.text.length + blank.text.length + 1
            = (lead ++ (name.text ++ (value.text ++ (blank.text ++ [44])))).length := by
          simp only [List.length_append, List.length_singleton]
          omega
        rw [hlength] at h
        obtain ⟨found, inner, before, behind, hkey, hnode, hmem, htext, hbehind⟩ := ih h
        refine ⟨found, inner, before, behind, hkey, hnode, List.mem_cons_of_mem _ hmem, ?_, hbehind⟩
        rw [← htext, listText, membersText_eq]
        simp only [List.append_assoc, List.cons_append, List.nil_append]

variable {parseTree : ParseTree ν} {bytes : Bytes} {cap : Option Rat} {value : Json ν}

theorem decode_ok {text : Text} : decode bytes = .ok text ↔ decodeText bytes = some text := by
  rw [decode]
  cases decodeText bytes with
  | none => exact ⟨fun h => (by cases h), fun h => (by cases h)⟩
  | some found => exact ⟨fun h => congrArg some (Except.ok.inj h), fun h => congrArg Except.ok (Option.some.inj h)⟩

theorem strictTree_ok {text : Text} {tree : Node ν} (h : strictTree parseTree text = .ok tree) :
    parseTree ⟨true, false⟩ text = (some tree, 0) := by
  rw [strictTree] at h
  split at h
  · next heq =>
    rw [heq, Except.ok.inj h]
  · cases h

/-- What is admitted is a spelling all of which is fine, and its value. -/
structure Admitted (numbers : Numbers ν) (parseTree : ParseTree ν) (bytes : Bytes) (value : Json ν) where
  before : Blank
  spelling : Spelling numbers.toNumberFormat
  behind : Blank
  text : decodeText bytes = some (before.text ++ (spelling.text ++ behind.text))
  tree : parseTree ⟨true, false⟩ (before.text ++ (spelling.text ++ behind.text))
    = (some (nodeOf before.text.length spelling), 0)
  fine : AllFine numbers spelling.value
  value_eq : value = spelling.value

theorem AllFine.oneEach (h : AllFine numbers value) : OneEach value :=
  fun _ hmembers => h _ hmembers

theorem jsonParse_spelling (before behind : Blank) (spelling : Spelling numbers.toNumberFormat)
    (h : AllFine numbers spelling.value) :
    jsonParse numbers (before.text ++ (spelling.text ++ behind.text)) = .ok spelling.value := by
  rw [jsonParse, parse_spelling]
  exact congrArg Except.ok (built_eq _ h.oneEach)

theorem admitted (hgrammar : FollowsGrammar numbers.toNumberFormat parseTree)
    (h : decodeBoundedProofJson numbers parseTree bytes cap = .ok value) :
    Nonempty (Admitted numbers parseTree bytes value) := by
  rw [decodeBoundedProofJson, sequence_ok] at h
  obtain ⟨size, -, h⟩ := h
  obtain ⟨copy, hcopy, h⟩ := sequence_ok.mp h
  obtain ⟨text, htext, h⟩ := sequence_ok.mp h
  obtain ⟨tree, htree, h⟩ := sequence_ok.mp h
  obtain ⟨hinspect, h⟩ := then_ok.mp h
  obtain ⟨parsed, hparsed, h⟩ := sequence_ok.mp h
  obtain ⟨-, hvalue⟩ := then_ok.mp h
  have hbytes : copy = bytes := by
    rw [snapshot, snapshotInput] at hcopy
    split at hcopy
    · next heq =>
      split at heq
      · cases heq
      · rw [← Except.ok.inj hcopy, Option.some.inj heq]
    · cases hcopy
  have hstrict := strictTree_ok htree
  obtain ⟨before, spelling, behind, rfl, rfl⟩ := hgrammar.strict text tree hstrict
  have hfine := fine_of_inspect spelling hinspect
  rw [jsonParse_spelling before behind spelling hfine] at hparsed
  refine ⟨before, spelling, behind, ?_, hstrict, hfine, ?_⟩
  · rw [← hbytes]
    exact decode_ok.mp htext
  · rw [← Except.ok.inj hvalue, Except.ok.inj hparsed]

/-! ## A field -/

theorem offset_nodeOf (offset : Nat) (spelling : Spelling format) : (nodeOf offset spelling).offset = offset := by
  cases spelling <;> rfl

theorem length_nodeOf (offset : Nat) (spelling : Spelling format) :
    (nodeOf offset spelling).length = spelling.text.length := by
  cases spelling <;> rfl

theorem slice_append (before text behind : Text) :
    slice (before ++ (text ++ behind)) before.length text.length = text := by
  rw [slice, List.drop_left, List.take_left]

theorem not_low {u : Nat} (h : u < 128) : isLowSurrogate u = false := by
  simp only [isLowSurrogate, Bool.and_eq_false_iff, decide_eq_false_iff_not]
  omega

theorem decode_cut {text before behind : Text} {spelling : Spelling format} (htext : decodeText bytes = some text)
    (hcut : text = before ++ (spelling.text ++ behind)) (hbehind : ∀ u ∈ behind.head?, u < 128) :
    decodeText (encodeText spelling.text) = some spelling.text := by
  obtain ⟨chars, hchars⟩ := charsText_of_decodeText htext
  obtain ⟨u, lead, hlead, -, -, hu⟩ := spelling.text_head
  have hfirst : ∀ v ∈ (spelling.text ++ behind).head?, isLowSurrogate v = false := by
    intro v hv
    rw [hlead] at hv
    cases hv
    exact not_low hu
  obtain ⟨front, back, -, -, hback⟩ := charsText_append (hchars.symm.trans hcut) hfirst
  obtain ⟨inner, rest, -, hinner, -⟩ := charsText_append hback.symm fun v hv => not_low (hbehind v hv)
  rw [hinner]
  exact decodeText_encodeText inner

theorem fieldNode_ok {lead : Text} (rest : Text) {spelling : Spelling format} {name : Text} {node : Node ν}
    (hnode : fieldNode (some (nodeOf lead.length spelling)) name = some node)
    (htype : (nodeOf lead.length spelling).type = .object) :
    ∃ members, ∃ value : Spelling format, ∃ before behind, spelling.value = .object members
      ∧ (name, value.value) ∈ members
      ∧ node = nodeOf before.length value
      ∧ lead ++ (spelling.text ++ rest) = before ++ (value.text ++ behind) ∧ ∀ u ∈ behind.head?, u < 128 := by
  cases spelling with
  | object inner members =>
    obtain ⟨property, hfind, hchild⟩ := Option.bind_eq_some_iff.mp hnode
    have hmem : property ∈ memberNodes (lead.length + 1) members := List.mem_of_find?_eq_some hfind
    have hkey : property.key = some name := by simpa using List.find?_some hfind
    have hlength : lead.length + 1 = (lead ++ [123]).length := by
      rw [List.length_append, List.length_singleton]
    rw [hlength] at hmem
    obtain ⟨found, value, before, behind, hfound, hvalue, hvalues, htext, hbehind⟩ :=
      mem_memberNodes rest hmem
    rw [hkey] at hfound
    cases hfound
    rw [hvalue] at hchild
    refine ⟨_, value, before, behind, rfl, hvalues, (Option.some.inj hchild).symm, ?_, hbehind⟩
    cases members with
    | nil => exact absurd hmem List.not_mem_nil
    | cons member members =>
      rw [← htext, text_object, List.append_assoc]
      rfl
  | null => cases htype
  | bool => cases htype
  | number => cases htype
  | string => cases htype
  | array => cases htype

theorem field_reads (hgrammar : FollowsGrammar numbers.toNumberFormat parseTree)
    (h : Admitted numbers parseTree bytes value) {name : Text} {field : Bytes}
    (hfield : boundedProofJsonField numbers parseTree bytes name cap = .ok field) :
    ∃ members member text, value = .object members ∧ members.lookup name = some member
      ∧ decodeText field = some text ∧ jsonParse numbers text = .ok member := by
  rw [boundedProofJsonField, sequence_ok] at hfield
  obtain ⟨-, -, hfield⟩ := hfield
  obtain ⟨text, htext, hfield⟩ := sequence_ok.mp hfield
  have hdecode := decode_ok.mp htext
  rw [h.text] at hdecode
  cases hdecode
  rw [hgrammar.default _ _ h.tree] at hfield
  dsimp only at hfield
  split at hfield
  · next node hnode =>
    split at hfield
    · next htype =>
      obtain ⟨members, inner, before, behind, hvalue, hmember, rfl, hcut, hbehind⟩ :=
        fieldNode_ok h.behind.text hnode (Option.some.inj htype)
      rw [hcut, offset_nodeOf, length_nodeOf, slice_append] at hfield
      have hall := h.fine
      rw [hvalue] at hall
      have hfine : AllFine numbers inner.value := fun found hfound => hall found (.member hmember hfound)
      have hparse := jsonParse_spelling noBlank noBlank inner hfine
      rw [noBlank, List.nil_append, List.append_nil] at hparse
      refine ⟨members, inner.value, inner.text, h.value_eq.trans hvalue, lookup_of_mem (hall _ .self) hmember, ?_, hparse⟩
      rw [← Except.ok.inj hfield]
      exact decode_cut h.text hcut hbehind
    · cases hfield
  · cases hfield

/-- Admitted bytes have one reading: their text, of which `parse` keeps every member, has no two members
of one name in an object and no number out of range, and its value is what is returned; a field's bytes are
read as the value of that member. -/
theorem one_reading (numbers : Numbers ν) (parseTree : ParseTree ν)
    (hgrammar : FollowsGrammar numbers.toNumberFormat parseTree) (bytes : Bytes) (cap : Option Rat)
    (value : Json ν) (h : decodeBoundedProofJson numbers parseTree bytes cap = .ok value) :
    (∃ text, decodeText bytes = some text ∧ parse numbers.toNumberFormat text = some value)
      ∧ (∀ members, Within (.object members) value → (members.map (·.1)).Nodup)
      ∧ (∀ n, Within (.number n) value → ∃ m, numbers.magnitude n = some m ∧ m ≤ 9007199254740991)
      ∧ ∀ name fieldCap field, boundedProofJsonField numbers parseTree bytes name fieldCap = .ok field →
          ∃ members member text, value = .object members ∧ members.lookup name = some member
            ∧ decodeText field = some text ∧ jsonParse numbers text = .ok member := by
  obtain ⟨hadmitted⟩ := admitted hgrammar h
  have hfine : AllFine numbers value := hadmitted.value_eq ▸ hadmitted.fine
  refine ⟨⟨_, hadmitted.text, ?_⟩, fun members hmembers => hfine _ hmembers, fun n hn => hfine _ hn,
    fun name fieldCap field hfield => field_reads hgrammar hadmitted hfield⟩
  rw [parse_spelling]
  exact congrArg some hadmitted.value_eq.symm

section

def sampleNumbers : Numbers Nat := { wholeNumbers with magnitude := fun n => some n }

def sampleFormat : NumberFormat Nat := sampleNumbers.toNumberFormat

def sampleProofs : Json Nat := .array [.number 1, .object [(units "index", .number 7), (units "next", .null)]]

def oneSpace : Blank := ⟨units " ", rfl⟩

def escapedName : StringLexeme :=
  ⟨units "pro" ++ escapeUnit 111 ++ units "fs" ++ [34], units "proofs", by rfl⟩

def sampleSpelling : Spelling sampleFormat :=
  .object noBlank
    [(⟨noBlank, printedString (units "root"), oneSpace, oneSpace⟩,
        printed sampleFormat (.object [(units "index", .number 3)]), noBlank),
      (⟨oneSpace, escapedName, noBlank, noBlank⟩, printed sampleFormat sampleProofs, noBlank)]

def sampleText : Text := sampleSpelling.text

def sampleProof : Json Nat :=
  .object [(units "root", .object [(units "index", .number 3)]), (units "proofs", sampleProofs)]

def sampleTree : ParseTree Nat := fun _ text =>
  if text = sampleText then (some (nodeOf 0 sampleSpelling), 0) else (none, 1)

theorem sampleTree_follows : FollowsGrammar sampleFormat sampleTree where
  strict text tree h := by
    rw [sampleTree] at h
    split at h
    · next htext =>
      refine ⟨noBlank, sampleSpelling, noBlank, ?_, ?_⟩
      · rw [htext, noBlank, List.nil_append, List.append_nil, sampleText]
      · exact (Option.some.inj (Prod.mk.inj h).1).symm
    · cases h
  default text tree h := by
    rw [sampleTree] at h ⊢
    rw [h]

theorem sample_decodes : decode (encodeText sampleText) = .ok sampleText := by
  have htext : sampleText = charsText ("\x7b\"root\" : \x7b\"index\":3\x7d, \"pro\\u006ffs\":[1,\x7b\"index\":7,"
      ++ "\"next\":null\x7d]\x7d").toList := by decide
  rw [htext]
  exact decode_ok.mpr (decodeText_encodeText _)

theorem sample_inspected : inspect sampleNumbers (nodeOf 0 sampleSpelling) 0 = .ok () := by
  rfl

theorem sample_parsed : jsonParse sampleNumbers sampleText = .ok sampleProof := by
  rfl

theorem sample_admitted :
    decodeBoundedProofJson sampleNumbers sampleTree (encodeText sampleText) (some smallCap) = .ok sampleProof := by
  have hsnapshot : snapshot (encodeText sampleText) smallCap = .ok (encodeText sampleText) := by
    rfl
  have htree : strictTree sampleTree sampleText = .ok (nodeOf 0 sampleSpelling) := by
    rw [strictTree, sampleTree, if_pos rfl]
    rfl
  rw [decodeBoundedProofJson, show proofCap (some smallCap) = .ok smallCap by rfl]
  simp only [hsnapshot, sample_decodes, htree, sample_inspected, sample_parsed, bind, Except.bind]
  rfl

theorem sample_field :
    boundedProofJsonField sampleNumbers sampleTree (encodeText sampleText) (units "proofs") (some smallCap)
      = .ok (encodeText (printed sampleFormat sampleProofs).text) := by
  rw [boundedProofJsonField, sample_admitted]
  simp only [sample_decodes, bind, Except.bind, sampleTree, if_pos]
  rfl

/-- One of the names is written with an escape, and the field under it is cut out of the text. -/
theorem one_reading_of_sample :
    (∃ text, decodeText (encodeText sampleText) = some text ∧ parse sampleFormat text = some sampleProof)
      ∧ (∀ members, Within (.object members) sampleProof → (members.map (·.1)).Nodup)
      ∧ ∃ members member text, sampleProof = .object members
        ∧ members.lookup (units "proofs") = some member
        ∧ decodeText (encodeText (printed sampleFormat sampleProofs).text) = some text
        ∧ jsonParse sampleNumbers text = .ok member := by
  obtain ⟨hparsed, hnames, -, hfields⟩ := one_reading sampleNumbers sampleTree sampleTree_follows
    (encodeText sampleText) (some smallCap) sampleProof sample_admitted
  exact ⟨hparsed, hnames, hfields (units "proofs") (some smallCap) _ sample_field⟩

end

end FormspecWeb.SourceWorker.ProofJson
