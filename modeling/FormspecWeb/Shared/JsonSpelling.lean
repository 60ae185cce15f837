import FormspecWeb.Shared.JsonText

/-!
# Spellings of JSON

A spelling is a value as a text writes it: with the white space between its tokens, the escapes of its
strings and the digits of its numbers. Reading the text of a spelling gives its value, whatever
follows.
-/

namespace FormspecWeb.Shared.JsonText

variable {ν : Type}

structure Blank where
  text : Text
  blank : text.all isSpace = true

def noBlank : Blank := ⟨[], rfl⟩

structure StringLexeme where
  body : Text
  value : Text
  reads : readString body = some (value, [])

structure NumberLexeme (format : NumberFormat ν) where
  text : Text
  value : ν
  ne : text ≠ []
  units : text.all isNumberUnit = true
  reads : format.read text = some value

/-- The name of a member, with the white space around it and its colon. -/
structure NameLexeme where
  before : Blank
  name : StringLexeme
  colon : Blank
  behind : Blank

inductive Spelling (format : NumberFormat ν) where
  | null
  | bool (value : Bool)
  | number (lexeme : NumberLexeme format)
  | string (lexeme : StringLexeme)
  | array (inner : Blank) (entries : List (Blank × Spelling format × Blank))
  | object (inner : Blank) (members : List (NameLexeme × Spelling format × Blank))

variable {format : NumberFormat ν}

def StringLexeme.text (lexeme : StringLexeme) : Text := 34 :: lexeme.body

def NameLexeme.text (name : NameLexeme) : Text :=
  name.before.text ++ (name.name.text ++ (name.colon.text ++ 58 :: name.behind.text))

namespace Spelling

mutual

def text : Spelling format → Text
  | .null => units "null"
  | .bool true => units "true"
  | .bool false => units "false"
  | .number lexeme => lexeme.text
  | .string lexeme => lexeme.text
  | .array inner [] => 91 :: (inner.text ++ [93])
  | .array _ ((before, entry, behind) :: entries) =>
    91 :: (before.text ++ (entry.text ++ (behind.text ++ entriesText entries)))
  | .object inner [] => 123 :: (inner.text ++ [125])
  | .object _ ((name, value, behind) :: members) =>
    123 :: (name.text ++ (value.text ++ (behind.text ++ membersText members)))

def entriesText : List (Blank × Spelling format × Blank) → Text
  | [] => [93]
  | (before, entry, behind) :: entries =>
    44 :: (before.text ++ (entry.text ++ (behind.text ++ entriesText entries)))

def membersText : List (NameLexeme × Spelling format × Blank) → Text
  | [] => [125]
  | (name, value, behind) :: members =>
    44 :: (name.text ++ (value.text ++ (behind.text ++ membersText members)))

end

mutual

def value : Spelling format → Json ν
  | .null => .null
  | .bool value => .bool value
  | .number lexeme => .number lexeme.value
  | .string lexeme => .string lexeme.value
  | .array _ entries => .array (entryValues entries)
  | .object _ members => .object (memberValues members)

def entryValues : List (Blank × Spelling format × Blank) → List (Json ν)
  | [] => []
  | (_, entry, _) :: entries => entry.value :: entryValues entries

def memberValues : List (NameLexeme × Spelling format × Blank) → List (Text × Json ν)
  | [] => []
  | (name, value, _) :: members => (name.name.value, value.value) :: memberValues members

end

end Spelling

/-! ## Reading -/

theorem skip_blank (blank : Blank) (rest : Text) : skip (blank.text ++ rest) = skip rest := by
  rw [skip, skip, List.dropWhile_append_of_pos]
  exact List.all_eq_true.mp blank.blank

theorem readString_plain {u : Nat} {rest : Text} (hcontrol : 32 ≤ u) (hquote : u ≠ 34)
    (hescape : u ≠ 92) : readString (u :: rest) = prepend (some u) (readString rest) := by
  rw [readString.eq_def]
  split
  · contradiction
  · rename_i heq
    exact absurd (List.cons.inj heq).1 hquote
  · rename_i heq
    exact absurd (List.cons.inj heq).1 hescape
  · rename_i heq
    exact absurd (List.cons.inj heq).1 hescape
  · rename_i heq
    cases heq
    rw [if_neg (by simp [hescape]; omega)]

theorem prepend_some {u : Option Nat} {read : Option (Text × Text)} {value rest : Text}
    (h : prepend u read = some (value, rest)) :
    ∃ unit tail, u = some unit ∧ read = some (tail, rest) ∧ value = unit :: tail := by
  obtain ⟨unit, hunit, h⟩ := Option.bind_eq_some_iff.mp h
  obtain ⟨⟨tail, found⟩, hread, h⟩ := Option.bind_eq_some_iff.mp h
  cases h
  exact ⟨unit, tail, hunit, hread, rfl⟩

/-- A letter behind `\` that does not begin the code of a unit. -/
theorem readString_letter {u : Nat} {rest : Text}
    (h : ∀ a b c d tail, u = 117 → rest = a :: b :: c :: d :: tail → False) :
    readString (92 :: u :: rest) = prepend (escaped? u) (readString rest) := by
  rw [readString.eq_def]
  split
  · contradiction
  · next heq => exact absurd (List.cons.inj heq).1 (by decide)
  · next heq =>
    obtain ⟨hu, hrest⟩ := List.cons.inj (List.cons.inj heq).2
    exact (h _ _ _ _ _ hu hrest).elim
  · next heq =>
    obtain ⟨rfl, rfl⟩ := List.cons.inj (List.cons.inj heq).2
    rfl
  · next hother heq =>
    cases heq
    exact absurd rfl (hother _ _ rfl)

theorem readString_append {body value rest : Text} (h : readString body = some (value, rest)) (more : Text) :
    readString (body ++ more) = some (value, rest ++ more) := by
  induction body using readString.induct generalizing value with
  | case1 => cases h
  | case2 tail =>
    rw [readString, Option.some.injEq, Prod.mk.injEq] at h
    obtain ⟨rfl, rfl⟩ := h
    rfl
  | case3 a b c d tail ih =>
    rw [readString] at h
    obtain ⟨unit, found, hunit, hread, rfl⟩ := prepend_some h
    simp only [List.cons_append, readString, ih hread, hunit]
    rfl
  | case4 u tail hcode ih =>
    rw [readString_letter hcode] at h
    obtain ⟨unit, found, hunit, hread, rfl⟩ := prepend_some h
    have hu : u ≠ 117 := by
      rintro rfl
      cases hunit
    have hletter := @readString_letter u (tail ++ more) fun _ _ _ _ _ heq => absurd heq hu
    rw [List.cons_append, List.cons_append, hletter, ih hread, hunit]
    rfl
  | case5 u tail hquote hcode hescape hbad =>
    rw [readString.eq_def] at h
    split at h
    · cases h
    · next heq => exact (hquote (List.cons.inj heq).1).elim
    · next heq => exact (hcode _ _ _ _ _ (List.cons.inj heq).1 (List.cons.inj heq).2).elim
    · next heq => exact (hescape _ _ (List.cons.inj heq).1 (List.cons.inj heq).2).elim
    · next heq =>
      cases heq
      rw [if_pos hbad] at h
      cases h
  | case6 u tail hquote hcode hescape hgood ih =>
    simp only [Bool.or_eq_true, decide_eq_true_eq, not_or, Nat.not_lt] at hgood
    rw [readString_plain hgood.1 hquote hgood.2] at h
    obtain ⟨unit, found, hunit, hread, rfl⟩ := prepend_some h
    rw [List.cons_append, readString_plain hgood.1 hquote hgood.2, ih hread, hunit]
    rfl

def Ends (rest : Text) : Prop := ∀ u ∈ rest.head?, isNumberUnit u = false

theorem skip_cons {u : Nat} {rest : Text} (h : isSpace u = false) : skip (u :: rest) = u :: rest := by
  rw [skip, List.dropWhile_cons_of_neg (by simp [h])]

theorem takeWhile_number {text rest : Text} (htext : text.all isNumberUnit) (hrest : Ends rest) :
    (text ++ rest).takeWhile isNumberUnit = text
      ∧ (text ++ rest).dropWhile isNumberUnit = rest := by
  have hall : ∀ u ∈ text, isNumberUnit u := List.all_eq_true.mp htext
  rw [List.takeWhile_append_of_pos hall, List.dropWhile_append_of_pos hall]
  cases rest with
  | nil => exact ⟨List.append_nil _, rfl⟩
  | cons u rest =>
    have hu : ¬ isNumberUnit u = true := by simp [hrest u rfl]
    rw [List.takeWhile_cons_of_neg hu, List.dropWhile_cons_of_neg hu, List.append_nil]
    exact ⟨rfl, rfl⟩

theorem isNumberUnit_of_isSpace {u : Nat} (h : isSpace u = true) : isNumberUnit u = false := by
  simp only [isSpace, Bool.or_eq_true, beq_iff_eq] at h
  rcases h with ((rfl | rfl) | rfl) | rfl <;> rfl

theorem readValue_blank (blank : Blank) (rest : Text) (fuel : Nat) :
    readValue format fuel (blank.text ++ rest) = readValue format fuel rest := by
  cases fuel with
  | zero => rfl
  | succ fuel =>
    rw [readValue, readValue]
    simp only [skip_blank]

theorem readEntries_blank (blank : Blank) (rest : Text) (fuel : Nat) :
    readEntries format fuel (blank.text ++ rest) = readEntries format fuel rest := by
  cases fuel with
  | zero => rfl
  | succ fuel =>
    rw [readEntries, readEntries]
    simp only [skip_blank]

theorem readMembers_blank (blank : Blank) (rest : Text) (fuel : Nat) :
    readMembers format fuel (blank.text ++ rest) = readMembers format fuel rest := by
  cases fuel with
  | zero => rfl
  | succ fuel =>
    rw [readMembers, readMembers]
    simp only [skip_blank]

namespace Spelling

theorem text_head (spelling : Spelling format) :
    ∃ u lead, spelling.text = u :: lead ∧ isSpace u = false ∧ u ≠ 93 ∧ u < 128 := by
  match spelling with
  | .null => exact ⟨110, _, rfl, by decide, by decide, by decide⟩
  | .bool true => exact ⟨116, _, rfl, by decide, by decide, by decide⟩
  | .bool false => exact ⟨102, _, rfl, by decide, by decide, by decide⟩
  | .number lexeme =>
    obtain ⟨u, lead, heq⟩ := List.exists_cons_of_ne_nil lexeme.ne
    have hunit : isNumberUnit u = true := List.all_eq_true.mp lexeme.units u (heq ▸ List.mem_cons_self)
    refine ⟨u, lead, by rw [text, heq], ?_, ?_, ?_⟩
    · cases hu : isSpace u with
      | false => rfl
      | true =>
        rw [isNumberUnit_of_isSpace hu] at hunit
        cases hunit
    · rintro rfl
      cases hunit
    · simp only [isNumberUnit, Bool.or_eq_true, Bool.and_eq_true, decide_eq_true_eq, beq_iff_eq] at hunit
      omega
  | .string lexeme => exact ⟨34, _, rfl, by decide, by decide, by decide⟩
  | .array _ [] => exact ⟨91, _, rfl, by decide, by decide, by decide⟩
  | .array _ ((_, _, _) :: _) => exact ⟨91, _, rfl, by decide, by decide, by decide⟩
  | .object _ [] => exact ⟨123, _, rfl, by decide, by decide, by decide⟩
  | .object _ ((_, _, _) :: _) => exact ⟨123, _, rfl, by decide, by decide, by decide⟩

theorem skip_text (spelling : Spelling format) (rest : Text) :
    skip (spelling.text ++ rest) = spelling.text ++ rest := by
  obtain ⟨u, lead, htext, hspace, -⟩ := spelling.text_head
  rw [htext, List.cons_append]
  exact skip_cons hspace

end Spelling

theorem readAtom_lexeme (lexeme : NumberLexeme format) {rest : Text} (hrest : Ends rest) :
    readAtom format (lexeme.text ++ rest) = some (.number lexeme.value, rest) := by
  obtain ⟨u, text, htext⟩ := List.exists_cons_of_ne_nil lexeme.ne
  obtain ⟨htake, hdrop⟩ := takeWhile_number lexeme.units hrest
  have hu : isNumberUnit u = true := List.all_eq_true.mp lexeme.units u (htext ▸ List.mem_cons_self)
  -- no literal begins with a unit numbers are written with
  have hliteral : ∀ v lead, isNumberUnit v = false →
      (v :: lead).isPrefixOf (lexeme.text ++ rest) = false := by
    intro v lead hv
    have hne : (v == u) = false := by
      rw [beq_eq_false_iff_ne]
      rintro rfl
      rw [hu] at hv
      cases hv
    rw [htext, List.cons_append, List.isPrefixOf_cons_cons, hne, Bool.false_and]
  have hnull : (units "null").isPrefixOf (lexeme.text ++ rest) = false := hliteral 110 _ (by decide)
  have htrue : (units "true").isPrefixOf (lexeme.text ++ rest) = false := hliteral 116 _ (by decide)
  have hfalse : (units "false").isPrefixOf (lexeme.text ++ rest) = false := hliteral 102 _ (by decide)
  rw [readAtom, hnull, htrue, hfalse, htake, hdrop, lexeme.reads]
  rfl

theorem readValue_lexeme (lexeme : NumberLexeme format) {rest : Text} (hrest : Ends rest) (fuel : Nat) :
    readValue format (fuel + 1) (lexeme.text ++ rest) = some (.number lexeme.value, rest) := by
  obtain ⟨u, text, htext⟩ := List.exists_cons_of_ne_nil lexeme.ne
  have hskip := (Spelling.number lexeme).skip_text rest
  have hatom := readAtom_lexeme lexeme hrest
  have hu : isNumberUnit u = true := List.all_eq_true.mp lexeme.units u (htext ▸ List.mem_cons_self)
  rw [Spelling.text] at hskip
  rw [readValue, hskip]
  rw [htext, List.cons_append] at hatom ⊢
  split
  · next heq =>
    rw [(List.cons.inj heq).1] at hu
    cases hu
  · next heq =>
    rw [(List.cons.inj heq).1] at hu
    cases hu
  · next heq =>
    rw [(List.cons.inj heq).1] at hu
    cases hu
  · exact hatom

theorem readValue_entries (before : Blank) (entry : Spelling format) (text : Text) (fuel : Nat) :
    readValue format (fuel + 1) (91 :: (before.text ++ (entry.text ++ text))) = (do
      let (first, rest) ← readValue format fuel (entry.text ++ text)
      let (entries, rest) ← readEntries format fuel rest
      return (.array (first :: entries), rest)) := by
  obtain ⟨u, lead, hlead, -, hne, -⟩ := entry.text_head
  have hskip := entry.skip_text text
  rw [readValue, skip_cons (by decide)]
  simp only [skip_blank, hskip, readValue_blank]
  rw [hlead, List.cons_append]
  split
  · next heq => exact absurd (List.cons.inj heq).1 hne
  · rfl

theorem readValue_members (name : NameLexeme) (text : Text) (fuel : Nat) :
    readValue format (fuel + 1) (123 :: (name.text ++ text)) = (do
      let (first, rest) ← readMember format fuel (name.text ++ text)
      let (members, rest) ← readMembers format fuel rest
      return (.object (first :: members), rest)) := by
  have hopen : ∃ rest, skip (name.text ++ text) = 34 :: rest := by
    rw [NameLexeme.text, List.append_assoc, skip_blank]
    exact ⟨_, skip_cons (by decide)⟩
  obtain ⟨rest, hrest⟩ := hopen
  rw [readValue, skip_cons (by decide)]
  simp only [hrest]

theorem readMember_name (name : NameLexeme) {value : Json ν} {text rest : Text} {fuel : Nat}
    (hvalue : readValue format fuel text = some (value, rest)) :
    readMember format (fuel + 1) (name.text ++ text) = some ((name.name.value, value), rest) := by
  have hname : readString (name.name.body ++ (name.colon.text ++ (58 :: name.behind.text ++ text)))
      = some (name.name.value, name.colon.text ++ (58 :: name.behind.text ++ text)) := by
    have happend := readString_append name.name.reads (name.colon.text ++ (58 :: name.behind.text ++ text))
    rwa [List.nil_append] at happend
  have hcolon : skip (name.colon.text ++ (58 :: name.behind.text ++ text)) = 58 :: (name.behind.text ++ text) := by
    rw [skip_blank]
    exact skip_cons (by decide)
  rw [readMember, NameLexeme.text, List.append_assoc, skip_blank, StringLexeme.text, List.cons_append,
    List.cons_append, skip_cons (by decide), List.append_assoc, List.append_assoc]
  simp only [hname, hcolon, readValue_blank, hvalue, Option.bind_eq_bind, Option.bind_some, Option.pure_def]

theorem ends_blank (blank : Blank) {rest : Text} (hrest : Ends rest) : Ends (blank.text ++ rest) := by
  intro v hv
  cases htext : blank.text with
  | nil =>
    rw [htext] at hv
    exact hrest v hv
  | cons first lead =>
    rw [htext] at hv
    obtain rfl := Option.some.inj hv
    have hspace : isSpace first = true := List.all_eq_true.mp blank.blank first (htext ▸ List.mem_cons_self)
    exact isNumberUnit_of_isSpace hspace

theorem ends_cons {u : Nat} {rest : Text} (hu : isNumberUnit u = false) : Ends (u :: rest) := by
  intro v hv
  cases hv
  exact hu

theorem ends_nil : Ends [] := by
  intro u hu
  cases hu

namespace Spelling

theorem ends_entriesText (blank : Blank) (entries : List (Blank × Spelling format × Blank)) (rest : Text) :
    Ends (blank.text ++ (entriesText entries ++ rest)) := by
  apply ends_blank
  match entries with
  | [] => exact ends_cons (by decide)
  | (_, _, _) :: _ => exact ends_cons (by decide)

theorem ends_membersText (blank : Blank) (members : List (NameLexeme × Spelling format × Blank)) (rest : Text) :
    Ends (blank.text ++ (membersText members ++ rest)) := by
  apply ends_blank
  match members with
  | [] => exact ends_cons (by decide)
  | (_, _, _) :: _ => exact ends_cons (by decide)

end Spelling

mutual

theorem readValue_spelling (spelling : Spelling format) (rest : Text) (hrest : Ends rest) (fuel : Nat)
    (hfuel : spelling.text.length ≤ fuel) :
    readValue format fuel (spelling.text ++ rest) = some (spelling.value, rest) := by
  obtain ⟨u, lead, hlead, -, -⟩ := spelling.text_head
  obtain ⟨fuel, rfl⟩ : ∃ n, fuel = n + 1 := by
    refine ⟨fuel - 1, ?_⟩
    rw [hlead, List.length_cons] at hfuel
    omega
  match spelling with
  | .null => rfl
  | .bool true => rfl
  | .bool false => rfl
  | .number lexeme => exact readValue_lexeme lexeme hrest fuel
  | .string lexeme =>
    have hread := readString_append lexeme.reads rest
    rw [List.nil_append] at hread
    rw [Spelling.text, StringLexeme.text, readValue, List.cons_append, skip_cons (by decide)]
    simp only [hread, Option.map_some, Spelling.value]
  | .array inner [] =>
    have hclose : skip (inner.text ++ 93 :: rest) = 93 :: rest := by
      rw [skip_blank]
      exact skip_cons (by decide)
    rw [Spelling.text, List.cons_append, List.append_assoc, List.singleton_append, readValue,
      skip_cons (by decide)]
    simp only [hclose, Spelling.value, Spelling.entryValues]
  | .array _ ((before, entry, behind) :: entries) =>
    simp only [Spelling.text, List.length_cons, List.length_append] at hfuel
    have hentry := readValue_spelling entry (behind.text ++ (Spelling.entriesText entries ++ rest))
      (Spelling.ends_entriesText behind entries rest) fuel (by omega)
    have hentries := readEntries_spelling entries rest fuel (by omega)
    rw [Spelling.text, List.cons_append, List.append_assoc, List.append_assoc, List.append_assoc,
      readValue_entries]
    simp only [hentry, readEntries_blank, hentries, Option.bind_eq_bind, Option.bind_some, Option.pure_def,
      Spelling.value, Spelling.entryValues]
  | .object inner [] =>
    have hclose : skip (inner.text ++ 125 :: rest) = 125 :: rest := by
      rw [skip_blank]
      exact skip_cons (by decide)
    rw [Spelling.text, List.cons_append, List.append_assoc, List.singleton_append, readValue,
      skip_cons (by decide)]
    simp only [hclose, Spelling.value, Spelling.memberValues]
  | .object _ ((name, value, behind) :: members) =>
    simp only [Spelling.text, NameLexeme.text, List.length_cons, List.length_append] at hfuel
    obtain ⟨fuel, rfl⟩ : ∃ n, fuel = n + 1 := ⟨fuel - 1, by omega⟩
    have hvalue := readValue_spelling value (behind.text ++ (Spelling.membersText members ++ rest))
      (Spelling.ends_membersText behind members rest) fuel (by omega)
    have hmember := readMember_name name hvalue
    have hmembers := readMembers_spelling members rest (fuel + 1) (by omega)
    rw [Spelling.text, List.cons_append, List.append_assoc, List.append_assoc, List.append_assoc,
      readValue_members]
    simp only [hmember, readMembers_blank, hmembers, Option.bind_eq_bind, Option.bind_some,
      Option.pure_def, Spelling.value, Spelling.memberValues]

theorem readEntries_spelling (entries : List (Blank × Spelling format × Blank)) (rest : Text) (fuel : Nat)
    (hfuel : (Spelling.entriesText entries).length ≤ fuel) :
    readEntries format fuel (Spelling.entriesText entries ++ rest)
      = some (Spelling.entryValues entries, rest) := by
  match entries, fuel with
  | [], 0 => cases hfuel
  | (_, _, _) :: _, 0 => cases hfuel
  | [], fuel + 1 => rfl
  | (before, entry, behind) :: entries, fuel + 1 =>
    simp only [Spelling.entriesText, List.length_cons, List.length_append] at hfuel
    have hentry := readValue_spelling entry (behind.text ++ (Spelling.entriesText entries ++ rest))
      (Spelling.ends_entriesText behind entries rest) fuel (by omega)
    have hentries := readEntries_spelling entries rest fuel (by omega)
    rw [Spelling.entriesText, List.cons_append, List.append_assoc, List.append_assoc, List.append_assoc,
      readEntries, skip_cons (by decide)]
    simp only [readValue_blank, hentry, readEntries_blank, hentries, Option.bind_eq_bind,
      Option.bind_some, Option.pure_def, Spelling.entryValues]

theorem readMembers_spelling (members : List (NameLexeme × Spelling format × Blank)) (rest : Text)
    (fuel : Nat) (hfuel : (Spelling.membersText members).length ≤ fuel) :
    readMembers format fuel (Spelling.membersText members ++ rest)
      = some (Spelling.memberValues members, rest) := by
  match members, fuel with
  | [], 0 => cases hfuel
  | (_, _, _) :: _, 0 => cases hfuel
  | [], fuel + 1 => rfl
  | (name, value, behind) :: members, fuel + 1 =>
    simp only [Spelling.membersText, NameLexeme.text, List.length_cons, List.length_append] at hfuel
    obtain ⟨fuel, rfl⟩ : ∃ n, fuel = n + 1 := ⟨fuel - 1, by omega⟩
    have hvalue := readValue_spelling value (behind.text ++ (Spelling.membersText members ++ rest))
      (Spelling.ends_membersText behind members rest) fuel (by omega)
    have hmember := readMember_name name hvalue
    have hmembers := readMembers_spelling members rest (fuel + 1) (by omega)
    rw [Spelling.membersText, List.cons_append, List.append_assoc, List.append_assoc, List.append_assoc,
      readMembers, skip_cons (by decide)]
    simp only [hmember, readMembers_blank, hmembers, Option.bind_eq_bind, Option.bind_some,
      Option.pure_def, Spelling.memberValues]

end

theorem parse_spelling (before behind : Blank) (spelling : Spelling format) :
    parse format (before.text ++ (spelling.text ++ behind.text)) = some spelling.value := by
  have hends : Ends behind.text := by
    have h := ends_blank behind ends_nil
    rwa [List.append_nil] at h
  have hread := readValue_spelling spelling behind.text hends
    (before.text ++ (spelling.text ++ behind.text)).length (by
      rw [List.length_append, List.length_append]
      omega)
  have hskip : skip behind.text = [] := by
    have h := skip_blank behind []
    rwa [List.append_nil] at h
  rw [parse, readValue_blank, hread]
  simp only [hskip]
  rfl

end FormspecWeb.Shared.JsonText
