import FormspecWeb.Shared.JsonSpelling
import Mathlib.Data.List.Basic

/-!
# What is printed is read back

A printed value is a spelling, of the value with its numbers as they are read. So reading takes exactly
its text off the front of a text, whatever follows (`readValue_print`), no object's text is the
beginning of another's (`print_unique`), and parsing a printed value gives the value back
(`parse_print`).
-/

namespace FormspecWeb.Shared.JsonText

variable {ν : Type} (format : NumberFormat ν)

theorem hexValue_hexUnit : ∀ n < 16, hexValue? (hexUnit n) = some n := by
  decide

theorem readEscape_hex (u : Nat) (h : u < 65536) :
    readEscape (hexUnit (u / 4096 % 16)) (hexUnit (u / 256 % 16)) (hexUnit (u / 16 % 16))
      (hexUnit (u % 16)) = some u := by
  have hdigits : u / 4096 % 16 * 4096 + u / 256 % 16 * 256 + u / 16 % 16 * 16 + u % 16 = u := by
    omega
  unfold readEscape
  rw [hexValue_hexUnit _ (Nat.mod_lt _ (by decide)), hexValue_hexUnit _ (Nat.mod_lt _ (by decide)),
    hexValue_hexUnit _ (Nat.mod_lt _ (by decide)), hexValue_hexUnit _ (Nat.mod_lt _ (by decide))]
  exact congrArg some hdigits

theorem readString_escapeUnit {u : Nat} {rest : Text} (h : u < 65536) :
    readString (escapeUnit u ++ rest) = prepend (some u) (readString rest) := by
  rw [escapeUnit]
  simp only [List.cons_append, List.nil_append]
  rw [readString, readEscape_hex u h]

theorem readString_printUnit (u : Nat) (rest : Text) :
    readString (printUnit u ++ rest) = prepend (some u) (readString rest) := by
  unfold printUnit
  by_cases hquote : u = 34
  · subst hquote; rfl
  by_cases hbackslash : u = 92
  · subst hbackslash; rfl
  rw [if_neg hquote, if_neg hbackslash]
  by_cases hb : u = 8
  · subst hb; rfl
  by_cases hf : u = 12
  · subst hf; rfl
  rw [if_neg hb, if_neg hf]
  by_cases hn : u = 10
  · subst hn; rfl
  by_cases hr : u = 13
  · subst hr; rfl
  rw [if_neg hn, if_neg hr]
  by_cases ht : u = 9
  · subst ht; rfl
  rw [if_neg ht]
  split
  · rename_i hescaped
    simp only [isHighSurrogate, isLowSurrogate, Bool.or_eq_true, Bool.and_eq_true,
      decide_eq_true_eq] at hescaped
    exact readString_escapeUnit (by omega)
  · rename_i hplain
    simp only [Bool.or_eq_true, decide_eq_true_eq, not_or] at hplain
    exact readString_plain (by omega) hquote hbackslash

theorem readString_print (value rest : Text) :
    readString (printUnits value ++ 34 :: rest) = some (value, rest) := by
  fun_induction printUnits value with
  | case1 => rw [List.nil_append, readString]
  | case2 u =>
    rw [readString_printUnit, readString]
    rfl
  | case3 u v value hpair ih =>
    simp only [isHighSurrogate, isLowSurrogate, Bool.and_eq_true, decide_eq_true_eq] at hpair
    rw [List.cons_append, List.cons_append, readString_plain (by omega) (by omega) (by omega),
      readString_plain (by omega) (by omega) (by omega), ih]
    rfl
  | case4 u v value _ ih =>
    rw [List.append_assoc, readString_printUnit, ih]
    rfl

/-! ## Values -/

mutual

def Json.reread (format : NumberFormat ν) : Json ν → Json ν
  | .number value => .number (format.reread value)
  | .array entries => .array (rereadEntries format entries)
  | .object members => .object (rereadMembers format members)
  | .null => .null
  | .bool value => .bool value
  | .string value => .string value

def rereadEntries (format : NumberFormat ν) : List (Json ν) → List (Json ν)
  | [] => []
  | entry :: entries => entry.reread format :: rereadEntries format entries

def rereadMembers (format : NumberFormat ν) : List (Text × Json ν) → List (Text × Json ν)
  | [] => []
  | (key, value) :: members => (key, value.reread format) :: rereadMembers format members

end

def printedString (value : Text) : StringLexeme :=
  ⟨printUnits value ++ [34], value, readString_print value []⟩

def printedNumber (value : ν) : NumberLexeme format :=
  ⟨format.print value, format.reread value, format.print_ne value, format.print_units value,
    format.read_print value⟩

def printedName (key : Text) : NameLexeme := ⟨noBlank, printedString key, noBlank, noBlank⟩

mutual

def printed : Json ν → Spelling format
  | .null => .null
  | .bool value => .bool value
  | .number value => .number (printedNumber format value)
  | .string value => .string (printedString value)
  | .array entries => .array noBlank (printedEntries entries)
  | .object members => .object noBlank (printedMembers members)

def printedEntries : List (Json ν) → List (Blank × Spelling format × Blank)
  | [] => []
  | entry :: entries => (noBlank, printed entry, noBlank) :: printedEntries entries

def printedMembers : List (Text × Json ν) → List (NameLexeme × Spelling format × Blank)
  | [] => []
  | (key, value) :: members => (printedName key, printed value, noBlank) :: printedMembers members

end

mutual

theorem value_printed (value : Json ν) : (printed format value).value = value.reread format := by
  match value with
  | .null => rfl
  | .bool _ => rfl
  | .number _ => rfl
  | .string _ => rfl
  | .array entries => rw [printed, Spelling.value, entryValues_printed entries, Json.reread]
  | .object members => rw [printed, Spelling.value, memberValues_printed members, Json.reread]

theorem entryValues_printed (entries : List (Json ν)) :
    Spelling.entryValues (printedEntries format entries) = rereadEntries format entries := by
  match entries with
  | [] => rfl
  | entry :: entries =>
    rw [printedEntries, Spelling.entryValues, value_printed entry, entryValues_printed entries,
      rereadEntries]

theorem memberValues_printed (members : List (Text × Json ν)) :
    Spelling.memberValues (printedMembers format members) = rereadMembers format members := by
  match members with
  | [] => rfl
  | (key, value) :: members =>
    rw [printedMembers, Spelling.memberValues, value_printed value, memberValues_printed members,
      rereadMembers]
    rfl

end

theorem text_printedName (key : Text) : (printedName key).text = printString key ++ [58] := rfl

mutual

theorem text_printed (value : Json ν) : (printed format value).text = print format value := by
  match value with
  | .null => rfl
  | .bool true => rfl
  | .bool false => rfl
  | .number _ => rfl
  | .string _ => rfl
  | .array [] => rfl
  | .array (entry :: entries) =>
    rw [printed, printedEntries, Spelling.text, text_printed entry, entriesText_printed entries, print]
    rfl
  | .object [] => rfl
  | .object ((key, value) :: members) =>
    rw [printed, printedMembers, Spelling.text, text_printed value, membersText_printed members,
      text_printedName, print, List.append_assoc]
    rfl

theorem entriesText_printed (entries : List (Json ν)) :
    Spelling.entriesText (printedEntries format entries) = printEntries format entries := by
  match entries with
  | [] => rfl
  | entry :: entries =>
    rw [printedEntries, Spelling.entriesText, text_printed entry, entriesText_printed entries,
      printEntries]
    rfl

theorem membersText_printed (members : List (Text × Json ν)) :
    Spelling.membersText (printedMembers format members) = printMembers format members := by
  match members with
  | [] => rfl
  | (key, value) :: members =>
    rw [printedMembers, Spelling.membersText, text_printed value, membersText_printed members,
      text_printedName, printMembers, List.append_assoc]
    rfl

end

theorem readValue_print (value : Json ν) (rest : Text) (hrest : Ends rest) (fuel : Nat)
    (hfuel : (print format value).length ≤ fuel) :
    readValue format fuel (print format value ++ rest) = some (value.reread format, rest) := by
  have hread := readValue_spelling (printed format value) rest hrest fuel (by rwa [text_printed])
  rwa [text_printed, value_printed] at hread

theorem print_unique {first second : Json ν} {rest rest' : Text} (hrest : Ends rest)
    (hrest' : Ends rest') (h : print format first ++ rest = print format second ++ rest') :
    print format first = print format second ∧ rest = rest' := by
  have hfirst := readValue_print format first rest hrest
    (max (print format first).length (print format second).length) (Nat.le_max_left _ _)
  have hsecond := readValue_print format second rest' hrest'
    (max (print format first).length (print format second).length) (Nat.le_max_right _ _)
  rw [h, hsecond, Option.some.injEq, Prod.mk.injEq] at hfirst
  obtain rfl := hfirst.2
  exact ⟨List.append_cancel_right h, rfl⟩

theorem parse_print (value : Json ν) :
    parse format (print format value) = some (value.reread format) := by
  have hparse := parse_spelling noBlank noBlank (printed format value)
  rw [text_printed, value_printed] at hparse
  rwa [noBlank, List.nil_append, List.append_nil] at hparse

end FormspecWeb.Shared.JsonText
