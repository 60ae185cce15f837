import FormspecWeb.Ledger.ResponseActionLedger
import FormspecWeb.Shared.Decimals
import FormspecWeb.Shared.Utf16

/-!
# The material of a ledger key

The parts of an idempotency key are joined behind their lengths. A length counts the code units of its
part, which are also the units the joined text is made of, so the join can be read back part by part.
-/

namespace FormspecWeb.Ledger

open Shared JsonText

/-- `${part.length}:${part}`, of any text of code units. -/
def prefixedText (part : Text) : Text := decimal part.length ++ 58 :: part

/-- `parts.map((part) => `${part.length}:${part}`).join('|')` -/
def joinedText (parts : List Text) : Text := List.intercalate [124] (parts.map prefixedText)

theorem takeWhile_decimal (n : Nat) (rest : Text) :
    (decimal n ++ 58 :: rest).takeWhile isDigitUnit = decimal n := by
  rw [List.takeWhile_append_of_pos (decimal_digits n), List.takeWhile_cons_of_neg (by decide),
    List.append_nil]

theorem prefixedText_append_inj {part other rest more : Text}
    (h : prefixedText part ++ rest = prefixedText other ++ more) : part = other ∧ rest = more := by
  simp only [prefixedText, List.append_assoc, List.cons_append] at h
  have hdigits : decimal part.length = decimal other.length := by
    rw [← takeWhile_decimal part.length (part ++ rest), h, takeWhile_decimal]
  have hlength : part.length = other.length := by
    rw [← digitsValue_decimal part.length, hdigits, digitsValue_decimal]
  rw [hdigits] at h
  have htail : part ++ rest = other ++ more := (List.cons.inj (List.append_cancel_left h)).2
  exact List.append_inj htail hlength

theorem joinedText_cons_cons (part next : Text) (parts : List Text) :
    joinedText (part :: next :: parts) = prefixedText part ++ (124 :: joinedText (next :: parts)) := by
  simp [joinedText, List.intercalate]

theorem joinedText_inj {parts others : List Text} (hlength : parts.length = others.length)
    (h : joinedText parts = joinedText others) : parts = others := by
  induction parts generalizing others with
  | nil => exact (List.length_eq_zero_iff.mp hlength.symm).symm
  | cons part parts ih =>
    obtain ⟨other, others, rfl⟩ := List.exists_cons_of_length_eq_add_one hlength.symm
    have hrest : parts.length = others.length := Nat.succ.inj hlength
    cases parts with
    | nil =>
      obtain rfl := List.length_eq_zero_iff.mp hrest.symm
      have hsingle : ∀ part, joinedText [part] = prefixedText part ++ [] := by
        simp [joinedText, List.intercalate]
      rw [hsingle, hsingle] at h
      rw [(prefixedText_append_inj h).1]
    | cons next parts =>
      obtain ⟨following, others, rfl⟩ := List.exists_cons_of_length_eq_add_one hrest.symm
      rw [joinedText_cons_cons, joinedText_cons_cons] at h
      obtain ⟨rfl, htail⟩ := prefixedText_append_inj h
      rw [ih hrest (List.cons.inj htail).2]

/-- The material of `studioLedgerIdempotencyKey`, of any three texts: they may hold halves of pairs. -/
def materialText (ledgerScope branchId opBatchHash : Text) : Text :=
  joinedText [ledgerScope, branchId, opBatchHash]

theorem codeUnits_eq (text : String) : codeUnits text = charsText text.toList := rfl

theorem codeUnits_append (first second : String) :
    codeUnits (first ++ second) = codeUnits first ++ codeUnits second := by
  rw [codeUnits_eq, String.toList_append, charsText, List.flatMap_append]
  rfl

theorem codeUnits_injective : Function.Injective codeUnits := by
  intro first second h
  have hchars := congrArg textChars h
  rw [codeUnits_eq, codeUnits_eq, textChars_charsText, textChars_charsText] at hchars
  exact String.toList_inj.mp hchars

theorem codeUnits_toString (n : Nat) : codeUnits (toString n) = decimal n := by
  rw [Nat.toString_eq_ofList_toDigits, codeUnits_eq, String.toList_ofList, decimal, charsText,
    List.map_eq_flatMap]
  refine List.flatMap_congr fun c hc => ?_
  have hdigit := Nat.isDigit_of_mem_toDigits (by omega) (by omega) hc
  rw [Char.isDigit, Bool.and_eq_true, decide_eq_true_eq, decide_eq_true_eq] at hdigit
  have hsmall : c.toNat ≤ 57 := hdigit.2
  rw [charUnits, if_pos (by omega)]

theorem codeUnits_lengthPrefixed (part : String) :
    codeUnits (lengthPrefixed part) = prefixedText (codeUnits part) := by
  rw [lengthPrefixed, codeUnits_append, codeUnits_append, codeUnits_toString, prefixedText,
    List.append_assoc]
  rfl

theorem codeUnits_idempotencyMaterial (ledgerScope branchId opBatchHash : String) :
    codeUnits (idempotencyMaterial ledgerScope branchId opBatchHash)
      = materialText (codeUnits ledgerScope) (codeUnits branchId) (codeUnits opBatchHash) := by
  have hjoin : idempotencyMaterial ledgerScope branchId opBatchHash
      = lengthPrefixed ledgerScope ++ "|" ++ lengthPrefixed branchId ++ "|" ++ lengthPrefixed opBatchHash :=
    rfl
  have hbar : codeUnits "|" = [124] := by decide
  simp only [hjoin, codeUnits_append, codeUnits_lengthPrefixed, hbar, materialText, joinedText_cons_cons,
    List.append_assoc, List.cons_append, List.nil_append]
  simp [joinedText, List.intercalate]

/-- Different triples have different materials, of any texts and of the strings among them. -/
theorem idempotencyMaterial_injective :
    (Function.Injective fun parts : Text × Text × Text => materialText parts.1 parts.2.1 parts.2.2)
      ∧ Function.Injective fun parts : String × String × String =>
          idempotencyMaterial parts.1 parts.2.1 parts.2.2 := by
  have htexts : Function.Injective fun parts : Text × Text × Text =>
      materialText parts.1 parts.2.1 parts.2.2 := by
    rintro ⟨ledgerScope, branchId, opBatchHash⟩ ⟨scope, branch, hash⟩ h
    have hparts := joinedText_inj (by rfl) h
    simp only [List.cons.injEq, and_true] at hparts
    obtain ⟨rfl, rfl, rfl⟩ := hparts
    rfl
  refine ⟨htexts, ?_⟩
  rintro ⟨ledgerScope, branchId, opBatchHash⟩ ⟨scope, branch, hash⟩ h
  have hunits := congrArg codeUnits h
  simp only [codeUnits_idempotencyMaterial] at hunits
  have hparts := @htexts (_, _, _) (_, _, _) hunits
  simp only [Prod.mk.injEq] at hparts
  obtain ⟨hscope, hbranch, hhash⟩ := hparts
  rw [codeUnits_injective hscope, codeUnits_injective hbranch, codeUnits_injective hhash]

-- The lengths tell where a part ends that holds a separator.
example : idempotencyMaterial "a|1:b" "" "c" ≠ idempotencyMaterial "a" "b" "c" := by decide

end FormspecWeb.Ledger
