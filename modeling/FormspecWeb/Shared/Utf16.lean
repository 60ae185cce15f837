import FormspecWeb.Shared.JsonText

/-!
# Texts, characters and bytes

A text of UTF-16 code units is the characters it holds. What is decoded from bytes has no half of a pair
in it, and neither has a part of it that is not cut inside a pair.
-/

namespace FormspecWeb.Shared

open JsonText

def charUnits (c : Char) : Text :=
  if c.toNat < 0x10000 then [c.toNat]
  else [0xD800 + (c.toNat - 0x10000) / 1024, 0xDC00 + (c.toNat - 0x10000) % 1024]

def charsText (chars : List Char) : Text := chars.flatMap charUnits

/-- A unit that is not half of a pair; a half without the other is replaced. -/
def unitChar (u : Nat) : Char :=
  if isHighSurrogate u || isLowSurrogate u then Char.ofNat 0xFFFD else Char.ofNat u

def textChars : Text → List Char
  | [] => []
  | [u] => [unitChar u]
  | u :: v :: rest =>
    if isHighSurrogate u && isLowSurrogate v then
      Char.ofNat (0x10000 + (u - 0xD800) * 1024 + (v - 0xDC00)) :: textChars rest
    else unitChar u :: textChars (v :: rest)

/-- `new TextDecoder('utf-8', { fatal: true, ignoreBOM: true }).decode(bytes)` -/
def decodeText (bytes : List UInt8) : Option Text :=
  bytes.toByteArray.utf8Decode?.map fun chars => charsText chars.toList

/-- `new TextEncoder().encode(text)` -/
def encodeText (text : Text) : List UInt8 := (textChars text).flatMap String.utf8EncodeChar

/-! ## Texts of characters -/

theorem charsText_cons (c : Char) (chars : List Char) : charsText (c :: chars) = charUnits c ++ charsText chars :=
  List.flatMap_cons

theorem not_surrogate (c : Char) : isHighSurrogate c.toNat = false ∧ isLowSurrogate c.toNat = false := by
  have hvalid := c.valid
  have hval : c.toNat = c.val.toNat := rfl
  rw [UInt32.isValidChar, Nat.isValidChar] at hvalid
  simp only [isHighSurrogate, isLowSurrogate, Bool.and_eq_false_iff, decide_eq_false_iff_not]
  omega

theorem lt_of_char (c : Char) : c.toNat < 0x110000 := by
  have hvalid := c.valid
  have hval : c.toNat = c.val.toNat := rfl
  rw [UInt32.isValidChar, Nat.isValidChar] at hvalid
  omega

theorem textChars_cons {u : Nat} (h : isHighSurrogate u = false) (text : Text) :
    textChars (u :: text) = unitChar u :: textChars text := by
  cases text with
  | nil => rfl
  | cons v rest => rw [textChars, h, Bool.false_and, if_neg Bool.false_ne_true]

theorem textChars_charUnits (c : Char) (text : Text) : textChars (charUnits c ++ text) = c :: textChars text := by
  have hlt := lt_of_char c
  unfold charUnits
  by_cases hsingle : c.toNat < 0x10000
  · obtain ⟨hhigh, hlow⟩ := not_surrogate c
    rw [if_pos hsingle, List.singleton_append, textChars_cons hhigh, unitChar, hhigh, hlow, Bool.or_false,
      if_neg Bool.false_ne_true, Char.ofNat_toNat]
  · have hhigh : isHighSurrogate (0xD800 + (c.toNat - 0x10000) / 1024) = true := by
      simp only [isHighSurrogate, Bool.and_eq_true, decide_eq_true_eq]
      omega
    have hlow : isLowSurrogate (0xDC00 + (c.toNat - 0x10000) % 1024) = true := by
      simp only [isLowSurrogate, Bool.and_eq_true, decide_eq_true_eq]
      omega
    have hvalue : 0x10000 + (0xD800 + (c.toNat - 0x10000) / 1024 - 0xD800) * 1024
        + (0xDC00 + (c.toNat - 0x10000) % 1024 - 0xDC00) = c.toNat := by
      omega
    rw [if_neg hsingle, List.cons_append, List.singleton_append, textChars, hhigh, hlow, Bool.and_true,
      if_pos rfl, hvalue, Char.ofNat_toNat]

theorem textChars_charsText (chars : List Char) : textChars (charsText chars) = chars := by
  induction chars with
  | nil => rfl
  | cons c chars ih => rw [charsText_cons, textChars_charUnits, ih]

theorem decodeText_encodeText (chars : List Char) :
    decodeText (encodeText (charsText chars)) = some (charsText chars) := by
  have hbytes : (encodeText (charsText chars)).toByteArray = chars.utf8Encode := by
    rw [encodeText, textChars_charsText, List.utf8Encode]
  rw [decodeText, hbytes, List.utf8Decode?_utf8Encode, Option.map_some]

theorem charsText_of_decodeText {bytes : List UInt8} {text : Text} (h : decodeText bytes = some text) :
    ∃ chars, text = charsText chars := by
  obtain ⟨chars, -, rfl⟩ := Option.map_eq_some_iff.mp h
  exact ⟨chars.toList, rfl⟩

theorem charsText_append {chars : List Char} {first second : Text} (h : charsText chars = first ++ second)
    (hcut : ∀ u ∈ second.head?, isLowSurrogate u = false) :
    ∃ front back, chars = front ++ back ∧ first = charsText front ∧ second = charsText back := by
  induction chars generalizing first with
  | nil =>
    obtain ⟨rfl, rfl⟩ := List.append_eq_nil_iff.mp h.symm
    exact ⟨[], [], rfl, rfl, rfl⟩
  | cons c chars ih =>
    cases first with
    | nil => exact ⟨[], c :: chars, rfl, rfl, h.symm⟩
    | cons u first =>
      rw [charsText_cons, charUnits] at h
      by_cases hsingle : c.toNat < 0x10000
      · rw [if_pos hsingle] at h
        obtain ⟨rfl, hrest⟩ := List.cons.inj h
        obtain ⟨front, back, rfl, rfl, hsecond⟩ := ih hrest
        refine ⟨c :: front, back, rfl, ?_, hsecond⟩
        rw [charsText_cons, charUnits, if_pos hsingle]
        rfl
      · rw [if_neg hsingle] at h
        obtain ⟨rfl, hrest⟩ := List.cons.inj h
        cases first with
        | nil =>
          have hsecond : (0xDC00 + (c.toNat - 0x10000) % 1024) :: charsText chars = second := hrest
          have hlow := hcut (0xDC00 + (c.toNat - 0x10000) % 1024) (by rw [← hsecond]; rfl)
          simp only [isLowSurrogate, Bool.and_eq_false_iff, decide_eq_false_iff_not] at hlow
          omega
        | cons v first =>
          obtain ⟨rfl, hback⟩ := List.cons.inj hrest
          obtain ⟨front, back, rfl, rfl, hsecond⟩ := ih hback
          refine ⟨c :: front, back, rfl, ?_, hsecond⟩
          rw [charsText_cons, charUnits, if_neg hsingle]
          rfl

end FormspecWeb.Shared
