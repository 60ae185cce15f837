import FormspecWeb.Shared.Base64

/-!
# Base64 in the browser

`btoa` writes the texts that a buffer writes. `atob` reads one alphabet, passes over white space, and
refuses a text that is not the encoding of any bytes.
-/

namespace FormspecWeb.Shared.Base64

/-- The value of a digit that `atob` knows. -/
def atobValue? (c : Char) : Option Nat := if c == '-' || c == '_' then none else value? c

def stripPadding (text : List Char) : List Char :=
  match text.reverse with
  | '=' :: '=' :: rest => rest.reverse
  | '=' :: rest => rest.reverse
  | _ => text

def isSpaceChar (c : Char) : Bool :=
  c == ' ' || c == '\t' || c == '\n' || c == '\r' || c.toNat == 12

/-- `atob(text)`, as bytes. -/
def atob (text : List Char) : Option (List UInt8) :=
  let text := text.filter (!isSpaceChar ·)
  let data := if text.length % 4 = 0 then stripPadding text else text
  if data.length % 4 = 1 then none else (data.mapM atobValue?).map decodeValues

def sextets : List UInt8 → List Nat
  | a :: b :: c :: rest =>
    let n := a.toNat * 65536 + b.toNat * 256 + c.toNat
    [n / 262144, n / 4096 % 64, n / 64 % 64, n % 64] ++ sextets rest
  | [a, b] =>
    let n := a.toNat * 1024 + b.toNat * 4
    [n / 4096, n / 64 % 64, n % 64]
  | [a] => [a.toNat / 4, a.toNat % 4 * 16]
  | [] => []

def padding : List UInt8 → List Char
  | _ :: _ :: _ :: rest => padding rest
  | [_, _] => ['=']
  | [_] => ['=', '=']
  | [] => []

theorem encode_eq (bytes : List UInt8) : encode bytes = (sextets bytes).map digit ++ padding bytes := by
  induction bytes using encode.induct with
  | case1 a b c rest ih =>
    rw [encode, ih, sextets, padding]
    simp
  | case2 a b => rfl
  | case3 a => rfl
  | case4 => rfl

theorem sextets_lt {bytes : List UInt8} : ∀ n ∈ sextets bytes, n < 64 := by
  induction bytes using encode.induct with
  | case1 a b c rest ih =>
    have ha := a.toNat_lt
    have hb := b.toNat_lt
    have hc := c.toNat_lt
    simp only [sextets, List.cons_append, List.nil_append, List.forall_mem_cons]
    exact ⟨by omega, by omega, by omega, by omega, ih⟩
  | case2 a b =>
    have ha := a.toNat_lt
    have hb := b.toNat_lt
    simp only [sextets, List.forall_mem_cons]
    exact ⟨by omega, by omega, by omega, by simp⟩
  | case3 a =>
    have ha := a.toNat_lt
    simp only [sextets, List.forall_mem_cons]
    exact ⟨by omega, by omega, by simp⟩
  | case4 => simp [sextets]

theorem sextets_length (bytes : List UInt8) :
    ((sextets bytes).length + (padding bytes).length) % 4 = 0 ∧ (padding bytes).length ≤ 2 := by
  induction bytes using encode.induct with
  | case1 a b c rest ih =>
    simp only [sextets, padding, List.length_append, List.length_cons, List.length_nil]
    omega
  | case2 a b => simp [sextets, padding]
  | case3 a => simp [sextets, padding]
  | case4 => simp [sextets, padding]

theorem mem_padding {bytes : List UInt8} : ∀ c ∈ padding bytes, c = '=' := by
  induction bytes using encode.induct with
  | case1 a b c rest ih => exact ih
  | case2 a b => simp [padding]
  | case3 a => simp [padding]
  | case4 => simp [padding]

theorem decodeValues_sextets (bytes : List UInt8) : decodeValues (sextets bytes) = bytes := by
  induction bytes using encode.induct with
  | case1 a b c rest ih =>
    have ha := a.toNat_lt
    have hb := b.toNat_lt
    have hc := c.toNat_lt
    simp only [sextets, List.cons_append, List.nil_append, decodeValues, ih, List.cons.injEq, and_true]
    refine ⟨?_, ?_, ?_⟩ <;> apply UInt8.toNat_inj.mp <;> rw [UInt8.toNat_ofNat'] <;> omega
  | case2 a b =>
    have ha := a.toNat_lt
    have hb := b.toNat_lt
    simp only [sextets, decodeValues, List.cons.injEq, and_true]
    refine ⟨?_, ?_⟩ <;> apply UInt8.toNat_inj.mp <;> rw [UInt8.toNat_ofNat'] <;> omega
  | case3 a =>
    have ha := a.toNat_lt
    simp only [sextets, decodeValues, List.cons.injEq, and_true]
    apply UInt8.toNat_inj.mp
    rw [UInt8.toNat_ofNat']
    omega
  | case4 => rfl

theorem digit_spec : ∀ n < 64, atobValue? (digit n) = some n ∧ isSpaceChar (digit n) = false
    ∧ digit n ≠ '=' := by
  decide

theorem mapM_digit {values : List Nat} (h : ∀ n ∈ values, n < 64) :
    (values.map digit).mapM atobValue? = some values := by
  induction values with
  | nil => rfl
  | cons n values ih =>
    obtain ⟨hn, hrest⟩ := List.forall_mem_cons.mp h
    rw [List.map_cons, List.mapM_cons, (digit_spec n hn).1, ih hrest]
    rfl

theorem stripPadding_digits {values : List Nat} (h : ∀ n ∈ values, n < 64) (bytes : List UInt8) :
    stripPadding (values.map digit ++ padding bytes) = values.map digit := by
  have hlast : ∀ rest, (values.map digit).reverse ≠ '=' :: rest := by
    intro rest heq
    have hmem : '=' ∈ values.map digit := List.mem_reverse.mp (heq ▸ List.mem_cons_self)
    obtain ⟨n, hn, hdigit⟩ := List.mem_map.mp hmem
    exact (digit_spec n (h n hn)).2.2 hdigit
  induction bytes using encode.induct with
  | case1 a b c rest ih => exact ih
  | case2 a b =>
    rw [padding, stripPadding, List.reverse_append]
    cases hrev : (values.map digit).reverse with
    | nil =>
      rw [List.reverse_eq_nil_iff] at hrev
      rw [hrev]
      rfl
    | cons c rest =>
      have hc : c ≠ '=' := fun hc => hlast rest (hc ▸ hrev)
      simp [← hrev]
  | case3 a =>
    rw [padding, stripPadding, List.reverse_append]
    simp
  | case4 =>
    rw [padding, List.append_nil, stripPadding]
    split
    · next rest heq => exact absurd heq (hlast _)
    · next rest _ heq => exact absurd heq (hlast _)
    · rfl

theorem atob_encode (bytes : List UInt8) : atob (encode bytes) = some bytes := by
  have hspaces : (encode bytes).filter (!isSpaceChar ·) = encode bytes := by
    rw [List.filter_eq_self, encode_eq]
    intro c hc
    rcases List.mem_append.mp hc with hdigit | hpad
    · obtain ⟨n, hn, rfl⟩ := List.mem_map.mp hdigit
      rw [(digit_spec n (sextets_lt n hn)).2.1]
      rfl
    · rw [mem_padding c hpad]
      rfl
  obtain ⟨hlength, hpadding⟩ := sextets_length bytes
  unfold atob
  rw [hspaces, encode_eq]
  have hfour : ((sextets bytes).map digit ++ padding bytes).length % 4 = 0 := by
    rw [List.length_append, List.length_map]
    exact hlength
  have hone : ¬ ((sextets bytes).map digit).length % 4 = 1 := by
    rw [List.length_map]
    omega
  simp only [if_pos hfour, stripPadding_digits sextets_lt]
  rw [if_neg hone, mapM_digit sextets_lt, Option.map_some, decodeValues_sextets]

end FormspecWeb.Shared.Base64
