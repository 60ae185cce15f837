import Mathlib.Data.List.TakeWhile
import FormspecWeb.Shared.Doubles
import FormspecWeb.Shared.JsonText
import FormspecWeb.Shared.Text

/-!
# Decimal numbers

Whole numbers as texts of code units, and what `parseInt` reads at the front of a text.
-/

namespace FormspecWeb.Shared

open JsonText

/-- All the digits of a number, which `String(n)` writes up to `2 ** 53`. -/
def decimal (n : Nat) : Text := (Nat.toDigits 10 n).map Char.toNat

/-- The multiples of `unit` next to a double that round to it, the nearer one first. -/
def roundingTo (n unit : Nat) : List Nat :=
  let low := n / unit * unit
  let lowFirst := 2 * (n - low) < unit || 2 * (n - low) == unit && n / unit % 2 == 0
  (if lowFirst then [low, low + unit] else [low + unit, low]).filter fun near =>
    decide (Doubles.toDouble near = n)

/-- The number that a whole double is written as: the one of the fewest digits that rounds to it. -/
def shortest (n : Nat) : Nat :=
  let digits := (Nat.toDigits 10 n).length
  ((List.range 17).findSome? fun kept => (roundingTo n (10 ^ (digits - (kept + 1)))).head?).getD n

def exponential : List Char → List Char
  | [] => []
  | first :: digits =>
    let fraction := (digits.reverse.dropWhile (· == '0')).reverse
    let exponent := ['e', '+'] ++ Nat.toDigits 10 digits.length
    first :: (if fraction.isEmpty then exponent else '.' :: fraction ++ exponent)

/-- `String(n)` of a whole double. -/
def numberChars (n : Nat) : List Char :=
  if n ≤ 2 ^ 53 then Nat.toDigits 10 n
  else if shortest n < 10 ^ 21 then Nat.toDigits 10 (shortest n)
  else exponential (Nat.toDigits 10 (shortest n))

def decimalInt : Int → Text
  | .ofNat n => (numberChars n).map Char.toNat
  | .negSucc n => 45 :: (numberChars (n + 1)).map Char.toNat

theorem decimalInt_natCast {n : Nat} (h : n ≤ 2 ^ 53) : decimalInt (n : Int) = decimal n := by
  show (numberChars n).map Char.toNat = decimal n
  rw [numberChars, if_pos h, decimal]

example : decimalInt (10 ^ 21) = units "1e+21" := by decide +kernel

example : decimalInt (2 ^ 60) = units "1152921504606847000" := by decide +kernel

def isDigitUnit (u : Nat) : Bool := 48 ≤ u && u ≤ 57

def digitsValue (digits : Text) : Nat := digits.foldl (fun n u => 10 * n + (u - 48)) 0

def unsigned : Text → Text
  | 45 :: rest | 43 :: rest => rest
  | text => text

/-- `Number.parseInt(text, 10)`, as a whole number; `none` is `NaN`. -/
def parseInt (text : Text) : Option Int :=
  let text := text.dropWhile fun u => isTrimmed (Char.ofNat u)
  let digits := (unsigned text).takeWhile isDigitUnit
  if digits.isEmpty then none
  else if text.head? = some 45 then some (-(digitsValue digits))
  else some (digitsValue digits)

theorem decimal_digits (n : Nat) : ∀ u ∈ decimal n, isDigitUnit u = true := by
  intro u hu
  obtain ⟨c, hc, rfl⟩ := List.mem_map.mp hu
  have hdigit := Nat.isDigit_of_mem_toDigits (by omega) (by omega) hc
  rw [Char.isDigit, Bool.and_eq_true, decide_eq_true_eq, decide_eq_true_eq] at hdigit
  rw [isDigitUnit, Bool.and_eq_true, decide_eq_true_eq, decide_eq_true_eq]
  exact ⟨hdigit.1, hdigit.2⟩

theorem decimal_ne_nil (n : Nat) : decimal n ≠ [] := by
  rw [decimal, ne_eq, List.map_eq_nil_iff]
  exact Nat.toDigits_ne_nil

theorem digitsValue_decimal (n : Nat) : digitsValue (decimal n) = n := by
  rw [digitsValue, decimal, List.foldl_map]
  exact Nat.ofDigitChars_ten_toDigits

theorem parseInt_decimal (n : Nat) : parseInt (decimal n) = some (n : Int) := by
  obtain ⟨first, rest, heq⟩ := List.exists_cons_of_ne_nil (decimal_ne_nil n)
  have hdigits := decimal_digits n
  have hfirst : isDigitUnit first = true := hdigits first (heq ▸ List.mem_cons_self)
  have hrange : 48 ≤ first ∧ first ≤ 57 := by simpa [isDigitUnit] using hfirst
  have hspace : isTrimmed (Char.ofNat first) = false := by
    have hall : ∀ u < 58, 48 ≤ u → isTrimmed (Char.ofNat u) = false := by decide
    exact hall first (by omega) hrange.1
  have hdrop : (decimal n).dropWhile (fun u => isTrimmed (Char.ofNat u)) = decimal n := by
    rw [heq, List.dropWhile_cons_of_neg]
    rw [hspace]
    exact Bool.false_ne_true
  have htake : (decimal n).takeWhile isDigitUnit = decimal n :=
    List.takeWhile_eq_self_iff.mpr hdigits
  have hsign : first ≠ 45 ∧ first ≠ 43 := by omega
  have hunsigned : unsigned (decimal n) = decimal n := by
    rw [heq, unsigned.eq_def]
    split
    · exact absurd (List.cons.inj ‹_›).1 hsign.1
    · exact absurd (List.cons.inj ‹_›).1 hsign.2
    · rfl
  unfold parseInt
  simp only [hdrop, hunsigned, htake]
  rw [if_neg (by simpa using decimal_ne_nil n), if_neg, digitsValue_decimal]
  rw [heq, List.head?_cons, Option.some.injEq]
  exact hsign.1

theorem decimal_injective {m n : Nat} (h : decimal m = decimal n) : m = n := by
  have hread := parseInt_decimal m
  rw [h, parseInt_decimal] at hread
  exact (Int.ofNat.inj (Option.some.inj hread)).symm

def wholeNumbers : NumberFormat Nat where
  print := decimal
  read text := if !text.isEmpty && text.all isDigitUnit then some (digitsValue text) else none
  reread n := n
  print_units n := by
    rw [List.all_eq_true]
    intro u hu
    have hdigit := decimal_digits n u hu
    rw [isDigitUnit] at hdigit
    simp [isNumberUnit, hdigit]
  print_ne := decimal_ne_nil
  read_print n := by
    have hall : (decimal n).all isDigitUnit = true := List.all_eq_true.mpr (decimal_digits n)
    have hne : (decimal n).isEmpty = false := by simpa using decimal_ne_nil n
    rw [hall, hne, digitsValue_decimal]
    rfl

end FormspecWeb.Shared
