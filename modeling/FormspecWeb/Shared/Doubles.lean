import Mathlib.Data.Int.Log
import Mathlib.Data.Rat.Floor
import Mathlib.Tactic.Linarith
import Mathlib.Tactic.NormNum
import Mathlib.Tactic.Positivity
import Mathlib.Tactic.Ring

/-!
# Rounding to doubles

The double nearest to a rational number, of two that are as near the one with the even significand.
The exponent is not bounded: numbers whose double is infinite or subnormal are left out.
-/

namespace FormspecWeb.Shared.Doubles

def roundHalfEven (x : Rat) : Int :=
  if x - ⌊x⌋ < 1 / 2 then ⌊x⌋
  else if 1 / 2 < x - ⌊x⌋ then ⌊x⌋ + 1
  else if ⌊x⌋ % 2 = 0 then ⌊x⌋
  else ⌊x⌋ + 1

/-- The distance of the doubles around a number: there are 52 bits after the leading one. -/
def spacing (x : Rat) : Rat := (2 : Rat) ^ (Int.log 2 |x| - 52)

def toDouble (x : Rat) : Rat := roundHalfEven (x / spacing x) * spacing x

theorem roundHalfEven_intCast (n : Int) : roundHalfEven n = n := by
  unfold roundHalfEven
  rw [Int.floor_intCast, sub_self, if_pos (by norm_num)]

theorem roundHalfEven_near (x : Rat) : |(roundHalfEven x : Rat) - x| ≤ 1 / 2 := by
  have hlow := Int.floor_le x
  have hhigh := Int.lt_floor_add_one x
  unfold roundHalfEven
  rw [abs_le]
  split_ifs with hbelow habove heven
  · constructor <;> linarith
  · push_cast
    constructor <;> linarith
  · constructor <;> linarith
  · push_cast
    constructor <;> linarith

theorem spacing_pos (x : Rat) : 0 < spacing x := by
  unfold spacing
  apply zpow_pos (by norm_num)

theorem toDouble_near (x : Rat) : |toDouble x - x| ≤ spacing x / 2 := by
  have hpos := spacing_pos x
  have hscaled : toDouble x - x = (roundHalfEven (x / spacing x) - x / spacing x) * spacing x := by
    unfold toDouble
    rw [sub_mul, div_mul_cancel₀ x hpos.ne']
  calc |toDouble x - x|
      = |(roundHalfEven (x / spacing x) : Rat) - x / spacing x| * spacing x := by
        rw [hscaled, abs_mul, abs_of_pos hpos]
    _ ≤ 1 / 2 * spacing x := by
        apply mul_le_mul_of_nonneg_right _ hpos.le
        apply roundHalfEven_near
    _ = spacing x / 2 := by ring

theorem toDouble_of_multiple {x : Rat} {m : Int} (h : x = m * spacing x) : toDouble x = x := by
  have hquotient : x / spacing x = m := by
    rw [div_eq_iff (spacing_pos x).ne']
    exact h
  unfold toDouble
  rw [hquotient, roundHalfEven_intCast]
  exact h.symm

theorem spacing_le {x : Rat} {k : Int} (hx : 0 < x) (h : x < 2 ^ k) : spacing x ≤ 2 ^ (k - 53) := by
  have hlog : Int.log 2 x < k := (Int.lt_zpow_iff_log_lt (by norm_num) hx).mp (by exact_mod_cast h)
  unfold spacing
  rw [abs_of_pos hx]
  apply zpow_le_zpow_right₀ (by norm_num)
  omega

/-- Whole numbers up to `2 ^ 53` are doubles. -/
theorem toDouble_natCast {n : Nat} (h : n ≤ 2 ^ 53) : toDouble n = n := by
  obtain hlt | heq := h.lt_or_eq
  · obtain rfl | hpos := n.eq_zero_or_pos
    · unfold toDouble
      rw [Nat.cast_zero, zero_div, ← Int.cast_zero, roundHalfEven_intCast, Int.cast_zero, zero_mul]
    · have hlog : Nat.log 2 n ≤ 52 := by
        have := Nat.log_lt_of_lt_pow hpos.ne' hlt
        omega
      apply toDouble_of_multiple (m := n * 2 ^ (52 - Nat.log 2 n))
      unfold spacing
      rw [abs_of_nonneg (by positivity), Int.log_natCast]
      push_cast
      rw [mul_assoc, ← zpow_natCast, ← zpow_add₀ (by norm_num)]
      rw [show ((52 - Nat.log 2 n : Nat) : Int) + ((Nat.log 2 n : Int) - 52) = 0 by omega]
      rw [zpow_zero, mul_one]
  · apply toDouble_of_multiple (m := 2 ^ 52)
    have hlog : Nat.log 2 n = 53 := by rw [heq, Nat.log_pow (by norm_num)]
    unfold spacing
    rw [abs_of_nonneg (by positivity), Int.log_natCast, hlog, heq]
    norm_num

theorem floor_toDouble_div_le {n c j : Nat} (hn : n ≤ 2 ^ 53) (hlow : 2 ^ j < c)
    (hhigh : c < 2 ^ (j + 1)) : ⌊toDouble ((n : Rat) / c)⌋ * c ≤ n := by
  have hc : (0 : Rat) < c := by exact_mod_cast (Nat.two_pow_pos j).trans hlow
  obtain rfl | hpos := n.eq_zero_or_pos
  · rw [Nat.cast_zero, zero_div, ← Nat.cast_zero, toDouble_natCast (Nat.zero_le _)]
    simp
  have hquotient : 0 < (n : Rat) / c := by positivity
  have hrange : (n : Rat) / c < 2 ^ (53 - j : Int) := by
    rw [zpow_sub₀ (by norm_num), zpow_natCast, div_lt_div_iff₀ hc (by positivity)]
    have hlow' : (2 : Rat) ^ j < c := by exact_mod_cast hlow
    have hn' : (n : Rat) ≤ 2 ^ 53 := by exact_mod_cast hn
    have hn0 : (0 : Rat) < n := by exact_mod_cast hpos
    calc (n : Rat) * 2 ^ j < n * c := by
          apply mul_lt_mul_of_pos_left hlow' hn0
      _ ≤ 2 ^ (53 : Int) * c := by
          apply mul_le_mul_of_nonneg_right _ hc.le
          exact_mod_cast hn'
  have hspacing : spacing ((n : Rat) / c) ≤ 2 ^ (-j : Int) := by
    have h := spacing_le hquotient hrange
    rwa [show (53 - j - 53 : Int) = -j by omega] at h
  have hnear := (abs_le.mp (toDouble_near ((n : Rat) / c))).2
  have hfloor := Int.floor_le (toDouble ((n : Rat) / c))
  have hstep : (c : Rat) * 2 ^ (-j : Int) < 2 := by
    rw [zpow_neg, zpow_natCast, ← div_eq_mul_inv, div_lt_iff₀ (by positivity)]
    have hhigh' : (c : Rat) < 2 ^ (j + 1) := by exact_mod_cast hhigh
    rw [pow_succ] at hhigh'
    linarith
  have hbelow : (⌊toDouble ((n : Rat) / c)⌋ : Rat) * c < n + 1 := by
    calc (⌊toDouble ((n : Rat) / c)⌋ : Rat) * c
        ≤ ((n : Rat) / c + 2 ^ (-j : Int) / 2) * c := by
          apply mul_le_mul_of_nonneg_right _ hc.le
          linarith
      _ = n + c * 2 ^ (-j : Int) / 2 := by
          rw [add_mul, div_mul_cancel₀ _ hc.ne']
          ring
      _ < n + 1 := by linarith
  have hwhole : ⌊toDouble ((n : Rat) / c)⌋ * c < (n : Int) + 1 := by exact_mod_cast hbelow
  omega

end FormspecWeb.Shared.Doubles
