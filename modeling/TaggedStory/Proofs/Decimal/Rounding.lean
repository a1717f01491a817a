import Mathlib.Algebra.Order.Field.Power
import Mathlib.Data.Int.Log
import Mathlib.Data.Rat.Floor
import Mathlib.Tactic.FieldSimp
import Mathlib.Tactic.Linarith
import Mathlib.Tactic.Positivity
import Mathlib.Tactic.Ring
import TaggedStory.Decimal.Double
/-!
Rounding as exact rational arithmetic: a rounded quotient depends on its value only, and a value that
lies near enough to a double of full length is rounded to that double.
-/
set_option autoImplicit false

namespace TaggedStory.Decimal.Double

section Scaling

variable (num den : Nat) (shift : Int) (positive : 0 < den)

include positive

theorem scale_two_positive : 0 < (scaleTwo num den shift).2 := by
  rw [scaleTwo]
  by_cases down : shift < 0
  · rw [if_pos down, Nat.shiftLeft_eq]
    exact Nat.mul_pos positive (Nat.two_pow_pos _)
  · rw [if_neg down]
    exact positive

theorem scale_two_value : ((scaleTwo num den shift).1 : ℚ) / (scaleTwo num den shift).2 = num / den * 2 ^ shift := by
  have filled : (den : ℚ) ≠ 0 := by positivity
  rw [scaleTwo]
  by_cases down : shift < 0
  · obtain ⟨size, rfl⟩ : ∃ size : Nat, shift = -size := ⟨shift.natAbs, by omega⟩
    rw [if_pos down, Int.natAbs_neg, Int.natAbs_natCast, Nat.shiftLeft_eq, zpow_neg, zpow_natCast]
    push_cast
    field_simp
  · obtain ⟨size, rfl⟩ : ∃ size : Nat, shift = size := ⟨shift.natAbs, by omega⟩
    rw [if_neg down, Int.natAbs_natCast, Nat.shiftLeft_eq, zpow_natCast]
    push_cast
    field_simp

theorem scale_ten_positive : 0 < (scaleTen num den shift).2 := by
  rw [scaleTen]
  by_cases down : shift < 0
  · rw [if_pos down]
    exact Nat.mul_pos positive (Nat.pow_pos (by decide))
  · rw [if_neg down]
    exact positive

theorem scale_ten_value : ((scaleTen num den shift).1 : ℚ) / (scaleTen num den shift).2 = num / den * 10 ^ shift := by
  have filled : (den : ℚ) ≠ 0 := by positivity
  have power : ∀ size, Nat.pow 10 size = 10 ^ size := fun _ => rfl
  rw [scaleTen]
  by_cases down : shift < 0
  · obtain ⟨size, rfl⟩ : ∃ size : Nat, shift = -size := ⟨shift.natAbs, by omega⟩
    rw [if_pos down, Int.natAbs_neg, Int.natAbs_natCast, power, zpow_neg, zpow_natCast]
    push_cast
    field_simp
  · obtain ⟨size, rfl⟩ : ∃ size : Nat, shift = size := ⟨shift.natAbs, by omega⟩
    rw [if_neg down, Int.natAbs_natCast, power, zpow_natCast]
    push_cast
    field_simp

end Scaling

section Nearest

theorem nearest_even_scaled (num den factor : Nat) (positive : 0 < factor) :
    nearestEven (num * factor) (den * factor) = nearestEven num den := by
  have below : 2 * (num % den * factor) < den * factor ↔ 2 * (num % den) < den := by
    rw [← Nat.mul_assoc, Nat.mul_lt_mul_right positive]
  have above : den * factor < 2 * (num % den * factor) ↔ den < 2 * (num % den) := by
    rw [← Nat.mul_assoc, Nat.mul_lt_mul_right positive]
  simp only [nearestEven, Nat.mul_div_mul_right num den positive, Nat.mul_mod_mul_right, below, above]

theorem nearest_even_value (num den other below : Nat) (positive : 0 < den) (filled : 0 < below)
    (same : (num : ℚ) / den = other / below) : nearestEven num den = nearestEven other below := by
  have crossed : num * below = other * den := by
    rw [div_eq_div_iff (by positivity) (by positivity)] at same
    exact_mod_cast same
  rw [← nearest_even_scaled num den below filled, crossed, Nat.mul_comm den below, nearest_even_scaled other below den positive]

theorem nearest_even_near (num den nearest : Nat) (positive : 0 < den)
    (near : |(num : ℚ) / den - nearest| < 1 / 2) : nearestEven num den = nearest := by
  have filled : (0 : ℚ) < den := by exact_mod_cast positive
  rw [abs_lt, lt_sub_iff_add_lt, sub_lt_iff_lt_add, lt_div_iff₀ filled, div_lt_iff₀ filled] at near
  have low : 2 * nearest * den < 2 * num + den := by
    have scaled : (2 : ℚ) * nearest * den < 2 * num + den := by linarith [near.1]
    exact_mod_cast scaled
  have high : 2 * num < 2 * nearest * den + den := by
    have scaled : (2 : ℚ) * num < 2 * nearest * den + den := by linarith [near.2]
    exact_mod_cast scaled
  have split := Nat.div_add_mod num den
  have small := Nat.mod_lt num positive
  simp only [nearestEven]
  generalize num / den = quotient at split ⊢
  generalize num % den = rest at split small ⊢
  -- Either neighbour of the quotient is the only whole number less than a half away.
  have atMost : nearest ≤ quotient + 1 := by
    by_contra more
    have step := Nat.mul_le_mul_right den (show quotient + 2 ≤ nearest by omega)
    nlinarith
  have atLeast : quotient ≤ nearest := by
    by_contra less
    have step := Nat.mul_le_mul_right den (show nearest + 1 ≤ quotient by omega)
    nlinarith
  rcases Nat.lt_or_ge quotient nearest with up | down
  · have same : nearest = quotient + 1 := by omega
    have more : den < 2 * rest := by
      rw [same] at low
      nlinarith
    rw [if_neg (by omega), if_pos more, same]
  · have same : nearest = quotient := by omega
    have less : 2 * rest < den := by
      rw [same] at high
      nlinarith
    rw [if_pos less, same]

end Nearest

section Logarithm

theorem two_log (n : Nat) (positive : 0 < n) : (2 : ℚ) ^ (n.log2 : Int) ≤ n ∧ (n : ℚ) < 2 ^ (n.log2 + 1 : Int) := by
  have low := Nat.log2_self_le (Nat.pos_iff_ne_zero.mp positive)
  have high := Nat.lt_log2_self (n := n)
  constructor
  · rw [zpow_natCast]
    exact_mod_cast low
  · rw [← Nat.cast_succ, zpow_natCast]
    exact_mod_cast high

theorem log_unique (value : ℚ) (power : Int) (low : 2 ^ power ≤ value) (high : value < 2 ^ (power + 1)) :
    Int.log 2 value = power := by
  have positive : 0 < value := lt_of_lt_of_le (by positivity) low
  have base : 1 < 2 := by decide
  have atLeast := (Int.zpow_le_iff_le_log base positive).mp (by exact_mod_cast low)
  have less := (Int.lt_zpow_iff_log_lt base positive).mp (by exact_mod_cast high)
  omega

theorem floor_log_two (num den : Nat) (positive : 0 < num) (filled : 0 < den) :
    floorLog2 num den = Int.log 2 ((num : ℚ) / den) := by
  obtain ⟨numLow, numHigh⟩ := two_log num positive
  obtain ⟨denLow, denHigh⟩ := two_log den filled
  have size : (0 : ℚ) < den := by exact_mod_cast filled
  have two : (2 : ℚ) ≠ 0 := by norm_num
  -- The difference of the two lengths is the logarithm, or one more.
  have above : (num : ℚ) / den < 2 ^ ((num.log2 : Int) - den.log2 + 1) := by
    rw [div_lt_iff₀ size]
    calc (num : ℚ) < 2 ^ ((num.log2 : Int) + 1) := numHigh
      _ = 2 ^ ((num.log2 : Int) - den.log2 + 1) * 2 ^ (den.log2 : Int) := by
          rw [← zpow_add₀ two]
          congr 1
          omega
      _ ≤ 2 ^ ((num.log2 : Int) - den.log2 + 1) * den := by gcongr
  have below : 2 ^ ((num.log2 : Int) - den.log2 - 1) ≤ (num : ℚ) / den := by
    rw [le_div_iff₀ size]
    calc 2 ^ ((num.log2 : Int) - den.log2 - 1) * (den : ℚ)
      _ ≤ 2 ^ ((num.log2 : Int) - den.log2 - 1) * 2 ^ ((den.log2 : Int) + 1) := by gcongr
      _ = 2 ^ (num.log2 : Int) := by
          rw [← zpow_add₀ two]
          congr 1
          omega
      _ ≤ num := numLow
  rw [floorLog2]
  generalize (num.log2 : Int) - den.log2 = guess at above below ⊢
  have scaled := scale_two_value num den (-guess) filled
  have scaledPositive : (0 : ℚ) < (scaleTwo num den (-guess)).2 := by
    exact_mod_cast scale_two_positive num den (-guess) filled
  have reaches : (scaleTwo num den (-guess)).2 ≤ (scaleTwo num den (-guess)).1 ↔ 2 ^ guess ≤ (num : ℚ) / den := by
    have one : (scaleTwo num den (-guess)).2 ≤ (scaleTwo num den (-guess)).1 ↔
        1 ≤ ((scaleTwo num den (-guess)).1 : ℚ) / (scaleTwo num den (-guess)).2 := by
      rw [one_le_div scaledPositive]
      exact Nat.cast_le.symm
    rw [one, scaled, zpow_neg, ← div_eq_mul_inv, one_le_div (by positivity)]
  simp only [reaches]
  by_cases full : 2 ^ guess ≤ (num : ℚ) / den
  · rw [if_pos full, log_unique _ guess full above]
  · rw [if_neg full, log_unique _ (guess - 1) below (by rw [Int.sub_add_cancel]; exact not_le.mp full)]

end Logarithm

section Rounding

theorem round_value (negative : Bool) (num den other below : Nat) (positive : 0 < den) (filled : 0 < below)
    (same : (num : ℚ) / den = other / below) : round negative num den = round negative other below := by
  by_cases zero : num = 0
  · have nothing : other = 0 := by
      rw [zero, Nat.cast_zero, zero_div, eq_comm, div_eq_zero_iff] at same
      rcases same with none | empty
      · exact_mod_cast none
      · exact absurd empty (by positivity)
    rw [zero, nothing, round, round, if_pos rfl, if_pos rfl]
  · have otherNonzero : other ≠ 0 := by
      rintro rfl
      rw [Nat.cast_zero, zero_div, div_eq_zero_iff] at same
      rcases same with none | empty
      · exact zero (by exact_mod_cast none)
      · exact absurd empty (by positivity)
    have log : floorLog2 num den = floorLog2 other below := by
      rw [floor_log_two num den (Nat.pos_of_ne_zero zero) positive,
        floor_log_two other below (Nat.pos_of_ne_zero otherNonzero) filled, same]
    have nearest : ∀ shift, nearestEven (scaleTwo num den shift).1 (scaleTwo num den shift).2 =
        nearestEven (scaleTwo other below shift).1 (scaleTwo other below shift).2 := by
      intro shift
      refine nearest_even_value _ _ _ _ (scale_two_positive _ _ _ positive) (scale_two_positive _ _ _ filled) ?_
      rw [scale_two_value _ _ _ positive, scale_two_value _ _ _ filled, same]
    simp only [round, if_neg zero, if_neg otherNonzero, log, nearest]

-- A finite double of full length, as every number is that is not very small.
structure Normal (mantissa : Nat) (exponent : Int) : Prop where
  long : 2 ^ 52 ≤ mantissa
  short : mantissa < 2 ^ 53
  least : leastExponent ≤ exponent
  greatest : exponent ≤ greatestExponent

def magnitude (mantissa : Nat) (exponent : Int) : ℚ :=
  mantissa * 2 ^ exponent

theorem scaled_near (num den nearest : Nat) (exponent : Int) (positive : 0 < den)
    (near : |(num : ℚ) / den - nearest * 2 ^ exponent| < 2 ^ exponent / 2) :
    nearestEven (scaleTwo num den (-exponent)).1 (scaleTwo num den (-exponent)).2 = nearest := by
  have unit : (0 : ℚ) < 2 ^ exponent := by positivity
  refine nearest_even_near _ _ _ (scale_two_positive _ _ _ positive) ?_
  have back : (num : ℚ) / den * 2 ^ (-exponent) - nearest = ((num : ℚ) / den - nearest * 2 ^ exponent) / 2 ^ exponent := by
    rw [zpow_neg]
    field_simp
  rw [scale_two_value _ _ _ positive, back, abs_div, abs_of_pos unit, div_lt_iff₀ unit]
  linarith

section Nearby

variable (num den mantissa : Nat) (exponent : Int) (positive : 0 < den) (normal : Normal mantissa exponent)
variable (near : |(num : ℚ) / den - magnitude mantissa exponent| * 2 ^ 54 < magnitude mantissa exponent)

include near

theorem near_nonzero : num ≠ 0 := by
  rintro rfl
  rw [Nat.cast_zero, zero_div, zero_sub, abs_neg, magnitude] at near
  have size : (0 : ℚ) ≤ mantissa * 2 ^ exponent := by positivity
  rw [abs_of_nonneg size] at near
  linarith

include normal

theorem near_half : |(num : ℚ) / den - mantissa * 2 ^ exponent| < 2 ^ exponent / 2 := by
  have unit : (0 : ℚ) < 2 ^ exponent := by positivity
  have short : (mantissa : ℚ) + 1 ≤ 2 ^ 53 := by exact_mod_cast normal.short
  rw [magnitude] at near
  nlinarith

-- Only the least mantissa has values of a smaller power of two so near.
theorem near_least (below : (num : ℚ) / den < 2 ^ 52 * 2 ^ exponent) : mantissa = 2 ^ 52 := by
  have unit : (0 : ℚ) < 2 ^ exponent := by positivity
  have close := (abs_lt.mp (near_half num den mantissa exponent normal near)).1
  have less : (mantissa : ℚ) < 2 ^ 52 + 1 := by nlinarith
  have atMost : mantissa < 2 ^ 52 + 1 := by exact_mod_cast less
  exact Nat.le_antisymm (Nat.le_of_lt_succ atMost) normal.long

include positive

theorem round_inside (negative : Bool) (full : 2 ^ (exponent + 52) ≤ (num : ℚ) / den) :
    round negative num den = finite negative mantissa exponent := by
  have unit : (0 : ℚ) < 2 ^ exponent := by positivity
  have short : (mantissa : ℚ) + 1 ≤ 2 ^ 53 := by exact_mod_cast normal.short
  have filled := near_nonzero num den mantissa exponent near
  have close := near_half num den mantissa exponent normal near
  have less : (num : ℚ) / den < 2 ^ (exponent + 52 + 1) := by
    have bounds := abs_lt.mp close
    rw [show exponent + 52 + 1 = exponent + (53 : Nat) by omega, zpow_add₀ (by norm_num), zpow_natCast]
    nlinarith
  have power : max (floorLog2 num den - 52) leastExponent = exponent := by
    have least := normal.least
    rw [floor_log_two num den (Nat.pos_of_ne_zero filled) positive, log_unique _ _ full less]
    omega
  have noCarry : mantissa ≠ 1 <<< mantissaBits := Nat.ne_of_lt normal.short
  have fits : ¬ greatestExponent < exponent := not_lt.mpr normal.greatest
  simp only [round, if_neg filled, power, scaled_near num den mantissa exponent positive close, if_neg noCarry, if_neg fits]

-- Just below a power of two the grid is finer by one bit, and the rounded number is carried over.
theorem round_edge (negative : Bool) (below : (num : ℚ) / den < 2 ^ 52 * 2 ^ exponent) :
    round negative num den = finite negative mantissa exponent := by
  have filled := near_nonzero num den mantissa exponent near
  have close := near_half num den mantissa exponent normal near
  have fits : ¬ greatestExponent < exponent := not_lt.mpr normal.greatest
  obtain rfl := near_least num den mantissa exponent normal near below
  have closer : |(num : ℚ) / den - (2 ^ 52 : Nat) * 2 ^ exponent| < 2 ^ exponent / 4 := by
    rw [magnitude] at near
    push_cast at near ⊢
    linarith
  have half : (2 : ℚ) ^ (exponent - 1) = 2 ^ exponent / 2 := by rw [zpow_sub_one₀ (by norm_num)]; rfl
  have more : 2 ^ (exponent - 1 + 52) ≤ (num : ℚ) / den := by
    have low := (abs_lt.mp closer).1
    rw [show exponent - 1 + 52 = exponent - 1 + (52 : Nat) by omega, zpow_add₀ (by norm_num), zpow_natCast, half]
    push_cast at low
    linarith
  have less : (num : ℚ) / den < 2 ^ (exponent - 1 + 52 + 1) := by
    rw [show exponent - 1 + 52 + 1 = exponent + (52 : Nat) by omega, zpow_add₀ (by norm_num), zpow_natCast, mul_comm]
    exact below
  have log : floorLog2 num den = exponent - 1 + 52 := by
    rw [floor_log_two num den (Nat.pos_of_ne_zero filled) positive, log_unique _ _ more less]
  rcases lt_or_ge leastExponent exponent with room | floor
  · have power : max (floorLog2 num den - 52) leastExponent = exponent - 1 := by omega
    have closest := scaled_near num den (2 ^ 53) (exponent - 1) positive (by
      rw [half]
      push_cast at closer ⊢
      calc |(num : ℚ) / den - 2 ^ 53 * (2 ^ exponent / 2)| = |(num : ℚ) / den - 2 ^ 52 * 2 ^ exponent| := by
            congr 1
            ring
        _ < 2 ^ exponent / 2 / 2 := by linarith)
    have carry : 2 ^ 53 = 1 <<< mantissaBits := rfl
    have shorter : 1 <<< (mantissaBits - 1) = 2 ^ 52 := rfl
    simp only [round, if_neg filled, power, closest, if_pos carry, shorter, Int.sub_add_cancel, if_neg fits]
  · have power : max (floorLog2 num den - 52) leastExponent = exponent := by
      have least := normal.least
      omega
    have noCarry : 2 ^ 52 ≠ 1 <<< mantissaBits := by decide
    simp only [round, if_neg filled, power, scaled_near num den _ exponent positive close, if_neg noCarry, if_neg fits]

theorem round_near (negative : Bool) : round negative num den = finite negative mantissa exponent := by
  rcases lt_or_ge ((num : ℚ) / den) (2 ^ 52 * 2 ^ exponent) with below | full
  · exact round_edge num den mantissa exponent positive normal near negative below
  · refine round_inside num den mantissa exponent positive normal near negative ?_
    rw [show exponent + 52 = exponent + (52 : Nat) by omega, zpow_add₀ (by norm_num), zpow_natCast, mul_comm]
    exact full

end Nearby

end Rounding

end TaggedStory.Decimal.Double
