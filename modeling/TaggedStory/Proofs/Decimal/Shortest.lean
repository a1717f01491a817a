import Mathlib.Algebra.Order.Floor.Semifield
import TaggedStory.Proofs.Decimal.Rounding
import TaggedStory.Proofs.Decimal.Whole
/-!
Doubles that survive their own text: seventeen digits are enough to tell a double of full length from
all others, so that the search for a short text ends with digits that read back.
-/
set_option autoImplicit false

namespace TaggedStory.Decimal

namespace Double

theorem quotient_positive (mantissa : Nat) (exponent : Int) : 0 < (quotient mantissa exponent).2 :=
  scale_two_positive mantissa 1 exponent Nat.one_pos

theorem quotient_value (mantissa : Nat) (exponent : Int) :
    ((quotient mantissa exponent).1 : ℚ) / (quotient mantissa exponent).2 = magnitude mantissa exponent := by
  rw [quotient, scale_two_value mantissa 1 exponent Nat.one_pos, Nat.cast_one, div_one, magnitude]

theorem magnitude_positive (mantissa : Nat) (exponent : Int) (filled : 0 < mantissa) : 0 < magnitude mantissa exponent := by
  rw [magnitude]
  positivity

theorem round_exact (negative : Bool) (num den mantissa : Nat) (exponent : Int) (positive : 0 < den)
    (normal : Normal mantissa exponent) (same : (num : ℚ) / den = magnitude mantissa exponent) :
    round negative num den = finite negative mantissa exponent := by
  refine round_near num den mantissa exponent positive normal ?_ negative
  rw [same, sub_self, abs_zero, zero_mul]
  exact magnitude_positive _ _ (Nat.lt_of_lt_of_le (Nat.two_pow_pos 52) normal.long)

section Grid

variable (num den : Nat)

def gridFloor (shift : Int) : Nat :=
  (scaleTen num den (-shift)).1 / (scaleTen num den (-shift)).2

theorem reads_back_iff (candidate : Nat) (shift : Int) : readsBack num den candidate shift = true ↔
    round false (scaleTen candidate 1 shift).1 (scaleTen candidate 1 shift).2 = round false num den := by
  rw [readsBack, beq_iff_eq]

-- Where the search has a result, it is one of the two neighbours and reads back.
theorem on_grid_cases (point : Int) (count : Nat) :
    (onGrid? num den point count = none ∧
      readsBack num den (gridFloor num den (point - count)) (point - count) = false ∧
      readsBack num den (gridFloor num den (point - count) + 1) (point - count) = false) ∨
    ∃ value, onGrid? num den point count = some (value, point - count) ∧
      readsBack num den value (point - count) = true ∧
      (value = gridFloor num den (point - count) ∨ value = gridFloor num den (point - count) + 1) := by
  simp only [onGrid?, gridFloor]
  generalize point - (count : Int) = shift
  generalize (scaleTen num den (-shift)).1 / (scaleTen num den (-shift)).2 = low
  generalize 2 * ((scaleTen num den (-shift)).1 % (scaleTen num den (-shift)).2) = twice
  generalize (scaleTen num den (-shift)).2 = unit
  cases lowFits : readsBack num den low shift with
  | false =>
      cases highFits : readsBack num den (low + 1) shift with
      | false => exact .inl ⟨rfl, rfl, rfl⟩
      | true => exact .inr ⟨low + 1, rfl, highFits, .inr rfl⟩
  | true =>
      cases highFits : readsBack num den (low + 1) shift with
      | false => exact .inr ⟨low, rfl, lowFits, .inl rfl⟩
      | true =>
          have below : ∃ value, some (low, shift) = some (value, shift) ∧ readsBack num den value shift = true ∧
              (value = low ∨ value = low + 1) := ⟨low, rfl, lowFits, .inl rfl⟩
          have above : ∃ value, some (low + 1, shift) = some (value, shift) ∧ readsBack num den value shift = true ∧
              (value = low ∨ value = low + 1) := ⟨low + 1, rfl, highFits, .inr rfl⟩
          simp only [Bool.and_self, if_true]
          right
          by_cases nearLow : twice < unit
          · simpa only [if_pos nearLow] using below
          · by_cases nearHigh : unit < twice
            · simpa only [if_neg nearLow, if_pos nearHigh] using above
            · by_cases even : low % 2 = 0
              · simpa only [if_neg nearLow, if_neg nearHigh, if_pos even] using below
              · simpa only [if_neg nearLow, if_neg nearHigh, if_neg even] using above

theorem grid_floor_bounds (shift : Int) (positive : 0 < den) :
    gridFloor num den shift * 10 ^ shift ≤ (num : ℚ) / den ∧
      (num : ℚ) / den < (gridFloor num den shift + 1) * 10 ^ shift := by
  have unit : (0 : ℚ) < 10 ^ shift := by positivity
  have value := scale_ten_value num den (-shift) positive
  have split : (gridFloor num den shift : ℚ) = ⌊(num : ℚ) / den * 10 ^ (-shift)⌋₊ := by
    rw [gridFloor, ← value, Nat.floor_div_eq_div]
  have nonnegative : (0 : ℚ) ≤ (num : ℚ) / den * 10 ^ (-shift) := by positivity
  have back : (num : ℚ) / den = (num : ℚ) / den * 10 ^ (-shift) * 10 ^ shift := by
    rw [zpow_neg]
    field_simp
  rw [split]
  constructor
  · calc (⌊(num : ℚ) / den * 10 ^ (-shift)⌋₊ : ℚ) * 10 ^ shift
      _ ≤ (num : ℚ) / den * 10 ^ (-shift) * 10 ^ shift := by gcongr; exact Nat.floor_le nonnegative
      _ = (num : ℚ) / den := back.symm
  · calc (num : ℚ) / den
      _ = (num : ℚ) / den * 10 ^ (-shift) * 10 ^ shift := back
      _ < (⌊(num : ℚ) / den * 10 ^ (-shift)⌋₊ + 1) * 10 ^ shift := by gcongr; exact Nat.lt_floor_add_one _

-- The grid of seventeen digits is finer than a 2 ^ 53rd of the value.
theorem seventeen_digits (point : Int) (mantissa : Nat) (exponent : Int) (positive : 0 < den)
    (normal : Normal mantissa exponent) (same : (num : ℚ) / den = magnitude mantissa exponent)
    (long : 10 ^ (point - 1) ≤ (num : ℚ) / den) : (onGrid? num den point 17).isSome = true := by
  obtain ⟨low, high⟩ := grid_floor_bounds num den (point - (17 : Nat)) positive
  have unit : (0 : ℚ) < 10 ^ (point - (17 : Nat)) := by positivity
  have fine : 10 ^ (point - (17 : Nat)) * 10 ^ 16 ≤ (num : ℚ) / den := by
    rw [← zpow_natCast, ← zpow_add₀ (by norm_num)]
    convert long using 2
    omega
  have target := round_exact false num den mantissa exponent positive normal same
  have near : ∀ candidate : Nat, |candidate * 10 ^ (point - (17 : Nat)) - (num : ℚ) / den| ≤ 10 ^ (point - (17 : Nat)) / 2 →
      readsBack num den candidate (point - (17 : Nat)) = true := by
    intro candidate close
    rw [reads_back_iff, target]
    refine round_near _ _ mantissa exponent (scale_ten_positive _ _ _ Nat.one_pos) normal ?_ false
    rw [scale_ten_value _ _ _ Nat.one_pos, Nat.cast_one, div_one, ← same]
    linarith
  rcases on_grid_cases num den point 17 with ⟨_, lowMisses, highMisses⟩ | ⟨value, found, _⟩
  · rcases le_total ((num : ℚ) / den - gridFloor num den (point - (17 : Nat)) * 10 ^ (point - (17 : Nat)))
      (10 ^ (point - (17 : Nat)) / 2) with nearLow | nearHigh
    · have fits := near (gridFloor num den (point - (17 : Nat))) (by rw [abs_le]; constructor <;> linarith)
      rw [fits] at lowMisses
      cases lowMisses
    · have fits := near (gridFloor num den (point - (17 : Nat)) + 1) (by
        push_cast
        rw [abs_le]
        constructor <;> linarith)
      rw [fits] at highMisses
      cases highMisses
  · rw [found]
    rfl

-- The guess for the power of ten is never too high by more than one.
theorem guess_low (log : Int) (least : -14 ≤ log) (most : log ≤ 52) :
    (10 : ℚ) ^ (log * 30103 / 100000 - 1 - 1) ≤ 2 ^ log := by
  have table : ∀ i ∈ List.range 67,
      10 ^ (((i : Int) - 14) * 30103 / 100000 + 5).toNat * 2 ^ 14 ≤ 2 ^ i * 10 ^ 7 := by decide
  obtain ⟨i, rfl⟩ : ∃ i : Nat, log = i - 14 := ⟨(log + 14).toNat, by omega⟩
  have row := table i (List.mem_range.mpr (by omega))
  obtain ⟨power, shifted⟩ : ∃ power : Nat, ((i : Int) - 14) * 30103 / 100000 + 5 = power :=
    ⟨(((i : Int) - 14) * 30103 / 100000 + 5).toNat, by omega⟩
  rw [shifted, Int.toNat_natCast] at row
  have cast : (10 : ℚ) ^ power * 2 ^ 14 ≤ 2 ^ i * 10 ^ 7 := by exact_mod_cast row
  rw [show ((i : Int) - 14) * 30103 / 100000 - 1 - 1 = (power : Int) - (7 : Nat) by omega,
    show ((i : Int) - 14) = (i : Int) - (14 : Nat) by omega, zpow_sub₀ (by norm_num), zpow_sub₀ (by norm_num),
    zpow_natCast, zpow_natCast, zpow_natCast, zpow_natCast, div_le_div_iff₀ (by positivity) (by positivity)]
  exact cast

theorem below_power (positive : 0 < den) (power : Int) :
    (scaleTen num den (-power)).1 < (scaleTen num den (-power)).2 ↔ (num : ℚ) / den < 10 ^ power := by
  have filled : (0 : ℚ) < (scaleTen num den (-power)).2 := by exact_mod_cast scale_ten_positive num den (-power) positive
  have value := scale_ten_value num den (-power) positive
  have cast : (scaleTen num den (-power)).1 < (scaleTen num den (-power)).2 ↔
      ((scaleTen num den (-power)).1 : ℚ) < (scaleTen num den (-power)).2 := Nat.cast_lt.symm
  rw [cast, ← div_lt_one filled, value, zpow_neg, ← div_eq_mul_inv, div_lt_one (by positivity)]

theorem decimal_point_low (filled : 0 < num) (positive : 0 < den) (least : 2 ^ (-14 : Int) ≤ (num : ℚ) / den)
    (most : (num : ℚ) / den < 2 ^ (53 : Int)) :
    (10 : ℚ) ^ (decimalPoint num den - 1) ≤ (num : ℚ) / den ∧ -7 ≤ decimalPoint num den := by
  have value : (0 : ℚ) < (num : ℚ) / den := by positivity
  have base : 1 < 2 := by decide
  have logLeast : -14 ≤ Int.log 2 ((num : ℚ) / den) :=
    (Int.zpow_le_iff_le_log base value).mp (by rw [Nat.cast_ofNat]; exact least)
  have logMost : Int.log 2 ((num : ℚ) / den) < 53 :=
    (Int.lt_zpow_iff_log_lt base value).mp (by rw [Nat.cast_ofNat]; exact most)
  have below := Int.zpow_log_le_self base value
  rw [← floor_log_two num den filled positive] at logLeast logMost below
  have low := guess_low _ logLeast (Int.lt_add_one_iff.mp logMost)
  have range : -5 ≤ floorLog2 num den * 30103 / 100000 := by omega
  simp only [decimalPoint, below_power num den positive]
  generalize floorLog2 num den * 30103 / 100000 = guess at low range
  by_cases first : (num : ℚ) / den < 10 ^ (guess - 1)
  · rw [if_pos (by simpa using first)]
    exact ⟨low.trans (by exact_mod_cast below), by omega⟩
  · rw [if_neg (by simpa using first)]
    by_cases second : (num : ℚ) / den < 10 ^ guess
    · rw [if_pos (by simpa using second)]
      exact ⟨not_lt.mp first, by omega⟩
    · rw [if_neg (by simpa using second)]
      by_cases third : (num : ℚ) / den < 10 ^ (guess + 1)
      · rw [if_pos (by simpa using third), Int.add_sub_cancel]
        exact ⟨not_lt.mp second, by omega⟩
      · rw [if_neg (by simpa using third), show guess + 2 - 1 = guess + 1 by omega]
        exact ⟨not_lt.mp third, by omega⟩

theorem ten_power_whole (positive : 0 < den) (power shift : Int) (coarse : shift ≤ power)
    (reaches : (10 : ℚ) ^ power ≤ (num : ℚ) / den) : (10 : ℚ) ^ power ≤ gridFloor num den shift * 10 ^ shift := by
  obtain ⟨size, rfl⟩ : ∃ size : Nat, power = shift + size := ⟨(power - shift).toNat, by omega⟩
  have unit : (0 : ℚ) < 10 ^ shift := by positivity
  have high := (grid_floor_bounds num den shift positive).2
  rw [zpow_add₀ (by norm_num), zpow_natCast, mul_comm] at reaches ⊢
  have less : ((10 ^ size : Nat) : ℚ) < gridFloor num den shift + 1 := by
    push_cast
    exact lt_of_mul_lt_mul_right (lt_of_le_of_lt reaches high) unit.le
  have atMost : (10 : ℚ) ^ size ≤ gridFloor num den shift := by
    have whole : 10 ^ size < gridFloor num den shift + 1 := by exact_mod_cast less
    exact_mod_cast Nat.le_of_lt_succ whole
  gcongr

end Grid

theorem shortest_search (num den value : Nat) (shift : Int)
    (search : ((List.range 17).findSome? fun i => onGrid? num den (decimalPoint num den) (i + 1)) = some (value, shift)) :
    shortest num den = ⟨dropZeros (natText value), (natText value).length + shift⟩ := by
  unfold shortest
  dsimp only
  generalize ((List.range 17).findSome? fun i => onGrid? num den (decimalPoint num den) (i + 1)) = result at search ⊢
  subst search
  rfl

section Candidates

-- Zero reads back as no number of full length.
theorem candidate_filled (value : Nat) (shift : Int) (mantissa : Nat) (exponent : Int) (normal : Normal mantissa exponent)
    (back : round false (scaleTen value 1 shift).1 (scaleTen value 1 shift).2 = finite false mantissa exponent) :
    value ≠ 0 := by
  rintro rfl
  have nothing : (scaleTen 0 1 shift).1 = 0 := by
    rw [scaleTen]
    by_cases down : shift < 0 <;> simp [down]
  have long := normal.long
  rw [nothing, round, if_pos rfl, finite.injEq] at back
  omega

variable (num den value : Nat) (shift : Int) (positive : 0 < den)
variable (near : value = gridFloor num den shift ∨ value = gridFloor num den shift + 1)

include positive near

theorem candidate_least (reaches : (10 : ℚ) ^ (-4 : Int) ≤ (num : ℚ) / den) (nonzero : value ≠ 0) :
    10 ^ (-4 : Int) ≤ (value : ℚ) * 10 ^ shift := by
  have unit : (0 : ℚ) < 10 ^ shift := by positivity
  by_cases coarse : shift ≤ -4
  · have atLeast : gridFloor num den shift ≤ value := by omega
    exact (ten_power_whole num den positive (-4) shift coarse reaches).trans (by gcongr)
  · have one : (1 : ℚ) ≤ value := by exact_mod_cast Nat.pos_of_ne_zero nonzero
    calc (10 : ℚ) ^ (-4 : Int) ≤ 10 ^ shift := zpow_le_zpow_right₀ (by norm_num) (by omega)
      _ ≤ value * 10 ^ shift := by nlinarith

-- The next point of the grid after a value below that power is the power at most, and it reads back as another number.
theorem candidate_most (mantissa : Nat) (exponent : Int) (fractional : exponent < 0) (fine : shift ≤ 16)
    (below : (num : ℚ) / den < 10 ^ (16 : Int))
    (back : round false (scaleTen value 1 shift).1 (scaleTen value 1 shift).2 = finite false mantissa exponent) :
    (value : ℚ) * 10 ^ shift < 10 ^ (16 : Int) := by
  have unit : (0 : ℚ) < 10 ^ shift := by positivity
  obtain ⟨low, _⟩ := grid_floor_bounds num den shift positive
  obtain ⟨size, power⟩ : ∃ size : Nat, (16 : Int) = shift + size := ⟨(16 - shift).toNat, by omega⟩
  have split : (10 : ℚ) ^ (16 : Int) = (10 ^ size : Nat) * 10 ^ shift := by
    rw [power, zpow_add₀ (by norm_num), zpow_natCast, mul_comm]
    push_cast
    rfl
  by_contra more
  rw [not_lt, split] at more
  have least : 10 ^ size ≤ value := by exact_mod_cast le_of_mul_le_mul_right more unit
  have greatest : gridFloor num den shift < 10 ^ size := by
    exact_mod_cast lt_of_mul_lt_mul_right (split ▸ lt_of_le_of_lt low below) unit.le
  have exactly : value = 10 ^ size := by omega
  have edge : Normal (5 * 10 ^ 15) 1 := ⟨by norm_num, by norm_num, by decide, by decide⟩
  have candidate := scale_ten_value value 1 shift Nat.one_pos
  rw [Nat.cast_one, div_one] at candidate
  have rounded := round_exact false _ _ _ _ (scale_ten_positive value 1 shift Nat.one_pos) edge (by
    rw [candidate, exactly, ← split, magnitude]
    norm_num)
  rw [rounded, finite.injEq] at back
  omega

end Candidates

section Search

variable (num den mantissa : Nat) (exponent : Int) (positive : 0 < den) (normal : Normal mantissa exponent)
variable (same : (num : ℚ) / den = magnitude mantissa exponent) (fractional : exponent < 0)
variable (large : 1 / 10 ^ 4 ≤ magnitude mantissa exponent)

include normal same fractional large

theorem search_range : 0 < num ∧ 2 ^ (-14 : Int) ≤ (num : ℚ) / den ∧ (num : ℚ) / den < 2 ^ (53 : Int) := by
  have unit : (2 : ℚ) ^ exponent ≤ 1 := zpow_le_one_of_nonpos₀ (by norm_num) (by omega)
  have short : (mantissa : ℚ) < 2 ^ 53 := by exact_mod_cast normal.short
  refine ⟨?_, ?_, ?_⟩
  · refine Nat.pos_of_ne_zero fun zero => ?_
    rw [← same, zero, Nat.cast_zero, zero_div] at large
    exact absurd large (by norm_num)
  · rw [same]
    exact le_trans (by norm_num) large
  · rw [same, magnitude]
    calc (mantissa : ℚ) * 2 ^ exponent ≤ mantissa * 1 := by gcongr
      _ < 2 ^ (53 : Int) := by
          rw [mul_one]
          exact_mod_cast normal.short

include positive

-- What the search gives is written without a power of ten.
theorem candidate_range (count value : Nat)
    (fits : readsBack num den value (decimalPoint num den - (count + 1 : Nat)) = true)
    (near : value = gridFloor num den (decimalPoint num den - (count + 1 : Nat)) ∨
      value = gridFloor num den (decimalPoint num den - (count + 1 : Nat)) + 1) :
    value ≠ 0 ∧ 10 ^ (-4 : Int) ≤ (value : ℚ) * 10 ^ (decimalPoint num den - (count + 1 : Nat)) ∧
      (value : ℚ) * 10 ^ (decimalPoint num den - (count + 1 : Nat)) < 10 ^ (16 : Int) := by
  obtain ⟨filled, least, most⟩ := search_range num den mantissa exponent normal same fractional large
  obtain ⟨long, _⟩ := decimal_point_low num den filled positive least most
  have bound : (2 : ℚ) ^ (53 : Int) < 10 ^ (16 : Int) := by norm_num
  have small : decimalPoint num den - 1 < 16 :=
    (zpow_lt_zpow_iff_right₀ (by norm_num)).mp (lt_of_le_of_lt long (most.trans bound))
  have back := (reads_back_iff num den value _).mp fits
  rw [round_exact false num den mantissa exponent positive normal same] at back
  have nonzero := candidate_filled value _ mantissa exponent normal back
  have reaches : (10 : ℚ) ^ (-4 : Int) ≤ (num : ℚ) / den := by
    rw [same]
    exact le_trans (by norm_num) large
  exact ⟨nonzero, candidate_least num den value _ positive near reaches nonzero,
    candidate_most num den value _ positive near mantissa exponent fractional (by omega) (most.trans bound) back⟩

theorem shortest_found : ∃ value shift,
    shortest num den = ⟨dropZeros (natText value), (natText value).length + shift⟩ ∧ value ≠ 0 ∧
      10 ^ (-4 : Int) ≤ (value : ℚ) * 10 ^ shift ∧ (value : ℚ) * 10 ^ shift < 10 ^ (16 : Int) ∧ -24 ≤ shift ∧
      round false (scaleTen value 1 shift).1 (scaleTen value 1 shift).2 = finite false mantissa exponent := by
  obtain ⟨filled, least, most⟩ := search_range num den mantissa exponent normal same fractional large
  obtain ⟨long, low⟩ := decimal_point_low num den filled positive least most
  have enough := seventeen_digits num den _ mantissa exponent positive normal same long
  cases search : (List.range 17).findSome? fun i => onGrid? num den (decimalPoint num den) (i + 1) with
  | none =>
      have missed := List.findSome?_eq_none_iff.mp search 16 (List.mem_range.mpr (by decide))
      rw [missed] at enough
      cases enough
  | some found =>
      obtain ⟨i, member, grid⟩ := List.exists_of_findSome?_eq_some search
      have few := List.mem_range.mp member
      rcases on_grid_cases num den (decimalPoint num den) (i + 1) with ⟨nothing, _⟩ | ⟨value, other, fits, near⟩
      · rw [nothing] at grid
        cases grid
      · rw [other, Option.some.injEq] at grid
        subst grid
        obtain ⟨nonzero, atLeast, below⟩ :=
          candidate_range num den mantissa exponent positive normal same fractional large i value fits near
        have back := (reads_back_iff num den value _).mp fits
        rw [round_exact false num den mantissa exponent positive normal same] at back
        refine ⟨value, decimalPoint num den - (i + 1 : Nat), ?_, nonzero, atLeast, below, ?_, back⟩
        · exact shortest_search num den value _ search
        · omega

end Search

end Double

end TaggedStory.Decimal
