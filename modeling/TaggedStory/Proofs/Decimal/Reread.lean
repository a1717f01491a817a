import TaggedStory.Proofs.Attempt
import TaggedStory.Proofs.Decimal.Amount
import TaggedStory.Proofs.Decimal.Legible
/-!
A number without a sign that was read from a text and has a whole value is written as digits, and read
from them with the same value. Rounding leaves a double as the format has it, so that a whole double is
the double of its digits.
-/
set_option autoImplicit false

namespace TaggedStory.Decimal

open Text

namespace Double

theorem nearest_even_most (num den bound : Nat) (below : num < bound * den) : nearestEven num den ≤ bound := by
  have positive : 0 < den := Nat.pos_of_ne_zero fun none => by simp [none] at below
  have less : num / den < bound := (Nat.div_lt_iff_lt_mul positive).mpr below
  simp only [nearestEven]
  split
  · exact Nat.le_of_lt less
  · split
    · exact less
    · split
      · exact Nat.le_of_lt less
      · exact less

theorem nearest_even_least (num den bound : Nat) (positive : 0 < den) (above : bound * den ≤ num) :
    bound ≤ nearestEven num den := by
  have more : bound ≤ num / den := (Nat.le_div_iff_mul_le positive).mpr above
  simp only [nearestEven]
  split
  · exact more
  · split
    · exact Nat.le_succ_of_le more
    · split
      · exact more
      · exact Nat.le_succ_of_le more

-- The mantissa before the last carry.
theorem scaled_bounds (num den : Nat) (filled : 0 < num) (positive : 0 < den) :
    let power := max (floorLog2 num den - 52) leastExponent
    nearestEven (scaleTwo num den (-power)).1 (scaleTwo num den (-power)).2 ≤ 2 ^ 53 ∧
      (power = floorLog2 num den - 52 →
        2 ^ 52 ≤ nearestEven (scaleTwo num den (-power)).1 (scaleTwo num den (-power)).2) := by
  intro power
  have size : (0 : ℚ) < (num : ℚ) / den := div_pos (by exact_mod_cast filled) (by exact_mod_cast positive)
  have low := Int.zpow_log_le_self (b := 2) (by decide) size
  have high := Int.lt_zpow_succ_log_self (b := 2) (by decide) ((num : ℚ) / den)
  rw [← floor_log_two num den filled positive, Nat.cast_ofNat] at low high
  have reach : floorLog2 num den - 52 ≤ power := Int.le_max_left _ _
  have scaled := scale_two_value num den (-power) positive
  have below : (0 : ℚ) < (scaleTwo num den (-power)).2 := by exact_mod_cast scale_two_positive num den (-power) positive
  refine ⟨nearest_even_most _ _ _ ?_, fun same => nearest_even_least _ _ _ (scale_two_positive num den _ positive) ?_⟩
  · have less : ((scaleTwo num den (-power)).1 : ℚ) / (scaleTwo num den (-power)).2 < 2 ^ 53 := by
      rw [scaled]
      calc (num : ℚ) / den * 2 ^ (-power) < 2 ^ (floorLog2 num den + 1) * 2 ^ (-power) := by gcongr
        _ = 2 ^ (floorLog2 num den + 1 - power) := by rw [← zpow_add₀ (by norm_num), sub_eq_add_neg]
        _ ≤ 2 ^ (53 : Int) := zpow_le_zpow_right₀ (by norm_num) (by omega)
        _ = 2 ^ 53 := by norm_num
    rw [div_lt_iff₀ below] at less
    exact_mod_cast less
  · have more : 2 ^ 52 ≤ ((scaleTwo num den (-power)).1 : ℚ) / (scaleTwo num den (-power)).2 := by
      rw [scaled]
      calc (2 : ℚ) ^ 52 = 2 ^ (52 : Int) := by norm_num
        _ = 2 ^ floorLog2 num den * 2 ^ (-power) := by
            rw [← zpow_add₀ (by norm_num), same]
            congr 1
            omega
        _ ≤ (num : ℚ) / den * 2 ^ (-power) := by gcongr
    rw [le_div_iff₀ below] at more
    exact_mod_cast more

theorem round_representable (negative sign : Bool) (num den mantissa : Nat) (exponent : Int) (positive : 0 < den)
    (rounded : round negative num den = finite sign mantissa exponent) : negative = sign ∧ Representable mantissa exponent := by
  rw [round] at rounded
  by_cases zero : num = 0
  · rw [if_pos zero, finite.injEq] at rounded
    obtain ⟨rfl, rfl, rfl⟩ := rounded
    exact ⟨rfl, by decide, Int.le_refl _, by decide, .inr rfl⟩
  rw [if_neg zero] at rounded
  obtain ⟨most, least⟩ := scaled_bounds num den (Nat.pos_of_ne_zero zero) positive
  have reach := Int.le_max_right (floorLog2 num den - 52) leastExponent
  have either : leastExponent < max (floorLog2 num den - 52) leastExponent →
      max (floorLog2 num den - 52) leastExponent = floorLog2 num den - 52 := by omega
  generalize max (floorLog2 num den - 52) leastExponent = power at rounded reach either most least
  simp only at rounded
  generalize nearestEven (scaleTwo num den (-power)).1 (scaleTwo num den (-power)).2 = nearest at rounded most least
  by_cases carried : nearest = 1 <<< mantissaBits
  · rw [if_pos carried] at rounded
    by_cases beyond : greatestExponent < power + 1
    · rw [if_pos beyond] at rounded
      cases rounded
    · rw [if_neg beyond, finite.injEq] at rounded
      obtain ⟨rfl, rfl, rfl⟩ := rounded
      refine ⟨rfl, show 1 <<< (mantissaBits - 1) < 2 ^ 53 by decide, Int.le_trans reach (Int.le_add_one (Int.le_refl _)),
        Int.not_lt.mp beyond, .inl ?_⟩
      exact show 2 ^ 52 ≤ 1 <<< (mantissaBits - 1) by decide
  · rw [if_neg carried] at rounded
    by_cases beyond : greatestExponent < power
    · rw [if_pos beyond] at rounded
      cases rounded
    · rw [if_neg beyond, finite.injEq] at rounded
      obtain ⟨rfl, rfl, rfl⟩ := rounded
      refine ⟨rfl, Nat.lt_of_le_of_ne most carried, reach, Int.not_lt.mp beyond, ?_⟩
      rcases Int.lt_or_eq_of_le reach with room | floor
      · exact .inl (least (either room))
      · exact .inr floor.symm

theorem decimal_representable (negative sign : Bool) (digits mantissa : Nat) (shift exponent : Int)
    (made : ofDecimal negative digits shift = finite sign mantissa exponent) :
    negative = sign ∧ Representable mantissa exponent := by
  have nothing : finite negative 0 leastExponent = finite sign mantissa exponent →
      negative = sign ∧ Representable mantissa exponent := by
    intro same
    rw [finite.injEq] at same
    obtain ⟨rfl, rfl, rfl⟩ := same
    exact ⟨rfl, by decide, Int.le_refl _, by decide, .inr rfl⟩
  simp only [ofDecimal] at made
  split at made
  · exact nothing made
  · split at made
    · cases made
    · split at made
      · exact nothing made
      · exact round_representable _ _ _ _ _ _ (scale_ten_positive digits 1 shift Nat.one_pos) made

end Double

-- A number whose double is finite is short enough to be read as a whole number.
theorem finite_short (negative : Bool) (n : Nat) (finite : (Double.ofDecimal negative n 0).isFinite = true) :
    n < 10 ^ digitLimit := by
  by_cases zero : n = 0
  · rw [zero]
    exact Nat.pow_pos (by decide)
  · have size : ¬ 400 < (n.log2 : Int) * 30103 / 100000 + 0 := by
      intro huge
      simp only [Double.ofDecimal, if_neg zero, if_pos huge] at finite
      cases finite
    have bits : n.log2 < 1400 := by omega
    have powers : ∀ bits, n.log2 < bits → bits ≤ digitLimit → n < 10 ^ digitLimit := fun bits more fits =>
      calc n < 2 ^ bits := (Nat.log2_lt zero).mp more
        _ ≤ 10 ^ bits := Nat.pow_le_pow_left (by decide) bits
        _ ≤ 10 ^ digitLimit := Nat.pow_le_pow_right (by decide) fits
    exact powers 1400 bits (by decide)

theorem reads_finite (n : Nat) (finite : (Double.ofDecimal false n 0).isFinite = true) (fallback : Number) :
    readNumber (natText n) fallback = .ok (.whole n) := by
  have read := read_number_finite n fallback (finite_short false n finite)
    (by rwa [decide_eq_false (by omega), Int.natAbs_natCast])
  rwa [int_text_nat] at read

theorem nothing_magnitude (mantissa : Nat) (exponent : Int) (nothing : (0 : ℚ) = Double.magnitude mantissa exponent) :
    mantissa = 0 := by
  rw [Double.magnitude, eq_comm, mul_eq_zero] at nothing
  rcases nothing with none | never
  · exact_mod_cast none
  · exact absurd never (by positivity)

theorem whole_double (digits : Nat) (shift value : Int) (whole : (Double.ofDecimal false digits shift).toInt? = some value) :
    ∃ n : Nat, value = n ∧ Double.ofDecimal false digits shift = Double.ofInt n ∧
      (Double.ofDecimal false n 0).isFinite = true := by
  cases made : Double.ofDecimal false digits shift with
  | nan =>
      rw [made] at whole
      cases whole
  | infinite sign =>
      rw [made] at whole
      cases whole
  | finite sign mantissa exponent =>
      obtain ⟨rfl, representable⟩ := Double.decimal_representable false sign digits mantissa shift exponent made
      rw [made] at whole
      obtain ⟨n, rfl, same⟩ := whole_magnitude mantissa exponent value whole
      refine ⟨n, rfl, ?_⟩
      cases n with
      | zero =>
          obtain rfl := nothing_magnitude mantissa exponent (by rw [← same, Nat.cast_zero])
          rcases representable.full with impossible | rfl
          · exact absurd impossible (by decide)
          · exact ⟨rfl, rfl⟩
      | succ n =>
          have large : 1 / 10 ^ 4 ≤ Double.magnitude mantissa exponent := by
            rw [← same]
            have one : (1 : ℚ) ≤ (n + 1 : Nat) := by exact_mod_cast Nat.succ_pos n
            refine le_trans ?_ one
            norm_num
          have normal := large_normal mantissa exponent representable large
          refine ⟨?_, ?_⟩
          · rw [Double.ofInt, decide_eq_false (by omega), Int.natAbs_natCast,
              whole_round mantissa exponent normal false (n + 1) same]
          · rw [whole_decimal mantissa exponent normal false (n + 1) same]
            rfl

-- An amount as tags have it, without a sign.
def isAmountSign (c : Char) : Bool :=
  isDigit c || c == '.'

section Amounts

variable (text : List Char) (signs : ∀ c ∈ text, isAmountSign c = true)

include signs

theorem amount_solid : ∀ c ∈ text, isBlank c = false := by
  intro c member
  have sign := signs c member
  rw [isAmountSign, Bool.or_eq_true, beq_iff_eq] at sign
  rcases sign with digit | rfl
  · exact any_digit_solid c digit
  · rfl

theorem amount_unsigned : takeSign text = (false, text) :=
  take_sign_none text (fun member => absurd (signs '-' member) (by decide)) fun member => absurd (signs '+' member) (by decide)

theorem amount_double (value : Double) (read : readDouble? text = some value) (finite : value.isFinite = true) :
    ∃ shift, value = Double.ofDecimal false
      (natOfDigits ((digitRun digitValue? text).1 ++ (fraction digitValue? (digitRun digitValue? text).2).1)) shift ∧
      ((digitRun digitValue? text).2 = [] → shift = 0) := by
  rw [readDouble?, trim_number_solid text (amount_solid text signs), readDecimal?, amount_unsigned text signs] at read
  simp only at read
  split at read
  · cases read
    cases finite
  · split at read
    · cases read
      cases finite
    · split at read
      · cases read
      · split at read
        · cases read
        · rename_i shift power
          cases read
          refine ⟨_, rfl, fun ended => ?_⟩
          rw [ended] at power ⊢
          cases power
          rfl

theorem amount_whole (whole : isWholeText text = true) : ∃ values, digitRun digitValue? text = (values, []) ∧
    readWhole text = if digitLimit < values.length then .error (.tooLong values.length) else .ok (natOfDigits values) := by
  simp only [isWholeText, amount_unsigned text signs, Bool.and_eq_true, Bool.not_eq_true', List.isEmpty_eq_false_iff,
    List.all_eq_true] at whole
  obtain ⟨filled, digits⟩ := whole
  refine ⟨digitValues text, digit_run_all text digits, ?_⟩
  rw [whole_read text text false (solid_tight text (amount_solid text signs)) (amount_unsigned text signs) filled digits,
    digit_values_length text digits, if_neg Bool.false_ne_true]

theorem amount_read (fallback number : Number) (read : readNumber text fallback = .ok number) :
    number = fallback ∨ (∃ n : Nat, number = .whole n ∧ (Double.ofDecimal false n 0).isFinite = true) ∨
      ∃ digits shift, number = .real (Double.ofDecimal false digits shift) ∧ isWholeText text = false := by
  have tight := trim_tight text (solid_tight text (amount_solid text signs))
  rw [readNumber] at read
  simp only [tight] at read
  cases double : readDouble? text with
  | none =>
      rw [double] at read
      exact .inl (Except.ok.inj read).symm
  | some value =>
      rw [double] at read
      cases finite : value.isFinite with
      | false =>
          simp only [finite, Bool.not_false, if_true, Except.ok.injEq] at read
          exact .inl read.symm
      | true =>
          obtain ⟨shift, made, ended⟩ := amount_double text signs value double finite
          simp only [finite, Bool.not_true, Bool.false_eq_true, if_false] at read
          by_cases whole : isWholeText text = true
          · obtain ⟨values, run, stated⟩ := amount_whole text signs whole
            rw [run] at made ended
            rw [ended rfl, show (fraction digitValue? []).1 = [] from rfl, List.append_nil] at made
            rw [if_pos whole, stated, attempt_map_ok] at read
            obtain ⟨n, counted, rfl⟩ := read
            split at counted
            · cases counted
            · cases counted
              exact .inr (.inl ⟨natOfDigits values, rfl, made ▸ finite⟩)
          · rw [if_neg whole, Except.ok.injEq] at read
            exact .inr (.inr ⟨_, shift, by rw [← read, made], Bool.not_eq_true _ ▸ whole⟩)

theorem amount_refused (fallback : Number) (fault : WholeFault) (read : readNumber text fallback = .error fault) :
    ∃ count, digitLimit < count ∧ fault = .tooLong count := by
  have tight := trim_tight text (solid_tight text (amount_solid text signs))
  rw [readNumber] at read
  simp only [tight] at read
  cases double : readDouble? text with
  | none =>
      rw [double] at read
      cases read
  | some value =>
      rw [double] at read
      simp only at read
      split at read
      · cases read
      · split at read
        · rename_i whole
          obtain ⟨values, _, stated⟩ := amount_whole text signs whole
          rw [stated] at read
          split at read
          · rename_i long
            cases read
            exact ⟨_, long, rfl⟩
          · cases read
        · cases read

-- A number with a whole value is read again from its text.
theorem amount_again (fallback number : Number) (read : readNumber text fallback = .ok number) (value : Int)
    (whole : (Number.whole value).same number = true) :
    number = fallback ∨ ∃ n : Nat, (number = .whole n ∨ number = .real (Double.ofInt n)) ∧
      (Number.whole n).same number = true ∧ number.text = String.ofList (natText n) ∧
      ∀ other, readNumber (natText n) other = .ok (.whole n) := by
  rcases amount_read text signs fallback number read with same | ⟨n, rfl, finite⟩ | ⟨digits, shift, rfl, _⟩
  · exact .inl same
  · refine .inr ⟨n, .inl rfl, by simp [Number.same], ?_, reads_finite n finite⟩
    rw [Number.text, int_text_nat]
  · simp only [Number.same, beq_iff_eq] at whole
    obtain ⟨n, rfl, stands, finite⟩ := whole_double digits shift value whole
    refine .inr ⟨n, .inr (by rw [stands]), by simp [Number.same, whole], ?_, reads_finite n finite⟩
    simp only [Number.text, whole, int_text_nat]

end Amounts

end TaggedStory.Decimal
