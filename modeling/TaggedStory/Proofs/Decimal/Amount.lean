import Mathlib.Data.List.TakeWhile
import Mathlib.Data.Nat.Cast.Field
import TaggedStory.Proofs.Decimal.Shortest
/-!
Amounts that survive their own text: the shortest digits of a double in either layout without a power
of ten, and a double with a whole value as the whole number.
-/
set_option autoImplicit false

namespace TaggedStory.Decimal

open Text

section Layout

theorem drop_zeros_split (digits : List Char) :
    ∃ zeros, digits = Double.dropZeros digits ++ List.replicate zeros '0' := by
  refine ⟨(digits.reverse.takeWhile (· == '0')).length, ?_⟩
  have zeros : digits.reverse.takeWhile (· == '0') = List.replicate (digits.reverse.takeWhile (· == '0')).length '0' :=
    List.eq_replicate_of_mem fun c member => by simpa using List.mem_takeWhile_imp member
  have split := List.takeWhile_append_dropWhile (p := (· == '0')) (l := digits.reverse)
  rw [zeros] at split
  rw [Double.dropZeros]
  have back := congrArg List.reverse split
  rw [List.reverse_append, List.reverse_replicate, List.reverse_reverse] at back
  exact back.symm

theorem nat_text_length (value : Nat) (nonzero : value ≠ 0) :
    10 ^ ((natText value).length - 1) ≤ value ∧ value < 10 ^ (natText value).length := by
  have positive : 0 < (natText value).length := List.length_pos_of_ne_nil (nat_text_nonempty value)
  constructor
  · by_cases one : (natText value).length - 1 = 0
    · rw [one]
      exact Nat.pos_of_ne_zero nonzero
    · by_contra less
      have short := (Nat.length_toDigits_le_iff (by decide) (Nat.pos_of_ne_zero one)).mpr (not_le.mp less)
      rw [natText] at short positive
      omega
  · exact (Nat.length_toDigits_le_iff (by decide) positive).mp (Nat.le_refl _)

theorem point_range (value : Nat) (shift : Int) (nonzero : value ≠ 0)
    (least : 10 ^ (-4 : Int) ≤ (value : ℚ) * 10 ^ shift) (most : (value : ℚ) * 10 ^ shift < 10 ^ (16 : Int)) :
    -3 ≤ (natText value).length + shift ∧ (natText value).length + shift ≤ 16 := by
  obtain ⟨low, high⟩ := nat_text_length value nonzero
  have positive : 0 < (natText value).length := List.length_pos_of_ne_nil (nat_text_nonempty value)
  have unit : (0 : ℚ) < 10 ^ shift := by positivity
  constructor
  · have less : (10 : ℚ) ^ (-4 : Int) < 10 ^ ((natText value).length + shift) := by
      rw [zpow_add₀ (by norm_num), zpow_natCast]
      refine lt_of_le_of_lt least ?_
      gcongr
      exact_mod_cast high
    have powers := (zpow_lt_zpow_iff_right₀ (by norm_num)).mp less
    omega
  · have less : (10 : ℚ) ^ (((natText value).length - 1 : Nat) + shift) < 10 ^ (16 : Int) := by
      rw [zpow_add₀ (by norm_num), zpow_natCast]
      refine lt_of_le_of_lt ?_ most
      gcongr
      exact_mod_cast low
    have powers := (zpow_lt_zpow_iff_right₀ (by norm_num)).mp less
    omega

def digitsValue (text : List Char) : Nat :=
  Nat.ofDigitChars 10 text 0

theorem digits_value_append (text next : List Char) :
    digitsValue (text ++ next) = digitsValue text * 10 ^ next.length + digitsValue next := by
  rw [digitsValue, Nat.ofDigitChars_append, Nat.ofDigitChars_eq_ofDigitChars_zero, Nat.mul_comm]
  rfl

theorem digits_value_zeros (count : Nat) : digitsValue (List.replicate count '0') = 0 := by
  rw [digitsValue, Nat.ofDigitChars_replicate_zero, Nat.mul_zero]

theorem all_digits_append (text next : List Char) (first : AllDigits text) (second : AllDigits next) :
    AllDigits (text ++ next) :=
  fun c member => (List.mem_append.mp member).elim (first c) (second c)

theorem all_digits_zeros (count : Nat) : AllDigits (List.replicate count '0') := by
  intro c member
  rw [List.eq_of_mem_replicate member]
  decide

-- A whole part, a point and a fraction.
structure PointText (text whole part : List Char) : Prop where
  shape : text = whole ++ '.' :: part
  wholeFilled : whole ≠ []
  partFilled : part ≠ []
  wholeDigits : AllDigits whole
  partDigits : AllDigits part

def pointValue (whole part : List Char) : ℚ :=
  digitsValue (whole ++ part) * 10 ^ (-(part.length : Int))

theorem plain_text_small (digits : List Char) (point : Int) (filled : digits ≠ []) (all : AllDigits digits) (least : -3 ≤ point)
    (small : point ≤ 0) : ∃ whole part, PointText ((Digits.mk digits point).text plainLayout) whole part ∧
      pointValue whole part = digitsValue digits * 10 ^ (point - digits.length) ∧
      (part.length : Int) = digits.length - point := by
  obtain ⟨size, rfl⟩ : ∃ size : Nat, point = -size := ⟨point.natAbs, by omega⟩
  have zeros : digitsValue (['0'] ++ (List.replicate size '0' ++ digits)) = digitsValue digits := by
    rw [← List.append_assoc, digits_value_append, ← List.replicate_one, List.replicate_append_replicate,
      digits_value_zeros, Nat.zero_mul, Nat.zero_add]
  refine ⟨['0'], List.replicate size '0' ++ digits, ⟨?_, by simp, by simp [filled], by simp [AllDigits],
    all_digits_append _ _ (all_digits_zeros _) all⟩, ?_, ?_⟩
  · have layout : plainLayout.leastPoint ≤ -(size : Int) ∧ -(size : Int) ≤ plainLayout.greatestPoint :=
      ⟨least, by simp only [plainLayout]; omega⟩
    simp only [Digits.text, if_pos layout, if_pos small, Int.natAbs_neg, Int.natAbs_natCast]
    rfl
  · rw [pointValue, zeros, List.length_append, List.length_replicate]
    congr 2
    omega
  · rw [List.length_append, List.length_replicate]
    omega

theorem plain_text_large (digits : List Char) (point : Nat) (filled : digits ≠ []) (all : AllDigits digits)
    (some : 0 < point) (most : point ≤ 16) : ∃ whole part, PointText ((Digits.mk digits point).text plainLayout) whole part ∧
      pointValue whole part = digitsValue digits * 10 ^ (point - digits.length : Int) ∧
      (part.length : Int) = max 1 (digits.length - point) := by
  have layout : plainLayout.leastPoint ≤ (point : Int) ∧ (point : Int) ≤ plainLayout.greatestPoint := by
    simp only [plainLayout]
    omega
  have large : ¬ (point : Int) ≤ 0 := by omega
  simp only [Digits.text, if_pos layout, if_neg large, Int.natAbs_natCast]
  by_cases short : digits.length ≤ point
  · obtain ⟨zeros, rfl⟩ : ∃ zeros, point = digits.length + zeros := ⟨point - digits.length, by omega⟩
    rw [if_pos short, Nat.add_sub_cancel_left]
    refine ⟨digits ++ List.replicate zeros '0', ['0'], ⟨by simp, by simp [filled], by simp,
      all_digits_append _ _ all (all_digits_zeros _), by simp [AllDigits]⟩, ?_, ?_⟩
    · have one : digitsValue ['0'] = 0 := rfl
      rw [pointValue, digits_value_append, digits_value_append, digits_value_zeros, one, List.length_replicate,
        show ((digits.length + zeros : Nat) : Int) - digits.length = zeros by omega, zpow_natCast]
      push_cast
      norm_num
      ring
    · rw [List.length_singleton]
      omega
  · rw [if_neg short]
    refine ⟨digits.take point, digits.drop point, ⟨rfl, ?_, ?_, fun c member => all c (List.mem_of_mem_take member),
      fun c member => all c (List.mem_of_mem_drop member)⟩, ?_, ?_⟩
    · rw [Ne, List.take_eq_nil_iff, not_or]
      exact ⟨by omega, filled⟩
    · rw [Ne, List.drop_eq_nil_iff]
      omega
    · rw [pointValue, List.take_append_drop, List.length_drop]
      congr 2
      omega
    · rw [List.length_drop]
      omega

end Layout

section Reading

variable (text whole part : List Char) (shape : PointText text whole part)

include shape

theorem point_text_chars (c : Char) (member : c ∈ text) : c.isDigit = true ∨ c = '.' := by
  rw [shape.shape, List.mem_append, List.mem_cons] at member
  rcases member with front | point | back
  · exact .inl (shape.wholeDigits c front)
  · exact .inr point
  · exact .inl (shape.partDigits c back)

theorem point_text_solid : ∀ c ∈ text, isBlank c = false := by
  intro c member
  rcases point_text_chars text whole part shape c member with digit | rfl
  · exact digit_solid c digit
  · decide

theorem point_text_unsigned : takeSign text = (false, text) :=
  take_sign_none text (fun member => absurd (point_text_chars text whole part shape '-' member) (by decide))
    fun member => absurd (point_text_chars text whole part shape '+' member) (by decide)

theorem point_text_real : isWholeText text = false := by
  rw [isWholeText, point_text_unsigned text whole part shape, shape.shape]
  simp only [Bool.and_eq_false_iff, List.all_eq_false]
  exact .inr ⟨'.', by simp, by decide⟩

theorem read_point_text (fallback : Number) (mantissa : Nat) (exponent : Int)
    (value : Double.ofDecimal false (digitsValue (whole ++ part)) (-part.length) = .finite false mantissa exponent) :
    readNumber text fallback = .ok (.real (.finite false mantissa exponent)) := by
  have solid := point_text_solid text whole part shape
  have fraction : text = whole ++ fractionText part := by rw [fractionText, if_neg shape.partFilled, shape.shape]
  have decimal := read_decimal_digits text text whole part false (point_text_unsigned text whole part shape) fraction
    shape.wholeFilled shape.wholeDigits shape.partDigits
  rw [nat_of_digits_text, show Nat.ofDigitChars 10 (whole ++ part) 0 = digitsValue (whole ++ part) from rfl, value] at decimal
  have double : readDouble? text = some (.finite false mantissa exponent) := by
    rw [readDouble?, trim_number_solid _ solid, decimal]
  rw [readNumber, trim_tight _ (solid_tight _ solid)]
  simp only [double, Double.isFinite, Bool.not_true, Bool.false_eq_true, if_false, point_text_real text whole part shape]

end Reading

section Amounts

theorem of_decimal_round (negative : Bool) (digits : Nat) (shift : Int) (nonzero : digits ≠ 0)
    (most : (digits.log2 : Int) * 30103 / 100000 + shift ≤ 400) (least : -400 ≤ (digits.log2 : Int) * 30103 / 100000 + shift) :
    Double.ofDecimal negative digits shift =
      Double.round negative (Double.scaleTen digits 1 shift).1 (Double.scaleTen digits 1 shift).2 := by
  simp only [Double.ofDecimal, if_neg nonzero, if_neg (not_lt.mpr most), if_neg (not_lt.mpr least)]

variable (mantissa : Nat) (exponent : Int) (normal : Double.Normal mantissa exponent)

include normal

theorem magnitude_bound : Double.magnitude mantissa exponent < 2 ^ 1024 := by
  have short : (mantissa : ℚ) < 2 ^ 53 := by exact_mod_cast normal.short
  have power : (2 : ℚ) ^ exponent ≤ 2 ^ (971 : Int) := zpow_le_zpow_right₀ (by norm_num) normal.greatest
  calc (mantissa : ℚ) * 2 ^ exponent < 2 ^ 53 * 2 ^ exponent := by gcongr
    _ ≤ 2 ^ 53 * 2 ^ (971 : Int) := by gcongr
    _ = 2 ^ 1024 := by
        rw [← zpow_natCast, ← zpow_natCast, ← zpow_add₀ (by norm_num)]
        norm_num

theorem whole_round (negative : Bool) (value : Nat) (same : (value : ℚ) = Double.magnitude mantissa exponent) :
    Double.round negative value 1 = .finite negative mantissa exponent := by
  refine Double.round_exact negative value 1 mantissa exponent Nat.one_pos normal ?_
  rw [Nat.cast_one, div_one, same]

theorem whole_bound (value : Nat) (same : (value : ℚ) = Double.magnitude mantissa exponent) (bits : Nat)
    (enough : 1024 ≤ bits) : value < 2 ^ bits := by
  have cast : (value : ℚ) < 2 ^ bits := by
    rw [same]
    exact (magnitude_bound mantissa exponent normal).trans_le (pow_le_pow_right₀ (by norm_num) enough)
  exact_mod_cast cast

theorem whole_decimal (negative : Bool) (value : Nat) (same : (value : ℚ) = Double.magnitude mantissa exponent) :
    Double.ofDecimal negative value 0 = .finite negative mantissa exponent := by
  have positive : (0 : ℚ) < value := by
    rw [same]
    exact Double.magnitude_positive _ _ (Nat.lt_of_lt_of_le (Nat.two_pow_pos 52) normal.long)
  have nonzero : value ≠ 0 := by
    rintro rfl
    exact absurd positive (by norm_num)
  have logs : ∀ bits, 1024 ≤ bits → value.log2 < bits := fun bits enough =>
    (Nat.log2_lt nonzero).mpr (whole_bound mantissa exponent normal value same bits enough)
  have log := logs 1024 (Nat.le_refl 1024)
  have scaled : Double.scaleTen value 1 0 = (value, 1) := by simp [Double.scaleTen]
  rw [of_decimal_round negative value 0 nonzero (by omega) (by omega), scaled, whole_round mantissa exponent normal negative value same]

theorem whole_amount (value : Nat) (same : (value : ℚ) = Double.magnitude mantissa exponent) :
    readNumber (natText value) (.whole 0) = .ok (.whole value) ∧
      (Number.whole value).toDouble = .finite false mantissa exponent ∧
      (Number.whole value).neg.toDouble = .finite true mantissa exponent := by
  have positive : (0 : ℚ) < value := by
    rw [same]
    exact Double.magnitude_positive _ _ (Nat.lt_of_lt_of_le (Nat.two_pow_pos 52) normal.long)
  have filled : 0 < value := by exact_mod_cast positive
  have fits : ∀ size, 1024 ≤ size → value < 10 ^ size := fun size enough =>
    Nat.lt_of_lt_of_le (whole_bound mantissa exponent normal value same size enough) (Nat.pow_le_pow_left (by decide) size)
  refine ⟨?_, ?_, ?_⟩
  · rw [← int_text_nat]
    refine read_number_finite value (.whole 0) (fits digitLimit (by decide)) ?_
    rw [decide_eq_false (by omega), Int.natAbs_natCast, whole_decimal mantissa exponent normal false value same]
    rfl
  · rw [Number.toDouble, Double.ofInt, decide_eq_false (by omega), Int.natAbs_natCast,
      whole_round mantissa exponent normal false value same]
  · rw [Number.neg, Number.toDouble, Double.ofInt, decide_eq_true (by omega), Int.natAbs_neg, Int.natAbs_natCast,
      whole_round mantissa exponent normal true value same]

omit normal in
-- Both layouts say the value, and no more digits after the point than the search tried.
theorem plain_text (value : Nat) (shift : Int) (nonzero : value ≠ 0) (few : -24 ≤ shift)
    (least : 10 ^ (-4 : Int) ≤ (value : ℚ) * 10 ^ shift) (most : (value : ℚ) * 10 ^ shift < 10 ^ (16 : Int)) :
    ∃ whole part, PointText
        ((Digits.mk (Double.dropZeros (natText value)) ((natText value).length + shift)).text plainLayout) whole part ∧
      pointValue whole part = value * 10 ^ shift ∧ part.length ≤ 24 := by
  obtain ⟨zeros, split⟩ := drop_zeros_split (natText value)
  obtain ⟨low, high⟩ := point_range value shift nonzero least most
  have all : AllDigits (Double.dropZeros (natText value)) := by
    intro c member
    exact nat_text_digits value c (by rw [split]; exact List.mem_append_left _ member)
  have total : digitsValue (Double.dropZeros (natText value)) * 10 ^ zeros = value := by
    have whole := digits_value_append (Double.dropZeros (natText value)) (List.replicate zeros '0')
    rw [← split, digits_value_zeros, List.length_replicate, Nat.add_zero] at whole
    rw [← whole, digitsValue, ← nat_of_digits_text, nat_text_value]
  have filled : Double.dropZeros (natText value) ≠ [] := by
    intro empty
    rw [empty] at total
    exact nonzero (by rw [← total]; exact Nat.zero_mul _)
  have length : ((natText value).length : Int) = (Double.dropZeros (natText value)).length + zeros := by
    have lengths := congrArg List.length split
    rw [List.length_append, List.length_replicate] at lengths
    omega
  have same : (digitsValue (Double.dropZeros (natText value)) : ℚ) *
      10 ^ ((natText value).length + shift - (Double.dropZeros (natText value)).length) = value * 10 ^ shift := by
    rw [length, show ((Double.dropZeros (natText value)).length : Int) + zeros + shift -
      (Double.dropZeros (natText value)).length = zeros + shift by omega, zpow_add₀ (by norm_num), zpow_natCast, ← mul_assoc]
    congr 1
    exact_mod_cast total
  generalize Double.dropZeros (natText value) = digits at *
  by_cases small : (natText value).length + shift ≤ 0
  · obtain ⟨whole, part, shape, stated, count⟩ := plain_text_small digits _ filled all low small
    exact ⟨whole, part, shape, stated.trans same, by omega⟩
  · obtain ⟨point, place⟩ : ∃ point : Nat, (natText value).length + shift = point :=
      ⟨((natText value).length + shift).toNat, by omega⟩
    rw [place] at same ⊢
    obtain ⟨whole, part, shape, stated, count⟩ := plain_text_large digits point filled all (by omega) (by omega)
    exact ⟨whole, part, shape, stated.trans same, by omega⟩

theorem fractional_amount (fractional : exponent < 0) (large : 1 / 10 ^ 4 ≤ Double.magnitude mantissa exponent) :
    ∃ whole part, PointText ((Double.shortest (Double.quotient mantissa exponent).1
        (Double.quotient mantissa exponent).2).text plainLayout) whole part ∧
      readNumber (whole ++ '.' :: part) (.whole 0) = .ok (.real (.finite false mantissa exponent)) := by
  obtain ⟨value, shift, found, nonzero, least, most, few, back⟩ :=
    Double.shortest_found _ _ mantissa exponent (Double.quotient_positive mantissa exponent) normal
      (Double.quotient_value mantissa exponent) fractional large
  obtain ⟨whole, part, shape, stated, short⟩ := plain_text value shift nonzero few least most
  rw [← found] at shape
  refine ⟨whole, part, shape, ?_⟩
  rw [← shape.shape]
  refine read_point_text _ whole part shape _ mantissa exponent ?_
  have positive : (0 : ℚ) < value * 10 ^ shift := lt_of_lt_of_le (by positivity) least
  have filled : digitsValue (whole ++ part) ≠ 0 := by
    intro zero
    rw [← stated, pointValue, zero, Nat.cast_zero, zero_mul] at positive
    exact lt_irrefl _ positive
  have log : (digitsValue (whole ++ part)).log2 < 133 := by
    refine (Nat.log2_lt filled).mpr ?_
    have less : (digitsValue (whole ++ part) : ℚ) < 2 ^ 133 := by
      rw [← stated, pointValue, zpow_neg, ← div_eq_mul_inv, div_lt_iff₀ (by positivity), ← zpow_add₀ (by norm_num)] at most
      refine most.trans_le ?_
      calc (10 : ℚ) ^ (16 + (part.length : Int)) ≤ 10 ^ (40 : Int) := zpow_le_zpow_right₀ (by norm_num) (by omega)
        _ ≤ 2 ^ 133 := by norm_num
    exact_mod_cast less
  rw [of_decimal_round false _ _ filled (by omega) (by omega), ← back]
  refine Double.round_value false _ _ _ _ (Double.scale_ten_positive _ _ _ Nat.one_pos)
    (Double.scale_ten_positive _ _ _ Nat.one_pos) ?_
  rw [Double.scale_ten_value _ _ _ Nat.one_pos, Double.scale_ten_value _ _ _ Nat.one_pos, Nat.cast_one, div_one, div_one,
    ← stated, pointValue]

end Amounts

-- A finite double as the format has it; only very small ones are short of digits.
structure Double.Representable (mantissa : Nat) (exponent : Int) : Prop where
  short : mantissa < 2 ^ 53
  least : leastExponent ≤ exponent
  greatest : exponent ≤ greatestExponent
  full : 2 ^ 52 ≤ mantissa ∨ exponent = leastExponent

theorem large_normal (mantissa : Nat) (exponent : Int) (representable : Double.Representable mantissa exponent)
    (large : 1 / 10 ^ 4 ≤ Double.magnitude mantissa exponent) : Double.Normal mantissa exponent := by
  obtain ⟨short, least, greatest, long | rfl⟩ := representable
  · exact ⟨long, short, least, greatest⟩
  · exfalso
    have bound : (mantissa : ℚ) < 2 ^ 53 := by exact_mod_cast short
    have tiny : (2 : ℚ) ^ Double.leastExponent ≤ 2 ^ (-67 : Int) := zpow_le_zpow_right₀ (by norm_num) (by decide)
    rw [Double.magnitude] at large
    have less : (mantissa : ℚ) * 2 ^ Double.leastExponent < 2 ^ 53 * 2 ^ (-67 : Int) := by
      refine lt_of_lt_of_le (mul_lt_mul_of_pos_right bound (by positivity)) ?_
      gcongr
    norm_num at less
    linarith

theorem whole_magnitude (mantissa : Nat) (exponent value : Int)
    (whole : (Double.finite false mantissa exponent).toInt? = some value) :
    ∃ n : Nat, value = n ∧ (n : ℚ) = Double.magnitude mantissa exponent := by
  simp only [Double.toInt?] at whole
  by_cases divides : (Double.quotient mantissa exponent).1 % (Double.quotient mantissa exponent).2 = 0
  · rw [if_pos divides, Option.some.injEq] at whole
    have positive := Double.quotient_positive mantissa exponent
    have nonzero : ((Double.quotient mantissa exponent).2 : ℚ) ≠ 0 := by positivity
    refine ⟨_, whole.symm, ?_⟩
    rw [Nat.cast_div (Nat.dvd_of_mod_eq_zero divides) nonzero, Double.quotient_value]
  · rw [if_neg divides] at whole
    cases whole

theorem not_whole_negative (mantissa : Nat) (exponent : Int)
    (fraction : (Double.finite false mantissa exponent).toInt? = none) : exponent < 0 := by
  by_contra up
  simp only [Double.toInt?, Double.quotient, Double.scaleTwo, if_neg up, Nat.mod_one, if_true] at fraction
  cases fraction

-- A finite double whose text has no power of ten; such doubles are large enough to be normal.
inductive PlainAmount : Double → Prop where
  | finite (negative : Bool) (mantissa : Nat) (exponent : Int) (representable : Double.Representable mantissa exponent)
      (large : 1 / 10 ^ 4 ≤ Double.magnitude mantissa exponent) : PlainAmount (.finite negative mantissa exponent)

theorem large_nonzero (mantissa : Nat) (exponent : Int) (large : 1 / 10 ^ 4 ≤ Double.magnitude mantissa exponent) :
    mantissa ≠ 0 := by
  rintro rfl
  rw [Double.magnitude, Nat.cast_zero, zero_mul] at large
  norm_num at large

structure ReadAmount (text : List Char) (mantissa : Nat) (exponent : Int) (amount : Number) : Prop where
  read : readNumber text (.whole 0) = .ok amount
  rises : amount.toDouble = .finite false mantissa exponent
  falls : amount.neg.toDouble = .finite true mantissa exponent

-- The text of an amount has no power of ten, and the amount is read from it with either sign.
theorem amount_text (mantissa : Nat) (exponent : Int) (representable : Double.Representable mantissa exponent)
    (large : 1 / 10 ^ 4 ≤ Double.magnitude mantissa exponent) :
    ∃ whole part amount, whole ≠ [] ∧ AllDigits whole ∧ AllDigits part ∧
      (Number.real (.finite false mantissa exponent)).text.toList = whole ++ fractionText part ∧
      ReadAmount (whole ++ fractionText part) mantissa exponent amount := by
  have normal := large_normal mantissa exponent representable large
  rw [Number.text]
  cases whole : (Double.finite false mantissa exponent).toInt? with
  | some value =>
      obtain ⟨n, rfl, same⟩ := whole_magnitude mantissa exponent value whole
      obtain ⟨read, rises, falls⟩ := whole_amount mantissa exponent normal n same
      refine ⟨natText n, [], .whole n, nat_text_nonempty n, nat_text_digits n, by simp [AllDigits], ?_, ?_⟩
      · simp only
        rw [int_text_nat, String.toList_ofList, fractionText, if_pos rfl, List.append_nil]
      · rw [fractionText, if_pos rfl, List.append_nil]
        exact ⟨read, rises, falls⟩
  | none =>
      obtain ⟨digits, part, shape, read⟩ :=
        fractional_amount mantissa exponent normal (not_whole_negative mantissa exponent whole) large
      have written : digits ++ fractionText part = digits ++ '.' :: part := by rw [fractionText, if_neg shape.partFilled]
      refine ⟨digits, part, .real (.finite false mantissa exponent), shape.wholeFilled, shape.wholeDigits, shape.partDigits,
        ?_, ?_⟩
      · simp only [Double.text, if_neg (large_nonzero mantissa exponent large), Bool.false_eq_true, if_false, List.nil_append, String.toList_ofList]
        rw [written, ← shape.shape]
      · rw [written]
        exact ⟨read, rfl, rfl⟩

end TaggedStory.Decimal
