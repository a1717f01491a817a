import Mathlib.Algebra.Group.Nat.Defs
import TaggedStory.Decimal.Number
import TaggedStory.Proofs.Text.Plain
/-!
Whole numbers that survive their own text: the digits that are written are read again, and a number
of a few hundred digits is finite.
-/
set_option autoImplicit false

namespace TaggedStory.Decimal

open Text

def AllDigits (text : List Char) : Prop :=
  ∀ c ∈ text, c.isDigit = true

def digitOf (c : Char) : Nat :=
  c.toNat - '0'.toNat

section Digits

theorem digit_range (c : Char) (digit : c.isDigit = true) : 48 ≤ c.toNat ∧ c.toNat ≤ 57 := by
  simpa [Char.isDigit, UInt32.le_iff_toNat_le] using digit

theorem digit_value (c : Char) (digit : c.isDigit = true) : digitValue? c = some (digitOf c) := by
  have range := digit_range c digit
  have ascii : zeros = 48 :: zeros.tail := rfl
  rw [digitValue?, ascii, List.find?_cons_of_pos]
  · rfl
  · rw [Bool.and_eq_true, decide_eq_true_eq, decide_eq_true_eq]
    omega

theorem digit_is_digit (c : Char) (digit : c.isDigit = true) : isDigit c = true := by
  rw [isDigit, digit_value c digit]
  rfl

theorem digit_solid (c : Char) (digit : c.isDigit = true) : isBlank c = false := by
  have range := digit_range c digit
  simp only [isBlank, Bool.or_eq_false_iff, Bool.and_eq_false_iff, decide_eq_false_iff_not, beq_eq_false_iff_ne]
  omega

theorem digit_other (c d : Char) (digit : c.isDigit = true) (other : d.isDigit = false) : c ≠ d := by
  rintro rfl
  rw [digit] at other
  cases other

theorem nat_of_digits_text (text : List Char) : natOfDigits (text.map digitOf) = Nat.ofDigitChars 10 text 0 := by
  rw [natOfDigits, List.foldl_map, Nat.ofDigitChars_eq_foldl]
  rfl

-- The digits in front of anything that neither is a digit nor joins two of them.
theorem more_digits_read (text rest : List Char) (digits : AllDigits text)
    (stops : ∀ c ∈ rest.head?, digitValue? c = none ∧ c ≠ '_') :
    moreDigits digitValue? (text ++ rest) = (text.map digitOf, rest) := by
  induction text with
  | nil =>
      cases rest with
      | nil => rfl
      | cons c rest =>
          obtain ⟨noDigit, noLine⟩ := stops c rfl
          rw [List.nil_append, moreDigits, noDigit]
          · rfl
          · exact fun _ _ same => absurd same noLine
  | cons c text ih =>
      have later := ih fun d member => digits d (List.mem_cons_of_mem c member)
      have digit := digits c List.mem_cons_self
      rw [List.cons_append, moreDigits, digit_value c digit, later]
      · rfl
      · exact fun _ _ same => absurd same (digit_other c '_' digit (by decide))

theorem digit_run_read (text rest : List Char) (nonempty : text ≠ []) (digits : AllDigits text)
    (stops : ∀ c ∈ rest.head?, digitValue? c = none ∧ c ≠ '_') :
    digitRun digitValue? (text ++ rest) = (text.map digitOf, rest) := by
  rw [← more_digits_read text rest digits stops]
  obtain ⟨c, later, rfl⟩ := List.exists_cons_of_ne_nil nonempty
  have other := digit_other c '_' (digits c List.mem_cons_self) (by decide)
  rw [List.cons_append, digitRun]
  intro after same
  rw [List.cons.injEq] at same
  exact other same.1

end Digits

section Writing

theorem nat_text_digits (n : Nat) : AllDigits (natText n) :=
  fun _ member => Nat.isDigit_of_mem_toDigits (by decide) (by decide) member

theorem nat_text_nonempty (n : Nat) : natText n ≠ [] :=
  Nat.toDigits_ne_nil

theorem nat_text_value (n : Nat) : natOfDigits ((natText n).map digitOf) = n := by
  rw [nat_of_digits_text, natText, Nat.ofDigitChars_ten_toDigits]

theorem nat_text_injective (n other : Nat) (same : natText n = natText other) : n = other := by
  have values := congrArg (fun text => natOfDigits (text.map digitOf)) same
  simpa only [nat_text_value] using values

-- A sign and the magnitude, as it is written.
theorem int_text_shape (value : Int) :
    ∃ lead, intText value = lead ++ natText value.natAbs ∧ (lead = ['-'] ∧ value < 0 ∨ lead = [] ∧ 0 ≤ value) := by
  rw [intText]
  by_cases negative : value < 0
  · exact ⟨['-'], by rw [if_pos negative]; rfl, .inl ⟨rfl, negative⟩⟩
  · exact ⟨[], by rw [if_neg negative]; rfl, .inr ⟨rfl, by omega⟩⟩

theorem int_text_nat (n : Nat) : intText n = natText n := by
  rw [intText, if_neg (by omega), Int.natAbs_natCast]

theorem int_text_nonempty (value : Int) : intText value ≠ [] := by
  obtain ⟨lead, shape, _⟩ := int_text_shape value
  rw [shape]
  exact List.append_ne_nil_of_right_ne_nil lead (nat_text_nonempty _)

theorem int_text_chars (value : Int) : ∀ c ∈ intText value, c = '-' ∨ c.isDigit = true := by
  obtain ⟨lead, shape, sign⟩ := int_text_shape value
  rw [shape]
  intro c member
  rcases List.mem_append.mp member with member | member
  · rcases sign with ⟨rfl, _⟩ | ⟨rfl, _⟩
    · exact .inl (List.mem_singleton.mp member)
    · cases member
  · exact .inr (nat_text_digits _ c member)

theorem int_text_solid (value : Int) : ∀ c ∈ intText value, isBlank c = false := by
  intro c member
  rcases int_text_chars value c member with rfl | digit
  · decide
  · exact digit_solid c digit

theorem solid_tight (text : List Char) (solid : ∀ c ∈ text, isBlank c = false) : Tight text :=
  ⟨fun c head => solid c (List.mem_of_mem_head? head), fun c last => solid c (List.mem_of_getLast? last)⟩

theorem trim_number_tight (text : List Char) (tight : Tight text) : trimNumber text = text := by
  have fewer : ∀ c, isBlank c = false → isNumberBlank c = false := by
    intro c solid
    rw [isNumberBlank, solid, Bool.false_and]
  exact (strip_fixed isNumberBlank text).mpr
    ⟨fun c first => fewer c (tight.1 c first), fun c last => fewer c (tight.2 c last)⟩

theorem trim_number_solid (text : List Char) (solid : ∀ c ∈ text, isBlank c = false) : trimNumber text = text :=
  trim_number_tight text (solid_tight text solid)

theorem take_sign_none (text : List Char) (minus : '-' ∉ text) (plus : '+' ∉ text) : takeSign text = (false, text) := by
  rw [takeSign]
  · rintro rest rfl
    exact minus List.mem_cons_self
  · rintro rest rfl
    exact plus List.mem_cons_self

theorem all_digits_lack (text : List Char) (digits : AllDigits text) (c : Char) (other : c.isDigit = false) : c ∉ text :=
  fun member => digit_other c c (digits c member) other rfl

theorem take_sign_digits (text : List Char) (digits : AllDigits text) : takeSign text = (false, text) :=
  take_sign_none text (all_digits_lack text digits '-' (by decide)) (all_digits_lack text digits '+' (by decide))

theorem take_sign_int (value : Int) : takeSign (intText value) = (decide (value < 0), natText value.natAbs) := by
  obtain ⟨lead, shape, ⟨rfl, negative⟩ | ⟨rfl, positive⟩⟩ := int_text_shape value
  · rw [shape, decide_eq_true negative]
    rfl
  · rw [shape, List.nil_append, take_sign_digits _ (nat_text_digits _), decide_eq_false (by omega)]

end Writing

section Reading

theorem digit_run_whole (n : Nat) : digitRun digitValue? (natText n) = ((natText n).map digitOf, []) := by
  have read := digit_run_read (natText n) [] (nat_text_nonempty n) (nat_text_digits n) (by simp)
  rwa [List.append_nil] at read

theorem read_whole_int (value : Int) (short : value.natAbs < 10 ^ digitLimit) : readWhole (intText value) = .ok value := by
  have length : ((natText value.natAbs).map digitOf).length ≤ digitLimit := by
    rw [List.length_map, natText, Nat.length_toDigits_le_iff (by decide) (by decide)]
    exact short
  rw [readWhole, trim_number_solid _ (int_text_solid value), take_sign_int]
  simp only [digit_run_whole]
  cases digits : (natText value.natAbs).map digitOf with
  | nil => exact absurd (List.map_eq_nil_iff.mp digits) (nat_text_nonempty _)
  | cons d later =>
      simp only
      rw [← digits, if_neg (by omega), nat_text_value]
      congr 1
      by_cases negative : value < 0
      · rw [decide_eq_true negative, if_pos rfl]
        omega
      · rw [decide_eq_false negative, if_neg Bool.false_ne_true]
        omega

theorem is_whole_int (value : Int) : isWholeText (intText value) = true := by
  rw [isWholeText, take_sign_int]
  simp only [Bool.and_eq_true, Bool.not_eq_true', List.isEmpty_eq_false_iff, List.all_eq_true]
  exact ⟨nat_text_nonempty _, fun c member => digit_is_digit c (nat_text_digits _ c member)⟩

theorem digit_lower (c : Char) (digit : c.isDigit = true) : c.toLower = c := by
  have range := digit_range c digit
  refine dif_neg fun upper => ?_
  have low : 65 ≤ c.toNat := UInt32.le_iff_toNat_le.mp upper.1
  omega

theorem digits_unnamed (text rest : List Char) (nonempty : text ≠ []) (digits : AllDigits text) (name : String)
    (letter : ∀ c ∈ name.toList.head?, c.isDigit = false) : lowerAscii (text ++ rest) ≠ name.toList := by
  obtain ⟨c, later, rfl⟩ := List.exists_cons_of_ne_nil nonempty
  have digit := digits c List.mem_cons_self
  intro same
  rw [List.cons_append, lowerAscii, List.map_cons, digit_lower c digit] at same
  have other := letter c (by rw [← same]; rfl)
  rw [digit] at other
  cases other

def fractionText (part : List Char) : List Char :=
  if part = [] then [] else '.' :: part

theorem fraction_text_member (part : List Char) (c : Char) (member : c ∈ fractionText part) : c = '.' ∨ c ∈ part := by
  rw [fractionText] at member
  by_cases empty : part = []
  · rw [if_pos empty] at member
    cases member
  · rwa [if_neg empty, List.mem_cons] at member

theorem fraction_read (part : List Char) (digits : AllDigits part) :
    fraction digitValue? (fractionText part) = (part.map digitOf, []) := by
  rw [fractionText]
  by_cases empty : part = []
  · rw [empty]
    rfl
  · have read := digit_run_read part [] empty digits (by simp)
    rw [List.append_nil] at read
    rw [if_neg empty, fraction, read]

-- A sign, digits, and a fraction at most.
theorem read_decimal_digits (text body whole part : List Char) (negative : Bool) (signed : takeSign text = (negative, body))
    (shape : body = whole ++ fractionText part) (nonempty : whole ≠ []) (digits : AllDigits whole)
    (partDigits : AllDigits part) :
    readDecimal? digitValue? text =
      some (Double.ofDecimal negative (natOfDigits ((whole ++ part).map digitOf)) (-part.length)) := by
  have stops : ∀ c ∈ (fractionText part).head?, digitValue? c = none ∧ c ≠ '_' := by
    rw [fractionText]
    by_cases empty : part = []
    · simp [empty]
    · rw [if_neg empty]
      rintro c ⟨rfl⟩
      decide
  have run := digit_run_read whole _ nonempty digits stops
  have noInf := digits_unnamed whole (fractionText part) nonempty digits "inf" (by decide)
  have noInfinity := digits_unnamed whole (fractionText part) nonempty digits "infinity" (by decide)
  have noNan := digits_unnamed whole (fractionText part) nonempty digits "nan" (by decide)
  have filled : (whole.map digitOf).isEmpty = false := by simpa using nonempty
  rw [readDecimal?, signed, shape]
  simp only [noInf, noInfinity, noNan, or_self, if_false, run, fraction_read part partDigits, filled, Bool.false_eq_true,
    false_and, power?, List.map_append, List.length_map, Int.zero_sub]

theorem two_digits_small (n exponent : Nat) (few : n < 10 ^ 2) (more : 2 ≤ exponent) : n < 10 ^ exponent :=
  Nat.lt_of_lt_of_le few (Nat.pow_le_pow_right (by decide) more)

theorem thousands_short (n k : Nat) (nonzero : n ≠ 0) (short : n ≤ 10 ^ (3 * (k + 1))) : n.log2 < 10 * (k + 1) := by
  have bound : 10 ^ (3 * (k + 1)) < 2 ^ (10 * (k + 1)) := by
    rw [pow_mul, pow_mul]
    exact Nat.pow_lt_pow_left (by decide) (Nat.succ_ne_zero k)
  exact (Nat.log2_lt nonzero).mpr (Nat.lt_of_le_of_lt short bound)

theorem log_two_bound (n : Nat) (short : n ≤ 10 ^ 300) : n.log2 < 1000 := by
  by_cases zero : n = 0
  · rw [zero]
    decide
  · rw [show 300 = 3 * (99 + 1) from rfl] at short
    exact thousands_short n 99 zero short

theorem floor_log_whole (n : Nat) : Double.floorLog2 n 1 ≤ n.log2 := by
  rw [Double.floorLog2, show Nat.log2 1 = 0 from rfl]
  simp only
  split <;> omega

theorem whole_finite (negative : Bool) (n : Nat) (short : n ≤ 10 ^ 300) :
    (Double.ofDecimal negative n 0).isFinite = true := by
  have log := log_two_bound n short
  rw [Double.ofDecimal]
  by_cases zero : n = 0
  · rw [if_pos zero]
    rfl
  · have notHuge : ¬ 400 < (n.log2 : Int) * 30103 / 100000 + 0 := by omega
    have notTiny : ¬ (n.log2 : Int) * 30103 / 100000 + 0 < -400 := by omega
    simp only [if_neg zero, if_neg notHuge, if_neg notTiny]
    have scaled : Double.scaleTen n 1 0 = (n, 1) := by simp [Double.scaleTen]
    have exponent : max (Double.floorLog2 n 1 - 52) Double.leastExponent ≤ 948 := by
      have floor := floor_log_whole n
      rw [Double.leastExponent]
      omega
    rw [scaled, Double.round, if_neg zero]
    generalize max (Double.floorLog2 n 1 - 52) Double.leastExponent = power at exponent
    simp only [Double.greatestExponent]
    by_cases carried : Double.nearestEven (Double.scaleTwo n 1 (-power)).1 (Double.scaleTwo n 1 (-power)).2 =
        1 <<< Double.mantissaBits
    · rw [if_pos carried, if_neg (by omega)]
      rfl
    · rw [if_neg carried, if_neg (by omega)]
      rfl

theorem read_number_finite (value : Int) (fallback : Number) (fits : value.natAbs < 10 ^ digitLimit)
    (finite : (Double.ofDecimal (decide (value < 0)) value.natAbs 0).isFinite = true) :
    readNumber (intText value) fallback = .ok (.whole value) := by
  have tight : trim (intText value) = intText value := trim_tight _ (solid_tight _ (int_text_solid value))
  have decimal := read_decimal_digits (intText value) _ (natText value.natAbs) [] _ (take_sign_int value)
    (List.append_nil _).symm (nat_text_nonempty _) (nat_text_digits _) (by simp [AllDigits])
  have double : readDouble? (intText value) = some (Double.ofDecimal (decide (value < 0)) value.natAbs 0) := by
    rw [readDouble?, trim_number_solid _ (int_text_solid value), decimal, List.append_nil, nat_text_value]
    rfl
  rw [readNumber]
  simp only [tight, double, finite, Bool.not_true, Bool.false_eq_true, if_false, is_whole_int, if_true,
    read_whole_int value fits, Except.map]

theorem read_number_int (value : Int) (fallback : Number) (short : value.natAbs ≤ 10 ^ 300) :
    readNumber (intText value) fallback = .ok (.whole value) := by
  refine read_number_finite value fallback ?_ (whole_finite _ _ short)
  have powers : ∀ exponent < digitLimit, 10 ^ exponent < 10 ^ digitLimit := fun _ less =>
    Nat.pow_lt_pow_right (by decide) less
  exact Nat.lt_of_le_of_lt short (powers 300 (by decide))

end Reading

end TaggedStory.Decimal
