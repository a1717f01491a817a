import Mathlib.Data.List.Basic
import TaggedStory.Node.Mark
import TaggedStory.Proofs.Decimal.Whole
/-!
A number that is written with no more digits than a whole number may have can always be read.
-/
set_option autoImplicit false

namespace TaggedStory.Decimal

open Text

-- How many digits of any script a text holds.
def figures (text : List Char) : Nat :=
  text.countP isDigit

-- No number of the text, however it is put together, has too many digits.
def Legible (text : List Char) : Prop :=
  figures text ≤ digitLimit

instance (text : List Char) : Decidable (Legible text) :=
  inferInstanceAs (Decidable (figures text ≤ digitLimit))

theorem figures_sublist (part text : List Char) (within : part.Sublist text) : figures part ≤ figures text :=
  within.countP_le

theorem figures_append (text next : List Char) : figures (text ++ next) = figures text + figures next :=
  List.countP_append

theorem legible_sublist (part text : List Char) (within : part.Sublist text) (legible : Legible text) : Legible part :=
  Nat.le_trans (figures_sublist part text within) legible

theorem trim_sublist (text : List Char) : (trim text).Sublist text :=
  (trim_inside text).sublist

theorem any_digit_solid (c : Char) (digit : isDigit c = true) : isBlank c = false := by
  obtain ⟨value, found⟩ := Option.isSome_iff_exists.mp digit
  obtain ⟨base, hit, _⟩ := Option.map_eq_some_iff.mp found
  have bounds := List.find?_some hit
  simp only [Bool.and_eq_true, decide_eq_true_eq] at bounds
  have each : ∀ base ∈ zeros, 0x2f < base ∧ (base + 10 ≤ 0x85 ∨ 0xa0 < base) ∧ (base + 10 ≤ 0x1680 ∨ 0x1680 < base) ∧
      (base + 10 ≤ 0x2000 ∨ 0x3000 < base) := by decide
  obtain ⟨low, first, second, third⟩ := each base (List.mem_of_find?_eq_some hit)
  simp only [isBlank, Bool.or_eq_false_iff, Bool.and_eq_false_iff, decide_eq_false_iff_not, beq_eq_false_iff_ne]
  omega

theorem line_no_digit (c : Char) (digit : isDigit c = true) : c ≠ '_' := by
  rintro rfl
  exact absurd digit (by decide)

-- The values of the digits of a text.
def digitValues (text : List Char) : List Nat :=
  text.filterMap digitValue?

-- Without low lines the digits at the front are read as they stand.
theorem more_digits_unlined (text : List Char) (unlined : '_' ∉ text) :
    moreDigits digitValue? text = (digitValues (text.takeWhile isDigit), text.dropWhile isDigit) := by
  induction text with
  | nil => rfl
  | cons c text ih =>
      rw [List.mem_cons, not_or] at unlined
      have other : c ≠ '_' := Ne.symm unlined.1
      cases found : digitValue? c with
      | some value =>
          have digit : isDigit c = true := by rw [isDigit, found]; rfl
          rw [moreDigits, found, ih unlined.2, List.takeWhile_cons_of_pos digit, List.dropWhile_cons_of_pos digit,
            digitValues, digitValues, List.filterMap_cons_some found]
          exact fun _ _ same => absurd same other
      | none =>
          have stops : ¬isDigit c = true := by rw [isDigit, found]; decide
          rw [moreDigits, found, List.takeWhile_cons_of_neg stops, List.dropWhile_cons_of_neg stops]
          · rfl
          · exact fun _ _ same => absurd same other

theorem digit_run_unlined (text : List Char) (unlined : '_' ∉ text) :
    digitRun digitValue? text = (digitValues (text.takeWhile isDigit), text.dropWhile isDigit) := by
  rw [← more_digits_unlined text unlined, digitRun]
  rintro rest rfl
  exact unlined List.mem_cons_self

theorem digit_values_length (text : List Char) (digits : ∀ c ∈ text, isDigit c = true) :
    (digitValues text).length = text.length :=
  List.filterMap_length_eq_length.mpr digits

theorem digit_run_all (text : List Char) (digits : ∀ c ∈ text, isDigit c = true) :
    digitRun digitValue? text = (digitValues text, []) := by
  have unlined : '_' ∉ text := fun member => line_no_digit '_' (digits '_' member) rfl
  rw [digit_run_unlined text unlined, List.takeWhile_eq_self_iff.mpr digits, List.dropWhile_eq_nil_iff.mpr digits]

-- A sign at most and digits after it are a number, unless the digits are too many.
theorem whole_read (text body : List Char) (negative : Bool) (tight : Tight text) (signed : takeSign text = (negative, body))
    (filled : body ≠ []) (digits : ∀ c ∈ body, isDigit c = true) :
    readWhole text = if digitLimit < body.length then .error (.tooLong body.length)
      else .ok (if negative then -(natOfDigits (digitValues body) : Int) else natOfDigits (digitValues body)) := by
  have length := digit_values_length body digits
  rw [readWhole, trim_number_tight text tight, signed, ← length]
  simp only [digit_run_all body digits]
  cases values : digitValues body with
  | nil =>
      rw [values] at length
      exact absurd (List.length_eq_zero_iff.mp length.symm) filled
  | cons value more => rfl

theorem take_sign_split (text : List Char) : ∃ sign, text = sign ++ (takeSign text).2 ∧ ∀ c ∈ sign, isBlank c = false := by
  unfold takeSign
  split
  · exact ⟨['-'], rfl, by decide⟩
  · exact ⟨['+'], rfl, by decide⟩
  · exact ⟨[], rfl, by simp⟩

theorem whole_legible (text : List Char) (whole : isWholeText text = true) (legible : Legible text) :
    ∃ value, readWhole text = .ok value := by
  obtain ⟨sign, shape, solidSign⟩ := take_sign_split text
  cases split : takeSign text with
  | mk negative body =>
      rw [split] at shape
      simp only [isWholeText, split, Bool.and_eq_true, Bool.not_eq_true', List.isEmpty_eq_false_iff,
        List.all_eq_true] at whole
      obtain ⟨filled, digits⟩ := whole
      have solid : ∀ c ∈ text, isBlank c = false := by
        intro c member
        rw [shape, List.mem_append] at member
        exact member.elim (solidSign c) fun inside => any_digit_solid c (digits c inside)
      have short : ¬digitLimit < body.length := by
        have within : figures body ≤ figures text := figures_sublist body text (shape ▸ List.sublist_append_right sign body)
        have all : figures body = body.length := List.countP_eq_length.mpr digits
        rw [Legible] at legible
        omega
      rw [whole_read text body negative (solid_tight text solid) split filled digits, if_neg short]
      exact ⟨_, rfl⟩

theorem number_legible (text : List Char) (fallback : Number) (legible : Legible text) :
    ∃ value, readNumber text fallback = .ok value := by
  have inner := legible_sublist _ _ (trim_sublist text) legible
  rw [readNumber]
  cases readDouble? (trim text) with
  | none => exact ⟨fallback, rfl⟩
  | some value =>
      by_cases infinite : (!value.isFinite) = true
      · exact ⟨fallback, by simp only [infinite, if_true]⟩
      · by_cases whole : isWholeText (trim text) = true
        · obtain ⟨number, read⟩ := whole_legible (trim text) whole inner
          exact ⟨.whole number, by simp only [infinite, whole, read]; rfl⟩
        · exact ⟨.real value, by simp only [infinite, whole]; rfl⟩

-- Digits of a number that is not too large, but too many of them for a whole number.
theorem number_illegible (text : List Char) (fallback : Number) (digits : AllDigits text) (long : digitLimit < text.length)
    (finite : (Double.ofDecimal false (natOfDigits (text.map digitOf)) 0).isFinite = true) :
    readNumber text fallback = .error (.tooLong text.length) := by
  have nonempty : text ≠ [] := by
    rintro rfl
    cases long
  have solid : ∀ c ∈ text, isBlank c = false := fun c member => digit_solid c (digits c member)
  have tight : trim text = text := trim_tight _ (solid_tight _ solid)
  have unsigned : takeSign text = (false, text) := take_sign_digits text digits
  have decimal := read_decimal_digits text text text [] false unsigned (List.append_nil _).symm nonempty digits
    (by simp [AllDigits])
  have double : readDouble? text = some (Double.ofDecimal false (natOfDigits (text.map digitOf)) 0) := by
    rw [readDouble?, trim_number_solid _ solid, decimal, List.append_nil]
    rfl
  have whole : isWholeText text = true := by
    rw [isWholeText, unsigned]
    simp only [Bool.and_eq_true, Bool.not_eq_true', List.isEmpty_eq_false_iff, List.all_eq_true]
    exact ⟨nonempty, fun c member => digit_is_digit c (digits c member)⟩
  have refused : readWhole text = .error (.tooLong text.length) := by
    rw [whole_read text text false (solid_tight _ solid) unsigned nonempty fun c member => digit_is_digit c (digits c member),
      if_pos long]
  rw [readNumber]
  simp only [tight, double, finite, Bool.not_true, Bool.false_eq_true, if_false, whole, if_true, refused, Except.map]

end TaggedStory.Decimal

namespace TaggedStory.Mark

open Decimal

theorem number_from_legible (text : List Char) (fallback : Number) (legible : Legible text) :
    ∃ value, numberFrom text fallback = .ok value := by
  obtain ⟨value, read⟩ := number_legible text fallback legible
  exact ⟨value, by rw [numberFrom, read]⟩

theorem whole_from_legible (text : List Char) (legible : Legible text) : ∃ value, wholeFrom text = .ok value := by
  obtain ⟨value, read⟩ := number_from_legible text (.whole 0) legible
  exact ⟨value.truncated, by rw [wholeFrom, read]; rfl⟩

theorem whole_from_illegible (text : List Char) (digits : AllDigits text) (long : digitLimit < text.length)
    (finite : (Double.ofDecimal false (natOfDigits (text.map digitOf)) 0).isFinite = true) :
    wholeFrom text = .error (.unreadableWhole (.str (String.ofList text)) (.tooLong text.length)) := by
  rw [wholeFrom, numberFrom, number_illegible text _ digits long finite]
  rfl

end TaggedStory.Mark
