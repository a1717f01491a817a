import TaggedStory.Proofs.Decimal.Whole
import TaggedStory.Proofs.Tag.Brackets
/-!
Digits and decimals inside a tag: what the recognisers read in front of a sign, and what they can have
read at all.
-/
set_option autoImplicit false

namespace TaggedStory.Tag

open Text Scanner Decimal

theorem digits_calm (text : List Char) (digits : AllDigits text) : Calm text := by
  intro c member
  have digit := digits c member
  have range := digit_range c digit
  constructor
  · cases sign : isSign c with
    | false => rfl
    | true =>
        simp only [isSign, Bool.or_eq_true, beq_iff_eq, or_assoc] at sign
        rcases sign with rfl | rfl | rfl | rfl | rfl | rfl | rfl | rfl <;> exact absurd digit (by decide)
  · simp only [isWide, Bool.or_eq_false_iff, Bool.and_eq_false_iff, decide_eq_false_iff_not, beq_eq_false_iff_ne]
    omega

theorem digit_quiet (c : Char) (digit : c.isDigit = true) : isOpening c = false ∧ isWide c = false := by
  have calm := digits_calm [c] (by simpa [AllDigits] using digit) c List.mem_cons_self
  exact ⟨unsigned_unopened c calm.1, calm.2⟩

theorem int_text_quiet (value : Int) : ∀ c ∈ intText value, isOpening c = false ∧ isWide c = false := by
  intro c member
  rcases int_text_chars value c member with rfl | digit
  · decide
  · exact digit_quiet c digit

theorem run_blanks_solid (text : List Char) (solid : ∀ c ∈ text.head?, isBlank c = false) :
    StateT.run blanks text = some ((), text) := by
  cases text with
  | nil => rfl
  | cons c text => exact run_blanks c text (solid c rfl)

theorem run_digits (text : List Char) (c : Char) (rest : List Char) (nonempty : text ≠ []) (digits : AllDigits text)
    (stops : isDigit c = false) : StateT.run Tag.digits (text ++ c :: rest) = some (text, c :: rest) :=
  run_many1 isDigit text c rest nonempty (fun x member => digit_is_digit x (digits x member)) stops

def IsDecimal (text : List Char) : Prop :=
  ∃ whole part, whole ≠ [] ∧ (∀ c ∈ whole ++ part, isDigit c = true) ∧ text = whole ++ fractionText part

theorem is_decimal_lacks (text : List Char) (decimal : IsDecimal text) (sign : Char) (other : isDigit sign = false)
    (noPoint : sign ≠ '.') : sign ∉ text := by
  obtain ⟨whole, part, _, digits, rfl⟩ := decimal
  have noDigit : sign ∉ whole ++ part := by
    intro member
    rw [digits sign member] at other
    cases other
  rw [List.mem_append, not_or] at noDigit ⊢
  exact ⟨noDigit.1, fun member => (fraction_text_member part sign member).elim noPoint noDigit.2⟩

theorem decimal_succeeds (text rest value : List Char) (done : StateT.run decimal text = some (value, rest)) :
    IsDecimal value ∧ text = value ++ rest := by
  rw [decimal, bind_succeeds] at done
  obtain ⟨whole, afterWhole, first, done⟩ := done
  rw [bind_succeeds] at done
  obtain ⟨part, afterPart, second, done⟩ := done
  rw [pure_succeeds] at done
  obtain ⟨nonempty, run⟩ := many1_succeeds _ _ _ _ first
  obtain ⟨rfl, digitsWhole, _⟩ := many_succeeds _ _ _ _ run
  obtain ⟨rfl, rfl⟩ := done
  rcases (optional_succeeds _ _ _ _).mp second with ⟨found, rfl, read⟩ | ⟨rfl, rfl, _⟩
  · rw [bind_succeeds] at read
    obtain ⟨_, afterPoint, point, read⟩ := read
    rw [char_succeeds] at point
    obtain ⟨filled, runPart⟩ := many1_succeeds _ _ _ _ read
    obtain ⟨rfl, digitsPart, _⟩ := many_succeeds _ _ _ _ runPart
    refine ⟨⟨whole, found, nonempty, fun c member => ?_, by simp [fractionText, filled]⟩, by simp [point]⟩
    exact (List.mem_append.mp member).elim (digitsWhole c) (digitsPart c)
  · exact ⟨⟨whole, [], nonempty, by simpa using digitsWhole, by simp [fractionText]⟩, rfl⟩

theorem run_digits_all (text : List Char) (nonempty : text ≠ []) (all : ∀ c ∈ text, isDigit c = true) :
    StateT.run Tag.digits text = some (text, []) := by
  cases text with
  | nil => exact absurd rfl nonempty
  | cons c text =>
      obtain ⟨first, rest⟩ := List.forall_mem_cons.mp all
      refine (many1_many isDigit c text first).trans ?_
      change some ((c :: text).takeWhile isDigit, (c :: text).dropWhile isDigit) = _
      rw [List.takeWhile_eq_self_iff.mpr all, List.dropWhile_eq_nil_iff.mpr all]

-- A whole text of that form is read to its end.
theorem is_decimal_read (text : List Char) (form : IsDecimal text) : StateT.run decimal text = some (text, []) := by
  obtain ⟨whole, part, nonempty, all, rfl⟩ := form
  obtain ⟨wholeDigits, partDigits⟩ := List.forall_mem_append.mp all
  rw [fractionText]
  by_cases empty : part = []
  · rw [if_pos empty, List.append_nil]
    exact (bind_succeeds _ _ _ _ _).mpr ⟨whole, [], run_digits_all whole nonempty wholeDigits,
      (bind_succeeds _ _ _ _ _).mpr ⟨none, [], optional_refused _ _ rfl, rfl⟩⟩
  · rw [if_neg empty]
    refine (bind_succeeds _ _ _ _ _).mpr ⟨whole, '.' :: part, run_many1 isDigit whole '.' part nonempty wholeDigits (by decide), ?_⟩
    refine (bind_succeeds _ _ _ _ _).mpr ⟨some part, [], ?_, rfl⟩
    refine (optional_succeeds _ _ _ _).mpr (.inl ⟨part, rfl, ?_⟩)
    exact (bind_succeeds _ _ _ _ _).mpr ⟨(), part, rfl, run_digits_all part empty partDigits⟩

theorem run_decimal (whole part : List Char) (c : Char) (rest : List Char) (nonempty : whole ≠ [])
    (digits : AllDigits whole) (partDigits : AllDigits part) (stops : isDigit c = false) (noPoint : c ≠ '.') :
    StateT.run decimal (whole ++ (fractionText part ++ c :: rest)) = some (whole ++ fractionText part, c :: rest) := by
  rw [fractionText]
  by_cases empty : part = []
  · rw [if_pos empty, List.nil_append, List.append_nil]
    refine (bind_succeeds _ _ _ _ _).mpr ⟨whole, c :: rest, run_digits whole c rest nonempty digits stops, ?_⟩
    refine (bind_succeeds _ _ _ _ _).mpr ⟨none, c :: rest, optional_refused _ _ ?_, rfl⟩
    rw [StateT.run_bind, opens_char '.' c rest noPoint]
    rfl
  · rw [if_neg empty, List.cons_append]
    refine (bind_succeeds _ _ _ _ _).mpr
      ⟨whole, '.' :: (part ++ c :: rest), run_digits whole '.' _ nonempty digits (by decide), ?_⟩
    refine (bind_succeeds _ _ _ _ _).mpr ⟨some part, c :: rest, ?_, rfl⟩
    refine (optional_succeeds _ _ _ _).mpr (.inl ⟨part, rfl, ?_⟩)
    exact (bind_succeeds _ _ _ _ _).mpr
      ⟨(), part ++ c :: rest, rfl, run_digits part c rest empty partDigits stops⟩

theorem run_decimal_whole (whole : List Char) (c : Char) (rest : List Char) (nonempty : whole ≠ [])
    (digits : AllDigits whole) (stops : isDigit c = false) (noPoint : c ≠ '.') :
    StateT.run decimal (whole ++ c :: rest) = some (whole, c :: rest) := by
  have read := run_decimal whole [] c rest nonempty digits (by simp [AllDigits]) stops noPoint
  simpa [fractionText] using read

end TaggedStory.Tag
