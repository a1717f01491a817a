import TaggedStory.Proofs.Decimal.Amount
import TaggedStory.Proofs.Node.Limits
import TaggedStory.Proofs.Tag.Decimals
/-!
Changes by the second: their tags survive their own text, and neither a condition nor an effect is
taken for one, although an operator of a condition may open a tag that a later one closes.
-/
set_option autoImplicit false

namespace TaggedStory.Video

open Text Scanner Tag Decimal

structure WritableRate (rate : Rate) : Prop where
  name : Plain rate.name
  nameSigns : ∀ c ∈ ['+', '-'], c ∉ rate.name.toList
  noLimit : StateT.run defaultLimit rate.name.toList = none
  amount : PlainAmount rate.perSecond

def ratePiece (rate : Rate) : List Char :=
  (rateTag rate).toList

section Writing

theorem zero_lt_finite (negative : Bool) (mantissa : Nat) (exponent : Int) (nonzero : mantissa ≠ 0) :
    Double.zero.lt (.finite negative mantissa exponent) = !negative := by
  have scaled : ∀ shift : Nat, 0 < mantissa <<< shift := fun shift => by
    rw [Nat.shiftLeft_eq]
    exact Nat.mul_pos (Nat.pos_of_ne_zero nonzero) (Nat.two_pow_pos shift)
  simp only [Double.lt, Double.zero, Double.aligned, Nat.zero_shiftLeft, Double.signed]
  have positive := scaled (exponent - min Double.leastExponent exponent).natAbs
  cases negative with
  | false =>
      simp only [Bool.false_eq_true, if_false, Bool.not_false, decide_eq_true_eq]
      omega
  | true =>
      simp only [if_true, Bool.false_eq_true, if_false, Bool.not_true, decide_eq_false_iff_not]
      omega

def changeSign (negative : Bool) : Char :=
  if negative then '-' else '+'

-- A rate is written as a name, a blank, a sign and a decimal that gives the rate back.
structure WrittenRate (rate : Rate) (negative : Bool) (whole part : List Char) (amount : Number) : Prop where
  shape : ratePiece rate =
    '<' :: (rate.name.toList ++ ' ' :: changeSign negative :: (whole ++ (fractionText part ++ "/s>".toList)))
  filled : whole ≠ []
  digits : AllDigits whole
  partDigits : AllDigits part
  read : readNumber (whole ++ fractionText part) (.whole 0) = .ok amount
  value : (if negative then amount.neg else amount).toDouble = rate.perSecond

theorem rate_written (rate : Rate) (writable : WritableRate rate) :
    ∃ negative whole part amount, WrittenRate rate negative whole part amount := by
  obtain ⟨name, perSecond⟩ := rate
  obtain ⟨plain, _, _, amount⟩ := writable
  simp only at plain amount
  cases amount with
  | finite negative mantissa exponent representable large =>
      have nonzero := large_nonzero mantissa exponent large
      obtain ⟨whole, part, amount, filled, digits, partDigits, text, reads⟩ :=
        amount_text mantissa exponent representable large
      have notZero : (Double.finite negative mantissa exponent).isZero = false := by
        cases mantissa with
        | zero => exact absurd rfl nonzero
        | succ n => rfl
      refine ⟨negative, whole, part, amount, ?_, filled, digits, partDigits, reads.read, ?_⟩
      · have named : (decide (name = "") || (Double.finite negative mantissa exponent).isZero) = false := by
          rw [notZero, Bool.or_false, decide_eq_false_iff_not]
          exact plain.nonempty
        have sign : (if Double.zero.lt (.finite negative mantissa exponent) = true then "+" else "-").toList =
            [changeSign negative] := by
          rw [zero_lt_finite negative mantissa exponent nonzero]
          cases negative <;> rfl
        rw [ratePiece, rateTag]
        simp only [named, Bool.false_eq_true, if_false, Double.abs, String.toList_append, sign, text, List.append_assoc]
        rfl
      · cases negative with
        | false => exact reads.rises
        | true => exact reads.falls

end Writing

section Reading

variable (rate : Rate) (writable : WritableRate rate)

include writable

theorem name_rates : ∀ c ∈ rate.name.toList ++ [' '], isRateName c = true := by
  intro c member
  rw [List.mem_append, List.mem_singleton] at member
  rcases member with member | rfl
  · have lacking : ∀ sign ∈ ['<', '>', '+', '-'], c ≠ sign := by
      intro sign known same
      rw [same] at member
      simp only [List.mem_cons, List.not_mem_nil, or_false] at known
      rcases known with rfl | rfl | rfl | rfl
      · exact writable.name.absent '<' (by decide) member
      · exact writable.name.absent '>' (by decide) member
      · exact writable.nameSigns '+' (by decide) member
      · exact writable.nameSigns '-' (by decide) member
    simp [isRateName, lacking]
  · decide

theorem reads_rate (negative : Bool) (whole part : List Char) (amount : Number)
    (written : WrittenRate rate negative whole part amount) :
    Reads Video.rate (ratePiece rate) ⟨rate.name.toList ++ [' '], negative, whole ++ fractionText part⟩ := by
  intro rest
  have named := run_many1 isRateName (rate.name.toList ++ [' ']) (changeSign negative)
    (whole ++ (fractionText part ++ '/' :: ("s>".toList ++ rest))) (by simp) (name_rates rate writable)
    (by cases negative <;> decide)
  have signed : ∀ text, StateT.run (one fun c => c == '+' || c == '-') (changeSign negative :: text) =
      some (changeSign negative, text) := fun text => by cases negative <;> rfl
  have number := run_decimal whole part '/' ("s>".toList ++ rest) written.filled written.digits written.partDigits
    (by decide) (by decide)
  have unspaced := run_blanks_solid (whole ++ (fractionText part ++ '/' :: ("s>".toList ++ rest))) (by
    intro c head
    obtain ⟨d, later, front⟩ := List.exists_cons_of_ne_nil written.filled
    rw [front, List.cons_append, List.head?_cons, Option.mem_some] at head
    exact digit_solid c (written.digits c (by simp [front, head])))
  have falls : (changeSign negative == '-') = negative := by cases negative <;> rfl
  rw [List.append_assoc, List.singleton_append] at named
  have shape : ratePiece rate ++ rest = '<' :: (rate.name.toList ++ ' ' :: changeSign negative ::
      (whole ++ (fractionText part ++ '/' :: ("s>".toList ++ rest)))) := by
    rw [written.shape]
    simp
  rw [shape]
  refine (bind_succeeds _ _ _ _ _).mpr ⟨(), _, rfl, ?_⟩
  refine (bind_succeeds _ _ _ _ _).mpr ⟨_, _, named, ?_⟩
  refine (bind_succeeds _ _ _ _ _).mpr ⟨_, _, signed _, ?_⟩
  refine (bind_succeeds _ _ _ _ _).mpr ⟨(), _, unspaced, ?_⟩
  refine (bind_succeeds _ _ _ _ _).mpr ⟨_, _, number, ?_⟩
  refine (bind_succeeds _ _ _ _ _).mpr ⟨(), _, rfl, ?_⟩
  refine (bind_succeeds _ _ _ _ _).mpr ⟨(), _, rfl, ?_⟩
  refine (bind_succeeds _ _ _ _ _).mpr ⟨(), _, rfl, ?_⟩
  refine (bind_succeeds _ _ _ _ _).mpr ⟨(), _, rfl, ?_⟩
  refine (bind_succeeds _ _ _ _ _).mpr ⟨(), _, rfl, ?_⟩
  refine (bind_succeeds _ _ _ _ _).mpr ⟨(), _, rfl, ?_⟩
  rw [falls]
  rfl

-- The blank after the name cannot stand in front of a colon.
theorem rate_refuses_limit (negative : Bool) (rest : List Char) :
    StateT.run defaultLimit (rate.name.toList ++ ' ' :: changeSign negative :: rest) = none := by
  have spaced : StateT.run defaultLimit (rate.name.toList ++ [' ']) = none := by
    cases done : StateT.run defaultLimit (rate.name.toList ++ [' ']) with
    | none => rfl
    | some pair =>
        obtain ⟨value, after⟩ := pair
        obtain ⟨gap, isMax, blank, sign, shape, gapBlank, blankBlank, isColon⟩ := (default_limit_shape _ _).mp done
        rcases List.eq_nil_or_concat after with rfl | ⟨later, last, rfl⟩
        · have ends := congrArg List.getLast? shape
          simp only [List.getLast?_append, List.getLast?_singleton, Option.some_or, Option.some.injEq] at ends
          rw [← ends] at isColon
          exact absurd isColon (by decide)
        · have short : rate.name.toList = gap ++ ((limitWordText isMax).toList ++ (blank ++ sign :: later)) := by
            have fronts := congrArg List.dropLast shape
            simpa only [List.dropLast_concat, List.concat_eq_append, ← List.append_assoc, ← List.cons_append] using fronts
          have started := (default_limit_shape _ _).mpr ⟨gap, isMax, blank, sign, short, gapBlank, blankBlank, isColon⟩
          rw [writable.noLimit] at started
          cases started
  have longer := default_limit_longer _ rest (changeSign negative) (by cases negative <;> decide)
    (by cases negative <;> decide) spaced
  simpa using longer

theorem rate_shape (negative : Bool) (whole part : List Char) (amount : Number)
    (written : WrittenRate rate negative whole part amount) : ∃ body, ratePiece rate = '<' :: (body ++ ['>']) ∧
      Calm body ∧ ∀ rest, StateT.run limit ('<' :: (body ++ rest)) = none := by
  refine ⟨rate.name.toList ++ ' ' :: changeSign negative :: (whole ++ (fractionText part ++ "/s".toList)), ?_, ?_, ?_⟩
  · rw [written.shape]
    simp
  · have sign : isSign (changeSign negative) = false ∧ isWide (changeSign negative) = false := by
      cases negative <;> decide
    have fraction : Calm (fractionText part) := by
      intro c member
      rcases fraction_text_member part c member with rfl | digit
      · decide
      · exact digits_calm part written.partDigits c digit
    exact writable.name.calm.append (.cons (by decide) (.cons sign
      ((digits_calm whole written.digits).append (fraction.append (by decide)))))
  · intro rest
    refine limit_refused _ ?_
    have refused := rate_refuses_limit rate writable negative (whole ++ (fractionText part ++ "/s".toList) ++ rest)
    simpa using refused

theorem rate_piece_tame : Tame ['[', '《'] (ratePiece rate) := by
  obtain ⟨negative, whole, part, amount, written⟩ := rate_written rate writable
  obtain ⟨body, shape, calm, _⟩ := rate_shape rate writable negative whole part amount written
  rw [shape]
  exact Tame.angled (by decide) body calm

theorem limit_skips_rate : Skips limit (ratePiece rate) := by
  obtain ⟨negative, whole, part, amount, written⟩ := rate_written rate writable
  obtain ⟨body, shape, calm, refused⟩ := rate_shape rate writable negative whole part amount written
  have single : '<' ∉ body ++ ['>'] := by
    rw [List.mem_append, List.mem_singleton, not_or]
    exact ⟨calm.absent '<' (by decide), by decide⟩
  rw [shape]
  intro rest
  have first := refused ('>' :: rest)
  exact ⟨by simpa using first, misses_unopened limit '<' opens_limit _ rest single⟩

end Reading

section Others

def EndsPerSecond (body : List Char) : Prop :=
  ∃ front gap blank, body = front ++ '/' :: (gap ++ 's' :: blank) ∧ (∀ c ∈ gap, isBlank c = true) ∧
    ∀ c ∈ blank, isBlank c = true

theorem ends_per_second (body : List Char) (ends : EndsPerSecond body) : endsPerSecond body = true := by
  obtain ⟨front, gap, blank, rfl, gapBlank, blankBlank⟩ := ends
  have right : trimRight (front ++ '/' :: (gap ++ 's' :: blank)) = front ++ '/' :: (gap ++ ['s']) := by
    have turned : (front ++ '/' :: (gap ++ 's' :: blank)).reverse = blank.reverse ++ (front ++ '/' :: (gap ++ ['s'])).reverse := by
      simp
    have blanks : ∀ c ∈ blank.reverse, isBlank c = true := fun c member => blankBlank c (List.mem_reverse.mp member)
    rw [trimRight, turned, List.dropWhile_append_of_pos blanks, (drop_blanks_unchanged _).mpr, List.reverse_reverse]
    simp
    decide
  have gaps : ∀ c ∈ gap.reverse, isBlank c = true := fun c member => gapBlank c (List.mem_reverse.mp member)
  have turned : (front ++ '/' :: (gap ++ ['s'])).reverse = 's' :: (gap.reverse ++ '/' :: front.reverse) := by simp
  rw [endsPerSecond, right, turned]
  simp only [List.dropWhile_append_of_pos gaps]
  rfl

theorem rate_encloses : Encloses rate '<' '>' fun body => '<' ∉ body ∧ EndsPerSecond body := by
  intro text rest value done
  rw [rate] at done
  obtain ⟨_, first, done⟩ := char_then done
  obtain ⟨name, _, nameShape, _, named, done⟩ := many1_then done
  obtain ⟨sign, _, signShape, signed, done⟩ := one_then done
  obtain ⟨gap, _, gapShape, gapBlank, done⟩ := blanks_then done
  obtain ⟨amount, _, fifth, done⟩ := (bind_succeeds _ _ _ _ _).mp done
  obtain ⟨decimal, amountShape⟩ := decimal_succeeds _ _ _ fifth
  obtain ⟨space, _, spaceShape, spaceBlank, done⟩ := blanks_then done
  obtain ⟨_, strokeShape, done⟩ := char_then done
  obtain ⟨pause, _, pauseShape, pauseBlank, done⟩ := blanks_then done
  obtain ⟨_, letterShape, done⟩ := char_then done
  obtain ⟨ending, _, endingShape, endingBlank, done⟩ := blanks_then done
  obtain ⟨_, angleShape, done⟩ := char_then done
  rw [pure_succeeds] at done
  obtain ⟨_, same⟩ := done
  have lacks : ∀ angle ∈ ['<', '>'], angle ∉ name ++ sign :: (gap ++ (amount ++ (space ++ '/' :: (pause ++ 's' :: ending)))) := by
    intro angle known
    have facts : isBlank angle = false ∧ isRateName angle = false ∧ isDigit angle = false ∧ angle ≠ '.' ∧ angle ≠ '/' ∧
        angle ≠ 's' ∧ (angle == '+' || angle == '-') = false := by
      rw [List.mem_cons, List.mem_singleton] at known
      rcases known with rfl | rfl <;> decide
    obtain ⟨solid, noName, noDigit, noPoint, noStroke, noLetter, noSign⟩ := facts
    have blankless : ∀ gap : List Char, (∀ c ∈ gap, isBlank c = true) → angle ∉ gap := by
      intro gap blank member
      rw [blank angle member] at solid
      cases solid
    simp only [List.mem_append, List.mem_cons, not_or]
    refine ⟨fun member => ?_, fun isSign => ?_, blankless gap gapBlank, is_decimal_lacks amount decimal angle noDigit noPoint,
      blankless space spaceBlank, noStroke, blankless pause pauseBlank, noLetter, blankless ending endingBlank⟩
    · rw [named angle member] at noName
      cases noName
    · rw [isSign, signed] at noSign
      cases noSign
  refine ⟨name ++ sign :: (gap ++ (amount ++ (space ++ '/' :: (pause ++ 's' :: ending)))), ?_, lacks '>' (by decide),
    lacks '<' (by decide), name ++ sign :: (gap ++ (amount ++ space)), pause, ending, by simp, pauseBlank, endingBlank⟩
  rw [first, nameShape, signShape, gapShape, amountShape, spaceShape, strokeShape, pauseShape, letterShape, endingShape,
    angleShape, same]
  simp

theorem opens_rate : Opens rate '<' :=
  opens_bind _ _ '<' (opens_char '<')

theorem rate_skips_effect (effect : Effect) (safe : SafeEffect effect) : Skips rate (effectPiece effect) := by
  have single : '<' ∉ effectBody effect ++ ['>'] := by
    rw [List.mem_append, List.mem_singleton, not_or]
    exact ⟨safe.body_lacks '<' (by decide), by decide⟩
  have refuses : Refuses rate (effectPiece effect) := by
    refine encloses_refuses rate '<' '>' _ rate_encloses _ (safe.body_lacks '>' (by decide)) ?_
    rintro ⟨_, ends⟩
    have never := safe.no_rate (effectLead effect)
    rw [← effectBody, ends_per_second _ ends] at never
    cases never
  exact fun rest => ⟨refuses rest, misses_unopened rate '<' opens_rate _ rest single⟩

theorem closing_beyond (closing : Char) (lead rest body after : List Char) (absent : closing ∉ lead)
    (same : lead ++ rest = body ++ closing :: after) : ∃ later, body = lead ++ later ∧ rest = later ++ closing :: after := by
  rcases List.append_eq_append_iff.mp same with ⟨later, front, tail⟩ | ⟨later, front, tail⟩
  · exact ⟨later, front, tail⟩
  · cases later with
    | nil => exact ⟨[], by simpa using front.symm, tail.symm⟩
    | cons c later =>
        rw [List.cons_append, List.cons.injEq] at tail
        refine absurd ?_ absent
        rw [front, tail.1]
        exact List.mem_append_right body List.mem_cons_self

-- The first angle sign of a text, if it closes a tag, is the operator of a condition.
def ClosesAfterName (text : List Char) : Prop :=
  ∀ body after, text = body ++ '>' :: after → '<' ∉ body → '>' ∉ body →
    ∃ front name, body = front ++ '《' :: name ∧ '/' ∉ name

theorem no_rate_after_name (front name : List Char) (noStroke : '/' ∉ name) : ¬ EndsPerSecond (front ++ '《' :: name) := by
  rintro ⟨other, gap, blank, same, gapBlank, blankBlank⟩
  rcases List.append_eq_append_iff.mp same with ⟨later, _, tail⟩ | ⟨later, _, tail⟩
  · have member : '/' ∈ '《' :: name := by
      rw [tail]
      simp
    rw [List.mem_cons] at member
    exact member.elim (by decide) noStroke
  · have member : '《' ∈ '/' :: (gap ++ 's' :: blank) := by
      rw [tail]
      simp
    simp only [List.mem_cons, List.mem_append] at member
    rcases member with same | member | same | member
    · exact absurd same (by decide)
    · exact absurd (gapBlank _ member) (by decide)
    · exact absurd same (by decide)
    · exact absurd (blankBlank _ member) (by decide)

theorem rate_refused (lead rest : List Char) (noAngle : '>' ∉ lead) (closes : ClosesAfterName rest) :
    StateT.run rate ('<' :: (lead ++ '》' :: rest)) = none := by
  cases done : StateT.run rate ('<' :: (lead ++ '》' :: rest)) with
  | none => rfl
  | some pair =>
      obtain ⟨value, after⟩ := pair
      obtain ⟨body, shape, noClosing, noOpening, ends⟩ := rate_encloses _ _ _ done
      rw [List.cons.injEq] at shape
      have absent : '>' ∉ lead ++ ['》'] := by
        rw [List.mem_append, List.mem_singleton, not_or]
        exact ⟨noAngle, by decide⟩
      obtain ⟨later, rfl, tail⟩ := closing_beyond '>' (lead ++ ['》']) rest body after absent (by simpa using shape.2)
      rw [List.mem_append, not_or] at noClosing noOpening
      obtain ⟨front, name, rfl, noStroke⟩ := closes later after tail noOpening.2 noClosing.2
      rw [← List.append_assoc] at ends
      exact absurd ends (no_rate_after_name _ name noStroke)

variable (condition : Condition) (safe : SafeCondition condition) (rest : List Char) (closes : ClosesAfterName rest)

include safe closes

theorem rate_misses_condition : Misses rate (conditionPiece condition) rest := by
  have noClosing : '>' ∉ condition.value.toList := safe.value.absent '>' (by decide)
  refine angled_misses_condition rate opens_rate condition safe rest (fun _ => ?_) fun _ => ?_
  · exact rate_refused condition.value.toList rest noClosing closes
  · exact rate_refused ('=' :: condition.value.toList) rest (by simp [noClosing]) closes

theorem condition_closes : ClosesAfterName (conditionPiece condition ++ rest) := by
  intro body after same noOpening noClosing
  have absent : '>' ∉ '《' :: condition.name.toList := by
    rw [List.mem_cons, not_or]
    exact ⟨by decide, safe.name.absent '>' (by decide)⟩
  have noStroke : '/' ∉ condition.name.toList := safe.nameSigns '/' (by decide)
  rw [condition_piece_parts, List.append_assoc] at same
  obtain ⟨later, rfl, tail⟩ := closing_beyond '>' _ _ body after absent same
  rw [List.mem_append, not_or] at noOpening noClosing
  have begins : ∀ c tailing, c :: tailing = later ++ '>' :: after → later = [] ∧ c = '>' ∨ c ∈ later := by
    intro c tailing front
    cases later with
    | nil => exact .inl ⟨rfl, (List.cons.inj front).1⟩
    | cons d later => exact .inr (by rw [(List.cons.inj front).1]; exact List.mem_cons_self)
  have onName : later = [] → ∃ front name, ('《' :: condition.name.toList) ++ later = front ++ '《' :: name ∧ '/' ∉ name := by
    rintro rfl
    exact ⟨[], condition.name.toList, by simp, noStroke⟩
  have beyond : '>' ∉ condition.comparison.symbol.toList → ∃ front name,
      ('《' :: condition.name.toList) ++ later = front ++ '《' :: name ∧ '/' ∉ name := by
    intro noSymbol
    have noPiece : '>' ∉ condition.comparison.symbol.toList ++ (condition.value.toList ++ ['》']) := by
      simp only [List.mem_append, List.mem_singleton, not_or]
      exact ⟨noSymbol, safe.value.absent '>' (by decide), by decide⟩
    obtain ⟨further, rfl, end_⟩ := closing_beyond '>' _ rest later after noPiece tail
    rw [List.mem_append, not_or] at noOpening noClosing
    obtain ⟨front, name, rfl, clear⟩ := closes further after end_ noOpening.2.2 noClosing.2.2
    exact ⟨_, name, by rw [← List.append_assoc, ← List.append_assoc], clear⟩
  cases comparison : condition.comparison with
  | greater =>
      rw [comparison] at tail
      exact (begins '>' _ tail).elim (fun stops => onName stops.1) fun member => absurd member noClosing.2
  | atLeast =>
      rw [comparison] at tail
      exact (begins '>' _ tail).elim (fun stops => onName stops.1) fun member => absurd member noClosing.2
  | less =>
      rw [comparison] at tail
      exact (begins '<' _ tail).elim (fun stops => absurd stops.2 (by decide)) fun member => absurd member noOpening.2
  | atMost =>
      rw [comparison] at tail
      exact (begins '<' _ tail).elim (fun stops => absurd stops.2 (by decide)) fun member => absurd member noOpening.2
  | equal => exact beyond (by rw [comparison]; decide)
  | unequal => exact beyond (by rw [comparison]; decide)

omit safe closes

theorem effects_close (effects : List Effect) (ending : List Char) (noAngle : '>' ∉ ending) :
    ClosesAfterName (effects.flatMap effectPiece ++ ending) := by
  intro body after same noOpening noClosing
  exfalso
  cases effects with
  | nil =>
      refine noAngle ?_
      rw [List.flatMap_nil, List.nil_append] at same
      rw [same]
      exact List.mem_append_right body List.mem_cons_self
  | cons effect effects =>
      rw [List.flatMap_cons, effectPiece, List.cons_append] at same
      obtain ⟨later, rfl, _⟩ := closing_beyond '>' ['<'] _ body after (by decide) same
      exact noOpening List.mem_cons_self

theorem conditions_close (conditions : List Condition) (ending : List Char)
    (safe : ∀ condition ∈ conditions, SafeCondition condition) (closes : ClosesAfterName ending) :
    ClosesAfterName (conditions.flatMap conditionPiece ++ ending) := by
  induction conditions with
  | nil => exact closes
  | cons condition conditions ih =>
      rw [List.flatMap_cons, List.append_assoc]
      exact condition_closes condition (safe condition List.mem_cons_self) _
        (ih fun other member => safe other (List.mem_cons_of_mem _ member))

theorem rate_misses_conditions (conditions : List Condition) (ending : List Char)
    (safe : ∀ condition ∈ conditions, SafeCondition condition) (closes : ClosesAfterName ending) :
    Misses rate (conditions.flatMap conditionPiece) ending := by
  induction conditions with
  | nil => trivial
  | cons condition conditions ih =>
      have later := fun other member => safe other (List.mem_cons_of_mem condition member)
      rw [List.flatMap_cons, misses_append]
      exact ⟨rate_misses_condition condition (safe condition List.mem_cons_self) _ (conditions_close conditions ending later closes),
        ih later⟩

end Others

section Rules

theorem rate_added (rate : Rate) (writable : WritableRate rate) (negative : Bool) (whole part : List Char) (amount : Number)
    (written : WrittenRate rate negative whole part amount) (node : NodeOf Video) :
    addRate node ⟨rate.name.toList ++ [' '], negative, whole ++ fractionText part⟩ =
      .ok (some (node.updateBody fun video => { video with rates := video.rates ++ [rate] })) := by
  have number : Mark.numberFrom (whole ++ fractionText part) (.whole 0) = .ok amount := by
    rw [Mark.numberFrom, written.read]
  have name : Mark.trimmedText (rate.name.toList ++ [' ']) = rate.name := by
    rw [Mark.trimmedText, trim_spaced _ writable.name.nonempty_list writable.name.tight, String.ofList_toList]
  have value := written.value
  simp only [addRate, number, bind, Except.bind, name, value]
  rfl

theorem rates_front (rates : List Rate) (ending : List Char) (node : NodeOf Video)
    (writable : ∀ rate ∈ rates, WritableRate rate) (tight : Tight ending) (nothing : rate.all ending = []) :
    (Rule.every "rate_effect" rate addRate).apply (rates.flatMap ratePiece ++ ending, node) =
      .ok (ending, node.updateBody fun video => { video with rates := video.rates ++ rates }) := by
  have each : ∀ rate : Rate, ∃ value : Change, rate ∈ rates → ratePiece rate ≠ [] ∧ Tight (ratePiece rate) ∧
      Reads Video.rate (ratePiece rate) value ∧ ∀ node, addRate node value =
        .ok (some (node.updateBody fun video => { video with rates := video.rates ++ [rate] })) := by
    intro rate
    by_cases member : rate ∈ rates
    · obtain ⟨negative, whole, part, amount, written⟩ := rate_written rate (writable rate member)
      obtain ⟨body, shape, _⟩ := rate_shape rate (writable rate member) negative whole part amount written
      refine ⟨_, fun _ => ⟨?_, ?_, reads_rate rate (writable rate member) negative whole part amount written,
        rate_added rate (writable rate member) negative whole part amount written⟩⟩
      · rw [shape]
        exact List.cons_ne_nil _ _
      · rw [shape]
        exact tight_enclosed '<' '>' _ (by decide) (by decide)
    · exact ⟨⟨[], false, []⟩, fun present => absurd present member⟩
  choose value facts using each
  have run := Rule.every_front ratePiece
    (fun rate => NodeOf.updateBody fun video => { video with rates := video.rates ++ [rate] }) ending "rate_effect" rate addRate
    value rates node tight nothing
    (fun rate member => ⟨(facts rate member).1, (facts rate member).2.1, (facts rate member).2.2.1⟩)
    (fun rate member => (facts rate member).2.2.2)
  have added := Rule.collected (fun rates => NodeOf.updateBody fun video : Video =>
    { video with rates := video.rates ++ rates }) (by simp [NodeOf.updateBody]) (by simp [NodeOf.updateBody]) rates node
  exact run.trans (congrArg (fun node => Except.ok (ending, node)) added)

end Rules

end TaggedStory.Video
