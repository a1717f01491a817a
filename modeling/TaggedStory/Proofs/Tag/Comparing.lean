import TaggedStory.Proofs.Decimal.Legible
import TaggedStory.Proofs.Tag.Splitting
import TaggedStory.Tag.Condition
/-!
Conditions that are read from a text, written and read again. The name and the value are written next to the
comparison, so that a stronger comparison may arise where they meet; a name with the sign of an expression is written
alone. What is read again is described by the condition itself.
-/
set_option autoImplicit false

namespace TaggedStory.Tag

open Text

section Percentages

theorem percentage_iff (text : List Char) : isPercentage text = true ↔
    ∃ before rest, text = before ++ '%' :: rest ∧ '%' ∉ before ∧ before ≠ [] ∧ isCountTail rest = true := by
  constructor
  · intro percentage
    rw [isPercentage] at percentage
    cases drop : text.dropWhile (· ≠ '%') with
    | nil =>
        rw [drop] at percentage
        cases percentage
    | cons c rest =>
        rw [drop] at percentage
        simp only [Bool.and_eq_true, Bool.not_eq_true', List.isEmpty_eq_false_iff] at percentage
        have stopped := List.head?_dropWhile_not (· ≠ '%') text
        rw [drop] at stopped
        obtain rfl : c = '%' := by simpa using stopped
        refine ⟨text.takeWhile (· ≠ '%'), rest, ?_, fun member => ?_, percentage.1, percentage.2⟩
        · rw [← drop, List.takeWhile_append_dropWhile]
        · simpa using List.mem_takeWhile_imp member
  · rintro ⟨before, rest, rfl, absent, filled, tail⟩
    have other : ∀ c ∈ before, decide (c ≠ '%') = true := fun c member => decide_eq_true fun same => absent (same ▸ member)
    rw [isPercentage, List.dropWhile_append_of_pos other, List.takeWhile_append_of_pos other]
    simp [filled, tail]

theorem count_tail_iff (text : List Char) : isCountTail text = true ↔ (∀ c ∈ text, isBlank c = true) ∨
    ∃ gap sign inner digits tail, text = gap ++ sign :: (inner ++ (digits ++ tail)) ∧ (sign = ':' ∨ sign = '：') ∧ digits ≠ [] ∧
      (∀ c ∈ digits, isDigit c = true) ∧ (∀ c ∈ gap, isBlank c = true) ∧ (∀ c ∈ inner, isBlank c = true) ∧
        ∀ c ∈ tail, isBlank c = true := by
  constructor
  · intro tail
    rw [isCountTail] at tail
    cases left : trimLeft text with
    | nil => exact .inl (List.dropWhile_eq_nil_iff.mp left)
    | cons sign rest =>
        rw [left] at tail
        by_cases colon : sign = ':' ∨ sign = '：'
        · simp only [if_pos colon, Bool.and_eq_true, Bool.not_eq_true', List.isEmpty_eq_false_iff, List.isEmpty_iff] at tail
          refine .inr ⟨text.takeWhile isBlank, sign, rest.takeWhile isBlank, (trimLeft rest).takeWhile isDigit,
            (trimLeft rest).dropWhile isDigit, ?_, colon, tail.1, fun c member => List.mem_takeWhile_imp member,
            fun c member => List.mem_takeWhile_imp member, fun c member => List.mem_takeWhile_imp member,
            List.dropWhile_eq_nil_iff.mp tail.2⟩
          rw [List.takeWhile_append_dropWhile, trimLeft, List.takeWhile_append_dropWhile, ← left, trimLeft,
            List.takeWhile_append_dropWhile]
        · simp only [if_neg colon, Bool.false_eq_true] at tail
  · rintro (blank | ⟨gap, sign, inner, digits, tail, rfl, colon, filled, digit, blankGap, blankInner, blankTail⟩)
    · rw [isCountTail, trimLeft, List.dropWhile_eq_nil_iff.mpr blank]
    · have solid : isBlank sign = false := by rcases colon with rfl | rfl <;> decide
      have digitSolid : ∀ c ∈ (digits ++ tail).head?, isBlank c = false := by
        obtain ⟨c, more, rfl⟩ := List.exists_cons_of_ne_nil filled
        simpa using Decimal.any_digit_solid c (digit c List.mem_cons_self)
      have ended : ∀ c ∈ tail.head?, isDigit c = false := by
        intro c head
        have blank := blankTail c (List.mem_of_mem_head? head)
        by_contra other
        rw [Decimal.any_digit_solid c (by simpa using other)] at blank
        cases blank
      have first := trim_left_gap gap (sign :: (inner ++ (digits ++ tail))) blankGap (by simpa using solid)
      have second := trim_left_gap inner (digits ++ tail) blankInner digitSolid
      have run : (digits ++ tail).takeWhile isDigit = digits ∧ (digits ++ tail).dropWhile isDigit = tail := by
        rw [List.takeWhile_append_of_pos digit, List.dropWhile_append_of_pos digit]
        cases tail with
        | nil => simp
        | cons c tail => simp [ended c rfl]
      simp only [isCountTail, first, if_pos colon, second, run.1, run.2]
      simp [filled, trimLeft, List.dropWhile_eq_nil_iff.mpr blankTail]

theorem count_tail_signs (text : List Char) (tail : isCountTail text = true) :
    ∀ c ∈ text, isBlank c = true ∨ c = ':' ∨ c = '：' ∨ isDigit c = true := by
  intro c member
  rcases (count_tail_iff text).mp tail with blank | ⟨gap, sign, inner, digits, after, rfl, colon, _, digit, first, second, last⟩
  · exact .inl (blank c member)
  · rcases List.mem_append.mp member with member | member
    · exact .inl (first c member)
    rcases List.mem_cons.mp member with rfl | member
    · exact .inr (colon.imp_right .inl)
    rcases List.mem_append.mp member with member | member
    · exact .inl (second c member)
    · exact (List.mem_append.mp member).elim (fun inside => .inr (.inr (.inr (digit c inside)))) fun inside => .inl (last c inside)

theorem count_tail_longer (text more : List Char) (tail : isCountTail text = true) (blank : ∀ c ∈ more, isBlank c = true) :
    isCountTail (text ++ more) = true := by
  rw [count_tail_iff] at tail ⊢
  rcases tail with only | ⟨gap, sign, inner, digits, after, rfl, colon, filled, digit, first, second, last⟩
  · exact .inl fun c member => (List.mem_append.mp member).elim (only c) (blank c)
  · refine .inr ⟨gap, sign, inner, digits, after ++ more, by simp, colon, filled, digit, first, second, ?_⟩
    exact fun c member => (List.mem_append.mp member).elim (last c) (blank c)

end Percentages

-- The comparisons that are tried before.
def stronger (comparison : Comparison) : List Comparison :=
  comparisonOrder.takeWhile (· ≠ comparison)

theorem comparison_spelled (tried : Comparison) :
    Spelled (Scanner.word tried.symbol) (fun _ => tried.symbol.toList) fun _ => True := by
  refine ⟨fun text rest found => ?_, fun _ rest => ?_⟩
  · rw [Scanner.word_succeeds, true_and]
  · cases tried <;> simp [Comparison.symbol] <;> decide

theorem compare_iff (text : List Char) (tried : Comparison) (condition : Condition) :
    compare? text tried = some condition ↔ condition.comparison = tried ∧
      split? (Scanner.word tried.symbol) value? text = some ⟨condition.name.toList, (), condition.value.toList⟩ := by
  rw [compare?, Option.map_eq_some_iff]
  constructor
  · rintro ⟨parts, split, rfl⟩
    exact ⟨rfl, by simpa using split⟩
  · rintro ⟨rfl, split⟩
    exact ⟨_, split, by simp⟩

theorem condition_iff (text : List Char) (condition : Condition) : condition? text = some condition ↔
    isNoCondition text = false ∧ (∀ tried ∈ stronger condition.comparison, compare? text tried = none) ∧
      compare? text condition.comparison = some condition := by
  rw [condition?]
  by_cases excluded : isNoCondition text = true
  · simp [excluded]
  have included : isNoCondition text = false := by simpa using excluded
  rw [if_neg excluded, find_some_iff]
  constructor
  · rintro ⟨tried, _, found, missed⟩
    obtain ⟨same, _⟩ := (compare_iff text tried condition).mp found
    rw [stronger, same]
    exact ⟨included, missed, found⟩
  · rintro ⟨_, missed, found⟩
    exact ⟨condition.comparison, by cases condition.comparison <;> decide, found, missed⟩

theorem condition_shape (text : List Char) (condition : Condition) (parsed : condition? text = some condition) :
    ∃ front gap inner tail, text = front ++ (gap ++ (condition.comparison.symbol.toList ++ (inner ++ (condition.value.toList ++ tail)))) ∧
      condition.name.toList = trim front ∧ front ≠ [] ∧ '\n' ∉ front ∧ '\n' ∉ condition.value.toList ∧ Tight condition.value.toList ∧
        (∀ c ∈ gap, isBlank c = true) ∧ (∀ c ∈ inner, isBlank c = true) ∧ (∀ c ∈ tail, isBlank c = true) ∧
          inner ++ (condition.value.toList ++ tail) ≠ [] := by
  obtain ⟨_, _, found⟩ := (condition_iff text condition).mp parsed
  obtain ⟨_, split⟩ := (compare_iff _ _ _).mp found
  obtain ⟨front, gap, after, rfl, name, filled, inlineFront, blankGap, _, read⟩ :=
    split_shape (comparison_spelled condition.comparison) value? text _ split
  obtain ⟨something, inner, tail, rfl, blankInner, blankTail, inline, tight⟩ := value_shape _ _ read
  exact ⟨front, gap, inner, tail, rfl, name, filled, inlineFront, inline, tight, blankGap, blankInner, blankTail, something⟩

def conditionBody (condition : Condition) : List Char :=
  condition.name.toList ++ (condition.comparison.symbol.toList ++ condition.value.toList)

-- What a written condition needs to be read again.
structure RecoverableCondition (condition : Condition) : Prop where
  named : condition.name ≠ ""
  valued : condition.value ≠ ""
  unsigned : condition.name.toList.any isExpressionSign = false
  unmarked : ¬ "AD".toList <+: condition.name.toList
  apart : condition.comparison ≠ .equal → ∀ rest, condition.value.toList = '=' :: rest → rest = []

-- What every condition has that was read from a text.
structure ReadCondition (condition : Condition) : Prop where
  tight : Tight condition.name.toList
  inline : '\n' ∉ condition.name.toList
  tightValue : Tight condition.value.toList
  inlineValue : '\n' ∉ condition.value.toList

-- No stronger comparison stands in the value with anything after it.
def Unrivalled (condition : Condition) : Prop :=
  ∀ tried ∈ stronger condition.comparison, ∀ left right,
    condition.value.toList = left ++ (tried.symbol.toList ++ right) → right = []

theorem rival_found (tried : Comparison) (front after : List Char) (filled : front ≠ []) (something : after ≠ [])
    (inlineFront : '\n' ∉ front) (inline : '\n' ∉ after) :
    compare? (front ++ (tried.symbol.toList ++ after)) tried ≠ none := by
  have read : (value? after).isSome = true := by rw [value_inline after something inline]; rfl
  obtain ⟨parts, found⟩ := Option.isSome_iff_exists.mp
    (split_stands (comparison_spelled tried) value? front after () trivial filled inlineFront read)
  rw [compare?, found]
  exact Option.some_ne_none _

section Written

variable (condition : Condition) (unsigned : condition.name.toList.any isExpressionSign = false)

include unsigned

theorem text_of_unsigned : (conditionText condition).toList = conditionBody condition := by
  rw [conditionText, unsigned, if_neg Bool.false_ne_true, String.toList_append, String.toList_append,
    List.append_assoc, conditionBody]

-- A comparison in the written text stands behind the name, if it is not made of the end of the name and an equals sign.
theorem stands_behind (tried : Comparison) (front after : List Char)
    (same : conditionBody condition = front ++ (tried.symbol.toList ++ after))
    (weak : ¬ (tried = .unequal ∧ condition.comparison = .equal)) :
    ∃ more, front = condition.name.toList ++ more ∧
      condition.comparison.symbol.toList ++ condition.value.toList = more ++ (tried.symbol.toList ++ after) := by
  have plain : ∀ c ∈ condition.name.toList, isExpressionSign c = false := by simpa using unsigned
  rcases List.append_eq_append_iff.mp same with ⟨more, behind, rest⟩ | ⟨inside, name, rest⟩
  · exact ⟨more, behind, rest⟩
  cases inside with
  | nil => exact ⟨[], by simpa using name.symm, by simpa using rest.symm⟩
  | cons c inside =>
      exfalso
      have outside := plain c (by rw [name]; simp)
      have signs : tried = .unequal := by
        cases tried with
        | unequal => rfl
        | _ =>
            obtain ⟨rfl, _⟩ := List.cons.inj rest
            cases outside
      subst signs
      obtain ⟨_, rest⟩ := List.cons.inj (show '!' :: '=' :: after = c :: (inside ++ _) from rest)
      cases inside with
      | nil =>
          obtain ⟨x, tail, shape⟩ : ∃ x tail, condition.comparison.symbol.toList = x :: tail := by
            cases condition.comparison <;> exact ⟨_, _, rfl⟩
          rw [shape] at rest
          obtain ⟨rfl, _⟩ := List.cons.inj rest
          refine weak ⟨rfl, ?_⟩
          cases kind : condition.comparison with
          | equal => rfl
          | _ =>
              rw [kind] at shape
              cases shape
      | cons d inside =>
          have sign := plain d (by rw [name]; simp)
          obtain ⟨rfl, _⟩ := List.cons.inj rest
          cases sign

end Written

section Rivals

variable (own tried : Comparison) (before : tried ∈ stronger own) (value after : List Char)

include before

theorem symbols_meet (same : own.symbol.toList ++ value = tried.symbol.toList ++ after) :
    own ≠ .equal ∧ value = '=' :: after := by
  cases own <;> cases tried <;> simp_all [stronger, comparisonOrder, Comparison.symbol]

theorem symbols_cross (same : own.symbol.toList.tail ++ value = tried.symbol.toList ++ after) :
    own.symbol.toList.tail = [] ∧ value = tried.symbol.toList ++ after ∨ own ≠ .equal ∧ value = '=' :: after := by
  cases own <;> cases tried <;> simp_all [stronger, comparisonOrder, Comparison.symbol]

-- A stronger comparison stands in the value, or an equals sign in front of the value is a part of it.
theorem rival_in_value (more : List Char) (same : own.symbol.toList ++ value = more ++ (tried.symbol.toList ++ after)) :
    (∃ left, value = left ++ (tried.symbol.toList ++ after)) ∨ own ≠ .equal ∧ value = '=' :: after := by
  cases more with
  | nil => exact .inr (symbols_meet own tried before value after same)
  | cons c more =>
      have shorter : own.symbol.toList.tail ++ value = more ++ (tried.symbol.toList ++ after) := by
        obtain ⟨x, tail, shape⟩ : ∃ x tail, own.symbol.toList = x :: tail := by cases own <;> exact ⟨_, _, rfl⟩
        rw [shape] at same ⊢
        exact (List.cons.inj same).2
      cases more with
      | nil =>
          rcases symbols_cross own tried before value after shorter with ⟨_, inside⟩ | apart
          · exact .inl ⟨[], inside⟩
          · exact .inr apart
      | cons d more =>
          have short : own.symbol.toList.tail = [] ∨ own.symbol.toList.tail = ['='] := by
            cases own
            all_goals first | exact .inl rfl | exact .inr rfl
          rcases short with single | double
          · rw [single] at shorter
            exact .inl ⟨d :: more, shorter⟩
          · rw [double] at shorter
            exact .inl ⟨more, (List.cons.inj shorter).2⟩

end Rivals

theorem no_ad_again (condition : Condition) (named : condition.name ≠ "") (unmarked : ¬ "AD".toList <+: condition.name.toList) :
    dropWord? "AD".toList (conditionBody condition) = none := by
  cases found : dropWord? "AD".toList (conditionBody condition) with
  | none => rfl
  | some rest =>
      exfalso
      have whole := (drop_word_some _ _ _).mp found
      rw [conditionBody] at whole
      obtain ⟨a, name, shape⟩ := List.exists_cons_of_ne_nil (show condition.name.toList ≠ [] by simpa using named)
      rw [shape] at whole unmarked
      cases name with
      | nil =>
          have second := congrArg (fun text => text[1]?) whole
          cases other : condition.comparison <;> rw [other] at second <;> simp [Comparison.symbol] at second
      | cons d name =>
          simp only [String.reduceToList, List.cons_append, List.nil_append, List.cons.injEq] at whole
          exact unmarked ⟨name, by simp [whole.1, whole.2.1]⟩

section Reading

variable (condition : Condition) (recoverable : RecoverableCondition condition)

include recoverable

theorem own_read (parts : ReadCondition condition) : compare? (conditionBody condition) condition.comparison = some condition := by
  have named : condition.name.toList ≠ [] := by simpa using recoverable.named
  have valued : condition.value.toList ≠ [] := by simpa using recoverable.valued
  have read : value? condition.value.toList = some condition.value.toList := by
    rw [value_inline _ valued parts.inlineValue, trim_tight _ parts.tightValue]
  have own : operation? (Scanner.word condition.comparison.symbol) value?
      (condition.comparison.symbol.toList ++ condition.value.toList) = some ((), condition.value.toList) :=
    (operation_iff (comparison_spelled condition.comparison) value? _ _ _).mpr ⟨[], _, rfl, by simp, trivial, read⟩
  refine (compare_iff _ _ _).mpr ⟨rfl, split_written (comparison_spelled _) value? _ _ _ _ named parts.tight parts.inline own ?_⟩
  intro front after _ _ _ same
  obtain ⟨more, behind, _⟩ := stands_behind condition recoverable.unsigned condition.comparison front after same
    (by rintro ⟨unequal, equal⟩; rw [unequal] at equal; cases equal)
  exact ⟨more, behind.symm⟩

theorem rivals_missing (unrivalled : Unrivalled condition) :
    ∀ tried ∈ stronger condition.comparison, compare? (conditionBody condition) tried = none := by
  intro tried before
  have weak : ¬ (tried = .unequal ∧ condition.comparison = .equal) := by
    rintro ⟨_, equal⟩
    rw [equal] at before
    cases before
  have missing : split? (Scanner.word tried.symbol) value? (conditionBody condition) = none := by
    refine split_none (comparison_spelled tried) value? _ fun front after _ _ _ shape => ?_
    obtain ⟨more, _, same⟩ := stands_behind condition recoverable.unsigned tried front after shape weak
    have nothing : after = [] := by
      rcases rival_in_value _ tried before _ after more same with ⟨left, inside⟩ | ⟨different, apart⟩
      · exact unrivalled tried before left after inside
      · exact recoverable.apart different after apart
    rw [nothing]
    rfl
  rw [compare?, missing]
  rfl

theorem condition_again (parts : ReadCondition condition) (unrivalled : Unrivalled condition)
    (counted : isPercentage (conditionBody condition) = false) : condition? (conditionBody condition) = some condition := by
  refine (condition_iff _ _).mpr ⟨?_, rivals_missing condition recoverable unrivalled, own_read condition recoverable parts⟩
  rw [isNoCondition, counted, no_ad_again condition recoverable.named recoverable.unmarked]
  rfl

end Reading

-- A percentage in the written text would have been one in the text that was read.
theorem no_percentage_again (text : List Char) (condition : Condition) (parsed : condition? text = some condition) :
    isPercentage (conditionBody condition) = false := by
  obtain ⟨front, gap, inner, tail, shape, name, filled, _, _, _, blankGap, blankInner, blankTail, _⟩ :=
    condition_shape text condition parsed
  obtain ⟨sign, more, symbol, unquiet⟩ : ∃ sign more, condition.comparison.symbol.toList = sign :: more ∧
      ¬ (isBlank sign = true ∨ sign = ':' ∨ sign = '：' ∨ isDigit sign = true) := by
    cases condition.comparison <;> exact ⟨_, _, rfl, by decide⟩
  have noPercent : '%' ∉ condition.comparison.symbol.toList := by cases condition.comparison <;> decide
  by_contra percentage
  obtain ⟨before, rest, whole, absent, _, count⟩ := (percentage_iff _).mp (by simpa using percentage)
  rw [conditionBody] at whole
  have notInName : '%' ∉ condition.name.toList := by
    intro member
    obtain ⟨left, right, split, first⟩ := List.eq_append_cons_of_mem member
    rw [split, List.append_assoc, List.cons_append] at whole
    obtain ⟨_, same⟩ := Scanner.first_closing_unique '%' left before _ rest first absent whole
    exact unquiet (count_tail_signs rest count sign (by rw [← same, symbol]; simp))
  have inValue : '%' ∈ condition.value.toList := by
    have member : '%' ∈ before ++ '%' :: rest := by simp
    rw [← whole, List.mem_append, List.mem_append] at member
    exact (member.resolve_left notInName).resolve_left noPercent
  obtain ⟨left, right, split, first⟩ := List.eq_append_cons_of_mem inValue
  have notBefore : '%' ∉ condition.name.toList ++ (condition.comparison.symbol.toList ++ left) := by
    simp [notInName, noPercent, first]
  obtain ⟨_, same⟩ := Scanner.first_closing_unique '%' _ before right rest notBefore absent (by rw [← whole, split]; simp)
  subst same
  have blankPercent : ∀ blanks : List Char, (∀ c ∈ blanks, isBlank c = true) → '%' ∉ blanks := by
    intro blanks blank member
    cases blank '%' member
  have notInFront : '%' ∉ front := by
    obtain ⟨lead, trail, parts, blankLead, blankTrail⟩ := trim_parts front
    rw [parts, ← name]
    simp [notInName, blankPercent lead blankLead, blankPercent trail blankTrail]
  have longer : isPercentage text = true := by
    refine (percentage_iff text).mpr ⟨front ++ (gap ++ (condition.comparison.symbol.toList ++ (inner ++ left))), right ++ tail, ?_, ?_,
      List.append_ne_nil_of_left_ne_nil filled _, count_tail_longer right tail count blankTail⟩
    · rw [shape, split]
      simp
    · simp [notInFront, noPercent, first, blankPercent gap blankGap, blankPercent inner blankInner]
  have included := ((condition_iff text condition).mp parsed).1
  rw [isNoCondition, longer] at included
  cases included

section Again

variable (text : List Char) (condition : Condition) (parsed : condition? text = some condition)

include parsed

theorem condition_read : ReadCondition condition := by
  obtain ⟨front, _, _, _, _, name, _, inline, inlineValue, tightValue, _⟩ := condition_shape text condition parsed
  refine ⟨?_, ?_, tightValue, inlineValue⟩
  · rw [name]
    exact trim_tightens front
  · rw [name]
    exact fun member => inline ((trim_inside front).subset member)

theorem name_shorter : condition.name.toList.length < text.length := by
  obtain ⟨front, gap, inner, tail, shape, name, _⟩ := condition_shape text condition parsed
  have bound : (trim front).length ≤ front.length := (trim_inside front).length_le
  have symbol : 0 < condition.comparison.symbol.toList.length := by cases condition.comparison <;> decide
  rw [shape, name]
  simp only [List.length_append]
  omega

end Again

theorem read_unsigned (condition : Condition) (again : condition? (conditionText condition).toList = some condition) :
    condition.name.toList.any isExpressionSign = false := by
  by_contra signed
  have alone : conditionText condition = condition.name := if_pos (by simpa using signed)
  rw [alone] at again
  exact absurd (name_shorter _ condition again) (Nat.lt_irrefl _)

section Body

variable (condition : Condition) (again : condition? (conditionBody condition) = some condition)

include again

theorem body_named : condition.name ≠ "" := by
  intro empty
  obtain ⟨front, gap, inner, tail, shape, name, filled, _⟩ := condition_shape _ condition again
  obtain ⟨c, more, rfl⟩ := List.exists_cons_of_ne_nil filled
  obtain ⟨sign, rest, symbol, solid⟩ : ∃ sign rest, condition.comparison.symbol.toList = sign :: rest ∧ isBlank sign = false := by
    cases condition.comparison <;> exact ⟨_, _, rfl, by decide⟩
  rw [empty, String.toList_empty, eq_comm, trim_empty] at name
  rw [conditionBody, empty, String.toList_empty, List.nil_append, symbol, List.cons_append, List.cons_append] at shape
  rw [(List.cons.inj shape).1, name c List.mem_cons_self] at solid
  cases solid

theorem body_valued : condition.value ≠ "" := by
  intro empty
  obtain ⟨front, gap, inner, tail, shape, _, _, _, _, _, _, blankInner, blankTail, something⟩ := condition_shape _ condition again
  rw [empty, String.toList_empty, List.nil_append] at something shape
  have blank : ∀ c ∈ inner ++ tail, isBlank c = true :=
    fun c member => (List.mem_append.mp member).elim (blankInner c) (blankTail c)
  have solid : ∀ c ∈ condition.comparison.symbol.toList.getLast?, isBlank c = false := by
    cases condition.comparison <;> decide
  have filled : condition.comparison.symbol.toList ≠ [] := by cases condition.comparison <;> decide
  have ends := congrArg List.getLast? shape
  rw [conditionBody, empty, String.toList_empty, List.append_nil] at ends
  rw [List.getLast?_eq_some_getLast filled] at solid
  simp only [← List.append_assoc] at ends
  rw [List.append_assoc _ inner tail, List.getLast?_append, List.getLast?_append, List.getLast?_eq_some_getLast something,
    List.getLast?_eq_some_getLast filled, Option.some_or, Option.some_or, Option.some.injEq] at ends
  have last := solid _ rfl
  rw [ends, blank _ (List.getLast_mem something)] at last
  cases last

theorem body_unmarked : ¬ "AD".toList <+: condition.name.toList := by
  rintro ⟨rest, name⟩
  have included := ((condition_iff _ condition).mp again).1
  rw [isNoCondition, conditionBody, ← name, List.append_assoc, drop_word_append] at included
  simp at included

theorem body_unrivalled (tried : Comparison) (before : tried ∈ stronger condition.comparison) (front after : List Char)
    (filled : front ≠ []) (shape : conditionBody condition = front ++ (tried.symbol.toList ++ after)) : after = [] := by
  have missed := ((condition_iff _ condition).mp again).2.1 tried before
  have inline : '\n' ∉ conditionBody condition := by
    have symbol : '\n' ∉ condition.comparison.symbol.toList := by cases condition.comparison <;> decide
    have parts := condition_read _ condition again
    simp [conditionBody, symbol, parts.inline, parts.inlineValue]
  by_contra something
  rw [shape] at missed inline
  simp only [List.mem_append, not_or] at inline
  exact rival_found tried front after filled something inline.1 inline.2.2 missed

theorem body_recoverable (unsigned : condition.name.toList.any isExpressionSign = false) : RecoverableCondition condition := by
  have filled : condition.name.toList ≠ [] := by simpa using body_named condition again
  refine ⟨body_named condition again, body_valued condition again, unsigned, body_unmarked condition again, ?_⟩
  intro different rest value
  -- The last sign of the operator and the equals sign make a stronger comparison.
  obtain ⟨tried, lead, before, joined⟩ : ∃ tried lead, tried ∈ stronger condition.comparison ∧
      condition.comparison.symbol.toList ++ ['='] = lead ++ tried.symbol.toList := by
    cases kind : condition.comparison with
    | equal => exact absurd kind different
    | unequal => exact ⟨.equal, ['!'], by decide, rfl⟩
    | atLeast => exact ⟨.equal, ['>'], by decide, rfl⟩
    | atMost => exact ⟨.equal, ['<'], by decide, rfl⟩
    | greater => exact ⟨.atLeast, [], by decide, rfl⟩
    | less => exact ⟨.atMost, [], by decide, rfl⟩
  refine body_unrivalled condition again tried before (condition.name.toList ++ lead) rest
    (List.append_ne_nil_of_left_ne_nil filled _) ?_
  rw [List.append_assoc, ← List.append_assoc lead, ← joined, conditionBody, value]
  simp

theorem body_has_no_rival : Unrivalled condition := by
  have filled : condition.name.toList ≠ [] := by simpa using body_named condition again
  intro tried before left right value
  refine body_unrivalled condition again tried before (condition.name.toList ++ (condition.comparison.symbol.toList ++ left)) right ?_ ?_
  · exact List.append_ne_nil_of_left_ne_nil filled _
  · rw [conditionBody, value]
    simp

end Body

theorem unrivalled_of_inline (text : List Char) (condition : Condition) (parsed : condition? text = some condition)
    (inline : '\n' ∉ text) : Unrivalled condition := by
  intro tried before left right value
  obtain ⟨front, gap, inner, tail, shape, _, filled, _⟩ := condition_shape text condition parsed
  have missed := ((condition_iff text condition).mp parsed).2.1 tried before
  rw [value] at shape
  have whole : text = front ++ (gap ++ (condition.comparison.symbol.toList ++ (inner ++ left))) ++
      (tried.symbol.toList ++ (right ++ tail)) := by
    rw [shape]
    simp
  by_contra something
  rw [whole] at missed inline
  simp only [List.mem_append, not_or] at inline
  exact rival_found tried _ (right ++ tail) (List.append_ne_nil_of_left_ne_nil filled _)
    (List.append_ne_nil_of_left_ne_nil something _) (by simpa using inline.1) (by simpa using inline.2.2) missed

-- A condition that was read from a text is read again from its own text exactly when the written parts do not run into
-- each other: the name holds no sign, the value begins with no equals sign, and no stronger comparison stands in the value,
-- which it never does when the text was a single line.
theorem condition_reads_back (text : List Char) (condition : Condition) (parsed : condition? text = some condition) :
    (condition? (conditionText condition).toList = some condition ↔ RecoverableCondition condition ∧ Unrivalled condition) ∧
      ('\n' ∉ text → Unrivalled condition) := by
  refine ⟨⟨fun again => ?_, fun ⟨recoverable, unrivalled⟩ => ?_⟩, unrivalled_of_inline text condition parsed⟩
  · have unsigned := read_unsigned condition again
    rw [text_of_unsigned condition unsigned] at again
    exact ⟨body_recoverable condition again unsigned, body_has_no_rival condition again⟩
  · rw [text_of_unsigned condition recoverable.unsigned]
    exact condition_again condition recoverable (condition_read text condition parsed) unrivalled
      (no_percentage_again text condition parsed)

theorem strength_reads_back : condition? "体力 >= 5".toList = some ⟨"体力", .atLeast, "5"⟩ ∧
    condition? (conditionText ⟨"体力", .atLeast, "5"⟩).toList = some ⟨"体力", .atLeast, "5"⟩ := by
  have parsed : condition? "体力 >= 5".toList = some ⟨"体力", .atLeast, "5"⟩ := by decide
  obtain ⟨back, unrivalled⟩ := condition_reads_back _ _ parsed
  refine ⟨parsed, back.mpr ⟨⟨by decide, by decide, by decide, by decide, fun _ rest value => ?_⟩, unrivalled (by decide)⟩⟩
  cases (List.cons.inj value).1

-- The equals sign of a value runs into the operator, and a name that holds a sign is written alone.
theorem joined_value_astray : ¬ (∀ text condition, condition? text = some condition →
    condition? (conditionText condition).toList = some condition) ∧
      condition? "x != = y".toList = some ⟨"x", .unequal, "= y"⟩ ∧
      condition? (conditionText ⟨"x", .unequal, "= y"⟩).toList = some ⟨"x!", .equal, "y"⟩ ∧
      condition? "攻击+防御>=10".toList = some ⟨"攻击+防御", .atLeast, "10"⟩ ∧
      condition? (conditionText ⟨"攻击+防御", .atLeast, "10"⟩).toList = none := by
  have parsed : condition? "x != = y".toList = some ⟨"x", .unequal, "= y"⟩ := by decide
  have astray : condition? (conditionText ⟨"x", .unequal, "= y"⟩).toList = some ⟨"x!", .equal, "y"⟩ := by decide
  refine ⟨fun back => ?_, parsed, astray, by decide, by decide⟩
  have again := back _ _ parsed
  rw [astray] at again
  exact absurd again (by decide)

end TaggedStory.Tag
