import TaggedStory.Proofs.Tag.Comparing
import TaggedStory.Proofs.Tag.Lone
/-!
Conditions as they may be typed, with any blanks between and around their parts.
-/
set_option autoImplicit false

namespace TaggedStory.Tag

open Text

def comparisonSigns : List Char := ['<', '>', '=', '!', '%']

-- The parts of a condition and the gaps between and around them.
structure SpacedCondition where
  comparison : Comparison
  name : List Char
  value : List Char
  before : List Char
  left : List Char
  right : List Char
  after : List Char

namespace SpacedCondition

def tail (spaced : SpacedCondition) : List Char :=
  spaced.left ++ (spaced.comparison.symbol.toList ++ (spaced.right ++ (spaced.value ++ spaced.after)))

def text (spaced : SpacedCondition) : List Char :=
  (spaced.before ++ spaced.name) ++ spaced.tail

structure Readable (spaced : SpacedCondition) : Prop where
  named : Operand comparisonSigns spaced.name
  unmarked : ¬ "AD".toList <+: spaced.name
  valued : Operand comparisonSigns spaced.value
  blank : ∀ gap ∈ [spaced.before, spaced.left, spaced.right, spaced.after], ∀ c ∈ gap, isBlank c = true
  inlineBefore : '\n' ∉ spaced.before
  inlineAfter : '\n' ∉ spaced.after

theorem signs_solid : ∀ c ∈ comparisonSigns, isBlank c = false := by decide

theorem symbol_signs (comparison : Comparison) : ∀ c ∈ comparison.symbol.toList, c ∈ comparisonSigns ∧ c ≠ '%' := by
  cases comparison <;> decide

-- No symbol holds one that is tried before it.
theorem stronger_outside (own : Comparison) : ∀ tried ∈ stronger own, ¬ tried.symbol.toList <:+: own.symbol.toList := by
  cases own <;> decide

variable (spaced : SpacedCondition) (readable : spaced.Readable)

include readable

theorem comparison_alone : Lone comparisonSigns (spaced.before ++ (spaced.name ++ spaced.left)) spaced.comparison.symbol.toList
    (spaced.right ++ (spaced.value ++ spaced.after)) := by
  obtain ⟨named, _, valued, blank, _, _⟩ := readable
  simp only [List.forall_mem_cons] at blank
  obtain ⟨blankBefore, blankLeft, blankRight, blankAfter, _⟩ := blank
  refine ⟨?_, fun c member => (symbol_signs _ c member).1, fun c sign => ?_, fun c sign => ?_⟩
  · cases spaced.comparison <;> decide
  · have solid := signs_solid c sign
    simp [blank_lacks _ blankBefore c solid, named.unsigned c sign, blank_lacks _ blankLeft c solid]
  · have solid := signs_solid c sign
    simp [blank_lacks _ blankRight c solid, valued.unsigned c sign, blank_lacks _ blankAfter c solid]

omit readable in
theorem text_alone : spaced.text = (spaced.before ++ (spaced.name ++ spaced.left)) ++
    (spaced.comparison.symbol.toList ++ (spaced.right ++ (spaced.value ++ spaced.after))) := by
  simp [text, tail]

theorem no_percentage : isPercentage spaced.text = false := by
  have found := (spaced.comparison_alone readable).signs_found
  rw [← spaced.text_alone] at found
  by_contra percentage
  obtain ⟨front, rest, shape, _⟩ := (percentage_iff _).mp (by simpa using percentage)
  have percent : '%' ∈ spaced.comparison.symbol.toList := by
    rw [← found, shape, List.mem_filter]
    exact ⟨by simp, by decide⟩
  exact (symbol_signs _ '%' percent).2 rfl

theorem no_ad : dropWord? "AD".toList spaced.text = none := by
  obtain ⟨comparison, name, value, before, left, right, after⟩ := spaced
  obtain ⟨named, unmarked, _, blank, _, _⟩ := readable
  simp only [List.forall_mem_cons] at blank named unmarked
  obtain ⟨blankBefore, blankLeft, _⟩ := blank
  by_contra found
  obtain ⟨rest, dropped⟩ := Option.ne_none_iff_exists'.mp found
  have whole := (drop_word_some _ _ _).mp dropped
  simp only [text, tail, String.reduceToList, List.append_assoc, List.cons_append, List.nil_append] at whole
  cases before with
  | cons c before =>
      obtain ⟨rfl, _⟩ := List.cons.inj whole
      exact absurd (blankBefore 'A' List.mem_cons_self) (by decide)
  | nil =>
      obtain ⟨a, more, rfl⟩ := List.exists_cons_of_ne_nil named.filled
      obtain ⟨rfl, second⟩ := List.cons.inj whole
      cases more with
      | cons d more =>
          obtain ⟨rfl, _⟩ := List.cons.inj second
          exact unmarked ⟨more, rfl⟩
      | nil =>
          -- Behind a name of one letter stands a blank or the comparison.
          cases left with
          | cons c left =>
              obtain ⟨rfl, _⟩ := List.cons.inj second
              exact absurd (blankLeft 'D' List.mem_cons_self) (by decide)
          | nil => cases comparison <;> simp [Comparison.symbol] at second

theorem stronger_missing : ∀ tried ∈ stronger spaced.comparison, compare? spaced.text tried = none := by
  intro tried earlier
  have missing := lone_none (comparison_spelled tried) value? (fun _ c member => (symbol_signs tried c member).1) _ _ _
    (spaced.comparison_alone readable) fun _ _ => stronger_outside _ tried earlier
  rw [compare?, spaced.text_alone, missing]
  rfl

theorem own_split : split? (Scanner.word spaced.comparison.symbol) value? spaced.text = some ⟨spaced.name, (), spaced.value⟩ := by
  have lone := spaced.comparison_alone readable
  obtain ⟨named, _, valued, blank, inlineBefore, inlineAfter⟩ := readable
  simp only [List.forall_mem_cons] at blank
  obtain ⟨blankBefore, blankLeft, blankRight, blankAfter, _⟩ := blank
  have read := (value_between spaced.right spaced.value spaced.after valued.filled valued.tight (by simp [valued.inline, inlineAfter])
    blankRight blankAfter).2
  rw [text, tail, List.append_assoc]
  exact lone_split (comparison_spelled spaced.comparison) value? (fun _ c member => (symbol_signs _ c member).1) _ _ _ _ _ ()
    named blankBefore inlineBefore blankLeft lone trivial (fun _ => rfl) read

end SpacedCondition

-- A comparison is read with any blanks between and around its parts; only in front of the name and behind the value may they
-- hold no line feed.
theorem condition_spaced (spaced : SpacedCondition) (readable : spaced.Readable) :
    condition? spaced.text = some ⟨String.ofList spaced.name, spaced.comparison, String.ofList spaced.value⟩ ∧
      isCondition spaced.text = true := by
  have read : condition? spaced.text = some ⟨String.ofList spaced.name, spaced.comparison, String.ofList spaced.value⟩ := by
    refine (condition_iff _ _).mpr ⟨?_, spaced.stronger_missing readable, (compare_iff _ _ _).mpr ⟨rfl, ?_⟩⟩
    · rw [isNoCondition, spaced.no_percentage readable, spaced.no_ad readable]
      rfl
    · simpa using spaced.own_split readable
  exact ⟨read, by rw [isCondition, read]; rfl⟩

theorem defence_spaced : condition? " 攻击 + 防御\n>=\n总 和/2 ".toList = some ⟨"攻击 + 防御", .atLeast, "总 和/2"⟩ ∧
    isCondition " 攻击 + 防御\n>=\n总 和/2 ".toList = true :=
  condition_spaced ⟨.atLeast, "攻击 + 防御".toList, "总 和/2".toList, [' '], ['\n'], ['\n'], [' ']⟩
    ⟨by decide, by decide, by decide, by decide, by decide, by decide⟩

end TaggedStory.Tag
