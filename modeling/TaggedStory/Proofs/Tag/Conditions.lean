import TaggedStory.Proofs.Tag.Comparing
import TaggedStory.Proofs.Tag.Taking
/-!
Conditions that survive their own tag: no sign of the name or the value is one of an operator, so that the text is
read as it was written, in front of any other.
-/
set_option autoImplicit false

namespace TaggedStory.Tag

open Text

structure SafeCondition (condition : Condition) : Prop where
  name : Plain condition.name
  nameSigns : ∀ c ∈ ['+', '-', '*', '/', '=', '!', '%'], c ∉ condition.name.toList
  noAd : ¬ "AD".toList <+: condition.name.toList
  value : Plain condition.value
  valueSigns : ∀ c ∈ ['=', '!', '%'], c ∉ condition.value.toList

instance (condition : Condition) : Decidable (SafeCondition condition) :=
  decidable_of_iff (Plain condition.name ∧ (∀ c ∈ ['+', '-', '*', '/', '=', '!', '%'], c ∉ condition.name.toList) ∧
      ¬ "AD".toList <+: condition.name.toList ∧ Plain condition.value ∧
      ∀ c ∈ ['=', '!', '%'], c ∉ condition.value.toList)
    ⟨fun ⟨name, nameSigns, noAd, value, valueSigns⟩ => ⟨name, nameSigns, noAd, value, valueSigns⟩,
      fun safe => ⟨safe.name, safe.nameSigns, safe.noAd, safe.value, safe.valueSigns⟩⟩

namespace SafeCondition

variable {condition : Condition}

theorem name_lacks (safe : SafeCondition condition) (c : Char) (sign : isSign c = true ∨ c ∈ ['=', '!', '%', '\n']) :
    c ∉ condition.name.toList := by
  simp only [List.mem_cons, List.not_mem_nil, or_false] at sign
  rcases sign with sign | rfl | rfl | rfl | rfl
  · exact safe.name.absent c sign
  · exact safe.nameSigns '=' (by decide)
  · exact safe.nameSigns '!' (by decide)
  · exact safe.nameSigns '%' (by decide)
  · exact safe.name.inline

theorem value_lacks (safe : SafeCondition condition) (c : Char) (sign : isSign c = true ∨ c ∈ ['=', '!', '%', '\n']) :
    c ∉ condition.value.toList := by
  simp only [List.mem_cons, List.not_mem_nil, or_false] at sign
  rcases sign with sign | rfl | rfl | rfl | rfl
  · exact safe.value.absent c sign
  · exact safe.valueSigns '=' (by decide)
  · exact safe.valueSigns '!' (by decide)
  · exact safe.valueSigns '%' (by decide)
  · exact safe.value.inline

theorem body_lacks (safe : SafeCondition condition) (c : Char) (sign : isSign c = true ∨ c ∈ ['=', '!', '%', '\n'])
    (other : c ∉ condition.comparison.symbol.toList) : c ∉ conditionBody condition := by
  rw [conditionBody, List.mem_append, List.mem_append]
  rintro (member | member | member)
  · exact safe.name_lacks c sign member
  · exact other member
  · exact safe.value_lacks c sign member

theorem no_percentage (safe : SafeCondition condition) : isPercentage (conditionBody condition) = false := by
  have lacking : '%' ∉ conditionBody condition :=
    safe.body_lacks '%' (.inr (by decide)) (by cases condition.comparison <;> decide)
  have all : (conditionBody condition).dropWhile (· ≠ '%') = [] := by
    refine List.dropWhile_eq_nil_iff.mpr fun c member => decide_eq_true fun same => ?_
    exact lacking (same ▸ member)
  rw [isPercentage, all]

theorem recoverable (safe : SafeCondition condition) : RecoverableCondition condition where
  named := by simpa using safe.name.nonempty_list
  valued := by simpa using safe.value.nonempty_list
  unsigned := by
    refine List.any_eq_false.mpr fun c member signed => ?_
    simp only [isExpressionSign, Bool.or_eq_true, beq_iff_eq, or_assoc] at signed
    rcases signed with rfl | rfl | rfl | rfl | rfl | rfl | rfl
    · exact safe.nameSigns '+' (by decide) member
    · exact safe.nameSigns '-' (by decide) member
    · exact safe.nameSigns '*' (by decide) member
    · exact safe.nameSigns '/' (by decide) member
    · exact safe.name.absent '>' (by decide) member
    · exact safe.name.absent '<' (by decide) member
    · exact safe.nameSigns '=' (by decide) member
  unmarked := safe.noAd
  apart := fun _ rest value => absurd (value ▸ List.mem_cons_self) (safe.valueSigns '=' (by decide))

theorem read (safe : SafeCondition condition) : ReadCondition condition :=
  ⟨safe.name.tight, safe.name.inline, safe.value.tight, safe.value.inline⟩

theorem unrivalled (safe : SafeCondition condition) : Unrivalled condition := by
  intro tried _ left right value
  obtain ⟨c, rest, symbol, sign⟩ : ∃ c rest, tried.symbol.toList = c :: rest ∧ (isSign c = true ∨ c ∈ ['=', '!', '%', '\n']) := by
    cases tried <;> exact ⟨_, _, rfl, by decide⟩
  refine absurd ?_ (safe.value_lacks c sign)
  rw [value, symbol]
  simp

theorem text_body (safe : SafeCondition condition) : (conditionText condition).toList = conditionBody condition :=
  text_of_unsigned condition safe.recoverable.unsigned

theorem body_reads (safe : SafeCondition condition) : condition? (conditionBody condition) = some condition :=
  condition_again condition safe.recoverable safe.read safe.unrivalled safe.no_percentage

theorem body_nonempty (safe : SafeCondition condition) : conditionBody condition ≠ [] :=
  List.append_ne_nil_of_left_ne_nil safe.name.nonempty_list _

theorem body_half (safe : SafeCondition condition) : ∀ c ∈ conditionBody condition, isWide c = false := by
  intro c member
  rw [conditionBody, List.mem_append, List.mem_append] at member
  rcases member with member | member | member
  · exact safe.name.halfWidth c member
  · revert c
    cases condition.comparison <;> decide
  · exact safe.value.halfWidth c member

end SafeCondition

def conditionPiece (condition : Condition) : List Char :=
  '《' :: (conditionBody condition ++ ['》'])

theorem condition_piece_parts (condition : Condition) : conditionPiece condition =
    ('《' :: condition.name.toList) ++ (condition.comparison.symbol.toList ++ (condition.value.toList ++ ['》'])) := by
  simp [conditionPiece, conditionBody]

theorem condition_tag_piece (condition : Condition) (safe : SafeCondition condition) :
    (conditionTag condition).toList = conditionPiece condition := by
  rw [conditionTag, String.toList_append, String.toList_append, safe.text_body]
  rfl

theorem condition_tags_pieces (conditions : List Condition) (safe : ∀ condition ∈ conditions, SafeCondition condition) :
    conditions.flatMap (fun condition => (conditionTag condition).toList) = conditions.flatMap conditionPiece := by
  rw [List.flatMap_def, List.flatMap_def, List.map_congr_left fun condition member =>
    condition_tag_piece condition (safe condition member)]

theorem body_no_guillemet (condition : Condition) (safe : SafeCondition condition) :
    '《' ∉ conditionBody condition ∧ '》' ∉ conditionBody condition :=
  ⟨safe.body_lacks '《' (.inl (by decide)) (by cases condition.comparison <;> decide),
    safe.body_lacks '》' (.inl (by decide)) (by cases condition.comparison <;> decide)⟩

theorem condition_piece_tame (condition : Condition) (safe : SafeCondition condition) :
    Tame ['['] (conditionPiece condition) := by
  refine Tame.enclosed '《' '》' _ (by decide) (by decide) (by decide) (fun c member sign => ?_) safe.body_half
  rw [List.mem_singleton.mp sign] at member
  exact safe.body_lacks '[' (.inl (by decide)) (by cases condition.comparison <;> decide) member

theorem condition_piece_reads (condition : Condition) (safe : SafeCondition condition) :
    guillemet.Reads (conditionPiece condition) (conditionBody condition) :=
  Scanner.reads_span '《' '》' _ safe.body_nonempty (body_no_guillemet condition safe).2

theorem condition_piece_skips {α : Type} (condition : Condition) (safe : SafeCondition condition) (s : Scanner α)
    (opens : s.Opens '《') (refuses : s.Refuses (conditionPiece condition)) : s.Skips (conditionPiece condition) := by
  have single : '《' ∉ conditionBody condition ++ ['》'] := by
    simpa using (body_no_guillemet condition safe).1
  exact fun rest => ⟨refuses rest, s.misses_unopened '《' opens _ rest single⟩

-- Only the operator of a condition can open a tag in angle brackets, and what follows it is the value.
theorem angled_misses_condition {α : Type} (s : Scanner α) (opens : s.Opens '<') (condition : Condition)
    (safe : SafeCondition condition) (rest : List Char)
    (less : condition.comparison = .less → StateT.run s ('<' :: (condition.value.toList ++ '》' :: rest)) = none)
    (atMost : condition.comparison = .atMost → StateT.run s ('<' :: '=' :: (condition.value.toList ++ '》' :: rest)) = none) :
    s.Misses (conditionPiece condition) rest := by
  have noAngle : '<' ∉ '《' :: condition.name.toList := by
    rw [List.mem_cons, not_or]
    exact ⟨by decide, safe.name.absent '<' (by decide)⟩
  have single : '<' ∉ condition.value.toList ++ ['》'] := by
    rw [List.mem_append, List.mem_singleton, not_or]
    exact ⟨safe.value.absent '<' (by decide), by decide⟩
  have operator : s.Misses condition.comparison.symbol.toList (condition.value.toList ++ ['》'] ++ rest) := by
    rw [List.append_assoc, List.singleton_append]
    cases comparison : condition.comparison with
    | less => exact ⟨less comparison, trivial⟩
    | atMost => exact ⟨atMost comparison, opens '=' _ (by decide), trivial⟩
    | equal => exact s.misses_unopened '<' opens _ _ (by decide)
    | unequal => exact s.misses_unopened '<' opens _ _ (by decide)
    | greater => exact s.misses_unopened '<' opens _ _ (by decide)
    | atLeast => exact s.misses_unopened '<' opens _ _ (by decide)
  rw [condition_piece_parts, Scanner.misses_append, Scanner.misses_append]
  exact ⟨s.misses_unopened '<' opens _ _ noAngle, operator, s.misses_unopened '<' opens _ _ single⟩

theorem conditions_skip {α : Type} (conditions : List Condition) (safe : ∀ condition ∈ conditions, SafeCondition condition)
    (s : Scanner α) (opens : s.Opens '《') (refuses : ∀ condition, SafeCondition condition → s.Refuses (conditionPiece condition)) :
    s.Skips (conditions.flatMap conditionPiece) :=
  s.skips_flat_map conditions conditionPiece fun condition member =>
    condition_piece_skips condition (safe condition member) s opens (refuses condition (safe condition member))

theorem condition_refuses_ad (condition : Condition) (safe : SafeCondition condition) :
    Scanner.Refuses ad (conditionPiece condition) := by
  obtain ⟨c, member, other⟩ : ∃ c ∈ condition.comparison.symbol.toList, Scanner.isAdSign c = false := by
    cases condition.comparison <;> exact ⟨_, List.mem_cons_self, by decide⟩
  refine Scanner.ad_refuses _ (body_no_guillemet condition safe).2 c ?_ other
  exact List.mem_append_right _ (List.mem_append_left _ member)

-- Conditions in front of a text without guillemets all move into the record, in their order.
theorem conditions_front {R : Type} (add : Condition → R → R) (conditions : List Condition) (ending : List Char)
    (record : R) (safe : ∀ condition ∈ conditions, SafeCondition condition) (tight : Tight ending)
    (clear : '《' ∉ ending) :
    (conditionRule add).apply (conditions.flatMap conditionPiece ++ ending, record) =
      .ok (ending, conditions.foldl (fun record condition => add condition record) record) := by
  refine Rule.every_front conditionPiece add ending _ guillemet _ conditionBody conditions record tight
    (guillemet.all_none _ (guillemet.misses_unopened '《' (Scanner.opens_span '《' '》') _ _ clear))
    (fun condition member => ?_) fun condition member record => ?_
  · exact ⟨List.cons_ne_nil _ _, tight_enclosed '《' '》' _ (by decide) (by decide),
      condition_piece_reads condition (safe condition member)⟩
  · rw [(safe condition member).body_reads]
    rfl

end TaggedStory.Tag
