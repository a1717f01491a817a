import TaggedStory.Proofs.Node.Features
/-!
Checkpoints and random expressions. Two rules stand for each of them, and the text decides which of the
two takes the tag.
-/
set_option autoImplicit false

namespace TaggedStory.Video

open Text Scanner Tag Mark

section Titles

-- The title says what the node is: a named checkpoint, a checkpoint, the start, or nothing but its name.
inductive Titled (isStart : Bool) (node : NodeOf Video) : Prop where
  | ordinary (unmarked : node.body.isCheckpoint = false) (undescribed : node.body.description = "")
      (titled : node.header.title = if isStart then startTitle else node.header.name)
  | checkpoint (marked : node.body.isCheckpoint = true) (undescribed : node.body.description = "")
      (titled : node.header.title = checkpointTitle)
  | named (name : String) (plain : Plain name) (marked : node.body.isCheckpoint = true)
      (described : node.body.description = checkpointLead ++ name) (titled : node.header.title = checkpointLead ++ name)

def checkpointPiece (node : NodeOf Video) : List Char :=
  (checkpointTag node).toList

theorem checkpoint_unmarked (node : NodeOf Video) (unmarked : node.body.isCheckpoint = false) : checkpointPiece node = [] := by
  rw [checkpointPiece, checkpointTag, unmarked]
  rfl

theorem checkpoint_plain (node : NodeOf Video) (marked : node.body.isCheckpoint = true)
    (titled : node.header.title = checkpointTitle) : checkpointPiece node = "[CP]".toList := by
  rw [checkpointPiece, checkpointTag, marked, titled]
  rfl

theorem checkpoint_named (node : NodeOf Video) (name : String) (filled : name ≠ "") (marked : node.body.isCheckpoint = true)
    (titled : node.header.title = checkpointLead ++ name) : checkpointPiece node = valuedPiece "[CP:" name := by
  have dropped : dropWord? checkpointLead.toList node.header.title.toList = some name.toList := by
    rw [titled, String.toList_append, drop_word_append]
  rw [checkpointPiece, checkpointTag, marked, dropped, valuedPiece, if_neg filled]
  simp

theorem checkpoint_bracketed (isStart : Bool) (node : NodeOf Video) (titled : Titled isStart node) :
    Bracketed "[CP" (checkpointPiece node) := by
  cases titled with
  | ordinary unmarked =>
      rw [checkpoint_unmarked node unmarked]
      exact bracketed_empty _
  | checkpoint marked _ titled =>
      rw [checkpoint_plain node marked titled]
      exact bracketed_shorter "[CP]" _ _ (by simp) (bracketed_literal _ (by decide) (by decide))
  | named name plain marked _ titled =>
      rw [checkpoint_named node name plain.nonempty marked titled]
      exact bracketed_shorter "[CP:" _ _ (by simp) (valued_bracketed _ name (by decide) (by decide) (.inr plain))

theorem start_step (isStart : Bool) (rest : List Char) (so : NodeOf Video) (tight : Tight rest)
    (absent : (word startWord).first? rest = none) (untitled : so.header.title = "") :
    (Rule.literal "start" startWord (NodeOf.mapHeader fun header => { header with title := startTitle })).apply
      (flagPiece isStart startWord ++ rest, so) =
      .ok (rest, so.mapHeader fun header => { header with title := if isStart then startTitle else "" }) := by
  refine Rule.first_tag _ _ _ _ rest () so _ tight ?_
  cases isStart with
  | false =>
      refine .inl ⟨rfl, absent, ?_⟩
      rw [NodeOf.mapHeader, if_neg Bool.false_ne_true, ← untitled]
  | true => exact .inr ⟨by decide, reads_word startWord, rfl⟩

-- A tag without a name is left by the first rule to the second one.
theorem checkpoint_steps (isStart : Bool) (node : NodeOf Video) (titled : Titled isStart node) (rest : List Char)
    (so : NodeOf Video) (tight : Tight rest) (noNamed : (valued "[CP").first? rest = none)
    (noPlain : (word "[CP]").first? rest = none) (header : so.header = { title := if isStart then startTitle else "" })
    (fresh : { so.body with isCheckpoint := false, description := "" } = so.body) :
    ∃ name title, Rule.applyAll [.set "checkpoint_named" (valued "[CP") setCheckpoint,
        .literal "checkpoint" "[CP]" setPlainCheckpoint] (checkpointPiece node ++ rest, so) =
        .ok (rest, ⟨{ name := name, title := title },
          { so.body with isCheckpoint := node.body.isCheckpoint, description := node.body.description }⟩) ∧
      orElse title node.header.name = node.header.title := by
  cases titled with
  | ordinary unmarked undescribed titled =>
      refine ⟨"", if isStart then startTitle else "", ?_, ?_⟩
      · rw [checkpoint_unmarked node unmarked, List.nil_append]
        refine (Rule.apply_all_cons _ _ _ _ (Rule.first_absent _ _ _ rest so noNamed)).trans ?_
        refine (Rule.apply_all_cons _ _ _ _ (Rule.first_absent _ _ _ rest so noPlain)).trans ?_
        rw [unmarked, undescribed, fresh, ← header]
        rfl
      · rw [titled]
        cases isStart <;> rfl
  | checkpoint marked undescribed titled =>
      refine ⟨"", checkpointTitle, ?_, by rw [titled]; rfl⟩
      have opens : Opens (valued "[CP") '[' := opens_valued _ '[' (by decide)
      have skips := bracketed_skips "[CP]" _ (bracketed_literal _ (by decide) (by decide)) (valued "[CP") opens fun _ => rfl
      have passed := first_misses (valued "[CP") _ rest (skips rest)
      rw [noNamed] at passed
      rw [checkpoint_plain node marked titled]
      refine (Rule.apply_all_cons _ _ _ _ (Rule.first_absent _ _ _ _ so passed)).trans ?_
      refine (Rule.apply_all_cons _ _ _ _ (Rule.first_tag _ (word "[CP]") _ "[CP]".toList rest () so
        (setPlainCheckpoint so) tight (.inr ⟨by decide, reads_word _, rfl⟩))).trans ?_
      rw [marked, undescribed, setPlainCheckpoint, header, ← fresh]
      rfl
  | named name plain marked described titled =>
      refine ⟨name, checkpointLead ++ name, ?_, ?_⟩
      · obtain ⟨nonempty, reads⟩ := reads_valued_piece "[CP" "[CP:" name (by decide) plain
        rw [checkpoint_named node name plain.nonempty marked titled]
        refine (Rule.apply_all_cons _ _ _ _ (Rule.first_tag _ (valued "[CP") _ _ rest name.toList so
          (setCheckpoint name.toList so) tight (.inr ⟨nonempty, reads, rfl⟩))).trans ?_
        refine (Rule.apply_all_cons _ _ _ _ (Rule.first_absent _ _ _ rest _ noPlain)).trans ?_
        rw [marked, described, setCheckpoint, plain_text_trimmed name plain, header]
        rfl
      · rw [titled]
        exact if_neg (by simp [checkpointLead, ← String.toList_inj])

end Titles

section Randoms

variable (video : Video)

-- The expression stands in guillemets if it can be told there from a percentage and from a condition.
def bracketExpression : String :=
  if isRandomExpression video.probabilityExpression.toList then "" else video.probabilityExpression

def expressionPiece : List Char :=
  if isRandomExpression video.probabilityExpression.toList then
    '《' :: (video.probabilityExpression.toList ++ ['》'])
  else []

theorem random_tag_pieces (switched : Switched video.isRandom video.probabilityExpression) :
    (tagIf (video.isRandom && video.probabilityExpression ≠ "") (randomTag video.probabilityExpression)).toList =
      valuedPiece "[随机:" (bracketExpression video) ++ expressionPiece video := by
  rcases switched with ⟨off, empty⟩ | ⟨on, plain⟩
  · rw [bracketExpression, expressionPiece, off, empty]
    rfl
  · have filled : (video.isRandom && decide (video.probabilityExpression ≠ "")) = true := by simp [on, plain.nonempty]
    have either : (video.probabilityExpression.toList.contains '%' || isCondition video.probabilityExpression.toList ||
        !isLikelyCondition video.probabilityExpression.toList) = !isRandomExpression video.probabilityExpression.toList := by
      rw [isRandomExpression, Bool.not_and, Bool.not_and, Bool.not_not, Bool.not_not]
    rw [filled, tagIf, if_pos rfl, randomTag, bracketExpression, expressionPiece]
    simp only [either]
    cases isRandomExpression video.probabilityExpression.toList with
    | false => simp [valuedPiece, plain.nonempty]
    | true => simp [valuedPiece]

theorem bracket_expression_either (switched : Switched video.isRandom video.probabilityExpression) :
    bracketExpression video = "" ∨ Plain (bracketExpression video) := by
  rw [bracketExpression]
  cases isRandomExpression video.probabilityExpression.toList with
  | false => exact switched_text _ _ switched
  | true => exact .inl rfl

theorem random_expression_plain (switched : Switched video.isRandom video.probabilityExpression)
    (random : isRandomExpression video.probabilityExpression.toList = true) : Plain video.probabilityExpression := by
  rcases switched with ⟨_, empty⟩ | ⟨_, plain⟩
  · rw [empty] at random
    cases random
  · exact plain

theorem expression_tame (switched : Switched video.isRandom video.probabilityExpression) :
    Tame ['[', '<', '\x7b'] (expressionPiece video) := by
  rw [expressionPiece]
  by_cases random : isRandomExpression video.probabilityExpression.toList = true
  · have tame : Tame ['[', '<', '\x7b'] video.probabilityExpression.toList :=
      Tame.plain _ (random_expression_plain video switched random) (by decide)
    rw [if_pos random]
    exact Tame.enclosed '《' '》' _ (by decide) (by decide) (by decide) tame.clear tame.half
  · rw [if_neg random]
    exact Tame.nil

-- The sign of an operation cannot stand in an advertisement mark.
theorem expression_skips_ad (switched : Switched video.isRandom video.probabilityExpression) :
    Skips ad (expressionPiece video) := by
  rw [expressionPiece]
  by_cases random : isRandomExpression video.probabilityExpression.toList = true
  · have plain := random_expression_plain video switched random
    obtain ⟨c, member, sign⟩ : ∃ c ∈ video.probabilityExpression.toList, isOperatorSign c = true := by
      rw [isRandomExpression, Bool.and_eq_true, isLikelyCondition, List.any_eq_true] at random
      exact random.2
    have other : isAdSign c = false := by
      simp only [isOperatorSign, Bool.or_eq_true, beq_iff_eq, or_assoc] at sign
      rcases sign with rfl | rfl | rfl | rfl | rfl | rfl | rfl | rfl <;> decide
    have single : '《' ∉ video.probabilityExpression.toList ++ ['》'] := by
      rw [List.mem_append, List.mem_singleton, not_or]
      exact ⟨plain.absent '《' (by decide), by decide⟩
    rw [if_pos random]
    exact fun rest => ⟨ad_refuses _ (plain.absent '》' (by decide)) c member other rest,
      misses_unopened ad '《' opens_ad _ rest single⟩
  · rw [if_neg random]
    exact skips_nil ad

def putRandom (so : Video) : Video :=
  { so with isRandom := video.isRandom, probabilityExpression := video.probabilityExpression }

theorem set_random (node : NodeOf Video) (expression : String) (plain : Plain expression) (unset : node.body.isRandom = false) :
    setRandom node expression.toList = some (node.updateBody fun so =>
      { so with isRandom := true, probabilityExpression := expression }) := by
  rw [setRandom, unset, if_neg Bool.false_ne_true, plain_text_trimmed expression plain]

-- Guillemets behind the expression belong to conditions, which the second rule declines.
theorem random_steps (switched : Switched video.isRandom video.probabilityExpression) (rest : List Char) (so : NodeOf Video)
    (tight : Tight rest) (absent : (valued "[随机").first? (expressionPiece video ++ rest) = none)
    (conditions : ∀ found ∈ guillemet.all rest, isRandomExpression found.value = false)
    (fresh : putRandom {} so.body = so.body) :
    Rule.applyAll [.first "random_bracket" (valued "[随机") fun node body => .ok (setRandom node body),
      .every "random_probability" guillemet fun node content =>
        .ok (if isRandomExpression content then setRandom node content else none)]
      (valuedPiece "[随机:" (bracketExpression video) ++ (expressionPiece video ++ rest), so) =
      .ok (rest, so.updateBody (putRandom video)) := by
  have unset : so.body.isRandom = false := by rw [← fresh]; rfl
  have declined : ∀ node : NodeOf Video, ∀ found ∈ guillemet.all rest,
      (.ok (if isRandomExpression found.value then setRandom node found.value else none) : Attempt (Option (NodeOf Video))) =
        .ok none := fun node found member => by rw [conditions found member, if_neg Bool.false_ne_true]
  rcases switched with ⟨off, empty⟩ | ⟨on, plain⟩
  · have put : putRandom video = putRandom {} := by
      funext so
      rw [putRandom, off, empty]
      rfl
    have noBracket : bracketExpression video = "" := by rw [bracketExpression, empty]; rfl
    have noExpression : expressionPiece video = [] := by rw [expressionPiece, empty]; rfl
    rw [noExpression] at absent
    rw [put, NodeOf.updateBody, fresh, noBracket, noExpression]
    refine (Rule.apply_all_cons _ _ _ _ (Rule.first_absent _ _ _ rest so absent)).trans ?_
    exact Rule.apply_all_cons _ [] _ _ (Rule.every_declined _ _ _ rest so (declined so))
  · have put : putRandom video = fun so => { so with isRandom := true, probabilityExpression := video.probabilityExpression } := by
      funext so
      rw [putRandom, on]
    have set := set_random so video.probabilityExpression plain unset
    rw [← put] at set
    by_cases random : isRandomExpression video.probabilityExpression.toList = true
    · have noBracket : bracketExpression video = "" := if_pos random
      have shape : expressionPiece video = '《' :: (video.probabilityExpression.toList ++ ['》']) := if_pos random
      have reads := reads_span '《' '》' _ plain.nonempty_list (plain.absent '》' (by decide))
      rw [noBracket]
      refine (Rule.apply_all_cons _ _ _ _ (Rule.first_absent _ _ _ _ so absent)).trans ?_
      rw [shape]
      refine Rule.apply_all_cons _ [] _ _ (Rule.every_once _ _ _ _ rest video.probabilityExpression.toList so _ tight
        (List.cons_ne_nil _ _) reads ?_ (declined _))
      rw [if_pos random, set]
    · have bracket : bracketExpression video = video.probabilityExpression := if_neg random
      have noExpression : expressionPiece video = [] := if_neg random
      obtain ⟨nonempty, reads⟩ := reads_valued_piece "[随机" "[随机:" video.probabilityExpression (by decide) plain
      rw [bracket, noExpression]
      refine (Rule.apply_all_cons _ _ _ _ (Rule.first_tag _ _ _ _ rest _ so (so.updateBody (putRandom video)) tight
        (.inr ⟨nonempty, reads, by rw [set]⟩))).trans ?_
      exact Rule.apply_all_cons _ [] _ _ (Rule.every_declined _ _ _ rest _ (declined _))

end Randoms

end TaggedStory.Video
