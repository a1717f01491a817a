import TaggedStory.Proofs.Node.BlackScreen
import TaggedStory.Proofs.Node.Rereading
/-!
Videos that survive their own text. The tags stand in the order of the rules, so that each rule finds its
tag in front; what the rules leave is the name.
-/
set_option autoImplicit false

namespace TaggedStory.Video

open Decimal Text Scanner Tag Mark

-- No value behind the tag of the black screen holds its word.
structure Bright (node : NodeOf Video) : Prop where
  name : Hushed node.header.name
  jump : Hushed node.body.jumpPointId
  random : Hushed node.body.probabilityExpression
  achievement : Hushed node.body.achievementName
  analytics : Hushed node.body.analyticsKey
  bar : Hushed node.body.variableBarName
  products : ∀ product ∈ node.body.showcaseProducts, Hushed product
  limits : ∀ tag ∈ limitTags node.body, Hushed tag.2.name ∧ Hushed tag.2.value
  rates : ∀ rate ∈ node.body.rates, Hushed rate.name
  conditions : ∀ condition ∈ node.body.conditions, Hushed condition.name ∧ Hushed condition.value
  effects : ∀ effect ∈ node.body.effects, Hushed effect.name ∧ Hushed effect.value

-- What the text can say of a video; all other fields keep their defaults.
structure Writable (isStart : Bool) (node : NodeOf Video) : Prop where
  name : Plain node.header.name
  header : node.header = { name := node.header.name, title := node.header.title }
  titled : Titled isStart node
  bare : node.body = {
    loop := node.body.loop, description := node.body.description, showWhenUnavailable := node.body.showWhenUnavailable
    conditions := node.body.conditions, effects := node.body.effects, rates := node.body.rates
    isCheckpoint := node.body.isCheckpoint, isEndpoint := node.body.isEndpoint, isDeadpoint := node.body.isDeadpoint
    isBlackScreen := node.body.isBlackScreen, isReset := node.body.isReset, isMemory := node.body.isMemory
    memoryName := node.body.memoryName, isDialog := node.body.isDialog, dialogText := node.body.dialogText
    dialogSpeaker := node.body.dialogSpeaker, dialogAudioPath := node.body.dialogAudioPath
    unlockAchievement := node.body.unlockAchievement, achievementName := node.body.achievementName
    analyticsKey := node.body.analyticsKey, isRandom := node.body.isRandom
    probabilityExpression := node.body.probabilityExpression, hasRandomTime := node.body.hasRandomTime
    randomTimeMin := node.body.randomTimeMin, randomTimeMax := node.body.randomTimeMax
    showVariableBar := node.body.showVariableBar, variableBarName := node.body.variableBarName
    variableBarColor := node.body.variableBarColor, variableBarPosition := node.body.variableBarPosition
    isJumpPoint := node.body.isJumpPoint, jumpPointId := node.body.jumpPointId
    isShowcase := node.body.isShowcase, showcaseProducts := node.body.showcaseProducts
    maxOverrides := node.body.maxOverrides, minOverrides := node.body.minOverrides }
  time : Timed node.body
  dialog : Spoken node.body
  memory : Switched node.body.isMemory node.body.memoryName
  jump : Switched node.body.isJumpPoint node.body.jumpPointId
  random : Switched node.body.isRandom node.body.probabilityExpression
  achievement : Switched node.body.unlockAchievement node.body.achievementName
  analytics : node.body.analyticsKey = "" ∨ Plain node.body.analyticsKey
  bar : Barred node.body
  showcase : Shown node.body
  limits : ∀ tag ∈ limitTags node.body, WritableLimit tag.2
  rates : ∀ rate ∈ node.body.rates, WritableRate rate
  conditions : ∀ condition ∈ node.body.conditions, SafeCondition condition
  noLimit : ∀ condition ∈ node.body.conditions, condition.comparison = .less →
    StateT.run defaultLimit condition.value.toList = none
  effects : ∀ effect ∈ node.body.effects, SafeEffect effect
  black : node.body.isBlackScreen = true ∨ Bright node

section Pieces

variable (isStart : Bool) (node : NodeOf Video)

def frontRow : List (List Char) :=
  [flagPiece isStart startWord, checkpointPiece node, flagPiece node.body.loop "[循环视频]", timePiece node.body,
    dialogPiece node.body, valuedPiece "[回忆节点:" node.body.memoryName, flagPiece node.body.isDeadpoint deathWord,
    flagPiece node.body.isEndpoint "[结束节点]", blackPiece node, flagPiece node.body.isReset resetWord,
    valuedPiece "[跳转点:" node.body.jumpPointId, flagPiece (!node.body.showWhenUnavailable) hiddenWord,
    valuedPiece "[随机:" (bracketExpression node.body)]

def frontLeads : List String :=
  [startWord, "[CP", "[循环视频]", "[随机时间事件(", "[对话框", "[回忆节点:", deathWord, "[结束节点]", "[黑屏视频节点]", resetWord,
    "[跳转点:", hiddenWord, "[随机:"]

def backRow (video : Video) : List (List Char) :=
  [valuedPiece "[解锁成就:" video.achievementName, valuedPiece "[数据统计:" video.analyticsKey, barPiece video,
    showcasePiece video]

def backLeads : List String :=
  ["[解锁成就:", "[数据统计:", "[变量条:", "[带货节点:"]

def ending : List Char :=
  node.body.effects.flatMap effectPiece ++ node.header.name.toList

def afterRates : List Char :=
  node.body.conditions.flatMap conditionPiece ++ ending node

def afterLimits : List Char :=
  node.body.rates.flatMap ratePiece ++ afterRates node

def afterRows : List Char :=
  (limitTags node.body).flatMap limitPiece ++ afterLimits node

-- The text from a tag of the second row on.
def backFrom (n : Nat) : List Char :=
  ((backRow node.body).drop n).flatten ++ afterRows node

-- The text from a tag of the first row on; the random expression stands between the rows.
def frontFrom (n : Nat) : List Char :=
  ((frontRow isStart node).drop n).flatten ++ (expressionPiece node.body ++ backFrom node 0)

theorem front_from (n : Nat) (piece : List Char) (stands : (frontRow isStart node)[n]? = some piece) :
    frontFrom isStart node n = piece ++ frontFrom isStart node (n + 1) := by
  rw [frontFrom, row_from _ n piece stands, List.append_assoc, frontFrom]

theorem back_from (n : Nat) (piece : List Char) (stands : (backRow node.body)[n]? = some piece) :
    backFrom node n = piece ++ backFrom node (n + 1) := by
  rw [backFrom, row_from _ n piece stands, List.append_assoc, backFrom]

variable (writable : Writable isStart node)

include writable

theorem front_row : List.Forall₂ Bracketed frontLeads (frontRow isStart node) :=
  .cons (flag_bracketed _ _ (by decide) (by decide)) (.cons (checkpoint_bracketed _ _ writable.titled)
    (.cons (flag_bracketed _ _ (by decide) (by decide)) (.cons (time_written _ writable.time).2
      (.cons (dialog_bracketed _ writable.dialog)
        (.cons (valued_bracketed _ _ (by decide) (by decide) (switched_text _ _ writable.memory))
          (.cons (flag_bracketed _ _ (by decide) (by decide)) (.cons (flag_bracketed _ _ (by decide) (by decide))
            (.cons (flag_bracketed _ _ (by decide) (by decide)) (.cons (flag_bracketed _ _ (by decide) (by decide))
              (.cons (valued_bracketed _ _ (by decide) (by decide) (switched_text _ _ writable.jump))
                (.cons (flag_bracketed _ _ (by decide) (by decide)) (.cons (valued_bracketed _ _ (by decide) (by decide)
                  (bracket_expression_either _ writable.random)) .nil))))))))))))

theorem back_row : List.Forall₂ Bracketed backLeads (backRow node.body) :=
  .cons (valued_bracketed _ _ (by decide) (by decide) (switched_text _ _ writable.achievement))
    (.cons (valued_bracketed _ _ (by decide) (by decide) writable.analytics)
      (.cons (bar_bracketed _ writable.bar) (.cons (showcase_bracketed _ writable.showcase) .nil)))

theorem text_written : text node isStart = .ok (String.ofList (frontFrom isStart node 0)) := by
  have conditions := condition_tags_pieces node.body.conditions writable.conditions
  have effects := effect_tags_pieces node.body.effects
  have limits : (limitTags node.body).flatMap limitPiece =
      node.body.minOverrides.flatMap (fun limit => ("<最小默认值:" ++ limit.name ++ ":" ++ limit.value ++ ">").toList) ++
        node.body.maxOverrides.flatMap fun limit => ("<最大默认值:" ++ limit.name ++ ":" ++ limit.value ++ ">").toList := by
    simp [limitTags, limitPiece, limitBody, limitWordText, List.flatMap_map]
  have memory := switched_tag _ "[回忆节点:" _ writable.memory
  have jump := switched_tag _ "[跳转点:" _ writable.jump
  have random := random_tag_pieces _ writable.random
  have achievement := switched_tag _ "[解锁成就:" _ writable.achievement
  have analytics : (tagIf (node.body.analyticsKey ≠ "") ("[数据统计:" ++ node.body.analyticsKey ++ "]")).toList =
      valuedPiece "[数据统计:" node.body.analyticsKey := by
    by_cases empty : node.body.analyticsKey = "" <;> simp [empty, tagIf, valuedPiece]
  rw [text, (time_written _ writable.time).1]
  refine congrArg Except.ok (String.toList_inj.mp ?_)
  rw [tagIf] at achievement
  simp only [tagsBefore, tagsAfter, achievementTag, String.toList_join, List.flatMap_append, List.flatMap_cons,
    List.flatMap_nil, List.flatMap_map, List.append_assoc, List.append_nil, List.cons_append, List.nil_append, memory, jump, random,
    achievement, analytics, conditions, effects, String.toList_ofList, frontFrom, backFrom, afterRows, afterLimits,
    afterRates, ending, limits, List.drop_zero, frontRow, backRow, List.flatten_cons, List.flatten_nil]
  rfl

end Pieces

section Tails

variable (isStart : Bool) (node : NodeOf Video) (writable : Writable isStart node)

include writable

theorem ending_tame : Tame ['[', '《'] (ending node) :=
  Tame.append _ _ (Tame.flatMap _ _ fun effect member => effect_piece_tame effect (writable.effects effect member) _ (by decide))
    (Tame.plain _ writable.name (by decide))

theorem after_rates_tame : Tame ['['] (afterRates node) :=
  Tame.append _ _ (Tame.flatMap _ _ fun condition member => condition_piece_tame condition (writable.conditions condition member))
    ((ending_tame isStart node writable).fewer _ _ (by decide))

theorem after_limits_tame : Tame ['['] (afterLimits node) :=
  Tame.append _ _ ((Tame.flatMap _ _ fun rate member => rate_piece_tame rate (writable.rates rate member)).fewer _ _ (by decide))
    (after_rates_tame isStart node writable)

theorem after_rows_tame : Tame ['['] (afterRows node) :=
  Tame.append _ _ ((Tame.flatMap _ _ fun tag member => limit_piece_tame tag (writable.limits tag member)).fewer _ _ (by decide))
    (after_limits_tame isStart node writable)

theorem back_tame (n : Nat) : Tame [] (backFrom node n) :=
  Tame.append _ _ ((row_tame _ _ (List.forall₂_drop n (back_row isStart node writable))).fewer _ _ (by simp))
    ((after_rows_tame isStart node writable).fewer _ _ (by simp))

theorem front_tame (n : Nat) : Tame [] (frontFrom isStart node n) :=
  Tame.append _ _ ((row_tame _ _ (List.forall₂_drop n (front_row isStart node writable))).fewer _ _ (by simp))
    (Tame.append _ _ ((expression_tame _ writable.random).fewer _ _ (by simp)) (back_tame isStart node writable 0))

section Absence

variable {α : Type} (s : Scanner α) (opens : Opens s '[') (n : Nat)

include opens

theorem back_missed (refuses : ∀ lead ∈ backLeads.drop n, Refuses s lead.toList) : s.Misses (backFrom node n) [] :=
  row_missed _ _ (List.forall₂_drop n (back_row isStart node writable)) s opens refuses _
    ((after_rows_tame isStart node writable).absent '[' (by decide))

theorem front_missed (refuses : ∀ lead ∈ frontLeads.drop n ++ backLeads, Refuses s lead.toList) :
    s.Misses (frontFrom isStart node n) [] := by
  have front := row_skips _ _ (List.forall₂_drop n (front_row isStart node writable)) s opens fun lead member =>
    refuses lead (List.mem_append_left _ member)
  have clear := (expression_tame _ writable.random).absent '[' (by decide)
  have back := back_missed isStart node writable s opens 0 fun lead member => refuses lead (List.mem_append_right _ member)
  rw [frontFrom, s.misses_append, s.misses_append]
  exact ⟨front _, s.misses_unopened '[' opens _ _ clear, back⟩

omit opens

variable (expected : String) (begins : Begins s expected) (first : expected.toList.head? = some '[')

include begins first

theorem back_absent (clashes : ∀ lead ∈ backLeads.drop n, clash expected.toList lead.toList = true) :
    s.first? (backFrom node n) = none :=
  s.first_none _ (back_missed isStart node writable s (opens_begins s expected '[' begins first) n
    (begins_refuses s expected begins _ clashes))

theorem front_absent (clashes : ∀ lead ∈ frontLeads.drop n ++ backLeads, clash expected.toList lead.toList = true) :
    s.first? (frontFrom isStart node n) = none :=
  s.first_none _ (front_missed isStart node writable s (opens_begins s expected '[' begins first) n
    (begins_refuses s expected begins _ clashes))

end Absence

-- A recogniser that starts at a guillemet passes over all between the random expression and the conditions.
theorem back_guillemets : ∃ piece, backFrom node 0 = piece ++ afterRates node ∧ '《' ∉ piece := by
  have row := (row_tame _ _ (back_row isStart node writable)).absent '《' (by decide)
  have limits := (Tame.flatMap _ _ fun tag member => limit_piece_tame tag (writable.limits tag member)).absent '《' (by decide)
  have rates := (Tame.flatMap _ _ fun rate member => rate_piece_tame rate (writable.rates rate member)).absent '《' (by decide)
  refine ⟨(backRow node.body).flatten ++ ((limitTags node.body).flatMap limitPiece ++ node.body.rates.flatMap ratePiece), ?_, ?_⟩
  · simp only [backFrom, List.drop_zero, afterRows, afterLimits, List.append_assoc]
  · rw [List.mem_append, List.mem_append, not_or, not_or]
    exact ⟨row, limits, rates⟩

theorem no_ad : ad.first? (frontFrom isStart node 0) = none := by
  have front := (row_tame _ _ (front_row isStart node writable)).absent '《' (by decide)
  obtain ⟨piece, shape, back⟩ := back_guillemets isStart node writable
  have conditions := conditions_skip node.body.conditions writable.conditions ad opens_ad condition_refuses_ad
  have unopened := fun piece rest => ad.misses_unopened '《' opens_ad piece rest
  rw [frontFrom, List.drop_zero, ad.first_misses _ _ (unopened _ _ front),
    ad.first_misses _ _ (expression_skips_ad _ writable.random _), shape, ad.first_misses _ _ (unopened _ _ back), afterRates,
    ad.first_misses _ _ (conditions _)]
  exact ad.first_none _ (unopened _ _ ((ending_tame isStart node writable).absent '《' (by decide)))

theorem guillemets_conditions : ∀ found ∈ guillemet.all (backFrom node 0), isRandomExpression found.value = false := by
  have opens : Opens guillemet '《' := opens_span '《' '》'
  obtain ⟨piece, shape, back⟩ := back_guillemets isStart node writable
  have ends := (ending_tame isStart node writable).absent '《' (by decide)
  have read := Rule.all_front conditionPiece (ending node) guillemet conditionBody node.body.conditions fun condition member =>
    ⟨List.cons_ne_nil _ _, condition_piece_reads condition (writable.conditions condition member)⟩
  rw [shape, guillemet.all_misses _ _ (guillemet.misses_unopened '《' opens _ _ back), afterRates, read,
    guillemet.all_none _ (guillemet.misses_unopened '《' opens _ _ ends), List.append_nil]
  intro found member
  obtain ⟨condition, present, rfl⟩ := List.mem_map.mp member
  have reads : isCondition (conditionBody condition) = true := by
    rw [isCondition, (writable.conditions condition present).body_reads]
    rfl
  simp [isRandomExpression, reads]

theorem no_limit : limit.all (afterLimits node) = [] := by
  have rates := limit.skips_flat_map node.body.rates ratePiece fun rate member =>
    limit_skips_rate rate (writable.rates rate member)
  have conditions := limit.skips_flat_map node.body.conditions conditionPiece fun condition member =>
    limit_skips_condition condition (writable.conditions condition member) (writable.noLimit condition member)
  have effects := limit.skips_flat_map node.body.effects effectPiece fun effect member =>
    limit_skips_effect effect (writable.effects effect member)
  have name : '<' ∉ node.header.name.toList := writable.name.absent '<' (by decide)
  rw [afterLimits, limit.all_misses _ _ (rates _), afterRates, limit.all_misses _ _ (conditions _), ending,
    limit.all_misses _ _ (effects _)]
  exact limit.all_none _ (limit.misses_unopened '<' opens_limit _ _ name)

theorem no_rate : rate.all (afterRates node) = [] := by
  have closes : ClosesAfterName (ending node) :=
    effects_close node.body.effects node.header.name.toList (writable.name.absent '>' (by decide))
  have effects := rate.skips_flat_map node.body.effects effectPiece fun effect member =>
    rate_skips_effect effect (writable.effects effect member)
  have name : '<' ∉ node.header.name.toList := writable.name.absent '<' (by decide)
  rw [afterRates, rate.all_misses _ _ (rate_misses_conditions _ _ writable.conditions closes), ending,
    rate.all_misses _ _ (effects _)]
  exact rate.all_none _ (rate.misses_unopened '<' opens_rate _ _ name)

theorem no_black (bright : Bright node) : (word blackScreenWord).first? (frontFrom isStart node 9) = none := by
  have expression : Hushed (bracketExpression node.body) := by
    rw [bracketExpression]
    cases isRandomExpression node.body.probabilityExpression.toList with
    | false => exact bright.random
    | true => rfl
  have front : Skips (word blackScreenWord) ((frontRow isStart node).drop 9).flatten :=
    skips_append _ _ _ (literal_skips _ resetWord (by decide)) (skips_append _ _ _ (valued_skips _ _ (by decide) bright.jump)
      (skips_append _ _ _ (literal_skips _ hiddenWord (by decide))
        (skips_append _ _ _ (valued_skips _ _ (by decide) expression) (skips_nil _))))
  have back : Skips (word blackScreenWord) (backRow node.body).flatten :=
    skips_append _ _ _ (valued_skips _ _ (by decide) bright.achievement)
      (skips_append _ _ _ (valued_skips _ _ (by decide) bright.analytics)
        (skips_append _ _ _ (bar_skips _ writable.bar bright.bar)
          (skips_append _ _ _ (showcase_skips _ bright.products) (skips_nil _))))
  have limits := skips_flat_map _ (limitTags node.body) limitPiece fun tag member =>
    limit_skips tag (bright.limits tag member).1 (bright.limits tag member).2
  have rates := skips_flat_map _ node.body.rates ratePiece fun rate member =>
    rate_skips rate (writable.rates rate member) (bright.rates rate member)
  have conditions := skips_flat_map _ node.body.conditions conditionPiece fun condition member =>
    condition_skips condition (bright.conditions condition member).1 (bright.conditions condition member).2
  have effects := skips_flat_map _ node.body.effects effectPiece fun effect member =>
    effect_skips effect (bright.effects effect member).1 (bright.effects effect member).2
  rw [frontFrom, first_misses _ _ _ (front _), first_misses _ _ _ (expression_skips _ bright.random _), backFrom, List.drop_zero,
    first_misses _ _ _ (back _), afterRows, first_misses _ _ _ (limits _), afterLimits, first_misses _ _ _ (rates _), afterRates,
    first_misses _ _ _ (conditions _), ending, first_misses _ _ _ (effects _)]
  exact first_none _ _ (misses_word blackScreenWord _ [] (hushed_absent _ bright.name) (by simp))

end Tails

section Steps

theorem endpoint_step (flag : Bool) (rest : List Char) (so : NodeOf Video) (tight : Tight rest)
    (nothing : endpoint.all rest = []) (fresh : { so.body with isEndpoint := false } = so.body) :
    (Rule.setEvery "endpoint" endpoint fun _ => NodeOf.updateBody fun video => { video with isEndpoint := true }).apply
      (flagPiece flag "[结束节点]" ++ rest, so) = .ok (rest, so.updateBody fun so => { so with isEndpoint := flag }) := by
  cases flag with
  | false =>
      rw [NodeOf.updateBody, fresh]
      exact Rule.every_declined _ _ _ rest so (by simp [nothing])
  | true =>
      exact Rule.every_once _ _ _ "[结束节点]".toList rest () so _ tight (by decide) (fun _ => rfl) rfl (by simp [nothing])

theorem conditions_step (conditions : List Condition) (rest : List Char) (so : NodeOf Video)
    (safe : ∀ condition ∈ conditions, SafeCondition condition) (tight : Tight rest) (clear : '《' ∉ rest) :
    (conditionRule fun condition => NodeOf.updateBody fun video =>
      { video with conditions := video.conditions ++ [condition] }).apply (conditions.flatMap conditionPiece ++ rest, so) =
      .ok (rest, so.updateBody fun so => { so with conditions := so.conditions ++ conditions }) := by
  have added := Rule.collected (fun conditions => NodeOf.updateBody fun so : Video =>
    { so with conditions := so.conditions ++ conditions }) (by simp [NodeOf.updateBody]) (by simp [NodeOf.updateBody]) conditions so
  exact (conditions_front _ conditions rest so safe tight clear).trans (congrArg (fun so => Except.ok (rest, so)) added)

theorem effects_step (effects : List Effect) (rest : List Char) (so : NodeOf Video)
    (safe : ∀ effect ∈ effects, SafeEffect effect) (tight : Tight rest) (noAngle : '<' ∉ rest) (noGuillemet : '《' ∉ rest) :
    (effectRule fun effect => NodeOf.updateBody fun video =>
      { video with effects := video.effects ++ [effect] }).apply (effects.flatMap effectPiece ++ rest, so) =
      .ok (rest, so.updateBody fun so => { so with effects := so.effects ++ effects }) := by
  have added := Rule.collected (fun effects => NodeOf.updateBody fun so : Video =>
    { so with effects := so.effects ++ effects }) (by simp [NodeOf.updateBody]) (by simp [NodeOf.updateBody]) effects so
  exact (effects_front effects rest _ so safe tight noAngle noGuillemet).trans (congrArg (fun so => Except.ok (rest, so)) added)

end Steps

section Run

variable (isStart : Bool) (node : NodeOf Video) (writable : Writable isStart node)

include writable

-- What the rules have set in front of the loop, of the black screen, and of the second row of tags.
def readHeading (video : Video) : Video :=
  { isCheckpoint := video.isCheckpoint, description := video.description }

def readPlaying (video : Video) : Video :=
  { readHeading video with
    loop := video.loop, hasRandomTime := video.hasRandomTime, randomTimeMin := video.randomTimeMin
    randomTimeMax := video.randomTimeMax, isDialog := video.isDialog, dialogSpeaker := video.dialogSpeaker
    dialogText := video.dialogText, dialogAudioPath := video.dialogAudioPath, isMemory := video.isMemory
    memoryName := video.memoryName, isDeadpoint := video.isDeadpoint, isEndpoint := video.isEndpoint }

def readFront (video : Video) : Video :=
  { readHeading video with
    loop := video.loop, hasRandomTime := video.hasRandomTime, randomTimeMin := video.randomTimeMin
    randomTimeMax := video.randomTimeMax, isDialog := video.isDialog, dialogSpeaker := video.dialogSpeaker
    dialogText := video.dialogText, dialogAudioPath := video.dialogAudioPath, isMemory := video.isMemory
    memoryName := video.memoryName, isDeadpoint := video.isDeadpoint, isEndpoint := video.isEndpoint
    isBlackScreen := video.isBlackScreen, isReset := video.isReset, isJumpPoint := video.isJumpPoint
    jumpPointId := video.jumpPointId, showWhenUnavailable := video.showWhenUnavailable
    isRandom := video.isRandom, probabilityExpression := video.probabilityExpression }

theorem heading_read : ∃ name title, Rule.applyAll (rules.take 4) (frontFrom isStart node 0, ⟨{}, {}⟩) =
      .ok (frontFrom isStart node 2, ⟨{ name := name, title := title }, readHeading node.body⟩) ∧
    orElse title node.header.name = node.header.title := by
  have tight := fun n => (front_tame isStart node writable n).tight
  have noStart := front_absent isStart node writable (word startWord) 1 startWord (begins_word _) (by decide) (by decide)
  have noNamed := front_absent isStart node writable (valued "[CP") 2 "[CP" (begins_valued _) (by decide) (by decide)
  have noPlain := front_absent isStart node writable (word "[CP]") 2 "[CP]" (begins_word _) (by decide) (by decide)
  obtain ⟨name, title, read, titled⟩ := checkpoint_steps isStart node writable.titled (frontFrom isStart node 2)
    ⟨{ title := if isStart then startTitle else "" }, {}⟩ (tight 2) noNamed noPlain rfl rfl
  refine ⟨name, title, ?_, titled⟩
  refine (Rule.apply_all_cons _ _ _ _ (Rule.first_absent _ _ _ _ _ (no_ad isStart node writable))).trans ?_
  rw [front_from isStart node 0 _ rfl]
  refine (Rule.apply_all_cons _ _ _ _ (start_step isStart _ ⟨{}, {}⟩ (tight 1) noStart rfl)).trans ?_
  rw [front_from isStart node 1 _ rfl]
  exact read

theorem playing_read (header : Header) :
    Rule.applyAll ((rules.drop 4).take 6) (frontFrom isStart node 2, ⟨header, readHeading node.body⟩) =
      .ok (frontFrom isStart node 8, ⟨header, readPlaying node.body⟩) := by
  have tight := fun n => (front_tame isStart node writable n).tight
  have noLoop := front_absent isStart node writable (word "[循环视频]") 3 _ (begins_word _) (by decide) (by decide)
  have noTime := front_absent isStart node writable randomTime 4 "[随机时间事件" (begins_bind _ _ _ (begins_word _))
    (by decide) (by decide)
  have noDialog := front_absent isStart node writable dialog 5 "[对话框" (begins_bind _ _ _ (begins_word _))
    (by decide) (by decide)
  have noMemory := front_absent isStart node writable (valued "[回忆节点") 6 _ (begins_valued _) (by decide) (by decide)
  have noDeath := front_absent isStart node writable (word deathWord) 7 _ (begins_word _) (by decide) (by decide)
  have endpointRefuses : ∀ lead ∈ frontLeads.drop 8 ++ backLeads, Refuses endpoint lead.toList := fun lead member =>
    or_else_refuses _ _ _
      (begins_refuses _ "[结束节点]" (begins_word _) (frontLeads.drop 8 ++ backLeads) (by decide) lead member)
      (begins_refuses _ "[终点节点]" (begins_word _) (frontLeads.drop 8 ++ backLeads) (by decide) lead member)
  have endpointOpens : Opens endpoint '[' := opens_or_else _ _ '[' (opens_word _ '[' (by decide)) (opens_word _ '[' (by decide))
  have noEnd := endpoint.all_none _ (front_missed isStart node writable endpoint endpointOpens 8 endpointRefuses)
  rw [front_from isStart node 2 _ rfl]
  refine (Rule.apply_all_cons _ _ _ _ (flag_step "loop" "[循环视频]" node.body.loop (fun flag so => { so with loop := flag })
    _ _ (by decide) (tight 3) noLoop rfl)).trans ?_
  rw [front_from isStart node 3 _ rfl]
  refine (Rule.apply_all_cons _ _ _ _ (time_step node.body writable.time _ _ (tight 4) noTime rfl)).trans ?_
  rw [front_from isStart node 4 _ rfl]
  refine (Rule.apply_all_cons _ _ _ _ (dialog_step node.body writable.dialog _ _ (tight 5) noDialog rfl)).trans ?_
  rw [front_from isStart node 5 _ rfl]
  refine (Rule.apply_all_cons _ _ _ _ (switched_step "memory" "[回忆节点" "[回忆节点:" _ _
    (fun flag name so => { so with isMemory := flag, memoryName := name }) _ _ (by decide) (tight 6) noMemory writable.memory
    rfl)).trans ?_
  rw [front_from isStart node 6 _ rfl]
  refine (Rule.apply_all_cons _ _ _ _ (flag_step "death" deathWord node.body.isDeadpoint
    (fun flag so => { so with isDeadpoint := flag }) _ _ (by decide) (tight 7) noDeath rfl)).trans ?_
  rw [front_from isStart node 7 _ rfl]
  exact Rule.apply_all_cons _ [] _ _ (endpoint_step node.body.isEndpoint _ _ (tight 8) noEnd rfl)

theorem front_read (header : Header) :
    Rule.applyAll ((rules.drop 10).take 7) (frontFrom isStart node 8, ⟨header, readPlaying node.body⟩) =
      .ok (backFrom node 0, ⟨header, readFront node.body⟩) := by
  have tight := fun n => (front_tame isStart node writable n).tight
  have noTag := front_absent isStart node writable blackScreen 9 "[黑屏视频" begins_black (by decide) (by decide)
  have noReset := front_absent isStart node writable (word resetWord) 10 _ (begins_word _) (by decide) (by decide)
  have noJump := front_absent isStart node writable (valued "[跳转点") 11 _ (begins_valued "[跳转点") (by decide) (by decide)
  have noHidden := front_absent isStart node writable (word hiddenWord) 12 _ (begins_word _) (by decide) (by decide)
  have noRandom := front_absent isStart node writable (valued "[随机") 13 _ (begins_valued "[随机") (by decide) (by decide)
  have named : node.header.name.toList <:+: frontFrom isStart node 9 := by
    refine List.IsSuffix.isInfix ?_
    simp only [frontFrom, backFrom, afterRows, afterLimits, afterRates, ending, ← List.append_assoc]
    exact List.suffix_append _ _
  have black : node.body.isBlackScreen = true ∨ (word blackScreenWord).first? (frontFrom isStart node 9) = none :=
    writable.black.imp_right (no_black isStart node writable)
  rw [front_from isStart node 8 _ rfl]
  refine (Rule.apply_all_append _ _ _ _ (black_steps node _ _ (tight 9) noTag named black rfl)).trans ?_
  rw [front_from isStart node 9 _ rfl]
  refine (Rule.apply_all_cons _ _ _ _ (flag_step "reset_to_checkpoint" resetWord node.body.isReset
    (fun flag so => { so with isReset := flag }) _ _ (by decide) (tight 10) noReset rfl)).trans ?_
  rw [front_from isStart node 10 _ rfl]
  refine (Rule.apply_all_cons _ _ _ _ (switched_step "jump_point" "[跳转点" "[跳转点:" _ _
    (fun flag name so => { so with isJumpPoint := flag, jumpPointId := name }) _ _ (by decide) (tight 11) noJump writable.jump
    rfl)).trans ?_
  rw [front_from isStart node 11 _ rfl]
  refine (Rule.apply_all_cons _ _ _ _ (flag_step "hidden" hiddenWord (!node.body.showWhenUnavailable)
    (fun flag so => { so with showWhenUnavailable := !flag }) _ _ (by decide) (tight 12) noHidden rfl)).trans ?_
  rw [front_from isStart node 12 _ rfl]
  refine (random_steps node.body writable.random (backFrom node 0) _ (back_tame isStart node writable 0).tight noRandom
    (guillemets_conditions isStart node writable) rfl).trans ?_
  rw [Bool.not_not]
  rfl

theorem back_read (header : Header) :
    Rule.applyAll (rules.drop 17) (backFrom node 0, ⟨header, readFront node.body⟩) =
      .ok (node.header.name.toList, ⟨header, node.body⟩) := by
  have tight := fun n => (back_tame isStart node writable n).tight
  have noName := back_absent isStart node writable achievement 1 _ (begins_valued "[解锁成就") (by decide) (by decide)
  have noKey := back_absent isStart node writable (valued "[数据统计") 2 _ (begins_valued "[数据统计") (by decide) (by decide)
  have noBar := variableBar.first_none _ (back_missed isStart node writable variableBar
    (opens_bind _ _ '[' (opens_char '[')) 3 fun lead member => by
      rw [List.mem_singleton.mp member]
      exact fun _ => rfl)
  have noProducts := back_absent isStart node writable showcase 4 "[带货节点" (begins_bind _ _ _ (begins_word _))
    (by decide) (by decide)
  have endingTame := ending_tame isStart node writable
  rw [back_from node 0 _ rfl]
  refine (Rule.apply_all_cons _ _ _ _ (switched_step "achievement" "[解锁成就" "[解锁成就:" _ _
    (fun flag name so => { so with unlockAchievement := flag, achievementName := name }) _ _ (by decide) (tight 1) noName
    writable.achievement rfl)).trans ?_
  rw [back_from node 1 _ rfl]
  refine (Rule.apply_all_cons _ _ _ _ (valued_step "analytics" "[数据统计" "[数据统计:" node.body.analyticsKey _
    (fun so => { so with analyticsKey := node.body.analyticsKey }) _ _ (by decide) (tight 2) noKey ?analytics)).trans ?_
  case analytics =>
    refine writable.analytics.imp (fun empty => ⟨empty, ?_⟩) fun plain => ⟨plain, ?_⟩
    · rw [empty]
      rfl
    · rw [plain_text_trimmed _ plain]
  rw [back_from node 2 _ rfl]
  refine (Rule.apply_all_cons _ _ _ _ (bar_step node.body writable.bar _ _ (tight 3) noBar rfl)).trans ?_
  rw [back_from node 3 _ rfl]
  refine (Rule.apply_all_cons _ _ _ _ (showcase_step node.body writable.showcase _ _ (tight 4) noProducts rfl)).trans ?_
  refine (Rule.apply_all_cons _ _ _ _ (limits_front _ _ _ writable.limits (after_limits_tame isStart node writable).tight
    (no_limit isStart node writable))).trans ?_
  refine (Rule.apply_all_cons _ _ _ _ (rates_front _ _ _ writable.rates (after_rates_tame isStart node writable).tight
    (no_rate isStart node writable))).trans ?_
  refine (Rule.apply_all_cons _ _ _ _ (conditions_step _ _ _ writable.conditions endingTame.tight
    (endingTame.absent '《' (by decide)))).trans ?_
  refine (Rule.apply_all_cons _ _ _ _ (effects_step _ _ _ writable.effects writable.name.tight
    (writable.name.absent '<' (by decide)) (writable.name.absent '《' (by decide)))).trans ?_
  exact congrArg (fun video : Video => Except.ok (node.header.name.toList, (⟨header, video⟩ : NodeOf Video))) writable.bare.symm

theorem rules_read : ∃ name title, Rule.applyAll rules (frontFrom isStart node 0, ⟨{}, {}⟩) =
      .ok (node.header.name.toList, ⟨{ name := name, title := title }, node.body⟩) ∧
    orElse title node.header.name = node.header.title := by
  obtain ⟨name, title, heading, titled⟩ := heading_read isStart node writable
  have playing := playing_read isStart node writable { name := name, title := title }
  have front := front_read isStart node writable { name := name, title := title }
  have back := back_read isStart node writable { name := name, title := title }
  have groups : rules = rules.take 4 ++ ((rules.drop 4).take 6 ++ ((rules.drop 10).take 7 ++ rules.drop 17)) := rfl
  refine ⟨name, title, ?_, titled⟩
  rw [groups]
  refine (Rule.apply_all_append _ _ _ _ heading).trans ?_
  refine (Rule.apply_all_append _ _ _ _ playing).trans ?_
  exact (Rule.apply_all_append _ _ _ _ front).trans back

theorem clean_name : clean node.header.name.toList = node.header.name.toList := by
  have plain := writable.name
  rw [clean, erase_none bracket _ (misses_unopened _ '[' (opens_span _ _) _ _ (plain.absent '[' (by decide))),
    erase_none guillemet _ (misses_unopened _ '《' (opens_span _ _) _ _ (plain.absent '《' (by decide))),
    erase_none angle _ (misses_unopened _ '<' (opens_span _ _) _ _ (plain.absent '<' (by decide))),
    erase_none brace _ (misses_unopened _ '\x7b' (opens_span _ _) _ _ (plain.absent '\x7b' (by decide))), plain.trimmed]

theorem finished (name title : String) (titled : orElse title node.header.name = node.header.title) :
    finish node.header.name.toList ⟨{ name := name, title := title }, node.body⟩ = node := by
  have settled : settleName node.header.name.toList { name := name, title := title } =
      { name := node.header.name, title := title } := by
    rw [settleName, clean_name isStart node writable, String.ofList_toList]
    exact if_pos writable.name.nonempty
  rw [finish, NodeOf.mapHeader]
  simp only [settled, titled]
  exact congrArg (fun header => (⟨header, node.body⟩ : NodeOf Video)) writable.header.symm

theorem classified : Kind.ofMarks (frontFrom isStart node 0) = .video := by
  have unmarked := fun (mark : String) nonempty first clashes => not_occurs mark nonempty _
    (front_absent isStart node writable (word mark) 0 mark (begins_word mark) first clashes)
  have tip := unmarked tipWord (by decide) (by decide) (by decide)
  have card := unmarked cardWord (by decide) (by decide) (by decide)
  have jump := unmarked jumpWord (by decide) (by decide) (by decide)
  have bgm := unmarked bgmWord (by decide) (by decide) (by decide)
  have choice := unmarked choiceWord (by decide) (by decide) (by decide)
  have hidden := unmarked hiddenChoiceWord (by decide) (by decide) (by decide)
  have overlay := unmarked "[叠加图片选项" (by decide) (by decide) (by decide)
  have task := front_absent isStart node writable Task.taskCount 0 "[任务节点" (begins_bind _ _ _ (begins_word _))
    (by decide) (by decide)
  simpa [Kind.ofMarks, Kind.marks, Kind.choiceMarks, tip, card, jump, bgm, task, choice, hidden] using overlay

end Run

theorem video_reads_back (isStart : Bool) (node : NodeOf Video) (writable : Writable isStart node) :
    ∃ text, Node.text (node.mapBody .video) isStart = .ok text ∧
      ∀ kind ∈ [none, some Kind.video], Node.parse text kind textEntity {} = .ok (node.mapBody .video) := by
  obtain ⟨name, title, read, titled⟩ := rules_read isStart node writable
  refine ⟨String.ofList (frontFrom isStart node 0), text_written isStart node writable, ?_⟩
  refine Node.parse_again .video _ {} _ ?_ ?_ ?_
  · rw [String.toList_ofList]
    exact (front_tame isStart node writable 0).half
  · rw [String.toList_ofList, classified isStart node writable]
  · simp only [Node.parseAs, Node.parseWith, String.toList_ofList, read, Except.map, finished isStart node writable name title titled]

def tower : NodeOf Video := {
  header := { name := "塔顶", title := "检查点: 第三章" }
  body := {
    loop := true, description := "检查点: 第三章", showWhenUnavailable := false
    conditions := [⟨"钥匙", .less, "3"⟩, ⟨"勇气", .atLeast, "高 档"⟩]
    effects := [⟨"keys", .subtract, "1", .accumulative⟩, ⟨"door", .set, "", .normal⟩]
    rates := [⟨"血量", .finite true (3 * 2 ^ 51) (-52)⟩]
    isCheckpoint := true, isEndpoint := true, isDeadpoint := true, isReset := true, isMemory := true, memoryName := "黑屏视频"
    isDialog := true, dialogText := "谁在那里", dialogSpeaker := "守卫", dialogAudioPath := "guard.mp3"
    unlockAchievement := true, achievementName := "first key", analyticsKey := "tower_top"
    isRandom := true, probabilityExpression := "luck*2", hasRandomTime := true, randomTimeMin := .whole 3
    randomTimeMax := .whole 12, showVariableBar := true, variableBarName := "体力", variableBarColor := "#00fFa0"
    variableBarPosition := "下", isJumpPoint := true, jumpPointId := "J-7", isShowcase := true
    showcaseProducts := ["lamp", "rope 2"], maxOverrides := [⟨"体力", "20"⟩], minOverrides := [⟨"体力", "0"⟩] } }

theorem tower_writable : Writable true tower := by
  have least := Nat.le_of_lt (two_digits_small 3 300 (by decide) (by decide))
  have most := Nat.le_of_lt (two_digits_small 12 300 (by decide) (by decide))
  have amount : PlainAmount (.finite true (3 * 2 ^ 51) (-52)) :=
    .finite true _ _ ⟨by decide, by decide, by decide, .inl (by decide)⟩ (by rw [Double.magnitude]; norm_num)
  exact {
    name := by decide
    header := rfl
    titled := .named "第三章" (by decide) rfl rfl rfl
    bare := rfl
    time := .between 3 12 rfl rfl rfl least most
    dialog := .speech rfl (.inr (by decide)) (by decide) (by decide) (by decide)
    memory := .inr ⟨rfl, by decide⟩
    jump := .inr ⟨rfl, by decide⟩
    random := .inr ⟨rfl, by decide⟩
    achievement := .inr ⟨rfl, by decide⟩
    analytics := .inr (by decide)
    bar := .bar "00fFa0".toList '下' rfl (by decide) (by decide) rfl rfl (by decide) rfl (.inr rfl)
    showcase := .products rfl (by decide)
    limits := by
      intro tag member
      simp only [limitTags, tower, List.map_cons, List.map_nil, List.cons_append, List.nil_append, List.mem_cons,
        List.not_mem_nil, or_false] at member
      rcases member with rfl | rfl <;> exact ⟨by decide, by decide, by decide⟩
    rates := by
      intro rate member
      rw [List.mem_singleton.mp member]
      exact ⟨by decide, by decide, rfl, amount⟩
    conditions := by decide
    noLimit := by
      intro condition member _
      simp only [tower, List.mem_cons, List.not_mem_nil, or_false] at member
      rcases member with rfl | rfl <;> rfl
    effects := by decide
    black := .inr ⟨by decide, by decide, by decide, by decide, by decide, by decide, by decide, by decide, by decide,
      by decide, by decide⟩ }

theorem tower_reads_back : Writable true tower ∧ ∃ text, Node.text (tower.mapBody .video) true = .ok text ∧
    ∀ kind ∈ [none, some Kind.video], Node.parse text kind textEntity {} = .ok (tower.mapBody .video) :=
  ⟨tower_writable, video_reads_back true tower tower_writable⟩

end TaggedStory.Video
