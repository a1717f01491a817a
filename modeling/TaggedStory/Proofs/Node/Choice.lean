import TaggedStory.Proofs.Node.Probability
import TaggedStory.Proofs.Node.Rereading
import TaggedStory.Proofs.Text.Occurrence
/-!
Choices that survive their own text. The tags are written in the order in which the rules take them,
but for the overlay, which stands before the mark of the kind.
-/
set_option autoImplicit false

namespace TaggedStory.Choice

open Decimal Text Scanner Tag Mark

-- What the text can say of a choice; all other fields keep their defaults.
structure Writable (node : NodeOf Choice) : Prop where
  header : node.header = { name := orElse node.body.text "选项", title := orElse node.body.text "选项" }
  bare : node.body = {
    offer := node.body.offer, text := node.body.text, isProbability := node.body.isProbability,
    probability := node.body.probability, maxCount := node.body.maxCount,
    probabilityExpression := node.body.probabilityExpression, dynamicText := node.body.dynamicText }
  offer : WritableOffer node.body.offer
  probability : WritableProbability node.body
  text : node.body.text = "" ∨ Plain node.body.text
  dynamicText : node.body.dynamicText = "" ∨ Plain node.body.dynamicText

section Pieces

variable (choice : Choice)

def shownPiece : List Char :=
  (if choice.offer.showWhenUnavailable then choiceWord else "").toList

def hiddenPiece : List Char :=
  (if choice.offer.showWhenUnavailable then "" else hiddenChoiceWord).toList

def earlyPiece : List Char :=
  (if choice.offer.preDisplay then earlyWord else "").toList

def dynamicPiece : List Char :=
  (if choice.dynamicText = "" then "" else "\x7b" ++ choice.dynamicText ++ "\x7d").toList

def remainder : List Char :=
  dynamicPiece choice ++ choice.text.toList

def afterConditions : List Char :=
  choice.offer.effects.flatMap effectPiece ++ remainder choice

def afterProbability : List Char :=
  choice.offer.conditions.flatMap conditionPiece ++ afterConditions choice

def afterBrackets : List Char :=
  probabilityPiece choice ++ afterProbability choice

def brackets : List (List Char) :=
  [tierPiece choice.offer, achievementPiece choice.offer, deathPiece choice.offer, overlayPiece choice.offer,
    shownPiece choice, hiddenPiece choice, earlyPiece choice]

def leads : List String :=
  ["[层级:", "[解锁成就:", deathWord, "[叠加图片选项", choiceWord, hiddenChoiceWord, earlyWord]

theorem brackets_from (n : Nat) (piece : List Char) (stands : (brackets choice)[n]? = some piece) :
    ((brackets choice).drop n).flatten ++ afterBrackets choice =
      piece ++ (((brackets choice).drop (n + 1)).flatten ++ afterBrackets choice) := by
  rw [row_from _ n piece stands, List.append_assoc]

theorem early_bracketed : Bracketed earlyWord (earlyPiece choice) :=
  bracketed_flag choice.offer.preDisplay earlyWord (by decide) (by decide)

theorem shown_bracketed : Bracketed choiceWord (shownPiece choice) :=
  bracketed_flag choice.offer.showWhenUnavailable choiceWord (by decide) (by decide)

theorem hidden_bracketed : Bracketed hiddenChoiceWord (hiddenPiece choice) := by
  rw [hiddenPiece]
  cases choice.offer.showWhenUnavailable with
  | false => exact bracketed_literal hiddenChoiceWord (by decide) (by decide)
  | true => exact bracketed_empty _

theorem row (writable : WritableOffer choice.offer) : List.Forall₂ Bracketed leads (brackets choice) :=
  .cons (tier_bracketed _) (.cons (achievement_bracketed _ writable) (.cons (death_bracketed _)
    (.cons (overlay_bracketed _ writable) (.cons (shown_bracketed _) (.cons (hidden_bracketed _)
      (.cons (early_bracketed _) .nil))))))

theorem tag_text_pieces (writable : WritableOffer choice.offer) :
    (tagText choice).toList = adPiece choice.offer ++ ((brackets choice).flatten ++ afterBrackets choice) := by
  have conditions := condition_tags_pieces choice.offer.conditions writable.conditions
  have effects := effect_tags_pieces choice.offer.effects
  have option : (if choice.offer.showWhenUnavailable then choiceWord else hiddenChoiceWord).toList =
      shownPiece choice ++ hiddenPiece choice := by
    rw [shownPiece, hiddenPiece]
    cases choice.offer.showWhenUnavailable <;> rfl
  simp only [tagText, tags, offerTags, option, String.toList_join, List.flatMap_append, List.flatMap_cons, List.flatMap_nil,
    List.flatMap_map, conditions, effects, brackets, afterBrackets, afterProbability, afterConditions, remainder,
    List.flatten_cons, List.flatten_nil, List.append_assoc, List.append_nil]
  rfl

end Pieces

section Tails

variable (node : NodeOf Choice) (writable : Writable node)

include writable

theorem remainder_tame : Tame ['[', '《', '<'] (remainder node.body) := by
  refine Tame.append _ _ ?_ (Tame.optional _ writable.text (by decide))
  rw [dynamicPiece]
  rcases writable.dynamicText with empty | plain
  · rw [if_pos empty]
    exact Tame.nil
  · have inner : Tame ['[', '《', '<'] node.body.dynamicText.toList := Tame.plain _ plain (by decide)
    have tame := Tame.enclosed '\x7b' '\x7d' _ (by decide) (by decide) (by decide) inner.clear inner.half
    rw [if_neg plain.nonempty]
    simpa using tame

theorem after_conditions_tame : Tame ['[', '《'] (afterConditions node.body) := by
  refine Tame.append _ _ (Tame.flatMap _ _ fun effect member => ?_) ((remainder_tame node writable).fewer _ _ (by decide))
  exact effect_piece_tame effect (writable.offer.effects effect member) _ (by decide)

theorem after_probability_tame : Tame ['['] (afterProbability node.body) := by
  refine Tame.append _ _ (Tame.flatMap _ _ fun condition member => ?_)
    ((after_conditions_tame node writable).fewer _ _ (by decide))
  exact condition_piece_tame condition (writable.offer.conditions condition member)

theorem after_brackets_tame : Tame ['['] (afterBrackets node.body) :=
  Tame.append _ _ (probability_piece_tame node.body writable.probability) (after_probability_tame node writable)

theorem later_tame (n : Nat) : Tame [] (((brackets node.body).drop n).flatten ++ afterBrackets node.body) :=
  Tame.append _ _
    ((row_tame _ _ (List.forall₂_drop n (row node.body writable.offer))).fewer _ _ (by simp))
    ((after_brackets_tame node writable).fewer _ _ (by simp))

theorem later_absent {α : Type} (s : Scanner α) (opens : Opens s '[') (n : Nat)
    (refuses : ∀ lead ∈ leads.drop n, Refuses s lead.toList) :
    s.first? (((brackets node.body).drop n).flatten ++ afterBrackets node.body) = none :=
  row_absent _ _ (List.forall₂_drop n (row node.body writable.offer)) s opens refuses _
    ((after_brackets_tame node writable).absent '[' (by decide))

theorem later_begins_absent {α : Type} (s : Scanner α) (expected : String) (begins : Begins s expected)
    (first : expected.toList.head? = some '[') (n : Nat)
    (clashes : ∀ lead ∈ leads.drop n, clash expected.toList lead.toList = true) :
    s.first? (((brackets node.body).drop n).flatten ++ afterBrackets node.body) = none :=
  later_absent node writable s (opens_begins s expected '[' begins first) n (begins_refuses s expected begins _ clashes)

theorem conditions_missed {α : Type} (s : Scanner α) (opens : Opens s '《')
    (refuses : ∀ condition, SafeCondition condition → Refuses s (conditionPiece condition)) :
    s.first? (afterProbability node.body) = none := by
  have skips := conditions_skip node.body.offer.conditions writable.offer.conditions s opens refuses
  rw [afterProbability, s.first_misses _ _ (skips _)]
  exact s.first_none _ (s.misses_unopened '《' opens _ _ ((after_conditions_tame node writable).absent '《' (by decide)))

theorem no_ad : ad.first? ((brackets node.body).flatten ++ afterBrackets node.body) = none := by
  have clear := (row_tame _ _ (row node.body writable.offer)).absent '《' (by decide)
  rw [ad.first_misses _ _ (ad.misses_unopened '《' opens_ad _ _ clear), afterBrackets,
    ad.first_misses _ _ (probability_piece_no_ad node.body writable.probability _)]
  exact conditions_missed node writable ad opens_ad condition_refuses_ad

theorem no_probability : countedProbability.first? (afterProbability node.body) = none ∧
    plainProbability.first? (afterProbability node.body) = none ∧
    probabilityName.first? (afterProbability node.body) = none := by
  have noPercent : ∀ condition, SafeCondition condition → '%' ∉ conditionBody condition := fun condition safe =>
    safe.body_lacks '%' (.inr (by decide)) (by cases condition.comparison <;> decide)
  refine ⟨conditions_missed node writable _ opens_counted fun condition safe => ?_,
    conditions_missed node writable _ opens_plain fun condition safe => ?_,
    conditions_missed node writable _ opens_name fun condition safe => ?_⟩
  · have refused := counted_refuses _ (body_no_guillemet condition safe).2 (noPercent condition safe) [] (.inl rfl) (by simp)
    rwa [List.append_nil] at refused
  · have refused := plain_refuses _ (body_no_guillemet condition safe).2 (noPercent condition safe) [] (.inl rfl) (by simp)
    rwa [List.append_nil] at refused
  · exact name_refuses _ (body_no_guillemet condition safe).2 (noPercent condition safe)

end Tails

section Steps

variable (node : NodeOf Choice) (writable : Writable node) (so : NodeOf Choice)

include writable

theorem start_step : (Rule.drop "start" (word startWord)).apply
    (((brackets node.body).drop 3).flatten ++ afterBrackets node.body, so) =
      .ok (((brackets node.body).drop 3).flatten ++ afterBrackets node.body, so) := by
  exact Rule.first_absent _ _ _ _ so
    (later_begins_absent node writable _ startWord (begins_word startWord) (by decide) 3 (by decide))

-- The overlay in front of the mark of the kind is passed over when the mark is found and removed.
theorem option_step : (Rule.drop "option" (word choiceWord)).apply
    (overlayPiece node.body.offer ++ (shownPiece node.body ++
      (((brackets node.body).drop 5).flatten ++ afterBrackets node.body)), so) =
      .ok (overlayPiece node.body.offer ++ (((brackets node.body).drop 5).flatten ++ afterBrackets node.body), so) := by
  have opens : Opens (word choiceWord) '[' := opens_word _ '[' (by decide)
  have skips := bracketed_skips _ _ (overlay_bracketed _ writable.offer) (word choiceWord) opens fun _ => rfl
  rw [shownPiece]
  cases node.body.offer.showWhenUnavailable with
  | false =>
      refine Rule.first_absent _ _ _ _ so ?_
      rw [Scanner.first_misses _ _ _ (skips _)]
      exact later_begins_absent node writable _ choiceWord (begins_word choiceWord) (by decide) 5 (by decide)
  | true =>
      have tight : Tight (overlayPiece node.body.offer ++
          (((brackets node.body).drop 5).flatten ++ afterBrackets node.body)) :=
        tight_append _ _ (bracketed_tame _ _ (overlay_bracketed _ writable.offer)).tight (later_tame node writable 5).tight
      have found := Scanner.first_misses (word choiceWord) _ (choiceWord.toList ++
        (((brackets node.body).drop 5).flatten ++ afterBrackets node.body)) (skips _)
      rw [Scanner.first_reads _ _ () (by decide) (reads_word choiceWord)] at found
      refine (Rule.first_found _ _ _ _ so so _ found rfl).trans ?_
      simp only [Rule.take]
      rw [Scanner.remove_first_misses _ _ _ (skips _), remove_first_front _ _ (by decide),
        trim_tight _ tight]

theorem hidden_step : (Rule.setEvery "hidden" hidden fun _ => NodeOf.updateBody (onOffer hideOffer)).apply
    (hiddenPiece node.body ++ (((brackets node.body).drop 6).flatten ++ afterBrackets node.body), so) =
      .ok (((brackets node.body).drop 6).flatten ++ afterBrackets node.body,
        so.updateBody (onOffer (putHidden node.body.offer))) := by
  have opens : Opens hidden '[' := opens_or_else _ _ '[' (opens_word _ '[' (by decide)) (opens_word _ '[' (by decide))
  have refuses : ∀ lead ∈ leads.drop 6, Refuses hidden lead.toList := by
    simp only [leads, List.drop_succ_cons, List.drop_zero, List.forall_mem_cons]
    exact ⟨fun _ => rfl, by simp⟩
  have nothing : hidden.all (((brackets node.body).drop 6).flatten ++ afterBrackets node.body) = [] := by
    rw [hidden.all_misses _ _ (row_skips _ _ (List.forall₂_drop 6 (row node.body writable.offer)) _ opens refuses _)]
    exact hidden.all_none _ (hidden.misses_unopened '[' opens _ _ ((after_brackets_tame node writable).absent '[' (by decide)))
  have run := Rule.every_front (fun _ : Unit => hiddenChoiceWord.toList)
    (fun _ : Unit => NodeOf.updateBody (onOffer hideOffer)) _ "hidden" hidden
    (fun record _ => .ok (some (NodeOf.updateBody (onOffer hideOffer) record))) (fun _ => ())
    (if node.body.offer.showWhenUnavailable then [] else [()]) so (later_tame node writable 6).tight nothing
    (fun _ _ => ⟨by decide, ⟨by decide, by decide⟩, fun _ => rfl⟩) fun _ _ _ => rfl
  rw [hiddenPiece]
  cases shows : node.body.offer.showWhenUnavailable with
  | false =>
      have put : putHidden node.body.offer = hideOffer := funext fun so => by rw [putHidden, shows, if_neg Bool.false_ne_true]
      rw [put]
      rw [shows] at run
      exact run
  | true =>
      have put : putHidden node.body.offer = fun so => so := funext fun so => by rw [putHidden, shows, if_pos rfl]
      rw [put]
      rw [shows] at run
      exact run

theorem early_step : (offerEarly onOffer).apply (earlyPiece node.body ++ afterBrackets node.body, so) =
    .ok (afterBrackets node.body, so.updateBody (onOffer (putEarly node.body.offer))) := by
  have tame := after_brackets_tame node writable
  rw [earlyPiece]
  cases early : node.body.offer.preDisplay with
  | false =>
      have put : putEarly node.body.offer = fun so => so := funext fun so => by rw [putEarly, early, if_neg Bool.false_ne_true]
      rw [put]
      refine Rule.first_absent _ _ _ _ so (Scanner.first_none _ _ ?_)
      exact misses_unopened _ '[' (opens_word earlyWord '[' (by decide)) _ _ (tame.absent '[' (by decide))
  | true =>
      have put : putEarly node.body.offer = fun so => { so with preDisplay := true } :=
        funext fun so => by rw [putEarly, early, if_pos rfl]
      rw [put]
      exact Rule.first_tag _ (word earlyWord) _ earlyWord.toList _ () so _ tame.tight
        (.inr ⟨by decide, reads_word earlyWord, rfl⟩)

theorem conditions_step : (offerConditions onOffer).apply (afterProbability node.body, so) =
    .ok (afterConditions node.body, so.updateBody (onOffer fun offer =>
      { offer with conditions := offer.conditions ++ node.body.offer.conditions })) := by
  have tame := after_conditions_tame node writable
  refine (conditions_front _ _ _ so writable.offer.conditions tame.tight (tame.absent '《' (by decide))).trans ?_
  have added := Rule.collected (fun conditions => NodeOf.updateBody (onOffer fun offer =>
    { offer with conditions := offer.conditions ++ conditions })) (by simp [NodeOf.updateBody, onOffer])
    (by simp [NodeOf.updateBody, onOffer]) node.body.offer.conditions so
  exact congrArg (fun so => Except.ok (afterConditions node.body, so)) added

theorem effects_step : (offerEffects onOffer).apply (afterConditions node.body, so) =
    .ok (remainder node.body, so.updateBody (onOffer fun offer =>
      { offer with effects := offer.effects ++ node.body.offer.effects })) := by
  have tame := remainder_tame node writable
  refine (effects_front _ _ _ so writable.offer.effects tame.tight (tame.absent '<' (by decide))
    (tame.absent '《' (by decide))).trans ?_
  have added := Rule.collected (fun effects => NodeOf.updateBody (onOffer fun offer =>
    { offer with effects := offer.effects ++ effects })) (by simp [NodeOf.updateBody, onOffer])
    (by simp [NodeOf.updateBody, onOffer]) node.body.offer.effects so
  exact congrArg (fun so => Except.ok (remainder node.body, so)) added

def putDynamic (choice so : Choice) : Choice :=
  if choice.dynamicText = "" then so else { so with dynamicText := choice.dynamicText }

theorem dynamic_step : (onBody "dynamic_text" brace fun (body : List Char) (choice : Choice) =>
    { choice with dynamicText := trimmedText body }).keeping.apply (remainder node.body, so) =
      .ok (remainder node.body, so.updateBody (putDynamic node.body)) := by
  have noBrace : '\x7b' ∉ node.body.text.toList := (Tame.optional _ writable.text
    (show ∀ c ∈ ['\x7b'], isSign c = true by decide)).absent '\x7b' (by decide)
  rcases writable.dynamicText with empty | plain
  · have put : putDynamic node.body = fun so => so := funext fun so => by rw [putDynamic, if_pos empty]
    rw [put, remainder, dynamicPiece, if_pos empty]
    exact Rule.kept_absent _ _ _ _ so (Scanner.first_none _ _ (misses_unopened _ '\x7b' (opens_span _ _) _ _ noBrace))
  · have put : putDynamic node.body = fun so => { so with dynamicText := trimmedText node.body.dynamicText.toList } := by
      funext so
      rw [putDynamic, if_neg plain.nonempty, trimmedText, plain.trimmed, String.ofList_toList]
    have written : dynamicPiece node.body = '\x7b' :: (node.body.dynamicText.toList ++ ['\x7d']) := by
      simp [dynamicPiece, plain.nonempty]
    have reads := reads_span '\x7b' '\x7d' _ plain.nonempty_list (plain.absent '\x7d' (by decide))
    have found := Scanner.first_reads brace _ _ (List.cons_ne_nil _ _) reads node.body.text.toList
    rw [put, remainder, written]
    exact Rule.kept_found _ _ _ _ so _ _ found rfl

end Steps

section Run

variable (node : NodeOf Choice) (writable : Writable node)

include writable

theorem rules_read : Rule.applyAll rules ((tagText node.body).toList, ⟨{}, {}⟩) =
    .ok (remainder node.body, ⟨{}, { node.body with text := "" }⟩) := by
  have identity : ∀ choice : Choice, onOffer (fun offer => offer) choice = choice := fun _ => rfl
  have tight := fun n => (later_tame node writable n).tight
  obtain ⟨noCounted, noPlain, noName⟩ := no_probability node writable
  rw [tag_text_pieces node.body writable.offer]
  refine (Rule.apply_all_cons _ _ _ _ (ad_step onOffer identity _ writable.offer _ (tight 0) _
    (no_ad node writable))).trans ?_
  rw [brackets_from node.body 0 (tierPiece node.body.offer) rfl]
  refine (Rule.apply_all_cons _ _ _ _ (tier_step onOffer identity _ writable.offer _ (tight 1) _ ?noTier)).trans ?_
  case noTier =>
    refine later_absent node writable _ (opens_bind _ _ '[' (opens_char '[')) 1 ?_
    simp only [leads, List.drop_succ_cons, List.drop_zero, List.forall_mem_cons]
    exact ⟨fun _ => rfl, fun _ => rfl, fun _ => rfl, fun _ => rfl, fun _ => rfl, fun _ => rfl, by simp⟩
  rw [brackets_from node.body 1 (achievementPiece node.body.offer) rfl]
  refine (Rule.apply_all_cons _ _ _ _ (achievement_step onOffer identity _ writable.offer _ (tight 2) _
    (later_begins_absent node writable _ "[解锁成就" (begins_valued _) (by decide) 2 (by decide)))).trans ?_
  rw [brackets_from node.body 2 (deathPiece node.body.offer) rfl]
  refine (Rule.apply_all_cons _ _ _ _ (death_step onOffer identity _ _ (tight 3) _
    (later_begins_absent node writable _ deathWord (begins_word deathWord) (by decide) 3 (by decide)))).trans ?_
  refine (Rule.apply_all_cons _ _ _ _ (start_step node writable _)).trans ?_
  rw [brackets_from node.body 3 (overlayPiece node.body.offer) rfl,
    brackets_from node.body 4 (shownPiece node.body) rfl]
  refine (Rule.apply_all_cons _ _ _ _ (option_step node writable _)).trans ?_
  refine (Rule.apply_all_cons _ _ _ _ (overlay_step onOffer identity _ writable.offer _ (tight 5) _ ?noOverlay)).trans ?_
  case noOverlay =>
    refine later_absent node writable _ (opens_bind _ _ '[' (opens_char '[')) 5 ?_
    simp only [leads, List.drop_succ_cons, List.drop_zero, List.forall_mem_cons]
    exact ⟨fun _ => rfl, fun _ => rfl, by simp⟩
  rw [brackets_from node.body 5 (hiddenPiece node.body) rfl]
  refine (Rule.apply_all_cons _ _ _ _ (hidden_step node writable _)).trans ?_
  rw [brackets_from node.body 6 (earlyPiece node.body) rfl]
  refine (Rule.apply_all_cons _ _ _ _ (early_step node writable _)).trans ?_
  refine (Rule.apply_all_append probabilityRules _ _ _ (probability_steps _ rfl _ (after_probability_tame node writable).tight
    noCounted noPlain noName node.body writable.probability rfl rfl rfl)).trans ?_
  refine (Rule.apply_all_cons _ _ _ _ (conditions_step node writable _)).trans ?_
  refine (Rule.apply_all_cons _ _ _ _ (effects_step node writable _)).trans ?_
  refine (Rule.apply_all_cons _ _ _ _ (dynamic_step node writable _)).trans ?_
  have dynamic : ∀ so : Choice, so.dynamicText = "" → putDynamic node.body so =
      { so with dynamicText := node.body.dynamicText } := by
    intro so bare
    by_cases empty : node.body.dynamicText = ""
    · rw [putDynamic, if_pos empty, empty, ← bare]
    · rw [putDynamic, if_neg empty]
  refine congrArg (fun choice : Choice => Except.ok (remainder node.body, (⟨{}, choice⟩ : NodeOf Choice))) ?_
  refine (dynamic _ rfl).trans ?_
  have offer := congrArg (fun offer : Offer => ({
    offer := offer, isProbability := node.body.isProbability, probability := node.body.probability,
    maxCount := node.body.maxCount, probabilityExpression := node.body.probabilityExpression,
    dynamicText := node.body.dynamicText } : Choice)) (put_offer node.body.offer writable.offer)
  exact offer.trans (congrArg (fun choice : Choice => { choice with text := "" }) writable.bare).symm

theorem clean_remainder : clean (remainder node.body) = node.body.text.toList := by
  have tame := remainder_tame node writable
  have textTame : Tame ['\x7b'] node.body.text.toList := Tame.optional _ writable.text (by decide)
  have unbraced : brace.erase (remainder node.body) = node.body.text.toList := by
    have kept : brace.erase node.body.text.toList = node.body.text.toList :=
      erase_none _ _ (misses_unopened _ '\x7b' (opens_span _ _) _ _ (textTame.absent '\x7b' (by decide)))
    rw [remainder, dynamicPiece]
    rcases writable.dynamicText with empty | plain
    · rw [if_pos empty]
      exact kept
    · have written : ("\x7b" ++ node.body.dynamicText ++ "\x7d").toList =
          '\x7b' :: (node.body.dynamicText.toList ++ ['\x7d']) := by simp
      rw [if_neg plain.nonempty, written, erase_reads brace _ _ (List.cons_ne_nil _ _)
        (reads_span '\x7b' '\x7d' _ plain.nonempty_list (plain.absent '\x7d' (by decide))), kept]
  rw [clean, erase_none bracket _ (misses_unopened _ '[' (opens_span _ _) _ _ (tame.absent '[' (by decide))),
    erase_none guillemet _ (misses_unopened _ '《' (opens_span _ _) _ _ (tame.absent '《' (by decide))),
    erase_none angle _ (misses_unopened _ '<' (opens_span _ _) _ _ (tame.absent '<' (by decide))),
    unbraced, trim_tight _ textTame.tight]

theorem finished : finish (remainder node.body) ⟨{}, { node.body with text := "" }⟩ = node := by
  rw [finish, clean_remainder node writable, String.ofList_toList]
  calc (⟨named (orElse node.body.text "选项") (orElse node.body.text "选项") {}, node.body⟩ : NodeOf Choice)
    _ = ⟨node.header, node.body⟩ := by rw [writable.header, named]

theorem text_half : ∀ c ∈ (tagText node.body).toList, isWide c = false := by
  intro c member
  rw [tag_text_pieces node.body writable.offer, List.mem_append] at member
  exact member.elim ((ad_piece_tame _ writable.offer).half c) ((later_tame node writable 0).half c)

theorem unmarked {α : Type} (s : Scanner α) (expected : String) (begins : Begins s expected)
    (first : expected.toList.head? = some '[') (clashes : ∀ lead ∈ leads, clash expected.toList lead.toList = true) :
    s.first? (tagText node.body).toList = none := by
  have clear := (ad_piece_tame _ writable.offer).absent '[' (by decide)
  have opens := opens_begins s expected '[' begins first
  rw [tag_text_pieces node.body writable.offer, s.first_misses _ _ (s.misses_unopened '[' opens _ _ clear)]
  exact later_begins_absent node writable s expected begins first 0 clashes

theorem marked : (Kind.choiceMarks.any fun mark => occurs mark.toList (tagText node.body).toList) = true := by
  have within : ∀ piece ∈ brackets node.body, piece <:+: (tagText node.body).toList := by
    intro piece member
    rw [tag_text_pieces node.body writable.offer]
    exact List.infix_append_of_infix_right (List.infix_append_of_infix_left (List.infix_of_mem_flatten member))
  rw [List.any_eq_true]
  cases shown : node.body.offer.showWhenUnavailable with
  | false =>
      have piece : hiddenPiece node.body = hiddenChoiceWord.toList := by rw [hiddenPiece, shown]; rfl
      have found := within (hiddenPiece node.body) (by simp [brackets])
      rw [piece, ← occurs_inside] at found
      exact ⟨hiddenChoiceWord, by decide, found⟩
  | true =>
      have piece : shownPiece node.body = choiceWord.toList := by rw [shownPiece, shown]; rfl
      have found := within (shownPiece node.body) (by simp [brackets])
      rw [piece, ← occurs_inside] at found
      exact ⟨choiceWord, by decide, found⟩

theorem classified : Kind.ofMarks (tagText node.body).toList = .choice := by
  have absent := fun (mark : String) nonempty first clashes => not_occurs mark nonempty _
    (unmarked node writable (word mark) mark (begins_word mark) first clashes)
  have tip := absent tipWord (by decide) (by decide) (by decide)
  have card := absent cardWord (by decide) (by decide) (by decide)
  have jump := absent jumpWord (by decide) (by decide) (by decide)
  have bgm := absent bgmWord (by decide) (by decide) (by decide)
  have task := unmarked node writable Task.taskCount "[任务节点" (begins_bind _ _ _ (begins_word _)) (by decide) (by decide)
  simp [Kind.ofMarks, Kind.marks, tip, card, jump, bgm, task, marked node writable]

end Run

theorem choice_reads_back (node : NodeOf Choice) (writable : Writable node) (isStart : Bool) :
    ∃ text, Node.text (node.mapBody .choice) isStart = .ok text ∧
      ∀ kind ∈ [none, some Kind.choice], Node.parse text kind textEntity {} = .ok (node.mapBody .choice) := by
  refine ⟨tagText node.body, rfl, ?_⟩
  refine Node.parse_again .choice _ {} _ (text_half node writable) (classified node writable) ?_
  simp only [Node.parseAs, Node.parseWith, rules_read node writable, Except.map, finished node writable]

def gate : NodeOf Choice := {
  header := { name := "开门", title := "开门" }
  body := {
    offer := {
      conditions := [⟨"钥匙", .less, "3"⟩, ⟨"勇气", .equal, "高 档"⟩]
      effects := [⟨"keys", .subtract, "1", .accumulative⟩, ⟨"door", .set, "", .normal⟩]
      requireAd := true, adType := "rewarded", isOverlay := true, overlayImage := "door.png", tier := -12
      showWhenUnavailable := false, unlockAchievement := true, achievementName := "first key"
      isDeadpoint := true, preDisplay := true }
    text := "开门", isProbability := true, probability := .whole 30, maxCount := 2, dynamicText := "a:b" } }

theorem gate_writable : Writable gate := by
  have tier := two_digits_small gate.body.offer.tier.natAbs 300 (by decide) (by decide)
  have percent := two_digits_small 30 300 (by decide) (by decide)
  have times := two_digits_small 2 300 (by decide) (by decide)
  have conditions : ∀ condition ∈ gate.body.offer.conditions, SafeCondition condition := by decide
  have effects : ∀ effect ∈ gate.body.offer.effects, SafeEffect effect := by decide
  have offer : WritableOffer gate.body.offer :=
    ⟨rfl, .inr ⟨rfl, by decide⟩, tier, .inr ⟨rfl, by decide⟩, .inr (.inr ⟨rfl, rfl, .inr (by decide)⟩), conditions, effects⟩
  exact ⟨rfl, rfl, offer, .percentage rfl 30 2 rfl rfl rfl percent times, .inr (by decide), .inr (by decide)⟩

theorem gate_reads_back : Writable gate ∧ ∃ text, Node.text (gate.mapBody .choice) true = .ok text ∧
    ∀ kind ∈ [none, some Kind.choice], Node.parse text kind textEntity {} = .ok (gate.mapBody .choice) :=
  ⟨gate_writable, choice_reads_back gate gate_writable true⟩

end TaggedStory.Choice
