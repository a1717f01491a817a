import TaggedStory.Proofs.Node.Displays
import TaggedStory.Proofs.Node.Marks
import TaggedStory.Proofs.Node.Rates
import TaggedStory.Proofs.Text.Occurrence
/-!
The black screen is set by a tag and by a word in the text that is left. A text in which no value of a
tag holds the word does not hold it at all: the word does not reach over the sign that ends a value.
-/
set_option autoImplicit false

namespace TaggedStory.Video

open Text Scanner Tag Mark Decimal

def Hushed (text : String) : Prop :=
  occurs blackScreenWord.toList text.toList = false

instance (text : String) : Decidable (Hushed text) :=
  inferInstanceAs (Decidable (_ = _))

section Pieces

theorem hushed_absent (text : String) (hushed : Hushed text) : ¬ blackScreenWord.toList <:+: text.toList := by
  intro inside
  rw [← occurs_inside, hushed] at inside
  cases inside

theorem clear_skips (piece : List Char) (clear : '黑' ∉ piece) : Skips (word blackScreenWord) piece :=
  skips_unopened _ '黑' (opens_word blackScreenWord '黑' (by decide)) piece clear

theorem hushed_skips (text : String) (hushed : Hushed text) (c : Char) (outside : c ∉ blackScreenWord.toList) :
    Skips (word blackScreenWord) (text.toList ++ [c]) :=
  skips_cut blackScreenWord '黑' (by decide) text.toList c (hushed_absent text hushed) outside

theorem literal_skips (flag : Bool) (word : String) (clear : '黑' ∉ word.toList) :
    Skips (Scanner.word blackScreenWord) (flagPiece flag word) := by
  cases flag with
  | false => exact skips_nil _
  | true => exact clear_skips word.toList clear

theorem valued_skips (lead text : String) (clear : '黑' ∉ lead.toList) (hushed : Hushed text) :
    Skips (word blackScreenWord) (valuedPiece lead text) := by
  rw [valuedPiece]
  by_cases empty : text = ""
  · rw [if_pos empty]
    exact skips_nil _
  · rw [if_neg empty]
    exact skips_append _ _ _ (clear_skips lead.toList clear) (hushed_skips text hushed ']' (by decide))

theorem expression_skips (video : Video) (hushed : Hushed video.probabilityExpression) :
    Skips (word blackScreenWord) (expressionPiece video) := by
  rw [expressionPiece]
  by_cases random : isRandomExpression video.probabilityExpression.toList = true
  · rw [if_pos random]
    exact skips_append _ ['《'] _ (clear_skips _ (by decide)) (hushed_skips _ hushed '》' (by decide))
  · rw [if_neg random]
    exact skips_nil _

theorem bar_skips (video : Video) (barred : Barred video) (hushed : Hushed video.variableBarName) :
    Skips (word blackScreenWord) (barPiece video) := by
  cases barred with
  | bare off =>
      have none : barPiece video = [] := by simp [barPiece, variableBarTag, off]
      rw [none]
      exact skips_nil _
  | bar hex place on name _ color _ digits position known =>
      have shape : barPiece video = "[变量条:".toList ++ ((video.variableBarName.toList ++ [':']) ++
          ('#' :: (hex ++ [':', place, ']']))) := by
        rw [bar_written video hex place on name.nonempty color position]
        simp [barBody]
      have clear : '黑' ∉ '#' :: (hex ++ [':', place, ']']) := by
        simp only [List.mem_cons, List.mem_append, List.not_mem_nil, or_false, not_or]
        refine ⟨by decide, fun member => absurd (digits _ member) (by decide), by decide, ?_, by decide⟩
        rcases known with rfl | rfl <;> decide
      rw [shape]
      exact skips_append _ _ _ (clear_skips _ (by decide)) (skips_append _ _ _ (hushed_skips _ hushed ':' (by decide))
        (clear_skips _ clear))

theorem products_skip (products : List String) (hushed : ∀ product ∈ products, Hushed product) :
    Skips (word blackScreenWord) (productsBody products ++ [']']) := by
  rw [productsBody]
  induction products with
  | nil => exact clear_skips _ (by decide)
  | cons product products ih =>
      have first := hushed product List.mem_cons_self
      cases products with
      | nil =>
          rw [List.map_singleton, List.intercalate_singleton]
          exact hushed_skips product first ']' (by decide)
      | cons next products =>
          have later := ih fun other member => hushed other (List.mem_cons_of_mem product member)
          rw [List.map_cons, List.map_cons, List.intercalate_cons_cons, List.append_assoc]
          exact skips_append _ _ _ (hushed_skips product first ';' (by decide)) later

theorem showcase_skips (video : Video) (hushed : ∀ product ∈ video.showcaseProducts, Hushed product) :
    Skips (word blackScreenWord) (showcasePiece video) := by
  cases on : video.isShowcase with
  | false =>
      rw [showcasePiece, on]
      exact skips_nil _
  | true =>
      rw [showcase_written video on]
      exact skips_append _ _ _ (clear_skips _ (by decide)) (products_skip _ hushed)

theorem limit_skips (tag : Bool × Override) (name : Hushed tag.2.name) (value : Hushed tag.2.value) :
    Skips (word blackScreenWord) (limitPiece tag) := by
  have shape : limitPiece tag = ('<' :: ((limitWordText tag.1).toList ++ [':'])) ++
      ((tag.2.name.toList ++ [':']) ++ (tag.2.value.toList ++ ['>'])) := by simp [limitPiece, limitBody]
  have clear : '黑' ∉ '<' :: ((limitWordText tag.1).toList ++ [':']) := by cases tag.1 <;> decide
  rw [shape]
  exact skips_append _ _ _ (clear_skips _ clear)
    (skips_append _ _ _ (hushed_skips _ name ':' (by decide)) (hushed_skips _ value '>' (by decide)))

theorem digits_clear (text : List Char) (digits : AllDigits text) : '黑' ∉ text :=
  fun member => absurd (digits _ member) (by decide)

theorem rate_skips (rate : Rate) (writable : WritableRate rate) (name : Hushed rate.name) :
    Skips (word blackScreenWord) (ratePiece rate) := by
  obtain ⟨negative, whole, part, amount, written⟩ := rate_written rate writable
  have shape : ratePiece rate = ['<'] ++ ((rate.name.toList ++ [' ']) ++
      (changeSign negative :: (whole ++ (fractionText part ++ "/s>".toList)))) := by
    rw [written.shape]
    simp
  have clear : '黑' ∉ changeSign negative :: (whole ++ (fractionText part ++ "/s>".toList)) := by
    rw [List.mem_cons, List.mem_append, List.mem_append]
    rintro (same | member | member | member)
    · cases negative <;> exact absurd same (by decide)
    · exact digits_clear whole written.digits member
    · exact (fraction_text_member part '黑' member).elim (by decide) (digits_clear part written.partDigits)
    · exact absurd member (by decide)
  rw [shape]
  exact skips_append _ _ _ (clear_skips _ (by decide))
    (skips_append _ _ _ (hushed_skips _ name ' ' (by decide)) (clear_skips _ clear))

theorem condition_skips (condition : Condition) (name : Hushed condition.name) (value : Hushed condition.value) :
    Skips (word blackScreenWord) (conditionPiece condition) := by
  obtain ⟨c, more, symbol, outside, clear⟩ : ∃ c more, condition.comparison.symbol.toList = c :: more ∧
      c ∉ blackScreenWord.toList ∧ '黑' ∉ more := by
    cases condition.comparison <;> exact ⟨_, _, rfl, by decide, by decide⟩
  have shape : conditionPiece condition = ['《'] ++ ((condition.name.toList ++ [c]) ++
      (more ++ (condition.value.toList ++ ['》']))) := by simp [conditionPiece, conditionBody, symbol]
  rw [shape]
  exact skips_append _ _ _ (clear_skips _ (by decide)) (skips_append _ _ _ (hushed_skips _ name c outside)
    (skips_append _ _ _ (clear_skips more clear) (hushed_skips _ value '》' (by decide))))

theorem effect_skips (effect : Effect) (name : Hushed effect.name) (value : Hushed effect.value) :
    Skips (word blackScreenWord) (effectPiece effect) := by
  have ending : Skips (word blackScreenWord) (effectTail effect ++ ['>']) := by
    rw [effectTail]
    by_cases empty : effect.value = ""
    · rw [if_pos empty]
      exact clear_skips _ (by decide)
    · rw [if_neg empty]
      exact skips_append _ [' '] _ (clear_skips _ (by decide)) (hushed_skips _ value '>' (by decide))
  have shape : effectPiece effect = ('<' :: effectLead effect) ++ ((effect.name.toList ++ [' ']) ++
      ([effect.operation.sign] ++ (effectTail effect ++ ['>']))) := by simp [effectPiece, effectBody, effectCore]
  have lead : '黑' ∉ '<' :: effectLead effect := by
    rw [effectLead]
    cases effect.isAccumulative <;> decide
  have sign : '黑' ∉ [effect.operation.sign] := by cases effect.operation <;> decide
  rw [shape]
  exact skips_append _ _ _ (clear_skips _ lead) (skips_append _ _ _ (hushed_skips _ name ' ' (by decide))
    (skips_append _ _ _ (clear_skips _ sign) ending))

end Pieces

section Steps

def blackPiece (node : NodeOf Video) : List Char :=
  flagPiece (node.body.isBlackScreen && !occurs blackScreenWord.toList node.header.name.toList) "[黑屏视频节点]"

def putBlack (video so : Video) : Video :=
  { so with isBlackScreen := video.isBlackScreen }

theorem reads_black : Reads blackScreen "[黑屏视频节点]".toList () :=
  fun _ => rfl

theorem begins_black : Begins blackScreen "[黑屏视频" :=
  begins_bind _ _ _ (begins_word _)

-- The word stays in the text, and says nothing new about a video that a tag has set.
theorem black_text_step (rest : List Char) (before so : NodeOf Video)
    (reached : before = so.updateBody setBlackScreen ∨ before = so ∧ ((word blackScreenWord).first? rest).isSome = true) :
    (flagBody "black_screen_text" blackScreenWord setBlackScreen).keeping.apply (rest, before) =
      .ok (rest, so.updateBody setBlackScreen) := by
  cases found : (word blackScreenWord).first? rest with
  | none =>
      rw [found] at reached
      rcases reached with rfl | ⟨_, impossible⟩
      · exact Rule.kept_absent _ _ _ rest _ found
      · cases impossible
  | some token =>
      refine Rule.kept_found _ _ _ rest before _ token found ?_
      rcases reached with rfl | ⟨rfl, _⟩ <;> rfl

-- A name with the word in it needs no tag: the name itself sets the black screen.
theorem black_steps (node : NodeOf Video) (rest : List Char) (so : NodeOf Video) (tight : Tight rest)
    (noTag : blackScreen.first? rest = none) (named : node.header.name.toList <:+: rest)
    (either : node.body.isBlackScreen = true ∨ (word blackScreenWord).first? rest = none)
    (fresh : putBlack {} so.body = so.body) :
    Rule.applyAll [onBody "black_screen" blackScreen fun _ => setBlackScreen,
      (flagBody "black_screen_text" blackScreenWord setBlackScreen).keeping] (blackPiece node ++ rest, so) =
      .ok (rest, so.updateBody (putBlack node.body)) := by
  cases on : node.body.isBlackScreen with
  | false =>
      have noWord : (word blackScreenWord).first? rest = none := either.resolve_left (by rw [on]; exact Bool.false_ne_true)
      have noPiece : blackPiece node = [] := by rw [blackPiece, on]; rfl
      have unset : putBlack node.body = putBlack {} := by
        funext so
        rw [putBlack, on]
        rfl
      rw [noPiece, List.nil_append, unset, NodeOf.updateBody, fresh]
      refine (Rule.apply_all_cons _ _ _ _ (Rule.first_absent _ _ _ rest so noTag)).trans ?_
      exact Rule.apply_all_cons _ [] _ _ (Rule.kept_absent _ _ _ rest so noWord)
  | true =>
      have set : putBlack node.body = setBlackScreen := by
        funext so
        rw [putBlack, on, setBlackScreen]
      rw [set]
      cases inside : occurs blackScreenWord.toList node.header.name.toList with
      | true =>
          have noPiece : blackPiece node = [] := by rw [blackPiece, on, inside]; rfl
          have present : ((word blackScreenWord).first? rest).isSome = true := by
            rw [← occurs_first blackScreenWord (by decide), occurs_inside]
            exact ((occurs_inside _ _).mp inside).trans named
          rw [noPiece, List.nil_append]
          refine (Rule.apply_all_cons _ _ _ _ (Rule.first_absent _ _ _ rest so noTag)).trans ?_
          exact Rule.apply_all_cons _ [] _ _ (black_text_step rest so so (.inr ⟨rfl, present⟩))
      | false =>
          have piece : blackPiece node = "[黑屏视频节点]".toList := by rw [blackPiece, on, inside]; rfl
          rw [piece]
          refine (Rule.apply_all_cons _ _ _ _ (Rule.first_tag _ blackScreen _ _ rest () so (so.updateBody setBlackScreen)
            tight (.inr ⟨by decide, reads_black, rfl⟩))).trans ?_
          exact Rule.apply_all_cons _ [] _ _ (black_text_step rest _ so (.inl rfl))

end Steps

end TaggedStory.Video
