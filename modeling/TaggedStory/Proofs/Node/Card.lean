import TaggedStory.Proofs.Node.Offer
import TaggedStory.Proofs.Node.Rereading
import TaggedStory.Proofs.Text.Occurrence
/-!
Cards whose tags stand in any order. The name may be cut into parts around the tags; what is read
differs from the card that was written only in the order of its conditions and of its effects.
-/
set_option autoImplicit false

namespace TaggedStory.Card

open Decimal Text Scanner Tag Mark

-- What the text can say of a card; all other fields keep their defaults.
structure Writable (node : NodeOf Card) : Prop where
  header : node.header = { name := orElse node.body.name "卡牌", title := orElse node.body.name "卡牌" }
  bare : node.body = { offer := node.body.offer, name := node.body.name }
  offer : WritableOffer node.body.offer
  name : node.body.name = "" ∨ Plain node.body.name

inductive Label where
  | ad
  | tier
  | achievement
  | death
  | kind
  | overlay
  | hidden
  | early
deriving DecidableEq

def Label.all : List Label :=
  [ad, tier, achievement, death, kind, overlay, hidden, early]

-- A part of a text: one of the tags that stand once, a condition, an effect, or a part of the name.
inductive Segment where
  | label (label : Label)
  | condition (condition : Condition)
  | effect (effect : Effect)
  | name (part : List Char)

namespace Segment

def label? : Segment → Option Label
  | .label mark => some mark
  | _ => none

def condition? : Segment → Option Condition
  | .condition needed => some needed
  | _ => none

def effect? : Segment → Option Effect
  | .effect given => some given
  | _ => none

def part? : Segment → Option (List Char)
  | .name part => some part
  | _ => none

end Segment

section Labels

variable (offer : Offer)

def labelPiece : Label → List Char
  | .ad => adPiece offer
  | .tier => tierPiece offer
  | .achievement => achievementPiece offer
  | .death => deathPiece offer
  | .kind => cardWord.toList
  | .overlay => overlayPiece offer
  | .hidden => (if offer.showWhenUnavailable then "" else hiddenWord).toList
  | .early => (if offer.preDisplay then earlyWord else "").toList

def labelLead : Label → String
  | .ad => "《AD"
  | .tier => "[层级:"
  | .achievement => "[解锁成就:"
  | .death => deathWord
  | .kind => cardWord
  | .overlay => "[叠加图片选项"
  | .hidden => hiddenWord
  | .early => earlyWord

def labelRule : Label → Rule (NodeOf Card)
  | .ad => offerAd onOffer
  | .tier => offerTier onOffer
  | .achievement => offerAchievement onOffer
  | .death => offerDeath onOffer
  | .kind => .drop "card" (word cardWord)
  | .overlay => offerOverlay onOffer
  | .hidden => flagBody "hidden" hiddenWord (onOffer hideOffer)
  | .early => offerEarly onOffer

def putLabel : Label → Offer → Offer
  | .ad => putAd offer
  | .tier => putTier offer
  | .achievement => putAchievement offer
  | .death => putDeath offer
  | .kind => fun so => so
  | .overlay => putOverlay offer
  | .hidden => putHidden offer
  | .early => putEarly offer

theorem rules_labels : rules = Label.all.map labelRule ++ [offerConditions onOffer, offerEffects onOffer] :=
  rfl

theorem label_bracketed (writable : WritableOffer offer) (label : Label) (other : label ≠ .ad) :
    Bracketed (labelLead label) (labelPiece offer label) := by
  cases label with
  | ad => exact absurd rfl other
  | tier => exact tier_bracketed offer
  | achievement => exact achievement_bracketed offer writable
  | death => exact death_bracketed offer
  | kind => exact bracketed_literal cardWord (by decide) (by decide)
  | overlay => exact overlay_bracketed offer writable
  | hidden =>
      change Bracketed hiddenWord (if offer.showWhenUnavailable then "" else hiddenWord).toList
      cases offer.showWhenUnavailable with
      | false => exact bracketed_literal hiddenWord (by decide) (by decide)
      | true => exact bracketed_empty hiddenWord
  | early => exact bracketed_flag offer.preDisplay earlyWord (by decide) (by decide)

theorem label_tame (writable : WritableOffer offer) (label : Label) : Tame ['<', '\x7b'] (labelPiece offer label) := by
  by_cases ad : label = .ad
  · rw [ad]
    exact (ad_piece_tame offer writable).fewer _ _ (by decide)
  · exact (bracketed_tame _ _ (label_bracketed offer writable label ad)).fewer _ _ (by decide)

end Labels

def Segment.text (offer : Offer) : Segment → List Char
  | .label mark => labelPiece offer mark
  | .condition needed => conditionPiece needed
  | .effect given => effectPiece given
  | .name part => part

def spell (offer : Offer) (segments : List Segment) : List Char :=
  segments.flatMap (Segment.text offer)

-- A card's segments in some order; the labels that a rule has taken are no longer among them.
structure Arranges (card : Card) (labels : List Label) (segments : List Segment) : Prop where
  labels : (segments.filterMap Segment.label?).Perm labels
  conditions : (segments.filterMap Segment.condition?).Perm card.offer.conditions
  effects : (segments.filterMap Segment.effect?).Perm card.offer.effects
  name : (segments.filterMap Segment.part?).flatten = card.name.toList

-- The card with its conditions and effects in the order in which they stand in a text.
def inOrder (node : NodeOf Card) (segments : List Segment) : NodeOf Card :=
  node.updateBody (onOffer fun offer => { offer with
    conditions := segments.filterMap Segment.condition?, effects := segments.filterMap Segment.effect? })

theorem label_left_out {α : Type} (pick : Segment → Option α) (label : Label) (other : pick (.label label) = none)
    (before after : List Segment) :
    (before ++ after).filterMap pick = (before ++ .label label :: after).filterMap pick := by
  rw [List.filterMap_append, List.filterMap_append, List.filterMap_cons_none other]

-- The label stands once, and without it the other segments are an arrangement again.
theorem arranged_split (card : Card) (label : Label) (labels : List Label) (fresh : label ∉ labels) (segments : List Segment)
    (arranged : Arranges card (label :: labels) segments) :
    ∃ before after, segments = before ++ .label label :: after ∧ Arranges card labels (before ++ after) ∧
      ∀ segment ∈ before ++ after, segment ≠ .label label := by
  have listed : label ∈ segments.filterMap Segment.label? := arranged.labels.mem_iff.mpr List.mem_cons_self
  obtain ⟨segment, member, found⟩ := List.mem_filterMap.mp listed
  cases segment with
  | label other =>
      cases found
      obtain ⟨before, after, rfl⟩ := List.append_of_mem member
      have labelsLeft : ((before ++ after).filterMap Segment.label?).Perm labels := by
        have all := arranged.labels
        rw [List.filterMap_append, List.filterMap_cons_some (show Segment.label? (.label label) = some label from rfl)] at all
        rw [List.filterMap_append]
        exact List.Perm.cons_inv (List.perm_middle.symm.trans all)
      refine ⟨before, after, rfl, ⟨labelsLeft, ?_, ?_, ?_⟩, fun segment inside same => ?_⟩
      · rw [label_left_out Segment.condition? label rfl]
        exact arranged.conditions
      · rw [label_left_out Segment.effect? label rfl]
        exact arranged.effects
      · rw [label_left_out Segment.part? label rfl]
        exact arranged.name
      · have again : label ∈ (before ++ after).filterMap Segment.label? :=
          List.mem_filterMap.mpr ⟨segment, inside, by rw [same]; rfl⟩
        exact fresh (labelsLeft.mem_iff.mp again)
  | condition condition => cases found
  | effect effect => cases found
  | name part => cases found

section Segments

-- Every segment of an arrangement is one that the rules can tell apart.
def Sound : Segment → Prop
  | .label _ => True
  | .condition condition => SafeCondition condition
  | .effect effect => SafeEffect effect
  | .name part => ∀ c ∈ part, isSign c = false ∧ isWide c = false

variable {card : Card} (writable : WritableOffer card.offer) (named : card.name = "" ∨ Plain card.name)

include writable named

theorem arranged_sound {labels : List Label} {segments : List Segment} (arranged : Arranges card labels segments) :
    ∀ segment ∈ segments, Sound segment := by
  intro segment member
  cases segment with
  | label label => trivial
  | condition condition =>
      have listed : condition ∈ segments.filterMap Segment.condition? := List.mem_filterMap.mpr ⟨_, member, rfl⟩
      exact writable.conditions condition (arranged.conditions.subset listed)
  | effect effect =>
      have listed : effect ∈ segments.filterMap Segment.effect? := List.mem_filterMap.mpr ⟨_, member, rfl⟩
      exact writable.effects effect (arranged.effects.subset listed)
  | name part =>
      have listed : part ∈ segments.filterMap Segment.part? := List.mem_filterMap.mpr ⟨_, member, rfl⟩
      intro c inside
      have whole : c ∈ card.name.toList := arranged.name ▸ List.mem_flatten.mpr ⟨part, listed, inside⟩
      rcases named with empty | plain
      · rw [empty] at whole
        cases whole
      · exact plain.calm c whole

omit named

theorem no_bracket (segment : Segment) (sound : Sound segment) (other : ∀ label, segment = .label label → label = .ad) :
    '[' ∉ segment.text card.offer := by
  cases segment with
  | label label =>
      rw [other label rfl]
      exact (ad_piece_tame card.offer writable).absent '[' (by decide)
  | condition condition => exact (condition_piece_tame condition sound).absent '[' (by decide)
  | effect effect => exact (effect_piece_tame effect sound ['['] (by decide)).absent '[' (by decide)
  | name part =>
      intro member
      exact absurd (sound '[' member).1 (by decide)

theorem no_guillemet (segment : Segment) (sound : Sound segment) (other : segment.condition? = none)
    (notAd : segment ≠ .label .ad) : '《' ∉ segment.text card.offer := by
  cases segment with
  | label label =>
      have bracketed := label_bracketed card.offer writable label fun same => notAd (same ▸ rfl)
      exact (bracketed_tame _ _ bracketed).absent '《' (by decide)
  | condition condition => cases other
  | effect effect => exact (effect_piece_tame effect sound ['《'] (by decide)).absent '《' (by decide)
  | name part =>
      intro member
      exact absurd (sound '《' member).1 (by decide)

theorem no_angle (segment : Segment) (sound : Sound segment) (other : segment.condition? = none)
    (notEffect : segment.effect? = none) : '<' ∉ segment.text card.offer := by
  cases segment with
  | label label => exact (label_tame card.offer writable label).absent '<' (by decide)
  | condition condition => cases other
  | effect effect => cases notEffect
  | name part =>
      intro member
      exact absurd (sound '<' member).1 (by decide)

theorem segment_half (segment : Segment) (sound : Sound segment) : ∀ c ∈ segment.text card.offer, isWide c = false := by
  cases segment with
  | label label => exact (label_tame card.offer writable label).half
  | condition condition => exact (condition_piece_tame condition sound).half
  | effect effect => exact (effect_piece_tame effect sound [] (by simp)).half
  | name part => exact fun c member => (sound c member).2

theorem segment_tight (segment : Segment) (sound : Sound segment) (other : segment.part? = none) :
    Tight (segment.text card.offer) := by
  cases segment with
  | label label => exact (label_tame card.offer writable label).tight
  | condition condition => exact (condition_piece_tame condition sound).tight
  | effect effect => exact (effect_piece_tame effect sound [] (by simp)).tight
  | name part => cases other

theorem spell_tight (segments : List Segment) (sound : ∀ segment ∈ segments, Sound segment)
    (whole : Tight (segments.filterMap Segment.part?).flatten) : Tight (spell card.offer segments) := by
  refine mixed_tight (Segment.text card.offer) Segment.part? segments [] (fun segment _ text found => ?_)
    (fun segment member => segment_tight writable segment (sound segment member)) whole
  cases segment with
  | name part => exact Option.some.inj found
  | label label => cases found
  | condition condition => cases found
  | effect effect => cases found

theorem bracket_skips {α : Type} (s : Scanner α) (opens : Opens s '[') (label : Label)
    (refuses : ∀ other ∈ Label.all, other ≠ label → Refuses s (labelLead other).toList) (segment : Segment)
    (sound : Sound segment) (different : segment ≠ .label label) : s.Skips (segment.text card.offer) := by
  by_cases other : ∀ label, segment = .label label → label = .ad
  · exact s.skips_unopened '[' opens _ (no_bracket writable segment sound other)
  · push Not at other
    obtain ⟨other, rfl, notAd⟩ := other
    refine bracketed_skips _ _ (label_bracketed card.offer writable other notAd) s opens (refuses other ?_ ?_)
    · cases other <;> decide
    · exact fun same => different (same ▸ rfl)

theorem word_skips (mark : String) (first : mark.toList.head? = some '[') (label : Label)
    (clashes : ∀ other ∈ Label.all, other ≠ label → clash mark.toList (labelLead other).toList = true)
    (segment : Segment) (sound : Sound segment) (different : segment ≠ .label label) :
    (word mark).Skips (segment.text card.offer) :=
  bracket_skips writable _ (opens_word mark '[' first) label
    (fun other member distinct rest => begins_word mark _ (clash_dropped _ _ rest (clashes other member distinct)))
    segment sound different

theorem ad_skips (segment : Segment) (sound : Sound segment) (different : segment ≠ .label .ad) :
    ad.Skips (segment.text card.offer) := by
  cases found : segment.condition? with
  | none => exact ad.skips_unopened '《' opens_ad _ (no_guillemet writable segment sound found different)
  | some condition =>
      cases segment with
      | condition condition => exact condition_piece_skips condition sound ad opens_ad (condition_refuses_ad condition sound)
      | label label => cases found
      | effect effect => cases found
      | name part => cases found

-- The rule of a label takes its tag and passes over all other segments.
theorem label_takes (label : Label) : ∃ (α : Type) (s : Scanner α),
    (labelRule label).Takes s (labelPiece card.offer label) (NodeOf.updateBody (onOffer (putLabel card.offer label))) ∧
      ∀ segment, Sound segment → segment ≠ .label label → s.Skips (segment.text card.offer) := by
  have identity : ∀ card : Card, onOffer (fun offer => offer) card = card := fun _ => rfl
  cases label with
  | ad => exact ⟨_, ad, ad_takes onOffer identity _ writable, ad_skips writable⟩
  | tier =>
      refine ⟨_, tier, tier_takes onOffer identity _ writable, ?_⟩
      refine bracket_skips writable tier (opens_bind _ _ '[' (opens_char '[')) .tier ?_
      simp only [Label.all, List.forall_mem_cons]
      exact ⟨fun _ _ => rfl, fun distinct => absurd rfl distinct, fun _ _ => rfl, fun _ _ => rfl, fun _ _ => rfl,
        fun _ _ => rfl, fun _ _ => rfl, fun _ _ => rfl, by simp⟩
  | achievement =>
      refine ⟨_, achievement, achievement_takes onOffer identity _ writable, ?_⟩
      have begins : Begins achievement "[解锁成就" := begins_valued _
      refine bracket_skips writable achievement (opens_begins _ _ '[' begins (by decide)) .achievement ?_
      have clashes : ∀ other ∈ Label.all, other ≠ .achievement → clash "[解锁成就".toList (labelLead other).toList = true := by
        decide
      exact fun other member distinct rest => begins _ (clash_dropped _ _ rest (clashes other member distinct))
  | death => exact ⟨_, word deathWord, death_takes onOffer identity _, word_skips writable _ (by decide) .death (by decide)⟩
  | kind =>
      refine ⟨_, word cardWord, ⟨_, _, rfl, .inr ⟨?_, (), reads_word cardWord, fun _ => rfl⟩⟩,
        word_skips writable _ (by decide) .kind (by decide)⟩
      change cardWord.toList ≠ []
      decide
  | overlay =>
      refine ⟨_, overlay, overlay_takes onOffer identity _ writable, ?_⟩
      refine bracket_skips writable overlay (opens_bind _ _ '[' (opens_char '[')) .overlay ?_
      simp only [Label.all, List.forall_mem_cons]
      exact ⟨fun _ _ => rfl, fun _ _ => rfl, fun _ _ => rfl, fun _ _ => rfl, fun _ _ => rfl,
        fun distinct => absurd rfl distinct, fun _ _ => rfl, fun _ _ => rfl, by simp⟩
  | hidden => exact ⟨_, word hiddenWord, hidden_takes onOffer identity _, word_skips writable _ (by decide) .hidden (by decide)⟩
  | early => exact ⟨_, word earlyWord, early_takes onOffer identity _, word_skips writable _ (by decide) .early (by decide)⟩

include named

theorem named_tight (segments : List Segment) (sound : ∀ segment ∈ segments, Sound segment)
    (name : (segments.filterMap Segment.part?).flatten = card.name.toList) : Tight (spell card.offer segments) := by
  refine spell_tight writable segments sound ?_
  rw [name]
  exact tight_optional card.name named

theorem label_step (label : Label) (labels : List Label) (fresh : label ∉ labels) (segments : List Segment)
    (arranged : Arranges card (label :: labels) segments) (so : NodeOf Card) :
    ∃ rest, Arranges card labels rest ∧
      rest.filterMap Segment.condition? = segments.filterMap Segment.condition? ∧
      rest.filterMap Segment.effect? = segments.filterMap Segment.effect? ∧
      (labelRule label).apply (spell card.offer segments, so) =
        .ok (spell card.offer rest, so.updateBody (onOffer (putLabel card.offer label))) := by
  obtain ⟨before, after, rfl, left, others⟩ :=
    arranged_split card label labels fresh segments arranged
  obtain ⟨α, s, takes, skips⟩ := label_takes writable label
  have sound := arranged_sound writable named left
  have passes : ∀ part, part ⊆ before ++ after → s.Skips (spell card.offer part) := fun part within =>
    s.skips_flat_map _ _ fun segment member => skips segment (sound segment (within member)) (others segment (within member))
  have absent : s.first? (spell card.offer after) = none :=
    s.first_none _ (passes after (List.subset_append_right _ _) [])
  have tight := named_tight writable named _ sound left.name
  refine ⟨before ++ after, left, label_left_out _ label rfl before after,
    label_left_out _ label rfl before after, ?_⟩
  rw [spell, List.flatMap_append] at tight ⊢
  rw [spell, List.flatMap_append, List.flatMap_cons]
  exact Rule.takes_among _ s _ _ takes so _ _ (passes before (List.subset_append_left _ _) _) absent tight

theorem labels_run (labels : List Label) (distinct : labels.Nodup) (segments : List Segment)
    (arranged : Arranges card labels segments) (so : NodeOf Card) :
    ∃ rest, Arranges card [] rest ∧
      rest.filterMap Segment.condition? = segments.filterMap Segment.condition? ∧
      rest.filterMap Segment.effect? = segments.filterMap Segment.effect? ∧
      Rule.applyAll (labels.map labelRule) (spell card.offer segments, so) =
        .ok (spell card.offer rest, labels.foldl (fun so label => so.updateBody (onOffer (putLabel card.offer label))) so) := by
  induction labels generalizing segments so with
  | nil => exact ⟨segments, arranged, rfl, rfl, rfl⟩
  | cons label labels ih =>
      obtain ⟨fresh, distinctRest⟩ := List.nodup_cons.mp distinct
      obtain ⟨middle, left, sameConditions, sameEffects, step⟩ :=
        label_step writable named label labels fresh segments arranged so
      obtain ⟨rest, none, conditions, effects, run⟩ := ih distinctRest middle left
        (so.updateBody (onOffer (putLabel card.offer label)))
      refine ⟨rest, none, conditions.trans sameConditions, effects.trans sameEffects, ?_⟩
      rw [List.map_cons, Rule.apply_all_cons _ _ _ _ step, run, List.foldl_cons]

end Segments

section Lists

variable {card : Card} (writable : WritableOffer card.offer) (named : card.name = "" ∨ Plain card.name)
variable (segments : List Segment) (arranged : Arranges card [] segments) (so : NodeOf Card)

def conditionless (segments : List Segment) : List Segment :=
  segments.filter fun segment => segment.condition?.isNone

def parts (segments : List Segment) : List Segment :=
  (conditionless segments).filter fun segment => segment.effect?.isNone

theorem filtered_parts {α : Type} (pick : Segment → Option α) (other : ∀ part, pick (.name part) = none) :
    (segments.filter fun segment => (pick segment).isNone).filterMap Segment.part? = segments.filterMap Segment.part? := by
  rw [List.filterMap_filter]
  refine List.filterMap_congr fun segment _ => ?_
  cases segment with
  | name part => rw [other part]; rfl
  | label label => split <;> rfl
  | condition condition => split <;> rfl
  | effect effect => split <;> rfl

include arranged

theorem no_labels : ∀ segment ∈ segments, segment.label? = none := by
  intro segment member
  cases found : segment.label? with
  | none => rfl
  | some label =>
      have listed : label ∈ segments.filterMap Segment.label? := List.mem_filterMap.mpr ⟨segment, member, found⟩
      exact absurd (arranged.labels.subset listed) List.not_mem_nil

include writable named

theorem kept_tight {α : Type} (pick : Segment → Option α) (other : ∀ part, pick (.name part) = none)
    (kept : List Segment) (within : kept.Sublist segments)
    (keeps : kept.filter (fun segment => (pick segment).isNone) = segments.filter fun segment => (pick segment).isNone) :
    Tight (spell card.offer kept) := by
  have sound := arranged_sound writable named arranged
  refine named_tight writable named kept (fun segment member => sound segment (within.subset member)) ?_
  rw [← filtered_parts kept pick other, keeps, filtered_parts segments pick other, arranged.name]

theorem conditions_run : (offerConditions onOffer).apply (spell card.offer segments, so) =
    .ok (spell card.offer (conditionless segments), so.updateBody (onOffer fun offer =>
      { offer with conditions := offer.conditions ++ segments.filterMap Segment.condition? })) := by
  have sound := arranged_sound writable named arranged
  have unlabelled := no_labels segments arranged
  refine (conditions_among (Segment.text card.offer) _ Segment.condition? segments so (fun segment member condition found => ?_)
    (fun segment member found => ?_) (kept_tight writable named segments arranged Segment.condition? fun _ => rfl)).trans ?_
  · cases segment with
    | condition needed =>
        cases found
        exact ⟨sound _ member, rfl⟩
    | label label => cases found
    | effect effect => cases found
    | name part => cases found
  · refine no_guillemet writable segment (sound segment member) found fun same => ?_
    have none := unlabelled segment member
    rw [same] at none
    cases none
  · have added := Rule.collected (fun conditions => NodeOf.updateBody (onOffer fun offer =>
      { offer with conditions := offer.conditions ++ conditions })) (by simp [NodeOf.updateBody, onOffer])
      (by simp [NodeOf.updateBody, onOffer]) (segments.filterMap Segment.condition?) so
    exact congrArg (fun so => Except.ok (spell card.offer (conditionless segments), so)) added

theorem effects_run : (offerEffects onOffer).apply (spell card.offer (conditionless segments), so) =
    .ok (spell card.offer (parts segments), so.updateBody (onOffer fun offer =>
      { offer with effects := offer.effects ++ segments.filterMap Segment.effect? })) := by
  have sound := arranged_sound writable named arranged
  have unlabelled := no_labels segments arranged
  have inside : ∀ segment ∈ conditionless segments, segment ∈ segments ∧ segment.condition? = none := by
    intro segment member
    obtain ⟨present, without⟩ := List.mem_filter.mp member
    exact ⟨present, Option.isNone_iff_eq_none.mp without⟩
  have sameEffects : (conditionless segments).filterMap Segment.effect? = segments.filterMap Segment.effect? := by
    rw [conditionless, List.filterMap_filter]
    refine List.filterMap_congr fun segment _ => ?_
    cases segment <;> rfl
  refine (effects_among (Segment.text card.offer) _ Segment.effect? (conditionless segments) so
    (fun segment member effect found => ?_) (fun segment member found => ?_) (fun segment member => ?_)
    fun kept within keeps => ?_).trans ?_
  · cases segment with
    | effect given =>
        cases found
        exact ⟨sound _ (inside _ member).1, rfl⟩
    | label label => cases found
    | condition condition => cases found
    | name part => cases found
  · exact no_angle writable segment (sound segment (inside segment member).1) (inside segment member).2 found
  · refine no_guillemet writable segment (sound segment (inside segment member).1) (inside segment member).2 fun same => ?_
    have none := unlabelled segment (inside segment member).1
    rw [same] at none
    cases none
  · refine named_tight writable named kept (fun segment member => sound segment (inside segment (within.subset member)).1) ?_
    rw [← filtered_parts kept Segment.effect? fun _ => rfl, keeps, filtered_parts _ Segment.effect? fun _ => rfl,
      conditionless, filtered_parts segments Segment.condition? fun _ => rfl, arranged.name]
  · have added := Rule.collected (fun effects => NodeOf.updateBody (onOffer fun offer =>
      { offer with effects := offer.effects ++ effects })) (by simp [NodeOf.updateBody, onOffer])
      (by simp [NodeOf.updateBody, onOffer]) (segments.filterMap Segment.effect?) so
    rw [sameEffects]
    exact congrArg (fun so => Except.ok (spell card.offer (parts segments), so)) added

omit writable named

-- Nothing but the parts of the name is left, and they come together.
theorem parts_name : spell card.offer (parts segments) = card.name.toList := by
  have unlabelled := no_labels segments arranged
  have only : ∀ segment ∈ parts segments, ∃ part, segment = .name part := by
    intro segment member
    obtain ⟨inside, noEffect⟩ := List.mem_filter.mp member
    obtain ⟨present, noCondition⟩ := List.mem_filter.mp inside
    cases segment with
    | name part => exact ⟨part, rfl⟩
    | label label => cases unlabelled _ present
    | condition condition => cases noCondition
    | effect effect => cases noEffect
  have joined : ∀ segments : List Segment, (∀ segment ∈ segments, ∃ part, segment = .name part) →
      spell card.offer segments = (segments.filterMap Segment.part?).flatten := by
    intro segments named
    induction segments with
    | nil => rfl
    | cons segment segments ih =>
        obtain ⟨part, rfl⟩ := named _ List.mem_cons_self
        have rest := ih fun other member => named other (List.mem_cons_of_mem _ member)
        rw [spell] at rest ⊢
        rw [List.flatMap_cons, List.filterMap_cons_some (show Segment.part? (.name part) = some part from rfl),
          List.flatten_cons, rest]
        rfl
  rw [joined _ only, parts, filtered_parts _ Segment.effect? fun _ => rfl, conditionless,
    filtered_parts segments Segment.condition? fun _ => rfl, arranged.name]

end Lists

section Whole

variable (node : NodeOf Card) (writable : Writable node)

include writable

theorem name_unopened : ∀ c ∈ node.body.name.toList, isOpening c = false := by
  rcases writable.name with empty | plain
  · rw [empty]
    simp
  · exact plain_unopened _ plain

theorem in_order_writable (segments : List Segment) (arranged : Arranges node.body Label.all segments) :
    WritableOffer (inOrder node segments).body.offer := by
  have offered := writable.offer
  refine ⟨?_, offered.ad, offered.tier, offered.achievement, offered.overlay, fun condition member => ?_, fun effect member => ?_⟩
  · exact congrArg (fun offer : Offer => { offer with
      conditions := segments.filterMap Segment.condition?, effects := segments.filterMap Segment.effect? }) offered.bare
  · exact offered.conditions condition (arranged.conditions.subset member)
  · exact offered.effects effect (arranged.effects.subset member)

theorem rules_read (segments : List Segment) (arranged : Arranges node.body Label.all segments) :
    Rule.applyAll rules (spell node.body.offer segments, ⟨{}, {}⟩) =
      .ok (node.body.name.toList, ⟨{}, { offer := (inOrder node segments).body.offer }⟩) := by
  have offered := writable.offer
  obtain ⟨rest, left, sameConditions, sameEffects, run⟩ :=
    labels_run offered writable.name Label.all (by decide) segments arranged ⟨{}, {}⟩
  rw [rules_labels, Rule.apply_all_append _ _ _ _ run,
    Rule.apply_all_cons _ _ _ _ (conditions_run offered writable.name rest left _),
    Rule.apply_all_cons _ _ _ _ (effects_run offered writable.name rest left _),
    parts_name rest left, sameConditions, sameEffects]
  -- The order of conditions and effects is the text's own, so the offer in that order is the one that is read.
  have offer := put_offer (inOrder node segments).body.offer (in_order_writable node writable segments arranged)
  exact congrArg (fun offer : Offer => Except.ok (node.body.name.toList, (⟨{}, { offer := offer }⟩ : NodeOf Card))) offer

theorem clean_name : clean node.body.name.toList = node.body.name.toList := by
  have absent := unopened_absent node.body.name.toList (name_unopened node writable)
  have tight : Tight node.body.name.toList := tight_optional _ writable.name
  rw [clean, erase_none bracket _ (misses_unopened _ '[' (opens_span _ _) _ _ (absent '[' (by decide))),
    erase_none guillemet _ (misses_unopened _ '《' (opens_span _ _) _ _ (absent '《' (by decide))),
    erase_none angle _ (misses_unopened _ '<' (opens_span _ _) _ _ (absent '<' (by decide))),
    erase_none brace _ (misses_unopened _ '\x7b' (opens_span _ _) _ _ (absent '\x7b' (by decide))), trim_tight _ tight]

theorem count_name : Tag.count node.body.name.toList = 0 := by
  have absent := unopened_absent node.body.name.toList (name_unopened node writable)
  rw [Tag.count, all_none bracket _ (misses_unopened _ '[' (opens_span _ _) _ _ (absent '[' (by decide))),
    all_none guillemet _ (misses_unopened _ '《' (opens_span _ _) _ _ (absent '《' (by decide))),
    all_none angle _ (misses_unopened _ '<' (opens_span _ _) _ _ (absent '<' (by decide)))]
  rfl

theorem finished (segments : List Segment) :
    finish node.body.name.toList ⟨{}, { offer := (inOrder node segments).body.offer }⟩ = inOrder node segments := by
  have body : ({ offer := (inOrder node segments).body.offer, name := node.body.name } : Card) =
      (inOrder node segments).body :=
    congrArg (onOffer fun offer => { offer with
      conditions := segments.filterMap Segment.condition?, effects := segments.filterMap Segment.effect? }) writable.bare.symm
  rw [finish, clean_name node writable, String.ofList_toList]
  calc (⟨named (orElse node.body.name "卡牌") (orElse node.body.name "卡牌") {},
        { offer := (inOrder node segments).body.offer, name := node.body.name }⟩ : NodeOf Card)
    _ = ⟨node.header, { offer := (inOrder node segments).body.offer, name := node.body.name }⟩ := by
      rw [writable.header, named]
    _ = inOrder node segments := by rw [body]; rfl

section Text

variable (segments : List Segment) (arranged : Arranges node.body Label.all segments)

include arranged

theorem text_half : ∀ c ∈ spell node.body.offer segments, isWide c = false := by
  intro c member
  obtain ⟨segment, present, inside⟩ := List.mem_flatMap.mp member
  exact segment_half writable.offer segment (arranged_sound writable.offer writable.name arranged segment present) c inside

theorem classified : Kind.ofMarks (spell node.body.offer segments) = .card := by
  have sound := arranged_sound writable.offer writable.name arranged
  have tip : occurs tipWord.toList (spell node.body.offer segments) = false := by
    refine not_occurs tipWord (by decide) _ ((word tipWord).first_none _ ?_)
    refine (word tipWord).skips_flat_map segments _ (fun segment member => ?_) []
    have opens : Opens (word tipWord) '[' := opens_word tipWord '[' (by decide)
    by_cases other : ∀ label, segment = .label label → label = .ad
    · exact skips_unopened _ '[' opens _ (no_bracket writable.offer segment (sound segment member) other)
    · push Not at other
      obtain ⟨label, rfl, notAd⟩ := other
      refine bracketed_skips _ _ (label_bracketed node.body.offer writable.offer label notAd) _ opens fun rest => ?_
      exact begins_word tipWord _ (clash_dropped _ _ rest (by cases label <;> decide))
  have card : occurs cardWord.toList (spell node.body.offer segments) = true := by
    have listed : Label.kind ∈ segments.filterMap Segment.label? := arranged.labels.mem_iff.mpr (by decide)
    obtain ⟨segment, member, found⟩ := List.mem_filterMap.mp listed
    rw [occurs_inside]
    cases segment with
    | label label =>
        cases found
        exact List.infix_of_mem_flatten (List.mem_map.mpr ⟨_, member, rfl⟩)
    | condition condition => cases found
    | effect effect => cases found
    | name part => cases found
  simp [Kind.ofMarks, Kind.marks, tip, card]

end Text

end Whole

section Written

variable (card : Card)

-- The order in which a card is written.
def written : List Segment :=
  [.label .ad, .label .tier, .label .achievement, .label .death, .label .overlay, .label .hidden, .label .early] ++
    card.offer.conditions.map .condition ++ [.label .kind, .name card.name.toList] ++ card.offer.effects.map .effect

theorem written_picks {α : Type} (pick : Segment → Option α) :
    (written card).filterMap pick = ([.label .ad, .label .tier, .label .achievement, .label .death, .label .overlay,
      .label .hidden, .label .early].filterMap pick ++ card.offer.conditions.filterMap (fun condition => pick (.condition condition)) ++
      [.label .kind, .name card.name.toList].filterMap pick ++ card.offer.effects.filterMap fun effect => pick (.effect effect)) := by
  simp only [written, List.filterMap_append, List.filterMap_map, Function.comp_def]

theorem written_conditions : (written card).filterMap Segment.condition? = card.offer.conditions := by
  simp [written_picks, List.filterMap_cons, Segment.condition?]

theorem written_effects : (written card).filterMap Segment.effect? = card.offer.effects := by
  simp [written_picks, List.filterMap_cons, Segment.effect?]

theorem written_arranges : Arranges card Label.all (written card) := by
  refine ⟨?_, .of_eq (written_conditions card), .of_eq (written_effects card), ?_⟩
  · have labels : (written card).filterMap Segment.label? =
        [.ad, .tier, .achievement, .death, .overlay, .hidden, .early, .kind] := by
      simp [written_picks, List.filterMap_cons, Segment.label?]
    rw [labels]
    decide
  · simp [written_picks, List.filterMap_cons, Segment.part?]

theorem tag_text_written (writable : WritableOffer card.offer) : (tagText card).toList = spell card.offer (written card) := by
  have conditions := condition_tags_pieces card.offer.conditions writable.conditions
  have effects := effect_tags_pieces card.offer.effects
  simp only [tagText, tagsBefore, offerTags, spell, written, String.toList_join, List.flatMap_append, List.flatMap_cons,
    List.flatMap_nil, List.flatMap_map, conditions, effects, List.append_assoc, List.append_nil]
  rfl

end Written

theorem in_order_same (node : NodeOf Card) (segments : List Segment)
    (conditions : segments.filterMap Segment.condition? = node.body.offer.conditions)
    (effects : segments.filterMap Segment.effect? = node.body.offer.effects) : inOrder node segments = node := by
  rw [inOrder, conditions, effects]
  rfl

-- The card's own text is one of its arrangements, and every arrangement is read as the card.
theorem card_reads_in_any_order (node : NodeOf Card) (writable : Writable node) :
    (∀ isStart, Node.text (node.mapBody .card) isStart =
      .ok (String.ofList (spell node.body.offer (written node.body)))) ∧
    Arranges node.body Label.all (written node.body) ∧
    ∀ segments, Arranges node.body Label.all segments →
      (∀ kind ∈ [none, some Kind.card], Node.parse (String.ofList (spell node.body.offer segments)) kind textEntity {} =
        .ok ((inOrder node segments).mapBody .card)) ∧
      Node.parseAs .card (String.ofList (spell node.body.offer segments)) {} =
        .ok ⟨(inOrder node segments).mapBody .card, node.body.name.toList, 0⟩ ∧
      (segments.filterMap Segment.condition? = node.body.offer.conditions →
        segments.filterMap Segment.effect? = node.body.offer.effects → inOrder node segments = node) := by
  refine ⟨fun isStart => ?_, written_arranges node.body, fun segments arranged => ?_⟩
  · rw [← tag_text_written node.body writable.offer, String.ofList_toList]
    rfl
  · have parsed : Node.parseAs .card (String.ofList (spell node.body.offer segments)) {} =
        .ok ⟨(inOrder node segments).mapBody .card, node.body.name.toList, 0⟩ := by
      rw [Node.parseAs, String.toList_ofList, Node.parseWith, rules_read node writable segments arranged]
      simp only [Except.map, finished node writable, count_name node writable]
    refine ⟨Node.parse_again .card _ {} _ ?_ ?_ (by rw [parsed]; rfl), parsed, in_order_same node segments⟩
    · rw [String.toList_ofList]
      exact text_half node writable segments arranged
    · rw [String.toList_ofList]
      exact classified node writable segments arranged

def relic : NodeOf Card := {
  header := { name := "old relic", title := "old relic" }
  body := {
    offer := {
      conditions := [⟨"钥匙", .less, "3"⟩, ⟨"勇气", .equal, "高 档"⟩, ⟨"钥匙", .less, "3"⟩]
      effects := [⟨"keys", .subtract, "1", .accumulative⟩, ⟨"door", .set, "", .normal⟩]
      requireAd := true, adType := "splash", isOverlay := true, overlayImage := "relic.png", tier := -12
      showWhenUnavailable := false, unlockAchievement := true, achievementName := "first key"
      isDeadpoint := true, preDisplay := true }
    name := "old relic" } }

def scattered : List Segment := [
  .name "o".toList, .effect ⟨"door", .set, "", .normal⟩, .label .early, .name "ld ".toList, .label .kind,
  .condition ⟨"钥匙", .less, "3"⟩, .condition ⟨"钥匙", .less, "3"⟩, .label .ad, .name "rel".toList, .label .overlay,
  .label .hidden, .effect ⟨"keys", .subtract, "1", .accumulative⟩, .name "ic".toList, .label .death, .label .tier,
  .condition ⟨"勇气", .equal, "高 档"⟩, .label .achievement]

theorem relic_writable : Writable relic := by
  have tier := two_digits_small relic.body.offer.tier.natAbs 300 (by decide) (by decide)
  have conditions : ∀ condition ∈ relic.body.offer.conditions, SafeCondition condition := by decide
  have effects : ∀ effect ∈ relic.body.offer.effects, SafeEffect effect := by decide
  have offer : WritableOffer relic.body.offer :=
    ⟨rfl, .inr ⟨rfl, by decide⟩, tier, .inr ⟨rfl, by decide⟩, .inr (.inr ⟨rfl, rfl, .inr (by decide)⟩), conditions, effects⟩
  exact ⟨rfl, rfl, offer, .inr (by decide)⟩

theorem scattered_arranges : Arranges relic.body Label.all scattered :=
  ⟨by decide, by decide, by decide, by decide⟩

theorem relic_reads_scattered : Writable relic ∧ Arranges relic.body Label.all scattered ∧
    ∀ kind ∈ [none, some Kind.card], Node.parse (String.ofList (spell relic.body.offer scattered)) kind textEntity {} =
      .ok ((inOrder relic scattered).mapBody .card) :=
  ⟨relic_writable, scattered_arranges, ((card_reads_in_any_order relic relic_writable).2.2 scattered scattered_arranges).1⟩

end TaggedStory.Card
