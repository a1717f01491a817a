import TaggedStory.Node.Mark
import TaggedStory.Proofs.Tag.Ads
import TaggedStory.Proofs.Tag.Brackets
import TaggedStory.Proofs.Tag.Conditions
import TaggedStory.Proofs.Tag.Decimals
import TaggedStory.Proofs.Tag.Effects
import TaggedStory.Proofs.Tag.Scattered
/-!
The tags in front of an option, and how each of them is read.
-/
set_option autoImplicit false

namespace TaggedStory.Mark

open Decimal Text Scanner Tag

section Digits

theorem run_tier_digits (value : Int) (rest : List Char) :
    StateT.run tierDigits (intText value ++ ']' :: rest) = some (intText value, ']' :: rest) := by
  have digits := run_digits (natText value.natAbs) ']' rest (nat_text_nonempty _) (nat_text_digits _) (by decide)
  obtain ⟨lead, shape, ⟨rfl, _⟩ | ⟨rfl, _⟩⟩ := int_text_shape value
  · rw [shape]
    refine (bind_succeeds _ _ _ _ _).mpr ⟨some (), natText value.natAbs ++ ']' :: rest, ?_, ?_⟩
    · exact reads_optional _ ['-'] () (reads_char '-') _
    · exact (bind_succeeds _ _ _ _ _).mpr ⟨_, _, digits, rfl⟩
  · rw [shape]
    obtain ⟨c, later, first⟩ := List.exists_cons_of_ne_nil (nat_text_nonempty value.natAbs)
    have digit : c.isDigit = true := nat_text_digits value.natAbs c (by rw [first]; exact List.mem_cons_self)
    refine (bind_succeeds _ _ _ _ _).mpr ⟨none, natText value.natAbs ++ ']' :: rest, ?_, ?_⟩
    · refine optional_refused _ _ ?_
      rw [first]
      exact opens_char '-' c _ (digit_other c '-' digit (by decide))
    · exact (bind_succeeds _ _ _ _ _).mpr ⟨_, _, digits, rfl⟩

end Digits

section Reading

theorem reads_tier (value : Int) : Reads tier ("[层级:".toList ++ (intText value ++ [']'])) (intText value) := by
  intro rest
  have solid : ∀ c ∈ (intText value ++ ']' :: rest).head?, isBlank c = false := by
    obtain ⟨c, later, shape⟩ := List.exists_cons_of_ne_nil (int_text_nonempty value)
    rw [shape]
    rintro _ ⟨rfl⟩
    exact int_text_solid value c (by rw [shape]; exact List.mem_cons_self)
  rw [List.append_assoc, List.append_assoc, List.singleton_append]
  refine (bind_succeeds _ _ _ _ _).mpr ⟨(), '层' :: '级' :: ':' :: (intText value ++ ']' :: rest), rfl, ?_⟩
  refine (bind_succeeds _ _ _ _ _).mpr ⟨(), _, rfl, ?_⟩
  refine (bind_succeeds _ _ _ _ _).mpr ⟨(), ':' :: (intText value ++ ']' :: rest), rfl, ?_⟩
  refine (bind_succeeds _ _ _ _ _).mpr ⟨(), _, rfl, ?_⟩
  refine (bind_succeeds _ _ _ _ _).mpr ⟨(), intText value ++ ']' :: rest, rfl, ?_⟩
  refine (bind_succeeds _ _ _ _ _).mpr ⟨(), _, run_blanks_solid _ solid, ?_⟩
  refine (bind_succeeds _ _ _ _ _).mpr ⟨_, _, run_tier_digits value rest, ?_⟩
  exact (bind_succeeds _ _ _ _ _).mpr ⟨(), ']' :: rest, run_blanks ']' rest (by decide), rfl⟩

theorem whole_from_int (value : Int) (short : value.natAbs ≤ 10 ^ 300) : wholeFrom (intText value) = .ok value := by
  rw [wholeFrom, numberFrom, read_number_int value _ short]
  rfl

theorem reads_achievement (name : List Char) (nonempty : name ≠ []) (absent : ']' ∉ name) :
    Reads achievement ("[解锁成就:".toList ++ (name ++ [']'])) name :=
  reads_valued "[解锁成就" name nonempty absent

theorem reads_overlay_named (name : List Char) (nonempty : name ≠ []) (absent : ']' ∉ name) :
    Reads overlay ("[叠加图片选项:".toList ++ (name ++ [']'])) (trim name) := by
  intro rest
  rw [List.append_assoc, List.append_assoc, List.singleton_append]
  refine (bind_succeeds _ _ _ _ _).mpr ⟨(), "叠加图片选项:".toList ++ (name ++ ']' :: rest), rfl, ?_⟩
  refine (bind_succeeds _ _ _ _ _).mpr ⟨(), _, rfl, ?_⟩
  refine (bind_succeeds _ _ _ _ _).mpr ⟨(), ':' :: (name ++ ']' :: rest), rfl, ?_⟩
  refine (bind_succeeds _ _ _ _ _).mpr ⟨(), _, rfl, ?_⟩
  have read := reads_optional _ _ _ (reads_bind colon (fun _ => upTo ']') [':'] (name ++ [']']) () name
    reads_colon (reads_up_to ']' name nonempty absent)) rest
  rw [List.append_assoc, List.append_assoc, List.singleton_append, List.singleton_append] at read
  exact (bind_succeeds _ _ _ _ _).mpr ⟨some name, rest, read, rfl⟩

theorem reads_overlay_bare : Reads overlay "[叠加图片选项]".toList [] :=
  fun _ => rfl

end Reading

-- What the tags can say of an offer; all other fields keep their defaults.
structure WritableOffer (offer : Offer) : Prop where
  bare : offer = {
    conditions := offer.conditions, effects := offer.effects, requireAd := offer.requireAd, adType := offer.adType,
    isOverlay := offer.isOverlay, overlayImage := offer.overlayImage, isClickable := offer.isClickable,
    tier := offer.tier, showWhenUnavailable := offer.showWhenUnavailable,
    unlockAchievement := offer.unlockAchievement, achievementName := offer.achievementName,
    isDeadpoint := offer.isDeadpoint, preDisplay := offer.preDisplay }
  ad : offer.requireAd = false ∧ offer.adType = "" ∨
    offer.requireAd = true ∧ offer.adType ∈ ["fullscreen", "rewarded", "splash"]
  tier : offer.tier.natAbs < 10 ^ 300
  achievement : offer.unlockAchievement = false ∧ offer.achievementName = "" ∨
    offer.unlockAchievement = true ∧ Plain offer.achievementName
  overlay : offer.isOverlay = false ∧ offer.isClickable = true ∧ offer.overlayImage = "" ∨
    offer.isOverlay = true ∧ offer.isClickable = false ∧ offer.overlayImage = "" ∨
    offer.isOverlay = true ∧ offer.isClickable = true ∧
      (offer.overlayImage = "" ∨ Plain offer.overlayImage ∧ saysFalse offer.overlayImage.toList = false)
  conditions : ∀ condition ∈ offer.conditions, SafeCondition condition
  effects : ∀ effect ∈ offer.effects, SafeEffect effect

section Pieces

variable (offer : Offer)

def adPiece : List Char :=
  (adMarkText offer.requireAd offer.adType false).toList

def tierPiece : List Char :=
  (if offer.tier = 0 then "" else "[层级:" ++ String.ofList (intText offer.tier) ++ "]").toList

def achievementPiece : List Char :=
  (achievementTag offer.unlockAchievement offer.achievementName).toList

def deathPiece : List Char :=
  (if offer.isDeadpoint then deathWord else "").toList

def overlayPiece : List Char :=
  (overlayTag offer).toList

theorem ad_piece_tame (writable : WritableOffer offer) : Tame ['[', '<', '\x7b'] (adPiece offer) :=
  ad_mark_tame offer.requireAd offer.adType writable.ad

theorem tier_bracketed : Bracketed "[层级:" (tierPiece offer) := by
  rw [tierPiece]
  by_cases ground : offer.tier = 0
  · rw [if_pos ground]
    exact bracketed_empty _
  · have written := bracketed_valued "[层级:" (intText offer.tier) (by decide) (by decide) (int_text_quiet offer.tier)
    rw [if_neg ground]
    simpa using written

theorem achievement_bracketed (writable : WritableOffer offer) : Bracketed "[解锁成就:" (achievementPiece offer) := by
  rw [achievementPiece, achievementTag]
  rcases writable.achievement with ⟨locked, _⟩ | ⟨unlocked, plain⟩
  · rw [locked]
    exact bracketed_empty _
  · have written := bracketed_valued "[解锁成就:" offer.achievementName.toList (by decide) (by decide)
      (plain_quiet _ plain)
    simpa [unlocked, plain.nonempty] using written

theorem death_bracketed : Bracketed deathWord (deathPiece offer) :=
  bracketed_flag offer.isDeadpoint deathWord (by decide) (by decide)

theorem overlay_bracketed (writable : WritableOffer offer) : Bracketed "[叠加图片选项" (overlayPiece offer) := by
  rw [overlayPiece, overlayTag]
  rcases writable.overlay with ⟨off, _⟩ | ⟨on, clickable, _⟩ | ⟨on, clickable, empty | ⟨plain, _⟩⟩
  · rw [off]
    exact bracketed_empty _
  · rw [on, clickable]
    exact bracketed_shorter "[叠加图片选项:false]" _ _ (by simp) (bracketed_literal _ (by decide) (by decide))
  · rw [on, clickable, empty]
    exact bracketed_shorter "[叠加图片选项]" _ _ (by simp) (bracketed_literal _ (by decide) (by decide))
  · have written := bracketed_valued "[叠加图片选项:" offer.overlayImage.toList (by decide) (by decide)
      (plain_quiet _ plain)
    refine bracketed_shorter "[叠加图片选项:" _ _ (by simp) ?_
    simpa [on, clickable, plain.nonempty] using written

end Pieces

section Steps

-- What a tag adds to the offer that has been read so far.
def putAd (offer so : Offer) : Offer :=
  if offer.requireAd then { so with requireAd := true, adType := offer.adType } else so

def putTier (offer so : Offer) : Offer :=
  if offer.tier = 0 then so else { so with tier := offer.tier }

def putAchievement (offer so : Offer) : Offer :=
  if offer.unlockAchievement then { so with unlockAchievement := true, achievementName := offer.achievementName } else so

def putDeath (offer so : Offer) : Offer :=
  if offer.isDeadpoint then { so with isDeadpoint := true } else so

def putOverlay (offer so : Offer) : Offer :=
  if !offer.isOverlay then so
  else if !offer.isClickable then { so with isOverlay := true, isClickable := false }
  else if offer.overlayImage = "" then { so with isOverlay := true }
  else { so with isOverlay := true, overlayImage := offer.overlayImage }

def putHidden (offer so : Offer) : Offer :=
  if offer.showWhenUnavailable then so else hideOffer so

def putEarly (offer so : Offer) : Offer :=
  if offer.preDisplay then { so with preDisplay := true } else so

def putLists (offer so : Offer) : Offer :=
  { so with conditions := so.conditions ++ offer.conditions, effects := so.effects ++ offer.effects }

variable {B : Type} (update : (Offer → Offer) → B → B) (identity : ∀ body, update (fun offer => offer) body = body)
variable (offer : Offer) (writable : WritableOffer offer)

include identity

theorem update_unchanged (node : NodeOf B) (change : Offer → Offer) (unchanged : ∀ so, change so = so) :
    node.updateBody (update change) = node := by
  have same : change = fun so => so := funext unchanged
  rw [same, NodeOf.updateBody, identity]

include writable

theorem ad_takes : (offerAd update).Takes ad (adPiece offer) (NodeOf.updateBody (update (putAd offer))) := by
  refine ⟨_, _, rfl, ?_⟩
  rw [adPiece]
  rcases ad_written offer.requireAd offer.adType writable.ad with ⟨none, free, _⟩ | ⟨front, required, number, same, reads⟩
  · refine .inl ⟨by rw [none]; rfl, fun node => update_unchanged update identity node _ fun so => ?_⟩
    rw [putAd, free, if_neg Bool.false_ne_true]
  · have put : putAd offer = fun so => { so with requireAd := true, adType := adTypeFor number } :=
      funext fun so => by rw [putAd, required, if_pos rfl, same]
    rw [put]
    exact .inr ⟨List.ne_nil_of_mem (List.mem_of_mem_head? front), number, reads, fun _ => rfl⟩

theorem tier_takes : (offerTier update).Takes tier (tierPiece offer) (NodeOf.updateBody (update (putTier offer))) := by
  refine ⟨_, _, rfl, ?_⟩
  rw [tierPiece]
  by_cases ground : offer.tier = 0
  · rw [if_pos ground]
    refine .inl ⟨rfl, fun node => update_unchanged update identity node _ fun so => ?_⟩
    rw [putTier, if_pos ground]
  · have put : putTier offer = fun so => { so with tier := offer.tier } :=
      funext fun so => by rw [putTier, if_neg ground]
    have written : ("[层级:" ++ String.ofList (intText offer.tier) ++ "]").toList =
        "[层级:".toList ++ (intText offer.tier ++ [']']) := by simp
    rw [put, if_neg ground, written]
    refine .inr ⟨by simp, intText offer.tier, reads_tier offer.tier, fun node => ?_⟩
    rw [whole_from_int offer.tier (Nat.le_of_lt writable.tier)]
    rfl

theorem achievement_takes : (offerAchievement update).Takes achievement (achievementPiece offer)
    (NodeOf.updateBody (update (putAchievement offer))) := by
  refine ⟨_, _, rfl, ?_⟩
  rw [achievementPiece, achievementTag]
  rcases writable.achievement with ⟨locked, _⟩ | ⟨unlocked, plain⟩
  · refine .inl ⟨by rw [locked]; rfl, fun node => update_unchanged update identity node _ fun so => ?_⟩
    rw [putAchievement, locked, if_neg Bool.false_ne_true]
  · have put : putAchievement offer = fun so =>
        { so with unlockAchievement := true, achievementName := trimmedText offer.achievementName.toList } := by
      funext so
      rw [putAchievement, unlocked, if_pos rfl, trimmedText, plain.trimmed, String.ofList_toList]
    have written : (if (true && decide (offer.achievementName ≠ "")) = true then
        "[解锁成就:" ++ offer.achievementName ++ "]" else "").toList =
        "[解锁成就:".toList ++ (offer.achievementName.toList ++ [']']) := by simp [plain.nonempty]
    rw [put, unlocked, written]
    refine .inr ⟨by simp, offer.achievementName.toList, ?_, fun _ => rfl⟩
    exact reads_achievement _ plain.nonempty_list (plain.absent ']' (by decide))

theorem overlay_takes : (offerOverlay update).Takes overlay (overlayPiece offer)
    (NodeOf.updateBody (update (putOverlay offer))) := by
  refine ⟨_, _, rfl, ?_⟩
  rw [overlayPiece]
  rcases writable.overlay with ⟨off, _⟩ | ⟨on, clickable, _⟩ | ⟨on, clickable, empty | ⟨plain, truthful⟩⟩
  · have written : overlayTag offer = "" := by simp [overlayTag, off]
    refine .inl ⟨by rw [written]; rfl, fun node => update_unchanged update identity node _ fun so => ?_⟩
    rw [putOverlay, off]
    rfl
  · have written : overlayTag offer = "[叠加图片选项:false]" := by simp [overlayTag, on, clickable]
    have put : putOverlay offer = setOverlay "false".toList := by
      funext so
      rw [putOverlay, on, clickable]
      rfl
    rw [put, written]
    refine .inr ⟨by decide, "false".toList, ?_, fun _ => rfl⟩
    exact reads_overlay_named "false".toList (by decide) (by decide)
  · have written : overlayTag offer = "[叠加图片选项]" := by simp [overlayTag, on, clickable, empty]
    have put : putOverlay offer = setOverlay [] := by
      funext so
      rw [putOverlay, on, clickable, empty]
      rfl
    rw [put, written]
    exact .inr ⟨by decide, [], reads_overlay_bare, fun _ => rfl⟩
  · have written : (overlayTag offer).toList = "[叠加图片选项:".toList ++ (offer.overlayImage.toList ++ [']']) := by
      simp [overlayTag, on, clickable, plain.nonempty]
    have put : putOverlay offer = setOverlay (trim offer.overlayImage.toList) := by
      funext so
      have filled : offer.overlayImage.toList.isEmpty = false := by simpa using plain.nonempty
      rw [putOverlay, on, clickable, setOverlay, plain.trimmed, truthful, filled, String.ofList_toList]
      simp [plain.nonempty]
    rw [put, written]
    refine .inr ⟨by simp, trim offer.overlayImage.toList, ?_, fun _ => rfl⟩
    exact reads_overlay_named _ plain.nonempty_list (plain.absent ']' (by decide))

omit writable

-- A word that stands for one flag of the offer.
theorem flag_takes (name mark : String) (flag : Bool) (change : Offer → Offer) (nonempty : mark.toList ≠ []) :
    (flagBody name mark (update change)).Takes (word mark) (if flag then mark else "").toList
      (NodeOf.updateBody (update fun so => if flag then change so else so)) := by
  refine ⟨_, _, rfl, ?_⟩
  cases flag with
  | false => exact .inl ⟨rfl, fun node => update_unchanged update identity node _ fun _ => rfl⟩
  | true => exact .inr ⟨nonempty, (), reads_word mark, fun _ => rfl⟩

theorem death_takes : (offerDeath update).Takes (word deathWord) (deathPiece offer)
    (NodeOf.updateBody (update (putDeath offer))) :=
  flag_takes update identity "death" deathWord offer.isDeadpoint (fun so => { so with isDeadpoint := true }) (by decide)

theorem hidden_takes : (flagBody "hidden" hiddenWord (update hideOffer)).Takes (word hiddenWord)
    (if offer.showWhenUnavailable then "" else hiddenWord).toList (NodeOf.updateBody (update (putHidden offer))) := by
  have takes := flag_takes update identity "hidden" hiddenWord (!offer.showWhenUnavailable) hideOffer (by decide)
  have put : putHidden offer = fun so => if !offer.showWhenUnavailable then hideOffer so else so := by
    funext so
    rw [putHidden]
    cases offer.showWhenUnavailable <;> rfl
  rw [put]
  cases shown : offer.showWhenUnavailable with
  | false =>
      rw [shown] at takes
      exact takes
  | true =>
      rw [shown] at takes
      exact takes

theorem early_takes : (offerEarly update).Takes (word earlyWord) (if offer.preDisplay then earlyWord else "").toList
    (NodeOf.updateBody (update (putEarly offer))) :=
  flag_takes update identity "early_display" earlyWord offer.preDisplay (fun so => { so with preDisplay := true }) (by decide)

variable (rest : List Char) (tight : Tight rest) (node : NodeOf B)

include writable tight

theorem ad_step (absent : ad.first? rest = none) :
    (offerAd update).apply (adPiece offer ++ rest, node) = .ok (rest, node.updateBody (update (putAd offer))) :=
  Rule.takes_front _ _ _ _ (ad_takes update identity offer writable) node rest absent tight

theorem tier_step (absent : tier.first? rest = none) :
    (offerTier update).apply (tierPiece offer ++ rest, node) = .ok (rest, node.updateBody (update (putTier offer))) :=
  Rule.takes_front _ _ _ _ (tier_takes update identity offer writable) node rest absent tight

theorem achievement_step (absent : achievement.first? rest = none) :
    (offerAchievement update).apply (achievementPiece offer ++ rest, node) =
      .ok (rest, node.updateBody (update (putAchievement offer))) :=
  Rule.takes_front _ _ _ _ (achievement_takes update identity offer writable) node rest absent tight

theorem overlay_step (absent : overlay.first? rest = none) :
    (offerOverlay update).apply (overlayPiece offer ++ rest, node) =
      .ok (rest, node.updateBody (update (putOverlay offer))) :=
  Rule.takes_front _ _ _ _ (overlay_takes update identity offer writable) node rest absent tight

omit writable

theorem death_step (absent : (word deathWord).first? rest = none) :
    (offerDeath update).apply (deathPiece offer ++ rest, node) = .ok (rest, node.updateBody (update (putDeath offer))) :=
  Rule.takes_front _ _ _ _ (death_takes update identity offer) node rest absent tight

end Steps

-- The tags together say all of the offer but its visibility, its conditions and its effects.
theorem put_all (offer : Offer) (writable : WritableOffer offer) :
    putOverlay offer (putDeath offer (putAchievement offer (putTier offer (putAd offer {})))) = {
      requireAd := offer.requireAd, adType := offer.adType, tier := offer.tier,
      unlockAchievement := offer.unlockAchievement, achievementName := offer.achievementName,
      isDeadpoint := offer.isDeadpoint, isOverlay := offer.isOverlay, overlayImage := offer.overlayImage,
      isClickable := offer.isClickable } := by
  have ad : putAd offer {} = { requireAd := offer.requireAd, adType := offer.adType } := by
    rcases writable.ad with ⟨free, none⟩ | ⟨required, _⟩
    · rw [putAd, free, none, if_neg Bool.false_ne_true]
    · rw [putAd, required, if_pos rfl]
  have tier : ∀ so : Offer, so.tier = 0 → putTier offer so = { so with tier := offer.tier } := by
    intro so unset
    by_cases ground : offer.tier = 0
    · rw [putTier, if_pos ground, ground, ← unset]
    · rw [putTier, if_neg ground]
  have achievement : ∀ so : Offer, so.unlockAchievement = false → so.achievementName = "" → putAchievement offer so =
      { so with unlockAchievement := offer.unlockAchievement, achievementName := offer.achievementName } := by
    intro so locked unnamed
    rcases writable.achievement with ⟨none, empty⟩ | ⟨unlocked, _⟩
    · rw [putAchievement, none, empty, if_neg Bool.false_ne_true, ← locked, ← unnamed]
    · rw [putAchievement, unlocked, if_pos rfl]
  have death : ∀ so : Offer, so.isDeadpoint = false → putDeath offer so = { so with isDeadpoint := offer.isDeadpoint } := by
    intro so alive
    cases dead : offer.isDeadpoint with
    | false => rw [putDeath, dead, if_neg Bool.false_ne_true, ← alive]
    | true => rw [putDeath, dead, if_pos rfl]
  have overlay : ∀ so : Offer, so.isOverlay = false → so.overlayImage = "" → so.isClickable = true →
      putOverlay offer so = { so with
        isOverlay := offer.isOverlay, overlayImage := offer.overlayImage, isClickable := offer.isClickable } := by
    rintro ⟨⟩ ⟨⟩ ⟨⟩ ⟨⟩
    rcases writable.overlay with ⟨none, clicks, empty⟩ | ⟨on, fixed, empty⟩ | ⟨on, clicks, empty | ⟨plain, _⟩⟩
    · rw [putOverlay, none, clicks, empty]
      rfl
    · rw [putOverlay, on, fixed, empty]
      rfl
    · rw [putOverlay, on, clicks, empty]
      rfl
    · rw [putOverlay, on, clicks, if_neg plain.nonempty]
      rfl
  rw [ad, tier _ rfl, achievement _ rfl rfl, death _ rfl, overlay _ rfl rfl rfl]

-- All tags together say the whole offer.
theorem put_offer (offer : Offer) (writable : WritableOffer offer) :
    putLists offer (putEarly offer (putHidden offer (putOverlay offer (putDeath offer (putAchievement offer
      (putTier offer (putAd offer {}))))))) = offer := by
  have hidden : ∀ so : Offer, so.showWhenUnavailable = true → putHidden offer so =
      { so with showWhenUnavailable := offer.showWhenUnavailable } := by
    intro so shown
    cases shows : offer.showWhenUnavailable with
    | false => rw [putHidden, shows, if_neg Bool.false_ne_true, hideOffer]
    | true => rw [putHidden, shows, if_pos rfl, ← shown]
  have early : ∀ so : Offer, so.preDisplay = false → putEarly offer so = { so with preDisplay := offer.preDisplay } := by
    intro so late
    cases shows : offer.preDisplay with
    | false => rw [putEarly, shows, if_neg Bool.false_ne_true, ← late]
    | true => rw [putEarly, shows, if_pos rfl]
  rw [put_all offer writable, hidden _ rfl, early _ rfl]
  exact writable.bare.symm

end TaggedStory.Mark
