import TaggedStory.Node.Mark
/-!
The text of cards.
-/
set_option autoImplicit false

namespace TaggedStory.Card

open Text Tag Mark

def onOffer (change : Offer → Offer) (card : Card) : Card :=
  { card with offer := change card.offer }

def rules : List (Rule (NodeOf Card)) := [
  offerAd onOffer,
  offerTier onOffer,
  offerAchievement onOffer,
  offerDeath onOffer,
  .drop "card" (Scanner.word cardWord),
  offerOverlay onOffer,
  flagBody "hidden" hiddenWord (onOffer hideOffer),
  offerEarly onOffer,
  offerConditions onOffer,
  offerEffects onOffer]

def finish (remainder : List Char) (node : NodeOf Card) : NodeOf Card :=
  let cleaned := String.ofList (clean remainder)
  let name := orElse cleaned "卡牌"
  { header := named name name node.header, body := { node.body with name := cleaned } }

def tagsBefore (card : Card) : List String :=
  offerTags card.offer ++
  [ if card.offer.showWhenUnavailable then "" else hiddenWord,
    if card.offer.preDisplay then earlyWord else ""] ++
  card.offer.conditions.map conditionTag

def tagText (card : Card) : String :=
  String.join (tagsBefore card ++ [cardWord, card.name] ++ card.offer.effects.map effectTag)

end TaggedStory.Card
