import TaggedStory.Node.Mark
/-!
The text of choices. Of the three forms of a probability the first that stands in the text counts.
-/
set_option autoImplicit false

namespace TaggedStory.Choice

open Decimal Text Tag Mark

def onOffer (change : Offer → Offer) (choice : Choice) : Choice :=
  { choice with offer := change choice.offer }

def hidden : Scanner Unit :=
  Scanner.word hiddenChoiceWord <|> Scanner.word hiddenWord

def countedProbability : Scanner (List Char × List Char) := do
  char '《'
  let amount ← decimal
  char '%'
  colon
  let count ← digits
  char '》'
  return (amount, count)

def plainProbability : Scanner (List Char) := do
  char '《'
  let amount ← decimal
  Scanner.word "%》"
  return amount

def probabilityName : Scanner (List Char) := do
  char '《'
  let name ← Scanner.many1 fun c => c ≠ '》' && c ≠ '%'
  Scanner.word "%》"
  return name

/-- A rule that a choice with a probability declines. -/
def once {α : Type} (name : String) (scanner : Scanner α) (change : Choice → α → Attempt Choice) :
    Rule (NodeOf Choice) :=
  .first name scanner fun node value =>
    if node.body.isProbability then .ok none
    else (change { node.body with isProbability := true } value).map fun choice =>
      some { node with body := choice }

def setCounted (choice : Choice) (found : List Char × List Char) : Attempt Choice := do
  let amount ← numberFrom found.1 (.whole 0)
  let count ← wholeFrom found.2
  return { choice with probability := amount, maxCount := count }

def setProbability (choice : Choice) (found : List Char) : Attempt Choice :=
  (numberFrom found (.whole 0)).map fun amount => { choice with probability := amount }

def rules : List (Rule (NodeOf Choice)) := [
  offerAd onOffer,
  offerTier onOffer,
  offerAchievement onOffer,
  offerDeath onOffer,
  .drop "start" (Scanner.word startWord),
  .drop "option" (Scanner.word choiceWord),
  offerOverlay onOffer,
  .setEvery "hidden" hidden fun _ => NodeOf.updateBody (onOffer hideOffer),
  offerEarly onOffer,
  once "probability_count" countedProbability setCounted,
  once "probability_simple" plainProbability setProbability,
  once "probability_expression" probabilityName fun choice name =>
    .ok { choice with probabilityExpression := trimmedText name },
  offerConditions onOffer,
  offerEffects onOffer,
  (onBody "dynamic_text" brace fun body choice =>
    { choice with dynamicText := trimmedText body }).keeping]

def finish (remainder : List Char) (node : NodeOf Choice) : NodeOf Choice :=
  let cleaned := String.ofList (clean remainder)
  let name := orElse cleaned "选项"
  { header := named name name node.header, body := { node.body with text := cleaned } }

def probabilityTag (choice : Choice) : String :=
  if !choice.isProbability then ""
  else if choice.probabilityExpression ≠ "" then "《" ++ choice.probabilityExpression ++ "%》"
  else if choice.maxCount ≠ 0 then
    "《" ++ choice.probability.text ++ "%:" ++ String.ofList (intText choice.maxCount) ++ "》"
  else "《" ++ choice.probability.text ++ "%》"

def tags (choice : Choice) : List String :=
  offerTags choice.offer ++
  [ if choice.offer.showWhenUnavailable then choiceWord else hiddenChoiceWord,
    if choice.offer.preDisplay then earlyWord else "",
    probabilityTag choice] ++
  choice.offer.conditions.map conditionTag ++ choice.offer.effects.map effectTag ++
  [if choice.dynamicText = "" then "" else "\x7b" ++ choice.dynamicText ++ "\x7d"]

def tagText (choice : Choice) : String :=
  String.join (tags choice ++ [choice.text])

end TaggedStory.Choice
