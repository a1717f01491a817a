import TaggedStory.Story.Node
import TaggedStory.Tag.Rule
/-!
Marks that several kinds of node share, with the rules that read them and the words that write them.
-/
set_option autoImplicit false

namespace TaggedStory.Mark

open Decimal Text Tag

def startWord : String := "[起点]"
def resetWord : String := "[重置到CP点]"
def deathWord : String := "[死亡节点]"
def earlyWord : String := "[提前]"
def hiddenWord : String := "[隐藏]"
def choiceWord : String := "[选项]"
def hiddenChoiceWord : String := "[隐藏选项]"
def cardWord : String := "[卡牌选项]"
def bgmWord : String := "[BGM]"
def jumpWord : String := "[跳转节点]"
def tipWord : String := "[提示]"

def numberFrom (text : List Char) (fallback : Number) : Attempt Number :=
  match readNumber text fallback with
  | .ok value => .ok value
  | .error cause => .error (.unreadableWhole (.str (String.ofList text)) cause)

/-- The whole part of a number text; zero where it is none. -/
def wholeFrom (text : List Char) : Attempt Int :=
  (numberFrom text (.whole 0)).map Number.truncated

def trimmedText (text : List Char) : String :=
  String.ofList (trim text)

def achievement : Scanner (List Char) := valued "[解锁成就"

def achievementTag (unlock : Bool) (name : String) : String :=
  if unlock && name ≠ "" then "[解锁成就:" ++ name ++ "]" else ""

def tierDigits : Scanner (List Char) := do
  let minus ← Scanner.optional (char '-')
  let body ← digits
  return match minus with
    | some _ => '-' :: body
    | none => body

def tier : Scanner (List Char) := do
  char '['
  Scanner.blanks
  Scanner.word "层级"
  Scanner.blanks
  colon
  Scanner.blanks
  let value ← tierDigits
  Scanner.blanks
  char ']'
  return value

/-- The name of the image, or nothing. -/
def overlay : Scanner (List Char) := do
  char '['
  Scanner.blanks
  Scanner.word "叠加图片选项"
  Scanner.blanks
  let image ← Scanner.optional do
    colon
    upTo ']'
  match image with
  | some name => return trim name
  | none =>
    char ']'
    return []

def saysFalse (name : List Char) : Bool :=
  lowerAscii name == "false".toList

def setOverlay (name : List Char) (offer : Offer) : Offer :=
  if saysFalse name then { offer with isOverlay := true, isClickable := false }
  else if name.isEmpty then { offer with isOverlay := true }
  else { offer with isOverlay := true, overlayImage := String.ofList name }

def overlayTag (offer : Offer) : String :=
  if !offer.isOverlay then ""
  else if !offer.isClickable then "[叠加图片选项:false]"
  else if offer.overlayImage ≠ "" then "[叠加图片选项:" ++ offer.overlayImage ++ "]"
  else "[叠加图片选项]"

/-- The tags in front of an option. -/
def offerTags (offer : Offer) : List String := [
  adMarkText offer.requireAd offer.adType false,
  if offer.tier = 0 then "" else "[层级:" ++ String.ofList (intText offer.tier) ++ "]",
  achievementTag offer.unlockAchievement offer.achievementName,
  if offer.isDeadpoint then deathWord else "",
  overlayTag offer]

section Rules

variable {B : Type}

/-- A rule on the body of a node. -/
def onBody {α : Type} (name : String) (scanner : Scanner α) (change : α → B → B) :
    Rule (NodeOf B) :=
  .set name scanner fun value => NodeOf.updateBody (change value)

def flagBody (name word : String) (change : B → B) : Rule (NodeOf B) :=
  .literal name word (NodeOf.updateBody change)

def offerAd (update : (Offer → Offer) → B → B) : Rule (NodeOf B) :=
  onBody "ad" ad fun number => update fun offer =>
    { offer with requireAd := true, adType := adTypeFor number }

def offerTier (update : (Offer → Offer) → B → B) : Rule (NodeOf B) :=
  .first "tier" tier fun node value => (wholeFrom value).map fun level =>
    some (node.updateBody (update fun offer => { offer with tier := level }))

def offerAchievement (update : (Offer → Offer) → B → B) : Rule (NodeOf B) :=
  onBody "achievement" achievement fun name => update fun offer =>
    { offer with unlockAchievement := true, achievementName := trimmedText name }

def offerDeath (update : (Offer → Offer) → B → B) : Rule (NodeOf B) :=
  flagBody "death" deathWord (update fun offer => { offer with isDeadpoint := true })

def offerOverlay (update : (Offer → Offer) → B → B) : Rule (NodeOf B) :=
  onBody "overlay_image" overlay fun name => update (setOverlay name)

def offerEarly (update : (Offer → Offer) → B → B) : Rule (NodeOf B) :=
  flagBody "early_display" earlyWord (update fun offer => { offer with preDisplay := true })

def hideOffer (offer : Offer) : Offer :=
  { offer with showWhenUnavailable := false }

def offerConditions (update : (Offer → Offer) → B → B) : Rule (NodeOf B) :=
  conditionRule fun condition => NodeOf.updateBody <| update fun offer =>
    { offer with conditions := offer.conditions ++ [condition] }

def offerEffects (update : (Offer → Offer) → B → B) : Rule (NodeOf B) :=
  effectRule fun effect => NodeOf.updateBody <| update fun offer =>
    { offer with effects := offer.effects ++ [effect] }

end Rules

def named (name title : String) (header : Header) : Header :=
  { header with name := name, title := title }

def orElse (text fallback : String) : String :=
  if text = "" then fallback else text

end TaggedStory.Mark
