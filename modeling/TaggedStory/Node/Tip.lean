import TaggedStory.Node.Mark
/-!
The text of tips. Everything after the mark belongs to the tip, apart from one advertisement mark
and one reset mark.
-/
set_option autoImplicit false

namespace TaggedStory.Tip

open Text Tag Mark

def body : Scanner (List Char) := do
  Scanner.word tipWord
  Scanner.many1 fun _ => true

def setBody (text : List Char) (tip : Tip) : Tip :=
  let (rest, mark) := takeAd text
  let marked :=
    if mark.isRequired then { tip with requireAd := true, adType := mark.adType } else tip
  if occurs resetWord.toList rest then
    { marked with isReset := true, text := trimmedText (removeFirst resetWord.toList rest) }
  else { marked with text := trimmedText rest }

def rules : List (Rule (NodeOf Tip)) := [
  onBody "tip" body setBody,
  onBody "ad" ad fun number tip => { tip with requireAd := true, adType := adTypeFor number },
  flagBody "reset_to_checkpoint" resetWord fun tip => { tip with isReset := true }]

def finish (node : NodeOf Tip) : NodeOf Tip :=
  let name := orElse node.body.text "提示"
  node.mapHeader (named name name)

def tagText (tip : Tip) : String :=
  tipWord ++ tip.text ++ adMarkText tip.requireAd tip.adType false ++
    (if tip.isReset then resetWord else "")

end TaggedStory.Tip
