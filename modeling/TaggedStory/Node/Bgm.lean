import TaggedStory.Node.Mark
/-!
The text of background music.
-/
set_option autoImplicit false

namespace TaggedStory.Bgm

open Decimal Text Tag Mark

def volumeAmount : Scanner (List Char) := do
  Scanner.word "<S:BGM音量"
  Scanner.blanks
  char '='
  Scanner.blanks
  let amount ← Scanner.many1 fun c => isDigit c || c == '.'
  char '>'
  return amount

def fullVolume : Number := .real (Double.ofInt 1)

def rules : List (Rule (NodeOf Bgm)) := [
  .drop "ad" ad,
  .drop "start" (Scanner.word startWord),
  .drop "bgm" (Scanner.word bgmWord),
  .first "volume" volumeAmount fun node amount => (numberFrom amount fullVolume).map fun volume =>
    some (node.updateBody fun bgm => { bgm with volume := volume })]

def finish (remainder : List Char) (node : NodeOf Bgm) : NodeOf Bgm :=
  let cleaned := String.ofList (clean remainder)
  let name := orElse cleaned "BGM"
  { header := named name name node.header, body := { node.body with audioFile := cleaned } }

def tagText (bgm : Bgm) : String :=
  let volume :=
    if bgm.volume.same fullVolume then "" else "<S:BGM音量=" ++ bgm.volume.text ++ ">"
  bgmWord ++ volume ++ bgm.audioFile

end TaggedStory.Bgm
