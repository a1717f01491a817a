import TaggedStory.Node.Mark
/-!
The text of videos. The rules take their tags in a fixed order; what is left and is no tag becomes
the name.
-/
set_option autoImplicit false

namespace TaggedStory.Video

open Decimal Text Tag Mark

def startTitle : String := "起始节点"
def checkpointTitle : String := "检查点"
def checkpointLead : String := "检查点: "
def blackScreenWord : String := "黑屏视频"

def setCheckpoint (body : List Char) (node : NodeOf Video) : NodeOf Video :=
  let name := trimmedText body
  let title := checkpointLead ++ name
  { header := named name title node.header
    body := { node.body with isCheckpoint := true, description := title } }

def setPlainCheckpoint (node : NodeOf Video) : NodeOf Video :=
  { header := { node.header with title := checkpointTitle }
    body := { node.body with isCheckpoint := true } }

def randomTime : Scanner (List Char × List Char) := do
  Scanner.word "[随机时间事件"
  let _ ← Scanner.optional colon
  char '('
  let low ← digits
  char '-'
  let high ← digits
  Scanner.word ")]"
  return (low, high)

def setRandomTime (node : NodeOf Video) (bounds : List Char × List Char) :
    Attempt (Option (NodeOf Video)) := do
  let low ← numberFrom bounds.1 (.real .zero)
  let high ← numberFrom bounds.2 (.real .zero)
  return some (node.updateBody fun video =>
    { video with hasRandomTime := true, randomTimeMin := low, randomTimeMax := high })

def speaker : Scanner (List Char) := do
  char '('
  let name ← Scanner.many (· ≠ ')')
  char ')'
  return name

structure Dialog where
  speaker : List Char
  text : List Char
  audio : List Char

def isDialogText (c : Char) : Bool :=
  c ≠ ':' && c ≠ '：' && c ≠ ']'

def dialog : Scanner Dialog := do
  Scanner.word "[对话框"
  let name ← Scanner.optional speaker
  colon
  let text ← Scanner.many1 isDialogText
  colon
  let audio ← upTo ']'
  return ⟨name.getD [], text, audio⟩

def setDialog (dialog : Dialog) (video : Video) : Video :=
  { video with
    isDialog := true
    dialogSpeaker := trimmedText dialog.speaker
    dialogText := trimmedText dialog.text
    dialogAudioPath := trimmedText dialog.audio }

def endpoint : Scanner Unit :=
  Scanner.word "[结束节点]" <|> Scanner.word "[终点节点]"

def blackScreen : Scanner Unit := do
  Scanner.word "[黑屏视频"
  let _ ← Scanner.many (· ≠ ']')
  char ']'

def setBlackScreen (video : Video) : Video :=
  { video with isBlackScreen := true }

/-- The first random expression counts; later ones stay in the text. -/
def setRandom (node : NodeOf Video) (expression : List Char) : Option (NodeOf Video) :=
  if node.body.isRandom then none
  else
    some (node.updateBody fun video =>
      { video with isRandom := true, probabilityExpression := trimmedText expression })

/-- Percentages and comparisons in guillemets have other meanings, and a title has none. -/
def isRandomExpression (content : List Char) : Bool :=
  !content.contains '%' && !isCondition content && isLikelyCondition content

def isBarName (c : Char) : Bool :=
  c ≠ ':' && c ≠ '：' && c ≠ '#' && c ≠ ']'

def isHexDigit (c : Char) : Bool :=
  (Json.hexValue? c).isSome

def hexColor : Scanner (List Char) := fun text =>
  let body := text.take 6
  if body.length = 6 && body.all isHexDigit then some (body, text.drop 6) else none

structure Bar where
  name : List Char
  color : List Char
  position : Char

def variableBar : Scanner Bar := do
  char '['
  Scanner.blanks
  Scanner.word "变量条"
  Scanner.blanks
  colon
  let name ← Scanner.many1 isBarName
  colon
  Scanner.blanks
  let _ ← Scanner.optional (char '#')
  Scanner.blanks
  let color ← hexColor
  Scanner.blanks
  colon
  Scanner.blanks
  let position ← Scanner.one fun c => c == '上' || c == '下'
  Scanner.blanks
  char ']'
  return ⟨name, color, position⟩

def setVariableBar (bar : Bar) (video : Video) : Video :=
  { video with
    showVariableBar := true
    variableBarName := trimmedText bar.name
    variableBarColor := String.ofList ('#' :: bar.color)
    variableBarPosition := String.ofList [bar.position] }

def showcase : Scanner (List Char) := do
  Scanner.word "[带货节点"
  colon
  let products ← Scanner.many (· ≠ ']')
  char ']'
  return products

def productList (text : List Char) : List String :=
  (((splitOn ';' text).map trim).filter fun product => !product.isEmpty).map String.ofList

def setShowcase (body : List Char) (video : Video) : Video :=
  let products := trim body
  if products.isEmpty then { video with isShowcase := true }
  else { video with isShowcase := true, showcaseProducts := productList products }

structure Limit where
  isMax : Bool
  name : List Char
  value : List Char

def limitWord : Scanner Bool :=
  (do Scanner.word "最大默认值"; return true) <|> (do Scanner.word "最小默认值"; return false)

def isLimitName (c : Char) : Bool :=
  c ≠ ':' && c ≠ '：' && c ≠ '>'

def limit : Scanner Limit := do
  char '<'
  Scanner.blanks
  let isMax ← limitWord
  Scanner.blanks
  colon
  let name ← Scanner.many1 isLimitName
  colon
  let value ← upTo '>'
  return ⟨isMax, name, value⟩

def addLimit (limit : Limit) (video : Video) : Video :=
  let override : Override := ⟨trimmedText limit.name, trimmedText limit.value⟩
  if limit.isMax then { video with maxOverrides := video.maxOverrides ++ [override] }
  else { video with minOverrides := video.minOverrides ++ [override] }

def isRateName (c : Char) : Bool :=
  c ≠ '<' && c ≠ '>' && c ≠ '+' && c ≠ '-'

structure Change where
  name : List Char
  isFall : Bool
  amount : List Char

def rate : Scanner Change := do
  char '<'
  let name ← Scanner.many1 isRateName
  let sign ← Scanner.one fun c => c == '+' || c == '-'
  Scanner.blanks
  let amount ← decimal
  Scanner.blanks
  char '/'
  Scanner.blanks
  char 's'
  Scanner.blanks
  char '>'
  return ⟨name, sign == '-', amount⟩

def addRate (node : NodeOf Video) (change : Change) : Attempt (Option (NodeOf Video)) := do
  let amount ← numberFrom change.amount (.whole 0)
  let signed := if change.isFall then amount.neg else amount
  return some (node.updateBody fun video =>
    { video with rates := video.rates ++ [⟨trimmedText change.name, signed.toDouble⟩] })

def rules : List (Rule (NodeOf Video)) := [
  .drop "ad" ad,
  .literal "start" startWord (NodeOf.mapHeader fun header => { header with title := startTitle }),
  .set "checkpoint_named" (valued "[CP") setCheckpoint,
  .literal "checkpoint" "[CP]" setPlainCheckpoint,
  flagBody "loop" "[循环视频]" fun video => { video with loop := true },
  .first "random_time" randomTime setRandomTime,
  onBody "dialog" dialog setDialog,
  onBody "memory" (valued "[回忆节点") fun name video =>
    { video with isMemory := true, memoryName := trimmedText name },
  flagBody "death" deathWord fun video => { video with isDeadpoint := true },
  .setEvery "endpoint" endpoint fun _ => NodeOf.updateBody fun video =>
    { video with isEndpoint := true },
  onBody "black_screen" blackScreen fun _ => setBlackScreen,
  (flagBody "black_screen_text" blackScreenWord setBlackScreen).keeping,
  flagBody "reset_to_checkpoint" resetWord fun video => { video with isReset := true },
  onBody "jump_point" (valued "[跳转点") fun name video =>
    { video with isJumpPoint := true, jumpPointId := trimmedText name },
  flagBody "hidden" hiddenWord fun video => { video with showWhenUnavailable := false },
  .first "random_bracket" (valued "[随机") fun node body => .ok (setRandom node body),
  .every "random_probability" guillemet fun node content =>
    .ok (if isRandomExpression content then setRandom node content else none),
  onBody "achievement" achievement fun name video =>
    { video with unlockAchievement := true, achievementName := trimmedText name },
  onBody "analytics" (valued "[数据统计") fun key video =>
    { video with analyticsKey := trimmedText key },
  onBody "variable_bar" variableBar setVariableBar,
  onBody "showcase" showcase setShowcase,
  .setEvery "default_override" limit fun limit => NodeOf.updateBody (addLimit limit),
  .every "rate_effect" rate addRate,
  conditionRule fun condition => NodeOf.updateBody fun video =>
    { video with conditions := video.conditions ++ [condition] },
  effectRule fun effect => NodeOf.updateBody fun video =>
    { video with effects := video.effects ++ [effect] }]

def settleName (remainder : List Char) (header : Header) : Header :=
  let name := String.ofList (clean remainder)
  if name ≠ "" then { header with name := name }
  else { header with name := orElse header.name "视频节点" }

def finish (remainder : List Char) (node : NodeOf Video) : NodeOf Video :=
  node.mapHeader fun header =>
    let settled := settleName remainder header
    { settled with title := orElse settled.title settled.name }

/-- The whole number nearest to a bound. -/
def boundText (bound : Number) : Attempt String :=
  if bound.isZero then .ok "0"
  else
    match bound with
    | .whole value => .ok (String.ofList (intText value))
    | .real .nan => .error .noNumber
    | .real value =>
      match value.rounded? with
      | some n => .ok (String.ofList (intText n))
      | none => .error .tooLarge

def randomTimeTag (video : Video) : Attempt String :=
  if video.hasRandomTime then do
    let low ← boundText video.randomTimeMin
    let high ← boundText video.randomTimeMax
    return "[随机时间事件(" ++ low ++ "-" ++ high ++ ")]"
  else .ok ""

def checkpointTag (node : NodeOf Video) : String :=
  if !node.body.isCheckpoint then ""
  else
    match dropWord? checkpointLead.toList node.header.title.toList with
    | some name => "[CP:" ++ String.ofList name ++ "]"
    | none => "[CP]"

def dialogTag (video : Video) : String :=
  if video.isDialog && video.dialogText ≠ "" && video.dialogAudioPath ≠ "" then
    let speaker := if video.dialogSpeaker = "" then "" else "(" ++ video.dialogSpeaker ++ ")"
    "[对话框" ++ speaker ++ ":" ++ video.dialogText ++ ":" ++ video.dialogAudioPath ++ "]"
  else ""

def variableBarTag (video : Video) : String :=
  if video.showVariableBar && video.variableBarName ≠ "" then
    "[变量条:" ++ video.variableBarName ++ ":" ++ orElse video.variableBarColor "#ffffff" ++ ":" ++
      orElse video.variableBarPosition "上" ++ "]"
  else ""

def rateTag (rate : Rate) : String :=
  if rate.name = "" || rate.perSecond.isZero then ""
  else
    let sign := if Double.zero.lt rate.perSecond then "+" else "-"
    "<" ++ rate.name ++ " " ++ sign ++ (Number.real rate.perSecond.abs).text ++ "/s>"

def tagIf (condition : Bool) (tag : String) : String :=
  if condition then tag else ""

def tagsBefore (node : NodeOf Video) (isStart : Bool) : List String := [
  tagIf isStart startWord,
  checkpointTag node,
  tagIf node.body.loop "[循环视频]"]

def tagsAfter (node : NodeOf Video) : List String :=
  let video := node.body
  [ dialogTag video,
    tagIf (video.isMemory && video.memoryName ≠ "") ("[回忆节点:" ++ video.memoryName ++ "]"),
    tagIf video.isDeadpoint deathWord,
    tagIf video.isEndpoint "[结束节点]",
    tagIf (video.isBlackScreen && !occurs blackScreenWord.toList node.header.name.toList)
      "[黑屏视频节点]",
    tagIf video.isReset resetWord,
    tagIf (video.isJumpPoint && video.jumpPointId ≠ "") ("[跳转点:" ++ video.jumpPointId ++ "]"),
    tagIf (!video.showWhenUnavailable) hiddenWord,
    tagIf (video.isRandom && video.probabilityExpression ≠ "")
      (randomTag video.probabilityExpression),
    achievementTag video.unlockAchievement video.achievementName,
    tagIf (video.analyticsKey ≠ "") ("[数据统计:" ++ video.analyticsKey ++ "]"),
    variableBarTag video,
    tagIf video.isShowcase ("[带货节点:" ++ ";".intercalate video.showcaseProducts ++ "]")] ++
  video.minOverrides.map (fun limit => "<最小默认值:" ++ limit.name ++ ":" ++ limit.value ++ ">") ++
  video.maxOverrides.map (fun limit => "<最大默认值:" ++ limit.name ++ ":" ++ limit.value ++ ">") ++
  video.rates.map rateTag ++ video.conditions.map conditionTag ++ video.effects.map effectTag

def text (node : NodeOf Video) (isStart : Bool) : Attempt String :=
  (randomTimeTag node.body).map fun randomTime =>
    String.join (tagsBefore node isStart ++ randomTime :: tagsAfter node ++ [node.header.name])

end TaggedStory.Video
