import TaggedStory.Story.Condition
import TaggedStory.Story.Effect
import TaggedStory.Story.Position
/-!
Nodes of a story: a header that all share and a body of one of seven kinds. Choices and cards also
share what makes an option available and what it costs.
-/
set_option autoImplicit false

namespace TaggedStory

open Decimal

inductive Kind where
  | video
  | choice
  | card
  | bgm
  | jump
  | task
  | tip
deriving DecidableEq, Repr

namespace Kind

def all : List Kind := [video, choice, card, bgm, jump, task, tip]

def word : Kind → String
  | video => "video"
  | choice => "choice"
  | card => "card"
  | bgm => "bgm"
  | jump => "jump"
  | task => "task"
  | tip => "tip"

def ofWord? (word : String) : Option Kind :=
  all.find? fun kind => kind.word = word

end Kind

structure Header where
  id : String := ""
  name : String := ""
  title : String := ""
  next : List String := []
  isActive : Bool := true
  position : Position := {}
  extras : Json.Fields := []

def fallbackVideo : String := "Assets/Resources/Video/FallBackVideo.mp4"

structure Video where
  clipPath : String := fallbackVideo
  imagePath : String := ""
  displayType : Int := 0
  thumbnailPath : String := ""
  autoPlayNext : Bool := false
  loop : Bool := false
  volume : Double := Double.ofInt 1
  waitForSubtitles : Bool := true
  canSkipSubtitles : Bool := true
  subtitles : Json.Fields := [("subtitles", .arr [])]
  duration : Double := Double.ofInt (-1)
  description : String := ""
  showWhenUnavailable : Bool := true
  conditions : List Condition := []
  effects : List Effect := []
  rates : List Rate := []
  isCheckpoint : Bool := false
  isEndpoint : Bool := false
  isDeadpoint : Bool := false
  isBlackScreen : Bool := false
  isReset : Bool := false
  isMemory : Bool := false
  memoryId : String := ""
  memoryName : String := ""
  memoryDescription : String := ""
  isDialog : Bool := false
  dialogText : String := ""
  dialogSpeaker : String := ""
  typingSpeed : Double := Double.ofDecimal false 5 (-2)
  dialogAudioPath : String := ""
  unlockAchievement : Bool := false
  achievementName : String := ""
  analyticsKey : String := ""
  isRandom : Bool := false
  probabilityExpression : String := ""
  hasRandomTime : Bool := false
  randomTimeMin : Number := .real .zero
  randomTimeMax : Number := .real .zero
  showVariableBar : Bool := false
  variableBarName : String := ""
  variableBarDefault : String := "0"
  variableBarColor : String := "#ffffff"
  variableBarPosition : String := "上"
  isJumpPoint : Bool := false
  jumpPointId : String := ""
  jumpPointDescription : String := ""
  isShowcase : Bool := false
  showcaseProducts : List String := []
  showcaseDuration : Double := Double.ofInt 10
  showcaseAutoHide : Bool := true
  showcasePosition : Position := ⟨Double.ofDecimal false 1 (-1), Double.ofDecimal false 9 (-1)⟩
  showcaseSize : Position := ⟨Double.ofDecimal false 3 (-1), Double.ofDecimal false 2 (-1)⟩
  showcaseOnlyUnpurchased : Bool := true
  showcaseHidePurchased : Bool := true
  showcaseScroll : Bool := true
  maxOverrides : List Override := []
  minOverrides : List Override := []

/-- What choices and cards have in common. -/
structure Offer where
  conditions : List Condition := []
  effects : List Effect := []
  requireAd : Bool := false
  adType : String := ""
  isOverlay : Bool := false
  overlayImage : String := ""
  isClickable : Bool := true
  tier : Int := 0
  showWhenUnavailable : Bool := true
  unavailableMessage : String := ""
  unlockAchievement : Bool := false
  achievementName : String := ""
  isDeadpoint : Bool := false
  preDisplay : Bool := false
  animationDuration : Double := Double.ofDecimal false 5 (-1)
  description : String := ""

structure Choice where
  offer : Offer := {}
  text : String := ""
  isProbability : Bool := false
  probability : Number := .real .zero
  maxCount : Int := 0
  probabilityExpression : String := ""
  groupId : String := ""
  dynamicText : String := ""

structure Card where
  offer : Offer := {}
  name : String := ""
  sizeX : Double := Double.ofInt 1
  sizeY : Double := Double.ofInt 1
  isCheckpoint : Bool := false

structure Bgm where
  audioFile : String := ""
  volume : Number := .real (Double.ofInt 1)
  isCheckpoint : Bool := false

structure Jump where
  point : String := ""
  description : String := ""
  isPointActive : Bool := false
  isDeadpoint : Bool := false
  isReset : Bool := false
  isCheckpoint : Bool := false

structure Task where
  maxDisplayCount : Int := 0
  tasks : List Json.Fields := []
  isCheckpoint : Bool := false

structure Tip where
  text : String := ""
  requireAd : Bool := false
  adType : String := ""
  isReset : Bool := false

inductive Body where
  | video (video : Video)
  | choice (choice : Choice)
  | card (card : Card)
  | bgm (bgm : Bgm)
  | jump (jump : Jump)
  | task (task : Task)
  | tip (tip : Tip)

def Body.kind : Body → Kind
  | video _ => .video
  | choice _ => .choice
  | card _ => .card
  | bgm _ => .bgm
  | jump _ => .jump
  | task _ => .task
  | tip _ => .tip

/-- A header together with a body of a known kind. -/
structure NodeOf (B : Type) where
  header : Header := {}
  body : B

abbrev Node := NodeOf Body

namespace NodeOf

variable {B C : Type}

def mapHeader (change : Header → Header) (node : NodeOf B) : NodeOf B :=
  { node with header := change node.header }

def mapBody (change : B → C) (node : NodeOf B) : NodeOf C :=
  ⟨node.header, change node.body⟩

def updateBody (change : B → B) (node : NodeOf B) : NodeOf B :=
  { node with body := change node.body }

end NodeOf

namespace Node

def kind (node : Node) : Kind := node.body.kind

def id (node : Node) : String := node.header.id

def next (node : Node) : List String := node.header.next

def withNext (next : List String) (node : Node) : Node :=
  node.mapHeader fun header => { header with next := next }

end Node

end TaggedStory
