import TaggedStory.Node.Video
import TaggedStory.Node.Choice
import TaggedStory.Node.Card
import TaggedStory.Node.Bgm
import TaggedStory.Node.Jump
import TaggedStory.Node.Task
import TaggedStory.Node.Tip
import TaggedStory.Text.Width
/-!
Nodes as tag text, in both directions, and the marks that decide a node's kind.
-/
set_option autoImplicit false

namespace TaggedStory

open Text Tag

def textEntity : String := "core:text_node"
def imageEntity : String := "core:image_node"

namespace Kind

/-- Marks that decide alone, the strongest first. -/
def marks : List (String × Kind) :=
  [(Mark.tipWord, .tip), (Mark.cardWord, .card), (Mark.jumpWord, .jump), (Mark.bgmWord, .bgm)]

def choiceMarks : List String :=
  [Mark.choiceWord, Mark.hiddenChoiceWord, "[叠加图片选项"]

def ofMarks (text : List Char) : Kind :=
  match marks.find? fun mark => occurs mark.1.toList text with
  | some mark => mark.2
  | none =>
    if (Task.taskCount.first? text).isSome then .task
    else if choiceMarks.any fun mark => occurs mark.toList text then .choice
    else .video

/-- An image is always a video. -/
def classify (text entity : String) : Kind :=
  if entity = imageEntity then .video else ofMarks text.toList

end Kind

namespace Node

/-- A node, the text that no rule took, and how many tags are in it. -/
structure Parsed where
  node : Node
  remainder : List Char
  leftover : Nat

variable {B : Type}

def parseWith (rules : List (Rule (NodeOf B))) (finish : List Char → NodeOf B → NodeOf B)
    (wrap : B → Body) (start : NodeOf B) (text : List Char) : Attempt Parsed :=
  (Rule.applyAll rules (text, start)).map fun state =>
    { node := (finish state.1 state.2).mapBody wrap
      remainder := state.1
      leftover := Tag.count state.1 }

def parseAs (kind : Kind) (text : String) (header : Header) : Attempt Parsed :=
  let chars := text.toList
  match kind with
  | .video => parseWith Video.rules Video.finish .video ⟨header, {}⟩ chars
  | .choice => parseWith Choice.rules Choice.finish .choice ⟨header, {}⟩ chars
  | .card => parseWith Card.rules Card.finish .card ⟨header, {}⟩ chars
  | .bgm => parseWith Bgm.rules Bgm.finish .bgm ⟨header, {}⟩ chars
  | .jump => parseWith Jump.rules Jump.finish .jump ⟨header, {}⟩ chars
  | .task => parseWith Task.rules Task.finish .task ⟨header, {}⟩ chars
  | .tip => parseWith Tip.rules (fun _ => Tip.finish) .tip ⟨header, {}⟩ chars

/-- Parses a text after narrowing it; without a kind the marks decide. -/
def parse (text : String) (kind : Option Kind) (entity : String) (header : Header) :
    Attempt Node :=
  let narrowed := narrowed text
  (parseAs (kind.getD (Kind.classify narrowed entity)) narrowed header).map Parsed.node

def ruleNames : Kind → List String
  | .video => Video.rules.map Rule.name
  | .choice => Choice.rules.map Rule.name
  | .card => Card.rules.map Rule.name
  | .bgm => Bgm.rules.map Rule.name
  | .jump => Jump.rules.map Rule.name
  | .task => Task.rules.map Rule.name
  | .tip => Tip.rules.map Rule.name

def text (node : Node) (isStart : Bool) : Attempt String :=
  match node.body with
  | .video body => Video.text ⟨node.header, body⟩ isStart
  | .choice body => .ok body.tagText
  | .card body => .ok body.tagText
  | .bgm body => .ok body.tagText
  | .jump body => .ok body.tagText
  | .task body => .ok (Task.tagText ⟨node.header, body⟩)
  | .tip body => .ok body.tagText

end Node

/-- The last part of a path; parts that are empty or a single point do not count. -/
def fileName (path : List Char) : List Char :=
  let parts := (splitOn '/' path).filter fun part => !(part.isEmpty || part == ['.'])
  parts.getLast?.getD []

/-- A name without what follows its last point, unless nothing would be left on one side. -/
def fileStem (name : List Char) : List Char :=
  let ending := name.reverse.takeWhile (· ≠ '.')
  let front := (name.reverse.dropWhile (· ≠ '.')).drop 1
  if front.isEmpty || ending.isEmpty then name else front.reverse

/-- The video that shows an image, named after the file. -/
def Node.ofImage (path : String) (header : Header) : Node :=
  let place := path.toList.map fun c => if c = '\\' then '/' else c
  let name := String.ofList (fileStem (fileName place))
  let video : Video := { clipPath := "", imagePath := path, displayType := 1 }
  (Video.finish [] ⟨Mark.named name name header, video⟩).mapBody .video

end TaggedStory
