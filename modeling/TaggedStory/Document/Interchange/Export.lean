import TaggedStory.Document.Interchange.Content
import TaggedStory.Document.VariableTable
import TaggedStory.Story.Graph
/-!
Writing a graph as an interchange document: an entity for each node, a link for each successor.
-/
set_option autoImplicit false

namespace TaggedStory.Interchange

open Decimal

def documentVersion : Int := 17

def colorOf (parts : List Int) : Json :=
  .arr (parts.map .int)

def noColor : Json := colorOf [0, 0, 0, 0]
def optionColor : Json := colorOf [168, 85, 247, 1]
def jumpColor : Json := colorOf [22, 254, 250, 1]
def checkpointColor : Json := colorOf [22, 163, 74, 1]
def deathColor : Json := colorOf [239, 68, 68, 1]

/-- Whether an unmodelled field of this name is set. -/
def hasExtra (name : String) (node : Node) : Bool :=
  (Json.get name node.header.extras).isTrue

def markColor (isCheckpoint isDeadpoint : Bool) : Json :=
  if isCheckpoint then checkpointColor else if isDeadpoint then deathColor else noColor

/-- Kinds without a checkpoint or death mark of their own go by an unmodelled field of the name. -/
def entityColor (node : Node) : Json :=
  match node.body with
  | .choice _ | .card _ => optionColor
  | .bgm _ => noColor
  | .jump _ => jumpColor
  | .video video => markColor video.isCheckpoint video.isDeadpoint
  | .task task => markColor task.isCheckpoint (hasExtra "is_deadpoint" node)
  | .tip _ => markColor (hasExtra "is_checkpoint" node) (hasExtra "is_deadpoint" node)

/-- The path of the image that a video shows in the place of its clip. -/
def imageOf? (node : Node) : Option String :=
  match node.body with
  | .video video =>
    if video.displayType = 1 ∧ video.imagePath ≠ "" then some video.imagePath else none
  | _ => none

def entityFields (node : Node) (type text : String) : Json.Fields := [
  ("location", .arr [.float node.header.position.y, .float node.header.position.x]),
  ("size", .arr [.int 200, .int 76]),
  ("text", .str text),
  ("uuid", .str node.id),
  ("details", .str ""),
  ("color", entityColor node),
  ("type", .str type),
  ("sizeAdjust", .str "auto")]

def writeEntity (isStart : Bool) (node : Node) : Attempt Json :=
  (node.text isStart).map fun text =>
    match imageOf? node with
    | some path => .obj (entityFields node imageEntity "" ++ [("path", .str path)])
    | none => .obj (entityFields node textEntity text)

def writeEntities (graph : Graph) : List Node → Attempt (List Json)
  | [] => .ok []
  | node :: rest => do
    let entity ← writeEntity (graph.isStart node) node
    let others ← writeEntities graph rest
    return entity :: others

/-- Both coordinates in the middle. -/
def middle : Json :=
  let half := Double.ofDecimal false 5 (-1)
  .arr [.float half, .float half]

def edgeId (source : String) (index : Nat) : String :=
  "edge_" ++ source ++ "_" ++ String.ofList (natText index)

def writeLinks (source : String) (index : Nat) : List String → List Json
  | [] => []
  | target :: rest =>
    .obj [
      ("source", .str source),
      ("target", .str target),
      ("text", .str ""),
      ("uuid", .str (edgeId source index)),
      ("type", .str lineEdge),
      ("color", noColor),
      ("sourceRectRate", middle),
      ("targetRectRate", middle)] ::
      writeLinks source (index + 1) rest

def write (graph : Graph) : Attempt Json :=
  (writeEntities graph graph.nodes).map fun entities =>
    let links := graph.nodes.flatMap fun node => writeLinks node.id 0 node.next
    let head : Json.Fields := [
      ("version", .int documentVersion),
      ("entities", .arr entities),
      ("associations", .arr links),
      ("tags", .arr [])]
    if graph.table.isEmpty then .obj head
    else .obj (head ++ [("variables", VariableTable.write graph.table)])

end TaggedStory.Interchange
