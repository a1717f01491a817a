import TaggedStory.Document.Interchange.Export
import TaggedStory.Document.StoryData
/-!
Documents of an editor with nodes and edges. The edges alone say which node follows which.
-/
set_option autoImplicit false

namespace TaggedStory.VisualGraph

def formatName : String := "visual-graph"

def typeOf : Kind → String
  | .video => "videoNode"
  | .choice => "optionNode"
  | .card => "cardNode"
  | .bgm => "bgmNode"
  | .jump => "jumpNode"
  | .task => "taskNode"
  | .tip => "tipNode"

/-- Choices are also known by the name of their kind. -/
def kindOf? (type : String) : Option Kind :=
  if type = "choiceNode" then some .choice else Kind.all.find? fun kind => typeOf kind = type

def isList : Option Json → Bool
  | some (.arr _) => true
  | _ => false

def isVisualGraph (document : Json) : Bool :=
  isList (document.field? "nodes") && isList (document.field? "edges")

def writeNode (node : Node) : Json :=
  let data : Json.Fields := match node.write with
    | .obj entries => Json.without "position" (Json.without "kind" entries)
    | _ => []
  .obj [
    ("id", .str node.id),
    ("type", .str (typeOf node.kind)),
    ("position",
      .obj [("x", .float node.header.position.x), ("y", .float node.header.position.y)]),
    ("data", .obj data)]

def writeEdges (source : String) (index : Nat) : List String → List Json
  | [] => []
  | target :: rest =>
    .obj [
      ("id", .str (Interchange.edgeId source index)),
      ("source", .str source),
      ("target", .str target),
      ("type", .str "smooth"),
      ("animated", .bool false)] :: writeEdges source (index + 1) rest

def write (graph : Graph) : Json :=
  .obj [
    ("nodes", .arr (graph.nodes.map writeNode)),
    ("edges", .arr (graph.nodes.flatMap fun node => writeEdges node.id 0 node.next)),
    ("variables", VariableTable.write graph.table),
    ("startNodeId", graph.start.elim .null .str),
    ("version", .str graph.writtenVersion)]

/-- The ends of an edge that has both. -/
def edge? : Json → Option (String × String)
  | .obj entries =>
    let source := Json.get "source" entries
    let target := Json.get "target" entries
    if source.isTrue && target.isTrue then some (source.text, target.text) else none
  | _ => none

/-- The targets of the edges that leave a node, each once. -/
def successors (edges : List (String × String)) (id : String) : List String :=
  ((edges.filter fun edge => edge.1 = id).map (·.2)).eraseDups

/-- A type that is a list or an object cannot be looked up at all. -/
def kindIn? (entries : Json.Fields) : Attempt (Option Kind) :=
  match Json.get "type" entries with
  | .str type => .ok (kindOf? type)
  | .arr _ => .error .wrongShape
  | .obj _ => .error .wrongShape
  | _ => .ok none

def labelOf (raw : Json) (index : Nat) : Json :=
  .str (((raw.field? "id").getD .null).orElse (StoryData.placeLabel "nodes" index)).text

def dataOf (entries : Json.Fields) : Json.Fields :=
  match Json.get "data" entries with
  | .obj data => data
  | _ => []

def idOf (entries data : Json.Fields) : String :=
  ((Json.get "id" entries).orElse ((Json.get "nodeId" data).orElse (.str ""))).text

/-- The record of a node; its outer fields win over those of its data. -/
def recordFields (kind : Kind) (edges : List (String × String)) (entries : Json.Fields) :
    Json.Fields :=
  let data := dataOf entries
  let id := idOf entries data
  let position :=
    (Json.get "position" entries).orElse ((Json.get "position" data).orElse (.obj []))
  let named := Json.put "kind" (.str kind.word) (Json.put "nodeId" (.str id) data)
  Json.put "nextNodeIds" (Json.ofTexts (successors edges id)) (Json.put "position" position named)

def addNode (edges : List (String × String)) (index : Nat) (state : StoryData.Loaded)
    (raw : Json) : Attempt StoryData.Loaded :=
  let dropped : StoryData.Loaded := { state with invalid := state.invalid ++ [labelOf raw index] }
  match raw with
  | .obj entries => do
    match ← kindIn? entries with
    | none => return dropped
    | some kind =>
      match Node.readAs kind (.obj (recordFields kind edges entries)) with
      | .ok node => return { state with nodes := state.nodes ++ [node] }
      | .error (.invalid _) => return dropped
      | .error fault => throw fault
  | _ => .ok dropped

def addNodes (edges : List (String × String)) :
    Nat → StoryData.Loaded → List Json → Attempt StoryData.Loaded
  | _, state, [] => .ok state
  | index, state, raw :: rest => do
    let state ← addNode edges index state raw
    addNodes edges (index + 1) state rest

def malformed {α : Type} (fields : List String) (detail : Option String) : Attempt α :=
  .error (.malformed ⟨fields, formatName, detail⟩)

def itemsOf : Json → List Json
  | .arr items => items
  | _ => []

def load : Json → Attempt Graph
  | .obj entries => do
    let missing := ["nodes", "edges"].filter fun name => !isList (Json.lookup? name entries)
    if !missing.isEmpty then malformed missing none
    let edges := (itemsOf (Json.get "edges" entries)).filterMap edge?
    let loaded ← addNodes edges 0 {} (itemsOf (Json.get "nodes" entries))
    let table ← StoryData.tableIn "variables" entries
    let start ← StoryData.startOf entries
    return {
      nodes := loaded.nodes
      table := table
      start := start
      version := StoryData.versionOf entries
      diagnostics := { invalid := loaded.invalid } }
  | _ => malformed ["nodes", "edges"] (some "document is not an object")

end TaggedStory.VisualGraph
