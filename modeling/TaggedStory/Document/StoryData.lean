import TaggedStory.Document.VariableTable
import TaggedStory.Story.Graph
/-!
Documents with one list of nodes for each kind. Effects number their operation there. A node that
cannot be read is left out and named in the diagnostics.
-/
set_option autoImplicit false

namespace TaggedStory.StoryData

def formatName : String := "story-data"

def listName : Kind → String
  | .video => "videoNodes"
  | .choice => "choiceNodes"
  | .bgm => "bgmNodes"
  | .card => "cardNodes"
  | .jump => "jumpNodes"
  | .task => "taskNodes"
  | .tip => "tipNodes"

/-- The kinds in the order of their lists. -/
def kinds : List Kind := [.video, .choice, .bgm, .card, .jump, .task, .tip]

/-- The name of the list of choices in older documents. -/
def olderChoiceList : String := "optionNodes"

/-- Every list of nodes with the kind that it holds. -/
def sources : List (Kind × String) :=
  kinds.map (fun kind => (kind, listName kind)) ++ [(.choice, olderChoiceList)]

def isStoryData : Json → Bool
  | .obj entries => sources.any fun source => Json.has source.2 entries
  | _ => false

def malformed {α : Type} (fields : List String) (detail : String) : Attempt α :=
  .error (.malformed ⟨fields, formatName, some detail⟩)

/-- The items of a list, if it is there; something else in its place is refused. -/
def listIn? (entries : Json.Fields) (name : String) : Except String (Option (List Json)) :=
  match Json.lookup? name entries with
  | none => .ok none
  | some .null => .ok none
  | some (.arr items) => .ok (some items)
  | some _ => .error name

def lists (entries : Json.Fields) : Attempt (List (Kind × String × List Json)) :=
  let found := sources.map fun source => (source, listIn? entries source.2)
  let refused := found.filterMap fun entry =>
    match entry.2 with
    | .error name => some name
    | .ok _ => none
  let present := found.filterMap fun entry =>
    match entry.2 with
    | .ok (some items) => some (entry.1.1, entry.1.2, items)
    | _ => none
  if !refused.isEmpty then malformed refused "node arrays must be lists"
  else if present.isEmpty then malformed (kinds.map listName) "no node arrays"
  else .ok present

/-- The nodes read so far and the labels of those that cannot be read. -/
structure Loaded where
  nodes : List Node := []
  invalid : List Json := []

def placeLabel (list : String) (index : Nat) : Json :=
  .str (list ++ "[" ++ String.ofList (Decimal.natText index) ++ "]")

def labelOf (raw : Json) (fallback : Json) : Json :=
  ((raw.field? "nodeId").getD .null).orElse fallback

/-- An unreadable node is recorded; a fault that is no issue of the record stops the reading. -/
def addNode (kind : Kind) (list : String) (index : Nat) (state : Loaded) (raw : Json) :
    Attempt Loaded :=
  let dropped : Loaded :=
    { state with invalid := state.invalid ++ [labelOf raw (placeLabel list index)] }
  match raw with
  | .obj entries =>
    match Node.readAs kind (.obj (Json.put "kind" (.str kind.word) entries)) with
    | .ok node => .ok { state with nodes := state.nodes ++ [node] }
    | .error (.invalid _) => .ok dropped
    | .error fault => .error fault
  | _ => .ok dropped

def addNodes (kind : Kind) (list : String) : Nat → Loaded → List Json → Attempt Loaded
  | _, state, [] => .ok state
  | index, state, raw :: rest => do
    let state ← addNode kind list index state raw
    addNodes kind list (index + 1) state rest

/-- A start that is set has to be a text. -/
def startOf (entries : Json.Fields) : Attempt (Option String) :=
  let value := Json.get "startNodeId" entries
  if value.isTrue then Attempt.within "start_node_id" ((Record.readText value).map some)
  else .ok none

def versionOf (entries : Json.Fields) : String :=
  ((Json.get "version" entries).orElse (.str defaultVersion)).text

def tableIn (name : String) (entries : Json.Fields) : Attempt (List Variable) :=
  VariableTable.read ((Json.get name entries).orElse (.arr []))

def load : Json → Attempt Graph
  | .obj entries => do
    let lists ← lists entries
    let loaded ← lists.foldlM (fun state list => addNodes list.1 list.2.1 0 state list.2.2) {}
    let table ← tableIn "variables" entries
    let supplemental ← tableIn "supplementalVariables" entries
    let start ← startOf entries
    return {
      nodes := loaded.nodes
      table := table
      supplemental := supplemental
      start := start
      version := versionOf entries
      diagnostics := { invalid := loaded.invalid } }
  | _ => malformed (kinds.map listName) "document is not an object"

/-- An effect of a written record, with the number of its operation. -/
def numberEffect : Json → Attempt Json
  | .obj entries =>
    match Json.lookup? "operation" entries with
    | some token => (Operation.ofToken token).map fun operation =>
      .obj (Json.put "operation" (.int operation.number) entries)
    | none => .error .missingKey
  | _ => .error .wrongShape

def numberEffects : List Json → Attempt (List Json)
  | [] => .ok []
  | effect :: rest => do
    let effect ← numberEffect effect
    let others ← numberEffects rest
    return effect :: others

/-- The effects of a written record; an unmodelled field of this name has to be one of effects
too. -/
def numberField : Json → Attempt Json
  | .arr effects => (numberEffects effects).map .arr
  | .str text => if text = "" then .ok (.arr []) else .error .wrongShape
  | .obj entries => if entries.isEmpty then .ok (.arr []) else .error .wrongShape
  | _ => .error .wrongShape

def writeNode (node : Node) : Attempt Json :=
  let entries : Json.Fields := match node.write with
    | .obj entries => Json.without "kind" entries
    | _ => []
  match Json.lookup? "effects" entries with
  | some effects =>
    (numberField effects).map fun effects => .obj (Json.put "effects" effects entries)
  | none => .ok (.obj entries)

def writeNodes : List Node → Attempt (List (Kind × Json))
  | [] => .ok []
  | node :: rest => do
    let record ← writeNode node
    let others ← writeNodes rest
    return (node.kind, record) :: others

def write (graph : Graph) : Attempt Json :=
  (writeNodes graph.nodes).map fun records =>
    let lists : Json.Fields := kinds.map fun kind =>
      (listName kind, .arr ((records.filter fun record => record.1 = kind).map (·.2)))
    let supplemental : Json.Fields :=
      if graph.supplemental.isEmpty then []
      else [("supplementalVariables", VariableTable.write graph.supplemental)]
    .obj (lists ++ [("variables", VariableTable.write graph.table)] ++ supplemental ++
      [("startNodeId", .str graph.startName), ("version", .str graph.writtenVersion)])

end TaggedStory.StoryData
