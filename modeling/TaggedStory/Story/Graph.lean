import TaggedStory.Story.NodeRecord
import TaggedStory.Story.Variable
/-!
A whole story: its nodes, its variable table, the start and what an import had to say about them.
-/
set_option autoImplicit false

namespace TaggedStory

/-- What an import skipped, cut or could not read. Labels of unreadable nodes are usually texts. -/
structure Diagnostics where
  skipped : List String := []
  cyclicBypassCount : Int := 0
  unparsedTags : Int := 0
  invalid : List Json := []
  offset : Position := {}

namespace Diagnostics

def labels : Codec (List Json) where
  read value := (Record.text.list.read value).map fun labels => labels.map .str
  write values := .arr (Json.finiteItems values)
  brief values := .arr (Json.finiteItems values)

def schema : Schema Diagnostics :=
  .closed {} [
    .of "skippedEntityIds" "skipped_entity_ids" Record.text.list skipped
      fun x r => { r with skipped := x },
    .of "cyclicBypassCount" "cyclic_bypass_count" Record.integer cyclicBypassCount
      fun x r => { r with cyclicBypassCount := x },
    .of "unparsedTags" "unparsed_tags" Record.integer unparsedTags
      fun x r => { r with unparsedTags := x },
    .of "invalidNodes" "invalid_nodes" labels invalid fun x r => { r with invalid := x },
    .of "positionOffset" "position_offset" Position.codec offset
      fun x r => { r with offset := x }]

end Diagnostics

def defaultVersion : String := "1.0"

structure Graph where
  nodes : List Node := []
  table : List Variable := []
  supplemental : List Variable := []
  start : Option String := none
  version : String := defaultVersion
  diagnostics : Diagnostics := {}

namespace Graph

def variableList : Codec (List Variable) := Variable.schema.codec.list

def schema : Schema Graph :=
  .closed {} [
    .of "nodes" "nodes" Node.codec.list nodes fun x r => { r with nodes := x },
    .of "variables" "variables" variableList table fun x r => { r with table := x },
    .of "supplementalVariables" "supplemental_variables" variableList supplemental
      fun x r => { r with supplemental := x },
    .of "startNodeId" "start_node_id" Record.optionalText start fun x r => { r with start := x },
    .of "version" "version" Record.text version fun x r => { r with version := x },
    .of "diagnostics" "diagnostics" Diagnostics.schema.codec diagnostics
      fun x r => { r with diagnostics := x }]

def nodesOf (kind : Kind) (graph : Graph) : List Node :=
  graph.nodes.filter fun node => node.kind = kind

def find? (id : String) (graph : Graph) : Option Node :=
  graph.nodes.find? fun node => node.id = id

def isStart (node : Node) (graph : Graph) : Bool :=
  graph.start == some node.id

/-- The start, if one is set and it is no empty name. -/
def startName (graph : Graph) : String :=
  graph.start.getD ""

/-- The version to write: an empty one gives way to the current one. -/
def writtenVersion (graph : Graph) : String :=
  if graph.version = "" then defaultVersion else graph.version

end Graph

end TaggedStory
