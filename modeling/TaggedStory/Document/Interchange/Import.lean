import TaggedStory.Document.Interchange.Content
import TaggedStory.Document.VariableTable
import TaggedStory.Catalog.Collector
import TaggedStory.Catalog.Merge
import TaggedStory.Link.Resolver
import TaggedStory.Story.AutoPlay
/-!
The graph of an interchange document: a node for each entity that takes part, its successors through
the entities that do not, and the variable table, completed from the texts.
-/
set_option autoImplicit false

namespace TaggedStory.Interchange

open Text

/-- What the nodes read so far come to. -/
structure Import where
  nodes : List Node
  collector : Collector
  unparsedTags : Nat

def successorsOf (successors : List (String × List String)) (id : String) : List String :=
  ((successors.find? fun entry => entry.1 = id).map (·.2)).getD []

def headerOf (entity : Entity) (position : Position) : Header :=
  { id := entity.uuid, position := position }

/-- The node of one entity, added to those before it. -/
def addNode (placement : Placement) (successors : List (String × List String)) (state : Import)
    (entity : Entity) : Attempt Import := do
  let position ← placement.apply (.arr entity.location)
  let next := successorsOf successors entity.uuid
  let header := headerOf entity position
  if entity.isImage then
    let node := Node.ofImage entity.imagePath header
    return { state with nodes := state.nodes ++ [node.withNext next] }
  else
    let text := narrowed entity.text
    let parsed ← Node.parseAs (Kind.classify text entity.type) text header
    let collector ← state.collector.add text.toList (some parsed.node)
    return {
      nodes := state.nodes ++ [parsed.node.withNext next]
      collector := collector
      unparsedTags := state.unparsedTags + parsed.leftover }

/-- The table of a document stands in it directly or under `data`. -/
def tableIn (entries : Json.Fields) : Json :=
  match (Json.get "variables" entries).orElse (.arr []) with
  | .obj table => (Json.get "data" table).orElse (.arr [])
  | value => value

def templateTable (explicit : List Variable) (template : Attempt Json) : Attempt (List Variable) :=
  if explicit.isEmpty then template >>= VariableTable.read else .ok []

/-- Reads a document. The template is the variable table for documents that have none. -/
def load (document : Json) (template : Attempt Json) : Attempt Graph := do
  let content ← readContent document
  let entities := content.entities
  let placement ← placement entities
  let (successors, memory) := (network content).resolveAll {}
  let imported ← (retained entities).foldlM (addNode placement successors) ⟨[], {}, 0⟩
  let entries := match document with
    | .obj entries => entries
    | _ => []
  let explicit ← VariableTable.read (tableIn entries)
  let template ← templateTable explicit template
  let (table, supplemental) :=
    Catalog.merge explicit imported.collector.toVariables template
  let leftOut := skipped entities
  return Graph.settleAutoPlay {
    nodes := imported.nodes
    table := table
    supplemental := supplemental
    start := start? entities
    diagnostics := {
      skipped := (entities.map (·.uuid)).filter leftOut.contains
      cyclicBypassCount := memory.cyclicBypassCount
      unparsedTags := imported.unparsedTags
      offset := .finite placement.offsetX placement.offsetY } }

end TaggedStory.Interchange
